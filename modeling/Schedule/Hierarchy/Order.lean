import Std.Data.HashMap

/-!
# Parents before children

Items that name their own id and their parent's id are put in an order where every parent comes
before its children. An item's parent is the first item carrying the parent id, unless that is
the item itself. Items without a parent are roots; each root is followed by its descendants,
depth first, siblings in input order or sorted stably by a given order. Items that no root
reaches, because their parents form a cycle, follow at the end in input order.

## Main definitions

* `Hierarchy.order` — the positions of the items in the order above.
-/

namespace Schedule.Hierarchy

/-- The parent position of each item: the first item with the parent id, if not the item. -/
def parentPositions {κ : Type} [BEq κ] [Hashable κ] (ids parents : Array (Option κ)) :
    Array (Option Nat) :=
  let first : Std.HashMap κ Nat := (List.range ids.size).foldl (fun m i =>
    match ids.getD i none with
    | some k => if m.contains k then m else m.insert k i
    | none => m) {}
  (Array.range parents.size).map fun i =>
    match parents.getD i none with
    | some k => match first.get? k with
      | some p => if p = i then none else some p
      | none => none
    | none => none

/-- The children of each position, in input order. -/
def childPositions (parent : Array (Option Nat)) : Array (List Nat) :=
  (List.range parent.size).reverse.foldl (fun acc j =>
    match parent.getD j none with
    | some p => acc.modify p (j :: ·)
    | none => acc) (Array.replicate parent.size [])

/-- Depth-first listing of positions and their descendants, `fuel` levels deep. -/
def preorder (children : Array (List Nat)) (arrange : List Nat → List Nat) :
    Nat → List Nat → List Nat
  | 0, _ => []
  | fuel + 1, nodes =>
    nodes.flatMap fun i => i :: preorder children arrange fuel (arrange (children.getD i []))

/-- The positions of items in an order where parents come before their children. Siblings keep
input order unless `before` is given, which sorts them stably. -/
def order {κ : Type} [BEq κ] [Hashable κ] (ids parents : Array (Option κ))
    (before : Option (Nat → Nat → Bool)) : List Nat :=
  let parent := parentPositions ids parents
  let children := childPositions parent
  let arrange (xs : List Nat) : List Nat :=
    match before with
    | some lt => xs.mergeSort fun a b => !lt b a
    | none => xs
  let roots := (List.range parent.size).filter fun i => (parent.getD i none).isNone
  let reached := preorder children arrange (parent.size + 1) (arrange roots)
  let seen := reached.foldl (fun acc i => acc.set! i true) (Array.replicate parent.size false)
  reached ++ (List.range parent.size).filter fun i => !seen.getD i false

end Schedule.Hierarchy
