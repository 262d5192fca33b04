import Std.Data.HashMap
import Schedule.Field.Order

/-!
# The outline of task records

Bars group the records of tasks, milestones and hammocks. Bars are sorted by their expanded task
and natural order, the other records (leaves) by natural order. An expanded task decorates the bar
it names: its fields are merged into the bar, a colliding name prefixed `_`. A bar whose expanded
task decorates another bar nests under that bar; a leaf nests under the bar it names. Of the bars
that nest nowhere, those with a blank name or named `Displaced Items` are dropped; when exactly
one remains it stands for the project itself, and its children become the roots.

Every record is placed at most once: the first path that reaches it wins, and bars that only
reach each other in a cycle are left out.

## Main definitions

* `RowTree` — a record with the records nested under it.
* `buildRowHierarchy` — the outline of bars, expanded tasks, tasks, milestones and hammocks.
-/

namespace Schedule

/-- A record with the records nested under it. -/
inductive RowTree where
  | node (row : Row) (children : List RowTree)
  deriving Inhabited

namespace RowTree

/-- The record at the top of a tree. -/
def row : RowTree → Row
  | node r _ => r

/-- The trees nested under the top record. -/
def children : RowTree → List RowTree
  | node _ cs => cs

end RowTree

/-- The name given to the bar that collects items moved out of their place. -/
def displacedItems : String := "Displaced Items"

/-- What a bar holds: another bar or a leaf, by position. -/
inductive OutlineChild where
  | bar (position : Nat)
  | leaf (position : Nat)
  deriving Inhabited

/-- What is still free while the outline is assembled. -/
structure Assembly where
  barTaken : Array Bool
  leafTaken : Array Bool
  children : Array (List OutlineChild)

/-- The tree of one child; a record already placed gives none. The fuel bounds the depth, and
every level of nesting takes a bar of its own. -/
def Assembly.tree (bars leaves : Array Row) :
    Nat → OutlineChild → Assembly → Option RowTree × Assembly
  | 0, _, s => (none, s)
  | _ + 1, .leaf i, s =>
    if s.leafTaken.getD i true then (none, s)
    else (some (.node (leaves.getD i default) []), { s with leafTaken := s.leafTaken.set! i true })
  | fuel + 1, .bar i, s =>
    if s.barTaken.getD i true then (none, s)
    else
      let nested := s.children.getD i []
      let s := { s with barTaken := s.barTaken.set! i true, children := s.children.set! i [] }
      let (kids, s) := nested.foldl (fun (acc : List RowTree × Assembly) c =>
        let (t, s) := Assembly.tree bars leaves fuel c acc.2
        match t with
        | some t => (t :: acc.1, s)
        | none => (acc.1, s)) ([], s)
      (some (.node (bars.getD i default) kids.reverse), s)

/-- An integer field of a record, read as an `Int` key. -/
def Row.key? (r : Row) (name : String) : Option Int := (r.integer? name).map (·.toInt)

/-- Notes the position of bar `i` under its id, replacing an earlier bar of the same id. -/
def noteBar (bars : Array Row) (m : Std.HashMap Int Nat) (i : Nat) : Std.HashMap Int Nat :=
  match (bars.getD i default).key? "BARID" with
  | some id => m.insert id i
  | none => m

/-- Positions of the bars by id; a later bar of the same id replaces an earlier one. -/
def barPositions (bars : Array Row) : Std.HashMap Int Nat :=
  (List.range bars.size).foldl (noteBar bars) {}

/-- Merges an expanded task into the bar it names, and notes the position of that bar under the
expanded task's id. -/
def decorateBar (barIndex : Std.HashMap Int Nat) (acc : Array Row × Std.HashMap Int Nat)
    (e : Row) : Array Row × Std.HashMap Int Nat :=
  match (e.key? "BAR").bind barIndex.get? with
  | none => acc
  | some p =>
    let bars := acc.1.set! p ((acc.1.getD p default).merge e "_")
    match e.key? "EXPANDED_TASKID" with
    | some id => (bars, acc.2.insert id p)
    | none => (bars, acc.2)

/-- Merges each expanded task into the bar it names, and gives the position of the bar each
expanded task decorates. -/
def decorateBars (barIndex : Std.HashMap Int Nat) (bars : Array Row) (expandedTasks : List Row) :
    Array Row × Std.HashMap Int Nat :=
  expandedTasks.foldl (decorateBar barIndex) (bars, {})

/-- Files bar `i` under the bar its expanded task decorates, or with the bars that nest nowhere;
each list is kept latest first. -/
def nestBar (expandedIndex : Std.HashMap Int Nat) (bars : Array Row)
    (acc : Array (List OutlineChild) × List Nat) (i : Nat) :
    Array (List OutlineChild) × List Nat :=
  match ((bars.getD i default).key? "EXPANDED_TASK").bind expandedIndex.get? with
  | some parent => (acc.1.modify parent (OutlineChild.bar i :: ·), acc.2)
  | none => (acc.1, i :: acc.2)

/-- Files leaf `i` under the bar it names, latest first. -/
def nestLeaf (barIndex : Std.HashMap Int Nat) (leaves : Array Row)
    (children : Array (List OutlineChild)) (i : Nat) : Array (List OutlineChild) :=
  match ((leaves.getD i default).key? "BAR").bind barIndex.get? with
  | some b => children.modify b (OutlineChild.leaf i :: ·)
  | none => children

/-- What each bar holds, bars before leaves, and the bars that nest nowhere. -/
def outlineChildren (barIndex expandedIndex : Std.HashMap Int Nat) (bars leaves : Array Row) :
    Array (List OutlineChild) × List Nat :=
  let (children, topLevel) :=
    (List.range bars.size).foldl (nestBar expandedIndex bars) (Array.replicate bars.size [], [])
  let children := (List.range leaves.size).foldl (nestLeaf barIndex leaves) children
  (children.map List.reverse, topLevel.reverse)

/-- Whether a bar may stand at the top: its name is neither blank nor the displaced items'. -/
def isNamedBar (bar : Row) : Bool :=
  !bar.isBlank "NAME" && bar.string? "NAME" != some displacedItems

/-- The roots of the outline and what each bar holds: a lone bar at the top stands for the
project and gives up what it holds to be the roots; otherwise the bars at the top are. -/
def splitRoots (children : Array (List OutlineChild)) (topLevel : List Nat) :
    List OutlineChild × Array (List OutlineChild) :=
  match topLevel with
  | [only] => (children.getD only [], children.set! only [])
  | _ => (topLevel.map OutlineChild.bar, children)

/-- The outline of the task records. -/
def buildRowHierarchy (bars expandedTasks tasks milestones hammocks : List Row) : List RowTree :=
  let leaves := (sortRows ["NATURAL_ORDER"] (tasks ++ milestones ++ hammocks)).toArray
  let bars := (sortRows ["EXPANDED_TASK", "NATURAL_ORDER"] bars).toArray
  let barIndex := barPositions bars
  let (bars, expandedIndex) := decorateBars barIndex bars expandedTasks
  let (children, topLevel) := outlineChildren barIndex expandedIndex bars leaves
  let topLevel := topLevel.filter fun p => isNamedBar (bars.getD p default)
  let (roots, children) := splitRoots children topLevel
  let start : Assembly :=
    { barTaken := Array.replicate bars.size false, leafTaken := Array.replicate leaves.size false,
      children }
  let fuel := bars.size + 1
  let (trees, _) := roots.foldl (fun (acc : List RowTree × Assembly) c =>
    let (t, s) := Assembly.tree bars leaves fuel c acc.2
    match t with
    | some t => (t :: acc.1, s)
    | none => (acc.1, s)) ([], start)
  trees.reverse

end Schedule
