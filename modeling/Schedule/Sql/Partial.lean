import Schedule.Sql.Failure
import Schedule.Sql.Compare

/-!
# Rows that may end in a failure

A query produces its rows one after another and may fail part way. What the rows before the
failure are matters: a script that only asks for the first row of a query fails only if that
row cannot be produced, and a `LIMIT` that is reached before the failure hides it. `Partial`
holds the rows produced and the failure that ended them, if any.

A step that needs every row before it gives any (sorting, grouping, a set operation) gives no
row when its input failed (`Partial.blocking`).

Rows are ordered by keys (`SortKey`): each a value with its collation and direction, null
first in ascending order unless said otherwise. Sorting is stable.

## Main definitions

* `Partial` — rows with an optional failure after them, and its combinators.
* `SortKey`, `compareKeyLists`, `sortByKeys`, `groupByKeys`, `distinctByKeys`.
-/

namespace Schedule.Sql

/-- Items produced one after another, and the failure that ended them early, if any. -/
structure Partial (α : Type) where
  items : List α := []
  failure : Option SqlError := none
  deriving Inhabited

namespace Partial

variable {α β : Type}

/-- The items of a list, with no failure. -/
def ofList (xs : List α) : Partial α := { items := xs }

/-- No items and a failure. -/
def fail (e : SqlError) : Partial α := { failure := some e }

/-- Maps each item by a step that may fail; the items before the first failure are kept. -/
def mapM (f : α → Except SqlError β) (p : Partial α) : Partial β :=
  let rec go (acc : List β) : List α → Partial β
    | [] => { items := acc.reverse, failure := p.failure }
    | x :: xs =>
      match f x with
      | .ok y => go (y :: acc) xs
      | .error e => { items := acc.reverse, failure := some e }
  go [] p.items

/-- Maps each item to any number of items by a step that may fail. -/
def flatMapM (f : α → Partial β) (p : Partial α) : Partial β :=
  let rec go (acc : List β) : List α → Partial β
    | [] => { items := acc, failure := p.failure }
    | x :: xs =>
      let r := f x
      match r.failure with
      | some e => { items := acc ++ r.items, failure := some e }
      | none => go (acc ++ r.items) xs
  go [] p.items

/-- Keeps the items a test that may fail accepts. -/
def filterM (f : α → Except SqlError Bool) (p : Partial α) : Partial α :=
  p.flatMapM fun x =>
    match f x with
    | .ok true => ofList [x]
    | .ok false => ofList []
    | .error e => fail e

/-- The items of a step that needs every item before it gives any: all of them, or none when
the input failed. -/
def blocking (p : Partial α) : Partial α :=
  match p.failure with
  | some _ => { items := [], failure := p.failure }
  | none => p

/-- The first `n` items; a failure after them is never reached. -/
def take (n : Nat) (p : Partial α) : Partial α :=
  if p.items.length ≥ n then { items := p.items.take n } else p

/-- The items after the first `n`. -/
def drop (n : Nat) (p : Partial α) : Partial α := { p with items := p.items.drop n }

/-- Applies a function to every item. -/
def map (f : α → β) (p : Partial α) : Partial β := { items := p.items.map f, failure := p.failure }

/-- The items followed by those of another computation, which runs only if the first did not
fail. -/
def append (p : Partial α) (q : Unit → Partial α) : Partial α :=
  match p.failure with
  | some _ => p
  | none =>
    let r := q ()
    { items := p.items ++ r.items, failure := r.failure }

/-- Every item, or the failure. -/
def toExcept (p : Partial α) : Except SqlError (List α) :=
  match p.failure with
  | some e => .error e
  | none => .ok p.items

/-- The first item if there is one, else the failure if there is one. -/
def first? (p : Partial α) : Except SqlError (Option α) :=
  match p.items with
  | x :: _ => .ok (some x)
  | [] =>
    match p.failure with
    | some e => .error e
    | none => .ok none

end Partial

/-- A key of a row for ordering: its value, the collation, the direction, and whether null
comes first. -/
structure SortKey where
  value : SqlValue
  collation : Collation := .binary
  descending : Bool := false
  nullsFirst : Bool := true
  deriving Inhabited

/-- How two keys order. -/
def SortKey.compare (a b : SortKey) : Ordering :=
  match a.value, b.value with
  | .null, .null => .eq
  | .null, _ => if a.nullsFirst then .lt else .gt
  | _, .null => if a.nullsFirst then .gt else .lt
  | x, y =>
    let c := x.compareWith a.collation y
    if a.descending then c.swap else c

/-- How two lists of keys order, the first key first. -/
def compareKeyLists : List SortKey → List SortKey → Ordering
  | a :: as, b :: bs =>
    match a.compare b with
    | .eq => compareKeyLists as bs
    | o => o
  | _, _ => .eq

/-- Items sorted by their keys, stably. -/
def sortByKeys {α : Type} (xs : List (α × List SortKey)) : List (α × List SortKey) :=
  xs.mergeSort fun a b => compareKeyLists a.2 b.2 != .gt

/-- Items gathered into groups of equal keys, the groups in the order of their keys and each
group's items in their order. -/
def groupByKeys {α : Type} (xs : List (α × List SortKey)) : List (List SortKey × List α) :=
  (sortByKeys xs).foldr (fun (x, k) groups =>
    match groups with
    | (k', items) :: rest =>
      if compareKeyLists k k' == .eq then (k, x :: items) :: rest else (k, [x]) :: groups
    | [] => [(k, [x])]) []

/-- The items whose keys differ from every earlier item's, in order. -/
def distinctByKeys {α : Type} (key : α → List SortKey) (xs : List α) : List α :=
  (xs.foldl (fun (kept : List α × List (List SortKey)) x =>
    let k := key x
    if kept.2.any (compareKeyLists · k == .eq) then kept else (kept.1 ++ [x], kept.2 ++ [k]))
    ([], [])).1

end Schedule.Sql
