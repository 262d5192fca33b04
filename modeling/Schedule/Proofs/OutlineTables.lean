import Schedule.Build.Outline

/-!
# Sorting the records and finding bars

The outline reads its records in a fixed order and finds bars through two tables. This module
says what these hold. Sorting records by columns is a stable sort that compares the columns in
turn, a missing value first. A bar id finds the last bar that carries it. An expanded task
decorates the bar its bar id finds; each bar is merged, in order, with the expanded tasks that
decorate it; and an expanded task id finds the bar that the last expanded task carrying it
decorates, among those that decorate one.

## Main definitions

* `rowKey` — the values of a record's columns, in turn.
* `lastWith` — the position of the last record whose field holds an id.
* `decorate` — each bar merged, in order, with the expanded tasks that decorate it.
* `expandedBar` — the bar decorated by the last expanded task with an id.

## Main statements

* `compareRows_eq_compareLex` — records compare by their keys, lexicographically.
* `sortRows_sorted`, `sortRows_perm`, `sortRows_stable` — sorting records is a stable sort.
* `barPositions_getElem?` — the table of bars finds the last bar with an id.
* `decorateBars_fst`, `decorateBars_snd_getElem?` — decorating the bars merges the expanded tasks
  in order, and its table finds the bar the last expanded task with an id decorates.
-/

namespace Schedule

/-! ### Sorting -/

/-- The values of a record's columns, in turn; a missing value is `none`, which sorts first. -/
def rowKey (columns : List String) (r : Row) : List (Option Int) :=
  columns.map fun c => (r.integer? c).map Int32.toInt

theorem compareOptInt_eq_compare (a b : Option Int32) :
    compareOptInt a b = compare (a.map Int32.toInt) (b.map Int32.toInt) := by
  cases a <;> cases b <;> rfl

theorem foldl_then_compareOptInt (columns : List String) (a b : Row) (acc : Ordering) :
    columns.foldl (fun acc c => acc.then (compareOptInt (a.integer? c) (b.integer? c))) acc =
      acc.then ((rowKey columns a).compareLex compare (rowKey columns b)) := by
  induction columns generalizing acc with
  | nil => simp [rowKey, List.compareLex_nil_nil]
  | cons c cs ih =>
    rw [List.foldl_cons, ih]
    simp only [rowKey, List.map_cons, List.compareLex_cons_cons, compareOptInt_eq_compare,
      Ordering.then_assoc]

/-- Records compare by their keys, lexicographically. -/
theorem compareRows_eq_compareLex (columns : List String) (a b : Row) :
    compareRows columns a b = (rowKey columns a).compareLex compare (rowKey columns b) := by
  rw [compareRows, foldl_then_compareOptInt]
  rfl

theorem compareRows_isLE_trans {columns : List String} {a b c : Row}
    (hab : (compareRows columns a b).isLE) (hbc : (compareRows columns b c).isLE) :
    (compareRows columns a c).isLE := by
  rw [compareRows_eq_compareLex] at hab hbc ⊢
  exact Std.TransCmp.isLE_trans hab hbc

theorem compareRows_isLE_total (columns : List String) (a b : Row) :
    (compareRows columns a b).isLE || (compareRows columns b a).isLE := by
  have hswap : (rowKey columns b).compareLex compare (rowKey columns a) =
      ((rowKey columns a).compareLex compare (rowKey columns b)).swap :=
    Std.OrientedCmp.eq_swap
  rw [compareRows_eq_compareLex, compareRows_eq_compareLex, hswap]
  cases (rowKey columns a).compareLex compare (rowKey columns b) <;> rfl

theorem ne_gt_eq_isLE (o : Ordering) : (o != .gt) = o.isLE := by
  cases o <;> rfl

/-- The order sorting keeps: a record may come before another that it does not sort after. -/
theorem sortRows_trans (columns : List String) :
    ∀ a b c : Row, (compareRows columns a b != .gt) = true →
      (compareRows columns b c != .gt) = true → (compareRows columns a c != .gt) = true := by
  intro a b c hab hbc
  rw [ne_gt_eq_isLE] at hab hbc ⊢
  exact compareRows_isLE_trans hab hbc

theorem sortRows_total (columns : List String) :
    ∀ a b : Row,
      ((compareRows columns a b != .gt) || (compareRows columns b a != .gt)) = true := by
  intro a b
  rw [ne_gt_eq_isLE, ne_gt_eq_isLE]
  exact compareRows_isLE_total columns a b

/-- Sorted records come in order: no record comes before one it sorts after. -/
theorem sortRows_sorted (columns : List String) (rows : List Row) :
    (sortRows columns rows).Pairwise fun a b => (compareRows columns a b).isLE :=
  (List.pairwise_mergeSort (sortRows_trans columns) (sortRows_total columns) rows).imp
    fun hab => by rwa [ne_gt_eq_isLE] at hab

theorem sortRows_perm (columns : List String) (rows : List Row) :
    (sortRows columns rows).Perm rows :=
  List.mergeSort_perm rows _

/-- Sorting is stable: two records in order stay in order unless the first sorts after the
second. -/
theorem sortRows_stable {columns : List String} {rows : List Row} {a b : Row}
    (hab : (compareRows columns a b).isLE) (h : [a, b].Sublist rows) :
    [a, b].Sublist (sortRows columns rows) :=
  List.pair_sublist_mergeSort (sortRows_trans columns) (sortRows_total columns)
    (by rw [ne_gt_eq_isLE]; exact hab) h

/-! ### Finding bars -/

/-- The position of the last record whose field `field` holds `id`: the first found searching
from the end. -/
def lastWith (rows : Array Row) (field : String) (id : Int) : Option Nat :=
  (List.range rows.size).reverse.find? fun p => (rows.getD p default).key? field == some id

theorem lastWith_lt {rows : Array Row} {field : String} {id : Int} {p : Nat}
    (h : lastWith rows field id = some p) : p < rows.size := by
  have hmem := List.mem_of_find?_eq_some h
  simpa using hmem

/-- The table of bars finds the last bar with an id. -/
theorem barPositions_getElem? (bars : Array Row) (id : Int) :
    (barPositions bars)[id]? = lastWith bars "BARID" id := by
  unfold barPositions lastWith
  generalize bars.size = k
  induction k with
  | zero => simp
  | succ k ih =>
    -- the bar noted last is the first one found from the end
    rw [List.range_succ, List.foldl_append, List.foldl_cons, List.foldl_nil, List.reverse_append,
      List.reverse_singleton, List.singleton_append, List.find?_cons]
    cases hk : (bars.getD k default).key? "BARID" with
    | none =>
      have hstep : ∀ m, noteBar bars m k = m := fun m => by simp only [noteBar, hk]
      rw [hstep]
      simpa [hk] using ih
    | some x =>
      have hstep : ∀ m, noteBar bars m k = m.insert x k := fun m => by simp only [noteBar, hk]
      rw [hstep, Std.HashMap.getElem?_insert, ih]
      by_cases hx : x = id
      · simp [hx]
      · have hxb : (x == id) = false := by simpa using hx
        simp [hxb]

/-- The bar an expanded task decorates: the last bar with the bar id it names. -/
def decorates (barAt : Int → Option Nat) (e : Row) : Option Nat :=
  (e.key? "BAR").bind barAt

/-- Each bar merged, in order, with the expanded tasks that decorate it; a field of an expanded
task that the bar has already is added with the prefix `_`. -/
def decorate (barAt : Int → Option Nat) (expandedTasks : List Row) (bars : Array Row) :
    Array Row :=
  bars.mapIdx fun p bar =>
    (expandedTasks.filter fun e => decorates barAt e == some p).foldl (fun r e => r.merge e "_")
      bar

/-- The bar decorated by the last expanded task with id `id` among those that decorate a bar:
the first found searching from the end. -/
def expandedBar (barAt : Int → Option Nat) (expandedTasks : List Row) (id : Int) :
    Option Nat :=
  expandedTasks.reverse.findSome? fun e =>
    if e.key? "EXPANDED_TASKID" = some id then decorates barAt e else none

@[simp] theorem size_decorate (barAt : Int → Option Nat) (expandedTasks : List Row)
    (bars : Array Row) : (decorate barAt expandedTasks bars).size = bars.size := by
  simp [decorate]

@[simp] theorem getElem?_decorate (barAt : Int → Option Nat) (expandedTasks : List Row)
    (bars : Array Row) (i : Nat) :
    (decorate barAt expandedTasks bars)[i]? =
      bars[i]?.map fun bar => (expandedTasks.filter fun e => decorates barAt e == some i).foldl
        (fun r e => r.merge e "_") bar := by
  simp [decorate]

theorem decorate_nil (barAt : Int → Option Nat) (bars : Array Row) :
    decorate barAt [] bars = bars := by
  refine Array.ext_getElem? fun i => ?_
  simp

theorem decorate_cons_of_none {barAt : Int → Option Nat} {e : Row} (h : decorates barAt e = none)
    (expandedTasks : List Row) (bars : Array Row) :
    decorate barAt (e :: expandedTasks) bars = decorate barAt expandedTasks bars := by
  refine Array.ext_getElem? fun i => ?_
  simp [h]

/-- An expanded task that decorates a bar is merged into it before the expanded tasks after it. -/
theorem decorate_cons_of_some {barAt : Int → Option Nat} {e : Row} {p : Nat}
    (h : decorates barAt e = some p) (expandedTasks : List Row) (bars : Array Row) :
    decorate barAt (e :: expandedTasks) bars =
      decorate barAt expandedTasks (bars.set! p ((bars.getD p default).merge e "_")) := by
  refine Array.ext_getElem? fun i => ?_
  by_cases hpi : p = i
  · subst hpi
    rcases Nat.lt_or_ge p bars.size with hlt | hge
    · rw [getElem?_decorate, getElem?_decorate, Array.set!_eq_setIfInBounds,
        Array.getElem?_setIfInBounds_self_of_lt hlt, Array.getElem?_eq_getElem hlt]
      simp [h, hlt]
    · simp [Array.getElem?_eq_none hge, Array.setIfInBounds_eq_of_size_le hge]
  · simp [h, hpi]

theorem expandedBar_nil (barAt : Int → Option Nat) (id : Int) : expandedBar barAt [] id = none :=
  rfl

theorem expandedBar_cons (barAt : Int → Option Nat) (e : Row) (expandedTasks : List Row)
    (id : Int) :
    expandedBar barAt (e :: expandedTasks) id =
      (expandedBar barAt expandedTasks id).or
        (if e.key? "EXPANDED_TASKID" = some id then decorates barAt e else none) := by
  simp [expandedBar, List.findSome?_append]

/-- Decorating bars from a start: each bar is merged with the expanded tasks that decorate it,
and the table finds the bar the last of them with an id decorates, else what the start found. -/
theorem foldl_decorateBar (barIndex : Std.HashMap Int Nat) (expandedTasks : List Row)
    (bars : Array Row) (m : Std.HashMap Int Nat) :
    (expandedTasks.foldl (decorateBar barIndex) (bars, m)).1 =
        decorate (fun id => barIndex[id]?) expandedTasks bars ∧
      ∀ id, (expandedTasks.foldl (decorateBar barIndex) (bars, m)).2[id]? =
        (expandedBar (fun id => barIndex[id]?) expandedTasks id).or m[id]? := by
  induction expandedTasks generalizing bars m with
  | nil => exact ⟨(decorate_nil _ _).symm, fun id => rfl⟩
  | cons e rest ih =>
    rw [List.foldl_cons]
    cases hp : decorates (fun id => barIndex[id]?) e with
    | none =>
      have hstep : decorateBar barIndex (bars, m) e = (bars, m) := by
        have hp' : (e.key? "BAR").bind barIndex.get? = none := hp
        simp only [decorateBar, hp']
      rw [hstep, decorate_cons_of_none hp]
      refine ⟨(ih bars m).1, fun id => ?_⟩
      rw [(ih bars m).2, expandedBar_cons, hp]
      simp
    | some p =>
      have hp' : (e.key? "BAR").bind barIndex.get? = some p := hp
      cases hx : e.key? "EXPANDED_TASKID" with
      | none =>
        have hstep : decorateBar barIndex (bars, m) e =
            (bars.set! p ((bars.getD p default).merge e "_"), m) := by
          simp only [decorateBar, hp', hx]
        rw [hstep, decorate_cons_of_some hp]
        refine ⟨(ih _ m).1, fun id => ?_⟩
        rw [(ih _ m).2, expandedBar_cons, hx]
        simp
      | some x =>
        have hstep : decorateBar barIndex (bars, m) e =
            (bars.set! p ((bars.getD p default).merge e "_"), m.insert x p) := by
          simp only [decorateBar, hp', hx]
        rw [hstep, decorate_cons_of_some hp]
        refine ⟨(ih _ _).1, fun id => ?_⟩
        -- the table holds this expanded task's bar unless a later one with its id decorates one
        rw [(ih _ _).2, expandedBar_cons, hx, Std.HashMap.getElem?_insert, Option.or_assoc]
        by_cases hxid : x = id <;> simp [hxid, hp]

/-- Decorating the bars merges each with the expanded tasks that decorate it, in order. -/
theorem decorateBars_fst (barIndex : Std.HashMap Int Nat) (bars : Array Row)
    (expandedTasks : List Row) :
    (decorateBars barIndex bars expandedTasks).1 =
      decorate (fun id => barIndex[id]?) expandedTasks bars :=
  (foldl_decorateBar barIndex expandedTasks bars {}).1

/-- The table of expanded tasks finds the bar the last expanded task with an id decorates. -/
theorem decorateBars_snd_getElem? (barIndex : Std.HashMap Int Nat) (bars : Array Row)
    (expandedTasks : List Row) (id : Int) :
    (decorateBars barIndex bars expandedTasks).2[id]? =
      expandedBar (fun id => barIndex[id]?) expandedTasks id := by
  rw [decorateBars, (foldl_decorateBar barIndex expandedTasks bars {}).2]
  simp

end Schedule
