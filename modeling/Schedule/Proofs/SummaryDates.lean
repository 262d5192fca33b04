import Schedule.Proofs.EarliestFinish
import Schedule.Proofs.OutlineNumbers

/-!
# Summary dates

Once the tasks are read, a summary task's actual, early and late dates widen to cover its
children, children first: each start becomes the earliest of the starts below, each finish the
latest of the finishes below, and the actual finish is only taken once every child has one. A
summary read from a bar starts with none of these dates, so what it ends with is a fact about the
leaves under it alone: the earliest start and the latest finish among the leaves that have one,
and the latest actual finish once every leaf has one. The progress roll-up then marks such a
summary complete.

## Main definitions

* `BestOver` — the best of the dates of some tasks, by an order, and none when none has one.
* `SummaryDates.Covers`, `SummaryDates.Rolled` — the dates of a summary over its leaves.
* `Project.Widened` — some summaries of a project are widened and nothing else changed.

## Main statements

* `Project.widened_widenDates` — widening a task widens every summary under it.
* `Builder.processTasks_rolls_up_summary_dates` — after reading the tasks into a new builder,
  every summary has the dates of the leaves under it, and is complete once they all are.
-/

namespace Schedule

/-! ### The earlier and the later of two stamps -/

namespace Stamp

theorem le_refl (a : Stamp) : a ≤ a :=
  le_iff.mpr (by omega)

theorem le_trans {a b c : Stamp} (h₁ : a ≤ b) (h₂ : b ≤ c) : a ≤ c := by
  have h₁ := le_iff.mp h₁
  have h₂ := le_iff.mp h₂
  exact le_iff.mpr (by omega)

theorem le_of_lt {a b : Stamp} (h : a < b) : a ≤ b := by
  have h := lt_iff.mp h
  exact le_iff.mpr (by omega)

theorem le_of_not_lt {a b : Stamp} (h : ¬b < a) : a ≤ b := by
  have h := mt lt_iff.mpr h
  exact le_iff.mpr (by omega)

theorem min_le_left (a b : Stamp) : Stamp.min a b ≤ a := by
  unfold Stamp.min
  split
  · exact le_of_lt ‹_›
  · exact le_refl a

theorem min_le_right (a b : Stamp) : Stamp.min a b ≤ b := by
  unfold Stamp.min
  split
  · exact le_refl b
  · exact le_of_not_lt ‹_›

theorem min_eq_or (a b : Stamp) : Stamp.min a b = a ∨ Stamp.min a b = b := by
  unfold Stamp.min
  split
  · exact .inr rfl
  · exact .inl rfl

theorem le_max_left (a b : Stamp) : a ≤ Stamp.max a b := by
  unfold Stamp.max
  split
  · exact le_of_lt ‹_›
  · exact le_refl a

theorem le_max_right (a b : Stamp) : b ≤ Stamp.max a b := by
  unfold Stamp.max
  split
  · exact le_refl b
  · exact le_of_not_lt ‹_›

theorem max_eq_or (a b : Stamp) : Stamp.max a b = a ∨ Stamp.max a b = b := by
  unfold Stamp.max
  split
  · exact .inr rfl
  · exact .inl rfl

end Stamp

theorem earliest_eq_merge (a b : Option Stamp) : earliest a b = Option.merge Stamp.min a b := by
  cases a <;> cases b <;> rfl

theorem latest_eq_merge (a b : Option Stamp) : latest a b = Option.merge Stamp.max a b := by
  cases a <;> cases b <;> rfl

/-! ### The best date among some tasks -/

/-- `o` is the best date, by `r`, among the dates `f j` of the tasks `j` with `L j`, and none when
none of them has one; `r m y` says that `m` is as good as `y`. -/
def BestOver (r : Stamp → Stamp → Prop) (L : TaskKey → Prop) (f : TaskKey → Option Stamp) :
    Option Stamp → Prop
  | none => ∀ j, L j → f j = none
  | some m => (∃ j, L j ∧ f j = some m) ∧ ∀ j y, L j → f j = some y → r m y

namespace BestOver

variable {r : Stamp → Stamp → Prop} {L M : TaskKey → Prop} {f g : TaskKey → Option Stamp}

theorem of_forall_not (h : ∀ j, ¬L j) : BestOver r L f none :=
  fun j hj => absurd hj (h j)

/-- The best date depends on the tasks only, and on their dates only. -/
theorem congr (hL : ∀ j, L j ↔ M j) (hf : ∀ j, M j → f j = g j) :
    ∀ {o : Option Stamp}, BestOver r L f o → BestOver r M g o
  | none, h => fun j hj => (hf j hj).symm.trans (h j ((hL j).mpr hj))
  | some _, ⟨⟨j, hj, hjm⟩, hle⟩ =>
    ⟨⟨j, (hL j).mp hj, (hf j ((hL j).mp hj)).symm.trans hjm⟩,
      fun i y hi hy => hle i y ((hL i).mpr hi) ((hf i hi).trans hy)⟩

/-- The date of a single task is the best of its own dates. -/
theorem single (hrefl : ∀ a, r a a) (c : TaskKey) : BestOver r (· = c) f (f c) := by
  cases hc : f c with
  | none =>
    intro j hj
    rw [hj, hc]
  | some m =>
    refine ⟨⟨c, rfl, hc⟩, fun j y hj hy => ?_⟩
    rw [hj, hc, Option.some.injEq] at hy
    rw [hy]
    exact hrefl y

/-- The best date of two groups of tasks is the better of their best dates. -/
theorem merge {pick : Stamp → Stamp → Stamp} (hpick : ∀ a b, pick a b = a ∨ pick a b = b)
    (hleft : ∀ a b, r (pick a b) a) (hright : ∀ a b, r (pick a b) b)
    (htrans : ∀ a b c, r a b → r b c → r a c) :
    ∀ {a b : Option Stamp}, BestOver r L f a → BestOver r M f b →
      BestOver r (fun j => L j ∨ M j) f (Option.merge pick a b)
  | none, none, ha, hb => by
    rintro j (hj | hj)
    · exact ha j hj
    · exact hb j hj
  | none, some _, ha, ⟨⟨j, hj, hjm⟩, hle⟩ => by
    refine ⟨⟨j, .inr hj, hjm⟩, fun i y hi hy => ?_⟩
    rcases hi with hi | hi
    · rw [ha i hi] at hy
      cases hy
    · exact hle i y hi hy
  | some _, none, ⟨⟨j, hj, hjm⟩, hle⟩, hb => by
    refine ⟨⟨j, .inl hj, hjm⟩, fun i y hi hy => ?_⟩
    rcases hi with hi | hi
    · exact hle i y hi hy
    · rw [hb i hi] at hy
      cases hy
  | some m₁, some m₂, ⟨⟨j₁, hj₁, hm₁⟩, hle₁⟩, ⟨⟨j₂, hj₂, hm₂⟩, hle₂⟩ => by
    refine ⟨?_, fun i y hi hy => ?_⟩
    · -- the better date is one of the two
      rcases hpick m₁ m₂ with h | h
      · exact ⟨j₁, .inl hj₁, by rw [h]; exact hm₁⟩
      · exact ⟨j₂, .inr hj₂, by rw [h]; exact hm₂⟩
    · rcases hi with hi | hi
      · exact htrans _ _ _ (hleft m₁ m₂) (hle₁ i y hi hy)
      · exact htrans _ _ _ (hright m₁ m₂) (hle₂ i y hi hy)

theorem earliest {a b : Option Stamp} (ha : BestOver (· ≤ ·) L f a)
    (hb : BestOver (· ≤ ·) M f b) :
    BestOver (· ≤ ·) (fun j => L j ∨ M j) f (Schedule.earliest a b) := by
  rw [earliest_eq_merge]
  exact merge Stamp.min_eq_or Stamp.min_le_left Stamp.min_le_right
    (fun _ _ _ => Stamp.le_trans) ha hb

theorem latest {a b : Option Stamp} (ha : BestOver (· ≥ ·) L f a)
    (hb : BestOver (· ≥ ·) M f b) :
    BestOver (· ≥ ·) (fun j => L j ∨ M j) f (Schedule.latest a b) := by
  rw [latest_eq_merge]
  have hleft : ∀ a b, Stamp.max a b ≥ a := Stamp.le_max_left
  have hright : ∀ a b, Stamp.max a b ≥ b := Stamp.le_max_right
  exact merge Stamp.max_eq_or hleft hright (fun _ _ _ h₁ h₂ => Stamp.le_trans h₂ h₁) ha hb

end BestOver

/-! ### Leaves under a task -/

section Leaves

variable {ch : TaskKey → List TaskKey}

/-- `j` is under one of `ks`. -/
def UnderAny (ch : TaskKey → List TaskKey) (ks : List TaskKey) (j : TaskKey) : Prop :=
  ∃ c ∈ ks, InSubtree ch c j

/-- `j` is a task without children under `s`: `s` itself when it has none. -/
def LeafUnder (ch : TaskKey → List TaskKey) (s j : TaskKey) : Prop :=
  InSubtree ch s j ∧ ch j = []

theorem not_underAny_nil (j : TaskKey) : ¬UnderAny ch [] j := by
  simp [UnderAny]

theorem underAny_append_singleton {ks : List TaskKey} {c j : TaskKey} :
    UnderAny ch (ks ++ [c]) j ↔ UnderAny ch ks j ∨ InSubtree ch c j := by
  simp [UnderAny, or_and_right, exists_or]

theorem underAny_singleton {c j : TaskKey} : UnderAny ch [c] j ↔ InSubtree ch c j := by
  simp [UnderAny]

/-- Nothing but the task itself is under a task without children. -/
theorem eq_of_inSubtree_of_nil {s j : TaskKey} (h : ch s = []) (hsj : InSubtree ch s j) :
    j = s := by
  rcases inSubtree_iff.mp hsj with hsj | ⟨c, hc, -⟩
  · exact hsj.symm
  · rw [h] at hc
    cases hc

/-- The only leaf under a task without children is the task. -/
theorem leafUnder_iff_of_nil {s j : TaskKey} (h : ch s = []) : LeafUnder ch s j ↔ j = s := by
  constructor
  · rintro ⟨hsj, -⟩
    exact eq_of_inSubtree_of_nil h hsj
  · rintro rfl
    exact ⟨Relation.ReflTransGen.refl, h⟩

/-- The leaves under a task with children are the leaves under its children. -/
theorem leafUnder_iff_of_ne_nil {s j : TaskKey} (h : ch s ≠ []) :
    LeafUnder ch s j ↔ UnderAny ch (ch s) j ∧ ch j = [] := by
  constructor
  · rintro ⟨hsj, hj⟩
    rcases inSubtree_iff.mp hsj with rfl | hc
    · exact absurd hj h
    · exact ⟨hc, hj⟩
  · rintro ⟨hc, hj⟩
    exact ⟨inSubtree_iff.mpr (.inr hc), hj⟩

theorem Shallow.of_mem {fuel : Nat} {ks : List TaskKey} {k : TaskKey} (h : Shallow ch fuel ks)
    (hk : k ∈ ks) : Shallow ch fuel [k] := by
  cases fuel with
  | zero =>
    rw [shallow_zero.mp h] at hk
    cases hk
  | succ fuel =>
    intro k' hk'
    rw [List.mem_singleton.mp hk']
    exact h k hk

/-- A task of a forest that is not too deep has a leaf under it. -/
theorem exists_leafUnder : ∀ {fuel : Nat} {k : TaskKey}, Shallow ch fuel [k] →
    ∃ j, LeafUnder ch k j := by
  intro fuel
  induction fuel with
  | zero => intro k h; exact absurd (shallow_zero.mp h) (List.cons_ne_nil k [])
  | succ fuel ih =>
    intro k h
    cases hk : ch k with
    | nil => exact ⟨k, Relation.ReflTransGen.refl, hk⟩
    | cons c cs =>
      -- go down to the first child, which is one level shallower
      have hc : Shallow ch fuel [c] := Shallow.of_mem (hk ▸ h.head) List.mem_cons_self
      obtain ⟨j, hcj, hj⟩ := ih hc
      exact ⟨j, inSubtree_iff.mpr (.inr ⟨c, hk ▸ List.mem_cons_self, hcj⟩), hj⟩

end Leaves

/-! ### The dates of a summary over its leaves -/

namespace SummaryDates

/-- No date at all. -/
def empty : SummaryDates := ⟨none, none, none, none, none, none⟩

/-- The dates `d` cover the leaves `L` of `p`: each start is the earliest and each finish the
latest among those of the leaves that have one; the actual finish is the latest once every leaf
has one. -/
structure Covers (p : Project) (L : TaskKey → Prop) (d : SummaryDates) : Prop where
  actualStart : BestOver (· ≤ ·) L (fun j => (p.task j).actualStart) d.actualStart
  earlyStart : BestOver (· ≤ ·) L (fun j => (p.task j).earlyStart) d.earlyStart
  lateStart : BestOver (· ≤ ·) L (fun j => (p.task j).lateStart) d.lateStart
  earlyFinish : BestOver (· ≥ ·) L (fun j => (p.task j).earlyFinish) d.earlyFinish
  lateFinish : BestOver (· ≥ ·) L (fun j => (p.task j).lateFinish) d.lateFinish
  actualFinish : (∀ j, L j → (p.task j).actualFinish.isSome) →
    BestOver (· ≥ ·) L (fun j => (p.task j).actualFinish) d.actualFinish

/-- The dates `d` are those a summary over the leaves `L` of `p` takes: they cover the leaves, and
there is no actual finish while some leaf has none. -/
structure Rolled (p : Project) (L : TaskKey → Prop) (d : SummaryDates) : Prop where
  covers : d.Covers p L
  unfinished : (∃ j, L j ∧ (p.task j).actualFinish = none) → d.actualFinish = none

variable {p q : Project} {L M : TaskKey → Prop} {d : SummaryDates}

/-- Covering depends on the leaves and on their dates only. -/
theorem Covers.congr (hL : ∀ j, L j ↔ M j) (hq : ∀ j, M j → ofTask (q.task j) = ofTask (p.task j))
    (hd : d.Covers p L) : d.Covers q M := by
  have hf : ∀ (field : SummaryDates → Option Stamp) j, M j →
      field (ofTask (p.task j)) = field (ofTask (q.task j)) :=
    fun field j hj => by rw [hq j hj]
  refine ⟨hd.actualStart.congr hL (hf SummaryDates.actualStart),
    hd.earlyStart.congr hL (hf SummaryDates.earlyStart),
    hd.lateStart.congr hL (hf SummaryDates.lateStart),
    hd.earlyFinish.congr hL (hf SummaryDates.earlyFinish),
    hd.lateFinish.congr hL (hf SummaryDates.lateFinish),
    fun hall => (hd.actualFinish fun j hj => ?_).congr hL (hf SummaryDates.actualFinish)⟩
  have h : (ofTask (q.task j)).actualFinish.isSome := hall j ((hL j).mp hj)
  rwa [← hf SummaryDates.actualFinish j ((hL j).mp hj)] at h

theorem Rolled.congr (hL : ∀ j, L j ↔ M j)
    (hq : ∀ j, M j → ofTask (q.task j) = ofTask (p.task j)) (hd : d.Rolled p L) :
    d.Rolled q M := by
  refine ⟨hd.covers.congr hL hq, fun ⟨j, hj, hnone⟩ => hd.unfinished ⟨j, (hL j).mpr hj, ?_⟩⟩
  have h := congrArg SummaryDates.actualFinish (hq j hj)
  exact h.symm.trans hnone

theorem covers_empty (h : ∀ j, ¬L j) : empty.Covers p L :=
  ⟨.of_forall_not h, .of_forall_not h, .of_forall_not h, .of_forall_not h, .of_forall_not h,
    fun _ => .of_forall_not h⟩

/-- The dates of a single task cover that task. -/
theorem rolled_ofTask (c : TaskKey) : (ofTask (p.task c)).Rolled p (· = c) := by
  have hge : ∀ a : Stamp, a ≥ a := Stamp.le_refl
  refine ⟨⟨.single Stamp.le_refl c, .single Stamp.le_refl c, .single Stamp.le_refl c,
    .single hge c, .single hge c, fun _ => .single hge c⟩, ?_⟩
  rintro ⟨j, rfl, hnone⟩
  exact hnone

/-- Taking in the dates of a task that cover some leaves covers those leaves as well. -/
theorem Covers.widen {t : Task} (hd : d.Covers p L) (ht : (ofTask t).Covers p M) :
    (d.widen t).Covers p fun j => L j ∨ M j :=
  ⟨hd.actualStart.earliest ht.actualStart, hd.earlyStart.earliest ht.earlyStart,
    hd.lateStart.earliest ht.lateStart, hd.earlyFinish.latest ht.earlyFinish,
    hd.lateFinish.latest ht.lateFinish,
    fun hall => (hd.actualFinish fun j hj => hall j (.inl hj)).latest
      (ht.actualFinish fun j hj => hall j (.inr hj))⟩

/-- Over some leaves, there is an actual finish exactly when every leaf has one. -/
theorem Rolled.isSome_iff (hd : d.Rolled p L) (hne : ∃ j, L j) :
    d.actualFinish.isSome ↔ ∀ j, L j → (p.task j).actualFinish.isSome := by
  constructor
  · intro hsome j hj
    cases hj' : (p.task j).actualFinish with
    | none =>
      rw [hd.unfinished ⟨j, hj, hj'⟩] at hsome
      exact absurd hsome Bool.false_ne_true
    | some _ => rfl
  · intro hall
    obtain ⟨j, hj⟩ := hne
    have hbest := hd.covers.actualFinish hall
    cases hd' : d.actualFinish with
    | none =>
      rw [hd'] at hbest
      have hnone : (p.task j).actualFinish = none := hbest j hj
      have hj' := hall j hj
      rw [hnone] at hj'
      exact absurd hj' Bool.false_ne_true
    | some _ => rfl

end SummaryDates

/-! ### Widening, one summary at a time -/

/-- A summary takes the dates `d` gathered from its `n` children, `finished` of which have an
actual finish: the actual finish only when all of them have one. -/
def Task.takeDates (d : SummaryDates) (finished n : Nat) (t : Task) : Task :=
  { t with
    actualStart := d.actualStart, earlyStart := d.earlyStart, earlyFinish := d.earlyFinish,
    lateStart := d.lateStart, lateFinish := d.lateFinish,
    actualFinish := if finished = n then d.actualFinish else t.actualFinish }

/-- A summary without an actual finish of its own, taking dates that cover some leaves and the
number `finished` that reaches `n` once all of those leaves are finished, has the dates of the
leaves. -/
theorem SummaryDates.rolled_takeDates {p : Project} {L : TaskKey → Prop} {d : SummaryDates}
    {finished n : Nat} {t : Task} (hd : d.Covers p L)
    (hcount : finished = n ↔ ∀ j, L j → (p.task j).actualFinish.isSome)
    (ht : t.actualFinish = none) :
    (SummaryDates.ofTask (Task.takeDates d finished n t)).Rolled p L := by
  refine ⟨⟨hd.actualStart, hd.earlyStart, hd.lateStart, hd.earlyFinish, hd.lateFinish,
    fun hall => ?_⟩, fun ⟨j, hj, hnone⟩ => ?_⟩
  · show BestOver _ _ _ (if finished = n then d.actualFinish else t.actualFinish)
    rw [if_pos (hcount.mpr hall)]
    exact hd.actualFinish hall
  · -- an unfinished leaf keeps the count short, so the summary keeps its own actual finish
    have hne : ¬finished = n := fun h => by
      have hsome := hcount.mp h j hj
      rw [hnone] at hsome
      exact Bool.false_ne_true hsome
    show (if finished = n then d.actualFinish else t.actualFinish) = none
    rw [if_neg hne, ht]

namespace Project

/-- Widening the next child of a summary: the child is widened, its dates are taken in, and it is
counted when it has an actual finish. -/
def widenStep (fuel : Nat) (acc : Project × SummaryDates × Nat) (c : TaskKey) :
    Project × SummaryDates × Nat :=
  let q := widenDates fuel acc.1 c
  (q, acc.2.1.widen (q.task c), if (q.task c).actualFinish.isSome then acc.2.2 + 1 else acc.2.2)

theorem widenDates_succ_of_nil {fuel : Nat} {p : Project} {k : TaskKey}
    (hk : p.childrenOf k = []) : widenDates (fuel + 1) p k = p := by
  have he : (p.task k).children.isEmpty = true := List.isEmpty_iff.mpr hk
  simp only [widenDates, he]
  rfl

theorem widenDates_succ_of_ne_nil {fuel : Nat} {p : Project} {k : TaskKey}
    (hk : p.childrenOf k ≠ []) :
    widenDates (fuel + 1) p k =
      let r := (p.childrenOf k).foldl (widenStep fuel) (p, SummaryDates.ofTask (p.task k), 0)
      r.1.modifyTask k (Task.takeDates r.2.1 r.2.2 (p.childrenOf k).length) := by
  have hne : (p.task k).children.isEmpty = false := List.isEmpty_eq_false_iff.mpr hk
  simp only [widenDates, hne]
  rfl

/-- Widening the children of a task, one after the other, widens them from the same project. -/
theorem foldl_widenStep_fst (fuel : Nat) :
    ∀ (cs : List TaskKey) (acc : Project × SummaryDates × Nat),
      (cs.foldl (widenStep fuel) acc).1 = cs.foldl (widenDates fuel) acc.1
  | [], _ => rfl
  | c :: cs, acc => foldl_widenStep_fst fuel cs (widenStep fuel acc c)

theorem lt_size_of_childrenOf_ne_nil {p : Project} {k : TaskKey} (h : p.childrenOf k ≠ []) :
    k < p.tasks.size := by
  by_contra hk
  simp [childrenOf, task_eq, Array.getElem?_eq_none (Nat.le_of_not_lt hk)] at h

/-- Every summary under `k` has none of the six dates. -/
def UndatedUnder (p : Project) (k : TaskKey) : Prop :=
  ∀ j, InSubtree p.childrenOf k j → p.childrenOf j ≠ [] →
    SummaryDates.ofTask (p.task j) = SummaryDates.empty

/-- Every summary has none of the six dates. -/
def SummariesUndated (p : Project) : Prop :=
  ∀ k, p.childrenOf k ≠ [] → SummaryDates.ofTask (p.task k) = SummaryDates.empty

/-- `q` is `p` with the summaries under `done` widened from the leaves of `p`, and every other
task as in `p`. -/
structure Widened (p : Project) (done : List TaskKey) (q : Project) : Prop where
  outline : q.outline = p.outline
  outside : ∀ j, ¬UnderAny p.childrenOf done j → q.task j = p.task j
  leaf : ∀ j, p.childrenOf j = [] → q.task j = p.task j
  summary : ∀ j, UnderAny p.childrenOf done j → p.childrenOf j ≠ [] →
    (SummaryDates.ofTask (q.task j)).Rolled p (LeafUnder p.childrenOf j)

section Widened

variable {p q r : Project} {done : List TaskKey}

theorem Widened.nil (p : Project) : Widened p [] p :=
  ⟨rfl, fun _ _ => rfl, fun _ _ => rfl, fun j hj => absurd hj (not_underAny_nil j)⟩

theorem Widened.childrenOf (hw : Widened p done q) : q.childrenOf = p.childrenOf :=
  childrenOf_of_outline_eq hw.outline

/-- A task without children is widened as it is. -/
theorem rolled_of_nil {j : TaskKey} (hj : p.childrenOf j = []) :
    (SummaryDates.ofTask (p.task j)).Rolled p (LeafUnder p.childrenOf j) :=
  (SummaryDates.rolled_ofTask j).congr (fun _ => (leafUnder_iff_of_nil hj).symm) fun _ _ => rfl

/-- Every task under `done` is widened, the leaves among them as they are. -/
theorem Widened.rolled (hw : Widened p done q) {j : TaskKey} (hj : UnderAny p.childrenOf done j) :
    (SummaryDates.ofTask (q.task j)).Rolled p (LeafUnder p.childrenOf j) := by
  by_cases hleaf : p.childrenOf j = []
  · rw [hw.leaf j hleaf]
    exact rolled_of_nil hleaf
  · exact hw.summary j hj hleaf

/-- Widening a task apart from those widened before widens it too. -/
theorem Widened.append {c : TaskKey} (hw : Widened p done q) (hr : Widened q [c] r) :
    Widened p (done ++ [c]) r := by
  have hch := hw.childrenOf
  have hunder : ∀ j, UnderAny q.childrenOf [c] j ↔ InSubtree p.childrenOf c j := fun j => by
    rw [hch, underAny_singleton]
  refine ⟨hr.outline.trans hw.outline, fun j hj => ?_, fun j hj => ?_, fun j hj hjc => ?_⟩
  · rw [underAny_append_singleton, not_or] at hj
    rw [hr.outside j (mt (hunder j).mp hj.2), hw.outside j hj.1]
  · rw [hr.leaf j (hch ▸ hj), hw.leaf j hj]
  · by_cases hjc' : InSubtree p.childrenOf c j
    · -- widened from `q`, whose leaves are those of `p`
      have hrolled := hr.summary j ((hunder j).mpr hjc') (hch ▸ hjc)
      rw [hch] at hrolled
      exact hrolled.congr (fun _ => Iff.rfl) fun i hi => by rw [hw.leaf i hi.2]
    · rcases underAny_append_singleton.mp hj with hj | hj
      · rw [hr.outside j (mt (hunder j).mp hjc')]
        exact hw.summary j hj hjc
      · exact absurd hj hjc'

/-- Under siblings, the tasks under one of them are under none of the others. -/
theorem Forest.not_underAny_of_siblings (hf : p.Forest) {par : Option TaskKey} {c : TaskKey}
    (hc : c ∉ done) (hpar : ∀ a ∈ c :: done, a < p.tasks.size ∧ (p.task a).parent = par) :
    ∀ j, InSubtree p.childrenOf c j → ¬UnderAny p.childrenOf done j := by
  rintro j hcj ⟨c', hc', hc'j⟩
  have hne : c ≠ c' := fun h => hc (h ▸ hc')
  obtain ⟨hclt, hcpar⟩ := hpar c List.mem_cons_self
  obtain ⟨hc'lt, hc'par⟩ := hpar c' (List.mem_cons_of_mem c hc')
  rcases hf.inSubtree_total hcj hc'j with h | h
  · exact hf.not_inSubtree_of_parent_eq (Ne.symm hne) hclt (hc'par.trans hcpar.symm) h
  · exact hf.not_inSubtree_of_parent_eq hne hc'lt (hcpar.trans hc'par.symm) h

/-- A task without children widens nothing. -/
theorem Widened.of_nil {c : TaskKey} (hc : p.childrenOf c = []) : Widened p [c] p := by
  refine ⟨rfl, fun _ _ => rfl, fun _ _ => rfl, fun j hj hjc => ?_⟩
  rw [eq_of_inSubtree_of_nil hc (underAny_singleton.mp hj)] at hjc
  exact absurd hc hjc

variable {fuel : Nat}

/-- Widening with `fuel` widens every summary under the task widened, from the leaves, when the
summaries there have no dates yet. -/
def WidensAt (fuel : Nat) : Prop :=
  ∀ q : Project, q.Forest → ∀ c, Shallow q.childrenOf fuel [c] → q.UndatedUnder c →
    Widened q [c] (widenDates fuel q c)

/-- Widening a child apart from its widened siblings widens it as well, and the child then has
the dates of the leaves under it. -/
theorem Widened.step (hf : p.Forest) (ih : WidensAt fuel) (hw : Widened p done q) {c : TaskKey}
    (hc : c ∉ done) {par : Option TaskKey}
    (hpar : ∀ a ∈ c :: done, a < p.tasks.size ∧ (p.task a).parent = par)
    (hs : Shallow p.childrenOf fuel [c]) (hu : p.UndatedUnder c) :
    Widened p (done ++ [c]) (widenDates fuel q c) ∧
      (SummaryDates.ofTask ((widenDates fuel q c).task c)).Rolled p
        (LeafUnder p.childrenOf c) := by
  have hch := hw.childrenOf
  have hdisj := hf.not_underAny_of_siblings hc hpar
  -- the tasks under `c` are as in `p`, so its summaries still have no dates
  have hqu : q.UndatedUnder c := by
    intro j hj hjc
    rw [hch] at hj hjc
    rw [hw.outside j (hdisj j hj)]
    exact hu j hj hjc
  have hr := ih q (hf.of_outline_eq hw.outline) c (hch ▸ hs) hqu
  refine ⟨hw.append hr, ?_⟩
  have hrolled := hr.rolled (underAny_singleton.mpr Relation.ReflTransGen.refl)
  rw [hch] at hrolled
  exact hrolled.congr (fun _ => Iff.rfl) fun j hj => by rw [hw.leaf j hj.2]

/-- The state after widening the children `done` of a summary, in order: the project has them
widened, the dates gathered cover the leaves under them, and the count is of the children all of
whose leaves are finished. -/
structure ChildFold (p : Project) (done : List TaskKey) (acc : Project × SummaryDates × Nat) :
    Prop where
  widened : Widened p done acc.1
  covers : acc.2.1.Covers p fun j => UnderAny p.childrenOf done j ∧ p.childrenOf j = []
  count_le : acc.2.2 ≤ done.length
  count_eq : acc.2.2 = done.length ↔
    ∀ j, UnderAny p.childrenOf done j → p.childrenOf j = [] → (p.task j).actualFinish.isSome

theorem ChildFold.init (p : Project) : ChildFold p [] (p, SummaryDates.empty, 0) where
  widened := Widened.nil p
  covers := SummaryDates.covers_empty fun j h => not_underAny_nil j h.1
  count_le := Nat.le_refl 0
  count_eq := iff_of_true rfl fun j h => absurd h (not_underAny_nil j)

theorem ChildFold.step (hf : p.Forest) (ih : WidensAt fuel)
    {acc : Project × SummaryDates × Nat} (ha : ChildFold p done acc) {c : TaskKey} (hc : c ∉ done)
    {par : Option TaskKey} (hpar : ∀ a ∈ c :: done, a < p.tasks.size ∧ (p.task a).parent = par)
    (hs : Shallow p.childrenOf fuel [c]) (hu : p.UndatedUnder c) :
    ChildFold p (done ++ [c]) (widenStep fuel acc c) := by
  obtain ⟨hw, hrolled⟩ := ha.widened.step hf ih hc hpar hs hu
  -- the child counts once every leaf under it is finished, and it has a leaf
  have hall := hrolled.isSome_iff (exists_leafUnder hs)
  have hsplit : (∀ j, UnderAny p.childrenOf (done ++ [c]) j → p.childrenOf j = [] →
      (p.task j).actualFinish.isSome) ↔
      (∀ j, UnderAny p.childrenOf done j → p.childrenOf j = [] →
        (p.task j).actualFinish.isSome) ∧
        ∀ j, LeafUnder p.childrenOf c j → (p.task j).actualFinish.isSome := by
    simp only [underAny_append_singleton, LeafUnder, or_imp, forall_and, and_imp]
  have hle := ha.count_le
  refine ⟨hw, (ha.covers.widen hrolled.covers).congr (fun j => ?_) fun _ _ => rfl, ?_, ?_⟩
  · simp only [underAny_append_singleton, or_and_right, LeafUnder]
  · simp only [widenStep, List.length_append, List.length_singleton]
    split <;> omega
  · simp only [widenStep, List.length_append, List.length_singleton]
    rw [hsplit]
    split
    · next hsome =>
      rw [Nat.add_right_cancel_iff, ha.count_eq, and_iff_left (hall.mp hsome)]
    · next hnone =>
      exact iff_of_false (by omega) fun h => hnone (hall.mpr h.2)

/-- Widening siblings one after the other keeps the state of the fold. -/
theorem ChildFold.foldl (hf : p.Forest) (ih : WidensAt fuel) {par : Option TaskKey} :
    ∀ (cs done : List TaskKey) (acc : Project × SummaryDates × Nat), ChildFold p done acc →
      (done ++ cs).Nodup → (∀ a ∈ done ++ cs, a < p.tasks.size ∧ (p.task a).parent = par) →
      (∀ c ∈ cs, Shallow p.childrenOf fuel [c] ∧ p.UndatedUnder c) →
      ChildFold p (done ++ cs) (cs.foldl (widenStep fuel) acc)
  | [], done, acc, ha, _, _, _ => by
    rw [List.append_nil]
    exact ha
  | c :: cs, done, acc, ha, hnd, hpar, hcs => by
    have hc : c ∉ done := fun h => List.disjoint_of_nodup_append hnd h List.mem_cons_self
    have hpar' : ∀ a ∈ c :: done, a < p.tasks.size ∧ (p.task a).parent = par := by
      intro a ha
      rcases List.mem_cons.mp ha with rfl | ha
      · exact hpar a (List.mem_append_right done List.mem_cons_self)
      · exact hpar a (List.mem_append_left (c :: cs) ha)
    have hstep := ha.step hf ih hc hpar' (hcs c List.mem_cons_self).1 (hcs c List.mem_cons_self).2
    rw [List.append_cons] at hnd hpar ⊢
    exact ChildFold.foldl hf ih cs (done ++ [c]) _ hstep hnd hpar fun c' hc' =>
      hcs c' (List.mem_cons_of_mem c hc')

/-- Once all its children are widened, a summary without dates of its own takes theirs, and is
widened with everything under it. -/
theorem ChildFold.finish (hf : p.Forest) {k : TaskKey} (hk : p.childrenOf k ≠ [])
    (hempty : SummaryDates.ofTask (p.task k) = SummaryDates.empty)
    {r : Project × SummaryDates × Nat} (hr : ChildFold p (p.childrenOf k) r) :
    Widened p [k] (r.1.modifyTask k (Task.takeDates r.2.1 r.2.2 (p.childrenOf k).length)) := by
  have hw := hr.widened
  -- `k` comes before its children, so it is under none of them
  have hkk : ¬UnderAny p.childrenOf (p.childrenOf k) k := by
    rintro ⟨c, hc, hck⟩
    have h₁ := hf.lt_of_mem hc
    have h₂ := hf.le_of_inSubtree hck
    dsimp only [TaskKey] at h₁ h₂
    omega
  have hunder : ∀ j, UnderAny p.childrenOf [k] j ↔
      j = k ∨ UnderAny p.childrenOf (p.childrenOf k) j := fun j =>
    underAny_singleton.trans (inSubtree_iff.trans (or_congr eq_comm Iff.rfl))
  have hother : ∀ j, j ≠ k → (r.1.modifyTask k
      (Task.takeDates r.2.1 r.2.2 (p.childrenOf k).length)).task j = r.1.task j := by
    intro j hj
    rw [task_modifyTask, if_neg fun h => hj h.1.symm]
  have hout : (r.1.modifyTask k (Task.takeDates r.2.1 r.2.2 (p.childrenOf k).length)).outline =
      r.1.outline := by
    apply outline_modifyTask
    exact fun _ => rfl
  refine ⟨hout.trans hw.outline, fun j hj => ?_, fun j hj => ?_, fun j hj hjc => ?_⟩
  · have hjk : j ≠ k := fun h => hj ((hunder j).mpr (.inl h))
    rw [hother j hjk, hw.outside j fun h => hj ((hunder j).mpr (.inr h))]
  · have hjk : j ≠ k := fun h => hk (h ▸ hj)
    rw [hother j hjk, hw.leaf j hj]
  · by_cases hjk : j = k
    · -- the summary itself: its children's dates cover exactly the leaves under it
      have hlt : k < r.1.tasks.size := by
        rw [size_of_outline_eq hw.outline]
        exact lt_size_of_childrenOf_ne_nil hk
      have hleaf : ∀ i, (UnderAny p.childrenOf (p.childrenOf k) i ∧ p.childrenOf i = []) ↔
          LeafUnder p.childrenOf k i := fun i => (leafUnder_iff_of_ne_nil hk).symm
      rw [hjk, task_modifyTask, if_pos ⟨rfl, hlt⟩, hw.outside k hkk]
      refine SummaryDates.rolled_takeDates (hr.covers.congr hleaf fun _ _ => rfl) ?_
        (congrArg SummaryDates.actualFinish hempty)
      rw [hr.count_eq]
      exact ⟨fun h i hi => h i ((hleaf i).mpr hi).1 ((hleaf i).mpr hi).2,
        fun h i hu hl => h i ((hleaf i).mp ⟨hu, hl⟩)⟩
    · rw [hother j hjk]
      exact hw.summary j (((hunder j).mp hj).resolve_left hjk) hjc

/-- Widening a task whose summaries have no dates yet widens every summary under it from the
leaves, and leaves every other task as it was. -/
theorem Forest.widened_widenDates : ∀ (fuel : Nat) {p : Project}, p.Forest → ∀ {c : TaskKey},
    Shallow p.childrenOf fuel [c] → p.UndatedUnder c → Widened p [c] (widenDates fuel p c)
  | 0, _, _, c, hs, _ => absurd (shallow_zero.mp hs) (List.cons_ne_nil c [])
  | fuel + 1, p, hf, c, hs, hu => by
    by_cases hc : p.childrenOf c = []
    · rw [widenDates_succ_of_nil hc]
      exact Widened.of_nil hc
    · -- the children are widened in order, then the task takes the dates they gathered
      have hempty : SummaryDates.ofTask (p.task c) = SummaryDates.empty :=
        hu c Relation.ReflTransGen.refl hc
      have hfold := ChildFold.foldl hf
        (fun q hq _ hs' hu' => Forest.widened_widenDates fuel hq hs' hu') (p.childrenOf c) []
        (p, SummaryDates.empty, 0) (ChildFold.init p) (hf.childrenOf_nodup c)
        (fun a (ha : a ∈ p.childrenOf c) => ⟨hf.child_lt ha, hf.parent_of_mem ha⟩)
        (fun a ha => ⟨Shallow.of_mem hs.head ha,
          fun j hj => hu j (inSubtree_iff.mpr (.inr ⟨a, ha, hj⟩))⟩)
      rw [widenDates_succ_of_ne_nil hc, hempty]
      exact hfold.finish hf hc hempty

/-- Widening the summary dates of a forest whose summaries have no dates yet widens every task
from the leaves under it. -/
theorem Forest.widened_widenSummaryDates (hf : p.Forest) (hu : p.SummariesUndated) :
    Widened p p.childTasks p.widenSummaryDates := by
  have hfold := ChildFold.foldl hf (fun q hq _ hs hu' => Forest.widened_widenDates _ hq hs hu')
    p.childTasks [] (p, SummaryDates.empty, 0) (ChildFold.init p) hf.childTasks_nodup
    (fun a (ha : a ∈ p.childTasks) => ⟨hf.top_lt ha, (hf.top_iff a (hf.top_lt ha)).mpr ha⟩)
    fun c hc => ⟨hf.shallow_childTasks.of_mem hc, fun j _ hj => hu j hj⟩
  have hw := hfold.widened
  rw [List.nil_append, foldl_widenStep_fst] at hw
  exact hw

/-- Every task of a forest has a leaf under it. -/
theorem Forest.exists_leafUnder_of_lt (hf : p.Forest) {s : TaskKey} (hs : s < p.tasks.size) :
    ∃ j, LeafUnder p.childrenOf s j := by
  refine exists_leafUnder (hf.shallow p.tasks.size [s] fun k hk => ?_)
  rw [List.mem_singleton.mp hk]
  exact ⟨hs, Nat.le_add_left _ _⟩

/-- Once the summary dates of a forest whose summaries had none are widened, every summary has
the dates of the leaves under it. -/
theorem Forest.rolled_widenSummaryDates (hf : p.Forest) (hu : p.SummariesUndated) {s : TaskKey}
    (hs : p.childrenOf s ≠ []) :
    (SummaryDates.ofTask (p.widenSummaryDates.task s)).Rolled p (LeafUnder p.childrenOf s) := by
  -- every task is under a top-level task, and all of those are widened
  obtain ⟨c, hc, hcs⟩ := hf.exists_top_inSubtree s (lt_size_of_childrenOf_ne_nil hs)
  exact (hf.widened_widenSummaryDates hu).summary s ⟨c, hc, hcs⟩ hs

end Widened

/-! ### Reading the tasks leaves every summary without dates -/

/-- `p'` has every task of `p` with its dates, and perhaps more tasks. -/
structure DatesKept (p p' : Project) : Prop where
  size_le : p.tasks.size ≤ p'.tasks.size
  dates : ∀ j < p.tasks.size, SummaryDates.ofTask (p'.task j) = SummaryDates.ofTask (p.task j)

section Creation

variable {p p' p'' : Project}

theorem DatesKept.refl (p : Project) : p.DatesKept p := ⟨Nat.le_refl _, fun _ _ => rfl⟩

theorem DatesKept.trans (h₁ : p.DatesKept p') (h₂ : p'.DatesKept p'') : p.DatesKept p'' :=
  ⟨Nat.le_trans h₁.size_le h₂.size_le, fun j hj =>
    (h₂.dates j (Nat.lt_of_lt_of_le hj h₁.size_le)).trans (h₁.dates j hj)⟩

/-- Changing a task added after those of `p` keeps their dates. -/
theorem DatesKept.modifyTask (h : p.DatesKept p') {k : TaskKey} (hk : p.tasks.size ≤ k)
    (f : Task → Task) : p.DatesKept (p'.modifyTask k f) := by
  refine ⟨by rw [size_modifyTask]; exact h.size_le, fun j hj => ?_⟩
  have hkj : k ≠ j := Nat.ne_of_gt (Nat.lt_of_lt_of_le hj hk)
  rw [task_modifyTask, if_neg fun h' => hkj h'.1]
  exact h.dates j hj

theorem Keeps.datesKept (h : p.Keeps SummaryDates.ofTask p') : p.DatesKept p' :=
  ⟨Nat.le_of_eq (size_of_outline_eq h.outline).symm, fun j _ => h.view j⟩

theorem Keeps.summariesUndated (h : p.Keeps SummaryDates.ofTask p') (hu : p.SummariesUndated) :
    p'.SummariesUndated := by
  intro k hk
  rw [childrenOf_of_outline_eq h.outline] at hk
  rw [h.view k]
  exact hu k hk

/-- Filling a task without children keeps every summary without dates. -/
theorem SummariesUndated.modifyTask (hu : p.SummariesUndated) {k : TaskKey}
    (hk : p.childrenOf k = []) {f : Task → Task} (hl : Task.KeepsLinks f) :
    (p.modifyTask k f).SummariesUndated := by
  intro j hj
  rw [childrenOf_of_outline_eq (outline_modifyTask hl p k)] at hj
  have hjk : j ≠ k := fun h => hj (h ▸ hk)
  rw [task_modifyTask, if_neg fun h => hjk h.1.symm]
  exact hu j hj

theorem summariesUndated_empty : ({} : Project).SummariesUndated := by
  intro k hk
  simp [childrenOf, task_eq] at hk

section AddTask

variable {parent : Option TaskKey} (hparent : ∀ q, parent = some q → q < p.tasks.size)
include hparent

/-- A new task has no dates. -/
theorem ofTask_addTask (j : TaskKey) :
    SummaryDates.ofTask ((p.addTask parent).1.task j) =
      if j = p.tasks.size then SummaryDates.empty else SummaryDates.ofTask (p.task j) := by
  rw [addTask_task p hparent]
  dsimp only
  split <;> split <;> rfl

theorem childrenOf_addTask_self : (p.addTask parent).1.childrenOf p.tasks.size = [] := by
  have hne : parent ≠ some p.tasks.size := fun h => Nat.lt_irrefl _ (hparent _ h)
  rw [childrenOf, addTask_children hparent, if_pos rfl, if_neg hne, List.append_nil]

theorem datesKept_addTask : p.DatesKept (p.addTask parent).1 := by
  refine ⟨by rw [addTask_size]; exact Nat.le_succ _, fun j hj => ?_⟩
  rw [ofTask_addTask hparent, if_neg (Nat.ne_of_lt hj)]

/-- Adding a task under a parent without dates keeps every summary without dates. -/
theorem SummariesUndated.addTask (hu : p.SummariesUndated)
    (hempty : ∀ q, parent = some q → SummaryDates.ofTask (p.task q) = SummaryDates.empty) :
    (p.addTask parent).1.SummariesUndated := by
  intro j hj
  rw [childrenOf, addTask_children hparent] at hj
  rw [ofTask_addTask hparent]
  by_cases hq : parent = some j
  · -- the parent, which now has the new task as a child
    rw [if_neg (Nat.ne_of_lt (hparent j hq))]
    exact hempty j hq
  · rw [if_neg hq, List.append_nil] at hj
    split at hj
    · exact absurd rfl hj
    · next hnew =>
      rw [if_neg hnew]
      exact hu j hj

end AddTask

end Creation

/-! ### Rolled-up summaries -/

/-- Summary `s` of `p` is rolled up: it has a leaf under it and the dates of the leaves under it,
and it is complete once every leaf under it is finished. -/
structure RolledUp (p : Project) (s : TaskKey) : Prop where
  leaf : ∃ j, LeafUnder p.childrenOf s j
  dates : (SummaryDates.ofTask (p.task s)).Rolled p (LeafUnder p.childrenOf s)
  complete : (∀ j, LeafUnder p.childrenOf s j → (p.task j).actualFinish.isSome) →
    (p.task s).percentComplete = some 100.0

/-- Every summary of `p` is rolled up. -/
def SummariesRolledUp (p : Project) : Prop := ∀ s, p.childrenOf s ≠ [] → p.RolledUp s

end Project

namespace Builder

/-- `b₂` is `b` with a new task `k` that has no dates and no children: every summary is still
without dates, and the tasks of `b` keep theirs. -/
structure AddsUndated (b b₂ : Builder) (k : TaskKey) : Prop where
  undated : b₂.project.SummariesUndated
  kept : b.project.DatesKept b₂.project
  after : b.project.tasks.size ≤ k
  lt : k < b₂.project.tasks.size
  childless : b₂.project.childrenOf k = []
  empty : SummaryDates.ofTask (b₂.project.task k) = SummaryDates.empty

theorem addsUndated_startTask {b : Builder} {parent : Option TaskKey} (row : Row)
    (hb : b.project.SummariesUndated)
    (hparent : ∀ q, parent = some q → q < b.project.tasks.size ∧
      SummaryDates.ofTask (b.project.task q) = SummaryDates.empty) :
    AddsUndated b (startTask parent row b).1 (startTask parent row b).2 := by
  have hlt : ∀ q, parent = some q → q < b.project.tasks.size := fun q hq => (hparent q hq).1
  refine ⟨?_, ?_, Nat.le_of_eq (startTask_key parent row b).symm, ?_, ?_, ?_⟩
  · rw [startTask_project]
    exact hb.addTask hlt fun q hq => (hparent q hq).2
  · rw [startTask_project]
    exact Project.datesKept_addTask hlt
  · rw [startTask_project, Project.addTask_size, startTask_key]
    exact Nat.lt_succ_self _
  · rw [startTask_project, startTask_key]
    exact Project.childrenOf_addTask_self hlt
  · rw [startTask_project, startTask_key, Project.ofTask_addTask hlt, if_pos rfl]

section AddsUndated

variable {b b₂ : Builder} {k : TaskKey} (h : AddsUndated b b₂ k)
include h

/-- A new task filled as a leaf gains no children. -/
theorem AddsUndated.populateLeaf {b' : Builder} {parentName : Option String} {row : Row}
    (hl : b₂.populateLeaf k parentName row = .ok b') :
    b'.project.SummariesUndated ∧ b.project.DatesKept b'.project := by
  obtain ⟨b₃, h₃, rfl⟩ := populateLeaf_spec hl
  obtain ⟨f, hf, hp⟩ := h₃.project
  rw [registerLeaf_project, hp]
  exact ⟨h.undated.modifyTask h.childless hf.keepsLinks, h.kept.modifyTask h.after f⟩

/-- A bar fills its new task without giving it dates. -/
theorem AddsUndated.populateBar (row : Row) (children : List RowTree) :
    AddsUndated b (b₂.populateBar k row children) k := by
  have hbar : b₂.project.Keeps SummaryDates.ofTask (b₂.populateBar k row children).project := by
    unfold Builder.populateBar
    apply Project.keeps_modifyTask
    · exact fun _ => rfl
    · exact fun _ => rfl
  refine ⟨hbar.summariesUndated h.undated, h.kept.trans hbar.datesKept, h.after, ?_, ?_,
    (hbar.view k).trans h.empty⟩
  · rw [Project.size_of_outline_eq hbar.outline]
    exact h.lt
  · rw [Project.childrenOf_of_outline_eq hbar.outline]
    exact h.childless

end AddsUndated

mutual

/-- Creating the tasks of row trees under a parent without dates keeps every summary without
dates, and every task there before with its dates. -/
theorem createTasks_summariesUndated :
    ∀ {parent : Option TaskKey} {parentName : Option String} {b b' : Builder} (ts : List RowTree),
    b.project.SummariesUndated →
    (∀ q, parent = some q → q < b.project.tasks.size ∧
      SummaryDates.ofTask (b.project.task q) = SummaryDates.empty) →
    createTasks parent parentName b ts = .ok b' →
    b'.project.SummariesUndated ∧ b.project.DatesKept b'.project
  | _, _, b, b', [], hb, _, h => by
    simp only [createTasks, Reading.pure_eq_ok] at h
    exact h ▸ ⟨hb, Project.DatesKept.refl _⟩
  | parent, _, b, b', t :: rest, hb, hparent, h => by
    simp only [createTasks] at h
    obtain ⟨b₁, h₁, h⟩ := Reading.bind_eq_ok.mp h
    obtain ⟨hb₁, hk₁⟩ := createTask_summariesUndated t hb hparent h₁
    -- the parent was there before, so it still has no dates
    have hparent₁ : ∀ q, parent = some q → q < b₁.project.tasks.size ∧
        SummaryDates.ofTask (b₁.project.task q) = SummaryDates.empty := fun q hq =>
      ⟨Nat.lt_of_lt_of_le (hparent q hq).1 hk₁.size_le,
        (hk₁.dates q (hparent q hq).1).trans (hparent q hq).2⟩
    obtain ⟨hb', hk'⟩ := createTasks_summariesUndated rest hb₁ hparent₁ h
    exact ⟨hb', hk₁.trans hk'⟩

/-- Creating the task of one row tree, and those under it. -/
theorem createTask_summariesUndated :
    ∀ {parent : Option TaskKey} {parentName : Option String} {b b' : Builder} (t : RowTree),
    b.project.SummariesUndated →
    (∀ q, parent = some q → q < b.project.tasks.size ∧
      SummaryDates.ofTask (b.project.task q) = SummaryDates.empty) →
    createTask parent parentName b t = .ok b' →
    b'.project.SummariesUndated ∧ b.project.DatesKept b'.project
  | parent, parentName, b, b', .node row children, hb, hparent, h => by
    rw [createTask_eq] at h
    split at h
    · rw [Reading.pure_eq_ok] at h
      exact h ▸ ⟨hb, Project.DatesKept.refl _⟩
    · have hnew := addsUndated_startTask row hb hparent
      generalize startTask parent row b = bk at h hnew
      obtain ⟨b₂, k⟩ := bk
      dsimp only at h hnew
      split at h
      · split at h
        · obtain ⟨b₃, h₃, h⟩ := Reading.bind_eq_ok.mp h
          rw [Reading.pure_eq_ok] at h
          subst h
          -- registering the bar leaves the project as the leaf made it
          exact (hnew.populateLeaf h₃ :)
        · -- a summary: the bar gives it no dates, then its children are created under it
          obtain ⟨b₃, h₃, h⟩ := Reading.bind_eq_ok.mp h
          rw [Reading.pure_eq_ok] at h
          subst h
          have hbar := hnew.populateBar row children
          obtain ⟨hb₃, hk₃⟩ := createTasks_summariesUndated children hbar.undated
            (fun q hq => Option.some.inj hq ▸ ⟨hbar.lt, hbar.empty⟩) h₃
          exact ⟨hb₃, hbar.kept.trans hk₃⟩
      · exact hnew.populateLeaf h

end

/-! ### Rolling up a finished summary -/

theorem rollUpTask_task_of_ne (fuel : Nat) (b : Builder) {k j : TaskKey} (hjk : j ≠ k) :
    (rollUpTask fuel b k).project.task j = b.project.task j := by
  simp only [rollUpTask]
  split
  · rfl
  · split <;> exact (Project.task_modifyTask _ _ _ _).trans (if_neg fun h => hjk h.1.symm)

/-- Rolling up a summary with an actual finish marks it complete. -/
theorem rollUpTask_finished (fuel : Nat) (b : Builder) {k : TaskKey}
    (hk : b.project.childrenOf k ≠ []) (hfin : (b.project.task k).actualFinish.isSome) :
    ((rollUpTask fuel b k).project.task k).percentComplete = some 100.0 := by
  have hsum : (b.project.task k).isSummary = true := by
    simpa [Task.isSummary, Project.childrenOf] using hk
  simp only [rollUpTask, hsum, hfin, Bool.not_true, Bool.false_eq_true, if_false, if_true]
  show ((b.project.modifyTask k _).task k).percentComplete = _
  rw [Project.task_modifyTask, if_pos ⟨rfl, Project.lt_size_of_childrenOf_ne_nil hk⟩]

theorem foldl_rollUpTask_of_not_mem (fuel : Nat) {j : TaskKey} :
    ∀ (ks : List TaskKey) (b : Builder), j ∉ ks →
      (ks.foldl (rollUpTask fuel) b).project.task j = b.project.task j
  | [], _, _ => rfl
  | k :: ks, b, hj => by
    rw [List.foldl_cons,
      foldl_rollUpTask_of_not_mem fuel ks _ fun h => hj (List.mem_cons_of_mem k h),
      rollUpTask_task_of_ne fuel b fun (h : j = k) => hj (h ▸ List.mem_cons_self)]

/-- Rolling up progress marks every summary with an actual finish complete. -/
theorem rollUpProgress_finished {b : Builder} {s : TaskKey} (hs : b.project.childrenOf s ≠ [])
    (hfin : (b.project.task s).actualFinish.isSome) :
    (b.rollUpProgress.project.task s).percentComplete = some 100.0 := by
  have hlt := Project.lt_size_of_childrenOf_ne_nil hs
  obtain ⟨l₁, l₂, hl⟩ := List.append_of_mem (List.mem_range.mpr hlt)
  have hnd : (l₁ ++ s :: l₂).Nodup := hl ▸ List.nodup_range
  -- `s` is rolled up once, and the tasks rolled up around it leave it as it is
  have h₁ : s ∉ l₁ := fun h => List.disjoint_of_nodup_append hnd h List.mem_cons_self
  have h₂ : s ∉ l₂ := (List.nodup_cons.mp (List.Nodup.of_append_right hnd)).1
  have hb₁ := foldl_rollUpTask_of_not_mem (b.project.tasks.size + 1) l₁ b h₁
  simp only [rollUpProgress]
  rw [hl, List.foldl_append, List.foldl_cons, foldl_rollUpTask_of_not_mem _ l₂ _ h₂]
  apply rollUpTask_finished
  · rw [Project.childrenOf, hb₁]
    exact hs
  · rw [hb₁]
    exact hfin

/-- After the tasks are read into a new builder, every summary has the dates of the leaves under
it: each start is the earliest and each finish the latest among the leaves that have one, and the
actual finish is the latest of the leaves' once every leaf has one, and none before. A summary
whose leaves are all finished is complete. -/
theorem processTasks_rolls_up_summary_dates {b' : Builder} {t : TaskTables}
    (h : ({} : Builder).processTasks t = .ok b') : b'.project.SummariesRolledUp := by
  have hforest := (sound_empty.processTasks h).forest
  unfold processTasks at h
  obtain ⟨b₁, h₁, h⟩ := Reading.bind_eq_ok.mp h
  rw [Reading.pure_eq_ok] at h
  have hu₁ : b₁.project.SummariesUndated :=
    (createTasks_summariesUndated _ Project.summariesUndated_empty (by rintro _ ⟨⟩) h₁).1
  generalize hq : ((b₁.addCompletedSections t.completedSections).project.deriveDefaultCalendar
    ).numberUnidentified.numberOutline = q at h
  -- choosing the calendar, filling in ids and numbering write no dates
  have hkq : b₁.project.Keeps SummaryDates.ofTask q := by
    rw [← hq, addCompletedSections_project]
    exact (Project.keeps_deriveDefaultCalendar (fun _ => rfl) _).trans
      ((Project.keeps_numberUnidentified (fun _ _ => rfl) _).trans
        (Project.keeps_numberOutline (fun _ _ _ => rfl) _))
  obtain ⟨p', hp', hkeep⟩ : ∃ p', _ ∧ Project.Keeps SummaryDates.ofTask _ p' :=
    rollUpProgress_keeps (fun _ _ _ _ _ => rfl)
      { b₁.addCompletedSections t.completedSections with project := q.widenSummaryDates }
  have hb' : b'.project = p' := congrArg Builder.project (h.symm.trans hp')
  have hout : b'.project.outline = q.outline := by
    rw [hb', hkeep.outline]
    exact (Project.settledEdit_widenSummaryDates q).taskEdit.outline_eq
  have hqf : q.Forest := hforest.of_outline_eq hout.symm
  have hqu := hkq.summariesUndated hu₁
  have hw := hqf.widened_widenSummaryDates hqu
  have hch : b'.project.childrenOf = q.childrenOf := Project.childrenOf_of_outline_eq hout
  intro s hs
  rw [hch] at hs
  have hrolled := hqf.rolled_widenSummaryDates hqu hs
  have hleaf := hqf.exists_leafUnder_of_lt (Project.lt_size_of_childrenOf_ne_nil hs)
  -- the leaves keep their dates through the widening and the roll-up
  have hleaves : ∀ j, LeafUnder q.childrenOf s j →
      SummaryDates.ofTask (b'.project.task j) = SummaryDates.ofTask (q.task j) := by
    intro j hj
    rw [hb', hkeep.view j, hw.leaf j hj.2]
  have hdates : SummaryDates.ofTask (b'.project.task s) =
      SummaryDates.ofTask (q.widenSummaryDates.task s) := by
    rw [hb', hkeep.view s]
  refine ⟨by rw [hch]; exact hleaf, ?_, fun hall => ?_⟩
  · rw [hdates, hch]
    exact hrolled.congr (fun _ => Iff.rfl) hleaves
  · -- every leaf is finished, so the widened summary has an actual finish and is marked complete
    have hfin : (q.widenSummaryDates.task s).actualFinish.isSome := by
      refine (hrolled.isSome_iff hleaf).mpr fun j hj => ?_
      have hj' := hall j (by rw [hch]; exact hj)
      have he : (b'.project.task j).actualFinish = (q.task j).actualFinish :=
        congrArg SummaryDates.actualFinish (hleaves j hj)
      rwa [he] at hj'
    have hws : q.widenSummaryDates.childrenOf s ≠ [] := by
      rw [hw.childrenOf]
      exact hs
    rw [← h]
    exact rollUpProgress_finished hws hfin

/-- Reading the sample outline rolls the dates of the design bar's summary up from its tasks. -/
theorem sample_outline_rolls_up_summary_dates :
    ∃ b', ({} : Builder).processTasks Sample.outline = .ok b' ∧ b'.project.SummariesRolledUp := by
  obtain ⟨b', h⟩ := processTasks_ok {} Sample.outline_hours.1 Sample.outline_hours.2
  exact ⟨b', h, processTasks_rolls_up_summary_dates h⟩

end Builder

end Schedule
