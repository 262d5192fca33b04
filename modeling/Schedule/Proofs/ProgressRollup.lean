import Mathlib.Data.List.Induction
import Schedule.Proofs.SummaryDates

/-!
# Progress of summary tasks, rolled up at once

The progress pass visits the tasks in key order and rewrites each summary in place, from sums
over the leaves under it: the tasks without children of its subtree, in outline order. Another
summary may read the same subtree later, but it only ever reads leaves, and the pass writes
summaries only. So the pass computes every summary from the tasks as they were before it, and
the order of the visits does not matter: visiting the summaries in any order, each once, writes
what computing each summary apart and writing them all at once writes (`progressAtOnce`).

The sums run over the leaves in outline order, each a running total from the left. The pass keeps
the five totals in one record as it walks the leaves; `progressTotals_eq` splits them.

## Main definitions

* `Project.leavesInOrder` — the tasks without children under a task, in outline order.
* `Builder.summaryProgress`, `Builder.progressAtOnce` — a summary's progress from its leaves, and
  every summary's written at once.

## Main statements

* `Project.leavesUnder_eq_walk` — the leaves the pass gathers are those of the outline walk.
* `Builder.rollUpTask_progressedAt` — one visit writes one summary from the tasks as they were.
* `Builder.progress_rolls_up_at_once` — the pass, in key order or in any other order that visits
  every summary once, writes every summary's progress at once.
-/

namespace Schedule

/-- A running total of doubles from the left. -/
def sumFloats (xs : List Float) : Float := xs.foldl (· + ·) 0.0

theorem sumFloats_append_singleton (xs : List Float) (x : Float) :
    sumFloats (xs ++ [x]) = sumFloats xs + x := by
  simp [sumFloats]

namespace Project

/-- The tasks without children under `s` in outline order, `s` itself when it has none. The walk
goes as many levels deep as there are tasks, so in a forest it reaches every task under `s`. -/
def leavesInOrder (p : Project) (s : TaskKey) : List TaskKey :=
  ((outlineWalk p.childrenOf (p.tasks.size + 1) 0 [s]).map Prod.fst).filter
    fun j => (p.childrenOf j).isEmpty

theorem outlineWalk_eq_flatMap (ch : TaskKey → List TaskKey) (fuel level : Nat)
    (keys : List TaskKey) :
    outlineWalk ch fuel level keys = keys.flatMap fun k => outlineWalk ch fuel level [k] := by
  cases fuel with
  | zero => simp
  | succ fuel => simp [outlineWalk]

/-- The leaves the pass gathers under a task are the tasks without children of the outline walk
from it, for the same depth. -/
theorem leavesUnder_eq_walk (p : Project) : ∀ (fuel level : Nat) (k : TaskKey),
    p.leavesUnder fuel k =
      ((outlineWalk p.childrenOf fuel level [k]).map Prod.fst).filter
        fun j => (p.childrenOf j).isEmpty
  | 0, _, _ => by simp [leavesUnder]
  | fuel + 1, level, k => by
    rw [leavesUnder, outlineWalk_cons, outlineWalk_nil, List.append_nil, List.map_cons,
      List.filter_cons]
    by_cases hk : (p.childrenOf k).isEmpty
    · have hnil : p.childrenOf k = [] := List.isEmpty_iff.mp hk
      rw [if_pos (by simpa [childrenOf] using hk), if_pos hk, hnil, outlineWalk_nil]
      rfl
    · -- a summary: its leaves are those under its children, one child after the other
      rw [if_neg (by simpa [childrenOf] using hk), if_neg hk,
        outlineWalk_eq_flatMap p.childrenOf fuel (level + 1), List.map_flatMap,
        List.filter_flatMap]
      exact List.flatMap_congr fun c _ => leavesUnder_eq_walk p fuel (level + 1) c

end Project

namespace Builder

/-- The weight of a task, zero when it has none. -/
def leafWeight (b : Builder) (j : TaskKey) : Float := ((b.weights.get? j).bind id).getD 0.0

/-- The progress of a summary `s` computed from the leaves under it in `b`, each sum a running
total over the leaves in outline order: complete when it has an actual finish; else the overall
percent weighted by the leaves' weights (by 1 when they weigh nothing), and the percent from the
leaves' actual durations against their durations, or, when the leaves have no duration, their
average percent, left as it was when that is zero. -/
def summaryProgress (b : Builder) (s : TaskKey) : Task :=
  let t := b.project.task s
  if t.actualFinish.isSome then { t with percentComplete := some 100.0 }
  else
    let leaves := b.project.leavesInOrder s
    let sum (f : Task → Float) : Float := sumFloats (leaves.map fun j => f (b.project.task j))
    let weight := sumFloats (leaves.map b.leafWeight)
    let duration := sum fun l => (l.duration.map (·.value)).getD 0.0
    let percent := sum fun l => l.percentComplete.getD 0.0
    let overall := sum fun l => l.overallPercentComplete.getD 0.0
    let t := { t with
      overallPercentComplete := some (overall / if weight == 0.0 then 1.0 else weight) }
    if duration == 0.0 then
      if percent == 0.0 then t
      else { t with percentComplete := some (percent / leaves.length.toFloat) }
    else
      let d := t.duration.getD Duration.zero
      let p := sum (fun l => (l.actualDuration.map (·.value)).getD 0.0) / duration * 100.0
      { t with percentComplete := some p,
               actualDuration := some { value := d.value * p / 100.0, units := d.units },
               remainingDuration := some
                 { value := d.value - d.value * p / 100.0, units := d.units } }

/-- The progress of task `k` written at once: a summary's computed from `b`, others as they
are. -/
def progressOf (b : Builder) (k : TaskKey) (t : Task) : Task :=
  if t.isSummary then b.summaryProgress k else t

/-- Every summary's progress computed from `b` and all written at once. -/
def progressAtOnce (b : Builder) : Builder :=
  { b with project := { b.project with tasks := b.project.tasks.mapIdx b.progressOf } }

/-! ### The five totals -/

/-- The pass's totals are the five running totals over the leaves. -/
theorem progressTotals_eq (b : Builder) (leaves : List TaskKey) :
    b.progressTotals leaves =
      { percent := sumFloats (leaves.map fun j => (b.project.task j).percentComplete.getD 0.0),
        overall :=
          sumFloats (leaves.map fun j => (b.project.task j).overallPercentComplete.getD 0.0),
        weight := sumFloats (leaves.map b.leafWeight),
        actual := sumFloats (leaves.map fun j =>
          ((b.project.task j).actualDuration.map (·.value)).getD 0.0),
        duration := sumFloats (leaves.map fun j =>
          ((b.project.task j).duration.map (·.value)).getD 0.0) } := by
  induction leaves using List.reverseRecOn with
  | nil => rfl
  | append_singleton ls j ih =>
    rw [progressTotals, List.foldl_append, ← progressTotals, ih]
    simp only [List.map_append, List.map_singleton, sumFloats_append_singleton,
      List.foldl_cons, List.foldl_nil, leafWeight]

/-! ### Rolling up one summary at a time -/

/-- `b` with the tasks among `done` written as `progressAtOnce` writes them, the others as they
are. -/
def progressedAt (b : Builder) (done : List TaskKey) : Builder :=
  { b with project := { b.project with
      tasks := b.project.tasks.mapIdx fun k t => if k ∈ done then b.progressOf k t else t } }

variable (b : Builder)

theorem progressOf_of_not_summary {t : Task} (h : t.isSummary = false) (k : TaskKey) :
    b.progressOf k t = t := by
  simp [progressOf, h]

@[simp] theorem children_summaryProgress (s : TaskKey) :
    (b.summaryProgress s).children = (b.project.task s).children := by
  simp only [summaryProgress]
  split_ifs <;> rfl

theorem task_progressedAt (done : List TaskKey) (j : TaskKey) :
    (b.progressedAt done).project.task j =
      if j ∈ done then b.progressOf j (b.project.task j) else b.project.task j := by
  rw [Project.task_eq, Project.task_eq]
  simp only [progressedAt, Array.getElem?_mapIdx]
  cases b.project.tasks[j]? with
  | none => simp [progressOf, Task.isSummary]
  | some t => by_cases hj : j ∈ done <;> simp [hj]

/-- Writing summaries leaves every task's children as they are. -/
theorem childrenOf_progressedAt (done : List TaskKey) :
    (b.progressedAt done).project.childrenOf = b.project.childrenOf := by
  funext j
  rw [Project.childrenOf, Project.childrenOf, task_progressedAt]
  split_ifs
  · unfold progressOf
    split_ifs <;> simp
  · rfl

/-- A task without children is never written. -/
theorem task_progressedAt_of_leaf (done : List TaskKey) {j : TaskKey}
    (hj : (b.project.childrenOf j).isEmpty) :
    (b.progressedAt done).project.task j = b.project.task j := by
  have hleaf : (b.project.task j).isSummary = false := by
    simpa [Task.isSummary, Project.childrenOf] using hj
  rw [task_progressedAt, progressOf_of_not_summary b hleaf]
  split_ifs <;> rfl

/-- The pass gathers a summary's leaves as they were. -/
theorem leavesUnder_progressedAt (done : List TaskKey) (k : TaskKey) :
    (b.progressedAt done).project.leavesUnder (b.project.tasks.size + 1) k =
      b.project.leavesInOrder k := by
  rw [Project.leavesUnder_eq_walk _ _ 0, childrenOf_progressedAt]
  rfl

/-- The totals over some leaves depend on those leaves' tasks and on the weights only. -/
theorem progressTotals_congr {b₁ b₂ : Builder} (hw : b₁.weights = b₂.weights)
    {leaves : List TaskKey} (ht : ∀ j ∈ leaves, b₁.project.task j = b₂.project.task j) :
    b₁.progressTotals leaves = b₂.progressTotals leaves := by
  have hweight : b₁.leafWeight = b₂.leafWeight := by
    funext j
    rw [leafWeight, leafWeight, hw]
  rw [progressTotals_eq, progressTotals_eq, hweight]
  -- each of the other four totals sums one field of the same tasks
  congr 1 <;> exact congrArg sumFloats (List.map_congr_left fun j hj => by rw [ht j hj])

/-- The pass sums over the leaves as they were. -/
theorem progressTotals_progressedAt (done : List TaskKey) (k : TaskKey) :
    (b.progressedAt done).progressTotals (b.project.leavesInOrder k) =
      b.progressTotals (b.project.leavesInOrder k) := by
  have hw : (b.progressedAt done).weights = b.weights := rfl
  refine progressTotals_congr hw fun j hj => ?_
  rw [Project.leavesInOrder, List.mem_filter] at hj
  exact task_progressedAt_of_leaf b done hj.2

/-- Writing one more task. -/
theorem modifyTask_progressedAt {done : List TaskKey} {k : TaskKey} (hk : k ∉ done)
    {f : Task → Task} (hf : f (b.project.task k) = b.progressOf k (b.project.task k)) :
    (b.progressedAt done).modifyTask k f = b.progressedAt (done ++ [k]) := by
  simp only [progressedAt, modifyTask, Project.modifyTask]
  congr 2
  symm
  rw [Array.mapIdx_eq_iff]
  intro i
  rw [Array.getElem?_modify, Array.getElem?_mapIdx]
  by_cases hki : k = i
  · subst hki
    cases h : b.project.tasks[k]? with
    | none => simp
    | some t =>
      have ht : b.project.task k = t := by simp [Project.task_eq, h]
      simp [hk, ← ht, hf]
  · have hmem : (i ∈ done ++ [k]) ↔ i ∈ done := by simp [Ne.symm hki]
    simp only [hki, if_false, hmem]

/-- Visiting a summary not visited before writes it from the tasks as they were. -/
theorem rollUpTask_progressedAt {done : List TaskKey} {k : TaskKey} (hk : k ∉ done) :
    rollUpTask (b.project.tasks.size + 1) (b.progressedAt done) k =
      b.progressedAt (done ++ [k]) := by
  have htask : (b.progressedAt done).project.task k = b.project.task k := by
    rw [task_progressedAt, if_neg hk]
  cases hs : (b.project.task k).isSummary
  · -- not a summary: the visit changes nothing
    have h : rollUpTask (b.project.tasks.size + 1) (b.progressedAt done) k =
        (b.progressedAt done).modifyTask k id := by
      simp [rollUpTask, htask, hs, modifyTask]
    rw [h]
    exact modifyTask_progressedAt b hk (progressOf_of_not_summary b hs k).symm
  · cases hfin : (b.project.task k).actualFinish.isSome
    · -- an unfinished summary: sums over its leaves
      simp only [rollUpTask, htask, hs, hfin, Bool.not_true, Bool.false_eq_true, if_false,
        leavesUnder_progressedAt, progressTotals_progressedAt]
      apply modifyTask_progressedAt b hk
      simp only [progressOf, hs, if_true, summaryProgress, hfin, Bool.false_eq_true, if_false,
        progressTotals_eq]
    · -- a finished summary: marked complete
      simp only [rollUpTask, htask, hs, hfin, Bool.not_true, Bool.false_eq_true, if_false, if_true]
      apply modifyTask_progressedAt b hk
      simp [progressOf, hs, summaryProgress, hfin]

theorem progressedAt_nil : b.progressedAt [] = b := by
  simp only [progressedAt, List.not_mem_nil, if_false]
  congr
  rw [Array.mapIdx_eq_iff]
  simp

/-- Visiting summaries one after another, none twice. The induction is on the keys still to
visit; `done` holds those visited. -/
theorem foldl_rollUpTask_progressedAt : ∀ (keys done : List TaskKey), (done ++ keys).Nodup →
    keys.foldl (rollUpTask (b.project.tasks.size + 1)) (b.progressedAt done) =
      b.progressedAt (done ++ keys)
  | [], done, _ => by simp
  | k :: keys, done, hnd => by
    have hk : k ∉ done := fun h => List.disjoint_of_nodup_append hnd h List.mem_cons_self
    rw [List.foldl_cons, rollUpTask_progressedAt b hk,
      foldl_rollUpTask_progressedAt keys (done ++ [k]) (by simpa using hnd)]
    simp

/-- Once every summary is visited, every summary is written. -/
theorem progressedAt_eq_progressAtOnce {keys : List TaskKey}
    (hkeys : ∀ k, (b.project.task k).isSummary → k ∈ keys) :
    b.progressedAt keys = b.progressAtOnce := by
  simp only [progressedAt, progressAtOnce]
  congr 2
  rw [Array.mapIdx_eq_mapIdx_iff]
  intro i hi
  have ht : b.project.task i = b.project.tasks[i] := by simp [Project.task_eq, hi]
  split_ifs with hin
  · rfl
  · -- a task the visits skip is no summary
    have hs : (b.project.tasks[i]).isSummary = false := by
      cases h : (b.project.tasks[i]).isSummary
      · rfl
      · exact absurd (hkeys i (ht ▸ h)) hin
    exact (progressOf_of_not_summary b hs i).symm

/-- The progress pass writes every summary from its leaves as they were before the pass, as if
all at once: leaves are never written, so the pass gives the same whatever the order of its
visits, as long as it visits every summary once. -/
theorem progress_rolls_up_at_once :
    b.rollUpProgress = b.progressAtOnce ∧
      ∀ keys : List TaskKey, keys.Nodup → (∀ k, (b.project.task k).isSummary → k ∈ keys) →
        keys.foldl (rollUpTask (b.project.tasks.size + 1)) b = b.progressAtOnce := by
  have hany : ∀ keys : List TaskKey, keys.Nodup →
      (∀ k, (b.project.task k).isSummary → k ∈ keys) →
        keys.foldl (rollUpTask (b.project.tasks.size + 1)) b = b.progressAtOnce := by
    intro keys hnd hkeys
    have h := foldl_rollUpTask_progressedAt b keys [] hnd
    rw [progressedAt_nil, List.nil_append] at h
    rw [h, progressedAt_eq_progressAtOnce b hkeys]
  refine ⟨hany _ List.nodup_range fun k hk => ?_, hany⟩
  -- every summary has a key of the arena
  have hne : b.project.childrenOf k ≠ [] := by
    simpa [Task.isSummary, Project.childrenOf] using hk
  exact List.mem_range.mpr (Project.lt_size_of_childrenOf_ne_nil hne)

end Builder

end Schedule
