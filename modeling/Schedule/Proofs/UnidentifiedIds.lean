import Schedule.Proofs.FinishingPasses

/-!
# Ids for the tasks without one

Once the tasks are read, every task without an id gets one, counting up from the greatest id in
use (0 when there is none) in arena order, in 32-bit arithmetic: the `i`-th task without an id
gets the greatest id plus `i`. The tasks that had an id keep it.

While the greatest id plus the number of tasks without one stays within the word, the new ids lie
above every id in use and below the end of the word, so they are all different from each other
and from the ids the tasks had (`FillsIds.injective`). At the end of the word the count wraps to
the most negative ids, which may be in use.

## Main definitions

* `Project.uniqueIds` — the ids of the tasks, in arena order.
* `Project.greatestId`, `Project.missingBefore`, `Project.filledId` — the greatest id present,
  how many ids are missing before a place, and the id each task ends with.
* `Project.FillsIds` — a project whose tasks carry the filled-in ids of a list.

## Main statements

* `Project.fillsIds_numberUnidentified` — the pass fills in the ids of its project.
* `Builder.processTasks_fills_unique_ids` — after the tasks are read, each task has the id it was
  created with or the next one counting up from the greatest, and short of the end of the word
  the ids filled in are new.
-/

namespace Schedule

namespace Project

/-- The ids of the tasks, in arena order. -/
def uniqueIds (p : Project) : List (Option Int32) := p.tasks.toList.map Task.uniqueId

/-- The greatest of the ids present, or 0 when there is none. -/
def greatestId (ids : List (Option Int32)) : Int :=
  ((ids.filterMap fun u => u).map Int32.toInt).max?.getD 0

/-- How many of the first `k` ids are missing. -/
def missingBefore (ids : List (Option Int32)) (k : Nat) : Nat :=
  ((ids.take k).filter Option.isNone).length

/-- The id at `k` once the missing ones are filled in: its own, or the greatest id present plus
the number of missing ones up to and including it, in 32-bit arithmetic. -/
def filledId (ids : List (Option Int32)) (k : Nat) : Int32 :=
  (ids.getD k none).getD (Int32.ofInt (greatestId ids + missingBefore ids k + 1))

/-- The ids of a list with the missing ones counted up from `c`. -/
def fillFrom (c : Int32) : List (Option Int32) → List (Option Int32)
  | [] => []
  | u :: us => some (u.getD (c + 1)) :: fillFrom (if u.isSome then c else c + 1) us

/-- A project whose tasks carry the ids of `ids` with the missing ones filled in. -/
structure FillsIds (ids : List (Option Int32)) (p : Project) : Prop where
  size : p.tasks.size = ids.length
  filled : ∀ k < ids.length, (p.task k).uniqueId = some (filledId ids k)

/-! ### The ids of a project -/

theorem length_uniqueIds (p : Project) : p.uniqueIds.length = p.tasks.size := by
  simp [uniqueIds]

theorem getD_uniqueIds (p : Project) {k : Nat} (hk : k < p.tasks.size) :
    p.uniqueIds.getD k none = (p.task k).uniqueId := by
  simp [uniqueIds, task, hk]

/-- Projects whose tasks look alike through their ids have the same ids. -/
theorem uniqueIds_of_keeps {p p' : Project} (h : p.Keeps Task.uniqueId p') :
    p'.uniqueIds = p.uniqueIds := by
  have hsize := size_of_outline_eq h.outline
  apply List.ext_getElem (by rw [length_uniqueIds, length_uniqueIds, hsize])
  intro k hk' hk
  rw [length_uniqueIds] at hk hk'
  have hv := h.view k
  simp only [task_eq, Array.getElem?_eq_getElem hk, Array.getElem?_eq_getElem hk',
    Option.getD_some] at hv
  simp [uniqueIds, hv]

/-! ### Counting the missing ids -/

theorem missingBefore_succ_of_none {ids : List (Option Int32)} {j : Nat} (hj : j < ids.length)
    (hnone : ids.getD j none = none) : missingBefore ids (j + 1) = missingBefore ids j + 1 := by
  have hget : ids[j]? = some none := by
    rw [List.getElem?_eq_getElem hj]
    simpa [List.getD_eq_getElem?_getD, List.getElem?_eq_getElem hj] using hnone
  simp [missingBefore, List.take_add_one, hget]

theorem missingBefore_mono (ids : List (Option Int32)) {j k : Nat} (h : j ≤ k) :
    missingBefore ids j ≤ missingBefore ids k :=
  ((List.take_sublist_take_left h).filter _).length_le

theorem missingBefore_le_count (ids : List (Option Int32)) (k : Nat) :
    missingBefore ids k ≤ (ids.filter Option.isNone).length :=
  ((List.take_sublist k ids).filter _).length_le

/-- Past a missing id, more ids are missing. -/
theorem missingBefore_lt_of_none {ids : List (Option Int32)} {j k : Nat} (hjk : j < k)
    (hj : j < ids.length) (hnone : ids.getD j none = none) :
    missingBefore ids j < missingBefore ids k := by
  have := missingBefore_mono ids (Nat.succ_le_of_lt hjk)
  rw [missingBefore_succ_of_none hj hnone] at this
  omega

/-! ### The greatest id -/

theorem le_greatestId {ids : List (Option Int32)} {u : Int32} (hu : some u ∈ ids) :
    u.toInt ≤ greatestId ids := by
  have hmem : u.toInt ∈ (ids.filterMap fun u => u).map Int32.toInt :=
    List.mem_map_of_mem (List.mem_filterMap.mpr ⟨some u, hu, rfl⟩)
  obtain ⟨a, ha⟩ := Option.isSome_iff_exists.mp (List.isSome_max?_of_mem hmem)
  rw [greatestId, ha, Option.getD_some]
  exact (List.max?_eq_some_iff.mp ha).2 _ hmem

/-- The greatest id is 0 or an id, so no less than the least word. -/
theorem neg_two_pow_le_greatestId (ids : List (Option Int32)) :
    -2147483648 ≤ greatestId ids := by
  rw [greatestId]
  cases ha : ((ids.filterMap fun u => u).map Int32.toInt).max? with
  | none => decide
  | some a =>
    obtain ⟨u, -, rfl⟩ := List.mem_map.mp (List.max?_mem ha)
    exact Int32.le_toInt u

/-! ### The pass -/

/-- A step of the fold that finds the greatest id: an id passed becomes the start, or is taken
into the greatest so far. -/
def GreatestStep (f : Option Int → Task → Option Int) : Prop :=
  ∀ m t, f m t = (t.uniqueId.map Int32.toInt).elim m fun u => some (m.elim u fun v => max v u)

/-- A step of the fold that pushes each task with its id or the next count. -/
def FillStep (g : Array Task × Int32 → Task → Array Task × Int32) : Prop :=
  ∀ acc t, ∃ t', g acc t = (acc.1.push t', if t.uniqueId.isSome then acc.2 else acc.2 + 1) ∧
    t'.uniqueId = some (t.uniqueId.getD (acc.2 + 1))

/-- The steps of the pass: a fold that finds the greatest id, and a fold that pushes each task
with its id or the next count. -/
theorem numberUnidentified_eq (p : Project) :
    ∃ (f : Option Int → Task → Option Int)
      (g : Array Task × Int32 → Task → Array Task × Int32), GreatestStep f ∧ FillStep g ∧
      p.numberUnidentified.tasks =
        (p.tasks.foldl g (#[], Int32.ofInt ((p.tasks.foldl f none).getD 0))).1 :=
  ⟨_, _, fun m t => by cases t.uniqueId <;> cases m <;> rfl,
    fun acc t => by
      cases h : t.uniqueId with
      | none => exact ⟨_, rfl, rfl⟩
      | some u => exact ⟨t, rfl, h⟩,
    rfl⟩

/-- The fold that finds the greatest id, from a start `m`, ends at the greatest of `m` and the
ids it passes. -/
theorem foldl_greatest_eq {f : Option Int → Task → Option Int} (hf : GreatestStep f) :
    ∀ (ts : List Task) (m : Option Int), ts.foldl f m =
      m.elim (((ts.map Task.uniqueId).filterMap fun u => u).map Int32.toInt).max? fun v =>
        some ((((ts.map Task.uniqueId).filterMap fun u => u).map Int32.toInt).foldl max v)
  | [], m => by cases m <;> rfl
  | t :: ts, m => by
    rw [List.foldl_cons, hf, foldl_greatest_eq hf ts]
    cases hu : t.uniqueId with
    | none =>
      simp only [Option.map_none, Option.elim_none, List.map_cons, hu, List.filterMap_cons_none]
    | some u =>
      simp only [Option.map_some, Option.elim_some, List.map_cons, hu]
      cases m <;> rfl

/-- Pushing the tasks one by one, each with its id or the next count, fills in their ids. -/
theorem foldl_fill {g : Array Task × Int32 → Task → Array Task × Int32} (hg : FillStep g) :
    ∀ (ts : List Task) (acc : Array Task × Int32),
      (ts.foldl g acc).1.toList.map Task.uniqueId =
        acc.1.toList.map Task.uniqueId ++ fillFrom acc.2 (ts.map Task.uniqueId)
  | [], _ => by simp [fillFrom]
  | t :: ts, acc => by
    obtain ⟨t', hpush, hid⟩ := hg acc t
    rw [List.foldl_cons, foldl_fill hg ts, hpush]
    simp [fillFrom, hid]

/-- The `k`-th id counted up from `c` is the id there, or `c` plus the missing ones up to it. -/
theorem getElem?_fillFrom : ∀ (c : Int32) (ids : List (Option Int32)) (k : Nat),
    (fillFrom c ids)[k]? =
      ids[k]?.map fun u => some (u.getD (c + Int32.ofNat (missingBefore ids k + 1)))
  | _, [], _ => rfl
  | c, u :: us, 0 => by simp [fillFrom, missingBefore]
  | c, u :: us, k + 1 => by
    rw [fillFrom, List.getElem?_cons_succ, getElem?_fillFrom, List.getElem?_cons_succ]
    -- a missing id at the head moves the count on by one
    cases u with
    | none =>
      have hcount : missingBefore (none :: us) (k + 1) = missingBefore us k + 1 := by
        simp [missingBefore]
      simp only [hcount, Option.isSome_none, Bool.false_eq_true, if_false, Int32.ofNat_add]
      rw [show Int32.ofNat 1 = 1 from rfl, Int32.add_assoc c 1, Int32.add_comm 1]
    | some v =>
      have hcount : missingBefore (some v :: us) (k + 1) = missingBefore us k := by
        simp [missingBefore]
      simp only [hcount, Option.isSome_some, if_true]

theorem length_fillFrom : ∀ (c : Int32) (ids : List (Option Int32)),
    (fillFrom c ids).length = ids.length
  | _, [] => rfl
  | _, _ :: us => by rw [fillFrom, List.length_cons, length_fillFrom _ us, List.length_cons]

theorem ofInt_add_ofNat (M : Int) (m : Nat) :
    Int32.ofInt M + Int32.ofNat (m + 1) = Int32.ofInt (M + m + 1) := by
  rw [← Int32.ofInt_eq_ofNat, ← Int32.ofInt_add]
  congr 1
  omega

/-- The pass gives every task its own id, or the greatest id plus the number of tasks without one
up to it. -/
theorem fillsIds_numberUnidentified (p : Project) : FillsIds p.uniqueIds p.numberUnidentified := by
  obtain ⟨f, g, hf, hg, htasks⟩ := p.numberUnidentified_eq
  have hgreatest : (p.tasks.foldl f none).getD 0 = greatestId p.uniqueIds := by
    rw [← Array.foldl_toList, foldl_greatest_eq hf]
    rfl
  have hids : p.numberUnidentified.uniqueIds =
      fillFrom (Int32.ofInt (greatestId p.uniqueIds)) p.uniqueIds := by
    rw [uniqueIds, htasks, hgreatest, ← Array.foldl_toList, foldl_fill hg]
    rfl
  have hlen : p.numberUnidentified.tasks.size = p.uniqueIds.length := by
    rw [← length_uniqueIds, hids, length_fillFrom]
  refine ⟨hlen, fun k hk => ?_⟩
  have hk' : k < p.numberUnidentified.tasks.size := hlen ▸ hk
  have hget := congrArg (·[k]?) hids
  simp only [getElem?_fillFrom, List.getElem?_eq_getElem hk, Option.map_some] at hget
  rw [← getD_uniqueIds _ hk', List.getD_eq_getElem?_getD, hget, Option.getD_some, filledId,
    List.getD_eq_getElem?_getD, List.getElem?_eq_getElem hk, Option.getD_some, ofInt_add_ofNat]

/-! ### New ids are new -/

/-- Short of the end of the word, an id filled in is no other task's: it is above every id
present, and the ids filled in count up. -/
theorem FillsIds.injective {ids : List (Option Int32)} {p : Project} (h : FillsIds ids p)
    (hroom : greatestId ids + (ids.filter Option.isNone).length ≤ 2147483647) {j k : Nat}
    (hj : j < ids.length) (hk : k < ids.length) (hnone : ids.getD j none = none)
    (heq : (p.task j).uniqueId = (p.task k).uniqueId) : j = k := by
  have hjk : filledId ids j = filledId ids k :=
    Option.some.inj ((h.filled j hj).symm.trans (heq.trans (h.filled k hk)))
  -- the id filled in at `j` does not wrap
  have hlow := neg_two_pow_le_greatestId ids
  have hcount : missingBefore ids j < (ids.filter Option.isNone).length :=
    Nat.lt_of_lt_of_le (missingBefore_lt_of_none (Nat.lt_succ_self j) hj hnone)
      (missingBefore_le_count ids (j + 1))
  have hval : (filledId ids j).toInt = greatestId ids + missingBefore ids j + 1 := by
    rw [filledId, hnone, Option.getD_none]
    exact Int32.toInt_ofInt_of_le (by omega) (by omega)
  cases hkid : ids.getD k none with
  | some u =>
    -- an id present is at most the greatest
    have hu : some u ∈ ids := by
      rw [List.getD_eq_getElem?_getD, List.getElem?_eq_getElem hk] at hkid
      exact hkid ▸ List.getElem_mem hk
    have hle := le_greatestId hu
    rw [hjk, filledId, hkid, Option.getD_some] at hval
    omega
  | none =>
    have hval' : (filledId ids k).toInt = greatestId ids + missingBefore ids k + 1 := by
      have hcount' : missingBefore ids k < (ids.filter Option.isNone).length :=
        Nat.lt_of_lt_of_le (missingBefore_lt_of_none (Nat.lt_succ_self k) hk hkid)
          (missingBefore_le_count ids (k + 1))
      rw [filledId, hkid, Option.getD_none]
      exact Int32.toInt_ofInt_of_le (by omega) (by omega)
    rw [hjk, hval'] at hval
    -- equal counts of missing ids before two missing places put them at one place
    rcases Nat.lt_trichotomy j k with hlt | heq' | hgt
    · have := missingBefore_lt_of_none hlt hj hnone
      omega
    · exact heq'
    · have := missingBefore_lt_of_none hgt hk hkid
      omega

/-- What keeps every task's id keeps the ids filled in. -/
theorem FillsIds.of_keeps {ids : List (Option Int32)} {p p' : Project} (h : FillsIds ids p)
    (hk : p.Keeps Task.uniqueId p') : FillsIds ids p' where
  size := (size_of_outline_eq hk.outline).trans h.size
  filled k hk' := (hk.view k).trans (h.filled k hk')

end Project

namespace Builder

/-- After the tasks are read, every task has an id: the one it was created with, or, for the
`i`-th task created without one, the greatest id it was created with (0 for none) plus `i`, in
32-bit arithmetic. While that count stays within the word, an id filled in is no other task's. -/
theorem processTasks_fills_unique_ids {b b' : Builder} {t : TaskTables}
    (h : b.processTasks t = .ok b') :
    ∃ b₁, createTasks none none b
        (buildRowHierarchy t.bars t.expandedTasks t.tasks t.milestones t.hammocks) = .ok b₁ ∧
      Project.FillsIds b₁.project.uniqueIds b'.project ∧
      (Project.greatestId b₁.project.uniqueIds +
          (b₁.project.uniqueIds.filter Option.isNone).length ≤ 2147483647 →
        ∀ j k, j < b'.project.tasks.size → k < b'.project.tasks.size →
          (b₁.project.task j).uniqueId = none →
          (b'.project.task j).uniqueId = (b'.project.task k).uniqueId → j = k) := by
  unfold processTasks at h
  obtain ⟨b₁, h₁, h⟩ := Reading.bind_eq_ok.mp h
  rw [Reading.pure_eq_ok, addCompletedSections_project] at h
  -- choosing the default calendar keeps the ids the tasks were created with
  have hids : b₁.project.deriveDefaultCalendar.uniqueIds = b₁.project.uniqueIds :=
    Project.uniqueIds_of_keeps (Project.keeps_deriveDefaultCalendar (fun _ => rfl) _)
  have hfill := Project.fillsIds_numberUnidentified b₁.project.deriveDefaultCalendar
  rw [hids] at hfill
  generalize b₁.project.deriveDefaultCalendar.numberUnidentified = q at h hfill
  -- numbering, widening and the roll-up keep every id
  obtain ⟨p', hp', hkeep⟩ : ∃ p', _ ∧ Project.Keeps Task.uniqueId _ p' :=
    rollUpProgress_keeps (fun _ _ _ _ _ => rfl)
      { b₁.addCompletedSections t.completedSections with
        project := q.numberOutline.widenSummaryDates }
  have hb' : b'.project = p' := congrArg Builder.project (h.symm.trans hp')
  have hkeeps : q.Keeps Task.uniqueId b'.project :=
    hb' ▸ ((Project.keeps_numberOutline (fun _ _ _ => rfl) q).trans
      (Project.keeps_widenSummaryDates (fun _ _ _ => rfl) _)).trans hkeep
  have hfilled := hfill.of_keeps hkeeps
  refine ⟨b₁, h₁, hfilled, fun hroom j k hj hk hnone heq => ?_⟩
  have hlen := hfilled.size
  rw [Project.length_uniqueIds] at hlen
  refine hfilled.injective hroom (by rw [Project.length_uniqueIds, ← hlen]; exact hj)
    (by rw [Project.length_uniqueIds, ← hlen]; exact hk) ?_ heq
  rw [Project.getD_uniqueIds _ (hlen ▸ hj), hnone]

/-- Reading the sample outline gives its hammock, which carries no task id, an id above those the
outline's records carry. -/
theorem sample_outline_fills_unique_ids :
    ∃ b', ({} : Builder).processTasks Sample.outline = .ok b' ∧
      ∃ b₁, createTasks none none {} (buildRowHierarchy Sample.outline.bars
          Sample.outline.expandedTasks Sample.outline.tasks Sample.outline.milestones
          Sample.outline.hammocks) = .ok b₁ ∧
        Project.FillsIds b₁.project.uniqueIds b'.project ∧
        (Project.greatestId b₁.project.uniqueIds +
            (b₁.project.uniqueIds.filter Option.isNone).length ≤ 2147483647 →
          ∀ j k, j < b'.project.tasks.size → k < b'.project.tasks.size →
            (b₁.project.task j).uniqueId = none →
            (b'.project.task j).uniqueId = (b'.project.task k).uniqueId → j = k) := by
  obtain ⟨b', h⟩ := processTasks_ok {} Sample.outline_hours.1 Sample.outline_hours.2
  exact ⟨b', h, processTasks_fills_unique_ids h⟩

end Builder

end Schedule
