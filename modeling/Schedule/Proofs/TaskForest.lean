import Mathlib.Data.List.Perm.Basic
import Schedule.Build.Rollup

/-!
# The task arena is a forest

Tasks live in one array and name each other by position: a task names its parent, a parent lists
its children, and the project lists its top-level tasks. These links are only ever written by
`Project.addTask`; everything else edits tasks in place without touching them.

## Main definitions

* `Task.links` — a task's parent and children.
* `Project.outline` — the top-level keys and the links of every task, which is all the outline
  is made of.
* `Project.Forest` — the links form a forest over the keys `0 … n - 1`.

## Main statements

* `Project.Forest.of_outline_eq` — being a forest depends on the outline alone.
* `Project.Forest.addTask` — adding a task at the top, or under a task that exists, keeps a
  forest.
* `Project.TaskEdit` — the tasks are edited outside their frames.
* `Project.SettledEdit` — the tasks are edited outside their frames and constraints; the passes
  that number the tasks, widen summary dates and roll up progress are such edits
  (`settledEdit_numberOutline`, `settledEdit_widenSummaryDates`,
  `Builder.rollUpProgress_settled`).
-/

namespace Schedule

/-- A task's place in the outline: its parent and its children. -/
def Task.links (t : Task) : Option TaskKey × List TaskKey := (t.parent, t.children)

/-- The fields of a task that only the building of the outline and the cross-reference steps
write: its links, its calendar, its user defined fields and its activity codes. -/
def Task.frame (t : Task) :
    (Option TaskKey × List TaskKey) × Option Int32 × CustomFields × List Int32 :=
  (t.links, t.calendarId, t.customFields, t.activityCodeValues)

/-- An edit of a task that leaves its parent and children as they were. -/
def Task.KeepsLinks (f : Task → Task) : Prop := ∀ t, (f t).links = t.links

/-- An edit of a task that leaves its frame as it was. -/
def Task.KeepsFrame (f : Task → Task) : Prop := ∀ t, (f t).frame = t.frame

/-- The scheduling constraint of a task: its type, its date and its deadline. -/
def Task.constraint (t : Task) : ConstraintType × Option Stamp × Option Stamp :=
  (t.constraintType, t.constraintDate, t.deadline)

/-- What the passes that finish the outline leave alone: a task's frame and its constraint. -/
def Task.settled (t : Task) :
    ((Option TaskKey × List TaskKey) × Option Int32 × CustomFields × List Int32) ×
      ConstraintType × Option Stamp × Option Stamp :=
  (t.frame, t.constraint)

/-- Editing one element by a function that a view does not see leaves the view of the list. -/
theorem map_modify_of_view {α β : Type} {π : α → β} {f : α → α}
    (hf : ∀ a, π (f a) = π a) (l : List α) (k : Nat) : (l.modify k f).map π = l.map π := by
  apply List.ext_getElem (by simp)
  intro i h₁ h₂
  simp only [List.getElem_map, List.getElem_modify]
  split <;> simp [hf _]

namespace Project

/-- The top-level keys and the links of each task: everything the outline is made of. -/
def outline (p : Project) : List TaskKey × List (Option TaskKey × List TaskKey) :=
  (p.childTasks, p.tasks.toList.map Task.links)

/-- Every key listed as a child: the top-level keys, then the children of each task in key
order. -/
def listedKeys (p : Project) : List TaskKey := p.childTasks ++ p.tasks.toList.flatMap Task.children

/-- The tasks form a forest: parent and child links agree, a parent comes before its children,
the top-level tasks are exactly those without a parent, and every key below the number of tasks
is listed exactly once, as a top-level task or as a child. -/
structure Forest (p : Project) : Prop where
  parent_iff : ∀ k < p.tasks.size, ∀ q, (p.task k).parent = some q ↔ k ∈ (p.task q).children
  parent_lt : ∀ k q, (p.task k).parent = some q → q < k
  top_iff : ∀ k < p.tasks.size, (p.task k).parent = none ↔ k ∈ p.childTasks
  listed_once : p.listedKeys.Perm (List.range p.tasks.size)

theorem task_eq (p : Project) (k : TaskKey) : p.task k = p.tasks[k]?.getD {} := by
  simp [task]

theorem task_links (p : Project) (k : TaskKey) :
    (p.task k).links = (p.outline.2[k]?).getD (none, []) := by
  simp only [task_eq, outline, List.getElem?_map, Array.getElem?_toList]
  cases p.tasks[k]? <;> rfl

theorem size_eq_outline (p : Project) : p.tasks.size = p.outline.2.length := by
  simp [outline]

theorem task_links_of_outline_eq {p p' : Project} (h : p'.outline = p.outline) (k : TaskKey) :
    (p'.task k).links = (p.task k).links := by
  rw [task_links, h, ← task_links]

theorem size_of_outline_eq {p p' : Project} (h : p'.outline = p.outline) :
    p'.tasks.size = p.tasks.size := by
  rw [size_eq_outline, h, ← size_eq_outline]

theorem listedKeys_eq_outline (p : Project) :
    p.listedKeys = p.outline.1 ++ p.outline.2.flatMap Prod.snd := by
  simp [listedKeys, outline, List.flatMap_map, Task.links]

/-- The children of every task are keys of tasks. -/
theorem Forest.lt_of_mem_listed {p : Project} (hf : p.Forest) {k : TaskKey}
    (hk : k ∈ p.listedKeys) : k < p.tasks.size :=
  List.mem_range.mp (hf.listed_once.subset hk)

theorem Forest.child_lt {p : Project} (hf : p.Forest) {q k : TaskKey}
    (hk : k ∈ (p.task q).children) : k < p.tasks.size := by
  apply hf.lt_of_mem_listed
  simp only [task_eq] at hk
  cases h : p.tasks[q]? with
  | none => simp [h] at hk
  | some t =>
    rw [h, Option.getD_some] at hk
    exact List.mem_append_right _
      (List.mem_flatMap.mpr ⟨t, Array.mem_toList_iff.mpr (Array.mem_of_getElem? h), hk⟩)

theorem Forest.top_lt {p : Project} (hf : p.Forest) {k : TaskKey} (hk : k ∈ p.childTasks) :
    k < p.tasks.size :=
  hf.lt_of_mem_listed (List.mem_append_left _ hk)

/-- Being a forest is a property of the outline. -/
theorem Forest.of_outline_eq {p p' : Project} (h : p'.outline = p.outline) (hf : p.Forest) :
    p'.Forest := by
  have hsize : p'.tasks.size = p.tasks.size := by rw [size_eq_outline, h, ← size_eq_outline]
  have hlinks : ∀ k, (p'.task k).links = (p.task k).links := by
    intro k; rw [task_links, h, ← task_links]
  have hparent : ∀ k, (p'.task k).parent = (p.task k).parent := fun k =>
    congrArg Prod.fst (hlinks k)
  have hchildren : ∀ k, (p'.task k).children = (p.task k).children := fun k =>
    congrArg Prod.snd (hlinks k)
  have htop : p'.childTasks = p.childTasks := congrArg Prod.fst h
  refine ⟨?_, ?_, ?_, ?_⟩
  · intro k hk q
    rw [hparent, hchildren]
    exact hf.parent_iff k (hsize ▸ hk) q
  · intro k q hq
    exact hf.parent_lt k q (hparent k ▸ hq)
  · intro k hk
    rw [hparent, htop]
    exact hf.top_iff k (hsize ▸ hk)
  · rw [listedKeys_eq_outline, h, ← listedKeys_eq_outline, hsize]
    exact hf.listed_once

/-! ### Adding a task -/

section AddTask

variable (p : Project) (parent : Option TaskKey)

@[simp] theorem addTask_key : (p.addTask parent).2 = p.tasks.size := by
  cases parent <;> rfl

@[simp] theorem addTask_size : (p.addTask parent).1.tasks.size = p.tasks.size + 1 := by
  cases parent <;> simp [addTask]

theorem addTask_childTasks :
    (p.addTask parent).1.childTasks =
      if parent = none then p.childTasks ++ [p.tasks.size] else p.childTasks := by
  cases parent <;> simp [addTask]

theorem addTask_task {parent : Option TaskKey}
    (hparent : ∀ q, parent = some q → q < p.tasks.size) (k : TaskKey) :
    (p.addTask parent).1.task k =
      let t := if k = p.tasks.size then ({ parent } : Task) else p.task k
      if parent = some k then { t with children := t.children ++ [p.tasks.size] } else t := by
  cases parent with
  | none =>
    simp only [addTask, task_eq, Array.getElem?_push, reduceCtorEq, if_false]
    split <;> simp
  | some q =>
    have hq := hparent q rfl
    simp only [addTask, task_eq, Array.getElem?_modify, Array.getElem?_push, Option.some.injEq]
    by_cases hk : k = p.tasks.size
    · subst hk
      simp [Nat.ne_of_lt hq]
    · by_cases hqk : q = k
      · subst hqk
        simp [hk, Array.getElem?_eq_getElem hq]
      · simp [hk, hqk]

end AddTask

theorem addTask_parent {p : Project} {parent : Option TaskKey}
    (hparent : ∀ q, parent = some q → q < p.tasks.size) (k : TaskKey) :
    ((p.addTask parent).1.task k).parent =
      if k = p.tasks.size then parent else (p.task k).parent := by
  rw [addTask_task p hparent]
  split <;> split <;> rfl

theorem addTask_children {p : Project} {parent : Option TaskKey}
    (hparent : ∀ q, parent = some q → q < p.tasks.size) (k : TaskKey) :
    ((p.addTask parent).1.task k).children =
      (if k = p.tasks.size then [] else (p.task k).children) ++
        (if parent = some k then [p.tasks.size] else []) := by
  rw [addTask_task p hparent]
  split <;> split <;> simp

/-- The new key is listed once more: at the top, or after its parent's children. -/
theorem addTask_listedKeys {p : Project} {parent : Option TaskKey}
    (hparent : ∀ q, parent = some q → q < p.tasks.size) :
    (p.addTask parent).1.listedKeys.Perm (p.listedKeys ++ [p.tasks.size]) := by
  cases parent with
  | none =>
    have hlhs : (p.addTask none).1.listedKeys =
        p.childTasks ++ p.tasks.size :: p.tasks.toList.flatMap Task.children := by
      simp [addTask, listedKeys]
    rw [hlhs, listedKeys]
    exact List.perm_middle.trans (List.perm_append_singleton _ _).symm
  | some q =>
    obtain ⟨l₁, t, l₂, hl, -, hmod⟩ := List.exists_of_modify
      (fun t : Task => { t with children := t.children ++ [p.tasks.size] })
      (l := p.tasks.toList ++ [{ parent := some q }])
      (by simpa using Nat.lt_succ_of_lt (hparent q rfl))
    -- the new task has no children, so the old children lists are the pieces around `t`
    have hflat : p.tasks.toList.flatMap Task.children =
        l₁.flatMap Task.children ++ t.children ++ l₂.flatMap Task.children := by
      have := congrArg (List.flatMap Task.children) hl
      simpa using this
    have hlhs : (p.addTask (some q)).1.listedKeys =
        (p.childTasks ++ l₁.flatMap Task.children ++ t.children) ++
          p.tasks.size :: l₂.flatMap Task.children := by
      simp [addTask, listedKeys, hmod]
    have hrhs : p.listedKeys =
        (p.childTasks ++ l₁.flatMap Task.children ++ t.children) ++
          l₂.flatMap Task.children := by
      simp [listedKeys, hflat]
    rw [hlhs, hrhs]
    exact List.perm_middle.trans (List.perm_append_singleton _ _).symm

/-- Adding a task at the top, or under a task that exists, keeps a forest. -/
theorem Forest.addTask {p : Project} (hf : p.Forest) {parent : Option TaskKey}
    (hparent : ∀ q, parent = some q → q < p.tasks.size) : (p.addTask parent).1.Forest := by
  -- the new key is nobody's child and no top-level task yet
  have hfresh : ∀ q, p.tasks.size ∉ (p.task q).children := fun q h =>
    Nat.lt_irrefl _ (hf.child_lt h)
  have hfresh_top : p.tasks.size ∉ p.childTasks := fun h => Nat.lt_irrefl _ (hf.top_lt h)
  refine ⟨?_, ?_, ?_, ?_⟩
  · intro k hk q
    rw [addTask_parent hparent, addTask_children hparent]
    rw [addTask_size] at hk
    by_cases hkn : k = p.tasks.size
    · subst hkn
      by_cases hq : parent = some q <;> simp [hq, hfresh]
    · have hk' : k < p.tasks.size := by omega
      by_cases hqn : q = p.tasks.size
      · subst hqn
        have : (p.task k).parent ≠ some p.tasks.size := fun h =>
          Nat.lt_asymm hk' (hf.parent_lt k _ h)
        simp [hkn, this]
      · simp [hkn, hqn, hf.parent_iff k hk' q]
  · intro k q hq
    rw [addTask_parent hparent] at hq
    by_cases hkn : k = p.tasks.size
    · rw [if_pos hkn] at hq
      rw [hkn]
      exact hparent q hq
    · rw [if_neg hkn] at hq
      exact hf.parent_lt k q hq
  · intro k hk
    rw [addTask_parent hparent, addTask_childTasks]
    rw [addTask_size] at hk
    by_cases hkn : k = p.tasks.size
    · subst hkn
      cases parent <;> simp [hfresh_top]
    · have hk' : k < p.tasks.size := by omega
      cases parent <;> simp [hkn, hf.top_iff k hk']
  · rw [addTask_size, List.range_succ]
    exact (addTask_listedKeys hparent).trans (hf.listed_once.append_right _)

/-! ### Edits outside the frame -/

/-- `p'` is `p` with its tasks edited outside their frames. -/
def TaskEdit (p p' : Project) : Prop :=
  ∃ ts : Array Task, p' = { p with tasks := ts } ∧
    ts.toList.map Task.frame = p.tasks.toList.map Task.frame

theorem TaskEdit.refl (p : Project) : p.TaskEdit p := ⟨p.tasks, rfl, rfl⟩

theorem TaskEdit.trans {p p' p'' : Project} (h₁ : p.TaskEdit p') (h₂ : p'.TaskEdit p'') :
    p.TaskEdit p'' := by
  obtain ⟨ts, rfl, hts⟩ := h₁
  obtain ⟨ts', rfl, hts'⟩ := h₂
  exact ⟨ts', rfl, hts'.trans hts⟩

theorem TaskEdit.outline_eq {p p' : Project} (h : p.TaskEdit p') : p'.outline = p.outline := by
  obtain ⟨ts, rfl, hts⟩ := h
  have := congrArg (List.map Prod.fst) hts
  simp only [List.map_map] at this
  exact Prod.ext rfl this

theorem taskEdit_modifyTask {f : Task → Task} (hf : Task.KeepsFrame f) (p : Project)
    (k : TaskKey) : p.TaskEdit (p.modifyTask k f) :=
  ⟨_, rfl, by simp only [Array.toList_modify]; exact map_modify_of_view hf _ _⟩

/-- `p'` is `p` with its tasks edited outside their frames and their constraints. -/
def SettledEdit (p p' : Project) : Prop :=
  ∃ ts : Array Task, p' = { p with tasks := ts } ∧
    ts.toList.map Task.settled = p.tasks.toList.map Task.settled

theorem SettledEdit.refl (p : Project) : p.SettledEdit p := ⟨p.tasks, rfl, rfl⟩

theorem SettledEdit.trans {p p' p'' : Project} (h₁ : p.SettledEdit p')
    (h₂ : p'.SettledEdit p'') : p.SettledEdit p'' := by
  obtain ⟨ts, rfl, hts⟩ := h₁
  obtain ⟨ts', rfl, hts'⟩ := h₂
  exact ⟨ts', rfl, hts'.trans hts⟩

/-- An edit that keeps frames and constraints keeps frames. -/
theorem SettledEdit.taskEdit {p p' : Project} (h : p.SettledEdit p') : p.TaskEdit p' := by
  obtain ⟨ts, rfl, hts⟩ := h
  have := congrArg (List.map Prod.fst) hts
  simp only [List.map_map] at this
  exact ⟨ts, rfl, this⟩

/-- An edit that keeps frames and constraints keeps the constraint of every task. -/
theorem SettledEdit.constraint {p p' : Project} (h : p.SettledEdit p') (k : TaskKey) :
    (p'.task k).constraint = (p.task k).constraint := by
  obtain ⟨ts, rfl, hts⟩ := h
  have hk := congrArg (fun l => (l[k]?).map Prod.snd) hts
  simp only [List.getElem?_map, Array.getElem?_toList, Option.map_map] at hk
  simp only [task_eq]
  cases h₁ : ts[k]? <;> cases h₂ : p.tasks[k]? <;> simp_all [Task.settled]

theorem settledEdit_modifyTask {f : Task → Task} (hf : ∀ t, (f t).settled = t.settled)
    (p : Project) (k : TaskKey) : p.SettledEdit (p.modifyTask k f) :=
  ⟨_, rfl, by simp only [Array.toList_modify]; exact map_modify_of_view hf _ _⟩

theorem outline_modifyTask {f : Task → Task} (hf : Task.KeepsLinks f) (p : Project)
    (k : TaskKey) : (p.modifyTask k f).outline = p.outline := by
  simp only [outline, modifyTask, Array.toList_modify]
  rw [map_modify_of_view hf]

/-! ### The passes that finish the outline -/

theorem outline_deriveDefaultCalendar (p : Project) :
    p.deriveDefaultCalendar.outline = p.outline := by
  simp only [deriveDefaultCalendar]
  split
  · simp only [outline, Array.toList_map, List.map_map, Prod.mk.injEq, true_and]
    congr 1
    funext t
    simp only [Function.comp_apply]
    split <;> rfl
  · split <;> rfl

/-- A fold that pushes each task, edited outside a view of it, onto an array. -/
theorem foldl_push_view {β σ : Type} {π : Task → β} (g : Array Task × σ → Task → Array Task × σ)
    (hg : ∀ acc t, ∃ t', (g acc t).1 = acc.1.push t' ∧ π t' = π t) :
    ∀ (ts : List Task) (acc : Array Task × σ),
      (ts.foldl g acc).1.toList.map π = acc.1.toList.map π ++ ts.map π
  | [], _ => by simp
  | t :: ts, acc => by
    obtain ⟨t', hpush, hview⟩ := hg acc t
    rw [List.foldl_cons, foldl_push_view g hg ts, hpush]
    simp [hview]

theorem settledEdit_numberUnidentified (p : Project) : p.SettledEdit p.numberUnidentified := by
  refine ⟨p.numberUnidentified.tasks, rfl, ?_⟩
  simp only [numberUnidentified, ← Array.foldl_toList]
  rw [foldl_push_view]
  · simp
  · intro acc t
    split <;> exact ⟨_, rfl, rfl⟩

theorem settledEdit_numberTask (s : Project × Int32) (e : TaskKey × Nat) :
    s.1.SettledEdit (numberTask s e).1 := by
  apply settledEdit_modifyTask
  exact fun _ => rfl

theorem settledEdit_numberStack : ∀ (fuel : Nat) (stack : List (TaskKey × Nat))
    (s : Project × Int32), s.1.SettledEdit (numberStack fuel stack s).1
  | 0, _, s => SettledEdit.refl s.1
  | _ + 1, [], s => SettledEdit.refl s.1
  | fuel + 1, (k, level) :: _, s =>
    (settledEdit_numberTask s (k, level)).trans (settledEdit_numberStack fuel _ _)

theorem settledEdit_numberOutline (p : Project) : p.SettledEdit p.numberOutline :=
  settledEdit_numberStack _ _ _

theorem settledEdit_widenDates : ∀ (fuel : Nat) (p : Project) (k : TaskKey),
    p.SettledEdit (widenDates fuel p k)
  | 0, p, _ => SettledEdit.refl p
  | fuel + 1, p, k => by
    simp only [widenDates]
    split
    · exact SettledEdit.refl p
    · -- every child is widened first, then the task itself
      refine SettledEdit.trans ?_ (settledEdit_modifyTask ?_ _ _)
      · exact List.foldlRecOn
          (motive := fun acc : Project × SummaryDates × Nat => p.SettledEdit acc.1)
          _ _ (SettledEdit.refl p) fun acc h c _ => h.trans (settledEdit_widenDates _ _ _)
      · exact fun _ => rfl

theorem settledEdit_widenSummaryDates (p : Project) : p.SettledEdit p.widenSummaryDates :=
  List.foldlRecOn (motive := fun q : Project => p.SettledEdit q) p.childTasks _
    (SettledEdit.refl p) fun _ h _ _ => h.trans (settledEdit_widenDates _ _ _)

end Project

/-- The progress roll-up edits tasks outside their frames and constraints, and nothing else. -/
theorem Builder.rollUpProgress_settled (b : Builder) :
    ∃ p, b.rollUpProgress = { b with project := p } ∧ b.project.SettledEdit p := by
  simp only [Builder.rollUpProgress]
  refine List.foldlRecOn
    (motive := fun b' : Builder => ∃ p, b' = { b with project := p } ∧ b.project.SettledEdit p)
    _ _ ⟨b.project, rfl, Project.SettledEdit.refl _⟩ ?_
  rintro b' ⟨p, rfl, hp⟩ k -
  simp only [Builder.rollUpTask]
  split
  · exact ⟨p, rfl, hp⟩
  · -- a summary's progress fields are the only ones written
    split
    · refine ⟨_, rfl, hp.trans (Project.settledEdit_modifyTask ?_ _ _)⟩
      exact fun _ => rfl
    · refine ⟨_, rfl, hp.trans (Project.settledEdit_modifyTask ?_ _ _)⟩
      intro t
      split
      · split <;> rfl
      · rfl

end Schedule
