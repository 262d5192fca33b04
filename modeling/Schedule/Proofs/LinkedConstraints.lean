import Mathlib.Data.List.ReduceOption
import Schedule.Proofs.TaskImage
import Schedule.Proofs.StoredKeys
import Schedule.Proofs.FieldReading

/-!
# Constraints that wait for links

A task or milestone record with constraint flag 0 and placement 1 asks for its task to be as late
as possible when the task has predecessors, and to start no earlier than the record's start
constraint date otherwise. Predecessors are only known once the links are read, so reading the
tasks gives such a task the second constraint and remembers it; reading the links then makes every
remembered task that a link ends at as late as possible.

This module follows that decision across the steps. Reading links adds, in order, the relation of
every link whose two ends are known, and then makes the remembered successors late
(`processPredecessors_eq_ok`); so the result depends on the order of the links only through the
order of the relations (`processPredecessors_perm`). Reading tasks remembers exactly the tasks
filled from waiting records and gives them their start constraint (`processTasks_setsConstraints`),
and no step but reading links changes the constraint of a task that exists or whether it waits
(`KeepsConstraints.steps`).

## Main definitions

* `Task.asLate` — a task made as late as possible, without a constraint date.
* `Builder.LinksInto` — some link has both ends known and ends at a task.
* `Builder.linkRelation` — the relation a link gives, if its ends are known.
* `Builder.settleLinks` — the builder once a list of relations is added.
* `Row.waitsForLinks` — a task or milestone record whose constraint waits for links.
* `PlannedTask.recordsList` — the records planned tasks are filled from, with their keys.
* `Builder.SetsConstraints`, `Builder.KeepsConstraints` — what creating tasks, and every other
  step, does to constraints.
* `Builder.SettledByLinks` — what reading links after reading tasks decides.

## Main statements

* `Builder.processPredecessors_eq_ok` — reading links is adding their relations.
* `Builder.processPredecessors_perm` — the order of the links only orders the relations.
* `Builder.processTasks_setsConstraints` — reading tasks remembers the waiting records' tasks.
* `Builder.waiting_constraints_settle_on_links` — the decision, from reading the tasks to
  reading the links, over any steps in between but links.
-/

namespace Schedule

/-! ### Traversals that may fail -/

/-- A traversal that succeeds succeeds on any permutation of its input, with its results
permuted alike. -/
theorem Reading.mapM_perm {α β : Type} {f : α → Reading β} {l l' : List α} (hp : l.Perm l') :
    ∀ {rs : List β}, l.mapM f = .ok rs → ∃ rs', l'.mapM f = .ok rs' ∧ rs'.Perm rs := by
  induction hp with
  | nil => exact fun h => ⟨_, h, List.Perm.refl _⟩
  | cons a _ ih =>
    intro rs h
    rw [List.mapM_cons] at h
    obtain ⟨r, hr, h⟩ := Reading.bind_eq_ok.mp h
    obtain ⟨rs₁, h₁, h⟩ := Reading.bind_eq_ok.mp h
    rw [Reading.pure_eq_ok] at h
    obtain ⟨rs₂, h₂, hperm⟩ := ih h₁
    refine ⟨r :: rs₂, ?_, h ▸ hperm.cons r⟩
    simp [List.mapM_cons, hr, h₂, bind, Except.bind, pure, Except.pure]
  | swap a a' l =>
    intro rs h
    rw [List.mapM_cons] at h
    obtain ⟨r', hr', h⟩ := Reading.bind_eq_ok.mp h
    obtain ⟨rs₀, h₀, h⟩ := Reading.bind_eq_ok.mp h
    rw [List.mapM_cons] at h₀
    obtain ⟨r, hr, h₀⟩ := Reading.bind_eq_ok.mp h₀
    obtain ⟨rs₁, h₁, h₀⟩ := Reading.bind_eq_ok.mp h₀
    rw [Reading.pure_eq_ok] at h h₀
    subst h₀ h
    refine ⟨r :: r' :: rs₁, ?_, List.Perm.swap r' r rs₁⟩
    simp [List.mapM_cons, hr, hr', h₁, bind, Except.bind, pure, Except.pure]
  | trans _ _ ih₁ ih₂ =>
    intro rs h
    obtain ⟨rs₁, h₁, p₁⟩ := ih₁ h
    obtain ⟨rs₂, h₂, p₂⟩ := ih₂ h₁
    exact ⟨rs₂, h₂, p₂.trans p₁⟩

/-- When each input gives a property of the input exactly when its result has one, a successful
traversal has an input with the property exactly when it has a result with the other. -/
theorem Reading.mapM_exists_iff {α β : Type} {f : α → Reading β} {P : α → Prop} {Q : β → Prop}
    (hPQ : ∀ a r, f a = .ok r → (P a ↔ Q r)) :
    ∀ {l : List α} {rs : List β}, l.mapM f = .ok rs → ((∃ a ∈ l, P a) ↔ ∃ r ∈ rs, Q r)
  | [], rs, h => by
    simp only [List.mapM_nil, Reading.pure_eq_ok] at h
    simp [← h]
  | a :: l, rs, h => by
    rw [List.mapM_cons] at h
    obtain ⟨r, hr, h⟩ := Reading.bind_eq_ok.mp h
    obtain ⟨rs₁, h₁, h⟩ := Reading.bind_eq_ok.mp h
    rw [Reading.pure_eq_ok] at h
    subst h
    simp only [List.mem_cons, exists_eq_or_imp, hPQ a r hr, mapM_exists_iff hPQ h₁]

/-! ### Reading links -/

/-- A task made as late as possible, without a constraint date. -/
def Task.asLate (t : Task) : Task :=
  { t with constraintType := .asLateAsPossible, constraintDate := none }

@[simp] theorem Task.asLate_asLate (t : Task) : t.asLate.asLate = t.asLate := rfl

namespace Builder

/-- Some link has both ends known, and ends at task `k`. -/
def LinksInto (b : Builder) (links : List Row) (k : TaskKey) : Prop :=
  ∃ l ∈ links, (b.taskFor? (l.integer? "START_TASK")).isSome ∧
    b.taskFor? (l.integer? "END_TASK") = some k

instance (b : Builder) (links : List Row) (k : TaskKey) : Decidable (b.LinksInto links k) := by
  unfold LinksInto
  infer_instance

/-- The relation a link gives when both its ends are known tasks; its lags must decode. -/
def linkRelation (b : Builder) (row : Row) : Reading (Option Relation) :=
  match b.taskFor? (row.integer? "START_TASK"), b.taskFor? (row.integer? "END_TASK") with
  | some predecessor, some successor => do
    let startLag ← liftData (row.duration "START_LAG_TIME")
    let endLag ← liftData (row.duration "END_LAG_TIME")
    pure (some { uniqueId := row.integer? "ID", predecessor, successor,
                 relationType := RelationType.ofLinkKind (row.int "LINK_KIND"),
                 lag := linkLag startLag endLag })
  | _, _ => pure none

/-- Adds a relation after the others; its successor, when it waits for its links, becomes as
late as possible. -/
def withRelation (b : Builder) (r : Relation) : Builder :=
  let b := { b with project := { b.project with relations := b.project.relations ++ [r] } }
  if b.deferred.contains r.successor then b.modifyTask r.successor Task.asLate else b

/-- Reading a link is finding its relation, then adding it. -/
theorem addLink_eq (b : Builder) (row : Row) :
    b.addLink row = b.linkRelation row >>= fun o => pure (o.elim b b.withRelation) := by
  cases hs : b.taskFor? (row.integer? "START_TASK") with
  | none => simp only [addLink, linkRelation, hs]; rfl
  | some p =>
    cases he : b.taskFor? (row.integer? "END_TASK") with
    | none => simp only [addLink, linkRelation, hs, he]; rfl
    | some s =>
      simp only [addLink, linkRelation, hs, he]
      cases liftData (row.duration "START_LAG_TIME") <;>
        cases liftData (row.duration "END_LAG_TIME")
      case ok.ok =>
        -- the successor's wait is checked once the relation is added
        by_cases hd : b.deferred.contains s = true
        · simp only [hd, withRelation, bind, Except.bind, pure, Except.pure, if_true, Option.elim]
          rfl
        · simp [hd, withRelation, bind, Except.bind, pure, Except.pure]
      all_goals rfl

/-- A link found to have a relation has both ends known, the relation ending at its end task. -/
theorem linkRelation_successor {b : Builder} {row : Row} {o : Option Relation}
    (h : b.linkRelation row = .ok o) (k : TaskKey) :
    ((b.taskFor? (row.integer? "START_TASK")).isSome ∧
        b.taskFor? (row.integer? "END_TASK") = some k) ↔
      ∃ r, o = some r ∧ r.successor = k := by
  unfold linkRelation at h
  split at h
  · rename_i predecessor successor hp hs
    obtain ⟨_, -, h⟩ := Reading.bind_eq_ok.mp h
    obtain ⟨_, -, h⟩ := Reading.bind_eq_ok.mp h
    rw [Reading.pure_eq_ok] at h
    subst h
    simp [hp, hs]
  · rename_i hends
    rw [Reading.pure_eq_ok] at h
    subst h
    -- one of the ends is unknown
    simp only [reduceCtorEq, false_and, exists_false, iff_false, not_and]
    intro hstart hend
    obtain ⟨p, hp⟩ := Option.isSome_iff_exists.mp hstart
    exact hends p k hp hend

/-- The builder once the relations `rs` are added: they follow the others, and every task that
waits for its links and is the successor of one of them becomes as late as possible. -/
def settleLinks (b : Builder) (rs : List Relation) : Builder :=
  { b with project := { b.project with
      relations := b.project.relations ++ rs,
      tasks := b.project.tasks.mapIdx fun k t =>
        if b.deferred.contains k && rs.any (·.successor == k) then t.asLate else t } }

theorem settleLinks_tasks (b : Builder) (rs : List Relation) (k : TaskKey) :
    (b.settleLinks rs).project.tasks[k]? = b.project.tasks[k]?.map fun t =>
      if k ∈ b.deferred ∧ ∃ r ∈ rs, r.successor = k then t.asLate else t := by
  simp [settleLinks, Array.getElem?_mapIdx, Std.HashSet.contains_iff_mem]

theorem settleLinks_task (b : Builder) (rs : List Relation) {k : TaskKey}
    (hk : k < b.project.tasks.size) :
    (b.settleLinks rs).project.task k =
      if k ∈ b.deferred ∧ ∃ r ∈ rs, r.successor = k then (b.project.task k).asLate
      else b.project.task k := by
  simp only [Project.task_eq, settleLinks_tasks, Array.getElem?_eq_getElem hk, Option.map_some,
    Option.getD_some]

/-- A task that is not remembered, or that no relation ends at, is left as it was. -/
theorem settleLinks_task_of_not {b : Builder} {rs : List Relation} {k : TaskKey}
    (h : ¬(k ∈ b.deferred ∧ ∃ r ∈ rs, r.successor = k)) :
    (b.settleLinks rs).project.task k = b.project.task k := by
  simp only [Project.task_eq, settleLinks_tasks, if_neg h, Option.map_id']

@[simp] theorem settleLinks_relations (b : Builder) (rs : List Relation) :
    (b.settleLinks rs).project.relations = b.project.relations ++ rs := rfl

@[simp] theorem settleLinks_deferred (b : Builder) (rs : List Relation) :
    (b.settleLinks rs).deferred = b.deferred := rfl

@[simp] theorem settleLinks_size (b : Builder) (rs : List Relation) :
    (b.settleLinks rs).project.tasks.size = b.project.tasks.size := by
  simp [settleLinks]

theorem linkRelation_settleLinks (b : Builder) (rs : List Relation) :
    (b.settleLinks rs).linkRelation = b.linkRelation := rfl

/-- Two settlings of the same builder are equal when their relations and tasks are. -/
theorem settleLinks_ext {b : Builder} {rs : List Relation} {b' : Builder}
    (hb : b' = { b with project := { b.project with
      relations := b'.project.relations, tasks := b'.project.tasks } })
    (hr : b'.project.relations = b.project.relations ++ rs)
    (ht : ∀ k : Nat, b'.project.tasks[k]? = (b.settleLinks rs).project.tasks[k]?) :
    b' = b.settleLinks rs := by
  rw [hb, hr, Array.ext_getElem? ht]
  rfl

theorem settleLinks_nil (b : Builder) : b.settleLinks [] = b := by
  refine (@settleLinks_ext b [] b rfl (List.append_nil _).symm fun k => ?_).symm
  rw [settleLinks_tasks]
  cases b.project.tasks[k]? <;> simp

theorem withRelation_eq (b : Builder) (r : Relation) : b.withRelation r = b.settleLinks [r] := by
  set b₁ : Builder :=
    { b with project := { b.project with relations := b.project.relations ++ [r] } }
  by_cases hd : r.successor ∈ b.deferred
  · have hw : b.withRelation r = b₁.modifyTask r.successor Task.asLate := by
      simp only [withRelation, b₁, Std.HashSet.contains_iff_mem.mpr hd, if_true]
    refine settleLinks_ext (by rw [hw]; rfl) (by rw [hw]; rfl) fun k => ?_
    rw [hw, settleLinks_tasks]
    simp only [b₁, modifyTask, Project.modifyTask, Array.getElem?_modify]
    by_cases hk : r.successor = k
    · subst hk
      simp [hd]
    · simp [hk]
  · have hw : b.withRelation r = b₁ := by
      have hc : b.deferred.contains r.successor = false := by
        simpa [Std.HashSet.contains_iff_mem] using hd
      simp only [withRelation, b₁, hc, Bool.false_eq_true, if_false]
    refine settleLinks_ext (by rw [hw]) (by rw [hw]) fun k => ?_
    rw [hw, settleLinks_tasks]
    by_cases hk : r.successor = k
    · subst hk
      simp [b₁, hd]
    · simp [b₁, hk]

theorem settleLinks_append (b : Builder) (rs rs' : List Relation) :
    (b.settleLinks rs).settleLinks rs' = b.settleLinks (rs ++ rs') := by
  refine settleLinks_ext rfl (by simp) fun k => ?_
  simp only [settleLinks_tasks, settleLinks_deferred, Option.map_map]
  congr 1
  funext t
  have happ : (∃ r ∈ rs ++ rs', r.successor = k) ↔
      (∃ r ∈ rs, r.successor = k) ∨ ∃ r ∈ rs', r.successor = k := by
    simp only [List.mem_append, or_and_right, exists_or]
  -- a task made late twice is made late once
  simp only [Function.comp_apply, happ]
  by_cases hd : k ∈ b.deferred <;> by_cases h₁ : ∃ r ∈ rs, r.successor = k <;>
    by_cases h₂ : ∃ r ∈ rs', r.successor = k <;> simp [hd, h₁, h₂]

/-- What a link adds, as a settling: nothing, or its relation. -/
theorem elim_withRelation (b : Builder) (o : Option Relation) :
    o.elim b b.withRelation = b.settleLinks o.toList := by
  cases o with
  | none => exact (settleLinks_nil b).symm
  | some r => exact withRelation_eq b r

/-- Reading links succeeds exactly when every link's relation is found, and then adds the
relations of the links with both ends known, in order, making their waiting successors as late as
possible. -/
theorem processPredecessors_eq_ok {links : List Row} :
    ∀ {b b' : Builder}, b.processPredecessors links = .ok b' ↔
      ∃ rs, links.mapM b.linkRelation = .ok rs ∧ b' = b.settleLinks rs.reduceOption := by
  induction links with
  | nil =>
    intro b b'
    simp [processPredecessors, settleLinks_nil, List.reduceOption_nil, eq_comm, pure, Except.pure]
  | cons l ls ih =>
    intro b b'
    -- the rest is read in a builder that finds the same relations
    have hrest : ∀ o : Option Relation,
        (o.elim b b.withRelation).processPredecessors ls = .ok b' ↔
          ∃ rs, ls.mapM b.linkRelation = .ok rs ∧
            b' = b.settleLinks (o.toList ++ rs.reduceOption) := by
      intro o
      rw [ih, elim_withRelation, linkRelation_settleLinks]
      simp only [settleLinks_append]
    simp only [processPredecessors, List.foldlM_cons, addLink_eq, bind_assoc, pure_bind] at hrest ⊢
    constructor
    · intro h
      obtain ⟨o, ho, h⟩ := Reading.bind_eq_ok.mp h
      obtain ⟨rs, hrs, rfl⟩ := (hrest o).mp h
      refine ⟨o :: rs, ?_, ?_⟩
      · simp [List.mapM_cons, ho, hrs, bind, Except.bind, pure, Except.pure]
      · cases o <;> simp [List.reduceOption_cons_of_some, List.reduceOption_cons_of_none]
    · rintro ⟨rs, hrs, rfl⟩
      rw [List.mapM_cons] at hrs
      obtain ⟨o, ho, hrs⟩ := Reading.bind_eq_ok.mp hrs
      obtain ⟨rs₁, h₁, hrs⟩ := Reading.bind_eq_ok.mp hrs
      rw [Reading.pure_eq_ok] at hrs
      subst hrs
      refine Reading.bind_eq_ok.mpr ⟨o, ho, (hrest o).mpr ⟨rs₁, h₁, ?_⟩⟩
      cases o <;> simp [List.reduceOption_cons_of_some, List.reduceOption_cons_of_none]

/-- The waiting tasks a settling makes late are the end tasks of links with both ends known. -/
theorem successor_iff_linksInto {b : Builder} {links : List Row} {rs : List (Option Relation)}
    (h : links.mapM b.linkRelation = .ok rs) (k : TaskKey) :
    (∃ r ∈ rs.reduceOption, r.successor = k) ↔ b.LinksInto links k := by
  rw [LinksInto, Reading.mapM_exists_iff (fun l o ho => linkRelation_successor ho k) h]
  simp [List.reduceOption_mem_iff]

/-- Reading links in another order succeeds too, and gives the same builder up to the order of
its relations. -/
theorem processPredecessors_perm {b b' : Builder} {links links' : List Row}
    (hp : links'.Perm links) (h : b.processPredecessors links = .ok b') :
    ∃ rels, rels.Perm b'.project.relations ∧
      b.processPredecessors links' =
        .ok { b' with project := { b'.project with relations := rels } } := by
  obtain ⟨rs, hrs, rfl⟩ := processPredecessors_eq_ok.mp h
  obtain ⟨rs', hrs', hperm⟩ := Reading.mapM_perm hp.symm hrs
  have hperm' : rs'.reduceOption.Perm rs.reduceOption := hperm.filterMap id
  refine ⟨b.project.relations ++ rs'.reduceOption, by simpa using hperm'.append_left _,
    processPredecessors_eq_ok.mpr ⟨rs', hrs', ?_⟩⟩
  -- which tasks become late depends only on the set of successors
  refine settleLinks_ext rfl rfl fun k => ?_
  simp only [settleLinks_tasks, hperm'.mem_iff]

end Builder

/-! ### The constraint of one task -/

theorem Task.constraint_eq_iff {t t' : Task} :
    t.constraint = t'.constraint ↔ t.constraintType = t'.constraintType ∧
      t.constraintDate = t'.constraintDate ∧ t.deadline = t'.deadline := by
  simp [Task.constraint]

namespace Project

theorem task_modifyTask (p : Project) (k j : TaskKey) (f : Task → Task) :
    (p.modifyTask k f).task j = if k = j ∧ j < p.tasks.size then f (p.task j) else p.task j := by
  simp only [task_eq, modifyTask, Array.getElem?_modify]
  by_cases hkj : k = j
  · subst hkj
    by_cases hk : k < p.tasks.size
    · simp [hk]
    · simp [hk]
  · simp [hkj]

@[simp] theorem size_modifyTask (p : Project) (k : TaskKey) (f : Task → Task) :
    (p.modifyTask k f).tasks.size = p.tasks.size :=
  Array.size_modify ..

/-- An edit that keeps the constraint of the task it is given keeps every task's constraint. -/
theorem constraint_modifyTask {f : Task → Task} (hf : ∀ t, (f t).constraint = t.constraint)
    (p : Project) (k j : TaskKey) :
    ((p.modifyTask k f).task j).constraint = (p.task j).constraint := by
  rw [task_modifyTask]
  split
  · exact hf _
  · rfl

theorem deriveDefaultCalendar_constraint (p : Project) (k : TaskKey) :
    (p.deriveDefaultCalendar.task k).constraint = (p.task k).constraint := by
  simp only [deriveDefaultCalendar]
  split
  · -- only the calendar of tasks on the winning calendar is cleared
    simp only [task_eq, Array.getElem?_map]
    cases p.tasks[k]? with
    | none => rfl
    | some t =>
      simp only [Option.map_some, Option.getD_some]
      split <;> rfl
  · split <;> rfl

theorem deriveDefaultCalendar_size (p : Project) :
    p.deriveDefaultCalendar.tasks.size = p.tasks.size :=
  size_of_outline_eq (outline_deriveDefaultCalendar p)

end Project

/-- Whether a record's task waits for its links to settle its constraint: a task or milestone
record with constraint flag 0 and placement 1. -/
def Row.waitsForLinks (r : Row) : Bool :=
  ((r.integer? "TASKID").isSome || (r.integer? "MILESTONEID").isSome) &&
    (r.int "CONSTRAINT_FLAG").toInt == 0 && (r.int "PLACEMENT").toInt == 1

/-- A task or milestone record waits for links exactly when its flag and placement say so. -/
theorem Row.waitsForLinks_iff {r : Row}
    (h : (r.integer? "TASKID").isSome ∨ (r.integer? "MILESTONEID").isSome) :
    r.waitsForLinks = true ↔
      (r.int "CONSTRAINT_FLAG").toInt = 0 ∧ (r.int "PLACEMENT").toInt = 1 := by
  rcases h with h | h <;> simp [Row.waitsForLinks, h]

namespace Builder

theorem processConstraints_deferred (b : Builder) (row : Row) (k j : TaskKey) :
    j ∈ (b.processConstraints row k).deferred ↔ j ∈ b.deferred ∨
      (j = k ∧ (row.int "CONSTRAINT_FLAG").toInt = 0 ∧ (row.int "PLACEMENT").toInt = 1) := by
  unfold processConstraints
  dsimp only
  split
  · rename_i hw
    simp only [modifyTask, Std.HashSet.mem_insert, beq_iff_eq, hw, and_true]
    exact or_comm.trans (or_congr_right eq_comm)
  · rename_i hw
    split <;> simp [modifyTask, hw]

/-- A waiting record's task starts no earlier than the record's start constraint date. -/
theorem processConstraints_waiting {b : Builder} {row : Row} {k : TaskKey}
    (hk : k < b.project.tasks.size)
    (hw : (row.int "CONSTRAINT_FLAG").toInt = 0 ∧ (row.int "PLACEMENT").toInt = 1) :
    ((b.processConstraints row k).project.task k).constraintType = .startNoEarlierThan ∧
      ((b.processConstraints row k).project.task k).constraintDate =
        row.stamp? "START_CONSTRAINT_DATE" := by
  unfold processConstraints
  dsimp only
  rw [if_pos hw]
  simp [modifyTask, Project.task_modifyTask, hk]

/-- Filling a task from a task record sets its constraint last. -/
theorem populateTask_eq {b b' : Builder} {k : TaskKey} {row : Row}
    (h : b.populateTask k row = .ok b') :
    ∃ b₁ : Builder, b₁.deferred = b.deferred ∧ b₁.project.tasks.size = b.project.tasks.size ∧
      b' = b₁.processConstraints row k := by
  unfold populateTask at h
  obtain ⟨d, -, h⟩ := Reading.bind_eq_ok.mp h
  rw [Reading.pure_eq_ok] at h
  refine ⟨_, ?_, ?_, h.symm⟩
  · rfl
  · simp [modifyTask]

/-- Filling a task from a milestone record sets its constraint last. -/
theorem populateMilestone_eq (b : Builder) (k : TaskKey) (row : Row) :
    ∃ b₁ : Builder, b₁.deferred = b.deferred ∧ b₁.project.tasks.size = b.project.tasks.size ∧
      b.populateMilestone k row = b₁.processConstraints row k := by
  unfold populateMilestone
  refine ⟨_, ?_, ?_, rfl⟩
  · rfl
  · simp [modifyTask]

/-- Reading a record's constraints into a task whose other fields are read, and then editing the
task without touching its constraint: the task waits for links exactly when the record does, and
then starts no earlier than the record's start constraint date. The edit may be made on a builder
with other lookup tables. -/
theorem modifyTask_processConstraints_waits {b b₀ b₁ : Builder} {k : TaskKey} {row : Row}
    {f : Task → Task} (hf : ∀ t, (f t).constraint = t.constraint)
    (hd₀ : b₀.deferred = b.deferred) (hs₀ : b₀.project.tasks.size = b.project.tasks.size)
    (hk : k < b.project.tasks.size)
    (hw : row.waitsForLinks = true ↔
      (row.int "CONSTRAINT_FLAG").toInt = 0 ∧ (row.int "PLACEMENT").toInt = 1)
    (hp₁ : b₁.project = (b₀.processConstraints row k).project)
    (hd₁ : b₁.deferred = (b₀.processConstraints row k).deferred) :
    (∀ j, j ∈ (b₁.modifyTask k f).deferred ↔ j ∈ b.deferred ∨ (j = k ∧ row.waitsForLinks)) ∧
    (row.waitsForLinks →
      ((b₁.modifyTask k f).project.task k).constraintType = .startNoEarlierThan ∧
      ((b₁.modifyTask k f).project.task k).constraintDate =
        row.stamp? "START_CONSTRAINT_DATE") := by
  have hkeep : ((b₁.modifyTask k f).project.task k).constraint = (b₁.project.task k).constraint :=
    Project.constraint_modifyTask hf _ k k
  refine ⟨fun j => ?_, fun hwait => ?_⟩
  · show j ∈ b₁.deferred ↔ _
    rw [hd₁, processConstraints_deferred, hd₀, hw]
  · rw [(Task.constraint_eq_iff.mp hkeep).1, (Task.constraint_eq_iff.mp hkeep).2.1, hp₁]
    exact processConstraints_waiting (hs₀ ▸ hk) (hw.mp hwait)

/-- Filling a leaf remembers it exactly when its record waits for links, and then the task
starts no earlier than the record's start constraint date. -/
theorem populateLeaf_waits {b b' : Builder} {k : TaskKey} {pn : Option String} {row : Row}
    (h : b.populateLeaf k pn row = .ok b') (hk : k < b.project.tasks.size) :
    (∀ j, j ∈ b'.deferred ↔ j ∈ b.deferred ∨ (j = k ∧ row.waitsForLinks)) ∧
    (row.waitsForLinks → (b'.project.task k).constraintType = .startNoEarlierThan ∧
      (b'.project.task k).constraintDate = row.stamp? "START_CONSTRAINT_DATE") := by
  unfold populateLeaf at h
  dsimp only at h
  split at h
  · rename_i id htask
    obtain ⟨b₁, h₁, h⟩ := Reading.bind_eq_ok.mp h
    obtain ⟨b₂, h₂, h⟩ := Reading.bind_eq_ok.mp h
    rw [Reading.pure_eq_ok] at h₂ h
    subst h₂ h
    obtain ⟨b₀, hd₀, hs₀, rfl⟩ := populateTask_eq h₁
    -- the names a leaf takes last keep its constraint
    exact modifyTask_processConstraints_waits (fun _ => rfl) hd₀ hs₀ hk
      (Row.waitsForLinks_iff (.inl (by simp [htask]))) rfl rfl
  · rename_i id htask hmilestone
    obtain ⟨b₂, h₂, h⟩ := Reading.bind_eq_ok.mp h
    rw [Reading.pure_eq_ok] at h₂ h
    subst h₂ h
    obtain ⟨b₀, hd₀, hs₀, hb₀⟩ := populateMilestone_eq b k row
    rw [hb₀]
    exact modifyTask_processConstraints_waits (fun _ => rfl) hd₀ hs₀ hk
      (Row.waitsForLinks_iff (.inr (by simp [hmilestone]))) rfl rfl
  · rename_i htask hmilestone
    obtain ⟨b₂, h₂, h⟩ := Reading.bind_eq_ok.mp h
    rw [Reading.pure_eq_ok] at h₂ h
    subst h₂ h
    -- a record with neither id does not wait
    have hw : row.waitsForLinks = false := by simp [Row.waitsForLinks, htask, hmilestone]
    simp only [hw, Bool.false_eq_true, and_false, or_false, false_imp_iff, and_true]
    exact fun j => Iff.rfl

end Builder

/-! ### The records planned tasks are filled from -/

namespace PlannedTask

mutual

/-- The records the tasks of a planned task are filled from, with their keys from `n` on. -/
def records (n : TaskKey) : PlannedTask → List (TaskKey × Row)
  | .leaf _ record _ => [(n, record)]
  | .summary _ _ cs => recordsList (n + 1) cs

/-- The records the tasks of a list of planned tasks are filled from, with their keys from `n`
on. -/
def recordsList : TaskKey → List PlannedTask → List (TaskKey × Row)
  | _, [] => []
  | n, p :: ps => records n p ++ recordsList (n + p.size) ps

end

theorem recordsList_append (n : Nat) (ps qs : List PlannedTask) :
    recordsList n (ps ++ qs) = recordsList n ps ++ recordsList (n + sizeList ps) qs := by
  induction ps generalizing n with
  | nil => simp [recordsList, sizeList]
  | cons p ps ih => simp [recordsList, sizeList, ih, Nat.add_assoc]

mutual

/-- The keys of a planned task's records are among the keys it takes. -/
theorem key_mem_records : ∀ {n : Nat} (p : PlannedTask) {k : Nat} {r : Row},
    (k, r) ∈ records n p → n ≤ k ∧ k < n + p.size
  | n, .leaf .., k, r, h => by
    simp only [records, List.mem_singleton, Prod.mk.injEq] at h
    simp [h.1, size]
  | n, .summary _ _ cs, k, r, h => by
    simp only [records] at h
    have := key_mem_recordsList cs h
    simp only [size]
    omega

/-- The keys of a list of planned tasks' records are among the keys they take. -/
theorem key_mem_recordsList : ∀ {n : Nat} (ps : List PlannedTask) {k : Nat} {r : Row},
    (k, r) ∈ recordsList n ps → n ≤ k ∧ k < n + sizeList ps
  | _, [], _, _, h => by simp [recordsList] at h
  | n, p :: ps, k, r, h => by
    simp only [recordsList, List.mem_append] at h
    rcases h with h | h
    · have := key_mem_records p h
      simp only [sizeList]
      omega
    · have := key_mem_recordsList ps h
      simp only [sizeList]
      omega

end

end PlannedTask

/-! ### Creating tasks sets the constraints of waiting records -/

theorem Project.addTask_constraint (p : Project) (parent : Option TaskKey) {k : TaskKey}
    (hk : k < p.tasks.size) :
    ((p.addTask parent).1.task k).constraint = (p.task k).constraint := by
  have hne : k ≠ p.tasks.size := Nat.ne_of_lt hk
  cases parent with
  | none => simp [Project.addTask, Project.task_eq, Array.getElem?_push, hne]
  | some q =>
    -- the parent only gains a child
    simp only [Project.addTask, Project.task_eq, Array.getElem?_modify, Array.getElem?_push, hne,
      if_false]
    split <;> cases p.tasks[k]? <;> rfl

namespace Builder

theorem Fills.task_ne {k j : TaskKey} {b b' : Builder} (h : Fills k b b') (hj : k ≠ j) :
    b'.project.task j = b.project.task j := by
  obtain ⟨f, -, hp⟩ := h.project
  rw [hp, Project.task_modifyTask, if_neg (fun h => hj h.1)]

theorem startTask_deferred (parent : Option TaskKey) (row : Row) (b : Builder) :
    (startTask parent row b).1.deferred = b.deferred := by
  simp only [startTask]
  split <;> rfl

theorem startTask_constraint (parent : Option TaskKey) (row : Row) (b : Builder) {k : TaskKey}
    (hk : k < b.project.tasks.size) :
    ((startTask parent row b).1.project.task k).constraint = (b.project.task k).constraint := by
  rw [startTask_project]
  exact Project.addTask_constraint _ _ hk

theorem foldl_register_deferred (b : Builder) (rs : List Registration) :
    (rs.foldl register b).deferred = b.deferred := by
  induction rs generalizing b with
  | nil => rfl
  | cons r rs ih => rw [List.foldl_cons, ih]; cases r <;> rfl

/-- `b'` follows from `b` by creating a list of planned tasks, as far as constraints go: the tasks
there before keep their constraint, a task is remembered as waiting for links exactly when it was
or its record waits, and then it starts no earlier than the record's start constraint date. -/
structure SetsConstraints (plans : List PlannedTask) (b b' : Builder) : Prop where
  size : b'.project.tasks.size = b.project.tasks.size + PlannedTask.sizeList plans
  old : ∀ k < b.project.tasks.size,
    (b'.project.task k).constraint = (b.project.task k).constraint
  deferred : ∀ j, j ∈ b'.deferred ↔ j ∈ b.deferred ∨
    ∃ r, (j, r) ∈ PlannedTask.recordsList b.project.tasks.size plans ∧ r.waitsForLinks
  waiting : ∀ k r, (k, r) ∈ PlannedTask.recordsList b.project.tasks.size plans →
    r.waitsForLinks → (b'.project.task k).constraintType = .startNoEarlierThan ∧
      (b'.project.task k).constraintDate = r.stamp? "START_CONSTRAINT_DATE"

namespace SetsConstraints

theorem nil (b : Builder) : SetsConstraints [] b b where
  size := rfl
  old _ _ := rfl
  deferred _ := by simp [PlannedTask.recordsList]
  waiting _ _ h := by simp [PlannedTask.recordsList] at h

/-- Creating one list of planned tasks and then another sets the constraints of both. -/
theorem append {ps qs : List PlannedTask} {b b₁ b₂ : Builder} (h₁ : SetsConstraints ps b b₁)
    (h₂ : SetsConstraints qs b₁ b₂) : SetsConstraints (ps ++ qs) b b₂ := by
  have hsize₁ := h₁.size
  refine ⟨?_, fun k hk => ?_, fun j => ?_, fun k r hkr hw => ?_⟩
  · rw [h₂.size, hsize₁, PlannedTask.sizeList_append, Nat.add_assoc]
  · rw [h₂.old k (by omega), h₁.old k hk]
  · rw [h₂.deferred, h₁.deferred, PlannedTask.recordsList_append, hsize₁]
    simp only [List.mem_append, or_and_right, exists_or, or_assoc]
  · rw [PlannedTask.recordsList_append] at hkr
    rcases List.mem_append.mp hkr with hkr | hkr
    · -- the tasks of the first list are old by the time the second is created
      have hk := (PlannedTask.key_mem_recordsList ps hkr).2
      have hc := Task.constraint_eq_iff.mp (h₂.old k (by omega))
      rw [hc.1, hc.2.1]
      exact h₁.waiting k r hkr hw
    · exact h₂.waiting k r (hsize₁ ▸ hkr) hw

/-- Edits that keep every constraint and whether a task waits keep what a creation set. -/
theorem of_constraint_eq {ps : List PlannedTask} {b b₁ b' : Builder}
    (h : SetsConstraints ps b b₁) (hsize : b'.project.tasks.size = b₁.project.tasks.size)
    (hc : ∀ k, (b'.project.task k).constraint = (b₁.project.task k).constraint)
    (hd : b'.deferred = b₁.deferred) : SetsConstraints ps b b' := by
  refine ⟨hsize.trans h.size, fun k hk => (hc k).trans (h.old k hk), fun j => hd ▸ h.deferred j,
    fun k r hkr hw => ?_⟩
  rw [(Task.constraint_eq_iff.mp (hc k)).1, (Task.constraint_eq_iff.mp (hc k)).2.1]
  exact h.waiting k r hkr hw

end SetsConstraints

section Single

variable {parent : Option TaskKey} {b : Builder} {node : Row}

/-- Adding a task for an outline node and filling it from a record, then registering the record
and perhaps the bar it replaces, sets the constraint of one planned leaf. -/
theorem setsConstraints_leaf {name : Option String} {record : Row} {b₁ : Builder}
    (h : (startTask parent node b).1.populateLeaf b.project.tasks.size name record = .ok b₁)
    (bar : Option Int32) :
    SetsConstraints [.leaf node record bar] b
      (((bar.map fun id => Registration.bar id.toInt b.project.tasks.size).toList).foldl register
        b₁) := by
  obtain ⟨b₃, hfill, rfl⟩ := populateLeaf_spec h
  have hstart : (startTask parent node b).1.project.tasks.size = b.project.tasks.size + 1 := by
    rw [startTask_project, Project.addTask_size]
  obtain ⟨hdeferred, hwaits⟩ := populateLeaf_waits h (hstart ▸ Nat.lt_succ_self _)
  refine ⟨?_, fun k hk => ?_, fun j => ?_, fun k r hkr hw => ?_⟩
  · rw [foldl_register_project, registerLeaf_project, hfill.size_eq, hstart]
    rfl
  · rw [foldl_register_project, registerLeaf_project, hfill.task_ne (Nat.ne_of_gt hk)]
    exact startTask_constraint parent node b hk
  · rw [foldl_register_deferred, hdeferred, startTask_deferred]
    simp [PlannedTask.recordsList, PlannedTask.records]
  · simp only [PlannedTask.recordsList, PlannedTask.records, List.append_nil,
      List.mem_singleton, Prod.mk.injEq] at hkr
    obtain ⟨rfl, rfl⟩ := hkr
    rw [foldl_register_project]
    exact hwaits hw

/-- Adding a task for a bar and filling it, then creating the tasks under it and registering the
bar, sets the constraints of one planned summary. -/
theorem setsConstraints_summary {cs : List PlannedTask} {children : List RowTree} {b₄ : Builder}
    (hcs : SetsConstraints cs
      ((startTask parent node b).1.populateBar b.project.tasks.size node children) b₄)
    (bar : Int32) :
    SetsConstraints [.summary node bar cs] b
      (b₄.register (.bar bar.toInt b.project.tasks.size)) := by
  have hfill := fills_populateBar (startTask parent node b).1 b.project.tasks.size node children
  have hsize₃ : ((startTask parent node b).1.populateBar b.project.tasks.size node
      children).project.tasks.size = b.project.tasks.size + 1 := by
    rw [hfill.size_eq, startTask_project, Project.addTask_size]
  have hdeferred₃ : ((startTask parent node b).1.populateBar b.project.tasks.size node
      children).deferred = b.deferred := startTask_deferred parent node b
  refine ⟨?_, fun k hk => ?_, fun j => ?_, fun k r hkr hw => ?_⟩
  · rw [register_project, hcs.size, hsize₃]
    simp only [PlannedTask.sizeList, PlannedTask.size]
    omega
  · rw [register_project, hcs.old k (by omega), hfill.task_ne (Nat.ne_of_gt hk)]
    exact startTask_constraint parent node b hk
  · show j ∈ b₄.deferred ↔ _
    rw [hcs.deferred, hdeferred₃, hsize₃]
    simp [PlannedTask.recordsList, PlannedTask.records]
  · simp only [PlannedTask.recordsList, PlannedTask.records, List.append_nil] at hkr
    rw [register_project]
    exact hcs.waiting k r (hsize₃ ▸ hkr) hw

end Single

mutual

/-- Creating the tasks of a list of row trees sets the constraints of their plan. -/
theorem createTasks_setsConstraints :
    ∀ {parent : Option TaskKey} {parentName : Option String} {b b' : Builder} (ts : List RowTree),
    createTasks parent parentName b ts = .ok b' → SetsConstraints (RowTree.planList ts) b b'
  | _, _, b, b', [], h => by
    simp only [createTasks, Reading.pure_eq_ok] at h
    subst h
    exact SetsConstraints.nil b
  | _, _, b, b', t :: rest, h => by
    simp only [createTasks] at h
    obtain ⟨b₁, h₁, h⟩ := Reading.bind_eq_ok.mp h
    exact (createTask_setsConstraints t h₁).append (createTasks_setsConstraints rest h)

/-- Creating the tasks of one row tree sets the constraints of its plan. -/
theorem createTask_setsConstraints :
    ∀ {parent : Option TaskKey} {parentName : Option String} {b b' : Builder} (t : RowTree),
    createTask parent parentName b t = .ok b' → SetsConstraints t.plan b b'
  | _, _, b, b', .node row children, h => by
    rcases createTask_cases h with ⟨hplan, rfl⟩ | ⟨record, bar, name, b₁, hplan, h₁, rfl⟩ |
      ⟨bar, b₁, hplan, h₁, rfl⟩
    · rw [hplan]
      exact SetsConstraints.nil _
    · rw [hplan]
      exact setsConstraints_leaf h₁ bar
    · rw [hplan]
      exact setsConstraints_summary (createTasks_setsConstraints children h₁) bar

end

theorem addCompletedSections_deferred (b : Builder) (rows : List Row) :
    (b.addCompletedSections rows).deferred = b.deferred := by
  unfold addCompletedSections
  refine List.foldlRecOn (motive := fun b' : Builder => b'.deferred = b.deferred) _ _ rfl ?_
  intro b' hb' r _
  split
  · exact hb'
  · exact hb'

/-- Reading the tasks sets the constraints of the plan of their outline: the tasks there before
keep their constraint, a task is remembered as waiting for links exactly when it was or its
record waits, and then it starts no earlier than the record's start constraint date. -/
theorem processTasks_setsConstraints {b b' : Builder} {t : TaskTables}
    (h : b.processTasks t = .ok b') :
    SetsConstraints
      (RowTree.planList (buildRowHierarchy t.bars t.expandedTasks t.tasks t.milestones t.hammocks))
      b b' := by
  obtain ⟨b₁, h₁, p, rfl, hedit⟩ := processTasks_settled h
  have hcreate := createTasks_setsConstraints _ h₁
  -- the passes after creating keep the size, every constraint and the remembered tasks
  refine hcreate.of_constraint_eq ?_ (fun k => ?_) (addCompletedSections_deferred _ _)
  · show p.tasks.size = _
    rw [Project.size_of_outline_eq hedit.taskEdit.outline_eq, Project.deriveDefaultCalendar_size,
      addCompletedSections_project]
  · show (p.task k).constraint = _
    rw [hedit.constraint, Project.deriveDefaultCalendar_constraint, addCompletedSections_project]

/-! ### Every other step keeps the constraints -/

/-- `b'` keeps, for every task of `b`, its constraint and whether it waits for links. -/
structure KeepsConstraints (b b' : Builder) : Prop where
  size : b.project.tasks.size ≤ b'.project.tasks.size
  constraint : ∀ k < b.project.tasks.size,
    (b'.project.task k).constraint = (b.project.task k).constraint
  deferred : ∀ k < b.project.tasks.size, k ∈ b'.deferred ↔ k ∈ b.deferred

namespace KeepsConstraints

theorem refl (b : Builder) : KeepsConstraints b b :=
  ⟨Nat.le_refl _, fun _ _ => rfl, fun _ _ => Iff.rfl⟩

theorem trans {b b₁ b₂ : Builder} (h₁ : KeepsConstraints b b₁) (h₂ : KeepsConstraints b₁ b₂) :
    KeepsConstraints b b₂ where
  size := Nat.le_trans h₁.size h₂.size
  constraint k hk := (h₂.constraint k (Nat.lt_of_lt_of_le hk h₁.size)).trans (h₁.constraint k hk)
  deferred k hk := (h₂.deferred k (Nat.lt_of_lt_of_le hk h₁.size)).trans (h₁.deferred k hk)

/-- Changing the project outside its tasks keeps every constraint. -/
theorem withProject (b : Builder) {p : Project} (hp : p.tasks = b.project.tasks) :
    KeepsConstraints b { b with project := p } where
  size := Nat.le_of_eq (congrArg Array.size hp).symm
  constraint k _ := by simp only [Project.task, hp]
  deferred _ _ := Iff.rfl

/-- An edit of one task that keeps its constraint keeps every constraint. -/
theorem modifyTask (b : Builder) {f : Task → Task} (hf : ∀ t, (f t).constraint = t.constraint)
    (k : TaskKey) : KeepsConstraints b (b.modifyTask k f) where
  size := Nat.le_of_eq (Project.size_modifyTask _ _ _).symm
  constraint _ _ := Project.constraint_modifyTask hf _ _ _
  deferred _ _ := Iff.rfl

theorem foldl {α : Type} {f : Builder → α → Builder} (hf : ∀ b a, KeepsConstraints b (f b a)) :
    ∀ (l : List α) (b : Builder), KeepsConstraints b (l.foldl f b)
  | [], b => refl b
  | a :: l, b => (hf b a).trans (foldl hf l (f b a))

theorem foldlM {α : Type} {f : Builder → α → Reading Builder}
    (hf : ∀ b a b', f b a = .ok b' → KeepsConstraints b b') (l : List α) {b b' : Builder}
    (h : l.foldlM f b = .ok b') : KeepsConstraints b b' :=
  Reading.foldlM_invariant (KeepsConstraints b) f (fun _ a _ h₁ h₂ => h₁.trans (hf _ a _ h₂))
    l b b' (refl b) h

/-- Creating tasks keeps the constraints of the tasks there before: the planned records take the
keys from the old size on. -/
theorem of_setsConstraints {ps : List PlannedTask} {b b' : Builder}
    (h : SetsConstraints ps b b') : KeepsConstraints b b' where
  size := h.size ▸ Nat.le_add_right _ _
  constraint := h.old
  deferred k hk := by
    rw [h.deferred]
    refine or_iff_left fun ⟨r, hr, _⟩ => ?_
    exact Nat.lt_irrefl k (Nat.lt_of_lt_of_le hk (PlannedTask.key_mem_recordsList ps hr).1)

end KeepsConstraints

theorem keepsConstraints_processProperties {b b' : Builder} {v : Option Int32}
    {summary userSettings : Option Row} {periods : List Row}
    (h : b.processProperties v summary userSettings periods = .ok b') : KeepsConstraints b b' := by
  unfold Builder.processProperties at h
  dsimp only at h
  split at h
  · obtain ⟨_, -, h⟩ := Reading.bind_eq_ok.mp h
    rw [Reading.pure_eq_ok] at h
    exact h ▸ KeepsConstraints.withProject b rfl
  · obtain ⟨_, -, h⟩ := Reading.bind_eq_ok.mp h
    obtain ⟨_, -, h⟩ := Reading.bind_eq_ok.mp h
    rw [Reading.pure_eq_ok] at h
    exact h ▸ KeepsConstraints.withProject b rfl

theorem keepsConstraints_processCalendars (b : Builder) (calendars : List Row)
    (tables : CalendarTables) : KeepsConstraints b (b.processCalendars calendars tables) := by
  unfold Builder.processCalendars
  refine KeepsConstraints.foldl (fun b i => ?_) _ b
  unfold Builder.processCalendar
  split
  · exact KeepsConstraints.refl b
  · exact KeepsConstraints.withProject b rfl

theorem keepsConstraints_addResource (b : Builder) (row : Row) (material : Bool) :
    KeepsConstraints b (b.addResource row material) := by
  unfold Builder.addResource
  split
  · exact KeepsConstraints.refl b
  · -- the resource's own calendar is added first; neither touches the tasks
    have hcal : KeepsConstraints b
        (b.resourceCalendar (row.integer? "CALENDAR") (row.string? "NAME")).1 := by
      unfold Builder.resourceCalendar
      split
      · exact KeepsConstraints.refl b
      · exact KeepsConstraints.withProject b rfl
    refine hcal.trans ?_
    dsimp only
    obtain ⟨b₁, calendarId⟩ :=
      b.resourceCalendar (row.integer? "CALENDAR") (row.string? "NAME")
    exact KeepsConstraints.withProject b₁ rfl

theorem keepsConstraints_processResources (b : Builder) (permanent consumable : List Row) :
    KeepsConstraints b (b.processResources permanent consumable) :=
  (KeepsConstraints.foldl (fun b r => keepsConstraints_addResource b r false) permanent b).trans
    (KeepsConstraints.foldl (fun b r => keepsConstraints_addResource b r true) consumable _)

theorem keepsConstraints_processAssignments {b b' : Builder} {allocations skills : List Row}
    (h : b.processAssignments allocations skills = .ok b') : KeepsConstraints b b' := by
  refine KeepsConstraints.foldlM (fun b row b' h => ?_) allocations h
  unfold Builder.addAllocation at h
  dsimp only at h
  split at h
  · obtain ⟨_, -, h⟩ := Reading.bind_eq_ok.mp h
    rw [Reading.pure_eq_ok] at h
    exact h ▸ KeepsConstraints.withProject b rfl
  · rw [Reading.pure_eq_ok] at h
    exact h ▸ KeepsConstraints.refl b

theorem keepsConstraints_setFieldValue (b : Builder) (obj : FieldObject) (objectId field : Int32)
    (v : CustomValue) : KeepsConstraints b (b.setFieldValue obj objectId field v) := by
  unfold Builder.setFieldValue
  -- a field value on a task is not a constraint; one on a resource or assignment leaves the tasks
  cases obj
  case bar | task | milestone =>
    dsimp only
    split
    · refine KeepsConstraints.modifyTask b ?_ _
      exact fun _ => rfl
    · exact KeepsConstraints.refl b
  all_goals
    dsimp only
    split
    · exact KeepsConstraints.withProject b rfl
    · exact KeepsConstraints.refl b

theorem keepsConstraints_processUserFields (b : Builder) (definitions data : List Row) :
    KeepsConstraints b (b.processUserFields definitions data) := by
  refine processUserFields_keeps KeepsConstraints.refl (fun h₁ h₂ => h₁.trans h₂)
    (fun acc row => ?_) keepsConstraints_setFieldValue b definitions data
  obtain ⟨b₂, fields₂⟩ := acc
  unfold Builder.addFieldDefinition
  split
  · exact KeepsConstraints.withProject b₂ rfl
  · exact KeepsConstraints.refl b₂

theorem keepsConstraints_processCodeLibraries (b : Builder)
    (libraries entries assignments : List Row) :
    KeepsConstraints b (b.processCodeLibraries libraries entries assignments) := by
  -- codes and their values are added outside the tasks; assigning one leaves the constraint
  refine processCodeLibraries_keeps KeepsConstraints.refl (fun h₁ h₂ => h₁.trans h₂)
    (fun b row => ?_) (fun acc row => ?_) (fun known b row => ?_) b libraries entries assignments
  · unfold Builder.addActivityCode
    split
    · exact KeepsConstraints.withProject b rfl
    · exact KeepsConstraints.refl b
  · obtain ⟨b₂, known⟩ := acc
    unfold Builder.addCodeValue
    dsimp only
    split
    · exact KeepsConstraints.withProject b₂ rfl
    · exact KeepsConstraints.refl b₂
  · unfold Builder.assignCodeValue
    split
    · refine KeepsConstraints.modifyTask b ?_ _
      exact fun _ => rfl
    · exact KeepsConstraints.refl b

/-- Every step but reading links keeps, for every task there before, its constraint and whether
it waits for links. -/
theorem KeepsConstraints.step {b b' : Builder} {st : Step} (hst : ∀ ls, st ≠ .predecessors ls)
    (h : b.step st = .ok b') : KeepsConstraints b b' := by
  cases st with
  | properties v summary userSettings periods => exact keepsConstraints_processProperties h
  | calendars calendars tables =>
    rw [Builder.step, Reading.pure_eq_ok] at h
    exact h ▸ keepsConstraints_processCalendars b calendars tables
  | resources permanent consumable =>
    rw [Builder.step, Reading.pure_eq_ok] at h
    exact h ▸ keepsConstraints_processResources b permanent consumable
  | tasks tables => exact KeepsConstraints.of_setsConstraints (processTasks_setsConstraints h)
  | predecessors links => exact absurd rfl (hst links)
  | assignments allocations skills => exact keepsConstraints_processAssignments h
  | userFields definitions data =>
    rw [Builder.step, Reading.pure_eq_ok] at h
    exact h ▸ keepsConstraints_processUserFields b definitions data
  | codeLibraries libraries entries assignments =>
    rw [Builder.step, Reading.pure_eq_ok] at h
    exact h ▸ keepsConstraints_processCodeLibraries b libraries entries assignments

/-- A run of steps that reads no links keeps, for every task there before, its constraint and
whether it waits for links. -/
theorem KeepsConstraints.steps {b b' : Builder} {ss : List Step}
    (hss : ∀ st ∈ ss, ∀ ls, st ≠ .predecessors ls) (h : b.steps ss = .ok b') :
    KeepsConstraints b b' := by
  induction ss generalizing b with
  | nil =>
    simp only [Builder.steps, List.foldlM_nil, Reading.pure_eq_ok] at h
    exact h ▸ KeepsConstraints.refl b
  | cons st ss ih =>
    simp only [Builder.steps, List.foldlM_cons] at h
    obtain ⟨b₁, h₁, h⟩ := Reading.bind_eq_ok.mp h
    exact (KeepsConstraints.step (hss st (List.mem_cons_self ..)) h₁).trans
      (ih (fun st' hst' => hss st' (List.mem_cons_of_mem _ hst')) h)

/-! ### From reading the tasks to reading the links -/

/-- What reading `links` from `b` into `b'` decides for the tasks filled from `records`, which
took the keys from `n₀` to `n₁`: the task of a waiting record is as late as possible when a link
with both ends known ends at it, and starts no earlier than the record's start constraint date otherwise;
among those keys the waiting records' tasks are exactly the remembered ones; every task that is not
remembered, or that no such link ends at, is left as it was; and reading the links in any other
order gives the same builder up to the order of its relations. -/
structure SettledByLinks (records : List (TaskKey × Row)) (n₀ n₁ : Nat) (links : List Row)
    (b b' : Builder) : Prop where
  waiting : ∀ k r, (k, r) ∈ records → r.waitsForLinks →
    ((b'.project.task k).constraintType, (b'.project.task k).constraintDate) =
      if b.LinksInto links k then (.asLateAsPossible, none)
      else (.startNoEarlierThan, r.stamp? "START_CONSTRAINT_DATE")
  remembered : ∀ k, n₀ ≤ k → k < n₁ →
    (k ∈ b.deferred ↔ ∃ r, (k, r) ∈ records ∧ r.waitsForLinks)
  others : ∀ k, ¬(k ∈ b.deferred ∧ b.LinksInto links k) → b'.project.task k = b.project.task k
  order : ∀ links', links'.Perm links → ∃ rels, rels.Perm b'.project.relations ∧
    b.processPredecessors links' = .ok { b' with project := { b'.project with relations := rels } }

/-- Reading the tasks of a fresh builder's run, then any steps but links, then the links settles
the constraint of every task filled from a waiting record: as late as possible when a link with
both ends known ends at it, no earlier than the record's start constraint date otherwise. Every
other task is left as it was, and the order of the links only orders the relations. -/
theorem waiting_constraints_settle_on_links {ss mid : List Step} {tables : TaskTables}
    {links : List Row} {b₀ b₁ b₂ b₃ : Builder}
    (h₀ : ({} : Builder).steps ss = .ok b₀) (h₁ : b₀.processTasks tables = .ok b₁)
    (hmid : ∀ st ∈ mid, ∀ ls, st ≠ .predecessors ls) (h₂ : b₁.steps mid = .ok b₂)
    (h₃ : b₂.processPredecessors links = .ok b₃) :
    SettledByLinks
      (PlannedTask.recordsList b₀.project.tasks.size (RowTree.planList (buildRowHierarchy
        tables.bars tables.expandedTasks tables.tasks tables.milestones tables.hammocks)))
      b₀.project.tasks.size b₁.project.tasks.size links b₂ b₃ := by
  have hsets := processTasks_setsConstraints h₁
  have hkeep := KeepsConstraints.steps hmid h₂
  -- before the tasks are read, every remembered task is an old one
  have hbelow := (sound_empty.steps h₀).stored.deferred
  have hremembered : ∀ k, b₀.project.tasks.size ≤ k → k < b₁.project.tasks.size →
      (k ∈ b₂.deferred ↔ ∃ r, (k, r) ∈ PlannedTask.recordsList b₀.project.tasks.size
        (RowTree.planList (buildRowHierarchy tables.bars tables.expandedTasks tables.tasks
          tables.milestones tables.hammocks)) ∧ r.waitsForLinks) := by
    intro k hk₀ hk₁
    rw [hkeep.deferred k hk₁, hsets.deferred, or_iff_right]
    exact fun hk => Nat.lt_irrefl k (Nat.lt_of_lt_of_le (hbelow k hk) hk₀)
  obtain ⟨rs, hrs, rfl⟩ := processPredecessors_eq_ok.mp h₃
  refine ⟨fun k r hkr hw => ?_, hremembered, fun k hk => ?_,
    fun links' hp => processPredecessors_perm hp h₃⟩
  · have hk := PlannedTask.key_mem_recordsList _ hkr
    have hk₁ : k < b₁.project.tasks.size := hsets.size ▸ hk.2
    have hd : k ∈ b₂.deferred := (hremembered k hk.1 hk₁).mpr ⟨r, hkr, hw⟩
    -- the start constraint set while reading the tasks is still there
    have hc := Task.constraint_eq_iff.mp (hkeep.constraint k hk₁)
    obtain ⟨htype, hdate⟩ := hsets.waiting k r hkr hw
    rw [settleLinks_task _ _ (Nat.lt_of_lt_of_le hk₁ hkeep.size)]
    by_cases hl : b₂.LinksInto links k
    · simp [hd, hl, (successor_iff_linksInto hrs k).mpr hl, Task.asLate]
    · have hl' := mt (successor_iff_linksInto hrs k).mp hl
      simp [hd, hl, hl', hc.1, hc.2.1, htype, hdate]
  · rw [← successor_iff_linksInto hrs] at hk
    exact settleLinks_task_of_not hk

/-- In the sample, reading the calendars, the outline, the resource and then the link makes the
waiting second task of the design bar as late as possible. -/
theorem sample_links_settle_waiting_constraints :
    ∃ b₀ b₁ b₂ b₃, ({} : Builder).steps [.calendars Sample.calendarRows {}] = .ok b₀ ∧
      b₀.processTasks Sample.outline = .ok b₁ ∧
      b₁.steps [.resources Sample.resourceRows []] = .ok b₂ ∧
      b₂.processPredecessors Sample.links = .ok b₃ ∧
      SettledByLinks
        (PlannedTask.recordsList b₀.project.tasks.size (RowTree.planList (buildRowHierarchy
          Sample.outline.bars Sample.outline.expandedTasks Sample.outline.tasks
          Sample.outline.milestones Sample.outline.hammocks)))
        b₀.project.tasks.size b₁.project.tasks.size Sample.links b₂ b₃ := by
  obtain ⟨b₀, h₀⟩ : ∃ b₀, ({} : Builder).steps [.calendars Sample.calendarRows {}] = .ok b₀ :=
    ⟨_, rfl⟩
  obtain ⟨b₁, h₁⟩ := processTasks_ok b₀ Sample.outline_hours.1 Sample.outline_hours.2
  obtain ⟨b₂, h₂⟩ : ∃ b₂, b₁.steps [.resources Sample.resourceRows []] = .ok b₂ := ⟨_, rfl⟩
  obtain ⟨b₃, h₃⟩ := processPredecessors_ok b₂
    (show ∀ r ∈ Sample.links, r.form = .hours by decide)
  exact ⟨b₀, b₁, b₂, b₃, h₀, h₁, h₂, h₃,
    waiting_constraints_settle_on_links h₀ h₁ (by simp) h₂ h₃⟩

end Builder

end Schedule
