import Schedule.Proofs.SucceedingRuns

/-!
# Every key the builder stores names a task

The builder keeps task keys in many places besides the outline: the five lookup tables from
exported ids to tasks, the tasks whose constraint waits for their links, the ends of every
relation and the task of every assignment. Later steps read these keys back and edit the task
they name. This module shows that, whatever steps run in whatever order and with whatever rows,
the tasks stay a forest and every stored key is the key of a task.

## Main definitions

* `ValuesBelow` — every key in a lookup table is below a bound.
* `Builder.StoredBelow` — every key the builder stores is below a bound.
* `Builder.Sound` — the tasks form a forest and every stored key names a task.

## Main statements

* `Builder.Sound.createTasks` — creating the tasks of an outline keeps the builder sound; the
  parent passed down is always a task that exists.
* `Builder.Sound.step` — every step that succeeds keeps the builder sound.
* `Builder.steps_keep_task_forest` — after any run of steps from a fresh builder the tasks form a
  forest and every stored key names a task.
-/

namespace Schedule

/-! ### Keys below a bound -/

/-- Every task key a lookup table holds is below `n`. -/
def ValuesBelow (n : Nat) (m : Std.HashMap Int TaskKey) : Prop :=
  ∀ (id : Int) (k : TaskKey), m[id]? = some k → k < n

namespace ValuesBelow

theorem empty (n : Nat) : ValuesBelow n {} := by
  intro id k h
  simp at h

theorem insert {n : Nat} {m : Std.HashMap Int TaskKey} (h : ValuesBelow n m) {k : TaskKey}
    (hk : k < n) (id : Int) : ValuesBelow n (m.insert id k) := by
  intro id' k' h'
  rw [Std.HashMap.getElem?_insert] at h'
  split at h'
  · exact Option.some.inj h' ▸ hk
  · exact h id' k' h'

theorem mono {n n' : Nat} {m : Std.HashMap Int TaskKey} (h : ValuesBelow n m) (hn : n ≤ n') :
    ValuesBelow n' m := fun id k hk => Nat.lt_of_lt_of_le (h id k hk) hn

end ValuesBelow

namespace Builder

/-- Every task key the builder stores is below `n`: the values of its five lookup tables, the
tasks whose constraint waits for links, both ends of every relation and the task of every
assignment. -/
structure StoredBelow (b : Builder) (n : Nat) : Prop where
  bars : ValuesBelow n b.bars
  tasks : ValuesBelow n b.tasks
  milestones : ValuesBelow n b.milestones
  expandedTasks : ValuesBelow n b.expandedTasks
  completedSections : ValuesBelow n b.completedSections
  deferred : ∀ k ∈ b.deferred, k < n
  relations : ∀ r ∈ b.project.relations, r.predecessor < n ∧ r.successor < n
  assignments : ∀ a ∈ b.project.assignments, a.task < n

theorem StoredBelow.mono {b : Builder} {n n' : Nat} (h : b.StoredBelow n) (hn : n ≤ n') :
    b.StoredBelow n' where
  bars := h.bars.mono hn
  tasks := h.tasks.mono hn
  milestones := h.milestones.mono hn
  expandedTasks := h.expandedTasks.mono hn
  completedSections := h.completedSections.mono hn
  deferred k hk := Nat.lt_of_lt_of_le (h.deferred k hk) hn
  relations r hr := ⟨Nat.lt_of_lt_of_le (h.relations r hr).1 hn,
    Nat.lt_of_lt_of_le (h.relations r hr).2 hn⟩
  assignments a ha := Nat.lt_of_lt_of_le (h.assignments a ha) hn

/-- Only the relations and assignments of the project hold keys; the rest of it may change. -/
theorem StoredBelow.withProject {b : Builder} {n : Nat} (h : b.StoredBelow n) {p : Project}
    (hr : p.relations = b.project.relations) (ha : p.assignments = b.project.assignments) :
    ({ b with project := p } : Builder).StoredBelow n :=
  ⟨h.bars, h.tasks, h.milestones, h.expandedTasks, h.completedSections, h.deferred,
    hr ▸ h.relations, ha ▸ h.assignments⟩

/-- An exported id is looked up in the five tables, so the task found is below the bound. -/
theorem StoredBelow.taskFor?_lt {b : Builder} {n : Nat} (h : b.StoredBelow n)
    {id : Option Int32} {k : TaskKey} (hk : b.taskFor? id = some k) : k < n := by
  cases id with
  | none => simp [taskFor?] at hk
  | some i =>
    obtain ⟨m, hm, hmk⟩ := List.exists_of_findSome?_eq_some hk
    simp only [List.mem_cons, List.not_mem_nil, or_false] at hm
    rw [Std.HashMap.get?_eq_getElem?] at hmk
    rcases hm with rfl | rfl | rfl | rfl | rfl
    · exact h.tasks _ _ hmk
    · exact h.milestones _ _ hmk
    · exact h.bars _ _ hmk
    · exact h.expandedTasks _ _ hmk
    · exact h.completedSections _ _ hmk

/-- The tasks form a forest and every key the builder stores names a task. -/
structure Sound (b : Builder) : Prop where
  forest : b.project.Forest
  stored : b.StoredBelow b.project.tasks.size

theorem sound_empty : ({} : Builder).Sound where
  forest :=
    { parent_iff := fun k hk => absurd hk (Nat.not_lt_zero k)
      parent_lt := fun k q h => by simp [Project.task_eq] at h
      top_iff := fun k hk => absurd hk (Nat.not_lt_zero k)
      listed_once := by simp [Project.listedKeys] }
  stored :=
    { bars := ValuesBelow.empty _
      tasks := ValuesBelow.empty _
      milestones := ValuesBelow.empty _
      expandedTasks := ValuesBelow.empty _
      completedSections := ValuesBelow.empty _
      deferred := by simp
      relations := by simp
      assignments := by simp }

/-- A new project with the same outline, relations and assignments keeps the builder sound. -/
theorem Sound.withProject {b : Builder} (hs : b.Sound) {p : Project}
    (ho : p.outline = b.project.outline) (hr : p.relations = b.project.relations)
    (ha : p.assignments = b.project.assignments) : ({ b with project := p } : Builder).Sound := by
  have hsize : p.tasks.size = b.project.tasks.size := by
    rw [Project.size_eq_outline, ho, ← Project.size_eq_outline]
  exact ⟨hs.forest.of_outline_eq ho, hsize ▸ hs.stored.withProject hr ha⟩

theorem Sound.modifyTask {b : Builder} (hs : b.Sound) {f : Task → Task} (hf : Task.KeepsLinks f)
    (k : TaskKey) : (b.modifyTask k f).Sound :=
  hs.withProject (Project.outline_modifyTask hf _ _) rfl rfl

theorem Sound.taskEdit {b : Builder} (hs : b.Sound) {p : Project} (hp : b.project.TaskEdit p) :
    ({ b with project := p } : Builder).Sound := by
  obtain ⟨ts, rfl, hts⟩ := hp
  exact hs.withProject (Project.TaskEdit.outline_eq ⟨ts, rfl, hts⟩) rfl rfl

theorem Sound.insertBar {b : Builder} (hs : b.Sound) {k : TaskKey}
    (hk : k < b.project.tasks.size) (id : Int) :
    ({ b with bars := b.bars.insert id k } : Builder).Sound :=
  ⟨hs.forest, { hs.stored with bars := hs.stored.bars.insert hk id }⟩

theorem Sound.insertExpanded {b : Builder} (hs : b.Sound) {k : TaskKey}
    (hk : k < b.project.tasks.size) (id : Int) :
    ({ b with expandedTasks := b.expandedTasks.insert id k } : Builder).Sound :=
  ⟨hs.forest, { hs.stored with expandedTasks := hs.stored.expandedTasks.insert hk id }⟩

theorem Sound.insertCompleted {b : Builder} (hs : b.Sound) {k : TaskKey}
    (hk : k < b.project.tasks.size) (id : Int) :
    ({ b with completedSections := b.completedSections.insert id k } : Builder).Sound :=
  ⟨hs.forest, { hs.stored with completedSections := hs.stored.completedSections.insert hk id }⟩

theorem Sound.registerLeaf {b : Builder} (hs : b.Sound) (row : Row) {k : TaskKey}
    (hk : k < b.project.tasks.size) : (registerLeaf row k b).Sound := by
  unfold Builder.registerLeaf
  split
  · exact ⟨hs.forest, { hs.stored with tasks := hs.stored.tasks.insert hk _ }⟩
  · exact ⟨hs.forest, { hs.stored with milestones := hs.stored.milestones.insert hk _ }⟩
  · exact hs

/-- Filling a task that exists keeps the builder sound: the links stay, and the only key it may
store is the task's own. -/
theorem Sound.fills {b b' : Builder} (hs : b.Sound) {k : TaskKey} (hk : k < b.project.tasks.size)
    (h : Fills k b b') : b'.Sound := by
  obtain ⟨f, hf, hp⟩ := h.project
  have hsize : b'.project.tasks.size = b.project.tasks.size := h.size_eq
  refine ⟨hp ▸ hs.forest.of_outline_eq (Project.outline_modifyTask hf.keepsLinks _ _), ?_⟩
  rw [hsize]
  refine ⟨h.bars ▸ hs.stored.bars, h.tasks ▸ hs.stored.tasks,
    h.milestones ▸ hs.stored.milestones, h.expandedTasks ▸ hs.stored.expandedTasks,
    h.completedSections ▸ hs.stored.completedSections, fun j hj => ?_,
    hp ▸ hs.stored.relations, hp ▸ hs.stored.assignments⟩
  rcases h.deferred j hj with h' | rfl
  · exact hs.stored.deferred j h'
  · exact hk

theorem Sound.start {b : Builder} (hs : b.Sound) {parent : Option TaskKey}
    (hparent : ∀ q, parent = some q → q < b.project.tasks.size) (row : Row) :
    (startTask parent row b).1.Sound := by
  have hrel : (b.project.addTask parent).1.relations = b.project.relations := by
    cases parent <;> rfl
  have hasg : (b.project.addTask parent).1.assignments = b.project.assignments := by
    cases parent <;> rfl
  have hs₁ : ({ b with project := (b.project.addTask parent).1 } : Builder).Sound :=
    ⟨hs.forest.addTask hparent, by
      rw [Project.addTask_size]
      exact (hs.stored.mono (Nat.le_succ _)).withProject hrel hasg⟩
  have hk : b.project.tasks.size < (b.project.addTask parent).1.tasks.size := by
    rw [Project.addTask_size]; exact Nat.lt_succ_self _
  unfold startTask
  split
  · exact hs₁.insertExpanded (Project.addTask_key b.project parent ▸ hk) _
  · exact hs₁

/-- Soundness is a creation invariant. -/
theorem sound_creationInvariant : CreationInvariant Sound where
  start _ _ row hs hparent := hs.start hparent row
  fill _ _ _ hs hk h := hs.fills hk h
  leaf _ row _ hs hk := hs.registerLeaf row hk
  bar _ id _ hs hk := hs.insertBar hk id

/-! ### Every step keeps the builder sound -/

theorem Sound.createTasks {b b' : Builder} (hs : b.Sound) {ts : List RowTree}
    (h : createTasks none none b ts = .ok b') : b'.Sound :=
  (createTasks_invariant sound_creationInvariant ts hs (by rintro _ ⟨⟩) h).1

theorem Sound.addCompletedSections {b : Builder} (hs : b.Sound) (rows : List Row) :
    (b.addCompletedSections rows).Sound := by
  unfold Builder.addCompletedSections
  refine List.foldlRecOn (motive := Sound) _ _ hs fun b hb r _ => ?_
  split
  · rename_i id k hk
    exact hb.insertCompleted (hb.stored.taskFor?_lt hk) _
  · exact hb

theorem Project.deriveDefaultCalendar_relations (p : Project) :
    p.deriveDefaultCalendar.relations = p.relations := by
  simp only [Project.deriveDefaultCalendar]
  split
  · rfl
  · split <;> rfl

theorem Project.deriveDefaultCalendar_assignments (p : Project) :
    p.deriveDefaultCalendar.assignments = p.assignments := by
  simp only [Project.deriveDefaultCalendar]
  split
  · rfl
  · split <;> rfl

/-- Reading the tasks keeps the builder sound: the outline is built by adding tasks under tasks
that exist, and the passes after it keep the links. -/
theorem Sound.processTasks {b b' : Builder} (hs : b.Sound) {t : TaskTables}
    (h : b.processTasks t = .ok b') : b'.Sound := by
  obtain ⟨b₁, h₁, p, rfl, hedit⟩ := processTasks_spec h
  have hs₂ := (hs.createTasks h₁).addCompletedSections t.completedSections
  -- the default calendar keeps the outline and the keys; the edits after it keep the links
  have hs₃ := hs₂.withProject (Project.outline_deriveDefaultCalendar _)
    (Project.deriveDefaultCalendar_relations _) (Project.deriveDefaultCalendar_assignments _)
  exact hs₃.taskEdit hedit

/-! ### Links and allocations -/

theorem Sound.addRelation {b : Builder} (hs : b.Sound) {r : Relation}
    (hr : r.predecessor < b.project.tasks.size ∧ r.successor < b.project.tasks.size) :
    ({ b with project := { b.project with relations := b.project.relations ++ [r] } } :
      Builder).Sound where
  forest := hs.forest.of_outline_eq (by rfl)
  stored := { hs.stored with
    relations := fun r' hr' => by
      rcases List.mem_append.mp hr' with h | h
      · exact hs.stored.relations r' h
      · exact List.mem_singleton.mp h ▸ hr }

theorem Sound.addLink {b b' : Builder} (hs : b.Sound) {row : Row} (h : b.addLink row = .ok b') :
    b'.Sound := by
  unfold Builder.addLink at h
  split at h
  · rename_i predecessor successor hp hsucc
    obtain ⟨_, -, h⟩ := Reading.bind_eq_ok.mp h
    obtain ⟨_, -, h⟩ := Reading.bind_eq_ok.mp h
    have hends := And.intro (hs.stored.taskFor?_lt hp) (hs.stored.taskFor?_lt hsucc)
    -- a successor waiting for its links gives up its constraint, which is not a link
    dsimp only at h
    split at h <;> rw [Reading.pure_eq_ok] at h <;> subst h
    · refine (hs.addRelation hends).modifyTask ?_ _
      exact fun _ => rfl
    · exact hs.addRelation hends
  · rw [Reading.pure_eq_ok] at h
    exact h ▸ hs

theorem Sound.processPredecessors {b b' : Builder} (hs : b.Sound) {rows : List Row}
    (h : b.processPredecessors rows = .ok b') : b'.Sound :=
  Reading.foldlM_invariant Sound _ (fun _ _ _ hb h => hb.addLink h) rows _ _ hs h

theorem Sound.addAssignment {b : Builder} (hs : b.Sound) {a : Assignment}
    (ha : a.task < b.project.tasks.size) :
    ({ b with project := { b.project with assignments := b.project.assignments ++ [a] } } :
      Builder).Sound where
  forest := hs.forest.of_outline_eq (by rfl)
  stored := { hs.stored with
    assignments := fun a' ha' => by
      rcases List.mem_append.mp ha' with h | h
      · exact hs.stored.assignments a' h
      · exact List.mem_singleton.mp h ▸ ha }

/-- Editing one assignment without moving it to another task keeps the builder sound. -/
theorem Sound.modifyAssignment {b : Builder} (hs : b.Sound) {g : Assignment → Assignment}
    (hg : ∀ a, (g a).task = a.task) (i : Nat) :
    ({ b with project := { b.project with
        assignments := b.project.assignments.modify i g } } : Builder).Sound where
  forest := hs.forest.of_outline_eq (by rfl)
  stored := { hs.stored with
    assignments := fun a ha => by
      have hmem : a.task ∈ (b.project.assignments.modify i g).map Assignment.task :=
        List.mem_map_of_mem ha
      rw [map_modify_of_view hg] at hmem
      obtain ⟨a', ha', he⟩ := List.mem_map.mp hmem
      exact he ▸ hs.stored.assignments a' ha' }

theorem Sound.addAllocation {b b' : Builder} (hs : b.Sound) {skills : Std.HashMap Int Row}
    {row : Row} (h : b.addAllocation skills row = .ok b') : b'.Sound := by
  unfold Builder.addAllocation at h
  dsimp only at h
  split at h
  · rename_i task _ htask _
    obtain ⟨_, -, h⟩ := Reading.bind_eq_ok.mp h
    rw [Reading.pure_eq_ok] at h
    exact h ▸ hs.addAssignment (hs.stored.taskFor?_lt htask)
  · rw [Reading.pure_eq_ok] at h
    exact h ▸ hs

theorem Sound.processAssignments {b b' : Builder} (hs : b.Sound) {allocations skills : List Row}
    (h : b.processAssignments allocations skills = .ok b') : b'.Sound :=
  Reading.foldlM_invariant Sound _ (fun _ _ _ hb h => hb.addAllocation h) allocations _ _ hs h

/-! ### Fields and codes -/

theorem Sound.setFieldValue {b : Builder} (hs : b.Sound) (obj : FieldObject)
    (objectId field : Int32) (v : CustomValue) : (b.setFieldValue obj objectId field v).Sound := by
  unfold Builder.setFieldValue
  -- a field value on a task is not a link; one on a resource or assignment leaves the tasks
  cases obj
  case bar | task | milestone =>
    dsimp only
    split
    · refine hs.modifyTask ?_ _
      exact fun _ => rfl
    · exact hs
  case permanentResource | consumableResource =>
    dsimp only
    split
    · exact hs.withProject rfl rfl rfl
    · exact hs
  case allocation =>
    dsimp only
    split
    · refine hs.modifyAssignment ?_ _
      exact fun _ => rfl
    · exact hs

theorem Sound.addFieldDefinition {acc : Builder × Std.HashMap Int (FieldObject × FieldDataType)}
    (hs : acc.1.Sound) (row : Row) : (addFieldDefinition acc row).1.Sound := by
  obtain ⟨b, fields⟩ := acc
  unfold Builder.addFieldDefinition
  split
  · exact hs.withProject rfl rfl rfl
  · exact hs

theorem Sound.processUserFields {b : Builder} (hs : b.Sound) (definitions data : List Row) :
    (b.processUserFields definitions data).Sound := by
  unfold Builder.processUserFields
  split
  rename_i b₁ fields hdef
  have hs₁ : b₁.Sound := by
    show (b₁, fields).1.Sound
    rw [← hdef]
    exact List.foldlRecOn (motive := fun acc : Builder × Std.HashMap Int _ => acc.1.Sound) _ _ hs
      fun acc hacc row _ => hacc.addFieldDefinition row
  refine List.foldlRecOn (motive := Sound) _ _ hs₁ fun b hb row _ => ?_
  repeat' split
  all_goals first | exact hb.setFieldValue .. | exact hb

theorem Sound.addCodeValue {acc : Builder × List Int32} (hs : acc.1.Sound) (row : Row) :
    (addCodeValue acc row).1.Sound := by
  obtain ⟨b, known⟩ := acc
  unfold Builder.addCodeValue
  dsimp only
  split
  · exact hs.withProject rfl rfl rfl
  · exact hs

theorem Sound.processCodeLibraries {b : Builder} (hs : b.Sound)
    (libraries entries assignments : List Row) :
    (b.processCodeLibraries libraries entries assignments).Sound := by
  unfold Builder.processCodeLibraries
  dsimp only
  refine List.foldlRecOn (motive := Sound) _ _ ?_ fun b hb row _ => ?_
  · -- codes and their values are added outside the tasks
    refine List.foldlRecOn (motive := fun acc : Builder × List Int32 => acc.1.Sound) _ _ ?_
      fun acc hacc i _ => hacc.addCodeValue _
    refine List.foldlRecOn (motive := Sound) _ _ hs fun b hb row _ => ?_
    unfold Builder.addActivityCode
    split
    · exact hb.withProject rfl rfl rfl
    · exact hb
  · unfold Builder.assignCodeValue
    split
    · refine hb.modifyTask ?_ _
      exact fun _ => rfl
    · exact hb

/-! ### Properties, calendars and resources -/

theorem Sound.processProperties {b b' : Builder} (hs : b.Sound) {v : Option Int32}
    {summary userSettings : Option Row} {periods : List Row}
    (h : b.processProperties v summary userSettings periods = .ok b') : b'.Sound := by
  unfold Builder.processProperties at h
  dsimp only at h
  -- only the project's properties change, whichever way the summary row is read
  split at h
  · obtain ⟨_, -, h⟩ := Reading.bind_eq_ok.mp h
    rw [Reading.pure_eq_ok] at h
    exact h ▸ hs.withProject rfl rfl rfl
  · obtain ⟨_, -, h⟩ := Reading.bind_eq_ok.mp h
    obtain ⟨_, -, h⟩ := Reading.bind_eq_ok.mp h
    rw [Reading.pure_eq_ok] at h
    exact h ▸ hs.withProject rfl rfl rfl

theorem Sound.processCalendars {b : Builder} (hs : b.Sound) (calendars : List Row)
    (tables : CalendarTables) : (b.processCalendars calendars tables).Sound := by
  unfold Builder.processCalendars
  refine List.foldlRecOn (motive := Sound) _ _ hs fun b hb i _ => ?_
  unfold Builder.processCalendar
  split
  · exact hb
  · exact hb.withProject rfl rfl rfl

theorem Sound.resourceCalendar {b : Builder} (hs : b.Sound) (base : Option Int32)
    (name : Option String) : (b.resourceCalendar base name).1.Sound := by
  unfold Builder.resourceCalendar
  split
  · exact hs
  · exact hs.withProject rfl rfl rfl

theorem Sound.addResource {b : Builder} (hs : b.Sound) (row : Row) (material : Bool) :
    (b.addResource row material).Sound := by
  unfold Builder.addResource
  split
  · exact hs
  · -- the resource's own calendar is added first; neither touches the tasks
    have hcal := hs.resourceCalendar (row.integer? "CALENDAR") (row.string? "NAME")
    obtain ⟨b₁, calendarId⟩ :=
      b.resourceCalendar (row.integer? "CALENDAR") (row.string? "NAME")
    exact hcal.withProject rfl rfl rfl

theorem Sound.processResources {b : Builder} (hs : b.Sound) (permanent consumable : List Row) :
    (b.processResources permanent consumable).Sound := by
  unfold Builder.processResources
  exact List.foldlRecOn (motive := Sound) consumable _
    (List.foldlRecOn (motive := Sound) permanent _ hs fun b hb r _ => hb.addResource r false)
    fun b hb r _ => hb.addResource r true

/-! ### Runs of steps -/

/-- Every step that succeeds keeps the builder sound. -/
theorem Sound.step {b b' : Builder} (hs : b.Sound) {st : Step} (h : b.step st = .ok b') :
    b'.Sound := by
  cases st with
  | properties v summary userSettings periods => exact hs.processProperties h
  | calendars calendars tables =>
    rw [Builder.step, Reading.pure_eq_ok] at h
    exact h ▸ hs.processCalendars calendars tables
  | resources permanent consumable =>
    rw [Builder.step, Reading.pure_eq_ok] at h
    exact h ▸ hs.processResources permanent consumable
  | tasks tables => exact hs.processTasks h
  | predecessors links => exact hs.processPredecessors h
  | assignments allocations skills => exact hs.processAssignments h
  | userFields definitions data =>
    rw [Builder.step, Reading.pure_eq_ok] at h
    exact h ▸ hs.processUserFields definitions data
  | codeLibraries libraries entries assignments =>
    rw [Builder.step, Reading.pure_eq_ok] at h
    exact h ▸ hs.processCodeLibraries libraries entries assignments

/-- A run of steps that succeeds keeps the builder sound. -/
theorem Sound.steps {b b' : Builder} (hs : b.Sound) {ss : List Step} (h : b.steps ss = .ok b') :
    b'.Sound :=
  Reading.foldlM_invariant Sound Builder.step (fun _ _ _ hb h => hb.step h) ss b b' hs h

/-- Whatever steps run, in whatever order and with whatever rows, the tasks of a fresh builder
stay a forest: a task has a parent exactly when it is listed among the parent's children, the
parent comes first, a task without one is listed at the top level, and every key is listed once.
Every key the builder stores — in its lookup tables, its waiting constraints, its relations and
its assignments — names a task. -/
theorem steps_keep_task_forest {ss : List Step} {b : Builder}
    (h : ({} : Builder).steps ss = .ok b) :
    b.project.Forest ∧ b.StoredBelow b.project.tasks.size :=
  have hs := sound_empty.steps h
  ⟨hs.forest, hs.stored⟩

/-- The sample run, which reads calendars, a resource, an outline of nested bars, a link, an
allocation, a user field and a code, keeps the tasks a forest. -/
theorem sample_run_keeps_task_forest :
    ∃ b, ({} : Builder).steps Sample.run = .ok b ∧
      b.project.Forest ∧ b.StoredBelow b.project.tasks.size := by
  obtain ⟨b, h⟩ := steps_ok {} Sample.run Sample.run_hours
  exact ⟨b, h, steps_keep_task_forest h⟩

end Builder

end Schedule
