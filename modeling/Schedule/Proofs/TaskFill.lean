import Schedule.Build.Tasks
import Schedule.Proofs.TaskForest

/-!
# What filling a task writes

Once a task is added, it is filled from its record: from a task, a milestone or a bar, with its
constraint read last. Each of these writes only the task it was given and a few lookup tables.
This module says so once, as the relation `Builder.Fills`, so that the invariants of the builder
never have to open the filling functions again.

## Main definitions

* `Task.Fill` — an edit of a task that keeps its links, user defined fields and activity codes,
  and gives it a calendar, if any, that the project has.
* `Builder.Fills k b b'` — `b'` is `b` with task `k` so edited, perhaps `k` added to the tasks
  whose constraint waits for links, and the other tables untouched.
* `Builder.registerLeaf` — the table entry a leaf record adds: its task id, else its milestone id.

## Main statements

* `Builder.fills_processConstraints`, `Builder.fills_populateTask`,
  `Builder.fills_populateMilestone`, `Builder.fills_populateBar` — these fill the task they are
  given.
* `Builder.populateLeaf_spec` — filling a leaf is a fill followed by its registration.
* `Builder.createTask_eq` — creating the task of a record, in named steps (`startTask`).
* `Builder.createTasks_invariant` — what adding a task, filling it and registering it in the
  lookup tables keep, creating the tasks of an outline keeps; the parent it adds under is always a
  task that exists.
* `Builder.processTasks_settled` — reading the tasks is creating them, then edits that keep
  every task's frame and constraint once the default calendar is chosen.
-/

namespace Schedule

/-! ### Reading results -/

theorem Reading.bind_eq_ok {α β : Type} {x : Reading α} {f : α → Reading β} {b : β} :
    x >>= f = .ok b ↔ ∃ a, x = .ok a ∧ f a = .ok b := by
  cases x <;> simp [bind, Except.bind]

@[simp] theorem Reading.pure_eq_ok {α : Type} {a b : α} :
    (pure a : Reading α) = .ok b ↔ a = b := by
  simp [pure, Except.pure]

/-- What holds at the start and after every successful step holds after a run of them. -/
theorem Reading.foldlM_invariant {α β : Type} (P : β → Prop) (f : β → α → Reading β)
    (hf : ∀ b a b', P b → f b a = .ok b' → P b') :
    ∀ (l : List α) (b b' : β), P b → l.foldlM f b = .ok b' → P b'
  | [], b, b', hb, h => by
    simp only [List.foldlM_nil, pure_eq_ok] at h
    exact h ▸ hb
  | a :: l, b, b', hb, h => by
    rw [List.foldlM_cons] at h
    obtain ⟨c, hc, hl⟩ := Reading.bind_eq_ok.mp h
    exact foldlM_invariant P f hf l c b' (hf b a c hb hc) hl

/-! ### Edits of one task -/

theorem Project.modifyTask_modifyTask (p : Project) (k : TaskKey) (f g : Task → Task) :
    (p.modifyTask k f).modifyTask k g = p.modifyTask k (g ∘ f) := by
  simp only [Project.modifyTask, Project.mk.injEq, and_true, true_and]
  apply Array.toList_inj.mp
  simp [List.modify_modify_eq]

@[simp] theorem Project.modifyTask_id (p : Project) (k : TaskKey) : p.modifyTask k id = p := by
  simp only [Project.modifyTask]
  congr
  apply Array.toList_inj.mp
  simp

/-- An edit that fills a task from its record: it keeps the task's links, user defined fields and
activity codes, and sets its calendar, if at all, to one that the project has. -/
def Task.Fill (p : Project) (f : Task → Task) : Prop :=
  ∀ t, (f t).links = t.links ∧ (f t).customFields = t.customFields ∧
    (f t).activityCodeValues = t.activityCodeValues ∧
    ∀ c, (f t).calendarId = some c → t.calendarId = some c ∨ p.hasCalendar c

namespace Task.Fill

theorem keepsLinks {p : Project} {f : Task → Task} (h : Task.Fill p f) : Task.KeepsLinks f :=
  fun t => (h t).1

theorem of_keepsFrame {p : Project} {f : Task → Task} (h : Task.KeepsFrame f) :
    Task.Fill p f := by
  intro t
  have h := h t
  simp only [Task.frame, Prod.mk.injEq] at h
  obtain ⟨hl, hc, hf, ha⟩ := h
  exact ⟨hl, hf, ha, fun c hfc => .inl (hc ▸ hfc)⟩

theorem comp {p : Project} {f g : Task → Task} (hf : Task.Fill p f) (hg : Task.Fill p g) :
    Task.Fill p (g ∘ f) := by
  intro t
  obtain ⟨hl, hc, ha, hcal⟩ := hf t
  obtain ⟨hl', hc', ha', hcal'⟩ := hg (f t)
  refine ⟨hl'.trans hl, hc'.trans hc, ha'.trans ha, fun c h => ?_⟩
  rcases hcal' c h with h' | h'
  · exact hcal c h'
  · exact .inr h'

end Task.Fill

namespace Builder

theorem knownCalendar_some {b : Builder} {id : Option Int32} {c : Int32}
    (h : b.knownCalendar id = some c) : b.project.hasCalendar c :=
  (Option.filter_eq_some_iff.mp h).2

/-- `b'` is `b` with task `k` filled: edited by a `Task.Fill`, perhaps added to the tasks whose
constraint waits for links, and every lookup table as it was. -/
structure Fills (k : TaskKey) (b b' : Builder) : Prop where
  project : ∃ f, Task.Fill b.project f ∧ b'.project = b.project.modifyTask k f
  deferred : ∀ j ∈ b'.deferred, j ∈ b.deferred ∨ j = k
  bars : b'.bars = b.bars
  tasks : b'.tasks = b.tasks
  milestones : b'.milestones = b.milestones
  expandedTasks : b'.expandedTasks = b.expandedTasks
  completedSections : b'.completedSections = b.completedSections

theorem Fills.modifyTask (b : Builder) {k : TaskKey} {f : Task → Task}
    (hf : Task.Fill b.project f) : Fills k b (b.modifyTask k f) :=
  ⟨⟨f, hf, rfl⟩, fun _ h => .inl h, rfl, rfl, rfl, rfl, rfl⟩

theorem Fills.trans {k : TaskKey} {b b' b'' : Builder} (h₁ : Fills k b b')
    (h₂ : Fills k b' b'') : Fills k b b'' := by
  obtain ⟨f, hf, hp⟩ := h₁.project
  obtain ⟨g, hg, hp'⟩ := h₂.project
  -- filling does not add calendars, so the second edit is a fill against the first project too
  have hg' : Task.Fill b.project g := by rw [hp] at hg; exact hg
  refine ⟨⟨g ∘ f, hf.comp hg', ?_⟩, ?_, h₂.bars.trans h₁.bars,
    h₂.tasks.trans h₁.tasks, h₂.milestones.trans h₁.milestones,
    h₂.expandedTasks.trans h₁.expandedTasks,
    h₂.completedSections.trans h₁.completedSections⟩
  · rw [hp', hp, Project.modifyTask_modifyTask]
  · intro j hj
    rcases h₂.deferred j hj with h | h
    · exact h₁.deferred j h
    · exact .inr h

/-- Setting a constraint fills the task: at most the task waits for its links, or gets a
deadline. -/
theorem fills_processConstraints (b : Builder) (row : Row) (k : TaskKey) :
    Fills k b (b.processConstraints row k) := by
  have hset : ∀ (b' : Builder) (c : ConstraintType) (d : Option Stamp),
      Fills k b' (b'.modifyTask k fun t => { t with constraintType := c, constraintDate := d }) :=
    fun b' _ _ => Fills.modifyTask b' (Task.Fill.of_keepsFrame fun _ => rfl)
  have hdeferred : Fills k b { b with deferred := b.deferred.insert k } := by
    refine ⟨⟨id, Task.Fill.of_keepsFrame fun _ => rfl, ?_⟩, ?_, rfl, rfl, rfl, rfl, rfl⟩
    · exact (Project.modifyTask_id _ _).symm
    · intro j hj
      rcases Std.HashSet.mem_insert.mp hj with h | h
      · exact .inr (beq_iff_eq.mp h).symm
      · exact .inl h
  unfold processConstraints
  dsimp only
  split
  · exact hdeferred.trans (hset _ _ _)
  · split
    · exact hset b _ _
    · exact hset b _ _
    · exact hset b _ _
    · exact hset b _ _
    · exact hset b _ _
    · exact hset b _ _
    · -- flag 8 writes a deadline first
      refine (Fills.modifyTask b (Task.Fill.of_keepsFrame ?_)).trans (hset _ _ _)
      exact fun _ => rfl
    · exact hset b _ _

theorem Fills.setWeights (b : Builder) (k : TaskKey) (w : Std.HashMap Nat (Option Float)) :
    Fills k b { b with weights := w } :=
  ⟨⟨id, Task.Fill.of_keepsFrame fun _ => rfl, (Project.modifyTask_id _ _).symm⟩,
    fun _ h => .inl h, rfl, rfl, rfl, rfl, rfl⟩

/-- Filling a task from a task record: the calendar is one the project has. -/
theorem fills_populateTask {b b' : Builder} {k : TaskKey} {row : Row}
    (h : b.populateTask k row = .ok b') : Fills k b b' := by
  unfold populateTask at h
  obtain ⟨d, -, h⟩ := Reading.bind_eq_ok.mp h
  rw [Reading.pure_eq_ok] at h
  subst h
  refine ((Fills.setWeights b k _).trans (Fills.modifyTask _ ?_)).trans
    (fills_processConstraints _ _ _)
  intro t
  dsimp only
  split_ifs <;> exact ⟨rfl, rfl, rfl, fun c hc => .inr (knownCalendar_some hc)⟩

theorem fills_populateMilestone (b : Builder) (k : TaskKey) (row : Row) :
    Fills k b (b.populateMilestone k row) := by
  unfold populateMilestone
  refine ((Fills.setWeights b k _).trans (Fills.modifyTask _ ?_)).trans
    (fills_processConstraints _ _ _)
  exact fun t => ⟨rfl, rfl, rfl, fun c hc => .inr (knownCalendar_some hc)⟩

theorem fills_populateBar (b : Builder) (k : TaskKey) (row : Row) (children : List RowTree) :
    Fills k b (b.populateBar k row children) := by
  unfold populateBar
  exact Fills.modifyTask _ fun t => ⟨rfl, rfl, rfl, fun c hc => .inr (knownCalendar_some hc)⟩

/-- The table entry a leaf record adds for its task: under its task id, else under its
milestone id. -/
def registerLeaf (row : Row) (k : TaskKey) (b : Builder) : Builder :=
  match row.integer? "TASKID", row.integer? "MILESTONEID" with
  | some id, _ => { b with tasks := b.tasks.insert id.toInt k }
  | none, some id => { b with milestones := b.milestones.insert id.toInt k }
  | none, none => b

/-- Filling a task from a leaf record fills it and then registers the record's id. -/
theorem populateLeaf_spec {b b' : Builder} {k : TaskKey} {parentName : Option String} {row : Row}
    (h : b.populateLeaf k parentName row = .ok b') :
    ∃ b₁, Fills k b b₁ ∧ b' = registerLeaf row k b₁ := by
  -- the leaf takes the bar's name last, which fills no more than its name
  have hname : ∀ b : Builder, Fills k b (b.modifyTask k fun t =>
      { t with name := if isBlankText t.name then parentName else t.name,
               barName := parentName }) := fun b =>
    Fills.modifyTask b (Task.Fill.of_keepsFrame fun _ => rfl)
  unfold populateLeaf at h
  dsimp only at h
  split at h
  · rename_i id heq
    obtain ⟨b₁, h₁, h⟩ := Reading.bind_eq_ok.mp h
    obtain ⟨b₂, h₂, h⟩ := Reading.bind_eq_ok.mp h
    rw [Reading.pure_eq_ok] at h₂ h
    subst h₂ h
    refine ⟨_, (fills_populateTask h₁).trans (hname b₁), ?_⟩
    simp only [registerLeaf, heq]
    rfl
  · rename_i id htask heq
    obtain ⟨b₂, h₂, h⟩ := Reading.bind_eq_ok.mp h
    rw [Reading.pure_eq_ok] at h₂ h
    subst h₂ h
    refine ⟨_, (fills_populateMilestone b k row).trans (hname _), ?_⟩
    simp only [registerLeaf, htask, heq]
    rfl
  · rename_i htask hmilestone
    obtain ⟨b₂, h₂, h⟩ := Reading.bind_eq_ok.mp h
    rw [Reading.pure_eq_ok] at h₂ h
    subst h₂ h
    -- a record with neither id takes the bar id and the name of its own row
    have hbar := Fills.modifyTask b (k := k)
      (f := fun t => { t with uniqueId := row.integer? "BARID", name := row.string? "NAME" })
      (Task.Fill.of_keepsFrame fun _ => rfl)
    exact ⟨_, hbar.trans (hname _), by simp only [registerLeaf, htask, hmilestone]⟩

/-! ### Creating the tasks of an outline -/

theorem Fills.size_eq {k : TaskKey} {b b' : Builder} (h : Fills k b b') :
    b'.project.tasks.size = b.project.tasks.size := by
  obtain ⟨f, -, hp⟩ := h.project
  rw [hp]
  exact Array.size_modify

theorem Fills.outline_eq {k : TaskKey} {b b' : Builder} (h : Fills k b b') :
    b'.project.outline = b.project.outline := by
  obtain ⟨f, hf, hp⟩ := h.project
  rw [hp]
  exact Project.outline_modifyTask hf.keepsLinks _ _

/-- Adding the task of a record under a parent, registered under the record's expanded task id
when it has one; gives the builder and the new key. -/
def startTask (parent : Option TaskKey) (row : Row) (b : Builder) : Builder × TaskKey :=
  let added := b.project.addTask parent
  (match (expandedField? row "EXPANDED_TASKID").bind Value.asInteger? with
    | some id => { b with project := added.1,
                          expandedTasks := b.expandedTasks.insert id.toInt added.2 }
    | none => { b with project := added.1 }, added.2)

theorem startTask_key (parent : Option TaskKey) (row : Row) (b : Builder) :
    (startTask parent row b).2 = b.project.tasks.size :=
  Project.addTask_key _ _

theorem startTask_project (parent : Option TaskKey) (row : Row) (b : Builder) :
    (startTask parent row b).1.project = (b.project.addTask parent).1 := by
  simp only [startTask]
  split <;> rfl

/-- Creating the task of one record, in steps: skip a bar that holds nothing but hammocks, add
the task, then fill a leaf, or fill a bar and create its children under it. -/
theorem createTask_eq (parent : Option TaskKey) (parentName : Option String) (b : Builder)
    (row : Row) (children : List RowTree) :
    createTask parent parentName b (.node row children) =
      if (row.integer? "BARID").isSome && isEmptyOrHammockBar children then pure b
      else
        let (b, k) := startTask parent row b
        match row.integer? "BARID" with
        | some bar => do
          let b ← match replacedByChild children with
            | some child => b.populateLeaf k (row.string? "NAME") child
            | none => do
              let b := b.populateBar k row children
              createTasks (some k) (b.project.task k).name b children
          pure { b with bars := b.bars.insert bar.toInt k }
        | none => b.populateLeaf k parentName row := by
  rw [createTask]
  rfl

theorem registerLeaf_project (row : Row) (k : TaskKey) (b : Builder) :
    (registerLeaf row k b).project = b.project := by
  unfold registerLeaf
  split <;> rfl

/-- A property of builders that adding a task (under a task that exists), filling it, and
registering it in the lookup tables all keep. -/
structure CreationInvariant (P : Builder → Prop) : Prop where
  start : ∀ b parent row, P b → (∀ q, parent = some q → q < b.project.tasks.size) →
    P (startTask parent row b).1
  fill : ∀ b b' k, P b → k < b.project.tasks.size → Fills k b b' → P b'
  leaf : ∀ b row k, P b → k < b.project.tasks.size → P (registerLeaf row k b)
  bar : ∀ b id k, P b → k < b.project.tasks.size → P { b with bars := b.bars.insert id k }

mutual

/-- Creating the tasks of a list of outline trees keeps a creation invariant, and only adds
tasks. -/
theorem createTasks_invariant {P : Builder → Prop} (hP : CreationInvariant P) :
    ∀ {parent : Option TaskKey} {parentName : Option String} {b b' : Builder} (ts : List RowTree),
    P b → (∀ q, parent = some q → q < b.project.tasks.size) →
    createTasks parent parentName b ts = .ok b' →
    P b' ∧ b.project.tasks.size ≤ b'.project.tasks.size
  | _, _, b, b', [], hb, _, h => by
    simp only [createTasks, Reading.pure_eq_ok] at h
    exact h ▸ ⟨hb, Nat.le_refl _⟩
  | _, _, b, b', t :: rest, hb, hparent, h => by
    simp only [createTasks] at h
    obtain ⟨b₁, h₁, h⟩ := Reading.bind_eq_ok.mp h
    obtain ⟨hb₁, hle₁⟩ := createTask_invariant hP t hb hparent h₁
    obtain ⟨hb', hle'⟩ := createTasks_invariant hP rest hb₁
      (fun q hq => Nat.lt_of_lt_of_le (hparent q hq) hle₁) h
    exact ⟨hb', Nat.le_trans hle₁ hle'⟩

/-- Creating the task of one outline tree, and those under it. -/
theorem createTask_invariant {P : Builder → Prop} (hP : CreationInvariant P) :
    ∀ {parent : Option TaskKey} {parentName : Option String} {b b' : Builder} (t : RowTree),
    P b → (∀ q, parent = some q → q < b.project.tasks.size) →
    createTask parent parentName b t = .ok b' →
    P b' ∧ b.project.tasks.size ≤ b'.project.tasks.size
  | parent, parentName, b, b', .node row children, hb, hparent, h => by
    rw [createTask_eq] at h
    split at h
    · -- a bar holding nothing but hammocks gives no task
      rw [Reading.pure_eq_ok] at h
      exact h ▸ ⟨hb, Nat.le_refl _⟩
    · have hb₂ := hP.start b parent row hb hparent
      have hsize₂ : (startTask parent row b).1.project.tasks.size = b.project.tasks.size + 1 := by
        rw [startTask_project, Project.addTask_size]
      have hk₂ : (startTask parent row b).2 < (startTask parent row b).1.project.tasks.size := by
        rw [hsize₂, startTask_key]; exact Nat.lt_succ_self _
      generalize startTask parent row b = bk at h hb₂ hsize₂ hk₂
      obtain ⟨b₂, k⟩ := bk
      dsimp only at h hb₂ hsize₂ hk₂
      -- a leaf record, or a bar replaced by its only child, is filled and registered
      have hleaf : ∀ pn r b', b₂.populateLeaf k pn r = .ok b' →
          P b' ∧ b₂.project.tasks.size ≤ b'.project.tasks.size := by
        intro pn r b' h'
        obtain ⟨b₃, h₃, rfl⟩ := populateLeaf_spec h'
        have hsize₃ := h₃.size_eq
        refine ⟨hP.leaf _ r k (hP.fill _ _ k hb₂ hk₂ h₃) (hsize₃ ▸ hk₂), ?_⟩
        exact Nat.le_of_eq (by rw [registerLeaf_project, hsize₃])
      -- a bar, once its task is made, is registered under its id
      have hbar : ∀ (bar : Int32) b₃, P b₃ →
          b₂.project.tasks.size ≤ b₃.project.tasks.size →
          P { b₃ with bars := b₃.bars.insert bar.toInt k } ∧
            b.project.tasks.size ≤ b₃.project.tasks.size := by
        intro bar b₃ hb₃ hle₃
        exact ⟨hP.bar _ _ k hb₃ (Nat.lt_of_lt_of_le hk₂ hle₃), by omega⟩
      split at h
      · split at h
        · obtain ⟨b₃, h₃, h⟩ := Reading.bind_eq_ok.mp h
          rw [Reading.pure_eq_ok] at h
          subst h
          obtain ⟨hb₃, hle₃⟩ := hleaf _ _ _ h₃
          exact hbar _ b₃ hb₃ hle₃
        · -- a summary: the bar is filled, then its children are created under it
          obtain ⟨b₃, h₃, h⟩ := Reading.bind_eq_ok.mp h
          rw [Reading.pure_eq_ok] at h
          subst h
          have hfills := fills_populateBar b₂ k row children
          have hsize := hfills.size_eq
          have hk : k < (b₂.populateBar k row children).project.tasks.size := hsize ▸ hk₂
          obtain ⟨hb₃, hle₃⟩ := createTasks_invariant hP children
            (hP.fill _ _ k hb₂ hk₂ hfills) (fun q hq => Option.some.inj hq ▸ hk) h₃
          exact hbar _ b₃ hb₃ (hsize ▸ hle₃)
      · obtain ⟨hb₃, hle₃⟩ := hleaf _ _ _ h
        exact ⟨hb₃, by omega⟩

end

/-! ### Reading the tasks -/

theorem addCompletedSections_project (b : Builder) (rows : List Row) :
    (b.addCompletedSections rows).project = b.project := by
  unfold addCompletedSections
  refine List.foldlRecOn (motive := fun b' : Builder => b'.project = b.project) _ _ rfl ?_
  intro b' hb' r _
  split
  · exact hb'
  · exact hb'

/-- Reading the tasks creates the outline, registers the completed sections, chooses the
default calendar, and finishes with edits that keep every task's frame and constraint. -/
theorem processTasks_settled {b b' : Builder} {t : TaskTables} (h : b.processTasks t = .ok b') :
    ∃ b₁, createTasks none none b
        (buildRowHierarchy t.bars t.expandedTasks t.tasks t.milestones t.hammocks) = .ok b₁ ∧
      ∃ p, b' = { b₁.addCompletedSections t.completedSections with project := p } ∧
        (b₁.addCompletedSections t.completedSections).project.deriveDefaultCalendar.SettledEdit
          p := by
  unfold processTasks at h
  obtain ⟨b₁, h₁, h⟩ := Reading.bind_eq_ok.mp h
  rw [Reading.pure_eq_ok] at h
  refine ⟨b₁, h₁, ?_⟩
  set b₂ := b₁.addCompletedSections t.completedSections
  -- numbering and widening only edit tasks, and so does rolling up progress
  have hedit : b₂.project.deriveDefaultCalendar.SettledEdit
      b₂.project.deriveDefaultCalendar.numberUnidentified.numberOutline.widenSummaryDates :=
    ((Project.settledEdit_numberUnidentified _).trans (Project.settledEdit_numberOutline _)).trans
      (Project.settledEdit_widenSummaryDates _)
  obtain ⟨p, hp, hedit'⟩ := rollUpProgress_settled
    { b₂ with project := b₂.project.deriveDefaultCalendar.numberUnidentified.numberOutline
        |>.widenSummaryDates }
  exact ⟨p, h.symm.trans hp, hedit.trans hedit'⟩

/-- Reading the tasks creates the outline, registers the completed sections, chooses the
default calendar, and finishes with edits that keep every task's frame. -/
theorem processTasks_spec {b b' : Builder} {t : TaskTables} (h : b.processTasks t = .ok b') :
    ∃ b₁, createTasks none none b
        (buildRowHierarchy t.bars t.expandedTasks t.tasks t.milestones t.hammocks) = .ok b₁ ∧
      ∃ p, b' = { b₁.addCompletedSections t.completedSections with project := p } ∧
        (b₁.addCompletedSections t.completedSections).project.deriveDefaultCalendar.TaskEdit
          p := by
  obtain ⟨b₁, h₁, p, hp, hedit⟩ := processTasks_settled h
  exact ⟨b₁, h₁, p, hp, hedit.taskEdit⟩

end Builder

end Schedule
