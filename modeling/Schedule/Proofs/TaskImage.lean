import Schedule.Proofs.SucceedingRuns

/-!
# The tasks an outline gives

Reading the tasks turns the outline of records into tasks node by node. A bar node (a record with
a bar id) that holds nothing but hammocks gives no task, and nothing under it does; a bar node
whose only child is a task or milestone record without children gives one task, filled from that
child; any other bar node gives a summary task with the tasks of its children under it; any other
node gives one task, filled from its record. This module states that map as `RowTree.plan`, a
forest of planned tasks, and shows that reading the tasks builds exactly that forest: the planned
tasks get consecutive keys in creation order, each under the task of its nearest summary, in the
order of the outline, and the lookup tables receive the planned entries in the order they are
made.

## Main definitions

* `PlannedTask` — a task the outline is to give: filled from a record, or a summary over others.
* `RowTree.plan` — the planned tasks of a row tree.
* `PlannedTask.LaidListAt` — tasks from a key on are laid out as a list of planned tasks.
* `PlannedTask.registrationsList` — the lookup table entries creating planned tasks makes.
* `Builder.CreatesPlan` — one builder follows from another by creating planned tasks.

## Main statements

* `Builder.createTasks_createsPlan` — creating the tasks of row trees creates their plan.
* `Builder.processTasks_createsPlan` — reading the tasks creates the plan of the outline.
-/

namespace Schedule

/-- A task the outline is to give. -/
inductive PlannedTask where
  /-- A task added for the outline node `node` and filled from `record`: the node's own record,
  or the only child of the bar it replaces, whose id is `bar`. -/
  | leaf (node record : Row) (bar : Option Int32)
  /-- A summary task filled from the bar `node` with id `bar`, over the tasks of its children. -/
  | summary (node : Row) (bar : Int32) (children : List PlannedTask)

mutual

/-- The planned tasks of a row tree: none for a bar holding nothing but hammocks; one filled from
the only child for a bar it replaces; a summary for any other bar; the record itself for any other
node. -/
def RowTree.plan : RowTree → List PlannedTask
  | .node row children =>
    match row.integer? "BARID" with
    | none => [.leaf row row none]
    | some bar =>
      if children.all fun c => (c.row.integer? "HAMMOCK_TASKID").isSome then []
      else match replacedByChild children with
        | some child => [.leaf row child (some bar)]
        | none => [.summary row bar (RowTree.planList children)]

/-- The planned tasks of a list of row trees, in order. -/
def RowTree.planList : List RowTree → List PlannedTask
  | [] => []
  | t :: ts => t.plan ++ RowTree.planList ts

end

namespace PlannedTask

mutual

/-- How many tasks a planned task stands for, itself included. -/
def size : PlannedTask → Nat
  | .leaf .. => 1
  | .summary _ _ cs => sizeList cs + 1

/-- How many tasks a list of planned tasks stands for. -/
def sizeList : List PlannedTask → Nat
  | [] => 0
  | p :: ps => p.size + sizeList ps

end

/-- The keys of a list of planned tasks laid out from key `n`, each followed by the tasks under
it. -/
def rootKeys : Nat → List PlannedTask → List TaskKey
  | _, [] => []
  | n, p :: ps => n :: rootKeys (n + p.size) ps

mutual

/-- Task `n` of a project, and the tasks after it, are laid out as a planned task under
`parent`. -/
def LaidAt (p : Project) (parent : Option TaskKey) (n : Nat) : PlannedTask → Prop
  | .leaf .. => (p.task n).links = (parent, [])
  | .summary _ _ cs =>
    (p.task n).links = (parent, rootKeys (n + 1) cs) ∧ LaidListAt p (some n) (n + 1) cs

/-- The tasks of a project from key `n` on are laid out as a list of planned tasks under
`parent`. -/
def LaidListAt (p : Project) (parent : Option TaskKey) : Nat → List PlannedTask → Prop
  | _, [] => True
  | n, c :: cs => LaidAt p parent n c ∧ LaidListAt p parent (n + c.size) cs

end

end PlannedTask

/-! ### Lookup table entries -/

/-- An entry the creation of tasks adds to a lookup table. -/
inductive Registration where
  | expandedTask (id : Int) (k : TaskKey)
  | task (id : Int) (k : TaskKey)
  | milestone (id : Int) (k : TaskKey)
  | bar (id : Int) (k : TaskKey)

namespace Builder

/-- The lookup tables filled while tasks are created. -/
def tables (b : Builder) :
    Std.HashMap Int TaskKey × Std.HashMap Int TaskKey × Std.HashMap Int TaskKey ×
      Std.HashMap Int TaskKey :=
  (b.expandedTasks, b.tasks, b.milestones, b.bars)

/-- Adds an entry to its lookup table. -/
def register (b : Builder) : Registration → Builder
  | .expandedTask id k => { b with expandedTasks := b.expandedTasks.insert id k }
  | .task id k => { b with tasks := b.tasks.insert id k }
  | .milestone id k => { b with milestones := b.milestones.insert id k }
  | .bar id k => { b with bars := b.bars.insert id k }

@[simp] theorem register_project (b : Builder) (r : Registration) :
    (b.register r).project = b.project := by
  cases r <;> rfl

/-- What an entry does to the tables depends only on the tables. -/
theorem tables_foldl_register {b b' : Builder} (h : b.tables = b'.tables) :
    ∀ rs : List Registration, (rs.foldl register b).tables = (rs.foldl register b').tables
  | [] => h
  | r :: rs => by
    have hr : (b.register r).tables = (b'.register r).tables := by
      simp only [tables, Prod.mk.injEq] at h
      obtain ⟨he, ht, hm, hb⟩ := h
      cases r <;> simp [register, tables, he, ht, hm, hb]
    exact tables_foldl_register hr rs

end Builder

/-- The expanded task entry of the task added for an outline node. -/
def expandedRegistration (node : Row) (k : TaskKey) : List Registration :=
  match (expandedField? node "EXPANDED_TASKID").bind Value.asInteger? with
  | some id => [.expandedTask id.toInt k]
  | none => []

/-- The entry of a task filled from a record: under its task id, else its milestone id. -/
def recordRegistration (record : Row) (k : TaskKey) : List Registration :=
  match record.integer? "TASKID", record.integer? "MILESTONEID" with
  | some id, _ => [.task id.toInt k]
  | none, some id => [.milestone id.toInt k]
  | none, none => []

namespace PlannedTask

mutual

/-- The entries creating a planned task at key `n` makes, in order: the node's expanded task
entry as the task is added, the entries of what is filled under it, and its bar entry last. -/
def registrations (n : TaskKey) : PlannedTask → List Registration
  | .leaf node record bar =>
    expandedRegistration node n ++ recordRegistration record n ++
      (bar.map fun id => Registration.bar id.toInt n).toList
  | .summary node bar cs =>
    expandedRegistration node n ++ registrationsList (n + 1) cs ++ [.bar bar.toInt n]

/-- The entries creating a list of planned tasks from key `n` makes. -/
def registrationsList : TaskKey → List PlannedTask → List Registration
  | _, [] => []
  | n, p :: ps => registrations n p ++ registrationsList (n + p.size) ps

end

/-! ### Laying out lists of planned tasks -/

@[simp] theorem sizeList_append (ps qs : List PlannedTask) :
    sizeList (ps ++ qs) = sizeList ps + sizeList qs := by
  induction ps with
  | nil => simp [sizeList]
  | cons p ps ih => simp [sizeList, ih]; omega

theorem rootKeys_append (n : Nat) (ps qs : List PlannedTask) :
    rootKeys n (ps ++ qs) = rootKeys n ps ++ rootKeys (n + sizeList ps) qs := by
  induction ps generalizing n with
  | nil => simp [rootKeys, sizeList]
  | cons p ps ih => simp [rootKeys, sizeList, ih, Nat.add_assoc]

theorem registrationsList_append (n : Nat) (ps qs : List PlannedTask) :
    registrationsList n (ps ++ qs) =
      registrationsList n ps ++ registrationsList (n + sizeList ps) qs := by
  induction ps generalizing n with
  | nil => simp [registrationsList, sizeList]
  | cons p ps ih => simp [registrationsList, sizeList, ih, Nat.add_assoc]

theorem laidListAt_append {p : Project} {parent : Option TaskKey} (n : Nat)
    (ps qs : List PlannedTask) :
    LaidListAt p parent n (ps ++ qs) ↔
      LaidListAt p parent n ps ∧ LaidListAt p parent (n + sizeList ps) qs := by
  induction ps generalizing n with
  | nil => simp [LaidListAt, sizeList]
  | cons c cs ih => simp [LaidListAt, sizeList, ih, Nat.add_assoc, and_assoc]

mutual

/-- A layout reads only the links of the tasks it covers. -/
theorem LaidAt.of_links {p p' : Project} {parent : Option TaskKey} :
    ∀ {n : Nat} (c : PlannedTask),
    (∀ k, n ≤ k → k < n + c.size → (p'.task k).links = (p.task k).links) →
    LaidAt p parent n c → LaidAt p' parent n c
  | n, .leaf .., hlinks, h => by
    unfold LaidAt at h ⊢
    rw [hlinks n (Nat.le_refl n) (by simp [size])]
    exact h
  | n, .summary _ _ cs, hlinks, h => by
    unfold LaidAt at h ⊢
    refine ⟨?_, LaidListAt.of_links cs (fun k hk hk' => hlinks k (by omega) ?_) h.2⟩
    · rw [hlinks n (Nat.le_refl n) (by simp [size])]
      exact h.1
    · simp only [size]
      omega

/-- A layout of a list reads only the links of the tasks it covers. -/
theorem LaidListAt.of_links {p p' : Project} {parent : Option TaskKey} :
    ∀ {n : Nat} (cs : List PlannedTask),
    (∀ k, n ≤ k → k < n + sizeList cs → (p'.task k).links = (p.task k).links) →
    LaidListAt p parent n cs → LaidListAt p' parent n cs
  | _, [], _, _ => trivial
  | n, c :: cs, hlinks, h => by
    unfold LaidListAt at h ⊢
    refine ⟨LaidAt.of_links c (fun k hk hk' => hlinks k hk ?_) h.1,
      LaidListAt.of_links cs (fun k hk hk' => hlinks k (by omega) ?_) h.2⟩
    · simp only [sizeList]
      omega
    · simp only [sizeList]
      omega

end

end PlannedTask

namespace Builder

/-! ### One step of creation at a time -/

section Start

variable {parent : Option TaskKey} {b : Builder}

/-- Adding a task links it under its parent and lists it last among the parent's children. -/
theorem startTask_links (hparent : ∀ q, parent = some q → q < b.project.tasks.size) (row : Row)
    (j : TaskKey) :
    ((startTask parent row b).1.project.task j).links =
      if j = b.project.tasks.size then (parent, [])
      else ((b.project.task j).parent,
        (b.project.task j).children ++ if parent = some j then [b.project.tasks.size] else []) := by
  rw [startTask_project]
  simp only [Task.links, Project.addTask_parent hparent, Project.addTask_children hparent]
  by_cases hj : j = b.project.tasks.size
  · -- the parent comes before the new task, so it is not the new task
    subst hj
    have hne : parent ≠ some b.project.tasks.size := fun h => Nat.lt_irrefl _ (hparent _ h)
    simp [hne]
  · simp [hj]

theorem startTask_childTasks (row : Row) :
    (startTask parent row b).1.project.childTasks =
      b.project.childTasks ++ if parent = none then [b.project.tasks.size] else [] := by
  rw [startTask_project, Project.addTask_childTasks]
  split <;> simp

theorem startTask_tables (row : Row) :
    (startTask parent row b).1.tables =
      ((expandedRegistration row b.project.tasks.size).foldl register b).tables := by
  simp only [startTask, expandedRegistration, Project.addTask_key]
  -- the record registers its expanded id exactly when it has one
  cases (expandedField? row "EXPANDED_TASKID").bind Value.asInteger? with
  | none => rfl
  | some id => rfl

end Start

theorem registerLeaf_tables (row : Row) (k : TaskKey) (b : Builder) :
    (registerLeaf row k b).tables = ((recordRegistration row k).foldl register b).tables := by
  unfold registerLeaf recordRegistration
  cases row.integer? "TASKID" <;> cases row.integer? "MILESTONEID" <;> rfl

/-- `b'` follows from `b` by creating a list of planned tasks under `parent`: they take the next
keys and are laid out as planned; the tasks there before keep their links, save that the parent
(or the top level) lists the new top keys last; and the lookup tables receive the planned entries
in order. -/
structure CreatesPlan (parent : Option TaskKey) (plans : List PlannedTask) (b b' : Builder) :
    Prop where
  size : b'.project.tasks.size = b.project.tasks.size + PlannedTask.sizeList plans
  laid : PlannedTask.LaidListAt b'.project parent b.project.tasks.size plans
  old : ∀ k < b.project.tasks.size, (b'.project.task k).links =
    ((b.project.task k).parent, (b.project.task k).children ++
      if parent = some k then PlannedTask.rootKeys b.project.tasks.size plans else [])
  top : b'.project.childTasks = b.project.childTasks ++
    if parent = none then PlannedTask.rootKeys b.project.tasks.size plans else []
  tables : b'.tables =
    ((PlannedTask.registrationsList b.project.tasks.size plans).foldl register b).tables

namespace CreatesPlan

variable {parent : Option TaskKey}

theorem nil (parent : Option TaskKey) (b : Builder) : CreatesPlan parent [] b b where
  size := rfl
  laid := trivial
  old k _ := by simp [Task.links, PlannedTask.rootKeys]
  top := by simp [PlannedTask.rootKeys]
  tables := rfl

/-- Creating one list of planned tasks and then another creates both, the second after the
first. -/
theorem append {ps qs : List PlannedTask} {b b₁ b₂ : Builder}
    (h₁ : CreatesPlan parent ps b b₁)
    (h₂ : CreatesPlan parent qs b₁ b₂)
    (hparent : ∀ q, parent = some q → q < b.project.tasks.size) :
    CreatesPlan parent (ps ++ qs) b b₂ := by
  have hsize₁ := h₁.size
  -- the parent comes before the first new task, so the tasks of `ps` keep their links
  have hnew : ∀ k, b.project.tasks.size ≤ k → k < b₁.project.tasks.size →
      (b₂.project.task k).links = (b₁.project.task k).links := by
    intro k hk hk'
    have hne : parent ≠ some k := fun h => Nat.lt_irrefl k
      (Nat.lt_of_lt_of_le (hparent k h) hk)
    rw [h₂.old k hk', if_neg hne, List.append_nil]
    rfl
  refine ⟨by rw [h₂.size, hsize₁, PlannedTask.sizeList_append, Nat.add_assoc],
    ?_, ?_, ?_, ?_⟩
  · refine (PlannedTask.laidListAt_append _ _ _).mpr ⟨?_, ?_⟩
    · exact h₁.laid.of_links ps fun k hk hk' => hnew k hk (hsize₁ ▸ hk')
    · exact hsize₁ ▸ h₂.laid
  · intro k hk
    have hk₁ : k < b₁.project.tasks.size :=
      Nat.lt_of_lt_of_le hk (hsize₁ ▸ Nat.le_add_right _ _)
    have hl₁ := h₁.old k hk
    simp only [Task.links, Prod.mk.injEq] at hl₁
    rw [h₂.old k hk₁, hl₁.1, hl₁.2, hsize₁, PlannedTask.rootKeys_append]
    split <;> simp
  · rw [h₂.top, h₁.top, hsize₁, PlannedTask.rootKeys_append]
    split <;> simp
  · rw [h₂.tables, PlannedTask.registrationsList_append, List.foldl_append, hsize₁]
    exact tables_foldl_register h₁.tables _

end CreatesPlan

theorem foldl_register_project (b : Builder) (rs : List Registration) :
    (rs.foldl register b).project = b.project := by
  induction rs generalizing b with
  | nil => rfl
  | cons r rs ih => rw [List.foldl_cons, ih, register_project]

theorem Fills.tables_eq {k : TaskKey} {b b' : Builder} (h : Fills k b b') :
    b'.tables = b.tables := by
  simp only [tables, h.expandedTasks, h.tasks, h.milestones, h.bars]

section Single

variable {parent : Option TaskKey} {b b₃ : Builder}
  (hparent : ∀ q, parent = some q → q < b.project.tasks.size) {node : Row}

include hparent in
/-- Adding a task for an outline node and filling it from a record, then registering the record
and perhaps the bar it replaces, creates one planned leaf. -/
theorem createsPlan_leaf (hfill : Fills b.project.tasks.size (startTask parent node b).1 b₃)
    (record : Row) (bar : Option Int32) :
    CreatesPlan parent [.leaf node record bar] b
      (((bar.map fun id => Registration.bar id.toInt b.project.tasks.size).toList).foldl register
        (registerLeaf record b.project.tasks.size b₃)) := by
  have hproject : ∀ rs : List Registration,
      (rs.foldl register (registerLeaf record b.project.tasks.size b₃)).project = b₃.project :=
    fun rs => by rw [foldl_register_project, registerLeaf_project]
  have hout := hfill.outline_eq
  have hlinks : ∀ j,
      (b₃.project.task j).links = ((startTask parent node b).1.project.task j).links :=
    Project.task_links_of_outline_eq hout
  refine ⟨?_, ?_, ?_, ?_, ?_⟩
  · rw [hproject, hfill.size_eq, startTask_project, Project.addTask_size]
    rfl
  · refine ⟨?_, trivial⟩
    rw [PlannedTask.LaidAt, hproject, hlinks, startTask_links hparent, if_pos rfl]
  · intro k hk
    rw [hproject, hlinks, startTask_links hparent, if_neg (Nat.ne_of_lt hk)]
    rfl
  · have htop := congrArg Prod.fst hout
    simp only [Project.outline] at htop
    rw [hproject, htop, startTask_childTasks]
    rfl
  · -- the record's entry and the bar's come after the node's expanded task entry
    rw [tables_foldl_register (registerLeaf_tables record _ b₃),
      tables_foldl_register
        (tables_foldl_register (hfill.tables_eq.trans (startTask_tables node)) _)]
    simp only [PlannedTask.registrationsList, PlannedTask.registrations, List.append_nil,
      List.foldl_append]

include hparent in
/-- Adding a task for a bar and filling it, then creating the tasks under it and registering the
bar, creates one planned summary. -/
theorem createsPlan_summary {b₄ : Builder} {cs : List PlannedTask}
    (hfill : Fills b.project.tasks.size (startTask parent node b).1 b₃)
    (hcs : CreatesPlan (some b.project.tasks.size) cs b₃ b₄) (bar : Int32) :
    CreatesPlan parent [.summary node bar cs] b
      (b₄.register (.bar bar.toInt b.project.tasks.size)) := by
  have hsize₃ : b₃.project.tasks.size = b.project.tasks.size + 1 := by
    rw [hfill.size_eq, startTask_project, Project.addTask_size]
  have hlinks : ∀ j,
      (b₃.project.task j).links = ((startTask parent node b).1.project.task j).links :=
    Project.task_links_of_outline_eq hfill.outline_eq
  -- the summary keeps its parent and gets exactly the top keys of its children
  have hown : (b₄.project.task b.project.tasks.size).links =
      (parent, PlannedTask.rootKeys (b.project.tasks.size + 1) cs) := by
    have h₃ := hlinks b.project.tasks.size
    rw [startTask_links hparent, if_pos rfl] at h₃
    simp only [Task.links, Prod.mk.injEq] at h₃
    rw [hcs.old _ (by omega), h₃.1, h₃.2, if_pos rfl, hsize₃, List.nil_append]
  refine ⟨?_, ?_, ?_, ?_, ?_⟩
  · rw [register_project, hcs.size, hsize₃]
    simp only [PlannedTask.sizeList, PlannedTask.size]
    omega
  · refine ⟨⟨by rw [register_project]; exact hown, ?_⟩, trivial⟩
    rw [register_project, ← hsize₃]
    exact hcs.laid
  · intro k hk
    have hne : some b.project.tasks.size ≠ some k := fun h => Nat.ne_of_gt hk (Option.some.inj h)
    rw [register_project, hcs.old k (by omega), if_neg hne, List.append_nil]
    have h₃ := hlinks k
    rw [startTask_links hparent, if_neg (Nat.ne_of_lt hk)] at h₃
    exact h₃
  · have htop := congrArg Prod.fst hfill.outline_eq
    simp only [Project.outline] at htop
    rw [register_project, hcs.top, if_neg (Option.some_ne_none _), List.append_nil, htop,
      startTask_childTasks]
    rfl
  · -- the children's entries come between the bar's expanded task entry and its bar entry
    have h₄ := hcs.tables
    rw [hsize₃] at h₄
    show ([Registration.bar bar.toInt b.project.tasks.size].foldl register b₄).tables = _
    rw [tables_foldl_register h₄, ← List.foldl_append,
      tables_foldl_register (hfill.tables_eq.trans (startTask_tables node)), ← List.foldl_append]
    simp only [PlannedTask.registrationsList, PlannedTask.registrations, List.append_nil,
      List.append_assoc]

end Single

/-! ### Creating the tasks of row trees -/

theorem isEmptyOrHammockBar_eq (cs : List RowTree) :
    isEmptyOrHammockBar cs = cs.all fun c => (c.row.integer? "HAMMOCK_TASKID").isSome := by
  cases cs <;> rfl

/-- Creating the task of one row tree, case by case along its plan: a bar holding nothing but
hammocks gives nothing; a leaf is added and filled from its record, and the bar it replaces, if
any, is registered; a summary is added and filled from its bar, the tasks of its children are
created under it, and the bar is registered last. -/
theorem createTask_cases {parent : Option TaskKey} {parentName : Option String} {b b' : Builder}
    {row : Row} {children : List RowTree}
    (h : createTask parent parentName b (.node row children) = .ok b') :
    (RowTree.plan (.node row children) = [] ∧ b' = b) ∨
    (∃ record bar name b₁, RowTree.plan (.node row children) = [.leaf row record bar] ∧
      (startTask parent row b).1.populateLeaf b.project.tasks.size name record = .ok b₁ ∧
      b' = ((bar.map fun id => Registration.bar id.toInt b.project.tasks.size).toList).foldl
        register b₁) ∨
    (∃ bar b₁, RowTree.plan (.node row children) = [.summary row bar (RowTree.planList children)] ∧
      createTasks (some b.project.tasks.size)
        (((startTask parent row b).1.populateBar b.project.tasks.size row children).project.task
          b.project.tasks.size).name
        ((startTask parent row b).1.populateBar b.project.tasks.size row children) children =
          .ok b₁ ∧
      b' = b₁.register (.bar bar.toInt b.project.tasks.size)) := by
  rw [createTask_eq, isEmptyOrHammockBar_eq] at h
  unfold RowTree.plan
  cases hbar : row.integer? "BARID" with
  | none =>
    simp only [hbar, Option.isSome_none, Bool.false_and, Bool.false_eq_true, if_false] at h
    rw [startTask_key] at h
    exact .inr (.inl ⟨row, none, parentName, b', rfl, h, rfl⟩)
  | some bar =>
    simp only [hbar, Option.isSome_some, Bool.true_and] at h
    dsimp only
    by_cases hham : (children.all fun c => (c.row.integer? "HAMMOCK_TASKID").isSome) = true
    · -- a bar holding nothing but hammocks gives nothing
      rw [if_pos hham, Reading.pure_eq_ok] at h
      rw [if_pos hham]
      exact .inl ⟨rfl, h.symm⟩
    · rw [if_neg hham] at h
      rw [if_neg hham]
      rw [startTask_key] at h
      cases hchild : replacedByChild children with
      | some child =>
        -- the bar is replaced by its only child
        simp only [hchild] at h
        obtain ⟨b₁, h₁, h⟩ := Reading.bind_eq_ok.mp h
        rw [Reading.pure_eq_ok] at h
        exact .inr (.inl ⟨child, some bar, row.string? "NAME", b₁, rfl, h₁, h.symm⟩)
      | none =>
        -- a summary, with the tasks of its children under it
        simp only [hchild] at h
        obtain ⟨b₁, h₁, h⟩ := Reading.bind_eq_ok.mp h
        rw [Reading.pure_eq_ok] at h
        exact .inr (.inr ⟨bar, b₁, rfl, h₁, h.symm⟩)

mutual

/-- Creating the tasks of a list of row trees under a task that exists creates their plan. -/
theorem createTasks_createsPlan :
    ∀ {parent : Option TaskKey} {parentName : Option String} {b b' : Builder} (ts : List RowTree),
    (∀ q, parent = some q → q < b.project.tasks.size) →
    createTasks parent parentName b ts = .ok b' → CreatesPlan parent (RowTree.planList ts) b b'
  | parent, _, b, b', [], _, h => by
    simp only [createTasks, Reading.pure_eq_ok] at h
    subst h
    exact CreatesPlan.nil parent b
  | _, _, b, b', t :: rest, hparent, h => by
    simp only [createTasks] at h
    obtain ⟨b₁, h₁, h⟩ := Reading.bind_eq_ok.mp h
    have c₁ := createTask_createsPlan t hparent h₁
    have c₂ := createTasks_createsPlan rest
      (fun q hq => Nat.lt_of_lt_of_le (hparent q hq) (c₁.size ▸ Nat.le_add_right _ _)) h
    exact c₁.append c₂ hparent

/-- Creating the tasks of one row tree under a task that exists creates its plan. -/
theorem createTask_createsPlan :
    ∀ {parent : Option TaskKey} {parentName : Option String} {b b' : Builder} (t : RowTree),
    (∀ q, parent = some q → q < b.project.tasks.size) →
    createTask parent parentName b t = .ok b' → CreatesPlan parent t.plan b b'
  | parent, parentName, b, b', .node row children, hparent, h => by
    rcases createTask_cases h with ⟨hplan, rfl⟩ | ⟨record, bar, name, b₁, hplan, h₁, rfl⟩ |
      ⟨bar, b₁, hplan, h₁, rfl⟩
    · rw [hplan]
      exact CreatesPlan.nil parent _
    · rw [hplan]
      obtain ⟨b₃, hfill, rfl⟩ := populateLeaf_spec h₁
      exact createsPlan_leaf hparent hfill record bar
    · rw [hplan]
      have hfill := fills_populateBar (startTask parent row b).1 b.project.tasks.size row children
      have hk : b.project.tasks.size <
          ((startTask parent row b).1.populateBar b.project.tasks.size row
            children).project.tasks.size := by
        rw [hfill.size_eq, startTask_project, Project.addTask_size]
        exact Nat.lt_succ_self _
      exact createsPlan_summary hparent hfill
        (createTasks_createsPlan children (fun q hq => Option.some.inj hq ▸ hk) h₁) bar

end

/-! ### Reading the tasks -/

/-- Edits that keep the outline and the lookup tables keep what a creation made. -/
theorem CreatesPlan.of_outline_eq {parent : Option TaskKey} {ps : List PlannedTask}
    {b b₁ b' : Builder} (h : CreatesPlan parent ps b b₁)
    (hout : b'.project.outline = b₁.project.outline) (htables : b'.tables = b₁.tables) :
    CreatesPlan parent ps b b' := by
  have hlinks := Project.task_links_of_outline_eq hout
  have htop := congrArg Prod.fst hout
  simp only [Project.outline] at htop
  exact ⟨(Project.size_of_outline_eq hout).trans h.size,
    h.laid.of_links ps fun k _ _ => hlinks k, fun k hk => (hlinks k).trans (h.old k hk),
    htop.trans h.top, htables.trans h.tables⟩

theorem addCompletedSections_tables (b : Builder) (rows : List Row) :
    (b.addCompletedSections rows).tables = b.tables := by
  unfold addCompletedSections
  refine List.foldlRecOn (motive := fun b' : Builder => b'.tables = b.tables) _ _ rfl ?_
  intro b' hb' r _
  split
  · exact hb'
  · exact hb'

/-- Reading the tasks creates the plan of their outline at the top level: the planned tasks take
the next keys in creation order, each under the task of its nearest summary, the tasks there
before keep their links, the new top-level tasks are listed last, and the lookup tables receive
the planned entries in order. -/
theorem processTasks_createsPlan {b b' : Builder} {t : TaskTables}
    (h : b.processTasks t = .ok b') :
    CreatesPlan none
      (RowTree.planList (buildRowHierarchy t.bars t.expandedTasks t.tasks t.milestones t.hammocks))
      b b' := by
  obtain ⟨b₁, h₁, p, rfl, hedit⟩ := processTasks_spec h
  have hcreate := createTasks_createsPlan _ (by rintro _ ⟨⟩) h₁
  refine hcreate.of_outline_eq ?_ (addCompletedSections_tables b₁ t.completedSections)
  -- choosing the default calendar and the edits after it move no task
  show p.outline = _
  rw [hedit.outline_eq, Project.outline_deriveDefaultCalendar, addCompletedSections_project]

/-- Reading the sample outline succeeds and creates its plan: a summary for the design bar over
its two tasks and its hammock, and a task for the milestone, under no parent since the lone
project bar gives up its place. -/
theorem sample_outline_createsPlan :
    ∃ b', ({} : Builder).processTasks Sample.outline = .ok b' ∧
      CreatesPlan none (RowTree.planList (buildRowHierarchy Sample.outline.bars
        Sample.outline.expandedTasks Sample.outline.tasks Sample.outline.milestones
        Sample.outline.hammocks)) {} b' := by
  obtain ⟨b', h⟩ := processTasks_ok {} Sample.outline_hours.1 Sample.outline_hours.2
  exact ⟨b', h, processTasks_createsPlan h⟩

end Builder

end Schedule
