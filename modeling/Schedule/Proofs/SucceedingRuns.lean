import Schedule.Build.Steps
import Schedule.Proofs.TaskFill
import Schedule.Proofs.OutlineForest

/-!
# Runs that succeed

Reading fails in one way only: a duration stored as packed text that does not decode. A record
whose source stores plain hours reads every duration, so a step whose records all store hours
succeeds, and so does a run of such steps. For the tasks this needs the outline: every record of
it is one of the sorted bars, decorated by expanded tasks (which keeps how it stores durations),
or one of the sorted leaves.

The module ends with a small schedule whose runs meet the hypotheses of the statements about
whole runs: two calendars, a resource, an outline of nested bars with tasks, a milestone and a
hammock, a link, an allocation, a user field and an activity code.

## Main definitions

* `RowTree.allRows` — the records of an outline tree, in preorder.
* `Step.rows` — the records a step is given.

## Main statements

* `Builder.processTasks_ok` — reading task tables whose bars and leaves store hours succeeds.
* `Builder.processPredecessors_ok`, `Builder.processAssignments_ok`,
  `Builder.processProperties_ok` — the same for links, allocations and the project summary.
* `Builder.steps_ok` — a run whose records all store hours succeeds.
-/

namespace Schedule

/-! ### Records that store hours -/

theorem Row.duration_of_hours {r : Row} (h : r.form = .hours) (name : String) :
    r.duration name = .ok (Duration.hours ((r.double? name).getD 0.0)) := by
  simp [Row.duration, h]

/-- Folding edits that keep how a record stores durations keeps it. -/
theorem Row.form_foldl {α : Type} (f : Row → α → Row) (hf : ∀ r a, (f r a).form = r.form)
    (l : List α) (r : Row) : (l.foldl f r).form = r.form := by
  induction l generalizing r with
  | nil => rfl
  | cons a l ih => rw [List.foldl_cons, ih, hf]

theorem Row.form_merge (a b : Row) (pre : String) : (a.merge b pre).form = a.form := by
  unfold Row.merge
  exact Row.form_foldl _ (fun _ kv => by cases kv; rfl) _ _

/-! ### The records of an outline -/

mutual

/-- The records of a tree, in preorder. -/
def RowTree.allRows : RowTree → List Row
  | .node r cs => r :: RowTree.allRowsList cs

/-- The records of a forest, in preorder. -/
def RowTree.allRowsList : List RowTree → List Row
  | [] => []
  | t :: ts => t.allRows ++ RowTree.allRowsList ts

end

mutual

theorem OutlineTree.mem_allRows_rows (bars leaves : Array Row) :
    ∀ (t : OutlineTree) {r : Row}, r ∈ (OutlineTree.rows bars leaves t).allRows →
      ∃ c : OutlineChild, r = c.row bars leaves
  | .node c ts, r, h => by
    rw [OutlineTree.rows, RowTree.allRows, List.mem_cons] at h
    rcases h with rfl | h
    · exact ⟨c, rfl⟩
    · exact OutlineTree.mem_allRowsList_rowsList bars leaves ts h

/-- Every record of a forest of positions is the record at one of them. -/
theorem OutlineTree.mem_allRowsList_rowsList (bars leaves : Array Row) :
    ∀ (ts : List OutlineTree) {r : Row},
      r ∈ RowTree.allRowsList (OutlineTree.rowsList bars leaves ts) →
      ∃ c : OutlineChild, r = c.row bars leaves
  | [], r, h => by simp [OutlineTree.rowsList, RowTree.allRowsList] at h
  | t :: ts, r, h => by
    rw [OutlineTree.rowsList, RowTree.allRowsList, List.mem_append] at h
    rcases h with h | h
    · exact OutlineTree.mem_allRows_rows bars leaves t h
    · exact OutlineTree.mem_allRowsList_rowsList bars leaves ts h

end

/-- When the bars and leaves store hours, so does the record at every position of the outline:
a decorated bar stores durations like the bar, and a missing position reads the empty record. -/
theorem Outline.form_row {bars expandedTasks tasks milestones hammocks : List Row}
    (hbars : ∀ r ∈ bars, r.form = .hours)
    (hleaves : ∀ r ∈ tasks ++ milestones ++ hammocks, r.form = .hours) (c : OutlineChild) :
    (c.row (Outline.of bars expandedTasks tasks milestones hammocks).bars
      (Outline.of bars expandedTasks tasks milestones hammocks).leaves).form = .hours := by
  cases c with
  | bar i =>
    simp only [OutlineChild.row, Outline.of, Array.getD_eq_getD_getElem?, getElem?_decorate]
    cases h : (sortRows ["EXPANDED_TASK", "NATURAL_ORDER"] bars).toArray[i]? with
    | none => rfl
    | some bar =>
      have hmem := Array.mem_of_getElem? h
      rw [List.mem_toArray, (sortRows_perm _ _).mem_iff] at hmem
      rw [Option.map_some, Option.getD_some, Row.form_foldl _ (fun r e => Row.form_merge r e "_")]
      exact hbars bar hmem
  | leaf j =>
    simp only [OutlineChild.row, Outline.of, Array.getD_eq_getD_getElem?]
    cases h : (sortRows ["NATURAL_ORDER"] (tasks ++ milestones ++ hammocks)).toArray[j]? with
    | none => rfl
    | some leaf =>
      have hmem := Array.mem_of_getElem? h
      rw [List.mem_toArray, (sortRows_perm _ _).mem_iff] at hmem
      exact hleaves leaf hmem

/-! ### Creating tasks -/

namespace Builder

theorem populateTask_ok (b : Builder) (k : TaskKey) {row : Row} (h : row.form = .hours) :
    ∃ b', b.populateTask k row = .ok b' := by
  unfold populateTask
  rw [Row.duration_of_hours h]
  exact ⟨_, rfl⟩

theorem populateLeaf_ok (b : Builder) (k : TaskKey) (parentName : Option String) {row : Row}
    (h : row.form = .hours) : ∃ b', b.populateLeaf k parentName row = .ok b' := by
  unfold populateLeaf
  split
  · obtain ⟨b₁, h₁⟩ := populateTask_ok b k h
    simp only [h₁]
    exact ⟨_, rfl⟩
  · exact ⟨_, rfl⟩
  · exact ⟨_, rfl⟩

theorem eq_of_replacedByChild {children : List RowTree} {child : Row}
    (h : replacedByChild children = some child) : children = [.node child []] := by
  unfold replacedByChild at h
  split at h
  · split at h
    · cases h; rfl
    · cases h
  · cases h

mutual

/-- Creating the tasks of an outline whose records all store hours succeeds. -/
theorem createTasks_ok (parent : Option TaskKey) (parentName : Option String) :
    ∀ (b : Builder) (ts : List RowTree), (∀ r ∈ RowTree.allRowsList ts, r.form = .hours) →
      ∃ b', createTasks parent parentName b ts = .ok b'
  | b, [], _ => ⟨b, rfl⟩
  | b, t :: rest, h => by
    obtain ⟨b₁, h₁⟩ := createTask_ok parent parentName b t fun r hr =>
      h r (by rw [RowTree.allRowsList]; exact List.mem_append_left _ hr)
    obtain ⟨b', h'⟩ := createTasks_ok parent parentName b₁ rest fun r hr =>
      h r (by rw [RowTree.allRowsList]; exact List.mem_append_right _ hr)
    refine ⟨b', ?_⟩
    rw [createTasks, h₁]
    exact h'

theorem createTask_ok (parent : Option TaskKey) (parentName : Option String) :
    ∀ (b : Builder) (t : RowTree), (∀ r ∈ t.allRows, r.form = .hours) →
      ∃ b', createTask parent parentName b t = .ok b'
  | b, .node row children, h => by
    have hrow : row.form = .hours := h row (by rw [RowTree.allRows]; exact List.mem_cons_self ..)
    have hchildren : ∀ r ∈ RowTree.allRowsList children, r.form = .hours := fun r hr =>
      h r (by rw [RowTree.allRows]; exact List.mem_cons_of_mem _ hr)
    rw [createTask_eq]
    split
    · exact ⟨b, rfl⟩
    · generalize startTask parent row b = bk
      obtain ⟨b₂, k⟩ := bk
      dsimp only
      split
      · -- a bar is replaced by its only child, or is a summary over its children
        split
        · rename_i child hchild
          have hc : child.form = .hours := hchildren child (by
            rw [eq_of_replacedByChild hchild]; simp [RowTree.allRowsList, RowTree.allRows])
          obtain ⟨b₃, h₃⟩ := populateLeaf_ok b₂ k (row.string? "NAME") hc
          rw [h₃]
          exact ⟨_, rfl⟩
        · obtain ⟨b₃, h₃⟩ := createTasks_ok (some k)
            ((b₂.populateBar k row children).project.task k).name
            (b₂.populateBar k row children) children hchildren
          rw [h₃]
          exact ⟨_, rfl⟩
      · exact populateLeaf_ok b₂ k parentName hrow

end

/-- Reading task tables whose bars and leaves all store hours succeeds. -/
theorem processTasks_ok (b : Builder) {t : TaskTables} (hbars : ∀ r ∈ t.bars, r.form = .hours)
    (hleaves : ∀ r ∈ t.tasks ++ t.milestones ++ t.hammocks, r.form = .hours) :
    ∃ b', b.processTasks t = .ok b' := by
  obtain ⟨F, -, hF⟩ := Outline.buildRowHierarchy_eq_rowsList t.bars t.expandedTasks t.tasks
    t.milestones t.hammocks
  -- every record of the outline is a sorted bar, decorated, or a sorted leaf
  have hrows : ∀ r ∈ RowTree.allRowsList
      (buildRowHierarchy t.bars t.expandedTasks t.tasks t.milestones t.hammocks),
      r.form = .hours := by
    intro r hr
    rw [hF] at hr
    obtain ⟨c, rfl⟩ := OutlineTree.mem_allRowsList_rowsList _ _ F hr
    exact Outline.form_row hbars hleaves c
  obtain ⟨b₁, h₁⟩ := createTasks_ok none none b _ hrows
  unfold processTasks
  dsimp only
  rw [h₁]
  exact ⟨_, rfl⟩

/-! ### Links, allocations and the project summary -/

/-- A fold whose every step succeeds on the elements it is given succeeds. -/
theorem Reading.foldlM_ok {α β : Type} (P : α → Prop) (f : β → α → Reading β)
    (hf : ∀ b a, P a → ∃ b', f b a = .ok b') :
    ∀ (l : List α) (b : β), (∀ a ∈ l, P a) → ∃ b', l.foldlM f b = .ok b'
  | [], b, _ => ⟨b, rfl⟩
  | a :: l, b, h => by
    obtain ⟨c, hc⟩ := hf b a (h a (List.mem_cons_self ..))
    obtain ⟨b', h'⟩ := foldlM_ok P f hf l c fun x hx => h x (List.mem_cons_of_mem _ hx)
    refine ⟨b', ?_⟩
    rw [List.foldlM_cons, hc]
    exact h'

theorem addLink_ok (b : Builder) {row : Row} (h : row.form = .hours) :
    ∃ b', b.addLink row = .ok b' := by
  unfold addLink
  split
  · rw [Row.duration_of_hours h, Row.duration_of_hours h]
    dsimp only [liftData, bind, Except.bind]
    split <;> exact ⟨_, rfl⟩
  · exact ⟨b, rfl⟩

theorem processPredecessors_ok (b : Builder) {links : List Row}
    (h : ∀ r ∈ links, r.form = .hours) : ∃ b', b.processPredecessors links = .ok b' :=
  Reading.foldlM_ok (fun r : Row => r.form = .hours) addLink (fun b _ hr => addLink_ok b hr)
    links b h

theorem addAllocation_ok (skills : Std.HashMap Int Row) (b : Builder) {row : Row}
    (h : row.form = .hours) : ∃ b', addAllocation skills b row = .ok b' := by
  unfold addAllocation
  dsimp only
  split
  · rw [Row.duration_of_hours h]
    exact ⟨_, rfl⟩
  · exact ⟨b, rfl⟩

theorem processAssignments_ok (b : Builder) {allocations : List Row} (skills : List Row)
    (h : ∀ r ∈ allocations, r.form = .hours) :
    ∃ b', b.processAssignments allocations skills = .ok b' :=
  Reading.foldlM_ok (fun r : Row => r.form = .hours) (addAllocation _)
    (fun b _ hr => addAllocation_ok _ b hr) allocations b h

theorem processProperties_ok (b : Builder) (schemaVersion : Option Int32) {summary : Option Row}
    (userSettings : Option Row) (periods : List Row) (h : ∀ r ∈ summary, r.form = .hours) :
    ∃ b', b.processProperties schemaVersion summary userSettings periods = .ok b' := by
  unfold processProperties
  cases summary with
  | none => exact ⟨_, rfl⟩
  | some row =>
    simp only [Row.duration_of_hours (h row rfl)]
    exact ⟨_, rfl⟩

end Builder

/-! ### Runs -/

/-- The records a step is given. -/
def Step.rows : Step → List Row
  | .properties _ summary userSettings periods => summary.toList ++ userSettings.toList ++ periods
  | .calendars rows t =>
    rows ++ t.exceptionTypes ++ t.workPatterns ++ t.workPatternAssignments ++
      t.exceptionAssignments ++ t.timeEntries
  | .resources permanent consumable => permanent ++ consumable
  | .tasks t => t.bars ++ t.expandedTasks ++ t.tasks ++ t.milestones ++ t.hammocks ++
      t.completedSections
  | .predecessors links => links
  | .assignments allocations skills => allocations ++ skills
  | .userFields definitions data => definitions ++ data
  | .codeLibraries libraries entries assigned => libraries ++ entries ++ assigned

namespace Builder

/-- A step whose records all store hours succeeds. -/
theorem step_ok (b : Builder) {st : Step} (h : ∀ r ∈ st.rows, r.form = .hours) :
    ∃ b', b.step st = .ok b' := by
  cases st with
  | properties v s u ps =>
    exact processProperties_ok b v u ps fun r hr => h r (by simp [Step.rows, Option.mem_def.mp hr])
  | calendars cs t => exact ⟨_, rfl⟩
  | resources ps cs => exact ⟨_, rfl⟩
  | tasks t =>
    exact processTasks_ok b (fun r hr => h r (by simp [Step.rows, hr]))
      (fun r hr => h r (by simp only [Step.rows, List.mem_append] at hr ⊢; tauto))
  | predecessors ls => exact processPredecessors_ok b h
  | assignments as ss => exact processAssignments_ok b ss fun r hr => h r (by simp [Step.rows, hr])
  | userFields ds vs => exact ⟨_, rfl⟩
  | codeLibraries ls es as => exact ⟨_, rfl⟩

/-- A run whose records all store hours succeeds. -/
theorem steps_ok (b : Builder) (ss : List Step) (h : ∀ st ∈ ss, ∀ r ∈ st.rows, r.form = .hours) :
    ∃ b', b.steps ss = .ok b' :=
  Reading.foldlM_ok (fun st : Step => ∀ r ∈ st.rows, r.form = .hours) step
    (fun b _ hst => step_ok b hst) ss b h

end Builder

/-! ### A sample schedule -/

namespace Sample

/-- An office calendar and a site calendar inheriting from it. -/
def calendarRows : List Row :=
  [{ fields := [("ID", .integer 1), ("NAME", .text "Office")] },
    { fields := [("CALENDAR", .integer 1), ("ID", .integer 2), ("NAME", .text "Site")] }]

/-- A resource working on the site calendar. -/
def resourceRows : List Row :=
  [{ fields := [("CALENDAR", .integer 2), ("ID", .integer 5), ("NAME", .text "Ada King")] }]

/-- A project bar holding a design bar, nested through its expanded task, and a milestone; the
design bar holds two tasks, the second waiting for links, and a hammock without a task id. -/
def outline : TaskTables where
  bars := [{ fields := [("BARID", .integer 1), ("NAME", .text "Project"),
        ("NATURAL_ORDER", .integer 1)] },
    { fields := [("BARID", .integer 2), ("EXPANDED_TASK", .integer 10), ("NAME", .text "Design"),
        ("NATURAL_ORDER", .integer 2)] }]
  expandedTasks := [{ fields := [("BAR", .integer 1), ("EXPANDED_TASKID", .integer 10)] }]
  tasks := [{ fields := [("BAR", .integer 2), ("CALENDAR", .integer 2), ("NAME", .text "Survey"),
        ("NATURAL_ORDER", .integer 1), ("TASKID", .integer 100)] },
    { fields := [("BAR", .integer 2), ("NAME", .text "Drawings"), ("NATURAL_ORDER", .integer 2),
        ("PLACEMENT", .integer 1), ("TASKID", .integer 101)] }]
  milestones := [{ fields := [("BAR", .integer 1), ("MILESTONEID", .integer 200),
        ("NAME", .text "Approved"), ("NATURAL_ORDER", .integer 3)] }]
  hammocks := [{ fields := [("BAR", .integer 2), ("HAMMOCK_TASKID", .integer 300),
        ("NATURAL_ORDER", .integer 4)] }]

/-- A link from the first task of the design bar to the second. -/
def links : List Row :=
  [{ fields := [("END_TASK", .integer 101), ("ID", .integer 50), ("START_TASK", .integer 100)] }]

/-- A whole run: the calendars, the resource, the outline and its link, an allocation of the
resource to the first task, a user field set on that task and an activity code assigned to it. -/
def run : List Step :=
  [.calendars calendarRows {},
    .resources resourceRows [],
    .tasks outline,
    .predecessors links,
    .assignments
      [{ fields := [("ALLOCATED_TO", .integer 100), ("ALLOCATION_OF", .integer 8),
          ("ID", .integer 7)] }]
      [{ fields := [("ID", .integer 8), ("PLAYER", .integer 5)] }],
    .userFields
      [{ fields := [("DATA_TYPE", .integer 6), ("OBJ_TYPE", .integer 21), ("UDF_ID", .integer 30),
          ("UDF_NAME", .text "Crew")] }]
      [{ fields := [("DATA_AS_NUMBER", .integer 4), ("OBJ_ID", .integer 100),
          ("UDF_ID", .integer 30)] }],
    .codeLibraries [{ fields := [("ID", .integer 40), ("NAME", .text "Phase")] }]
      [{ fields := [("CODE_LIBRARY", .integer 40), ("ID", .integer 41), ("SHORT_NAME", .text "D")] }]
      [{ fields := [("ASSIGNED_TO", .integer 41), ("CODES", .integer 100)] }]]

theorem outline_hours : (∀ r ∈ outline.bars, r.form = .hours) ∧
    ∀ r ∈ outline.tasks ++ outline.milestones ++ outline.hammocks, r.form = .hours := by
  decide

theorem run_hours : ∀ st ∈ run, ∀ r ∈ st.rows, r.form = .hours := by
  decide

end Sample

end Schedule
