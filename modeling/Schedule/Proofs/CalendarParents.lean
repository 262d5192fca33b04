import Mathlib.Data.List.Induction
import Schedule.Proofs.HierarchyOrder
import Schedule.Proofs.FieldReading
import Schedule.Proofs.References

/-!
# Calendars come after their parents

A calendar may name a parent, whose working time it falls back to. The builder only ever appends
calendars, and it gives a calendar a parent only after looking the parent up, so every calendar's
parent is carried by a calendar before it. Following parents from any calendar then walks
strictly back through the list, and the chain of a calendar, which the working time reads and
which stops at an id it has seen, is the calendar's whole ancestry.

Reading calendar rows relies on this order: the rows are sorted parents first, and a row's parent
is only accepted when its calendar was read before. With distinct ids, every row whose chain of
parents among the rows reaches a row without one gets the parent its row names.

## Main definitions

* `Project.ParentsFirst` — every calendar's parent is carried by a calendar before it.
* `Project.Ancestry` — a calendar followed by its ancestors, up to a missing or absent parent.
* `NamesParent`, `ReachesRoot` — a calendar row names another as parent; following named
  parents ends at a row naming none.
* `calendarParents` — for each calendar row, the position of its parent as the rows are sorted.

## Main statements

* `Project.ParentsFirst.ancestry_calendarChain` — with parents first, the chain of a calendar is
  its ancestry.
* `Builder.steps_keep_parents_first` — every run of steps keeps parents first.
* `Builder.processCalendars_reads_parents` — reading calendar rows with distinct ids gives a row
  whose parents lead to a root the parent its row names.
* `Builder.calendars_point_back_to_parents` — both together.
-/

namespace Schedule

/-! ### Reading one calendar -/

theorem Calendar.addException_uniqueId (c : Calendar) (range : DateRange)
    (hours : List TimeRange) : (c.addException range hours).1.uniqueId = c.uniqueId := by
  unfold Calendar.addException
  split <;> rfl

namespace Builder

theorem assignPatterns_uniqueId (ix : CalendarIndex) (dominant : Option Int32)
    (acc : Calendar × Bool) (a : Row) :
    (assignPatterns ix dominant acc a).1.uniqueId = acc.1.uniqueId := by
  obtain ⟨c, defaultSet⟩ := acc
  simp only [assignPatterns]
  split
  · rfl
  · split
    · rfl
    · split <;> rfl

theorem foldl_assignPatterns_uniqueId (ix : CalendarIndex) (dominant : Option Int32)
    (l : List Row) : ∀ acc : Calendar × Bool,
      (l.foldl (assignPatterns ix dominant) acc).1.uniqueId = acc.1.uniqueId := by
  induction l with
  | nil => exact fun _ => rfl
  | cons a l ih =>
    intro acc
    rw [List.foldl_cons, ih, assignPatterns_uniqueId]

theorem addCalendarException_uniqueId (c : Calendar) (e : Row) :
    (addCalendarException c e).uniqueId = c.uniqueId := by
  unfold addCalendarException
  split
  · exact Calendar.addException_uniqueId ..
  · rfl

theorem foldl_addCalendarException_uniqueId (l : List Row) :
    ∀ c : Calendar, (l.foldl addCalendarException c).uniqueId = c.uniqueId := by
  induction l with
  | nil => exact fun _ => rfl
  | cons e l ih =>
    intro c
    rw [List.foldl_cons, ih, addCalendarException_uniqueId]

/-- Reading a calendar row skips a row without an id, and otherwise appends a calendar with the
row's id whose parent is the row's parent calendar, when the project has it. -/
theorem processCalendar_cases (ix : CalendarIndex) (b : Builder) (row : Row) :
    (row.integer? "ID" = none ∧ processCalendar ix b row = b) ∨
    ∃ id c, row.integer? "ID" = some id ∧ c.uniqueId = id ∧
      c.parentId = b.knownCalendar (row.integer? "CALENDAR") ∧
      processCalendar ix b row = { b with project := b.project.addCalendar c } := by
  unfold processCalendar
  split
  · rename_i hid
    exact .inl ⟨hid, rfl⟩
  · rename_i id hid
    refine .inr ⟨id, _, hid, ?_, rfl, rfl⟩
    -- the patterns and exceptions change the weeks, never the id
    dsimp only
    rw [foldl_addCalendarException_uniqueId, foldl_assignPatterns_uniqueId]
    split
    · split
      · split <;> rfl
      · rfl
    · rfl

end Builder

/-! ### Parents first -/

namespace Project

/-- Every calendar's parent is carried by a calendar before it. -/
def ParentsFirst (p : Project) : Prop :=
  ∀ i c q, p.calendars[i]? = some c → c.parentId = some q →
    q ∈ (p.calendars.take i).map Calendar.uniqueId

/-- A calendar followed by its ancestors: the calendar the project finds under an id, then the
ancestry of its parent; it ends where there is no parent id, or no calendar under it. -/
inductive Ancestry (p : Project) : Option Int32 → List Calendar → Prop
  | noParent : Ancestry p none []
  | missing {id : Int32} : p.calendar? id = none → Ancestry p (some id) []
  | cons {id : Int32} {c : Calendar} {cs : List Calendar} : p.calendar? id = some c →
      Ancestry p c.parentId cs → Ancestry p (some id) (c :: cs)

/-- An id has one ancestry. -/
theorem Ancestry.unique {p : Project} {id : Option Int32} {cs cs' : List Calendar}
    (h : p.Ancestry id cs) (h' : p.Ancestry id cs') : cs = cs' := by
  induction h generalizing cs' with
  | noParent => cases h'; rfl
  | missing hc =>
    cases h' with
    | missing _ => rfl
    | cons hc' _ => exact absurd (hc.symm.trans hc') nofun
  | cons hc _ ih =>
    cases h' with
    | missing hc' => exact absurd (hc.symm.trans hc') nofun
    | cons hc' h' =>
      obtain rfl := Option.some.inj (hc.symm.trans hc')
      rw [ih h']

/-- The position of the first calendar with an id; the number of calendars when none has it. -/
def calendarIndex (p : Project) (id : Int32) : Nat := p.calendars.findIdx (·.uniqueId == id)

theorem calendarIndex_le (p : Project) (id : Int32) : p.calendarIndex id ≤ p.calendars.length :=
  List.findIdx_le_length

/-- The calendar found under an id stands at the id's position. -/
theorem getElem?_calendarIndex {p : Project} {id : Int32} {c : Calendar}
    (h : p.calendar? id = some c) : p.calendars[p.calendarIndex id]? = some c := by
  rw [calendarIndex, ← List.find?_eq_getElem?_findIdx]
  exact h

/-- An id carried by one of the first `i` calendars has its position below `i`. -/
theorem calendarIndex_lt {p : Project} {id : Int32} {i : Nat}
    (h : id ∈ (p.calendars.take i).map Calendar.uniqueId) : p.calendarIndex id < i := by
  obtain ⟨c, hc, rfl⟩ := List.mem_map.mp h
  obtain ⟨k, hk, rfl⟩ := List.getElem_of_mem hc
  have hki : k < i := by
    rw [List.length_take] at hk
    omega
  have hk' : k < p.calendars.length := by
    rw [List.length_take] at hk
    omega
  -- the calendar at `k` carries the id, so the first one with it is no later
  have hle : p.calendarIndex (p.calendars.take i)[k].uniqueId ≤ k := by
    refine Nat.le_of_not_lt fun hlt => ?_
    obtain ⟨hlen, hall⟩ := (List.lt_findIdx_iff _ _ _).mp hlt
    have := hall k (Nat.le_refl k)
    simp [List.getElem_take] at this
  omega

/-- With parents first, the parent of the calendar under an id stands before it. -/
theorem ParentsFirst.parent_lt {p : Project} (h : p.ParentsFirst) {id q : Int32} {c : Calendar}
    (hc : p.calendar? id = some c) (hq : c.parentId = some q) :
    p.calendarIndex q < p.calendarIndex id :=
  calendarIndex_lt (h _ c q (getElem?_calendarIndex hc) hq)

/-- The chain walked from an id, with fuel beyond its position and after ids whose positions
are all beyond its own, is its ancestry: positions fall at every parent, so the walk never meets
an id twice and never runs out of fuel. -/
theorem ParentsFirst.ancestry_chainFrom {p : Project} (h : p.ParentsFirst) :
    ∀ (fuel : Nat) (seen : List Int32) (id : Option Int32),
      (∀ x, id = some x → p.calendarIndex x < fuel) →
      (∀ x, id = some x → ∀ y ∈ seen, p.calendarIndex x < p.calendarIndex y) →
      p.Ancestry id (p.chainFrom fuel seen id)
  | fuel, _, none, _, _ => by
    cases fuel <;> exact Ancestry.noParent
  | 0, _, some x, hfuel, _ => absurd (hfuel x rfl) (Nat.not_lt_zero _)
  | fuel + 1, seen, some x, hfuel, hseen => by
    -- every id seen so far stands after `x`, so `x` is not among them
    have hfresh : seen.contains x = false := by
      cases hc : seen.contains x with
      | false => rfl
      | true =>
        have hlt := hseen x rfl x (List.contains_iff_mem.mp hc)
        exact absurd hlt (Nat.lt_irrefl _)
    cases hx : p.calendar? x with
    | none =>
      simp only [chainFrom, hfresh, hx]
      exact Ancestry.missing hx
    | some c =>
      simp only [chainFrom, hfresh, hx]
      refine Ancestry.cons hx (ParentsFirst.ancestry_chainFrom h fuel (x :: seen) c.parentId
        (fun q hq => ?_) (fun q hq y hy => ?_))
      · have := h.parent_lt hx hq
        have := hfuel x rfl
        omega
      · have hqx := h.parent_lt hx hq
        rcases List.mem_cons.mp hy with rfl | hy
        · exact hqx
        · exact Nat.lt_trans hqx (hseen x rfl y hy)

/-- With parents first, the chain of a calendar is its whole ancestry. -/
theorem ParentsFirst.ancestry_calendarChain {p : Project} (h : p.ParentsFirst)
    (id : Option Int32) : p.Ancestry id (p.calendarChain id) :=
  h.ancestry_chainFrom _ [] id (fun x _ => Nat.lt_succ_of_le (p.calendarIndex_le x)) nofun

theorem ParentsFirst.of_calendars_eq {p p' : Project} (h : p.ParentsFirst)
    (hc : p'.calendars = p.calendars) : p'.ParentsFirst := by
  intro i c q hi hq
  rw [hc] at hi ⊢
  exact h i c q hi hq

/-- A calendar whose parent the project has may follow the others. -/
theorem ParentsFirst.addCalendar {p : Project} (h : p.ParentsFirst) {c : Calendar}
    (hc : p.KnowsCalendar c.parentId) : (p.addCalendar c).ParentsFirst := by
  intro i c' q hi hq
  simp only [Project.addCalendar] at hi ⊢
  rcases Nat.lt_or_ge i p.calendars.length with hlt | hge
  · rw [List.getElem?_append_left hlt] at hi
    rw [List.take_append_of_le_length (Nat.le_of_lt hlt)]
    exact h i c' q hi hq
  · -- the new calendar is the last one, and its parent is among all the others
    rw [List.getElem?_append_right hge] at hi
    have hi' : i - p.calendars.length = 0 := by
      cases hk : i - p.calendars.length with
      | zero => rfl
      | succ k => simp [hk] at hi
    rw [hi', List.getElem?_singleton] at hi
    obtain rfl := Option.some.inj hi
    have hlen : i = p.calendars.length := by omega
    rw [hlen, List.take_left']
    · exact hasCalendar_iff.mp (hc q hq)
    · rfl

/-- The standard calendar, when it is created, has no parent. -/
theorem ParentsFirst.deriveDefaultCalendar {p : Project} (h : p.ParentsFirst) :
    p.deriveDefaultCalendar.ParentsFirst := by
  simp only [Project.deriveDefaultCalendar]
  split
  · exact h.of_calendars_eq rfl
  · split
    · exact h.of_calendars_eq rfl
    · exact (h.addCalendar fun _ hc => by cases hc).of_calendars_eq rfl

end Project

/-! ### Steps that leave the calendars -/

namespace Builder

theorem processProperties_calendars {b b' : Builder} {v : Option Int32}
    {summary userSettings : Option Row} {periods : List Row}
    (h : b.processProperties v summary userSettings periods = .ok b') :
    b'.project.calendars = b.project.calendars := by
  unfold Builder.processProperties at h
  dsimp only at h
  split at h
  · obtain ⟨_, -, h⟩ := Reading.bind_eq_ok.mp h
    rw [Reading.pure_eq_ok] at h
    exact h ▸ rfl
  · obtain ⟨_, -, h⟩ := Reading.bind_eq_ok.mp h
    obtain ⟨_, -, h⟩ := Reading.bind_eq_ok.mp h
    rw [Reading.pure_eq_ok] at h
    exact h ▸ rfl

theorem processPredecessors_calendars {b b' : Builder} {links : List Row}
    (h : b.processPredecessors links = .ok b') : b'.project.calendars = b.project.calendars := by
  refine Reading.foldlM_invariant (fun b' : Builder => b'.project.calendars = b.project.calendars)
    _ (fun b₁ row b₂ h₁ h₂ => ?_) links b b' rfl h
  rw [← h₁]
  -- a link adds a relation and may make its successor late
  unfold Builder.addLink at h₂
  split at h₂
  · obtain ⟨_, -, h₂⟩ := Reading.bind_eq_ok.mp h₂
    obtain ⟨_, -, h₂⟩ := Reading.bind_eq_ok.mp h₂
    dsimp only at h₂
    split at h₂ <;> rw [Reading.pure_eq_ok] at h₂ <;> subst h₂ <;> rfl
  · rw [Reading.pure_eq_ok] at h₂
    rw [h₂]

theorem processAssignments_calendars {b b' : Builder} {allocations skills : List Row}
    (h : b.processAssignments allocations skills = .ok b') :
    b'.project.calendars = b.project.calendars := by
  refine Reading.foldlM_invariant (fun b' : Builder => b'.project.calendars = b.project.calendars)
    _ (fun b₁ row b₂ h₁ h₂ => ?_) allocations b b' rfl h
  rw [← h₁]
  unfold Builder.addAllocation at h₂
  dsimp only at h₂
  split at h₂
  · obtain ⟨_, -, h₂⟩ := Reading.bind_eq_ok.mp h₂
    rw [Reading.pure_eq_ok] at h₂
    rw [← h₂]
  · rw [Reading.pure_eq_ok] at h₂
    rw [h₂]

theorem setFieldValue_calendars (b : Builder) (obj : FieldObject) (objectId field : Int32)
    (v : CustomValue) : (b.setFieldValue obj objectId field v).project.calendars =
      b.project.calendars := by
  unfold Builder.setFieldValue
  cases obj <;> dsimp only <;> split <;> rfl

theorem processUserFields_calendars (b : Builder) (definitions data : List Row) :
    (b.processUserFields definitions data).project.calendars = b.project.calendars := by
  -- field definitions are declared, and values set, outside the calendars
  refine processUserFields_keeps
    (R := fun b b' : Builder => b'.project.calendars = b.project.calendars) (fun _ => rfl)
    (fun h₁ h₂ => h₂.trans h₁) (fun acc row => ?_) setFieldValue_calendars b definitions data
  unfold Builder.addFieldDefinition
  split <;> rfl

theorem processCodeLibraries_calendars (b : Builder) (libraries entries assignments : List Row) :
    (b.processCodeLibraries libraries entries assignments).project.calendars =
      b.project.calendars := by
  -- codes, their values and their assignments to tasks leave the calendars
  refine processCodeLibraries_keeps
    (R := fun b b' : Builder => b'.project.calendars = b.project.calendars)
    (fun _ => rfl) (fun h₁ h₂ => h₂.trans h₁) (fun b row => ?_) (fun acc row => ?_)
    (fun known b row => ?_) b libraries entries assignments
  · unfold Builder.addActivityCode
    split <;> rfl
  · unfold Builder.addCodeValue
    dsimp only
    split <;> rfl
  · unfold Builder.assignCodeValue
    split <;> rfl

/-- Creating tasks leaves the calendars. -/
theorem calendars_creationInvariant (cs : List Calendar) :
    CreationInvariant fun b : Builder => b.project.calendars = cs where
  start b parent _ hb _ := by
    rw [startTask_project, ← hb]
    cases parent <;> rfl
  fill b b' _ hb _ h := by
    obtain ⟨f, -, hp⟩ := h.project
    rw [hp, ← hb]
    rfl
  leaf b row k hb _ := by rw [registerLeaf_project, hb]
  bar _ _ _ hb _ := hb

/-! ### Steps that add calendars -/

theorem parentsFirst_processCalendars {b : Builder} (h : b.project.ParentsFirst)
    (calendars : List Row) (tables : CalendarTables) :
    (b.processCalendars calendars tables).project.ParentsFirst := by
  unfold Builder.processCalendars
  refine List.foldlRecOn (motive := fun b : Builder => b.project.ParentsFirst) _ _ h ?_
  intro b hb i _
  rcases processCalendar_cases tables.index b (calendars.toArray.getD i default) with
    ⟨-, heq⟩ | ⟨id, c, -, -, hparent, heq⟩
  · rw [heq]
    exact hb
  · -- a row's parent is kept only when the project has it
    rw [heq]
    exact hb.addCalendar fun q hq => knownCalendar_some (hparent ▸ hq)

theorem parentsFirst_addResource {b : Builder} (h : b.project.ParentsFirst) (row : Row)
    (material : Bool) : (b.addResource row material).project.ParentsFirst := by
  unfold Builder.addResource
  split
  · exact h
  · -- a resource's own calendar inherits from a calendar the project has
    have hcal : (b.resourceCalendar (row.integer? "CALENDAR") (row.string? "NAME")).1.project
        |>.ParentsFirst := by
      unfold Builder.resourceCalendar
      split
      · exact h
      · rename_i base hbase
        obtain ⟨id, -, hfound⟩ := Option.bind_eq_some_iff.mp hbase
        refine h.addCalendar fun q hq => ?_
        cases hq
        exact Project.hasCalendar_of_calendar? hfound
    dsimp only
    revert hcal
    obtain ⟨b₁, calendarId⟩ := b.resourceCalendar (row.integer? "CALENDAR") (row.string? "NAME")
    intro hcal
    refine hcal.of_calendars_eq ?_
    rfl

theorem parentsFirst_processResources {b : Builder} (h : b.project.ParentsFirst)
    (permanent consumable : List Row) :
    (b.processResources permanent consumable).project.ParentsFirst := by
  unfold Builder.processResources
  exact List.foldlRecOn (motive := fun b : Builder => b.project.ParentsFirst) consumable _
    (List.foldlRecOn (motive := fun b : Builder => b.project.ParentsFirst) permanent _ h
      fun b hb r _ => parentsFirst_addResource hb r false)
    fun b hb r _ => parentsFirst_addResource hb r true

theorem parentsFirst_processTasks {b b' : Builder} (h : b.project.ParentsFirst)
    {t : TaskTables} (hrun : b.processTasks t = .ok b') : b'.project.ParentsFirst := by
  obtain ⟨b₁, h₁, p, rfl, hedit⟩ := processTasks_spec hrun
  have hc₁ : b₁.project.calendars = b.project.calendars :=
    (createTasks_invariant (calendars_creationInvariant _) _ rfl (by rintro _ ⟨⟩) h₁).1
  have h₂ : (b₁.addCompletedSections t.completedSections).project.ParentsFirst := by
    rw [addCompletedSections_project]
    exact h.of_calendars_eq hc₁
  -- only the default calendar may add a calendar, the standard one, without a parent
  obtain ⟨ts, hp, -⟩ := hedit
  show p.ParentsFirst
  rw [hp]
  exact h₂.deriveDefaultCalendar.of_calendars_eq rfl

/-- Every step that succeeds keeps every calendar's parent before it. -/
theorem parentsFirst_step {b b' : Builder} (h : b.project.ParentsFirst) {st : Step}
    (hrun : b.step st = .ok b') : b'.project.ParentsFirst := by
  cases st with
  | properties v summary userSettings periods =>
    exact h.of_calendars_eq (processProperties_calendars hrun)
  | calendars calendars tables =>
    rw [Builder.step, Reading.pure_eq_ok] at hrun
    exact hrun ▸ parentsFirst_processCalendars h calendars tables
  | resources permanent consumable =>
    rw [Builder.step, Reading.pure_eq_ok] at hrun
    exact hrun ▸ parentsFirst_processResources h permanent consumable
  | tasks tables => exact parentsFirst_processTasks h hrun
  | predecessors links => exact h.of_calendars_eq (processPredecessors_calendars hrun)
  | assignments allocations skills => exact h.of_calendars_eq (processAssignments_calendars hrun)
  | userFields definitions data =>
    rw [Builder.step, Reading.pure_eq_ok] at hrun
    exact hrun ▸ h.of_calendars_eq (processUserFields_calendars b definitions data)
  | codeLibraries libraries entries assignments =>
    rw [Builder.step, Reading.pure_eq_ok] at hrun
    exact hrun ▸ h.of_calendars_eq (processCodeLibraries_calendars b libraries entries assignments)

/-- Whatever steps run on a fresh builder, every calendar's parent is carried by a calendar
before it, and the chain of every calendar is its whole ancestry. -/
theorem steps_keep_parents_first {ss : List Step} {b : Builder}
    (h : ({} : Builder).steps ss = .ok b) :
    b.project.ParentsFirst ∧ ∀ id, b.project.Ancestry id (b.project.calendarChain id) := by
  have hempty : ({} : Builder).project.ParentsFirst := fun i c q hi => by simp at hi
  have hb := Reading.foldlM_invariant (fun b : Builder => b.project.ParentsFirst) Builder.step
    (fun _ _ _ hb h => parentsFirst_step hb h) ss _ _ hempty h
  exact ⟨hb, hb.ancestry_calendarChain⟩

/-! ### Reading calendar rows parents first -/

theorem knownCalendar_of_hasCalendar {b : Builder} {q : Int32} (h : b.project.hasCalendar q) :
    b.knownCalendar (some q) = some q := by
  simp [knownCalendar, h]

/-- Reading calendar rows in an order where row `j` comes before every occurrence of row `i`
appends calendars, among them one for every listed row with an id; when row `i` names the id of
row `j` as its parent, every calendar with row `i`'s id takes it. -/
theorem foldl_processCalendar_parent {ix : CalendarIndex} {rows : Array Row} {i j : Nat}
    {id q : Int32} (hunique : ∀ x, (rows.getD x default).integer? "ID" = some id → x = i)
    (hi : (rows.getD i default).integer? "ID" = some id)
    (hq : (rows.getD i default).integer? "CALENDAR" = some q)
    (hj : (rows.getD j default).integer? "ID" = some q) (b : Builder) (order : List Nat)
    (horder : Hierarchy.ComesBefore j i order) :
    ∃ new, (order.foldl (fun b x => processCalendar ix b (rows.getD x default)) b).project.calendars =
        b.project.calendars ++ new ∧
      (j ∈ order →
        (order.foldl (fun b x => processCalendar ix b (rows.getD x default)) b).project.hasCalendar q) ∧
      (∀ c ∈ new, c.uniqueId = id → c.parentId = some q) ∧
      (i ∈ order → ∃ c ∈ new, c.uniqueId = id) := by
  induction order using List.reverseRecOn with
  | nil => exact ⟨[], by simp, by simp, by simp, by simp⟩
  | append_singleton l x ih =>
    obtain ⟨new, hnew, hhas, hparent, hmem⟩ := ih horder.of_append
    -- the last row read is `i` only after `j`
    have hlast : x = i → j ∈ l := fun hx => horder l [] (by rw [hx])
    rw [List.foldl_append, List.foldl_cons, List.foldl_nil]
    rcases processCalendar_cases ix (l.foldl (fun b x => processCalendar ix b (rows.getD x default)) b)
        (rows.getD x default) with ⟨hnone, heq⟩ | ⟨id', c, hid', huid, hpar, heq⟩
    · -- a row without an id adds nothing, and is neither `i` nor `j`
      rw [heq]
      refine ⟨new, hnew, fun hjl => ?_, hparent, fun hil => ?_⟩
      · rcases List.mem_append.mp hjl with hjl | hjl
        · exact hhas hjl
        · rw [← List.mem_singleton.mp hjl] at hnone
          exact absurd (hj.symm.trans hnone) nofun
      · rcases List.mem_append.mp hil with hil | hil
        · exact hmem hil
        · rw [← List.mem_singleton.mp hil] at hnone
          exact absurd (hi.symm.trans hnone) nofun
    · rw [heq]
      refine ⟨new ++ [c], by simp only [Project.addCalendar, hnew, List.append_assoc],
        fun hjl => ?_, fun c' hc' hcid => ?_, fun hil => ?_⟩
      · rw [Project.hasCalendar_iff, Project.addCalendar, List.map_append, List.mem_append]
        rcases List.mem_append.mp hjl with hjl | hjl
        · exact .inl (Project.hasCalendar_iff.mp (hhas hjl))
        · rw [← List.mem_singleton.mp hjl] at hid'
          exact .inr (List.mem_singleton.mpr
            (huid.trans (Option.some.inj (hid'.symm.trans hj))).symm)
      · rcases List.mem_append.mp hc' with hc' | hc'
        · exact hparent c' hc' hcid
        · -- the new calendar carries `i`'s id, so it is `i`'s, read after `j`'s
          obtain rfl := List.mem_singleton.mp hc'
          have hx : x = i := hunique x (hid'.trans (congrArg some (huid.symm.trans hcid)))
          subst hx
          rw [hpar, hq, knownCalendar_of_hasCalendar (hhas (hlast rfl))]
      · rcases List.mem_append.mp hil with hil | hil
        · obtain ⟨c', hc', hcid⟩ := hmem hil
          exact ⟨c', List.mem_append_left _ hc', hcid⟩
        · rw [← List.mem_singleton.mp hil] at hid'
          exact ⟨c, List.mem_append_right _ (List.mem_singleton_self c),
            huid.trans (Option.some.inj (hid'.symm.trans hi))⟩

end Builder

/-! ### Parents among calendar rows -/

/-- Row `i` names row `j` as its parent: another row carries the id in row `i`'s CALENDAR
column. -/
def NamesParent (rows : List Row) (i j : Nat) : Prop :=
  j ≠ i ∧ ∃ q, (rows.getD i default).integer? "CALENDAR" = some q ∧
    (rows.getD j default).integer? "ID" = some q

/-- Following named parents from a row ends, after finitely many rows, at a row that names no
other row. -/
inductive ReachesRoot (rows : List Row) : Nat → Prop
  | root {i : Nat} : (∀ j, ¬NamesParent rows i j) → ReachesRoot rows i
  | parent {i j : Nat} : NamesParent rows i j → ReachesRoot rows j → ReachesRoot rows i

/-- The parent position of each calendar row, as the rows are sorted before reading: the first
row carrying the id in its CALENDAR column, unless that is the row itself. -/
def calendarParents (rows : List Row) : Array (Option Nat) :=
  Hierarchy.parentPositions (rows.toArray.map fun r => (r.integer? "ID").map (·.toInt))
    (rows.toArray.map fun r => (r.integer? "CALENDAR").map (·.toInt))

theorem getD_map_integer (rows : List Row) (column : String) (p : Nat) :
    (rows.toArray.map fun r => (r.integer? column).map (·.toInt)).getD p none =
      ((rows.getD p default).integer? column).map (·.toInt) := by
  rw [Array.getD_eq_getD_getElem?, Array.getElem?_map, List.getElem?_toArray,
    List.getD_eq_getElem?_getD]
  cases rows[p]? <;> rfl

theorem lt_length_of_integer {rows : List Row} {column : String} {p : Nat} {k : Int32}
    (h : (rows.getD p default).integer? column = some k) : p < rows.length := by
  by_contra hp
  rw [List.getD_eq_getElem?_getD, List.getElem?_eq_none (Nat.le_of_not_lt hp)] at h
  cases h

/-- With distinct ids, an id is carried by one row. -/
theorem eq_of_integer_id {rows : List Row} (hdistinct : (rows.filterMap (·.integer? "ID")).Nodup)
    {x y : Nat} {k : Int32} (hx : (rows.getD x default).integer? "ID" = some k)
    (hy : (rows.getD y default).integer? "ID" = some k) : x = y := by
  induction rows generalizing x y with
  | nil => exact absurd (lt_length_of_integer hx) (Nat.not_lt_zero x)
  | cons r rs ih =>
    -- an id of the first row is carried by no later row
    have hfirst : r.integer? "ID" = some k → ∀ z, (rs.getD z default).integer? "ID" ≠ some k := by
      intro hr z hz
      rw [@List.filterMap_cons_some _ _ (·.integer? "ID") r rs k hr, List.nodup_cons] at hdistinct
      have hzl := lt_length_of_integer hz
      rw [List.getD_eq_getElem?_getD, List.getElem?_eq_getElem hzl, Option.getD_some] at hz
      exact hdistinct.1 (List.mem_filterMap.mpr ⟨_, List.getElem_mem hzl, hz⟩)
    have hrest : (rs.filterMap (·.integer? "ID")).Nodup :=
      hdistinct.sublist ((List.sublist_cons_self r rs).filterMap _)
    cases x with
    | zero => cases y with
      | zero => rfl
      | succ y => exact absurd hy (hfirst hx y)
    | succ x => cases y with
      | zero => exact absurd hx (hfirst hy x)
      | succ y => exact congrArg (· + 1) (ih hrest hx hy)

theorem map_toInt_beq (o : Option Int32) (q : Int32) :
    (o.map (·.toInt) == some q.toInt) = (o == some q) := by
  cases o <;> simp [Int32.toInt_inj]

/-- With distinct ids, the sorted parent of a calendar row is the row it names. -/
theorem calendarParents_getD {rows : List Row}
    (hdistinct : (rows.filterMap (·.integer? "ID")).Nodup) (i j : Nat) :
    (calendarParents rows).getD i none = some j ↔ NamesParent rows i j := by
  rw [calendarParents, Hierarchy.parentPositions_getD, getD_map_integer]
  simp only [getD_map_integer]
  cases hq : (rows.getD i default).integer? "CALENDAR" with
  | none =>
    simp only [Option.map_none, Option.bind_none, reduceCtorEq, false_iff, NamesParent]
    rintro ⟨-, q, hq', -⟩
    cases hq.symm.trans hq'
  | some q =>
    simp only [Option.map_some, Option.bind_some, Option.bind_eq_some_iff, List.find?_range_eq_some]
    simp only [map_toInt_beq, Bool.not_eq_true', beq_eq_false_iff_ne, beq_iff_eq, List.mem_range,
      Array.size_map, List.size_toArray]
    constructor
    · rintro ⟨a, ⟨ha, -, -⟩, hif⟩
      by_cases hai : a = i
      · rw [if_pos hai] at hif
        cases hif
      · rw [if_neg hai, Option.some.injEq] at hif
        subst hif
        exact ⟨hai, q, hq, ha⟩
    · rintro ⟨hji, q', hq', hj⟩
      obtain rfl : q' = q := Option.some.inj (hq'.symm.trans hq)
      exact ⟨j, ⟨hj, lt_length_of_integer hj,
        fun p hp hpq => Nat.lt_irrefl p (eq_of_integer_id hdistinct hpq hj ▸ hp)⟩, if_neg hji⟩

/-- With distinct ids, a row reaching a root by named parents reaches one by sorted parents. -/
theorem ReachesRoot.rootedIn {rows : List Row}
    (hdistinct : (rows.filterMap (·.integer? "ID")).Nodup) {i : Nat} (h : ReachesRoot rows i) :
    ∃ d, Hierarchy.RootedIn (calendarParents rows) d i := by
  induction h with
  | root hnone =>
    refine ⟨0, .root ?_⟩
    cases hp : (calendarParents rows).getD _ none with
    | none => rfl
    | some j => exact absurd ((calendarParents_getD hdistinct _ j).mp hp) (hnone j)
  | parent hij _ ih =>
    obtain ⟨d, hd⟩ := ih
    exact ⟨d + 1, .child ((calendarParents_getD hdistinct _ _).mpr hij) hd⟩

namespace Builder

/-- Reading calendar rows with distinct ids gives a row that names another row, and whose named
parents lead to a row naming none, a calendar whose parent is the id its row names. -/
theorem processCalendars_reads_parents {b : Builder} {rows : List Row} {tables : CalendarTables}
    (hdistinct : (rows.filterMap (·.integer? "ID")).Nodup) {i : Nat} {id q : Int32}
    (hi : (rows.getD i default).integer? "ID" = some id)
    (hq : (rows.getD i default).integer? "CALENDAR" = some q)
    (hother : ∃ j ≠ i, (rows.getD j default).integer? "ID" = some q) (hroot : ReachesRoot rows i) :
    ∃ new, (b.processCalendars rows tables).project.calendars = b.project.calendars ++ new ∧
      (∃ c ∈ new, c.uniqueId = id) ∧ ∀ c ∈ new, c.uniqueId = id → c.parentId = some q := by
  obtain ⟨j, hji, hj⟩ := hother
  have hrow : ∀ x, rows.toArray.getD x default = rows.getD x default := fun x => by simp
  have hparent : (calendarParents rows).getD i none = some j :=
    (calendarParents_getD hdistinct i j).mpr ⟨hji, q, hq, hj⟩
  -- the sort puts row `j` before row `i`, so its calendar is known when row `i` is read
  have horder := Hierarchy.comesBefore_order (by simp) none hparent (hroot.rootedIn hdistinct)
  obtain ⟨new, hnew, -, hparents, hmem⟩ := @foldl_processCalendar_parent tables.index
    rows.toArray i j id q (fun x hx => eq_of_integer_id hdistinct (by rwa [← hrow]) hi)
    (by rwa [hrow]) (by rwa [hrow]) (by rwa [hrow]) b _ horder
  exact ⟨new, hnew, hmem (Hierarchy.mem_order (by simpa using lt_length_of_integer hi)), hparents⟩


/-- Calendars only point back. After any run of steps every calendar's parent is carried by a
calendar before it, so a calendar's chain is its whole ancestry. Reading calendar rows with
distinct ids gives every row that names another row, and whose named parents lead to a row
naming none, a calendar whose parent is the id its row names. -/
theorem calendars_point_back_to_parents :
    (∀ ss b, ({} : Builder).steps ss = .ok b →
      b.project.ParentsFirst ∧ ∀ id, b.project.Ancestry id (b.project.calendarChain id)) ∧
    ∀ (b : Builder) (rows : List Row) (tables : CalendarTables) (i : Nat) (id q : Int32),
      (rows.filterMap (·.integer? "ID")).Nodup →
      (rows.getD i default).integer? "ID" = some id →
      (rows.getD i default).integer? "CALENDAR" = some q →
      (∃ j ≠ i, (rows.getD j default).integer? "ID" = some q) → ReachesRoot rows i →
      ∃ new, (b.processCalendars rows tables).project.calendars = b.project.calendars ++ new ∧
        (∃ c ∈ new, c.uniqueId = id) ∧ ∀ c ∈ new, c.uniqueId = id → c.parentId = some q :=
  ⟨fun _ _ h => steps_keep_parents_first h,
    fun _ _ _ _ _ _ hd hi hq hj hroot => processCalendars_reads_parents hd hi hq hj hroot⟩

/-- After the sample run, in which the site calendar and the calendar derived for the resource
have parents, every calendar comes after its parent. A calendar row naming the row before it is
read with that row's id as parent. -/
theorem calendar_row_takes_named_parent :
    (∃ b, ({} : Builder).steps Sample.run = .ok b ∧ b.project.ParentsFirst ∧
      ∀ id, b.project.Ancestry id (b.project.calendarChain id)) ∧
    ∃ new, (({} : Builder).processCalendars
        [{ fields := [("ID", .integer 1)] },
          { fields := [("CALENDAR", .integer 1), ("ID", .integer 2)] }]
        {}).project.calendars = ({} : Builder).project.calendars ++ new ∧
      (∃ c ∈ new, c.uniqueId = 2) ∧ ∀ c ∈ new, c.uniqueId = 2 → c.parentId = some 1 := by
  obtain ⟨b, h⟩ := steps_ok {} Sample.run Sample.run_hours
  refine ⟨⟨b, h, calendars_point_back_to_parents.1 Sample.run b h⟩, ?_⟩
  exact calendars_point_back_to_parents.2 {} _ {} 1 2 1 (by decide) (by decide) (by decide)
    ⟨0, by decide, by decide⟩
    (@ReachesRoot.parent _ 1 0 ⟨by decide, 1, by decide, by decide⟩
      (.root fun _ ⟨_, _, hq, _⟩ => by cases hq))

end Builder

end Schedule
