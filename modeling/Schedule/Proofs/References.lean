import Schedule.Proofs.SucceedingRuns

/-!
# Every reference the builder stores resolves

Besides task keys, a project holds references by unique id: a task, a resource or a calendar
names a calendar, an assignment names its resource, a field value names the definition of its
field, a task names the activity code values it carries, and a code value names its parent value.
No step writes such a reference without looking its target up first, and no step removes a
target. This module shows that, whatever steps run on a fresh builder and with whatever rows,
every reference names something the project holds, and every code value's parent was added
before it.

## Main definitions

* `Project.Extends` — every calendar, resource, field and code value of one project has a
  namesake in another.
* `Task.Resolved`, `Resource.Resolved`, `Assignment.Resolved`, `Calendar.Resolved` — the
  references of one record resolve in a project.
* `Project.CodeOrder` — an order of all code values that keeps each code's own order and puts
  each value's parent before it.
* `Project.Resolved` — every reference of a project resolves.

## Main statements

* `Project.Resolved.deriveDefaultCalendar` — the default calendar chosen after the tasks are read
  is one the project holds.
* `Builder.Resolved.step` — every step that succeeds keeps the references resolved.
* `Builder.steps_resolve_references` — after any run of steps from a fresh builder every
  reference resolves.
-/

namespace Schedule

/-! ### Field values -/

/-- A field value set on an object is either the new one or one it had. -/
theorem CustomFields.mem_insert {id : Int32} {v : CustomValue} :
    ∀ {fs : CustomFields} {e : Int32 × CustomValue},
      e ∈ fs.insert id v → e.1 = id ∨ e ∈ fs
  | [], e, he => by
    rw [CustomFields.insert, List.mem_singleton] at he
    exact .inl (he ▸ rfl)
  | (k, w) :: rest, e, he => by
    rw [CustomFields.insert] at he
    split at he
    · rcases List.mem_cons.mp he with rfl | he
      · exact .inl rfl
      · exact .inr he
    · split at he
      · rcases List.mem_cons.mp he with rfl | he
        · exact .inl rfl
        · exact .inr (List.mem_cons_of_mem _ he)
      · rcases List.mem_cons.mp he with rfl | he
        · exact .inr List.mem_cons_self
        · rcases CustomFields.mem_insert he with h | h
          · exact .inl h
          · exact .inr (List.mem_cons_of_mem _ h)

namespace Project

/-! ### What references name -/

/-- The values of all activity codes, code by code. -/
def codeValues (p : Project) : List ActivityCodeValue := p.activityCodes.flatMap ActivityCode.values

/-- A resource with this id exists. -/
def HasResource (p : Project) (id : Int32) : Prop := id ∈ p.resources.map Resource.uniqueId

/-- A user defined field with this id is declared. -/
def DeclaresField (p : Project) (id : Int32) : Prop := id ∈ p.userFields.map UserField.uniqueId

/-- Some activity code has a value with this id. -/
def HasCodeValue (p : Project) (id : Int32) : Prop :=
  id ∈ p.codeValues.map ActivityCodeValue.uniqueId

/-- An optional calendar reference names a calendar of the project, when it is given. -/
def KnowsCalendar (p : Project) (id : Option Int32) : Prop := ∀ c, id = some c → p.hasCalendar c

/-- Every value of a set of field values is of a declared field. -/
def DeclaresAll (p : Project) (fields : CustomFields) : Prop :=
  ∀ e ∈ fields, p.DeclaresField e.1

theorem hasCalendar_iff {p : Project} {id : Int32} :
    p.hasCalendar id ↔ id ∈ p.calendars.map Calendar.uniqueId := by
  simp [hasCalendar, calendar?, List.find?_isSome]

/-- The calendar found by its id is one the project has. -/
theorem hasCalendar_of_calendar? {p : Project} {id : Int32} {c : Calendar}
    (h : p.calendar? id = some c) : p.hasCalendar c.uniqueId :=
  hasCalendar_iff.mpr (List.mem_map_of_mem (List.mem_of_find?_eq_some h))

/-- The resource found by its id is one the project has. -/
theorem hasResource_of_resource? {p : Project} {id : Int32} {r : Resource}
    (h : p.resource? id = some r) : p.HasResource r.uniqueId :=
  List.mem_map_of_mem (List.mem_of_find?_eq_some h)

theorem DeclaresAll.nil (p : Project) : p.DeclaresAll [] := fun _ he => nomatch he

theorem DeclaresAll.insert {p : Project} {fs : CustomFields} (h : p.DeclaresAll fs) {id : Int32}
    (hid : p.DeclaresField id) (v : CustomValue) : p.DeclaresAll (fs.insert id v) := by
  intro e he
  rcases CustomFields.mem_insert he with heq | hmem
  · exact heq ▸ hid
  · exact h e hmem

/-! ### Projects that keep every target -/

/-- Every calendar, resource, field and code value of `p` has a namesake in `p'`. -/
structure Extends (p p' : Project) : Prop where
  calendars : p.calendars.map Calendar.uniqueId ⊆ p'.calendars.map Calendar.uniqueId
  resources : p.resources.map Resource.uniqueId ⊆ p'.resources.map Resource.uniqueId
  fields : p.userFields.map UserField.uniqueId ⊆ p'.userFields.map UserField.uniqueId
  codeValues : p.codeValues.map ActivityCodeValue.uniqueId ⊆
    p'.codeValues.map ActivityCodeValue.uniqueId

/-- A project whose targets are those of another, record for record, extends it. -/
theorem Extends.of_eq {p p' : Project} (hc : p'.calendars = p.calendars)
    (hr : p'.resources = p.resources) (hf : p'.userFields = p.userFields)
    (ha : p'.activityCodes = p.activityCodes) : p.Extends p' := by
  have hv : p'.codeValues = p.codeValues := by rw [Project.codeValues, ha, ← Project.codeValues]
  exact ⟨hc ▸ List.Subset.refl _, hr ▸ List.Subset.refl _, hf ▸ List.Subset.refl _,
    hv ▸ List.Subset.refl _⟩

theorem KnowsCalendar.mono {p p' : Project} (h : p.Extends p') {id : Option Int32}
    (hk : p.KnowsCalendar id) : p'.KnowsCalendar id := fun c hc =>
  hasCalendar_iff.mpr (h.calendars (hasCalendar_iff.mp (hk c hc)))

theorem DeclaresAll.mono {p p' : Project} (h : p.Extends p') {fs : CustomFields}
    (hd : p.DeclaresAll fs) : p'.DeclaresAll fs := fun e he => h.fields (hd e he)

end Project

/-! ### The references of one record -/

/-- The references of a task resolve: its calendar, its field values and its code values. -/
structure Task.Resolved (p : Project) (t : Task) : Prop where
  calendar : p.KnowsCalendar t.calendarId
  fields : p.DeclaresAll t.customFields
  codes : ∀ v ∈ t.activityCodeValues, p.HasCodeValue v

/-- The references of a resource resolve: its calendar and its field values. -/
structure Resource.Resolved (p : Project) (r : Resource) : Prop where
  calendar : p.KnowsCalendar r.calendarId
  fields : p.DeclaresAll r.customFields

/-- The references of an assignment resolve: its resource and its field values. -/
structure Assignment.Resolved (p : Project) (a : Assignment) : Prop where
  resource : p.HasResource a.resourceUniqueId
  fields : p.DeclaresAll a.customFields

/-- A calendar's parent, when it has one, is a calendar of the project. -/
def Calendar.Resolved (p : Project) (c : Calendar) : Prop := p.KnowsCalendar c.parentId

theorem Task.Resolved.mono {p p' : Project} (h : p.Extends p') {t : Task} (ht : t.Resolved p) :
    t.Resolved p' :=
  ⟨ht.calendar.mono h, ht.fields.mono h, fun v hv => h.codeValues (ht.codes v hv)⟩

theorem Resource.Resolved.mono {p p' : Project} (h : p.Extends p') {r : Resource}
    (hr : r.Resolved p) : r.Resolved p' :=
  ⟨hr.calendar.mono h, hr.fields.mono h⟩

theorem Assignment.Resolved.mono {p p' : Project} (h : p.Extends p') {a : Assignment}
    (ha : a.Resolved p) : a.Resolved p' :=
  ⟨h.resources ha.resource, ha.fields.mono h⟩

theorem Calendar.Resolved.mono {p p' : Project} (h : p.Extends p') {c : Calendar}
    (hc : c.Resolved p) : c.Resolved p' :=
  Project.KnowsCalendar.mono h hc

/-- A task whose calendar, field values and code values are another's resolves as that one does. -/
theorem Task.Resolved.of_eq {p : Project} {t t' : Task} (ht : t.Resolved p)
    (hc : t'.calendarId = t.calendarId) (hf : t'.customFields = t.customFields)
    (hv : t'.activityCodeValues = t.activityCodeValues) : t'.Resolved p :=
  ⟨hc ▸ ht.calendar, hf ▸ ht.fields, hv ▸ ht.codes⟩

/-! ### The order in which code values are added -/

/-- An order in which the values of a list of codes can have been added: it holds them all,
keeps the order of each code's values, and puts every value's parent before it. -/
structure CodeOrder (codes : List ActivityCode) (order : List ActivityCodeValue) : Prop where
  perm : (codes.flatMap ActivityCode.values).Perm order
  codes : ∀ c ∈ codes, c.values.Sublist order
  parents : ∀ v ∈ order, ∀ q, v.parentUniqueId = some q →
    ∃ w, [w, v].Sublist order ∧ w.uniqueId = q

/-- Every reference of a project resolves. -/
structure Project.Resolved (p : Project) : Prop where
  tasks : ∀ t ∈ p.tasks.toList, t.Resolved p
  resources : ∀ r ∈ p.resources, r.Resolved p
  assignments : ∀ a ∈ p.assignments, a.Resolved p
  calendars : ∀ c ∈ p.calendars, c.Resolved p
  defaultCalendar : p.KnowsCalendar p.properties.defaultCalendarId
  codeOrder : ∃ order, CodeOrder p.activityCodes order

/-! ### Editing records in place -/

/-- A property of every element of a list holds after one element is edited, when it holds of
the edited element. -/
theorem forall_mem_modify_of_getElem {α : Type} {P : α → Prop} {l : List α}
    (hl : ∀ x ∈ l, P x) {f : α → α} {k : Nat} (hf : ∀ hk : k < l.length, P (f l[k])) :
    ∀ x ∈ l.modify k f, P x := by
  intro x hx
  obtain ⟨i, hi, rfl⟩ := List.getElem_of_mem hx
  have hi' : i < l.length := by simpa using hi
  rw [List.getElem_modify]
  split
  · rename_i hki
    subst hki
    exact hf hi'
  · exact hl _ (List.getElem_mem hi')

/-- Editing one element of a list by a function that keeps a property keeps it for every
element. -/
theorem forall_mem_modify {α : Type} {P : α → Prop} {l : List α} (hl : ∀ x ∈ l, P x)
    {f : α → α} (hf : ∀ x, P x → P (f x)) (k : Nat) : ∀ x ∈ l.modify k f, P x :=
  forall_mem_modify_of_getElem hl fun hk => hf _ (hl _ (List.getElem_mem hk))

namespace Project.Resolved

variable {p : Project}

/-- A project with the same records and at least the same targets resolves as `p` does. -/
theorem of_extends (h : p.Resolved) {p' : Project} (hext : p.Extends p')
    (ht : p'.tasks = p.tasks) (hr : p'.resources = p.resources)
    (ha : p'.assignments = p.assignments) (hc : p'.calendars = p.calendars)
    (hd : p'.properties.defaultCalendarId = p.properties.defaultCalendarId)
    (hcodes : p'.activityCodes = p.activityCodes) : p'.Resolved where
  tasks t ht' := (h.tasks t (ht ▸ ht')).mono hext
  resources r hr' := (h.resources r (hr ▸ hr')).mono hext
  assignments a ha' := (h.assignments a (ha ▸ ha')).mono hext
  calendars c hc' := Calendar.Resolved.mono hext (h.calendars c (hc ▸ hc'))
  defaultCalendar := hd ▸ h.defaultCalendar.mono hext
  codeOrder := hcodes ▸ h.codeOrder

theorem withRelations (h : p.Resolved) (relations : List Relation) :
    ({ p with relations } : Project).Resolved :=
  h.of_extends (Extends.of_eq rfl rfl rfl rfl) rfl rfl rfl rfl rfl rfl

/-- Properties whose default calendar is known keep the references resolved. -/
theorem withProperties (h : p.Resolved) {properties : Properties}
    (hd : p.KnowsCalendar properties.defaultCalendarId) :
    ({ p with properties } : Project).Resolved :=
  have hext : p.Extends { p with properties } := Extends.of_eq rfl rfl rfl rfl
  ⟨fun t ht => (h.tasks t ht).mono hext, fun r hr => (h.resources r hr).mono hext,
    fun a ha => (h.assignments a ha).mono hext, fun c hc => Calendar.Resolved.mono hext
      (h.calendars c hc), hd.mono hext, h.codeOrder⟩

theorem addUserField (h : p.Resolved) (f : UserField) :
    ({ p with userFields := p.userFields ++ [f] } : Project).Resolved := by
  have hext : p.Extends { p with userFields := p.userFields ++ [f] } :=
    ⟨List.Subset.refl _, List.Subset.refl _,
      by simp only [List.map_append]; exact List.subset_append_left _ _, List.Subset.refl _⟩
  exact h.of_extends hext rfl rfl rfl rfl rfl rfl

/-- A calendar whose parent is known joins the project. -/
theorem addCalendar (h : p.Resolved) {c : Calendar} (hc : p.KnowsCalendar c.parentId) :
    (p.addCalendar c).Resolved := by
  have hext : p.Extends (p.addCalendar c) :=
    ⟨by simp only [Project.addCalendar, List.map_append]; exact List.subset_append_left _ _,
      List.Subset.refl _, List.Subset.refl _, List.Subset.refl _⟩
  refine ⟨fun t ht => (h.tasks t ht).mono hext, fun r hr => (h.resources r hr).mono hext,
    fun a ha => (h.assignments a ha).mono hext, fun c' hc' => ?_, h.defaultCalendar.mono hext,
    h.codeOrder⟩
  rcases List.mem_append.mp hc' with hc' | hc'
  · exact Calendar.Resolved.mono hext (h.calendars c' hc')
  · exact List.mem_singleton.mp hc' ▸ hc.mono hext

/-- A resource whose references resolve joins the project. -/
theorem addResource (h : p.Resolved) {r : Resource} (hr : r.Resolved p) :
    ({ p with resources := p.resources ++ [r] } : Project).Resolved := by
  have hext : p.Extends { p with resources := p.resources ++ [r] } :=
    ⟨List.Subset.refl _, by simp only [List.map_append]; exact List.subset_append_left _ _,
      List.Subset.refl _, List.Subset.refl _⟩
  refine ⟨fun t ht => (h.tasks t ht).mono hext, fun r' hr' => ?_,
    fun a ha => (h.assignments a ha).mono hext, fun c hc => Calendar.Resolved.mono hext
      (h.calendars c hc), h.defaultCalendar.mono hext, h.codeOrder⟩
  rcases List.mem_append.mp hr' with hr' | hr'
  · exact (h.resources r' hr').mono hext
  · exact List.mem_singleton.mp hr' ▸ hr.mono hext

/-- An assignment whose references resolve joins the project. -/
theorem addAssignment (h : p.Resolved) {a : Assignment} (ha : a.Resolved p) :
    ({ p with assignments := p.assignments ++ [a] } : Project).Resolved := by
  have hext : p.Extends { p with assignments := p.assignments ++ [a] } :=
    Extends.of_eq rfl rfl rfl rfl
  refine ⟨fun t ht => (h.tasks t ht).mono hext, fun r hr => (h.resources r hr).mono hext,
    fun a' ha' => ?_, fun c hc => Calendar.Resolved.mono hext (h.calendars c hc),
    h.defaultCalendar.mono hext, h.codeOrder⟩
  rcases List.mem_append.mp ha' with ha' | ha'
  · exact (h.assignments a' ha').mono hext
  · exact List.mem_singleton.mp ha' ▸ ha.mono hext

/-- Editing a task so that its references still resolve keeps the project resolved. -/
theorem modifyTask (h : p.Resolved) {f : Task → Task}
    (hf : ∀ t, t.Resolved p → (f t).Resolved p) (k : TaskKey) :
    (p.modifyTask k f).Resolved := by
  have hext : p.Extends (p.modifyTask k f) := Extends.of_eq rfl rfl rfl rfl
  refine ⟨fun t ht => ?_, fun r hr => (h.resources r hr).mono hext,
    fun a ha => (h.assignments a ha).mono hext, fun c hc => Calendar.Resolved.mono hext
      (h.calendars c hc), h.defaultCalendar.mono hext, h.codeOrder⟩
  rw [Project.modifyTask, Array.toList_modify] at ht
  exact (forall_mem_modify h.tasks hf k t ht).mono hext

/-- Editing a resource, keeping its id and resolving its references, keeps the project
resolved. -/
theorem modifyResource (h : p.Resolved) {g : Resource → Resource}
    (hid : ∀ r, (g r).uniqueId = r.uniqueId) (hg : ∀ r, r.Resolved p → (g r).Resolved p)
    (i : Nat) : ({ p with resources := p.resources.modify i g } : Project).Resolved := by
  have hext : p.Extends { p with resources := p.resources.modify i g } :=
    ⟨List.Subset.refl _, by simp only [map_modify_of_view hid]; exact List.Subset.refl _,
      List.Subset.refl _, List.Subset.refl _⟩
  exact ⟨fun t ht => (h.tasks t ht).mono hext,
    fun r hr => (forall_mem_modify h.resources hg i r hr).mono hext,
    fun a ha => (h.assignments a ha).mono hext,
    fun c hc => Calendar.Resolved.mono hext (h.calendars c hc), h.defaultCalendar.mono hext,
    h.codeOrder⟩

/-- Editing an assignment so that its references still resolve keeps the project resolved. -/
theorem modifyAssignment (h : p.Resolved) {g : Assignment → Assignment}
    (hg : ∀ a, a.Resolved p → (g a).Resolved p) (i : Nat) :
    ({ p with assignments := p.assignments.modify i g } : Project).Resolved := by
  have hext : p.Extends { p with assignments := p.assignments.modify i g } :=
    Extends.of_eq rfl rfl rfl rfl
  exact ⟨fun t ht => (h.tasks t ht).mono hext, fun r hr => (h.resources r hr).mono hext,
    fun a ha => (forall_mem_modify h.assignments hg i a ha).mono hext,
    fun c hc => Calendar.Resolved.mono hext (h.calendars c hc), h.defaultCalendar.mono hext,
    h.codeOrder⟩

/-- Edits that keep each task's frame keep the references of the tasks. -/
theorem taskEdit (h : p.Resolved) {p' : Project} (he : p.TaskEdit p') : p'.Resolved := by
  obtain ⟨ts, rfl, hframes⟩ := he
  have hext : p.Extends { p with tasks := ts } := Extends.of_eq rfl rfl rfl rfl
  refine ⟨fun t' ht' => ?_, fun r hr => (h.resources r hr).mono hext,
    fun a ha => (h.assignments a ha).mono hext, fun c hc => Calendar.Resolved.mono hext
      (h.calendars c hc), h.defaultCalendar.mono hext, h.codeOrder⟩
  -- the edited task has the frame of some task of `p`, and the frame holds every reference
  have hmem : t'.frame ∈ p.tasks.toList.map Task.frame := hframes ▸ List.mem_map_of_mem ht'
  obtain ⟨t, ht, hframe⟩ := List.mem_map.mp hmem
  simp only [Task.frame, Task.links, Prod.mk.injEq] at hframe
  exact ((h.tasks t ht).of_eq hframe.2.1.symm hframe.2.2.1.symm hframe.2.2.2.symm).mono hext

/-- A task added to the outline has no references yet. -/
theorem addTask (h : p.Resolved) (parent : Option TaskKey) : (p.addTask parent).1.Resolved := by
  have hnew : ({ parent } : Task).Resolved p :=
    ⟨fun _ hc => (nomatch hc), DeclaresAll.nil p, fun _ hv => (nomatch hv)⟩
  have hpush : ∀ t ∈ (p.tasks.push { parent }).toList, t.Resolved p := by
    intro t ht
    rcases List.mem_append.mp (Array.toList_push ▸ ht) with ht | ht
    · exact h.tasks t ht
    · exact List.mem_singleton.mp ht ▸ hnew
  -- adding under a parent also lists the new key among the parent's children
  have hkeep : ∀ t : Task, t.Resolved p →
      ({ t with children := t.children ++ [p.tasks.size] } : Task).Resolved p :=
    fun t ht => ht.of_eq rfl rfl rfl
  cases parent with
  | none =>
    have hext : p.Extends (p.addTask none).1 := Extends.of_eq rfl rfl rfl rfl
    exact ⟨fun t ht => (hpush t ht).mono hext, fun r hr => (h.resources r hr).mono hext,
      fun a ha => (h.assignments a ha).mono hext, fun c hc => Calendar.Resolved.mono hext
        (h.calendars c hc), h.defaultCalendar.mono hext, h.codeOrder⟩
  | some q =>
    have hext : p.Extends (p.addTask (some q)).1 := Extends.of_eq rfl rfl rfl rfl
    refine ⟨fun t ht => ?_, fun r hr => (h.resources r hr).mono hext,
      fun a ha => (h.assignments a ha).mono hext, fun c hc => Calendar.Resolved.mono hext
        (h.calendars c hc), h.defaultCalendar.mono hext, h.codeOrder⟩
    simp only [Project.addTask, Array.toList_modify] at ht
    exact (forall_mem_modify hpush hkeep q t ht).mono hext

/-- Rewriting every task so that its references still resolve keeps the project resolved. -/
theorem mapTasks (h : p.Resolved) {f : Task → Task}
    (hf : ∀ t, t.Resolved p → (f t).Resolved p) :
    ({ p with tasks := p.tasks.map f } : Project).Resolved := by
  have hext : p.Extends { p with tasks := p.tasks.map f } := Extends.of_eq rfl rfl rfl rfl
  refine ⟨fun t' ht' => ?_, fun r hr => (h.resources r hr).mono hext,
    fun a ha => (h.assignments a ha).mono hext, fun c hc => Calendar.Resolved.mono hext
      (h.calendars c hc), h.defaultCalendar.mono hext, h.codeOrder⟩
  rw [Array.toList_map] at ht'
  obtain ⟨t, ht, rfl⟩ := List.mem_map.mp ht'
  exact (hf t (h.tasks t ht)).mono hext

end Project.Resolved

/-! ### Adding code values -/

section CodeValues

variable {codes : List ActivityCode} {i : Nat} (g : ActivityCode → ActivityCodeValue)

/-- The values of a list of codes after one more is appended to the code at `i`: the old ones,
then the new. -/
theorem flatMap_values_modify_perm (hi : i < codes.length) :
    ((codes.modify i fun c => { c with values := c.values ++ [g c] }).flatMap
      ActivityCode.values).Perm (codes.flatMap ActivityCode.values ++ [g codes[i]]) := by
  obtain ⟨l₁, c, l₂, hl, hlen, hmod⟩ :=
    List.exists_of_modify (fun c : ActivityCode => { c with values := c.values ++ [g c] }) hi
  have hc : codes[i] = c := by
    subst hl hlen
    simp
  rw [hmod, hc, hl]
  simp only [List.flatMap_append, List.flatMap_cons, List.append_assoc]
  refine List.Perm.append_left _ (List.Perm.append_left _ ?_)
  exact List.perm_append_comm

/-- Appending a value whose parent is already among the values extends an order of addition by
that value. -/
theorem CodeOrder.append {order : List ActivityCodeValue} (h : CodeOrder codes order)
    (hi : i < codes.length)
    (hparent : ∀ q, (g codes[i]).parentUniqueId = some q →
      q ∈ (codes.flatMap ActivityCode.values).map ActivityCodeValue.uniqueId) :
    CodeOrder (codes.modify i fun c => { c with values := c.values ++ [g c] })
      (order ++ [g codes[i]]) where
  perm := (flatMap_values_modify_perm g hi).trans (h.perm.append_right _)
  codes := forall_mem_modify_of_getElem
    (fun c hc => (h.codes c hc).trans (List.sublist_append_left _ _))
    (fun hk => (h.codes _ (List.getElem_mem hk)).append (List.Sublist.refl _))
  parents v hv q hq := by
    rcases List.mem_append.mp hv with hv | hv
    · -- an old value keeps the parent it had before it
      obtain ⟨w, hw, hwq⟩ := h.parents v hv q hq
      exact ⟨w, hw.trans (List.sublist_append_left _ _), hwq⟩
    · -- the new value's parent is an old value, so it comes first
      obtain rfl := List.mem_singleton.mp hv
      obtain ⟨w, hw, hwq⟩ := List.mem_map.mp (hparent q hq)
      exact ⟨w, (List.singleton_sublist.mpr (h.perm.subset hw)).append (List.Sublist.refl _),
        hwq⟩

/-- A value appended to a code, whose parent is among ids that name values of the project, keeps
the references resolved; those ids and the new value's id then name values of the new project. -/
theorem Project.Resolved.appendCodeValue {p : Project} (h : p.Resolved)
    (hi : i < p.activityCodes.length) {known : List Int32}
    (hknown : ∀ q ∈ known, p.HasCodeValue q)
    (hparent : ∀ q, (g p.activityCodes[i]).parentUniqueId = some q → q ∈ known) :
    let p' : Project := { p with
      activityCodes := p.activityCodes.modify i fun c => { c with values := c.values ++ [g c] } }
    p'.Resolved ∧ ∀ q ∈ (g p.activityCodes[i]).uniqueId :: known, p'.HasCodeValue q := by
  intro p'
  have hperm : (p'.codeValues.map ActivityCodeValue.uniqueId).Perm
      ((p.codeValues ++ [g p.activityCodes[i]]).map ActivityCodeValue.uniqueId) :=
    (flatMap_values_modify_perm g hi).map _
  have hext : p.Extends p' :=
    ⟨List.Subset.refl _, List.Subset.refl _, List.Subset.refl _, fun q hq =>
      hperm.symm.subset (by rw [List.map_append]; exact List.mem_append_left _ hq)⟩
  obtain ⟨order, horder⟩ := h.codeOrder
  refine ⟨⟨fun t ht => (h.tasks t ht).mono hext, fun r hr => (h.resources r hr).mono hext,
    fun a ha => (h.assignments a ha).mono hext, fun c hc => Calendar.Resolved.mono hext
      (h.calendars c hc), h.defaultCalendar.mono hext,
      ⟨_, horder.append g hi fun q hq => hknown q (hparent q hq)⟩⟩, ?_⟩
  intro q hq
  rcases List.mem_cons.mp hq with rfl | hq
  · refine hperm.symm.subset ?_
    rw [List.map_append]
    exact List.mem_append_right _ (List.mem_singleton_self _)
  · exact hext.codeValues (hknown q hq)

/-- A new code without values keeps the references resolved. -/
theorem Project.Resolved.addActivityCode {p : Project} (h : p.Resolved) {c : ActivityCode}
    (hc : c.values = []) :
    ({ p with activityCodes := p.activityCodes ++ [c] } : Project).Resolved := by
  have hvalues : (p.activityCodes ++ [c]).flatMap ActivityCode.values =
      p.activityCodes.flatMap ActivityCode.values := by
    simp [hc]
  have hext : p.Extends { p with activityCodes := p.activityCodes ++ [c] } :=
    ⟨List.Subset.refl _, List.Subset.refl _, List.Subset.refl _, by
      simp only [Project.codeValues, hvalues]; exact List.Subset.refl _⟩
  obtain ⟨order, horder⟩ := h.codeOrder
  refine ⟨fun t ht => (h.tasks t ht).mono hext, fun r hr => (h.resources r hr).mono hext,
    fun a ha => (h.assignments a ha).mono hext, fun c hc => Calendar.Resolved.mono hext
      (h.calendars c hc), h.defaultCalendar.mono hext, ⟨order, hvalues ▸ horder.perm, ?_,
      horder.parents⟩⟩
  intro c' hc'
  rcases List.mem_append.mp hc' with hc' | hc'
  · exact horder.codes c' hc'
  · rw [List.mem_singleton.mp hc', hc]
    exact List.nil_sublist _

end CodeValues

/-! ### The default calendar -/

/-- A fold that at each element keeps what it has or takes the element ends, if anywhere, at an
element of the list. -/
theorem foldl_keep_or_take_mem {α : Type} {step : Option α → α → Option α}
    (hstep : ∀ w c, step w c = w ∨ step w c = some c) (l : List α) :
    ∀ x, l.foldl step none = some x → x ∈ l := by
  refine List.foldlRecOn (motive := fun w => ∀ x, w = some x → x ∈ l) l step ?_ ?_
  · intro x hx
    exact nomatch hx
  · intro w hw c hc x hx
    rcases hstep w c with hkeep | htake
    · exact hw x (hkeep ▸ hx)
    · exact Option.some.inj (htake.symm.trans hx) ▸ hc

/-- Every calendar counted among the tasks' calendars is the calendar of a task. -/
theorem Project.exists_task_of_mem_calendarUse {tasks : List Task} {e : Option Int32 × Nat}
    (he : e ∈ calendarUse tasks) : ∃ t ∈ tasks, t.calendarId = e.1 := by
  unfold calendarUse at he
  refine List.foldlRecOn
    (motive := fun counts : List (Option Int32 × Nat) =>
      ∀ e ∈ counts, ∃ t ∈ tasks, t.calendarId = e.1)
    tasks _ ?_ ?_ e he
  · intro e he
    exact nomatch he
  intro counts hcounts t ht e he
  split at he
  · -- a calendar met before has its count raised and keeps its id
    obtain ⟨⟨id, n⟩, he', rfl⟩ := List.mem_map.mp he
    dsimp only
    split <;> exact hcounts (id, n) he'
  · rcases List.mem_append.mp he with he | he
    · exact hcounts e he
    · exact ⟨t, ht, by rw [List.mem_singleton.mp he]⟩

/-- The default calendar is the calendar most tasks use, which is known since every task's
calendar is; or the calendar named `Standard`; or a standard calendar added for it. Tasks that
used the default drop their reference to it. -/
theorem Project.Resolved.deriveDefaultCalendar {p : Project} (h : p.Resolved) :
    p.deriveDefaultCalendar.Resolved := by
  simp only [Project.deriveDefaultCalendar]
  split
  · rename_i id hid
    -- the most used calendar is the calendar of some task, hence known
    obtain ⟨x, hx, hx1⟩ := Option.bind_eq_some_iff.mp hid
    have hmem : x ∈ calendarUse p.tasks.toList := by
      refine foldl_keep_or_take_mem ?_ _ x hx
      intro w c
      split
      · split
        · exact .inr rfl
        · exact .inl rfl
      · exact .inr rfl
    obtain ⟨t, ht, htc⟩ := Project.exists_task_of_mem_calendarUse hmem
    have hknown : p.hasCalendar id := (h.tasks t ht).calendar id (htc.trans hx1)
    have hdrop : ∀ t : Task, t.Resolved p →
        (if t.calendarId == some id then { t with calendarId := none } else t).Resolved p := by
      intro t ht
      split
      · exact ⟨fun _ hc => (nomatch hc), ht.fields, ht.codes⟩
      · exact ht
    refine (h.mapTasks hdrop).withProperties ?_
    intro c hc
    cases hc
    exact hknown
  · split
    · rename_i c hc
      refine h.withProperties ?_
      intro c' hc'
      cases hc'
      exact hasCalendar_iff.mpr (List.mem_map_of_mem (List.mem_of_find?_eq_some hc))
    · -- a standard calendar, without parent, is added under the next free id
      refine (h.addCalendar ?_).withProperties ?_
      · intro c hc
        cases hc
      · intro c hc
        cases hc
        exact hasCalendar_iff.mpr
          (List.mem_map_of_mem (List.mem_append_right _ (List.mem_singleton_self _)))


namespace Builder

/-! ### Reading the tasks -/

/-- Adding, filling and registering tasks keeps the references resolved: a filled task gets only
a calendar the project has. -/
theorem resolved_creationInvariant : CreationInvariant fun b : Builder => b.project.Resolved where
  start b parent row h _ := by
    rw [startTask_project]
    exact h.addTask parent
  fill b b' k h _ hfill := by
    obtain ⟨f, hf, hp⟩ := hfill.project
    rw [hp]
    refine h.modifyTask ?_ k
    intro t ht
    obtain ⟨-, hfields, hcodes, hcal⟩ := hf t
    exact ⟨fun c hc => (hcal c hc).elim (ht.calendar c) id, hfields ▸ ht.fields,
      hcodes ▸ ht.codes⟩
  leaf b row k h _ := by
    rw [registerLeaf_project]
    exact h
  bar _ _ _ h _ := h

theorem resolved_processTasks {b b' : Builder} (h : b.project.Resolved) {t : TaskTables}
    (hrun : b.processTasks t = .ok b') : b'.project.Resolved := by
  obtain ⟨b₁, h₁, p, rfl, hedit⟩ := processTasks_spec hrun
  have hr₁ := (createTasks_invariant resolved_creationInvariant _ h (by rintro _ ⟨⟩) h₁).1
  have hr₂ : (b₁.addCompletedSections t.completedSections).project.Resolved := by
    rw [addCompletedSections_project]
    exact hr₁
  exact hr₂.deriveDefaultCalendar.taskEdit hedit

/-! ### Links and allocations -/

theorem resolved_addLink {b b' : Builder} (h : b.project.Resolved) {row : Row}
    (hrun : b.addLink row = .ok b') : b'.project.Resolved := by
  unfold Builder.addLink at hrun
  split at hrun
  · obtain ⟨_, -, hrun⟩ := Reading.bind_eq_ok.mp hrun
    obtain ⟨_, -, hrun⟩ := Reading.bind_eq_ok.mp hrun
    dsimp only at hrun
    -- a link names tasks, not records with references; a waiting constraint is dropped
    split at hrun <;> rw [Reading.pure_eq_ok] at hrun <;> subst hrun
    · refine (h.withRelations _).modifyTask ?_ _
      exact fun t ht => ht.of_eq rfl rfl rfl
    · exact h.withRelations _
  · rw [Reading.pure_eq_ok] at hrun
    exact hrun ▸ h

theorem resolved_processPredecessors {b b' : Builder} (h : b.project.Resolved) {rows : List Row}
    (hrun : b.processPredecessors rows = .ok b') : b'.project.Resolved :=
  Reading.foldlM_invariant (fun b : Builder => b.project.Resolved) _
    (fun _ _ _ hb hrun => resolved_addLink hb hrun) rows _ _ h hrun

/-- An allocation becomes an assignment only when its resource is found. -/
theorem resolved_addAllocation {b b' : Builder} (h : b.project.Resolved)
    {skills : Std.HashMap Int Row} {row : Row} (hrun : b.addAllocation skills row = .ok b') :
    b'.project.Resolved := by
  unfold Builder.addAllocation at hrun
  dsimp only at hrun
  split at hrun
  · rename_i resource _ hresource
    obtain ⟨_, -, hrun⟩ := Reading.bind_eq_ok.mp hrun
    rw [Reading.pure_eq_ok] at hrun
    subst hrun
    obtain ⟨player, -, hfound⟩ := Option.bind_eq_some_iff.mp hresource
    exact h.addAssignment ⟨Project.hasResource_of_resource? hfound, Project.DeclaresAll.nil _⟩
  · rw [Reading.pure_eq_ok] at hrun
    exact hrun ▸ h

theorem resolved_processAssignments {b b' : Builder} (h : b.project.Resolved)
    {allocations skills : List Row} (hrun : b.processAssignments allocations skills = .ok b') :
    b'.project.Resolved :=
  Reading.foldlM_invariant (fun b : Builder => b.project.Resolved) _
    (fun _ _ _ hb hrun => resolved_addAllocation hb hrun) allocations _ _ h hrun

/-! ### Fields -/

/-- Every field a table of field definitions knows is declared in the project. -/
def FieldsDeclared (p : Project) (fields : Std.HashMap Int (FieldObject × FieldDataType)) : Prop :=
  ∀ (id : Int32) x, fields.get? id.toInt = some x → p.DeclaresField id

/-- A definition is declared in the project as it enters the table of definitions. -/
theorem resolved_addFieldDefinition
    {acc : Builder × Std.HashMap Int (FieldObject × FieldDataType)}
    (h : acc.1.project.Resolved ∧ FieldsDeclared acc.1.project acc.2) (row : Row) :
    (addFieldDefinition acc row).1.project.Resolved ∧
      FieldsDeclared (addFieldDefinition acc row).1.project (addFieldDefinition acc row).2 := by
  obtain ⟨b, fields⟩ := acc
  obtain ⟨h, hfields⟩ := h
  unfold Builder.addFieldDefinition
  split
  · rename_i obj ty id _ _ _
    dsimp only
    refine ⟨h.addUserField _, ?_⟩
    intro id' x hx
    rw [Std.HashMap.get?_eq_getElem?, Std.HashMap.getElem?_insert] at hx
    split at hx
    · -- the new definition: equal integers are equal ids
      have hid : id = id' := Int32.toInt_inj.mp (eq_of_beq ‹_›)
      subst hid
      exact List.mem_map_of_mem (List.mem_append_right _ (List.mem_singleton_self _))
    · rw [← Std.HashMap.get?_eq_getElem?] at hx
      unfold Project.DeclaresField
      rw [List.map_append]
      exact List.mem_append_left _ (hfields id' x hx)
  · exact ⟨h, hfields⟩

/-- Setting a value of a declared field keeps the references resolved and the definitions. -/
theorem resolved_setFieldValue {b : Builder} (h : b.project.Resolved) {field : Int32}
    (hfield : b.project.DeclaresField field) (obj : FieldObject) (objectId : Int32)
    (v : CustomValue) :
    (b.setFieldValue obj objectId field v).project.Resolved ∧
      (b.setFieldValue obj objectId field v).project.userFields = b.project.userFields := by
  unfold Builder.setFieldValue
  cases obj
  case bar | task | milestone =>
    dsimp only
    split
    · refine ⟨h.modifyTask ?_ _, rfl⟩
      exact fun t ht => ⟨ht.calendar, ht.fields.insert hfield v, ht.codes⟩
    · exact ⟨h, rfl⟩
  case permanentResource | consumableResource =>
    dsimp only
    split
    · refine ⟨h.modifyResource ?_ ?_ _, rfl⟩
      · exact fun _ => rfl
      · exact fun r hr => ⟨hr.calendar, hr.fields.insert hfield v⟩
    · exact ⟨h, rfl⟩
  case allocation =>
    dsimp only
    split
    · refine ⟨h.modifyAssignment ?_ _, rfl⟩
      exact fun a ha => ⟨ha.resource, ha.fields.insert hfield v⟩
    · exact ⟨h, rfl⟩

theorem resolved_processUserFields {b : Builder} (h : b.project.Resolved)
    (definitions data : List Row) : (b.processUserFields definitions data).project.Resolved := by
  unfold Builder.processUserFields
  split
  rename_i b₁ fields hdef
  have h₁ : b₁.project.Resolved ∧ FieldsDeclared b₁.project fields := by
    show (b₁, fields).1.project.Resolved ∧
      FieldsDeclared (b₁, fields).1.project (b₁, fields).2
    rw [← hdef]
    refine List.foldlRecOn (motive := fun acc : Builder × Std.HashMap Int _ =>
      acc.1.project.Resolved ∧ FieldsDeclared acc.1.project acc.2) _ _ ⟨h, ?_⟩
      fun acc hacc row _ => resolved_addFieldDefinition hacc row
    intro id x hx
    simp at hx
  -- values only reach objects through definitions read before them
  refine (List.foldlRecOn (motive := fun b' : Builder =>
    b'.project.Resolved ∧ b'.project.userFields = b₁.project.userFields)
    _ _ ⟨h₁.1, rfl⟩ ?_).1
  intro b' ⟨hb', hu⟩ row _
  split
  · rename_i field objectId _ _
    split
    · rename_i obj ty hget
      split
      · have hfield : b'.project.DeclaresField field := by
          unfold Project.DeclaresField
          rw [hu]
          exact h₁.2 field (obj, ty) hget
        obtain ⟨hr, hu'⟩ := resolved_setFieldValue hb' hfield obj objectId _
        exact ⟨hr, hu'.trans hu⟩
      · exact ⟨hb', hu⟩
    · exact ⟨hb', hu⟩
  · exact ⟨hb', hu⟩

/-! ### Codes -/

/-- An entry becomes a value of its code, keeping its parent only when that was read before it,
so every id read so far names a value of the project. -/
theorem resolved_addCodeValue {acc : Builder × List Int32}
    (h : acc.1.project.Resolved ∧ ∀ q ∈ acc.2, acc.1.project.HasCodeValue q) (row : Row) :
    (addCodeValue acc row).1.project.Resolved ∧
      ∀ q ∈ (addCodeValue acc row).2, (addCodeValue acc row).1.project.HasCodeValue q := by
  obtain ⟨b, known⟩ := acc
  obtain ⟨h, hknown⟩ := h
  unfold Builder.addCodeValue
  dsimp only
  split
  · rename_i i id hcode _
    obtain ⟨library, -, hfind⟩ := Option.bind_eq_some_iff.mp hcode
    obtain ⟨hi, -⟩ := List.findIdx?_eq_some_iff_getElem.mp hfind
    -- the parent is kept only when its id was read before
    refine h.appendCodeValue _ hi hknown ?_
    intro q hq
    exact List.contains_iff_mem.mp (Option.filter_eq_some_iff.mp hq).2
  · exact ⟨h, hknown⟩

/-- New codes start without values. -/
theorem resolved_addActivityCode {b : Builder} (h : b.project.Resolved) (row : Row) :
    (b.addActivityCode row).project.Resolved := by
  unfold Builder.addActivityCode
  split
  · exact h.addActivityCode rfl
  · exact h

/-- A task gets a code value only when it names one read from the entries. -/
theorem resolved_assignCodeValue {b : Builder} {known : List Int32}
    (h : b.project.Resolved ∧ ∀ q ∈ known, b.project.HasCodeValue q) (row : Row) :
    (b.assignCodeValue known row).project.Resolved ∧
      ∀ q ∈ known, (b.assignCodeValue known row).project.HasCodeValue q := by
  obtain ⟨h, hknown⟩ := h
  unfold Builder.assignCodeValue
  split
  · rename_i v k hv _
    have hvalue := hknown v (List.contains_iff_mem.mp (Option.filter_eq_some_iff.mp hv).2)
    refine ⟨h.modifyTask ?_ k, hknown⟩
    intro t ht
    refine ⟨ht.calendar, ht.fields, fun w hw => ?_⟩
    rcases List.mem_append.mp hw with hw | hw
    · exact ht.codes w hw
    · exact List.mem_singleton.mp hw ▸ hvalue
  · exact ⟨h, hknown⟩

theorem resolved_processCodeLibraries {b : Builder} (h : b.project.Resolved)
    (libraries entries assignments : List Row) :
    (b.processCodeLibraries libraries entries assignments).project.Resolved := by
  unfold Builder.processCodeLibraries
  dsimp only
  -- the ids the entries give name values of the project while codes are assigned to tasks
  refine (List.foldlRecOn (motive := fun b' : Builder =>
    b'.project.Resolved ∧ ∀ q ∈ _, b'.project.HasCodeValue q) _ _ ?_
    fun b' hb' row _ => resolved_assignCodeValue hb' row).1
  refine List.foldlRecOn (motive := fun acc : Builder × List Int32 =>
    acc.1.project.Resolved ∧ ∀ q ∈ acc.2, acc.1.project.HasCodeValue q) _ _ ⟨?_, ?_⟩
    fun acc hacc i _ => resolved_addCodeValue hacc _
  · exact List.foldlRecOn (motive := fun b : Builder => b.project.Resolved) _ _ h
      fun b hb row _ => resolved_addActivityCode hb row
  · intro q hq
    exact nomatch hq

/-! ### Properties, calendars and resources -/

theorem resolved_processProperties {b b' : Builder} (h : b.project.Resolved) {v : Option Int32}
    {summary userSettings : Option Row} {periods : List Row}
    (hrun : b.processProperties v summary userSettings periods = .ok b') : b'.project.Resolved := by
  unfold Builder.processProperties at hrun
  dsimp only at hrun
  -- the properties change, but not the default calendar
  split at hrun
  · obtain ⟨w, hw, hrun⟩ := Reading.bind_eq_ok.mp hrun
    rw [Reading.pure_eq_ok] at hw hrun
    subst hw hrun
    refine h.withProperties ?_
    split <;> exact h.defaultCalendar
  · obtain ⟨_, -, hrun⟩ := Reading.bind_eq_ok.mp hrun
    obtain ⟨w, hw, hrun⟩ := Reading.bind_eq_ok.mp hrun
    rw [Reading.pure_eq_ok] at hw hrun
    subst hw hrun
    refine h.withProperties ?_
    split <;> exact h.defaultCalendar

/-- A calendar's parent is kept only when the project has it. -/
theorem resolved_processCalendars {b : Builder} (h : b.project.Resolved) (calendars : List Row)
    (tables : CalendarTables) : (b.processCalendars calendars tables).project.Resolved := by
  unfold Builder.processCalendars
  refine List.foldlRecOn (motive := fun b : Builder => b.project.Resolved) _ _ h ?_
  intro b hb i _
  unfold Builder.processCalendar
  split
  · exact hb
  · exact hb.addCalendar fun _ hc => knownCalendar_some hc

/-- A resource's own calendar inherits from a calendar the project has, and the calendar it
names is the one just added. -/
theorem resolved_resourceCalendar {b : Builder} (h : b.project.Resolved) (base : Option Int32)
    (name : Option String) :
    (b.resourceCalendar base name).1.project.Resolved ∧
      (b.resourceCalendar base name).1.project.KnowsCalendar (b.resourceCalendar base name).2 := by
  unfold Builder.resourceCalendar
  split
  · exact ⟨h, fun _ hc => nomatch hc⟩
  · rename_i base hbase
    obtain ⟨id, -, hfound⟩ := Option.bind_eq_some_iff.mp hbase
    refine ⟨h.addCalendar ?_, ?_⟩
    · intro c hc
      cases hc
      exact Project.hasCalendar_of_calendar? hfound
    · intro c hc
      cases hc
      exact Project.hasCalendar_iff.mpr
        (List.mem_map_of_mem (List.mem_append_right _ (List.mem_singleton_self _)))

theorem resolved_addResource {b : Builder} (h : b.project.Resolved) (row : Row) (material : Bool) :
    (b.addResource row material).project.Resolved := by
  unfold Builder.addResource
  split
  · exact h
  · have hcal := resolved_resourceCalendar h (row.integer? "CALENDAR") (row.string? "NAME")
    obtain ⟨b₁, calendarId⟩ :=
      b.resourceCalendar (row.integer? "CALENDAR") (row.string? "NAME")
    refine hcal.1.addResource ⟨hcal.2, ?_⟩
    -- a new resource has no field values yet
    split <;> exact Project.DeclaresAll.nil _

theorem resolved_processResources {b : Builder} (h : b.project.Resolved)
    (permanent consumable : List Row) :
    (b.processResources permanent consumable).project.Resolved := by
  unfold Builder.processResources
  exact List.foldlRecOn (motive := fun b : Builder => b.project.Resolved) consumable _
    (List.foldlRecOn (motive := fun b : Builder => b.project.Resolved) permanent _ h
      fun b hb r _ => resolved_addResource hb r false)
    fun b hb r _ => resolved_addResource hb r true

/-! ### Runs of steps -/

/-- A fresh builder holds no references. -/
theorem resolved_empty : ({} : Builder).project.Resolved where
  tasks _ ht := nomatch ht
  resources _ hr := nomatch hr
  assignments _ ha := nomatch ha
  calendars _ hc := nomatch hc
  defaultCalendar _ hc := nomatch hc
  codeOrder := ⟨[], List.Perm.nil, fun _ hc => (nomatch hc), fun _ hv => (nomatch hv)⟩

/-- Every step that succeeds keeps the references resolved. -/
theorem resolved_step {b b' : Builder} (h : b.project.Resolved) {st : Step}
    (hrun : b.step st = .ok b') : b'.project.Resolved := by
  cases st with
  | properties v summary userSettings periods => exact resolved_processProperties h hrun
  | calendars calendars tables =>
    rw [Builder.step, Reading.pure_eq_ok] at hrun
    exact hrun ▸ resolved_processCalendars h calendars tables
  | resources permanent consumable =>
    rw [Builder.step, Reading.pure_eq_ok] at hrun
    exact hrun ▸ resolved_processResources h permanent consumable
  | tasks tables => exact resolved_processTasks h hrun
  | predecessors links => exact resolved_processPredecessors h hrun
  | assignments allocations skills => exact resolved_processAssignments h hrun
  | userFields definitions data =>
    rw [Builder.step, Reading.pure_eq_ok] at hrun
    exact hrun ▸ resolved_processUserFields h definitions data
  | codeLibraries libraries entries assignments =>
    rw [Builder.step, Reading.pure_eq_ok] at hrun
    exact hrun ▸ resolved_processCodeLibraries h libraries entries assignments

/-- Whatever steps run on a fresh builder, in whatever order and with whatever rows, every
reference the project holds resolves: the calendars of tasks and resources, the parents of
calendars and the default calendar name calendars the project has; assignments name its
resources; field values name declared fields; tasks carry code values the codes hold; and there
is an order of all code values, keeping each code's own order, in which every value's parent
comes before it. -/
theorem steps_resolve_references {ss : List Step} {b : Builder}
    (h : ({} : Builder).steps ss = .ok b) : b.project.Resolved :=
  Reading.foldlM_invariant (fun b : Builder => b.project.Resolved) Builder.step
    (fun _ _ _ hb hrun => resolved_step hb hrun) ss _ _ resolved_empty h

/-- In the sample run every reference resolves: the site calendar's parent, the calendar derived
for the resource, the first task's calendar, the allocation's resource, the user field on the
task and the code value assigned to it. -/
theorem sample_run_resolves_references :
    ∃ b, ({} : Builder).steps Sample.run = .ok b ∧ b.project.Resolved := by
  obtain ⟨b, h⟩ := steps_ok {} Sample.run Sample.run_hours
  exact ⟨b, h, steps_resolve_references h⟩

end Builder

end Schedule
