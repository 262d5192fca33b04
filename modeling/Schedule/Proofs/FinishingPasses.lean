import Schedule.Proofs.LinkedConstraints

/-!
# What the passes that finish the outline keep

After the tasks are read, the passes that finish the outline each write a few fields of some
tasks: choosing the default calendar drops a task's calendar, the ids of unidentified tasks are
filled in, numbering writes ids and depths, widening writes a summary's dates, and the roll-up
writes progress. None of them touches the outline.

`Project.Keeps π p p'` says that `p'` has the outline of `p` and that every task of `p'` looks like
the task of `p` through the view `π`. Each pass keeps every view that does not see the fields it
writes; the hypothesis of each lemma below says so with a record update of exactly those fields.
-/

namespace Schedule

namespace Project

/-- `p'` has the outline of `p`, and each of its tasks is the task of `p` as seen through `π`. -/
structure Keeps {β : Type} (π : Task → β) (p p' : Project) : Prop where
  outline : p'.outline = p.outline
  view : ∀ k, π (p'.task k) = π (p.task k)

section Keeps

variable {β : Type} {π : Task → β}

theorem Keeps.refl (p : Project) : p.Keeps π p := ⟨rfl, fun _ => rfl⟩

theorem Keeps.trans {p p' p'' : Project} (h₁ : p.Keeps π p') (h₂ : p'.Keeps π p'') :
    p.Keeps π p'' where
  outline := h₂.outline.trans h₁.outline
  view k := (h₂.view k).trans (h₁.view k)

theorem keeps_modifyTask {f : Task → Task} (hl : Task.KeepsLinks f) (hf : ∀ t, π (f t) = π t)
    (p : Project) (k : TaskKey) : p.Keeps π (p.modifyTask k f) := by
  refine ⟨outline_modifyTask hl p k, fun j => ?_⟩
  rw [task_modifyTask]
  split
  · exact hf _
  · rfl

/-- Tasks that look alike through `π`, one by one, are alike through `π` at every key. -/
theorem keeps_of_map_eq {p p' : Project} (ho : p'.outline = p.outline)
    (h : p'.tasks.toList.map π = p.tasks.toList.map π) : p.Keeps π p' := by
  refine ⟨ho, fun k => ?_⟩
  have hk := congrArg (fun l => l[k]?) h
  simp only [List.getElem?_map, Array.getElem?_toList] at hk
  simp only [task_eq]
  cases h₁ : p'.tasks[k]? <;> cases h₂ : p.tasks[k]? <;> simp_all

theorem keeps_deriveDefaultCalendar (hπ : ∀ t, π { t with calendarId := none } = π t)
    (p : Project) : p.Keeps π p.deriveDefaultCalendar := by
  refine ⟨outline_deriveDefaultCalendar p, fun k => ?_⟩
  simp only [deriveDefaultCalendar]
  split
  · -- the tasks on the winning calendar drop it
    simp only [task_eq, Array.getElem?_map]
    cases p.tasks[k]? with
    | none => rfl
    | some t =>
      simp only [Option.map_some, Option.getD_some]
      split
      · exact hπ t
      · rfl
  · split <;> rfl

theorem keeps_numberUnidentified (hπ : ∀ t u, π { t with uniqueId := u } = π t) (p : Project) :
    p.Keeps π p.numberUnidentified := by
  refine keeps_of_map_eq (settledEdit_numberUnidentified p).taskEdit.outline_eq ?_
  simp only [numberUnidentified, ← Array.foldl_toList]
  rw [foldl_push_view]
  · simp
  · intro acc t
    split
    · exact ⟨_, rfl, rfl⟩
    · exact ⟨_, rfl, hπ t _⟩

section Numbering

variable (hπ : ∀ t i l, π { t with id := i, outlineLevel := l } = π t)
include hπ

theorem keeps_numberTask (s : Project × Int32) (e : TaskKey × Nat) :
    s.1.Keeps π (numberTask s e).1 := by
  apply keeps_modifyTask
  · exact fun _ => rfl
  · exact fun t => hπ t _ _

theorem keeps_numberStack : ∀ (fuel : Nat) (stack : List (TaskKey × Nat)) (s : Project × Int32),
    s.1.Keeps π (numberStack fuel stack s).1
  | 0, _, s => Keeps.refl s.1
  | _ + 1, [], s => Keeps.refl s.1
  | fuel + 1, (k, level) :: _, s =>
    (keeps_numberTask hπ s (k, level)).trans (keeps_numberStack fuel _ _)

theorem keeps_numberOutline (p : Project) : p.Keeps π p.numberOutline :=
  keeps_numberStack hπ (p.tasks.size + 1) (p.childTasks.map (·, 1)) (p, 0)

end Numbering

section Widening

variable (hπ : ∀ t (d : SummaryDates) (finish : Option Stamp),
  π { t with
      actualStart := d.actualStart, earlyStart := d.earlyStart, earlyFinish := d.earlyFinish,
      lateStart := d.lateStart, lateFinish := d.lateFinish, actualFinish := finish } = π t)
include hπ

theorem keeps_widenDates : ∀ (fuel : Nat) (p : Project) (k : TaskKey),
    p.Keeps π (widenDates fuel p k)
  | 0, p, _ => Keeps.refl p
  | fuel + 1, p, k => by
    simp only [widenDates]
    split
    · exact Keeps.refl p
    · -- every child is widened first, then the task itself
      refine Keeps.trans ?_ (keeps_modifyTask ?_ ?_ _ _)
      · exact List.foldlRecOn
          (motive := fun acc : Project × SummaryDates × Nat => p.Keeps π acc.1)
          _ _ (Keeps.refl p) fun acc h c _ => h.trans (keeps_widenDates _ _ _)
      · exact fun _ => rfl
      · exact fun t => hπ t _ _

theorem keeps_widenSummaryDates (p : Project) : p.Keeps π p.widenSummaryDates :=
  List.foldlRecOn (motive := fun q : Project => p.Keeps π q) p.childTasks _
    (Keeps.refl p) fun _ h _ _ => h.trans (keeps_widenDates hπ _ _ _)

end Widening

end Keeps

end Project

/-- Rolling up progress writes a summary's progress fields and nothing else. -/
theorem Builder.rollUpProgress_keeps {β : Type} {π : Task → β}
    (hπ : ∀ t (percent overall : Option Float) (actual remaining : Option Duration),
      π { t with
          percentComplete := percent, overallPercentComplete := overall,
          actualDuration := actual, remainingDuration := remaining } = π t)
    (b : Builder) : ∃ p, b.rollUpProgress = { b with project := p } ∧ b.project.Keeps π p := by
  simp only [Builder.rollUpProgress]
  refine List.foldlRecOn
    (motive := fun b' : Builder => ∃ p, b' = { b with project := p } ∧ b.project.Keeps π p)
    _ _ ⟨b.project, rfl, Project.Keeps.refl _⟩ ?_
  rintro b' ⟨p, rfl, hp⟩ k -
  simp only [Builder.rollUpTask]
  split
  · exact ⟨p, rfl, hp⟩
  · split
    · refine ⟨_, rfl, hp.trans (Project.keeps_modifyTask ?_ ?_ _ _)⟩
      · exact fun _ => rfl
      · exact fun t => hπ t _ _ _ _
    · refine ⟨_, rfl, hp.trans (Project.keeps_modifyTask ?_ ?_ _ _)⟩
      · intro t
        split
        · split <;> rfl
        · rfl
      · intro t
        split
        · split
          · exact hπ t _ _ _ _
          · exact hπ t _ _ _ _
        · exact hπ t _ _ _ _

end Schedule
