import Schedule.Build.Fields

/-!
# What reading user fields and code libraries can do

Reading user fields declares each field definition and then sets each value on the object it
names; reading code libraries adds each library as an activity code, then its entries as values,
then gives tasks the values assigned to them. So a relation between builders that is reflexive
and transitive, and that each of these single edits keeps, holds between a builder and the
builder after either read. Each invariant of a run then needs only the single edits.

## Main statements

* `Builder.processUserFields_keeps` — reading user fields keeps what field edits keep.
* `Builder.processCodeLibraries_keeps` — reading code libraries keeps what code edits keep.
-/

namespace Schedule

namespace Builder

section Keeps

variable {R : Builder → Builder → Prop} (hrefl : ∀ b, R b b)
  (htrans : ∀ {b₁ b₂ b₃}, R b₁ b₂ → R b₂ b₃ → R b₁ b₃)

include hrefl htrans in
/-- A relation kept by declaring a field and by setting a value is kept by reading user fields. -/
theorem processUserFields_keeps
    (hdefine : ∀ acc row, R acc.1 (addFieldDefinition acc row).1)
    (hset : ∀ b obj objectId field v, R b (b.setFieldValue obj objectId field v))
    (b : Builder) (definitions data : List Row) : R b (b.processUserFields definitions data) := by
  unfold processUserFields
  split
  rename_i b₁ fields hdef
  have h₁ : R b b₁ := by
    show R b (b₁, fields).1
    rw [← hdef]
    exact List.foldlRecOn (motive := fun acc : Builder × Std.HashMap Int _ => R b acc.1) _ _
      (hrefl b) fun acc hacc row _ => htrans hacc (hdefine acc row)
  refine List.foldlRecOn (motive := R b) _ _ h₁ fun b₂ hb₂ row _ => htrans hb₂ ?_
  -- a value row sets a value, or is passed over when its field or value is not read
  repeat' split
  all_goals first
    | exact hset b₂ ..
    | exact hrefl b₂

include hrefl htrans in
/-- A relation kept by adding a code, adding a value to a code and assigning a value to a task
is kept by reading code libraries. -/
theorem processCodeLibraries_keeps
    (hcode : ∀ b row, R b (addActivityCode b row))
    (hvalue : ∀ acc row, R acc.1 (addCodeValue acc row).1)
    (hassign : ∀ known b row, R b (assignCodeValue known b row))
    (b : Builder) (libraries entries assignments : List Row) :
    R b (b.processCodeLibraries libraries entries assignments) := by
  unfold processCodeLibraries
  dsimp only
  have hcodes : R b (libraries.foldl addActivityCode b) :=
    List.foldlRecOn (motive := R b) _ _ (hrefl b) fun b₂ hb₂ row _ => htrans hb₂ (hcode b₂ row)
  refine List.foldlRecOn (motive := R b) _ _ ?_ fun b₂ hb₂ row _ => htrans hb₂ (hassign _ b₂ row)
  exact List.foldlRecOn (motive := fun acc : Builder × List Int32 => R b acc.1) _ _ hcodes
    fun acc hacc _ _ => htrans hacc (hvalue acc _)

end Keeps

end Builder

end Schedule
