import Mathlib.Data.List.Forall2
import Schedule.Store.Directory
import Schedule.Proofs.TaskFill

/-!
# Reading every project of an export directory

An export directory lists its projects by id from its project summary, the last row of an id
naming it, and reading all projects reads each listed id in turn. The listing is strictly
ascending, so reading all projects reads every listed id once and in order, and it succeeds
exactly when each of those reads does, with the projects they give.

## Main statements

* `ExportDirectory.insertProject_sorted` — listing an id keeps the listing strictly ascending.
* `ExportDirectory.listProjects_sorted` — the listing of a directory is strictly ascending.
* `ExportDirectory.readAll_eq_ok_iff` — what reading all projects gives.
-/

namespace Schedule

/-- A run over a list succeeds exactly when each item's run does, with their results in order. -/
theorem Reading.mapM_eq_ok_iff {α β : Type} {f : α → Reading β} {l : List α} {rs : List β} :
    l.mapM f = .ok rs ↔ List.Forall₂ (fun a r => f a = .ok r) l rs := by
  induction l generalizing rs with
  | nil =>
    rw [List.mapM_nil, List.forall₂_nil_left_iff]
    exact ⟨fun h => (Reading.pure_eq_ok.mp h).symm, fun h => by rw [h]; rfl⟩
  | cons a l ih =>
    rw [List.mapM_cons, Reading.bind_eq_ok, List.forall₂_cons_left_iff]
    constructor
    · rintro ⟨r, hr, h⟩
      obtain ⟨rs', hrs', h⟩ := Reading.bind_eq_ok.mp h
      exact ⟨r, rs', hr, ih.mp hrs', (Reading.pure_eq_ok.mp h).symm⟩
    · rintro ⟨r, rs', hr, hrest, rfl⟩
      exact ⟨r, hr, Reading.bind_eq_ok.mpr ⟨rs', ih.mpr hrest, rfl⟩⟩

namespace ExportDirectory

/-- Listed projects in strictly ascending order of id. -/
def Ascending (keys : List (Int32 × Option String)) : Prop :=
  keys.Pairwise fun a b => a.1.toInt < b.1.toInt

section Insert

variable {id : Int32} {name : Option String}

theorem mem_insertProject {l : List (Int32 × Option String)} {x : Int32 × Option String}
    (h : x ∈ listProjects.insertProject id name l) : x.1 = id ∨ x ∈ l := by
  induction l with
  | nil =>
    rw [listProjects.insertProject, List.mem_singleton] at h
    exact .inl (by rw [h])
  | cons kn rest ih =>
    rw [listProjects.insertProject] at h
    split at h
    · rcases List.mem_cons.mp h with rfl | h
      · exact .inl rfl
      · exact .inr h
    · split at h
      · rcases List.mem_cons.mp h with rfl | h
        · exact .inl rfl
        · exact .inr (List.mem_cons_of_mem _ h)
      · rcases List.mem_cons.mp h with rfl | h
        · exact .inr List.mem_cons_self
        · rcases ih h with h | h
          · exact .inl h
          · exact .inr (List.mem_cons_of_mem _ h)

/-- Listing an id keeps a listing strictly ascending: a new id goes before the first larger one,
and a listed id is named again in its place. -/
theorem insertProject_sorted {l : List (Int32 × Option String)} (hl : Ascending l) :
    Ascending (listProjects.insertProject id name l) := by
  induction l with
  | nil => simp [Ascending, listProjects.insertProject]
  | cons kn rest ih =>
    obtain ⟨k, n⟩ := kn
    obtain ⟨hk, hrest⟩ := List.pairwise_cons.mp hl
    rw [listProjects.insertProject]
    split
    · -- before the first listed id
      rename_i hlt
      refine List.Pairwise.cons (fun x hx => ?_) hl
      rcases List.mem_cons.mp hx with rfl | hx
      · exact hlt
      · exact Int.lt_trans hlt (hk x hx)
    · split
      · -- the first listed id, named again
        rename_i heq
        rw [eq_of_beq heq]
        exact List.Pairwise.cons hk hrest
      · -- past the first listed id
        rename_i hge hne
        have hne' : id.toInt ≠ k.toInt := fun h => hne (beq_iff_eq.mpr (Int32.toInt_inj.mp h))
        refine List.Pairwise.cons (fun x hx => ?_) (ih hrest)
        rcases mem_insertProject hx with hx | hx
        · show k.toInt < x.1.toInt
          rw [hx]
          omega
        · exact hk x hx

end Insert

/-- The listing of a directory is strictly ascending, whatever its project summary holds. -/
theorem listProjects_sorted {db : ExportDirectory} {keys : List (Int32 × Option String)}
    (h : db.listProjects = .ok keys) : Ascending keys := by
  rw [listProjects] at h
  obtain ⟨rs, -, h⟩ := Reading.bind_eq_ok.mp h
  rw [← Reading.pure_eq_ok.mp h]
  clear h
  -- every row of the summary keeps the listing ascending
  generalize hacc : ([] : List (Int32 × Option String)) = acc
  have h₀ : Ascending acc := hacc ▸ List.Pairwise.nil
  clear hacc
  induction rs generalizing acc with
  | nil => exact h₀
  | cons r rs ih =>
    rw [List.foldl_cons]
    refine ih _ ?_
    split
    · exact insertProject_sorted h₀
    · exact h₀

/-- Reading every project of a directory reads each listed id once, in ascending order, as
reading that project alone does; it succeeds exactly when the listing and each of those reads
succeed. -/
theorem readAll_eq_ok_iff (db : ExportDirectory) (ps : List Project) :
    db.readAll = .ok ps ↔ ∃ keys, db.listProjects = .ok keys ∧ Ascending keys ∧
      List.Forall₂ (fun k p => db.readProject k.1 = .ok p) keys ps := by
  rw [readAll, Reading.bind_eq_ok]
  constructor
  · rintro ⟨keys, hkeys, hread⟩
    exact ⟨keys, hkeys, listProjects_sorted hkeys, Reading.mapM_eq_ok_iff.mp hread⟩
  · rintro ⟨keys, hkeys, -, hread⟩
    exact ⟨keys, hkeys, Reading.mapM_eq_ok_iff.mpr hread⟩

end ExportDirectory

end Schedule
