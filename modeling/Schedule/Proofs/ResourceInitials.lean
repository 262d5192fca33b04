import Schedule.Model.Resource

/-!
# Initials of a resource name

The initials loop (`initialsFrom`) searches for the next blank, looks at the character after it
and goes on two places after the blank. This module reads the same initials off the runs of
blanks of the name (`oddRunInitials`): after the first character, each maximal run of blanks
followed by a non-blank gives that character when the run is odd and nothing when it is even. A
single blank between words thus gives the next word's initial, and a double blank gives none.

The loop cannot panic: its one slice starts at `min index chars.length`, which is the bound the
slice asks for (`sliceFrom`), while the index itself runs one past the end after a final blank.

## Main statements

* `initialsFrom_toList` — the loop pushes the run reading of the characters from its index on.
* `initials_first_then_odd_runs` — a name has no initials exactly when it is empty, and otherwise
  its first character followed by the run reading of the rest.
* `oddRunInitials_blanks_append`, `oddRunInitials_blanks` — the run reading, run by run.
-/

namespace Schedule

/-- The initials that the characters after a name's first one give, read by runs of blanks: each
maximal run of blanks followed by a non-blank `c` gives `c` when the run is odd and nothing when it
is even. `k` is the number of blanks of the current run read so far. -/
def oddRunInitials (k : Nat) : List Char → List Char
  | [] => []
  | c :: rest =>
    if c = ' ' then oddRunInitials (k + 1) rest
    else if k % 2 = 1 then c :: oddRunInitials 0 rest
    else oddRunInitials 0 rest

section Runs

/-- A run of `n` blanks followed by a non-blank gives it when the run, counted from `k` blanks
already read, is odd. -/
theorem oddRunInitials_blanks_append (k n : Nat) {c : Char} (hc : c ≠ ' ') (rest : List Char) :
    oddRunInitials k (List.replicate n ' ' ++ c :: rest) =
      (if (k + n) % 2 = 1 then [c] else []) ++ oddRunInitials 0 rest := by
  induction n generalizing k with
  | zero => by_cases hk : k % 2 = 1 <;> simp [oddRunInitials, hc, hk]
  | succ n ih =>
    rw [List.replicate_succ, List.cons_append, oddRunInitials, if_pos rfl, ih,
      Nat.add_right_comm k 1 n, Nat.add_assoc]

/-- A run of blanks at the end gives nothing. -/
theorem oddRunInitials_blanks (k n : Nat) : oddRunInitials k (List.replicate n ' ') = [] := by
  induction n generalizing k with
  | zero => rfl
  | succ n ih => rw [List.replicate_succ, oddRunInitials, if_pos rfl, ih]

/-- Only the parity of the run read so far counts. -/
theorem oddRunInitials_add_two (k : Nat) (l : List Char) :
    oddRunInitials (k + 2) l = oddRunInitials k l := by
  induction l generalizing k with
  | nil => rfl
  | cons c rest ih =>
    have hk : (k + 2) % 2 = k % 2 := Nat.add_mod_right k 2
    by_cases hc : c = ' '
    · simp only [oddRunInitials, hc, if_true, Nat.add_right_comm k 2 1, ih]
    · simp only [oddRunInitials, hc, if_false, hk]

/-- Outside a run, a word without blanks gives nothing. -/
theorem oddRunInitials_word_append {w : List Char} (hw : ∀ c ∈ w, c ≠ ' ') (rest : List Char) :
    oddRunInitials 0 (w ++ rest) = oddRunInitials 0 rest := by
  induction w with
  | nil => rfl
  | cons c w ih =>
    have hc : c ≠ ' ' := hw c (List.mem_cons_self ..)
    simp only [List.cons_append, oddRunInitials, hc, if_false, Nat.zero_mod]
    exact ih fun d hd => hw d (List.mem_cons_of_mem c hd)

/-- Right after one blank, the next character is kept unless it is a blank too, and either way
the reading goes on after it outside a run. -/
theorem oddRunInitials_one (l : List Char) :
    oddRunInitials 1 l = (l.head?.filter (· != ' ')).toList ++ oddRunInitials 0 l.tail := by
  cases l with
  | nil => rfl
  | cons c rest =>
    by_cases hc : c = ' '
    · simp [oddRunInitials, hc, oddRunInitials_add_two 0]
    · simp [oddRunInitials, hc, Option.filter_some]

end Runs

section Search

/-- Clamping a slice's start to the length changes nothing. -/
theorem drop_min_length {α : Type _} (xs : List α) (i : Nat) :
    xs.drop (min i xs.length) = xs.drop i := by
  rcases Nat.le_total i xs.length with hle | hge
  · rw [Nat.min_eq_left hle]
  · rw [Nat.min_eq_right hge, List.drop_length, List.drop_eq_nil_of_le hge]

theorem oddRunInitials_of_findIdx?_none {l : List Char} (h : l.findIdx? (· == ' ') = none) :
    oddRunInitials 0 l = [] := by
  have hw : ∀ c ∈ l, c ≠ ' ' := fun c hc => by simpa using List.findIdx?_eq_none_iff.mp h c hc
  simpa [oddRunInitials] using oddRunInitials_word_append hw []

/-- Up to the first blank nothing is read; after it the reading has one blank of a run. -/
theorem oddRunInitials_of_findIdx?_some {l : List Char} {p : Nat}
    (h : l.findIdx? (· == ' ') = some p) :
    oddRunInitials 0 l = oddRunInitials 1 (l.drop (p + 1)) := by
  obtain ⟨hp, hblank, hbefore⟩ := List.findIdx?_eq_some_iff_getElem.mp h
  have hw : ∀ c ∈ l.take p, c ≠ ' ' := by
    intro c hc
    obtain ⟨j, hj, rfl⟩ := List.getElem_of_mem hc
    simpa using hbefore j (by simp at hj; omega)
  calc oddRunInitials 0 l
      = oddRunInitials 0 (l.take p ++ l[p] :: l.drop (p + 1)) := by
        rw [← List.drop_eq_getElem_cons hp, List.take_append_drop]
    _ = oddRunInitials 1 (l.drop (p + 1)) := by
        rw [oddRunInitials_word_append hw]
        simp [oddRunInitials, beq_iff_eq.mp hblank]

end Search

section Loop

/-- The loop from any index pushes the run reading of the characters from that index on. -/
theorem initialsFrom_toList (chars : List Char) (index : Nat) (result : String) :
    (initialsFrom chars index result).toList =
      result.toList ++ oddRunInitials 0 (chars.drop index) := by
  -- The loop's own induction; each pass starts outside a run, or after an even part of one,
  -- which `oddRunInitials_add_two` reads the same.
  fun_induction initialsFrom chars index result with
  | case1 index result h =>
    rw [sliceFrom_eq, drop_min_length] at h
    rw [oddRunInitials_of_findIdx?_none h, List.append_nil]
  | case2 index result offset h index' result' ih =>
    rw [sliceFrom_eq, drop_min_length] at h
    rw [ih, oddRunInitials_of_findIdx?_some h, List.drop_drop, oddRunInitials_one,
      List.head?_drop, List.tail_drop]
    cases hc : chars[index + (offset + 1)]?.filter (· != ' ') <;>
      simp [result', index', hc, Nat.add_assoc]

theorem initials_eq_none_iff (name : String) : initials name = none ↔ name = "" := by
  rw [← String.toList_inj, String.toList_empty]
  cases h : name.toList <;> simp [initials, h]

theorem initials_of_toList_eq_cons {name : String} {first : Char} {rest : List Char}
    (h : name.toList = first :: rest) :
    initials name = some (String.ofList (first :: oddRunInitials 0 rest)) := by
  simp only [initials, h, List.head?_cons, Option.bind_eq_bind, Option.bind_some, Option.pure_def]
  congr 1
  rw [String.ext_iff, initialsFrom_toList, String.toList_singleton, String.toList_ofList]
  rfl

example : initials "Ada King Lovelace" = some "AKL" := by
  rw [initials_of_toList_eq_cons rfl]
  decide

/-- A name has no initials exactly when it is empty. Otherwise its initials are its first
character followed, for each maximal run of blanks after it that a non-blank follows, by that
non-blank when the run is odd. -/
theorem initials_first_then_odd_runs (name : String) :
    (initials name = none ↔ name = "") ∧
      ∀ first rest, name.toList = first :: rest →
        initials name = some (String.ofList (first :: oddRunInitials 0 rest)) :=
  ⟨initials_eq_none_iff name, fun _ _ h => initials_of_toList_eq_cons h⟩

/-- Two blanks before a word drop its initial. -/
theorem initials_double_blank_drops_initial :
    "Ada  King".toList = 'A' :: "da  King".toList ∧ initials "Ada  King" = some "A" := by
  have h := (initials_first_then_odd_runs "Ada  King").2 'A' "da  King".toList rfl
  exact ⟨rfl, h.trans (by decide)⟩

end Loop

end Schedule
