import Schedule.Proofs.QuotedFields

/-!
# Merging records

Merging a second record into a first adds the second's fields one at a time, in name order: a
field whose name the record being built already has goes in under the prefixed name. When the
prefixed names are free, that is, no name of either record is the prefix followed by a name both
records have, the merge loses nothing: the first record's fields keep their values, each field of
the second is under its own name or, where the first record has that name, under the prefixed
one, and the merge has as many fields as the two records together.

The collision test looks at the record being built, not at the first record, and the prefixed
name is not tested at all. So when a prefixed name is taken, a field of the first record under it
is overwritten (`merge_overwrites_prefixed_field`).

## Main definitions

* `Row.names` — a record's field names, sorted and each once, as every record keeps them.
* `Row.mergedName`, `Row.MergesFreely` — the name a field of the second record is meant to take,
  and that no two fields are meant to take one name.

## Main statements

* `Row.merge_loses_no_field` — a merge with free prefixed names keeps every field.
* `Row.merge_overwrites_prefixed_field` — a merge whose prefixed name is taken loses a field.
-/

namespace Schedule.Row

/-- The names of a record's fields, in order. -/
def names (r : Row) : List String := r.fields.map (·.1)

/-- The name a field named `n` of a second record is meant to take in a merge into `r`: its own,
or the prefixed one when `r` has a field of that name. -/
def mergedName (r : Row) (pre n : String) : String := if n ∈ r.names then pre ++ n else n

/-- No prefixed name of a field that `r` and `o` share is a name of `r` or of `o`. -/
def MergesFreely (r o : Row) (pre : String) : Prop :=
  ∀ n ∈ o.names, n ∈ r.names → pre ++ n ∉ r.names ∧ pre ++ n ∉ o.names

instance (r o : Row) (pre : String) : Decidable (r.MergesFreely o pre) :=
  inferInstanceAs (Decidable (∀ n ∈ o.names, _))

/-! ### Setting a field -/

section Set

variable {n m : String} {v : Value}

theorem length_insertField : ∀ fs : List (String × Value), (fs.map (·.1)).Pairwise (· < ·) →
    n ∉ fs.map (·.1) → (insertField n v fs).length = fs.length + 1
  | [], _, _ => rfl
  | (k, w) :: rest, h, hn => by
    rw [List.map_cons, List.pairwise_cons] at h
    rw [List.map_cons, List.mem_cons, not_or] at hn
    unfold insertField
    rw [if_neg hn.1]
    split_ifs
    · rfl
    · rw [List.length_cons, List.length_cons, length_insertField rest h.2 hn.2]

theorem mem_names_set {r : Row} : m ∈ (r.set n v).names ↔ m = n ∨ m ∈ r.names :=
  mem_map_insertField m r.fields

/-- Setting a field under a new name adds one field. -/
theorem length_set {r : Row} (hn : n ∉ r.names) :
    (r.set n v).fields.length = r.fields.length + 1 :=
  length_insertField r.fields r.sorted hn

theorem contains_iff {r : Row} : r.contains n = true ↔ n ∈ r.names := by
  simp [contains, value?, names, List.find?_isSome]

end Set

/-! ### Where the fields of a merge go -/

section Free

variable {r o : Row} {pre k n : String}

/-- A field of the second record is meant to go where the first record has no field. -/
theorem MergesFreely.mergedName_not_mem (hfree : r.MergesFreely o pre) (hk : k ∈ o.names) :
    r.mergedName pre k ∉ r.names := by
  unfold mergedName
  split_ifs with hkr
  · exact (hfree k hk hkr).1
  · exact hkr

/-- Two fields of the second record are meant to go to two names. -/
theorem MergesFreely.mergedName_ne (hfree : r.MergesFreely o pre) (hk : k ∈ o.names)
    (hn : n ∈ o.names) (hkn : k ≠ n) : r.mergedName pre k ≠ r.mergedName pre n := by
  unfold mergedName
  split_ifs with hkr hnr hnr
  · exact fun h => hkn ((String.append_right_inj pre).mp h)
  · -- the prefixed name would be the name of a field of the second record
    exact fun h => (hfree k hk hkr).2 (h ▸ hn)
  · exact fun h => (hfree n hn hnr).2 (h ▸ hk)
  · exact hkn

end Free

/-- The merge is a fold of the second record's fields into the first. -/
theorem merge_eq (a b : Row) (pre : String) :
    ∃ step : Row → String × Value → Row,
      (∀ acc k v, step acc (k, v) = acc.set (if acc.contains k then pre ++ k else k) v) ∧
      a.merge b pre = b.fields.foldl step a :=
  ⟨_, fun _ _ _ => rfl, rfl⟩

/-- The record `acc` holds `r` and, under the names they are meant to take, the fields `done`
of a second record. -/
structure MergedSoFar (r : Row) (pre : String) (done : List (String × Value)) (acc : Row) :
    Prop where
  keeps : ∀ n ∈ r.names, acc.value? n = r.value? n
  adds : ∀ f ∈ done, acc.value? (r.mergedName pre f.1) = some f.2
  names_sub : ∀ m ∈ acc.names, m ∈ r.names ∨ ∃ f ∈ done, m = r.mergedName pre f.1
  length : acc.fields.length = r.fields.length + done.length

section Fold

variable {r o : Row} {pre : String} {step : Row → String × Value → Row}

theorem mergedSoFar_init : MergedSoFar r pre [] r :=
  ⟨fun _ _ => rfl, by simp, fun m hm => .inl hm, rfl⟩

/-- A field of the second record whose name is not among those merged so far is tested against
the first record alone, and goes where it is meant to. -/
theorem MergedSoFar.push (hfree : r.MergesFreely o pre)
    (hstep : ∀ acc k v, step acc (k, v) = acc.set (if acc.contains k then pre ++ k else k) v)
    {done : List (String × Value)} {acc : Row} (h : MergedSoFar r pre done acc)
    {k : String} {v : Value} (hk : k ∈ o.names)
    (hdone : ∀ f ∈ done, f.1 ∈ o.names ∧ f.1 ≠ k) :
    MergedSoFar r pre (done ++ [(k, v)]) (step acc (k, v)) := by
  -- the record built so far has the name exactly when the first record has it
  have hcontains : acc.contains k = decide (k ∈ r.names) := by
    by_cases hkr : k ∈ r.names
    · have hrc : r.contains k = true := contains_iff.mpr hkr
      unfold contains at hrc ⊢
      rw [decide_eq_true hkr, h.keeps k hkr]
      exact hrc
    · rw [decide_eq_false hkr, Bool.eq_false_iff, ne_eq, contains_iff]
      intro hacc
      rcases h.names_sub k hacc with hr' | ⟨f, hf, hfk⟩
      · exact hkr hr'
      · unfold mergedName at hfk
        split_ifs at hfk with hfr
        · exact (hfree f.1 (hdone f hf).1 hfr).2 (hfk ▸ hk)
        · exact (hdone f hf).2 hfk.symm
  have hkey : (if acc.contains k then pre ++ k else k) = r.mergedName pre k := by
    rw [hcontains, mergedName]
    by_cases hkr : k ∈ r.names <;> simp [hkr]
  have hfresh : r.mergedName pre k ∉ r.names := hfree.mergedName_not_mem hk
  have hapart : ∀ f ∈ done, r.mergedName pre k ≠ r.mergedName pre f.1 :=
    fun f hf => hfree.mergedName_ne hk (hdone f hf).1 (hdone f hf).2.symm
  rw [hstep, hkey]
  refine ⟨fun n hn => ?_, fun f hf => ?_, fun m hm => ?_, ?_⟩
  · rw [value?_set, if_neg (fun he : r.mergedName pre k = n => hfresh (he ▸ hn)), h.keeps n hn]
  · rcases List.mem_append.mp hf with hf | hf
    · rw [value?_set, if_neg (hapart f hf), h.adds f hf]
    · rw [List.mem_singleton.mp hf, value?_set, if_pos rfl]
  · rcases mem_names_set.mp hm with rfl | hm
    · exact .inr ⟨(k, v), by simp, rfl⟩
    · rcases h.names_sub m hm with hm | ⟨f, hf, rfl⟩
      · exact .inl hm
      · exact .inr ⟨f, List.mem_append_left _ hf, rfl⟩
  · -- the name is new to the record built so far
    have hnew : r.mergedName pre k ∉ acc.names := fun hm => by
      rcases h.names_sub _ hm with hm | ⟨f, hf, he⟩
      · exact hfresh hm
      · exact hapart f hf he
    rw [length_set hnew, h.length, List.length_append, List.length_singleton,
      Nat.add_assoc]

/-- Merging the rest of the second record's fields after some of them. -/
theorem MergedSoFar.foldl (hfree : r.MergesFreely o pre)
    (hstep : ∀ acc k v, step acc (k, v) = acc.set (if acc.contains k then pre ++ k else k) v) :
    ∀ (rest done : List (String × Value)) (acc : Row), done ++ rest = o.fields →
      MergedSoFar r pre done acc → MergedSoFar r pre o.fields (rest.foldl step acc)
  | [], done, _, hsplit, h => by simpa [← hsplit] using h
  | (k, v) :: rest, done, acc, hsplit, h => by
    have hnames : o.names = done.map (·.1) ++ k :: rest.map (·.1) := by
      simp [names, ← hsplit]
    have hk : k ∈ o.names := by simp [hnames]
    -- the names of `o` are sorted, so `k` comes after every name merged so far
    have hdone : ∀ f ∈ done, f.1 ∈ o.names ∧ f.1 ≠ k := fun f hf => by
      have hsorted : o.names.Pairwise (· < ·) := o.sorted
      rw [hnames, List.pairwise_append] at hsorted
      have hfk : f.1 < k := hsorted.2.2 f.1 (List.mem_map_of_mem hf) k List.mem_cons_self
      exact ⟨by simp [hnames, List.mem_map_of_mem hf], String.ne_of_lt hfk⟩
    rw [List.foldl_cons]
    exact MergedSoFar.foldl hfree hstep rest (done ++ [(k, v)]) _ (by simp [← hsplit])
      (h.push hfree hstep hk hdone)

end Fold

/-- When no prefixed name is taken, merging loses no field: the first record's fields keep their
values, each field of the second is under its own name, or under the prefixed one where the first
record has its name, and there are as many fields as in the two records together, each name
once. -/
theorem merge_loses_no_field {r o : Row} {pre : String} (hfree : r.MergesFreely o pre) :
    (∀ n ∈ r.names, (r.merge o pre).value? n = r.value? n) ∧
      (∀ f ∈ o.fields, (r.merge o pre).value? (r.mergedName pre f.1) = some f.2) ∧
      (r.merge o pre).fields.length = r.fields.length + o.fields.length := by
  obtain ⟨step, hstep, hmerge⟩ := merge_eq r o pre
  have h := MergedSoFar.foldl hfree hstep o.fields [] r (List.nil_append _) mergedSoFar_init
  rw [hmerge]
  exact ⟨h.keeps, h.adds, h.length⟩

/-- A record with a field `A` and a second record sharing it, merged with prefix `_`: `A` of the
second record goes to `_A`. -/
theorem merge_loses_no_field_of_shared_name :
    let r : Row := { fields := [("A", .integer 1), ("B", .integer 2)] }
    let o : Row := { fields := [("A", .integer 3), ("C", .integer 4)] }
    r.MergesFreely o "_" ∧
      ((∀ n ∈ r.names, (r.merge o "_").value? n = r.value? n) ∧
        (∀ f ∈ o.fields, (r.merge o "_").value? (r.mergedName "_" f.1) = some f.2) ∧
        (r.merge o "_").fields.length = r.fields.length + o.fields.length) :=
  ⟨by decide, merge_loses_no_field (by decide)⟩

/-- With the prefixed name taken by a field of the first record, merging overwrites that field:
merging `{A: 3}` into `{A: 1, X_A: 2}` with prefix `X_` leaves `X_A` holding 3, and two fields
where the two records have three. -/
theorem merge_overwrites_prefixed_field :
    let r : Row := { fields := [("A", .integer 1), ("X_A", .integer 2)] }
    let o : Row := { fields := [("A", .integer 3)] }
    r.integer? "X_A" = some 2 ∧ (r.merge o "X_").integer? "X_A" = some 3 ∧
      (r.merge o "X_").fields.length = 2 := by
  decide

end Schedule.Row
