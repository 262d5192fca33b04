import Schedule.Field.Decode
import Schedule.Model.Duration

/-!
# Records

A record maps field names to values, kept sorted by name with each name once. Its accessors read
a field as a wanted type (see `Value`); a missing field reads as absent, or as zero where noted.
Records read from a database store durations as packed `unit,flag,value` text; all others store
plain hours.

Merging adds the fields of a second record to a first: a name that is already present, including
one added by the merge itself, is stored under a prefix.

## Main definitions

* `Row`, `Row.set`, `Row.value?` — the field map, which keeps its names sorted.
* `Row.merge` — the union of two records with colliding names prefixed.
* The typed accessors `Row.string?`, `Row.integer?`, `Row.int`, `Row.double?`, `Row.currency?`,
  `Row.percent?`, `Row.boolean`, `Row.stamp?`, `Row.clock?`, `Row.duration`, `Row.work`.
-/

namespace Schedule

/-- How a record's source stores durations. -/
inductive DurationForm where
  /-- A number of hours. -/
  | hours
  /-- Text `unit,flag,value`, whose third part is the hours. -/
  | packed
  deriving Repr, Inhabited, DecidableEq

/-- A record of named fields, sorted by name with each name once. A record written out has its
order checked by `decide`. -/
structure Row where
  fields : List (String × Value) := []
  form : DurationForm := .hours
  sorted : (fields.map (·.1)).Pairwise (· < ·) := by decide

namespace Row

/-- The record without fields. -/
def empty (form : DurationForm) : Row := { form, sorted := List.Pairwise.nil }

instance : Inhabited Row := ⟨empty .hours⟩

/-- Inserts or replaces a field in a list sorted by name. -/
def insertField (name : String) (v : Value) : List (String × Value) → List (String × Value)
  | [] => [(name, v)]
  | (k, w) :: rest =>
    if name < k then (name, v) :: (k, w) :: rest
    else if name = k then (name, v) :: rest
    else (k, w) :: insertField name v rest

theorem mem_map_insertField {name : String} {v : Value} (m : String) :
    ∀ fs : List (String × Value),
      m ∈ (insertField name v fs).map (·.1) ↔ m = name ∨ m ∈ fs.map (·.1)
  | [] => by simp [insertField]
  | (k, w) :: rest => by
    unfold insertField
    by_cases hlt : name < k
    · simp [hlt]
    · by_cases hk : name = k
      · subst hk
        simp
      · simp only [hlt, hk, if_false, List.map_cons, List.mem_cons, mem_map_insertField m rest]
        exact or_left_comm

/-- Inserting a field keeps the names sorted, each once. -/
theorem pairwise_insertField {name : String} {v : Value} : ∀ fs : List (String × Value),
    (fs.map (·.1)).Pairwise (· < ·) → ((insertField name v fs).map (·.1)).Pairwise (· < ·)
  | [], _ => by simp [insertField]
  | (k, w) :: rest, h => by
    rw [List.map_cons, List.pairwise_cons] at h
    unfold insertField
    by_cases hlt : name < k
    · -- the field goes in front of names that are all above it
      rw [if_pos hlt, List.map_cons, List.pairwise_cons, List.map_cons, List.pairwise_cons]
      refine ⟨fun x hx => ?_, h⟩
      rcases List.mem_cons.mp hx with rfl | hx
      · exact hlt
      · exact String.lt_trans hlt (h.1 x hx)
    · rw [if_neg hlt]
      by_cases hk : name = k
      · rw [if_pos hk, List.map_cons, List.pairwise_cons]
        subst hk
        exact h
      · -- the field goes further on, above `k`
        have hkn : k < name := Decidable.byContradiction fun hkn =>
          hk (String.le_antisymm (String.not_lt.mp hkn) (String.not_lt.mp hlt))
        rw [if_neg hk, List.map_cons, List.pairwise_cons]
        refine ⟨fun x hx => ?_, pairwise_insertField rest h.2⟩
        rcases (mem_map_insertField x rest).mp hx with rfl | hx
        · exact hkn
        · exact h.1 x hx

/-- The record with a field set. -/
def set (r : Row) (name : String) (v : Value) : Row :=
  { r with fields := insertField name v r.fields, sorted := pairwise_insertField r.fields r.sorted }

/-- A record of the given fields, later ones replacing earlier ones of the same name. -/
def ofList (form : DurationForm) (kvs : List (String × Value)) : Row :=
  kvs.foldl (fun r (k, v) => r.set k v) (empty form)

/-- The value of a field. -/
def value? (r : Row) (name : String) : Option Value :=
  (r.fields.find? (·.1 == name)).map (·.2)

/-- Whether a field is present. -/
def contains (r : Row) (name : String) : Bool := (r.value? name).isSome

/-- The first record's fields with the second's added; a name already present is stored as
`pre ++ name`. The result stores durations like the first record. -/
def merge (a b : Row) (pre : String) : Row :=
  b.fields.foldl (fun acc (k, v) => acc.set (if acc.contains k then pre ++ k else k) v) a

/-- The display text of a field. -/
def string? (r : Row) (name : String) : Option String := (r.value? name).map Value.display

/-- A field as a 32-bit integer. -/
def integer? (r : Row) (name : String) : Option Int32 := (r.value? name).bind Value.asInteger?

/-- A field as a 32-bit integer, zero when missing. -/
def int (r : Row) (name : String) : Int32 := (r.integer? name).getD 0

/-- A field as a double. -/
def double? (r : Row) (name : String) : Option Float := (r.value? name).bind Value.asDouble?

/-- A field stored in hundredths. -/
def currency? (r : Row) (name : String) : Option Float := (r.double? name).map (· / 100.0)

/-- A field stored as a fraction, read as a percentage. -/
def percent? (r : Row) (name : String) : Option Float := (r.double? name).map (· * 100.0)

/-- A field as a flag: an integer other than zero. -/
def boolean (r : Row) (name : String) : Bool := r.int name != 0

/-- A field as a stamp. -/
def stamp? (r : Row) (name : String) : Option Stamp := (r.value? name).bind Value.asStamp?

/-- A field as a time of day. -/
def clock? (r : Row) (name : String) : Option Clock := (r.value? name).bind Value.asClock?

/-- A field as a duration in hours, zero when missing. Packed durations are decoded from text and
fail when they do not have three parts. -/
def duration (r : Row) (name : String) : Except DataError Duration :=
  match r.form with
  | .hours => .ok (Duration.hours ((r.double? name).getD 0.0))
  | .packed =>
    match r.value? name with
    | none => .ok Duration.zero
    | some (.text s) => (decodeDurationTriple s).map Duration.hours
    | some v => .ok (Duration.hours (v.asDouble?.getD 0.0))

/-- Work stored in seconds, read as hours. -/
def work (r : Row) (name : String) : Duration :=
  Duration.hours ((r.double? name).getD 0.0 / 3600.0)

/-- Whether a field is missing or displays as empty text. -/
def isBlank (r : Row) (name : String) : Bool :=
  match r.string? name with
  | none => true
  | some s => s.isEmpty

end Row

end Schedule
