import Mathlib.Data.List.Forall2
import Schedule.Store.Packed
import Schedule.Proofs.QuotedFields

/-!
# Unpacking calendar strings

A packed calendar string is a first field followed by entries of fields, all joined by
separators. The decoders walk the fields by position: work pattern assignments five at a time,
exception assignments three at a time, and shifts day by day, each day two fields, a count, and
that many triples. Packing fields that hold no separator and unpacking them gives the fields back
(`fields_pack`), so each decoder reads one row per entry, in order, from the entry's own fields:
the walk's position is always the length of the fields packed before the entry.

Whatever the string, each decoder gives rows or fails on invalid data: a missing field or an
unreadable one, never a failure of another kind.

## Main definitions

* `pack` — fields joined by commas.
* `PatternEntry`, `ExceptionEntry`, `ShiftDay` with `Shift` — the entries of the three strings,
  each with what makes it readable (`Readable`) and what its row holds (`Gives`).
* `ReadsOrInvalid` — a read that gives a value or fails on invalid data.

## Main statements

* `fields_pack` — unpacking packed fields gives them back.
* `entries_forall₂`, `days_forall₂` — the two walks read one row per entry, in order.
* `packed_calendars_unpack` — the three decoders read packed entries back, and fail on nothing
  but invalid data.
-/

namespace Schedule.Packed

/-! ### Fields -/

/-- A field of a packed string: no separator in it. -/
def Unseparated (f : String) : Prop := ∀ c ∈ f.toList, isSeparator c = false

-- Named, since under Batteries the bounded quantifier over characters is also an instance that
-- tries every character.
instance : DecidablePred Unseparated := fun f => List.decidableBAll _ f.toList

/-- Fields packed into one string, separated by commas. -/
def pack (fs : List String) : String := ",".intercalate fs

theorem fields_eq (data : String) :
    fields data = ((data.toList.splitOnP isSeparator).map String.ofList).toArray := by
  rw [fields, String.toList_split_bool]

/-- Splitting lists joined by a separator gives them back, when none holds a separator. -/
theorem splitOnP_intercalate {α : Type} (p : α → Bool) {sep : α} (hsep : p sep = true) :
    ∀ {ls : List (List α)}, ls ≠ [] → (∀ l ∈ ls, ∀ x ∈ l, p x = false) →
      ([sep].intercalate ls).splitOnP p = ls
  | [l], _, h => by
    simpa using List.splitOnP_eq_singleton (h l List.mem_cons_self)
  | l :: l' :: ls, _, h => by
    rw [List.intercalate_cons_cons, List.append_assoc, List.singleton_append,
      List.splitOnP_append_cons_of_forall_mem (h l List.mem_cons_self) sep hsep,
      splitOnP_intercalate p hsep (List.cons_ne_nil l' ls)
        fun m hm => h m (List.mem_cons_of_mem l hm)]

/-- Unpacking packed fields gives them back. -/
theorem fields_pack {fs : List String} (hne : fs ≠ []) (h : ∀ f ∈ fs, Unseparated f) :
    (fields (pack fs)).toList = fs := by
  have hsplit : ([','].intercalate (fs.map String.toList)).splitOnP isSeparator =
      fs.map String.toList :=
    splitOnP_intercalate isSeparator rfl (by simpa using hne) (by simpa [Unseparated] using h)
  rw [fields_eq, pack, String.toList_intercalate]
  simp [hsplit]

/-- Packed fields read from an entry's fields: the entry's own fields stand after the fields
packed before it. -/
theorem getElem?_of_toList_eq {fs : Array String} {pre mid rest : List String}
    (h : fs.toList = pre ++ mid ++ rest) {j : Nat} {f : String} (hj : mid[j]? = some f) :
    fs[pre.length + j]? = some f := by
  have hlt : j < mid.length := (List.getElem?_eq_some_iff.mp hj).1
  rw [← Array.getElem?_toList, h, List.append_assoc, List.getElem?_append_right (by omega),
    Nat.add_sub_cancel_left, List.getElem?_append_left hlt, hj]

/-- Entries of fields, each with at least one, are no more than their fields. -/
theorem length_le_length_flatMap {α : Type} {toFields : α → List String}
    (hne : ∀ e, toFields e ≠ []) : ∀ es : List α, es.length ≤ (es.flatMap toFields).length
  | [] => Nat.le_refl 0
  | e :: es => by
    have hes := length_le_length_flatMap hne es
    have he : 0 < (toFields e).length := List.length_pos_of_ne_nil (hne e)
    simp only [List.length_cons, List.flatMap_cons, List.length_append]
    omega

/-- Unpacked fields of entries, each with a field, are more than the entries: the walk's fuel. -/
theorem length_lt_size_of_toList_eq {α : Type} {toFields : α → List String}
    (hne : ∀ e, toFields e ≠ []) {fs : Array String} {header : String} {es : List α}
    (h : fs.toList = [header] ++ es.flatMap toFields) : es.length < fs.size := by
  have hes := length_le_length_flatMap hne es
  rw [← Array.length_toList, h, List.length_append, List.length_singleton]
  omega

/-- A first field and entries, packed and unpacked, when no field holds a separator. -/
theorem fields_pack_flatMap {α : Type} {toFields : α → List String} {header : String}
    (hheader : Unseparated header) {es : List α}
    (hes : ∀ e ∈ es, ∀ f ∈ toFields e, Unseparated f) :
    (fields (pack (header :: es.flatMap toFields))).toList = [header] ++ es.flatMap toFields := by
  refine fields_pack (List.cons_ne_nil _ _) fun f hf => ?_
  rcases List.mem_cons.mp hf with rfl | hf
  · exact hheader
  · obtain ⟨e, he, hf⟩ := List.mem_flatMap.mp hf
    exact hes e he f hf

theorem field_eq_ok {fs : Array String} {i : Nat} {f : String} (data : String)
    (h : fs[i]? = some f) : field fs i data = .ok f := by
  simp [field, h]

theorem integer_eq_ok {fs : Array String} {i : Nat} {f : String} (data : String) {n : Int32}
    (h : fs[i]? = some f) (hn : Number.readInt32? (Text.trim f) = some n) :
    integer fs i data = .ok n := by
  simp [integer, field_eq_ok data h, hn]

@[simp] theorem lift_ok {α : Type} (a : α) : lift (.ok a) = .ok a := rfl

theorem exists_eq_ok_of_isOk {ε α : Type} {x : Except ε α} (h : x.isOk = true) :
    ∃ a, x = .ok a := by
  cases x with
  | ok a => exact ⟨a, rfl⟩
  | error e => simp [Except.isOk, Except.toBool] at h

/-! ### Rows

A field of a row the decoders build reads back the value set under its name; with these lemmas
`simp` reads any field of such a row. -/

@[simp] theorem Row.value?_setSome (r : Row) (n m : String) (o : Option Value) :
    (Row.setSome r n o).value? m = if n = m then o.or (r.value? m) else r.value? m := by
  cases o with
  | none => simp [Row.setSome]
  | some v => simp [Row.setSome, Row.value?_set]

@[simp] theorem Row.value?_ofList_single (form : DurationForm) (a : String) (x : Value) (m : String) :
    (Row.ofList form [(a, x)]).value? m = if a = m then some x else none := by
  simp only [Row.ofList, List.foldl_cons, List.foldl_nil, Row.value?_set]
  rfl

@[simp] theorem Row.value?_ofList_pair (form : DurationForm) (a b : String) (x y : Value) (m : String) :
    (Row.ofList form [(a, x), (b, y)]).value? m =
      if b = m then some y else if a = m then some x else none := by
  simp only [Row.ofList, List.foldl_cons, List.foldl_nil, Row.value?_set]
  rfl

/-! ### The walks -/

section Walks

variable {α : Type} {fs : Array String}

/-- The walk of entries of one width reads one row per entry, in order, when each entry reads
from its own fields: the walk stands at the length of the fields before the entry, and stops at
the end of the fields. -/
theorem entries_forall₂ {step : Nat} {entry : Nat → Reading Row} {toFields : α → List String}
    {R : α → Row → Prop} (hwidth : ∀ e, (toFields e).length = step) (hstep : 0 < step) :
    ∀ (es : List α) (pre : List String) (fuel : Nat) (acc : List Row),
      fs.toList = pre ++ es.flatMap toFields → es.length < fuel →
      (∀ e ∈ es, ∀ pre rest, fs.toList = pre ++ toFields e ++ rest →
        ∃ r, entry pre.length = .ok r ∧ R e r) →
      ∃ rows, entries fs step entry fuel pre.length acc = .ok (acc.reverse ++ rows) ∧
        List.Forall₂ R es rows
  | _, _, 0, _, _, hfuel, _ => absurd hfuel (Nat.not_lt_zero _)
  | [], pre, fuel + 1, acc, h, _, _ => by
    -- the fields end where the entries do
    have hsize : fs.size = pre.length := by
      rw [← Array.length_toList, h, List.flatMap_nil, List.append_nil]
    refine ⟨[], ?_, .nil⟩
    rw [entries, if_neg (by omega), List.append_nil]
  | e :: es, pre, fuel + 1, acc, h, hfuel, hentry => by
    have hsize : fs.size = pre.length + step + (es.flatMap toFields).length := by
      rw [← Array.length_toList, h, List.flatMap_cons]
      simp [hwidth e, Nat.add_assoc]
    obtain ⟨r, hr, hR⟩ := hentry e List.mem_cons_self pre (es.flatMap toFields)
      (by rw [h, List.flatMap_cons, List.append_assoc])
    obtain ⟨rows, hrows, hall⟩ := entries_forall₂ hwidth hstep es (pre ++ toFields e) fuel
      (r :: acc) (by rw [h, List.flatMap_cons, List.append_assoc])
      (Nat.lt_of_succ_lt_succ hfuel) fun e' he' => hentry e' (List.mem_cons_of_mem e he')
    refine ⟨r :: rows, ?_, .cons hR hall⟩
    rw [List.length_append, hwidth e] at hrows
    rw [entries, if_pos (by omega), hr, Export.Reading.ok_bind, hrows]
    simp

/-- The walk from the first entry of a packed string reads one row per entry, in order. -/
theorem entries_pack_forall₂ {step : Nat} {entry : Nat → Reading Row}
    {toFields : α → List String} {R : α → Row → Prop}
    (hwidth : ∀ e, (toFields e).length = step) (hstep : 0 < step) {header : String} (hheader : Unseparated header) {es : List α}
    (hes : ∀ e ∈ es, ∀ f ∈ toFields e, Unseparated f)
    (hentry : ∀ e ∈ es, ∀ pre rest,
      (fields (pack (header :: es.flatMap toFields))).toList = pre ++ toFields e ++ rest →
        ∃ r, entry pre.length = .ok r ∧ R e r) :
    ∃ rows, entries (fields (pack (header :: es.flatMap toFields))) step entry
        (fields (pack (header :: es.flatMap toFields))).size 1 [] = .ok rows ∧
      List.Forall₂ R es rows := by
  have hfs := fields_pack_flatMap hheader hes
  have hne : ∀ e, toFields e ≠ [] := fun e =>
    List.ne_nil_of_length_pos (by rw [hwidth e]; exact hstep)
  simpa using entries_forall₂ hwidth hstep es [header] _ [] hfs
    (length_lt_size_of_toList_eq hne hfs) hentry

end Walks

/-! ### Work pattern assignments -/

/-- A dated work pattern as it is packed: five fields, the pattern's id second and the start and
end dates fourth and fifth. -/
structure PatternEntry where
  lead : String
  pattern : String
  gap : String
  start : String
  finish : String

namespace PatternEntry

/-- The fields of the entry, in order. -/
def fields (e : PatternEntry) : List String := [e.lead, e.pattern, e.gap, e.start, e.finish]

/-- An entry the decoder reads: no separator in its fields, an integer for the pattern, and dates
the basic decoder reads. -/
def Readable (e : PatternEntry) : Prop :=
  (∀ f ∈ e.fields, Unseparated f) ∧ (Number.readInt32? (Text.trim e.pattern)).isSome ∧
    (decodeBasicStamp e.start).isOk ∧ (decodeBasicStamp e.finish).isOk

instance : DecidablePred Readable := fun _ =>
  inferInstanceAs (Decidable (_ ∧ _ ∧ _ ∧ _))

/-- The row entry `e` gives calendar `c`: the calendar, the pattern, and the dates as the basic
decoder reads them, absent where it reads none. -/
structure Gives (c : Int32) (e : PatternEntry) (r : Row) : Prop where
  calendar : r.value? "WORK_PATTERN_ASSIGNMENTID" = some (.integer c)
  pattern : ∀ p, Number.readInt32? (Text.trim e.pattern) = some p →
    r.value? "WORK_PATTERN" = some (.integer p)
  start : ∀ s, decodeBasicStamp e.start = .ok s → r.value? "START_DATE" = s.map .stamp
  finish : ∀ s, decodeBasicStamp e.finish = .ok s → r.value? "END_DATE" = s.map .stamp

end PatternEntry

/-- The dated work patterns of a calendar are read back from their packed entries, one row per
entry, in order. -/
theorem workPatternAssignmentRows_pack (c : Int32) {header : String} (hheader : Unseparated header)
    {es : List PatternEntry} (hes : ∀ e ∈ es, e.Readable) :
    ∃ rows, workPatternAssignmentRows c (pack (header :: es.flatMap PatternEntry.fields)) =
        .ok rows ∧ List.Forall₂ (PatternEntry.Gives c) es rows := by
  have hwidth : ∀ e : PatternEntry, e.fields.length = 5 := fun _ => rfl
  rw [workPatternAssignmentRows]
  refine entries_pack_forall₂ hwidth (by decide) hheader (fun e he => (hes e he).1)
    fun e he pre rest h => ?_
  obtain ⟨_, hp, hs, hf⟩ := hes e he
  obtain ⟨p, hp⟩ := Option.isSome_iff_exists.mp hp
  obtain ⟨s, hs⟩ := exists_eq_ok_of_isOk hs
  obtain ⟨f, hf⟩ := exists_eq_ok_of_isOk hf
  -- the entry's pattern and dates sit one, three and four fields after its start
  simp only [integer_eq_ok _ (getElem?_of_toList_eq h (j := 1) rfl) hp,
    field_eq_ok _ (getElem?_of_toList_eq h (j := 3) rfl),
    field_eq_ok _ (getElem?_of_toList_eq h (j := 4) rfl), hs, hf, lift_ok,
    Export.Reading.ok_bind]
  refine ⟨_, rfl, ⟨?_, fun p' hp' => ?_, fun s' hs' => ?_, fun f' hf' => ?_⟩⟩
  · simp
  · cases hp.symm.trans hp'
    simp
  · cases hs.symm.trans hs'
    simp
  · cases hf.symm.trans hf'
    simp

/-! ### Exception assignments -/

/-- An exception's dates as they are packed: three fields, the start and end first, as days and
seconds from the export's epoch. -/
structure ExceptionEntry where
  start : String
  finish : String
  rest : String

namespace ExceptionEntry

/-- The fields of the entry, in order. -/
def fields (e : ExceptionEntry) : List String := [e.start, e.finish, e.rest]

/-- An entry the decoder reads: no separator in its fields, and dates the epoch decoder reads. -/
def Readable (e : ExceptionEntry) : Prop :=
  (∀ f ∈ e.fields, Unseparated f) ∧ (decodeEpochStamp e.start).isOk ∧
    (decodeEpochStamp e.finish).isOk

instance : DecidablePred Readable := fun _ =>
  inferInstanceAs (Decidable (_ ∧ _ ∧ _))

/-- The row entry `e` gives calendar `c`: the calendar, and the dates as the epoch decoder reads
them, absent where it reads none. -/
structure Gives (c : Int32) (e : ExceptionEntry) (r : Row) : Prop where
  calendar : r.value? "EXCEPTION_ASSIGNMENTID" = some (.integer c)
  start : ∀ s, decodeEpochStamp e.start = .ok s → r.value? "START_DATE" = s.map .stamp
  finish : ∀ s, decodeEpochStamp e.finish = .ok s → r.value? "END_DATE" = s.map .stamp

end ExceptionEntry

/-- The exceptions of a calendar are read back from their packed entries, one row per entry, in
order. -/
theorem exceptionAssignmentRows_pack (c : Int32) {header : String} (hheader : Unseparated header)
    {es : List ExceptionEntry} (hes : ∀ e ∈ es, e.Readable) :
    ∃ rows, exceptionAssignmentRows c (pack (header :: es.flatMap ExceptionEntry.fields)) =
        .ok rows ∧ List.Forall₂ (ExceptionEntry.Gives c) es rows := by
  have hwidth : ∀ e : ExceptionEntry, e.fields.length = 3 := fun _ => rfl
  rw [exceptionAssignmentRows]
  refine entries_pack_forall₂ hwidth (by decide) hheader (fun e he => (hes e he).1)
    fun e he pre rest h => ?_
  obtain ⟨_, hs, hf⟩ := hes e he
  obtain ⟨s, hs⟩ := exists_eq_ok_of_isOk hs
  obtain ⟨f, hf⟩ := exists_eq_ok_of_isOk hf
  -- the entry's dates are its first two fields
  have hstart : (fields (pack (header :: es.flatMap ExceptionEntry.fields)))[pre.length]? =
      some e.start := getElem?_of_toList_eq h (j := 0) rfl
  simp only [field_eq_ok _ hstart, field_eq_ok _ (getElem?_of_toList_eq h (j := 1) rfl), hs, hf,
    lift_ok, Export.Reading.ok_bind]
  refine ⟨_, rfl, ⟨?_, fun s' hs' => ?_, fun f' hf' => ?_⟩⟩
  · simp
  · cases hs.symm.trans hs'
    simp
  · cases hf.symm.trans hf'
    simp

/-! ### Shifts -/

/-- A shift as it is packed: the exception type, then the start and end times. -/
structure Shift where
  exception : String
  start : String
  finish : String

namespace Shift

/-- The fields of the shift, in order. -/
def fields (x : Shift) : List String := [x.exception, x.start, x.finish]

/-- A shift the decoder reads: no separator in its fields, an integer for the exception type, and
times the basic decoder reads. -/
def Readable (x : Shift) : Prop :=
  (∀ f ∈ x.fields, Unseparated f) ∧ (Number.readInt32? (Text.trim x.exception)).isSome ∧
    (decodeBasicClock x.start).isOk ∧ (decodeBasicClock x.finish).isOk

instance : DecidablePred Readable := fun _ =>
  inferInstanceAs (Decidable (_ ∧ _ ∧ _ ∧ _))

/-- The row shift `x` gives work pattern `w`: the work pattern, the exception type, and the times
as the basic decoder reads them, absent where it reads none (an empty field, or `0` for
midnight). -/
structure Gives (w : Int32) (x : Shift) (r : Row) : Prop where
  workPattern : r.value? "TIME_ENTRYID" = some (.integer w)
  exception : ∀ n, Number.readInt32? (Text.trim x.exception) = some n →
    r.value? "EXCEPTION" = some (.integer n)
  start : ∀ t, decodeBasicClock x.start = .ok t → r.value? "START_TIME" = t.map .clock
  finish : ∀ t, decodeBasicClock x.finish = .ok t → r.value? "END_TIME" = t.map .clock

end Shift

/-- A day of shifts as it is packed: two fields, the count of shifts, and the shifts. -/
structure ShiftDay where
  lead : String
  gap : String
  count : String
  shifts : List Shift

namespace ShiftDay

/-- The fields of the day, in order. -/
def fields (d : ShiftDay) : List String :=
  [d.lead, d.gap, d.count] ++ d.shifts.flatMap Shift.fields

/-- A day the decoder reads: no separator in its fields, a count that is the number of its
shifts, and shifts the decoder reads. -/
def Readable (d : ShiftDay) : Prop :=
  Unseparated d.lead ∧ Unseparated d.gap ∧ Unseparated d.count ∧
    (Number.readInt32? (Text.trim d.count)).map Int32.toInt = some (d.shifts.length : Int) ∧
    ∀ x ∈ d.shifts, x.Readable

instance : DecidablePred Readable := fun _ =>
  inferInstanceAs (Decidable (_ ∧ _ ∧ _ ∧ _ ∧ _))

theorem Readable.unseparated {d : ShiftDay} (hd : d.Readable) :
    ∀ f ∈ d.fields, Unseparated f := by
  obtain ⟨hlead, hgap, hcount, -, hxs⟩ := hd
  intro f hf
  simp only [fields, List.cons_append, List.nil_append, List.mem_cons, List.mem_flatMap] at hf
  rcases hf with rfl | rfl | rfl | ⟨x, hx, hf⟩
  · exact hlead
  · exact hgap
  · exact hcount
  · exact (hxs x hx).1 f hf

end ShiftDay

section Walks

variable {fs : Array String}

/-- The shifts of a day are read one row per shift, in order, from the fields after the count;
the walk ends after the last shift's fields. -/
theorem shifts_forall₂ (w : Int32) (data : String) :
    ∀ (xs : List Shift) (pre rest : List String) (acc : List Row),
      fs.toList = pre ++ xs.flatMap Shift.fields ++ rest → (∀ x ∈ xs, x.Readable) →
      ∃ rows, shifts w fs data xs.length pre.length acc =
          .ok ((pre ++ xs.flatMap Shift.fields).length, rows.reverse ++ acc) ∧
        List.Forall₂ (Shift.Gives w) xs rows
  | [], pre, _, acc, _, _ => ⟨[], by simp [shifts], .nil⟩
  | x :: xs, pre, rest, acc, h, hxs => by
    have hx : fs.toList = pre ++ x.fields ++ (xs.flatMap Shift.fields ++ rest) := by
      rw [h, List.flatMap_cons]
      simp only [List.append_assoc]
    obtain ⟨_, hn, hs, hf⟩ := hxs x List.mem_cons_self
    obtain ⟨n, hn⟩ := Option.isSome_iff_exists.mp hn
    obtain ⟨s, hs⟩ := exists_eq_ok_of_isOk hs
    obtain ⟨f, hf⟩ := exists_eq_ok_of_isOk hf
    -- one shift read: its three fields give a row, and the walk goes on after them
    obtain ⟨r, hR, hstep⟩ : ∃ r, Shift.Gives w x r ∧
        shifts w fs data (xs.length + 1) pre.length acc =
          shifts w fs data xs.length (pre.length + 3) (r :: acc) := by
      have hexception : fs[pre.length]? = some x.exception := getElem?_of_toList_eq hx (j := 0) rfl
      rw [shifts]
      simp only [integer_eq_ok _ hexception hn,
        field_eq_ok _ (getElem?_of_toList_eq hx (j := 1) rfl),
        field_eq_ok _ (getElem?_of_toList_eq hx (j := 2) rfl), hs, hf, lift_ok,
        Export.Reading.ok_bind]
      refine ⟨_, ⟨?_, fun n' hn' => ?_, fun s' hs' => ?_, fun f' hf' => ?_⟩, rfl⟩
      · simp
      · cases hn.symm.trans hn'
        simp
      · cases hs.symm.trans hs'
        simp
      · cases hf.symm.trans hf'
        simp
    obtain ⟨rows, hrows, hall⟩ := shifts_forall₂ w data xs (pre ++ x.fields) rest (r :: acc)
      (by rw [hx]; simp only [List.append_assoc]) fun x' hx' => hxs x' (List.mem_cons_of_mem x hx')
    refine ⟨r :: rows, ?_, .cons hR hall⟩
    have hlen : (pre ++ x.fields).length = pre.length + 3 := by simp [Shift.fields]
    rw [List.length_cons, hstep, ← hlen, hrows, List.flatMap_cons]
    simp

/-- The days of a work pattern are read one row per shift, in order, day after day. -/
theorem days_forall₂ (w : Int32) (data : String) :
    ∀ (ds : List ShiftDay) (pre : List String) (fuel : Nat) (acc : List Row),
      fs.toList = pre ++ ds.flatMap ShiftDay.fields → ds.length < fuel →
      (∀ d ∈ ds, d.Readable) →
      ∃ rows, days w fs data fuel pre.length acc = .ok (acc.reverse ++ rows) ∧
        List.Forall₂ (Shift.Gives w) (ds.flatMap ShiftDay.shifts) rows
  | _, _, 0, _, _, hfuel, _ => absurd hfuel (Nat.not_lt_zero _)
  | [], pre, fuel + 1, acc, h, _, _ => by
    -- the fields end where the days do
    have hsize : fs.size = pre.length := by
      rw [← Array.length_toList, h, List.flatMap_nil, List.append_nil]
    refine ⟨[], ?_, .nil⟩
    rw [days, if_neg (by omega), List.append_nil]
  | d :: ds, pre, fuel + 1, acc, h, hfuel, hds => by
    obtain ⟨-, -, -, hn, hxs⟩ := hds d List.mem_cons_self
    obtain ⟨n, hn, hlen⟩ := Option.map_eq_some_iff.mp hn
    have hd : fs.toList = pre ++ [d.lead, d.gap, d.count] ++
        (d.shifts.flatMap Shift.fields ++ ds.flatMap ShiftDay.fields) := by
      rw [h, List.flatMap_cons, ShiftDay.fields]
      simp only [List.append_assoc]
    have hsize : fs.size = pre.length + 3 + (d.shifts.flatMap Shift.fields).length +
        (ds.flatMap ShiftDay.fields).length := by
      rw [← Array.length_toList, hd]
      simp only [List.length_append, List.length_cons, List.length_nil]
      omega
    -- the count is the number of shifts, which the fields bound
    have hcount : min n.toInt.toNat (fs.size + 1) = d.shifts.length := by
      have hshifts : d.shifts.length ≤ (d.shifts.flatMap Shift.fields).length :=
        length_le_length_flatMap (fun _ => List.cons_ne_nil _ _) d.shifts
      rw [hlen, Int.toNat_natCast]
      omega
    obtain ⟨rows₁, hrows₁, hall₁⟩ := shifts_forall₂ w data d.shifts
      (pre ++ [d.lead, d.gap, d.count]) (ds.flatMap ShiftDay.fields) acc
      (by rw [hd]; simp only [List.append_assoc]) hxs
    obtain ⟨rows₂, hrows₂, hall₂⟩ := days_forall₂ w data ds (pre ++ d.fields) fuel
      (rows₁.reverse ++ acc) (by rw [h, List.flatMap_cons, List.append_assoc])
      (Nat.lt_of_succ_lt_succ hfuel) fun d' hd' => hds d' (List.mem_cons_of_mem d hd')
    refine ⟨rows₁ ++ rows₂, ?_, ?_⟩
    · have hstart : (pre ++ [d.lead, d.gap, d.count]).length = pre.length + 3 := by simp
      have hend : (pre ++ [d.lead, d.gap, d.count] ++ d.shifts.flatMap Shift.fields).length =
          (pre ++ d.fields).length := by
        simp [ShiftDay.fields]
      rw [hstart, hend] at hrows₁
      rw [days, if_pos (by omega),
        integer_eq_ok _ (getElem?_of_toList_eq hd (j := 2) rfl) hn, Export.Reading.ok_bind]
      simp only [hcount, hrows₁, Export.Reading.ok_bind, hrows₂]
      simp
    · rw [List.flatMap_cons]
      exact List.rel_append hall₁ hall₂

end Walks

/-- The shifts of a work pattern are read back from their packed days, one row per shift, in
order. -/
theorem timeEntryRows_pack (w : Int32) {header : String} (hheader : Unseparated header)
    {ds : List ShiftDay} (hds : ∀ d ∈ ds, d.Readable) :
    ∃ rows, timeEntryRows w (pack (header :: ds.flatMap ShiftDay.fields)) = .ok rows ∧
      List.Forall₂ (Shift.Gives w) (ds.flatMap ShiftDay.shifts) rows := by
  have hfs := fields_pack_flatMap hheader fun d hd => (hds d hd).unseparated
  have hne : ∀ d : ShiftDay, d.fields ≠ [] := fun _ => List.cons_ne_nil _ _
  rw [timeEntryRows]
  simpa using days_forall₂ w _ ds [header] _ [] hfs (length_lt_size_of_toList_eq hne hfs) hds

/-! ### Any string -/

/-- A read that gives a value or fails on invalid data, never with a failure of another kind. -/
def ReadsOrInvalid {α : Type} (x : Reading α) : Prop :=
  (∃ a, x = .ok a) ∨ ∃ e, x = .error (.data e)

namespace ReadsOrInvalid

variable {α β : Type}

theorem ok (a : α) : ReadsOrInvalid (.ok a : Reading α) := .inl ⟨a, rfl⟩

theorem bind {x : Reading α} {f : α → Reading β} (hx : ReadsOrInvalid x)
    (hf : ∀ a, ReadsOrInvalid (f a)) : ReadsOrInvalid (x >>= f) := by
  rcases hx with ⟨a, rfl⟩ | ⟨e, rfl⟩
  · exact hf a
  · exact .inr ⟨e, rfl⟩

theorem lift (x : Except DataError α) : ReadsOrInvalid (Packed.lift x) := by
  cases x with
  | ok a => exact .ok a
  | error e => exact .inr ⟨e, rfl⟩

theorem field (fs : Array String) (i : Nat) (data : String) :
    ReadsOrInvalid (Packed.field fs i data) := by
  unfold Packed.field
  split
  · exact .ok _
  · exact .inr ⟨_, rfl⟩

theorem integer (fs : Array String) (i : Nat) (data : String) :
    ReadsOrInvalid (Packed.integer fs i data) := by
  unfold Packed.integer
  refine (field fs i data).bind fun v => ?_
  split
  · exact .ok _
  · exact .inr ⟨_, rfl⟩

end ReadsOrInvalid

section Walks

variable {fs : Array String}

theorem entries_readsOrInvalid {step : Nat} {entry : Nat → Reading Row}
    (hentry : ∀ i, ReadsOrInvalid (entry i)) :
    ∀ fuel i acc, ReadsOrInvalid (entries fs step entry fuel i acc)
  | 0, _, _ => .ok _
  | fuel + 1, i, acc => by
    rw [entries]
    split_ifs
    · exact (hentry i).bind fun r => entries_readsOrInvalid hentry fuel (i + step) (r :: acc)
    · exact .ok _

theorem shifts_readsOrInvalid (w : Int32) (data : String) :
    ∀ count i acc, ReadsOrInvalid (shifts w fs data count i acc)
  | 0, _, _ => .ok _
  | count + 1, i, acc => by
    rw [shifts]
    exact (ReadsOrInvalid.integer fs i data).bind fun _ =>
      (ReadsOrInvalid.field fs (i + 1) data).bind fun _ => (ReadsOrInvalid.lift _).bind fun _ =>
      (ReadsOrInvalid.field fs (i + 2) data).bind fun _ => (ReadsOrInvalid.lift _).bind fun _ =>
      shifts_readsOrInvalid w data count (i + 3) _

theorem days_readsOrInvalid (w : Int32) (data : String) :
    ∀ fuel i acc, ReadsOrInvalid (days w fs data fuel i acc)
  | 0, _, _ => .ok _
  | fuel + 1, i, acc => by
    rw [days]
    split_ifs
    · exact (ReadsOrInvalid.integer fs (i + 2) data).bind fun _ =>
        (shifts_readsOrInvalid w data _ (i + 3) acc).bind fun ⟨i, acc⟩ =>
        days_readsOrInvalid w data fuel i acc
    · exact .ok _

end Walks

/-- Whatever the string, the three decoders give rows or fail on invalid data. -/
theorem unpack_readsOrInvalid (c : Int32) (data : String) :
    ReadsOrInvalid (workPatternAssignmentRows c data) ∧
      ReadsOrInvalid (exceptionAssignmentRows c data) ∧
      ReadsOrInvalid (timeEntryRows c data) := by
  refine ⟨entries_readsOrInvalid (fun i => ?_) _ _ _, entries_readsOrInvalid (fun i => ?_) _ _ _,
    days_readsOrInvalid c data _ _ _⟩
  · exact (ReadsOrInvalid.integer _ (i + 1) data).bind fun _ =>
      (ReadsOrInvalid.field _ (i + 3) data).bind fun _ => (ReadsOrInvalid.lift _).bind fun _ =>
      (ReadsOrInvalid.field _ (i + 4) data).bind fun _ => (ReadsOrInvalid.lift _).bind fun _ =>
      .ok _
  · exact (ReadsOrInvalid.field _ i data).bind fun _ => (ReadsOrInvalid.lift _).bind fun _ =>
      (ReadsOrInvalid.field _ (i + 1) data).bind fun _ => (ReadsOrInvalid.lift _).bind fun _ =>
      .ok _

/-! ### Packing and unpacking -/

/-- The packed-calendar decoders invert packing. For a first field and entries of fields without
separators whose integers and dates read, the dated work patterns give one row per five-field
entry, the exceptions one row per three-field entry, and the shifts one row per triple, day
after day, each in order, with the calendar or work pattern, and the values the entry's fields
decode to. And whatever the string, each decoder gives rows or fails on invalid data. -/
theorem packed_calendars_unpack (c : Int32) (header : String) (hheader : Unseparated header) :
    (∀ es : List PatternEntry, (∀ e ∈ es, e.Readable) →
      ∃ rows, workPatternAssignmentRows c (pack (header :: es.flatMap PatternEntry.fields)) =
          .ok rows ∧ List.Forall₂ (PatternEntry.Gives c) es rows) ∧
    (∀ es : List ExceptionEntry, (∀ e ∈ es, e.Readable) →
      ∃ rows, exceptionAssignmentRows c (pack (header :: es.flatMap ExceptionEntry.fields)) =
          .ok rows ∧ List.Forall₂ (ExceptionEntry.Gives c) es rows) ∧
    (∀ ds : List ShiftDay, (∀ d ∈ ds, d.Readable) →
      ∃ rows, timeEntryRows c (pack (header :: ds.flatMap ShiftDay.fields)) = .ok rows ∧
        List.Forall₂ (Shift.Gives c) (ds.flatMap ShiftDay.shifts) rows) ∧
    ∀ data : String, ReadsOrInvalid (workPatternAssignmentRows c data) ∧
      ReadsOrInvalid (exceptionAssignmentRows c data) ∧ ReadsOrInvalid (timeEntryRows c data) :=
  ⟨fun _ hes => workPatternAssignmentRows_pack c hheader hes,
    fun _ hes => exceptionAssignmentRows_pack c hheader hes,
    fun _ hds => timeEntryRows_pack c hheader hds, unpack_readsOrInvalid c⟩

/-- A week's packed calendar: two dated work patterns, one to the end of time, two exceptions, and
a day of two shifts after a day off. -/
theorem packed_calendars_unpack_week :
    let patterns : List PatternEntry :=
      [⟨"1", "10", "x", "20240108", "20240131 0"⟩, ⟨"2", " 11", "y", "20240201", "0"⟩]
    let exceptions : List ExceptionEntry := [⟨"2460670 0", "2460671 0", "1"⟩]
    let week : List ShiftDay :=
      [⟨"1", "0", "0", []⟩, ⟨"2", "0", "2", [⟨"8", "80000", "120000"⟩, ⟨"8", "130000", "0"⟩]⟩]
    Unseparated "0" ∧ (∀ e ∈ patterns, e.Readable) ∧ (∀ e ∈ exceptions, e.Readable) ∧
      (∀ d ∈ week, d.Readable) ∧
      (∃ rows, workPatternAssignmentRows 7 (pack ("0" :: patterns.flatMap PatternEntry.fields)) =
          .ok rows ∧ List.Forall₂ (PatternEntry.Gives 7) patterns rows) ∧
      (∃ rows, exceptionAssignmentRows 7 (pack ("0" :: exceptions.flatMap ExceptionEntry.fields)) =
          .ok rows ∧ List.Forall₂ (ExceptionEntry.Gives 7) exceptions rows) ∧
      ∃ rows, timeEntryRows 7 (pack ("0" :: week.flatMap ShiftDay.fields)) = .ok rows ∧
        List.Forall₂ (Shift.Gives 7) (week.flatMap ShiftDay.shifts) rows := by
  intro patterns exceptions week
  have hheader : Unseparated "0" := by decide
  have hpatterns : ∀ e ∈ patterns, e.Readable := by decide
  have hexceptions : ∀ e ∈ exceptions, e.Readable := by decide
  have hweek : ∀ d ∈ week, d.Readable := by decide
  obtain ⟨hp, he, hd, -⟩ := packed_calendars_unpack 7 "0" hheader
  exact ⟨hheader, hpatterns, hexceptions, hweek, hp patterns hpatterns, he exceptions hexceptions,
    hd week hweek⟩

end Schedule.Packed
