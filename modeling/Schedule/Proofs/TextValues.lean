import Schedule.Proofs.PrintedStamps

/-!
# Typed reads of printed values

A source may deliver a field as text: the text of a value is its display text (`Value.display`),
and every typed read of a text value parses it. This module compares, for each kind of value, the
four typed reads of the value (`asInteger?`, `asDouble?`, `asStamp?`, `asClock?`) with those of its
display text.

An integer and a stamp of the calendar read the same both ways. A flag reads the same except as a
double: its text `true` or `false` is no number. A time of day reads the same except as a time when
it has a fraction of a second: `HH:MM:SS` takes no fraction, and no stamp pattern takes a time
alone.

## Main statements

* `display_text_typed_reads` — the four reads compared, kind by kind.
* `readFloat?_toString` — the text of a 32-bit integer reads as its double.
* `textStamp?_eq_none`, `readClock?_colonTime_eq_none` — texts without the separators a pattern
  needs are not read by it.
-/

namespace Schedule

open Schedule.Number

section Trim

/-- A text that starts without blanks and ends with a digit is its own trimmed form. -/
theorem trim_eq_self {s : String} {pre ds : List Char}
    (hfirst : Text.dropBlanks s.toList = s.toList) (hs : s.toList = pre ++ ds) (hds : IsDigits ds)
    (hne : ds ≠ []) : Text.trim s = s := by
  have hrev : IsDigits ds.reverse := fun c hc => hds c (List.mem_reverse.mp hc)
  have hlast : Text.dropBlanks s.toList.reverse = s.toList.reverse := by
    rw [hs, List.reverse_append]
    exact Pattern.dropBlanks_digits _ hrev (by simpa using hne)
  rw [Text.trim, hfirst, hlast, List.reverse_reverse, String.ofList_toList]

end Trim

section Numbers

theorem toLower_of_isDigit {c : Char} (h : isDigit c = true) : c.toLower = c := by
  have hc := (isDigit_iff c).mp h
  unfold Char.toLower
  rw [dif_neg]
  simp only [ge_iff_le, UInt32.le_iff_toNat_le, not_and, not_le]
  intro hA
  exact absurd hA (by change ¬(65 ≤ c.toNat); omega)

/-- A word that starts with a digit names no special value. -/
theorem specialValue?_of_isDigit {neg : Bool} {w : String} {c : Char} {rest : List Char}
    (hw : w.toList = c :: rest) (hc : isDigit c = true) : specialValue? neg w = none := by
  have hne : ∀ v : String, (∃ r, v.toList = 'i' :: r ∨ v.toList = 'n' :: r) → w ≠ v := by
    rintro v ⟨r, hv | hv⟩ rfl <;> rw [hw] at hv <;> cases hv <;> exact absurd hc (by decide)
  have hinf : w ≠ "inf" := hne _ ⟨['n', 'f'], .inl rfl⟩
  have hinfinity : w ≠ "infinity" := hne _ ⟨"nfinity".toList, .inl rfl⟩
  have hnan : w ≠ "nan" := hne _ ⟨['a', 'n'], .inr rfl⟩
  simp [specialValue?, hinf, hinfinity, hnan]

theorem map_toLower_of_isDigits {ds : List Char} (h : IsDigits ds) (rest : List Char) :
    (ds ++ rest).map Char.toLower = ds ++ rest.map Char.toLower := by
  rw [List.map_append]
  congr 1
  conv_rhs => rw [← List.map_id ds]
  exact List.map_congr_left fun c hc => toLower_of_isDigit (h c hc)

/-- A number whose body starts with a digit is read as a decimal. -/
theorem readFloat?_of_digit {s : String} {neg : Bool} {ds rest : List Char}
    (hs : splitSign s.toList = (neg, ds ++ rest)) (hds : IsDigits ds) (hne : ds ≠ []) :
    readFloat? s = (readUnsignedDecimal? neg (ds ++ rest)).map Decimal.toFloat := by
  obtain ⟨c, cs, rfl⟩ := List.exists_cons_of_ne_nil hne
  have hc : isDigit c = true := hds c (by simp)
  have hword : (String.ofList ((c :: cs ++ rest).map Char.toLower)).toList =
      c :: (cs ++ rest.map Char.toLower) := by
    rw [String.toList_ofList, map_toLower_of_isDigits hds]
    rfl
  simp only [readFloat?, hs, specialValue?_of_isDigit hword hc]

theorem readUnsignedDecimal?_digits {neg : Bool} {ds : List Char} (hds : IsDigits ds)
    (hne : ds ≠ []) :
    readUnsignedDecimal? neg ds =
      some { negative := neg, digits := digitsValue ds, exponent := 0 } := by
  have htake : ds.takeWhile isDigit = ds := List.takeWhile_eq_self_iff.mpr hds
  have hdrop : ds.dropWhile isDigit = [] := List.dropWhile_eq_nil_iff.mpr hds
  simp [readUnsignedDecimal?, htake, hdrop, hne]

/-- Digits stopped by a character that neither continues a number nor starts its fraction or
exponent are no number. -/
theorem readUnsignedDecimal?_stop {neg : Bool} {ds : List Char} {c : Char} (rest : List Char)
    (hds : IsDigits ds) (hc : isDigit c = false) (hdot : c ≠ '.') (he : c ≠ 'e') (hE : c ≠ 'E') :
    readUnsignedDecimal? neg (ds ++ c :: rest) = none := by
  have htake := Pattern.takeWhile_isDigit_append rest hds hc
  have hdrop : (ds ++ c :: rest).dropWhile isDigit = c :: rest := by
    rw [List.dropWhile_append_of_pos hds, List.dropWhile_cons_of_neg (by simp [hc])]
  simp only [readUnsignedDecimal?, htake, hdrop]
  split
  · simp_all
  · simp [he, hE]

/-- The text of a 32-bit integer reads as its double. -/
theorem readFloat?_toString (n : Int32) :
    readFloat? (toString n.toInt) = some (int32ToFloat n) := by
  have hds := isDigits_toDigits n.toInt.natAbs
  have hne : Nat.toDigits 10 n.toInt.natAbs ≠ [] := Nat.toDigits_ne_nil
  have hs : splitSign (toString n.toInt).toList =
      (decide (n.toInt < 0), Nat.toDigits 10 n.toInt.natAbs ++ []) := by
    rw [splitSign_toString, List.append_nil]
  rw [readFloat?_of_digit hs hds hne, List.append_nil, readUnsignedDecimal?_digits hds hne,
    digitsValue_toDigits]
  rfl

/-- A text whose body is digits stopped by a separator is no number. -/
theorem readFloat?_eq_none {s : String} {neg : Bool} {ds : List Char} {c : Char} {rest : List Char}
    (hs : splitSign s.toList = (neg, ds ++ c :: rest)) (hds : IsDigits ds) (hne : ds ≠ [])
    (hc : isDigit c = false) (hdot : c ≠ '.') (he : c ≠ 'e') (hE : c ≠ 'E') :
    readFloat? s = none := by
  rw [readFloat?_of_digit hs hds hne, readUnsignedDecimal?_stop rest hds hc hdot he hE,
    Option.map_none]

theorem mem_splitSign_of_mem_tail {l : List Char} {c : Char} (h : c ∈ l.tail) :
    c ∈ (splitSign l).2 := by
  match l, h with
  | '-' :: rest, h => exact h
  | '+' :: rest, h => exact h
  | d :: rest, h =>
    unfold splitSign
    split <;> simp_all

/-- A text with a character other than a digit after its sign is no integer. -/
theorem readInt?_eq_none {lo hi : Int} {s : String} {c : Char} (hc : c ∈ s.toList.tail)
    (hnd : isDigit c = false) : readInt? lo hi s = none := by
  have hall : (splitSign s.toList).2.all isDigit = false :=
    List.all_eq_false.mpr ⟨c, mem_splitSign_of_mem_tail hc, by simp [hnd]⟩
  simp [readInt?, hall]

/-- A text of six characters or more that is no integer and no number reads as no whole
number: it is too long for `true` or `false`. -/
theorem textInteger?_eq_none {s : String} (hint : readInt32? s = none)
    (hfloat : readFloat? s = none) (hlen : 6 ≤ s.toList.length) : Value.textInteger? s = none := by
  have hlower : ∀ w : String, w.toList.length < 6 →
      String.ofList (s.toList.map Char.toLower) ≠ w := by
    intro w hw he
    have := congrArg (fun v : String => v.toList.length) he
    simp only [String.toList_ofList, List.length_map] at this
    omega
  simp [Value.textInteger?, hint, hfloat, hlower "true" (by decide), hlower "false" (by decide)]

end Numbers

section Patterns

theorem mem_tail_of_mem_dropWhile_tail {p : Char → Bool} {cs : List Char} {c : Char}
    (h : c ∈ (cs.dropWhile p).tail) : c ∈ cs.tail := by
  cases cs with
  | nil => simp at h
  | cons a l =>
    rw [List.dropWhile_cons] at h
    split at h
    · exact (List.dropWhile_suffix p).mem (List.mem_of_mem_tail h)
    · exact h

theorem mem_tail_of_readDigits {w : Nat} {cs rest : List Char} {v : Nat}
    (h : Pattern.readDigits w cs = some (v, rest)) {c : Char} (hc : c ∈ rest) : c ∈ cs.tail := by
  simp only [Pattern.readDigits] at h
  split at h
  · cases h
  · obtain ⟨-, rfl⟩ := Prod.mk.inj (Option.some.inj h)
    rename_i hne
    -- at least one digit is read, so what is left starts past the first character
    obtain ⟨d, ds, hds⟩ := List.exists_cons_of_ne_nil fun e => hne (List.isEmpty_iff.mpr e)
    rw [hds, List.length_cons, ← List.drop_tail] at hc
    exact List.mem_of_mem_drop hc

theorem mem_tail_of_readBounded {lo hi w : Nat} {cs rest : List Char} {v : Nat}
    (h : Pattern.readBounded lo hi w cs = some (v, rest)) {c : Char} (hc : c ∈ rest) :
    c ∈ cs.tail := by
  simp only [Pattern.readBounded] at h
  split at h
  · rename_i hread
    split at h
    · obtain ⟨-, rfl⟩ := Prod.mk.inj (Option.some.inj h)
      exact mem_tail_of_mem_dropWhile_tail (mem_tail_of_readDigits hread hc)
    · cases h
  · cases h

theorem mem_tail_of_readYear {cs rest : List Char} {v : Int}
    (h : Pattern.readYear cs = some (v, rest)) {c : Char} (hc : c ∈ rest) : c ∈ cs.tail := by
  unfold Pattern.readYear at h
  split at h
  · dsimp only at h
    split at h
    · cases h
    · obtain ⟨-, rfl⟩ := Prod.mk.inj (Option.some.inj h)
      exact List.mem_of_mem_drop hc
  · dsimp only at h
    split at h
    · cases h
    · obtain ⟨-, rfl⟩ := Prod.mk.inj (Option.some.inj h)
      exact List.mem_of_mem_drop hc
  · obtain ⟨⟨v', r⟩, hread, he⟩ := Option.map_eq_some_iff.mp h
    obtain ⟨-, rfl⟩ := Prod.mk.inj he
    exact mem_tail_of_readDigits hread hc

/-- A pattern that starts with a number and a separator fails on a text that has no such
separator after its first character: the number leaves part of the rest, without the separator. -/
theorem go_literal_eq_none {item : PatternItem} {ch : Char} {items : Pattern} {f : PatternFields}
    {cs : List Char}
    (hitem : ∀ f' rest, Pattern.step f cs item = some (f', rest) → ∀ c ∈ rest, c ∈ cs.tail)
    (hch : ch ∉ cs.tail) : Pattern.fields?.go (item :: .literal ch :: items) f cs = none := by
  rw [Pattern.fields?.go]
  split
  · rename_i f' rest hstep
    rw [Pattern.fields?.go]
    cases rest with
    | nil => rfl
    | cons d r =>
      have hd : d ≠ ch := fun e => hch (e ▸ hitem f' _ hstep d (by simp))
      simp [Pattern.step, Ne.symm hd]
  · rfl

theorem step_year_rest {f f' : PatternFields} {cs rest : List Char}
    (h : Pattern.step f cs .year = some (f', rest)) : ∀ c ∈ rest, c ∈ cs.tail := by
  intro c hc
  simp only [Pattern.step] at h
  split at h
  · rename_i v r hread
    split at h
    · obtain ⟨-, rfl⟩ := Prod.mk.inj (Option.some.inj h)
      exact mem_tail_of_mem_dropWhile_tail (mem_tail_of_readYear hread hc)
    · cases h
  · cases h

theorem step_bounded_rest {f f' : PatternFields} {cs rest : List Char} {item : PatternItem}
    (hitem : item = .month ∨ item = .hour) (h : Pattern.step f cs item = some (f', rest)) :
    ∀ c ∈ rest, c ∈ cs.tail := by
  intro c hc
  rcases hitem with rfl | rfl <;>
  · obtain ⟨⟨v, r⟩, hread, he⟩ := Option.map_eq_some_iff.mp h
    obtain ⟨-, rfl⟩ := Prod.mk.inj he
    exact mem_tail_of_readBounded hread hc

/-- No stamp pattern reads a text without `-` and `/` after its first character. -/
theorem textStamp?_eq_none {s : String} (hdash : '-' ∉ s.toList.tail)
    (hslash : '/' ∉ s.toList.tail) : Value.textStamp? s = none := by
  have hyear : ∀ items : Pattern,
      Pattern.fields?.go (.year :: .literal '-' :: items) {} s.toList = none :=
    fun _ => go_literal_eq_none (fun _ _ => step_year_rest) hdash
  have hmonth : ∀ items : Pattern,
      Pattern.fields?.go (.month :: .literal '/' :: items) {} s.toList = none :=
    fun _ => go_literal_eq_none (fun _ _ => step_bounded_rest (.inl rfl)) hslash
  simp [Value.textStamp?, Value.stampPatterns, Pattern.readStamp?, Pattern.readDate?,
    Pattern.fields?, Pattern.spaced, Pattern.spacedFraction, Pattern.iso, Pattern.slashed,
    Pattern.isoDate, hyear, hmonth]

/-- `HH:MM:SS` reads no text without `:` after its first character. -/
theorem readClock?_colonTime_eq_none {s : String} (hcolon : ':' ∉ s.toList.tail) :
    Pattern.readClock? Pattern.colonTime s = none := by
  have hgo : Pattern.fields?.go Pattern.colonTime {} s.toList = none :=
    go_literal_eq_none (fun _ _ => step_bounded_rest (.inr rfl)) hcolon
  simp [Pattern.readClock?, Pattern.fields?, hgo]

end Patterns

section Integer

theorem isDigits_toString_tail (n : Int) : IsDigits (toString n).toList.tail := by
  rw [toString_int_toList]
  have hds := isDigits_toDigits n.natAbs
  split
  · simpa using hds
  · rw [List.nil_append]
    exact fun c hc => hds c (List.mem_of_mem_tail hc)

theorem not_mem_toString_tail {n : Int} {c : Char} (hc : isDigit c = false) :
    c ∉ (toString n).toList.tail :=
  fun h => absurd (isDigits_toString_tail n c h) (by simp [hc])

theorem trim_toString (n : Int) : Text.trim (toString n) = toString n := by
  have hds := isDigits_toDigits n.natAbs
  have hne : Nat.toDigits 10 n.natAbs ≠ [] := Nat.toDigits_ne_nil
  obtain ⟨c, cs, hcs⟩ := List.exists_cons_of_ne_nil hne
  have hc := hds.head_of_eq_cons hcs
  have hfirst : Text.dropBlanks (toString n).toList = (toString n).toList := by
    rw [toString_int_toList]
    split
    · exact dropBlanks_cons_of_not_blank _ (by decide)
    · rw [List.nil_append, hcs]
      exact dropBlanks_cons_of_not_blank _ (Pattern.isBlank_of_isDigit hc)
  exact trim_eq_self hfirst (toString_int_toList n) hds hne

/-- An integer reads the same as its text: the text is read back as the integer, is a number of
the same double, and is no stamp and no time. -/
theorem integer_text_reads (n : Int32) :
    (Value.text (Value.integer n).display).asInteger? = (Value.integer n).asInteger? ∧
      (Value.text (Value.integer n).display).asDouble? = (Value.integer n).asDouble? ∧
      (Value.text (Value.integer n).display).asStamp? = (Value.integer n).asStamp? ∧
      (Value.text (Value.integer n).display).asClock? = (Value.integer n).asClock? := by
  have hstamp : Value.textStamp? (toString n.toInt) = none :=
    textStamp?_eq_none (not_mem_toString_tail (by decide)) (not_mem_toString_tail (by decide))
  have hclock : Pattern.readClock? Pattern.colonTime (toString n.toInt) = none :=
    readClock?_colonTime_eq_none (not_mem_toString_tail (by decide))
  simp only [Value.display, Value.asInteger?, Value.asDouble?, Value.asStamp?,
    Value.asClock?.eq_def, trim_toString, Value.textInteger?, readInt32?_toString, readFloat?_toString, hstamp, hclock,
    Option.map_none, and_self]

end Integer

section Time

theorem mem_tail_append {l m : List Char} {c : Char} (hl : l ≠ []) (h : c ∈ m) :
    c ∈ (l ++ m).tail := by
  obtain ⟨a, as, rfl⟩ := List.exists_cons_of_ne_nil hl
  simp [h]

/-- The fraction of a second prints as nothing, or as a point and digits. -/
theorem fractionText_shape (x : Nat) :
    (fractionText x).toList = [] ∨
      ∃ ds, (fractionText x).toList = '.' :: ds ∧ IsDigits ds ∧ ds ≠ [] := by
  have hpoint : ∀ k v : Nat, ("." ++ padNat k v).toList = '.' :: (padNat k v).toList := by
    intro k v
    simp
  unfold fractionText
  split_ifs
  · exact .inl rfl
  · exact .inr ⟨_, hpoint 3 _, isDigits_padNat _ _, padNat_toList_ne_nil _ _⟩
  · exact .inr ⟨_, hpoint 6 _, isDigits_padNat _ _, padNat_toList_ne_nil _ _⟩
  · exact .inr ⟨_, hpoint 9 _, isDigits_padNat _ _, padNat_toList_ne_nil _ _⟩

/-- A printed time is made of digits, colons and a point. -/
theorem Clock.text_chars (c : Clock) :
    ∀ x ∈ c.text.toList, isDigit x = true ∨ x = ':' ∨ x = '.' := by
  intro x hx
  have hpad : ∀ {w v : Nat}, x ∈ (padNat w v).toList → isDigit x = true :=
    fun h => isDigits_padNat _ _ x h
  rw [Clock.text_toList] at hx
  simp only [List.mem_append, List.mem_cons] at hx
  rcases hx with (((h | h | h) | h | h) | h)
  · exact .inl (hpad h)
  · exact .inr (.inl h)
  · exact .inl (hpad h)
  · exact .inr (.inl h)
  · exact .inl (hpad h)
  · rcases fractionText_shape c.fraction with hf | ⟨ds, hf, hds, -⟩
    · rw [hf] at h
      cases h
    · rw [hf, List.mem_cons] at h
      rcases h with h | h
      · exact .inr (.inr h)
      · exact .inl (hds x h)

/-- A printed time ends with a digit. -/
theorem Clock.text_ends (c : Clock) :
    ∃ pre ds, c.text.toList = pre ++ ds ∧ IsDigits ds ∧ ds ≠ [] := by
  rw [Clock.text_toList]
  rcases fractionText_shape c.fraction with hf | ⟨ds, hf, hds, hne⟩
  · rw [hf, List.append_nil]
    exact ⟨(padNat 2 c.hms.1).toList ++ ':' :: (padNat 2 c.hms.2.1).toList ++ [':'],
      (padNat 2 c.hms.2.2).toList, by simp, isDigits_padNat _ _, padNat_toList_ne_nil _ _⟩
  · rw [hf]
    refine ⟨(padNat 2 c.hms.1).toList ++ ':' :: (padNat 2 c.hms.2.1).toList ++
      ':' :: (padNat 2 c.hms.2.2).toList ++ ['.'], ds, ?_, hds, hne⟩
    simp

theorem Clock.text_first (c : Clock) :
    ∃ d rest, c.text.toList = d :: rest ∧ isDigit d = true := by
  obtain ⟨d, ds, hds⟩ := List.exists_cons_of_ne_nil (padNat_toList_ne_nil 2 c.hms.1)
  have hd : d ∈ (padNat 2 c.hms.1).toList := by
    rw [hds]
    exact List.mem_cons_self
  refine ⟨d, ds ++ ':' :: (padNat 2 c.hms.2.1).toList ++ ':' :: (padNat 2 c.hms.2.2).toList ++
    (fractionText c.fraction).toList, ?_, isDigits_padNat 2 _ d hd⟩
  rw [Clock.text_toList, hds]
  simp

theorem trim_clockText (c : Clock) : Text.trim c.text = c.text := by
  obtain ⟨d, rest, hfirst, hd⟩ := Clock.text_first c
  obtain ⟨pre, ds, hs, hds, hne⟩ := Clock.text_ends c
  refine trim_eq_self ?_ hs hds hne
  rw [hfirst]
  exact dropBlanks_cons_of_not_blank _ (Pattern.isBlank_of_isDigit hd)

theorem Clock.length_text (c : Clock) : 8 ≤ c.text.toList.length := by
  obtain ⟨hh, hm, hs⟩ := Clock.hms_bounds c
  rw [Clock.text_toList]
  simp [length_padNat (show 0 < 2 by decide) (show c.hms.1 < 10 ^ 2 by omega),
    length_padNat (show 0 < 2 by decide) (show c.hms.2.1 < 10 ^ 2 by omega),
    length_padNat (show 0 < 2 by decide) (show c.hms.2.2 < 10 ^ 2 by omega)]
  omega

/-- A printed time is no whole number and no number. -/
theorem clockText_numbers (c : Clock) :
    Value.textInteger? c.text = none ∧ readFloat? c.text = none := by
  have hcolon : ':' ∈ c.text.toList.tail := by
    rw [Clock.text_toList]
    simp only [List.append_assoc, List.cons_append]
    exact mem_tail_append (padNat_toList_ne_nil 2 _) (by simp)
  have hsign : splitSign c.text.toList =
      (false, (padNat 2 c.hms.1).toList ++ ':' :: ((padNat 2 c.hms.2.1).toList ++
        ':' :: (padNat 2 c.hms.2.2).toList ++ (fractionText c.fraction).toList)) := by
    obtain ⟨d, rest, hfirst, hd⟩ := Clock.text_first c
    rw [hfirst, splitSign_of_isDigit _ hd, ← hfirst, Clock.text_toList]
    simp
  have hfloat : readFloat? c.text = none :=
    readFloat?_eq_none hsign (isDigits_padNat 2 _) (padNat_toList_ne_nil 2 _) (by decide)
      (by decide) (by decide) (by decide)
  exact ⟨textInteger?_eq_none (by simp [readInt32?, readInt?_eq_none hcolon (by decide)]) hfloat
    (by have := Clock.length_text c; omega), hfloat⟩

/-- A time of day reads the same as its text as a whole number, a double and a stamp (none of
them), and as a time exactly when it has no fraction of a second. -/
theorem clock_text_reads (c : Clock) :
    (Value.text (Value.clock c).display).asInteger? = (Value.clock c).asInteger? ∧
      (Value.text (Value.clock c).display).asDouble? = (Value.clock c).asDouble? ∧
      (Value.text (Value.clock c).display).asStamp? = (Value.clock c).asStamp? ∧
      ((Value.text (Value.clock c).display).asClock? = (Value.clock c).asClock? ↔
        c.fraction = 0) := by
  obtain ⟨hint, hfloat⟩ := clockText_numbers c
  have hno : ∀ x ∈ c.text.toList, x ≠ '-' ∧ x ≠ '/' := by
    intro x hx
    rcases Clock.text_chars c x hx with h | rfl | rfl
    · exact ⟨fun e => absurd h (by rw [e]; decide), fun e => absurd h (by rw [e]; decide)⟩
    all_goals exact ⟨by decide, by decide⟩
  have hstamp : Value.textStamp? c.text = none :=
    textStamp?_eq_none (fun h => (hno _ (List.mem_of_mem_tail h)).1 rfl)
      (fun h => (hno _ (List.mem_of_mem_tail h)).2 rfl)
  refine ⟨?_, ?_, ?_, ?_⟩
  · simp only [Value.display, Value.asInteger?, trim_clockText, hint]
  · simp only [Value.display, Value.asDouble?, trim_clockText, hfloat]
  · simp only [Value.display, Value.asStamp?, trim_clockText, hstamp]
  · by_cases hf : c.fraction = 0
    · simp [Value.display, Value.asClock?.eq_def, trim_clockText, readClock?_colonTime_text hf,
        hf]
    · simp [Value.display, Value.asClock?.eq_def, trim_clockText,
        readClock?_colonTime_text_of_fraction hf, hstamp, hf]

end Time

section Stamp

/-- A pattern that starts with the hour fails on a text whose first three characters are digits:
the hour takes two and the third stands where the colon should. -/
theorem go_colonTime_of_digits {f : PatternFields} {a b c : Char} (rest : List Char)
    (hab : IsDigits [a, b]) (hc : isDigit c = true) :
    Pattern.fields?.go Pattern.colonTime f (a :: b :: c :: rest) = none := by
  have hread : Pattern.readBounded 0 23 2 ([a, b] ++ c :: rest) =
      if 0 ≤ digitsValue [a, b] ∧ digitsValue [a, b] ≤ 23 then some (digitsValue [a, b], c :: rest)
      else none := by
    rw [Pattern.readBounded, Pattern.dropBlanks_digits _ hab (by simp),
      Pattern.readDigits_append (w := 2) _ hab (by simp) rfl]
  have hcolon : c ≠ ':' := fun e => absurd hc (by rw [e]; decide)
  simp only [List.cons_append, List.nil_append] at hread
  simp only [Pattern.colonTime, Pattern.fields?.go, Pattern.step, hread]
  split_ifs <;> simp [Ne.symm hcolon]

/-- A pattern that starts with the hour fails on a text that starts with a sign. -/
theorem go_colonTime_of_sign {f : PatternFields} {s : Char} (rest : List Char)
    (hs : isDigit s = false) (hb : Text.isBlank s = false) :
    Pattern.fields?.go Pattern.colonTime f (s :: rest) = none := by
  have hread : Pattern.readBounded 0 23 2 (s :: rest) = none := by
    simp [Pattern.readBounded, dropBlanks_cons_of_not_blank _ hb, Pattern.readDigits, hs]
  simp [Pattern.colonTime, Pattern.fields?.go, Pattern.step, hread]

theorem exists_four_of_length {l : List Char} (h : l.length = 4) : ∃ a b c d, l = [a, b, c, d] :=
  match l, h with
  | [a, b, c, d], _ => ⟨a, b, c, d, rfl⟩

/-- `HH:MM:SS` reads no printed stamp: a year of four digits leaves its third digit where the
colon should be, and any other year starts with a sign. -/
theorem readClock?_colonTime_display (t : Stamp) :
    Pattern.readClock? Pattern.colonTime t.display = none := by
  have hgo : Pattern.fields?.go Pattern.colonTime {} t.display.toList = none := by
    rw [Stamp.display_toList, Date.text_toList, yearText_toList]
    split_ifs with hy hneg
    · have hlen := length_padNat (show 0 < 4 by decide)
        (show t.date.ymd.1.toNat < 10 ^ 4 by omega)
      have hds := isDigits_padNat 4 t.date.ymd.1.toNat
      obtain ⟨a, b, c, d, hp⟩ := exists_four_of_length hlen
      rw [hp] at hds ⊢
      simp only [isDigits_cons, isDigits_nil, and_true] at hds
      simp only [List.cons_append, List.nil_append]
      exact go_colonTime_of_digits _ (by simp [hds.1, hds.2.1]) hds.2.2.1
    · exact go_colonTime_of_sign _ (by decide) (by decide)
    · exact go_colonTime_of_sign _ (by decide) (by decide)
  simp [Pattern.readClock?, Pattern.fields?, hgo]

/-- The display text of a stamp starts with its year and ends with a digit of its time. -/
theorem trim_display (t : Stamp) : Text.trim t.display = t.display := by
  obtain ⟨pre, ds, hs, hds, hne⟩ := Clock.text_ends t.clock
  have hsplit : t.display.toList = (t.date.text.toList ++ ' ' :: pre) ++ ds := by
    rw [Stamp.display_toList, hs]
    simp
  refine trim_eq_self ?_ hsplit hds hne
  rw [Stamp.display_toList, Date.text_toList]
  simp only [List.append_assoc, List.cons_append]
  exact dropBlanks_yearText _ _

/-- A printed stamp is no whole number and no number: its year is stopped by a dash, and a blank
stands inside it. -/
theorem display_numbers (t : Stamp) :
    Value.textInteger? t.display = none ∧ readFloat? t.display = none := by
  have hblank : ' ' ∈ t.display.toList.tail := by
    rw [Stamp.display_toList, Date.text_toList]
    have hne : (yearText t.date.ymd.1).toList ≠ [] := by
      rw [yearText_toList]
      split_ifs
      · exact padNat_toList_ne_nil 4 _
      all_goals simp
    simp only [List.append_assoc, List.cons_append]
    exact mem_tail_append hne (by simp)
  have hsign : ∃ neg ds rest, splitSign t.display.toList = (neg, ds ++ '-' :: rest) ∧
      IsDigits ds ∧ ds ≠ [] := by
    rw [Stamp.display_toList, Date.text_toList, yearText_toList]
    simp only [List.append_assoc, List.cons_append]
    generalize (padNat 2 t.date.ymd.2.1).toList ++ '-' :: ((padNat 2 t.date.ymd.2.2).toList ++
      ' ' :: t.clock.text.toList) = rest
    split_ifs with hy hneg
    · obtain ⟨d, ds, hds⟩ := List.exists_cons_of_ne_nil (padNat_toList_ne_nil 4 t.date.ymd.1.toNat)
      have hd : isDigit d = true := isDigits_padNat 4 _ d (by rw [hds]; exact List.mem_cons_self)
      refine ⟨false, (padNat 4 t.date.ymd.1.toNat).toList, rest, ?_, isDigits_padNat 4 _,
        padNat_toList_ne_nil 4 _⟩
      rw [hds, List.cons_append, splitSign_of_isDigit _ hd]
    · exact ⟨true, (padNat 4 t.date.ymd.1.natAbs).toList, rest, rfl, isDigits_padNat 4 _,
        padNat_toList_ne_nil 4 _⟩
    · exact ⟨false, (padNat 4 t.date.ymd.1.natAbs).toList, rest, rfl, isDigits_padNat 4 _,
        padNat_toList_ne_nil 4 _⟩
  obtain ⟨neg, ds, rest, hs, hds, hne⟩ := hsign
  have hfloat : readFloat? t.display = none :=
    readFloat?_eq_none hs hds hne (by decide) (by decide) (by decide) (by decide)
  have hlen : 6 ≤ t.display.toList.length := by
    have := Clock.length_text t.clock
    rw [Stamp.display_toList, List.length_append, List.length_cons]
    omega
  exact ⟨textInteger?_eq_none (by simp [readInt32?, readInt?_eq_none hblank (by decide)]) hfloat
    hlen, hfloat⟩

/-- A stamp of the calendar reads the same as its display text: the text is read back as the
stamp, and as a time it gives the stamp's time. -/
theorem stamp_text_reads {t : Stamp} (ht : t.Valid) :
    (Value.text (Value.stamp t).display).asInteger? = (Value.stamp t).asInteger? ∧
      (Value.text (Value.stamp t).display).asDouble? = (Value.stamp t).asDouble? ∧
      (Value.text (Value.stamp t).display).asStamp? = (Value.stamp t).asStamp? ∧
      (Value.text (Value.stamp t).display).asClock? = (Value.stamp t).asClock? := by
  obtain ⟨hint, hfloat⟩ := display_numbers t
  simp only [Value.display, Value.asInteger?, Value.asDouble?, Value.asStamp?,
    Value.asClock?.eq_def, trim_display, hint, hfloat, textStamp?_display ht, readClock?_colonTime_display,
    Option.map_some, and_self]

end Stamp

/-- A flag reads the same as its text `true` or `false` as a whole number, a stamp and a time, but
the text is no double. -/
theorem flag_text_reads (b : Bool) :
    (Value.text (Value.boolean b).display).asInteger? = (Value.boolean b).asInteger? ∧
      (Value.text (Value.boolean b).display).asStamp? = (Value.boolean b).asStamp? ∧
      (Value.text (Value.boolean b).display).asClock? = (Value.boolean b).asClock? ∧
      (Value.text (Value.boolean b).display).asDouble? = none ∧
      (Value.boolean b).asDouble?.isSome := by
  cases b
  · exact ⟨by decide, by decide, by decide, rfl, rfl⟩
  · exact ⟨by decide, by decide, by decide, rfl, rfl⟩

/-- The typed reads of a value and of its display text. They agree for an integer and for a stamp
of the calendar. For a flag they agree except as a double: the text is no number. For a time of day
they agree except as a time, which the text gives back exactly when the time has no fraction of a
second. -/
theorem display_text_typed_reads :
    (∀ n : Int32,
      (Value.text (Value.integer n).display).asInteger? = (Value.integer n).asInteger? ∧
      (Value.text (Value.integer n).display).asDouble? = (Value.integer n).asDouble? ∧
      (Value.text (Value.integer n).display).asStamp? = (Value.integer n).asStamp? ∧
      (Value.text (Value.integer n).display).asClock? = (Value.integer n).asClock?) ∧
    (∀ t : Stamp, t.Valid →
      (Value.text (Value.stamp t).display).asInteger? = (Value.stamp t).asInteger? ∧
      (Value.text (Value.stamp t).display).asDouble? = (Value.stamp t).asDouble? ∧
      (Value.text (Value.stamp t).display).asStamp? = (Value.stamp t).asStamp? ∧
      (Value.text (Value.stamp t).display).asClock? = (Value.stamp t).asClock?) ∧
    (∀ b : Bool,
      (Value.text (Value.boolean b).display).asInteger? = (Value.boolean b).asInteger? ∧
      (Value.text (Value.boolean b).display).asStamp? = (Value.boolean b).asStamp? ∧
      (Value.text (Value.boolean b).display).asClock? = (Value.boolean b).asClock? ∧
      (Value.text (Value.boolean b).display).asDouble? = none ∧
      (Value.boolean b).asDouble?.isSome) ∧
    (∀ c : Clock,
      (Value.text (Value.clock c).display).asInteger? = (Value.clock c).asInteger? ∧
      (Value.text (Value.clock c).display).asDouble? = (Value.clock c).asDouble? ∧
      (Value.text (Value.clock c).display).asStamp? = (Value.clock c).asStamp? ∧
      ((Value.text (Value.clock c).display).asClock? = (Value.clock c).asClock? ↔
        c.fraction = 0)) :=
  ⟨integer_text_reads, fun _ ht => stamp_text_reads ht, flag_text_reads, clock_text_reads⟩

/-- The leap second ending 2024-01-08, half a second in, reads the same as its text
`2024-01-08 23:59:60.500`; eight o'clock reads back as a time from `08:00:00`. -/
theorem leap_second_reads_as_text :
    Stamp.Valid ⟨⟨19730⟩, { seconds := 86399, nanos := 1500000000 }⟩ ∧
      ((Value.text
          (Value.stamp ⟨⟨19730⟩, { seconds := 86399, nanos := 1500000000 }⟩).display).asInteger? =
          (Value.stamp ⟨⟨19730⟩, { seconds := 86399, nanos := 1500000000 }⟩).asInteger? ∧
        (Value.text
          (Value.stamp ⟨⟨19730⟩, { seconds := 86399, nanos := 1500000000 }⟩).display).asDouble? =
          (Value.stamp ⟨⟨19730⟩, { seconds := 86399, nanos := 1500000000 }⟩).asDouble? ∧
        (Value.text
          (Value.stamp ⟨⟨19730⟩, { seconds := 86399, nanos := 1500000000 }⟩).display).asStamp? =
          (Value.stamp ⟨⟨19730⟩, { seconds := 86399, nanos := 1500000000 }⟩).asStamp? ∧
        (Value.text
          (Value.stamp ⟨⟨19730⟩, { seconds := 86399, nanos := 1500000000 }⟩).display).asClock? =
          (Value.stamp ⟨⟨19730⟩, { seconds := 86399, nanos := 1500000000 }⟩).asClock?) ∧
      ((Value.text (Value.clock (.ofSeconds 28800)).display).asInteger? =
          (Value.clock (.ofSeconds 28800)).asInteger? ∧
        (Value.text (Value.clock (.ofSeconds 28800)).display).asDouble? =
          (Value.clock (.ofSeconds 28800)).asDouble? ∧
        (Value.text (Value.clock (.ofSeconds 28800)).display).asStamp? =
          (Value.clock (.ofSeconds 28800)).asStamp? ∧
        ((Value.text (Value.clock (.ofSeconds 28800)).display).asClock? =
          (Value.clock (.ofSeconds 28800)).asClock? ↔ (Clock.ofSeconds 28800).fraction = 0)) := by
  have hstamp : Stamp.Valid ⟨⟨19730⟩, { seconds := 86399, nanos := 1500000000 }⟩ := ⟨by decide⟩
  exact ⟨hstamp, display_text_typed_reads.2.1 _ hstamp, display_text_typed_reads.2.2.2 _⟩

/-- The text `true` of a flag is no double, and the text `08:00:00.250` of a time with a fraction is
no time. -/
theorem flag_and_fraction_texts_read_apart :
    (Value.text (Value.boolean true).display).asDouble? = none ∧
      (Value.boolean true).asDouble? = some 1.0 ∧
      (Value.text (Value.clock { seconds := 28800, nanos := 250000000 }).display).asClock? = none ∧
      (Value.clock { seconds := 28800, nanos := 250000000 }).asClock? =
        some { seconds := 28800, nanos := 250000000 } :=
  ⟨rfl, rfl, by decide, rfl⟩

end Schedule
