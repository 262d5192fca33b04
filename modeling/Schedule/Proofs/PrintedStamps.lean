import Mathlib.Data.List.TakeWhile
import Schedule.Proofs.CivilDates
import Schedule.Proofs.PatternReading
import Schedule.Field.Value

/-!
# Printed dates and times read back

A date is printed `YYYY-MM-DD` (`Date.text`), a time `HH:MM:SS` with its fraction
(`Clock.text`), and a stamp as both with a blank between (`Stamp.display`). This module proves that
the patterns of the library read them back: the date part of every pattern that starts with the
date reads the printed date whatever the sign and length of its year; `Pattern.colonTime` reads a
printed time without a fraction; and a printed stamp is read by `Pattern.spaced` when its time has
no fraction and by `Pattern.spacedFraction` always, so `Value.textStamp?` reads every printed stamp
of the calendar.

## Main definitions

* `Stamp.Valid` — the stamps of the calendar: a date of the range and a time of day, which
  carries its own bounds.

## Main statements

* `Clock.ofHmsNano?_hms` — every time is rebuilt from its printed fields.
* `readClock?_colonTime_text` — a printed time without a fraction is read back.
* `textStamp?_display` — every valid stamp is read back from its display text.
-/

namespace Schedule

open Schedule.Number

/-- A stamp of the calendar: a date of the range. Its time of day is within the day by
construction. -/
structure Stamp.Valid (t : Stamp) : Prop where
  inRange : t.date.InRange

section Clock

theorem Clock.fraction_lt (c : Clock) : c.fraction < 1000000000 := by
  have := c.nanos_lt
  unfold Clock.fraction
  split <;> omega

theorem Clock.hms_bounds (c : Clock) :
    c.hms.1 ≤ 23 ∧ c.hms.2.1 ≤ 59 ∧ c.hms.2.2 ≤ 60 := by
  have := c.seconds_lt
  simp only [Clock.hms]
  split <;> omega

/-- A time is the time of its printed hour, minute, second and fraction; a leap second prints as
second 60 and is rebuilt as one. -/
theorem Clock.ofHmsNano?_hms (c : Clock) :
    Clock.ofHmsNano? c.hms.1 c.hms.2.1 c.hms.2.2 c.fraction = some c := by
  have hs := c.seconds_lt
  have hn := c.nanos_lt
  simp only [Clock.hms, Clock.fraction]
  by_cases hl : 1000000000 ≤ c.nanos
  · have h59 := c.leap hl
    rw [if_pos hl, if_pos hl, Clock.ofHmsNano?, dif_pos (by omega), dif_pos (by omega),
      Option.some.injEq, Clock.ext_iff]
    exact ⟨by dsimp only; omega, by dsimp only; omega⟩
  · rw [if_neg hl, if_neg hl, Clock.ofHmsNano?, dif_pos (by omega), dif_neg (by omega),
      Option.some.injEq, Clock.ext_iff]
    exact ⟨by dsimp only; omega, rfl⟩

end Clock

section Fraction

theorem readFraction_padNat {k v : Nat} (hk0 : 0 < k) (hk : k ≤ 9) (hv : v < 10 ^ k) :
    Pattern.readFraction (padNat k v).toList = some (v * 10 ^ (9 - k), []) := by
  have hdigits := isDigits_padNat k v
  have hlen := length_padNat hk0 hv
  have htake : (padNat k v).toList.takeWhile isDigit = (padNat k v).toList :=
    List.takeWhile_eq_self_iff.mpr hdigits
  have hne := padNat_toList_ne_nil k v
  have hdrop : (padNat k v).toList.drop k = [] := List.drop_eq_nil_of_le (by omega)
  have htake9 : (padNat k v).toList.take 9 = (padNat k v).toList :=
    List.take_of_length_le (by omega)
  simp only [Pattern.readFraction, htake, htake9, hlen, hdrop, List.dropWhile_nil,
    digitsValue_padNat, Nat.pow_eq]
  simp [hne]

/-- The printed fraction of a second is read back by the fraction item. -/
theorem step_fractionText {f : PatternFields} {x : Nat} (hx0 : x ≠ 0) (hx : x < 1000000000) :
    Pattern.step f (fractionText x).toList .fraction = some ({ f with nanos := some x }, []) := by
  unfold fractionText
  rw [if_neg hx0]
  split_ifs with hms hus
  · -- whole milliseconds: three digits
    have hread := readFraction_padNat (k := 3) (v := x / 1000000) (by decide) (by decide) (by omega)
    simp only [String.toList_append, Pattern.step, show ".".toList = ['.'] from rfl,
      List.cons_append, List.nil_append, hread, Option.map_some]
    rw [show x / 1000000 * 10 ^ (9 - 3) = x by omega]
  · -- whole microseconds: six digits
    have hread := readFraction_padNat (k := 6) (v := x / 1000) (by decide) (by decide) (by omega)
    simp only [String.toList_append, Pattern.step, show ".".toList = ['.'] from rfl,
      List.cons_append, List.nil_append, hread, Option.map_some]
    rw [show x / 1000 * 10 ^ (9 - 6) = x by omega]
  · have hread := readFraction_padNat (k := 9) (v := x) (by decide) (le_refl 9) (by omega)
    simp only [String.toList_append, Pattern.step, show ".".toList = ['.'] from rfl,
      List.cons_append, List.nil_append, hread, Option.map_some]
    rw [show x * 10 ^ (9 - 9) = x by omega]

theorem fractionText_toList_eq_nil_iff (x : Nat) : (fractionText x).toList = [] ↔ x = 0 := by
  constructor
  · intro h
    by_contra hx
    unfold fractionText at h
    rw [if_neg hx] at h
    split_ifs at h <;> simp at h
  · rintro rfl
    rfl

end Fraction

section Date

theorem yearText_toList (y : Int) :
    (yearText y).toList = if 0 ≤ y ∧ y ≤ 9999 then (padNat 4 y.toNat).toList
      else (if y < 0 then '-' else '+') :: (padNat 4 y.natAbs).toList := by
  unfold yearText
  split_ifs <;> simp

theorem Date.text_toList (d : Date) :
    d.text.toList = (yearText d.ymd.1).toList ++ '-' :: (padNat 2 d.ymd.2.1).toList ++
      '-' :: (padNat 2 d.ymd.2.2).toList := by
  simp [Date.text]

theorem dropBlanks_cons_of_not_blank {c : Char} (rest : List Char) (h : Text.isBlank c = false) :
    Text.dropBlanks (c :: rest) = c :: rest := by
  simp [Text.dropBlanks, h]

/-- A printed year starts with a digit or a sign, never with a blank. -/
theorem dropBlanks_yearText (y : Int) (rest : List Char) :
    Text.dropBlanks ((yearText y).toList ++ rest) = (yearText y).toList ++ rest := by
  rw [yearText_toList]
  split_ifs with hy hneg
  · exact Pattern.dropBlanks_digits rest (isDigits_padNat 4 _) (padNat_toList_ne_nil 4 _)
  · exact dropBlanks_cons_of_not_blank _ (by decide)
  · exact dropBlanks_cons_of_not_blank _ (by decide)

/-- A printed year is read back with its sign, up to the character after it. -/
theorem readYear_yearText (y : Int) {c : Char} (rest : List Char) (hc : isDigit c = false) :
    Pattern.readYear ((yearText y).toList ++ c :: rest) = some (y, c :: rest) := by
  rw [yearText_toList]
  split_ifs with hy hneg
  · rw [Pattern.readYear_padNat _ (by omega), Int.toNat_of_nonneg hy.1]
  · have := Pattern.readYear_signed true rest (isDigits_padNat 4 y.natAbs)
      (padNat_toList_ne_nil 4 _) hc
    have hv : -((y.natAbs : Nat) : Int) = y := by omega
    simp only [if_true, digitsValue_padNat] at this
    rw [this, hv]
  · have := Pattern.readYear_signed false rest (isDigits_padNat 4 y.natAbs)
      (padNat_toList_ne_nil 4 _) hc
    have hv : ((y.natAbs : Nat) : Int) = y := by omega
    simp only [Bool.false_eq_true, if_false, digitsValue_padNat] at this
    rw [this, hv]

/-- The date items of a pattern read a printed date of the range. -/
theorem go_dateText {d : Date} (hd : d.InRange) (items : Pattern) (f : PatternFields)
    (rest : List Char) :
    Pattern.fields?.go (Pattern.isoDate ++ items) f (d.text.toList ++ rest) =
      Pattern.fields?.go items
        { f with year := some d.ymd.1, month := some d.ymd.2.1, day := some d.ymd.2.2 } rest := by
  obtain ⟨hm1, hm12, hd1, hdl⟩ := Date.ymd_valid d
  have h31 := Date.monthLength_le_31 d.ymd.1 d.ymd.2.1
  have hyear := Date.ymd_year_bounds hd
  have hsteps : Pattern.step f ((yearText d.ymd.1).toList ++ '-' :: ((padNat 2 d.ymd.2.1).toList ++
      '-' :: ((padNat 2 d.ymd.2.2).toList ++ rest))) .year =
      some ({ f with year := some d.ymd.1 }, '-' :: ((padNat 2 d.ymd.2.1).toList ++
        '-' :: ((padNat 2 d.ymd.2.2).toList ++ rest))) := by
    simp only [Pattern.step, dropBlanks_yearText, readYear_yearText _ _ (show isDigit '-' = false
      by decide)]
    rw [if_pos (by omega)]
  simp only [Date.text_toList, Pattern.isoDate, List.append_assoc, List.cons_append,
    List.nil_append] at hsteps ⊢
  rw [Pattern.go_cons hsteps, Pattern.go_cons (Pattern.step_literal '-'),
    Pattern.go_cons (Pattern.step_month _ hm1 hm12), Pattern.go_cons (Pattern.step_literal '-'),
    Pattern.go_cons (Pattern.step_day _ hd1 (show d.ymd.2.2 ≤ 31 by omega))]

/-- The fields of a printed date name the date. -/
theorem date?_eq {f : PatternFields} {d : Date} (hd : d.InRange) (hy : f.year = some d.ymd.1)
    (hm : f.month = some d.ymd.2.1) (hday : f.day = some d.ymd.2.2) : f.date? = some d := by
  simp only [PatternFields.date?, PatternFields.fullYear, hy, hm, hday]
  exact Date.ofYmd?_ymd hd

end Date

section Time

theorem Clock.text_toList (c : Clock) :
    c.text.toList = (padNat 2 c.hms.1).toList ++ ':' :: (padNat 2 c.hms.2.1).toList ++
      ':' :: (padNat 2 c.hms.2.2).toList ++ (fractionText c.fraction).toList := by
  simp [Clock.text]

/-- The time items of a pattern read a printed hour, minute and second. -/
theorem go_clockFields {h m s : Nat} (hh : h ≤ 23) (hm : m ≤ 59) (hs : s ≤ 60) (items : Pattern)
    (f : PatternFields) (rest : List Char) :
    Pattern.fields?.go (Pattern.colonTime ++ items) f ((padNat 2 h).toList ++
        ':' :: (padNat 2 m).toList ++ ':' :: (padNat 2 s).toList ++ rest) =
      Pattern.fields?.go items { f with hour := some h, minute := some m, second := some s }
        rest := by
  simp only [Pattern.colonTime, List.append_assoc, List.cons_append, List.nil_append]
  rw [Pattern.go_cons (Pattern.step_hour _ hh), Pattern.go_cons (Pattern.step_literal ':'),
    Pattern.go_cons (Pattern.step_minute _ hm), Pattern.go_cons (Pattern.step_literal ':'),
    Pattern.go_cons (Pattern.step_second _ hs)]

/-- The fields of a printed time name the time; without a fraction item the nanoseconds read as
zero, which is right exactly when the printed time has no fraction. -/
theorem clock?_eq {f : PatternFields} {c : Clock} (hh : f.hour = some c.hms.1)
    (hm : f.minute = some c.hms.2.1) (hs : f.second = some c.hms.2.2)
    (hn : f.nanos.getD 0 = c.fraction) : f.clock? = some c := by
  simp only [PatternFields.clock?, hh, hm, hs, Option.getD_some, hn]
  exact Clock.ofHmsNano?_hms c

/-- A printed time without a fraction is read back by `HH:MM:SS`. -/
theorem readClock?_colonTime_text {c : Clock} (hf : c.fraction = 0) :
    Pattern.readClock? Pattern.colonTime c.text = some c := by
  obtain ⟨hh, hm, hs⟩ := Clock.hms_bounds c
  have hgo := go_clockFields hh hm hs [] {} []
  rw [List.append_nil, List.append_nil] at hgo
  have hfrac : (fractionText c.fraction).toList = [] := (fractionText_toList_eq_nil_iff _).mpr hf
  simp only [Pattern.readClock?, Pattern.fields?, Clock.text_toList, hfrac, List.append_nil, hgo,
    Pattern.go_nil, Option.bind_some]
  exact clock?_eq rfl rfl rfl (by simp [hf])

/-- A printed time with a fraction is not read by `HH:MM:SS`: the fraction is left over. -/
theorem readClock?_colonTime_text_of_fraction {c : Clock} (hf : c.fraction ≠ 0) :
    Pattern.readClock? Pattern.colonTime c.text = none := by
  obtain ⟨hh, hm, hs⟩ := Clock.hms_bounds c
  have hgo := go_clockFields hh hm hs [] {} (fractionText c.fraction).toList
  rw [List.append_nil] at hgo
  have hfrac : (fractionText c.fraction).toList ≠ [] :=
    fun h => hf ((fractionText_toList_eq_nil_iff _).mp h)
  simp only [Pattern.readClock?, Pattern.fields?, Clock.text_toList, hgo, Pattern.fields?.go,
    List.isEmpty_iff, hfrac, if_false, Option.bind_none]

end Time

section Stamp

theorem Stamp.display_toList (t : Stamp) :
    t.display.toList = t.date.text.toList ++ ' ' :: t.clock.text.toList := by
  simp [Stamp.display]

/-- The items of `Pattern.spaced` read a printed stamp up to the fraction of its time. -/
theorem go_display {t : Stamp} (ht : t.Valid) (items : Pattern) (f : PatternFields) :
    Pattern.fields?.go (Pattern.spaced ++ items) f t.display.toList =
      Pattern.fields?.go items
        { f with
          year := some t.date.ymd.1, month := some t.date.ymd.2.1, day := some t.date.ymd.2.2,
          hour := some t.clock.hms.1, minute := some t.clock.hms.2.1,
          second := some t.clock.hms.2.2 }
        (fractionText t.clock.fraction).toList := by
  obtain ⟨hh, hm, hs⟩ := Clock.hms_bounds t.clock
  have hfirst : (padNat 2 t.clock.hms.1).toList ≠ [] := padNat_toList_ne_nil 2 _
  -- the blank between date and time is skipped, and the time starts with a digit
  have hblank : ∀ g : PatternFields, Pattern.step g (' ' :: t.clock.text.toList) .blank =
      some (g, t.clock.text.toList) := by
    intro g
    have hskip : Text.dropBlanks (' ' :: t.clock.text.toList) =
        Text.dropBlanks t.clock.text.toList := by
      simp [Text.dropBlanks, show Text.isBlank ' ' = true by decide]
    rw [Pattern.step, hskip, Clock.text_toList, List.append_assoc, List.append_assoc,
      Pattern.dropBlanks_digits _ (isDigits_padNat 2 _) hfirst]
  have hspaced : Pattern.spaced ++ items =
      Pattern.isoDate ++ (.blank :: (Pattern.colonTime ++ items)) := rfl
  rw [hspaced, Stamp.display_toList, go_dateText ht.inRange, Pattern.go_cons (hblank _),
    Clock.text_toList, go_clockFields hh hm hs]

/-- Fields that name a stamp's date and time give the stamp. -/
theorem stamp_of_fields {f : PatternFields} {t : Stamp} (ht : t.Valid)
    (hy : f.year = some t.date.ymd.1) (hm : f.month = some t.date.ymd.2.1)
    (hd : f.day = some t.date.ymd.2.2) (hh : f.hour = some t.clock.hms.1)
    (hmin : f.minute = some t.clock.hms.2.1) (hs : f.second = some t.clock.hms.2.2)
    (hn : f.nanos.getD 0 = t.clock.fraction) :
    (f.date?.bind fun d => f.clock?.map fun c => (⟨d, c⟩ : Stamp)) = some t := by
  rw [date?_eq ht.inRange hy hm hd, Option.bind_some, clock?_eq hh hmin hs hn,
    Option.map_some]

/-- A printed stamp is read by `Pattern.spaced` exactly when its time has no fraction. -/
theorem readStamp?_spaced_display {t : Stamp} (ht : t.Valid) :
    Pattern.readStamp? Pattern.spaced t.display =
      if t.clock.fraction = 0 then some t else none := by
  have hgo := go_display ht [] {}
  rw [List.append_nil] at hgo
  simp only [Pattern.readStamp?, Pattern.fields?, hgo]
  by_cases hf : t.clock.fraction = 0
  · have hfrac : (fractionText t.clock.fraction).toList = [] :=
      (fractionText_toList_eq_nil_iff _).mpr hf
    rw [if_pos hf, hfrac, Pattern.go_nil, Option.bind_some]
    exact stamp_of_fields ht rfl rfl rfl rfl rfl rfl (by simp [hf])
  · have hfrac : (fractionText t.clock.fraction).toList ≠ [] :=
      fun h => hf ((fractionText_toList_eq_nil_iff _).mp h)
    simp [Pattern.fields?.go, hfrac, hf]

/-- A printed stamp is read by `Pattern.spacedFraction`, with or without a fraction. -/
theorem readStamp?_spacedFraction_display {t : Stamp} (ht : t.Valid) :
    Pattern.readStamp? Pattern.spacedFraction t.display = some t := by
  have hgo := go_display ht [.fraction] {}
  simp only [Pattern.readStamp?, Pattern.fields?, show Pattern.spacedFraction =
    Pattern.spaced ++ [.fraction] from rfl, hgo]
  by_cases hf : t.clock.fraction = 0
  · have hfrac : (fractionText t.clock.fraction).toList = [] :=
      (fractionText_toList_eq_nil_iff _).mpr hf
    -- no point follows, so the fraction item reads nothing
    rw [hfrac, Pattern.go_cons rfl, Pattern.go_nil, Option.bind_some]
    exact stamp_of_fields ht rfl rfl rfl rfl rfl rfl (by simp [hf])
  · rw [Pattern.go_cons (step_fractionText hf (Clock.fraction_lt t.clock)), Pattern.go_nil,
      Option.bind_some]
    exact stamp_of_fields ht rfl rfl rfl rfl rfl rfl rfl

/-- Every stamp of the calendar is read back from its display text. -/
theorem textStamp?_display {t : Stamp} (ht : t.Valid) : Value.textStamp? t.display = some t := by
  simp only [Value.textStamp?, Value.stampPatterns, List.findSome?_cons,
    readStamp?_spaced_display ht, readStamp?_spacedFraction_display ht]
  split_ifs <;> rfl

end Stamp

end Schedule
