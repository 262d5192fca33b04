import Schedule.Proofs.PrintedStamps
import Schedule.Field.Decode

/-!
# Stamps of the text export read back

The text export writes a stamp in one of two encodings, and `decodeEpochStamp`,
`decodeBasicStamp` and `decodeBasicClock` read them. This module defines the encodings as the
exporter writes them and proves that decoding inverts them on every stamp of the calendar at a
whole second:

* the epoch encoding `days seconds`, the days counted from 1900-01-01 as day 2415021 and the
  seconds from midnight, over the whole range of dates, those before 1900 included;
* the basic encoding `yyyyMMdd`, alone or with ` 0` at midnight and otherwise with the time as the
  number `HHMMSS`, without leading zeros, for the years 0–9999;
* the basic time `HHMMSS` alone, for every time but midnight.

## Main definitions

* `Stamp.IsWhole` — a stamp of the calendar's range at a whole second.
* `epochStampText`, `basicDateText`, `basicClockText` — the encodings.
-/

namespace Schedule

open Schedule.Number

/-- A stamp the calendar can hold, at a whole second. -/
structure Stamp.IsWhole (t : Stamp) : Prop where
  inRange : t.date.InRange
  nanos_eq : t.clock.nanos = 0

/-- The export's number of a day: days since 1900-01-01, plus 2415021. -/
def exportDayNumber (d : Date) : Int := d.day - exportEpoch.date.day + exportEpochDay

/-- `days seconds`, the epoch encoding of a stamp. -/
def epochStampText (t : Stamp) : String :=
  toString (exportDayNumber t.date) ++ " " ++ toString t.clock.seconds

example : epochStampText ⟨⟨20082⟩, .ofSeconds 3600⟩ = "2460670 3600" := by decide

/-- `yyyyMMdd`, the basic encoding of a date of the years 0–9999. -/
def basicDateText (d : Date) : String :=
  padNat 4 d.ymd.1.toNat ++ padNat 2 d.ymd.2.1 ++ padNat 2 d.ymd.2.2

/-- The number `HHMMSS` of a time, written without leading zeros. -/
def hhmmss (c : Clock) : Nat := c.hms.1 * 10000 + c.hms.2.1 * 100 + c.hms.2.2

/-- `HHMMSS` without leading zeros, the basic encoding of a time. -/
def basicClockText (c : Clock) : String := toString (hhmmss c)

example : basicDateText ⟨19730⟩ ++ " " ++ basicClockText (.ofSeconds 28800) = "20240108 80000" := by
  decide

section Splitting

theorem splitFirst_eq {c : Char} {s a b : String} (hs : s.toList = a.toList ++ c :: b.toList)
    (ha : c ∉ a.toList) : Text.splitFirst c s = some (a, b) := by
  have htake : (a.toList ++ c :: b.toList).takeWhile (· != c) = a.toList := by
    rw [List.takeWhile_append_of_pos (fun x hx => by simpa using ne_of_mem_of_not_mem hx ha),
      List.takeWhile_cons_of_neg (by simp), List.append_nil]
  have hdrop : (a.toList ++ c :: b.toList).dropWhile (· != c) = c :: b.toList := by
    rw [List.dropWhile_append_of_pos (fun x hx => by simpa using ne_of_mem_of_not_mem hx ha),
      List.dropWhile_cons_of_neg (by simp)]
  simp [Text.splitFirst, hs, htake, hdrop]

theorem splitFirst_eq_none {c : Char} {s : String} (h : c ∉ s.toList) :
    Text.splitFirst c s = none := by
  simp [Text.splitFirst, h]

theorem blank_not_mem_of_isDigits {cs : List Char} (h : IsDigits cs) : ' ' ∉ cs :=
  fun hc => absurd (h ' ' hc) (by decide)

theorem toString_int_toList_ne_blank (n : Int) : ' ' ∉ (toString n).toList := by
  rw [toString_int_toList]
  intro h
  rcases List.mem_append.mp h with h | h
  · split at h <;> simp_all
  · exact blank_not_mem_of_isDigits (isDigits_toDigits _) h

end Splitting

section Epoch

theorem exportEpoch_addSeconds? {t : Stamp} (ht : t.IsWhole) :
    exportEpoch.addSeconds? ((t.date.day + 25567) * 86400 + t.clock.seconds) = some t := by
  have hs := t.clock.seconds_lt
  -- the epoch is midnight of day -25567, so whole days and the time of day split off again
  have hepoch : exportEpoch.date.day * 86400 + exportEpoch.clock.seconds = -25567 * 86400 := rfl
  rw [Stamp.addSeconds?_eq_some_iff (t := exportEpoch) (show 0 < 1000000000 by decide), hepoch]
  refine ⟨?_, by omega, ht.nanos_eq⟩
  rw [show (-25567 * 86400 + ((t.date.day + 25567) * 86400 + t.clock.seconds)) / 86400 =
    t.date.day by omega]
  exact Date.ofDay?_day ht.inRange

/-- The epoch encoding of every whole-second stamp of the range is read back as the stamp. -/
theorem decodeEpochStamp_epochStampText {t : Stamp} (ht : t.IsWhole) :
    decodeEpochStamp (epochStampText t) = .ok (some t) := by
  obtain ⟨hlo, hhi⟩ := ht.inRange.bounds
  have hs := t.clock.seconds_lt
  have hsplit : Text.splitFirst ' ' (epochStampText t) =
      some (toString (exportDayNumber t.date), toString t.clock.seconds) :=
    splitFirst_eq (by simp [epochStampText]) (toString_int_toList_ne_blank _)
  -- the null pair splits as `-1` and `-1`, and a count of seconds has no sign
  have hnull : epochStampText t ≠ nullPair := by
    intro h
    have hpair : Text.splitFirst ' ' nullPair = some ("-1", "-1") := by decide
    rw [← h, hsplit] at hpair
    have hsec : (toString t.clock.seconds).toList = ['-', '1'] := by
      rw [(Prod.mk.inj (Option.some.inj hpair)).2]
      rfl
    rw [toString_nat_toList] at hsec
    exact absurd (isDigits_toDigits t.clock.seconds '-' (by simp [hsec])) (by decide)
  have hne : (epochStampText t).isEmpty = false := by
    simp [epochStampText]
  have hdays : readInt64? (toString (exportDayNumber t.date)) = some (exportDayNumber t.date) :=
    readInt64?_toString (by simp [exportDayNumber, exportEpoch, exportEpochDay]; omega)
      (by simp [exportDayNumber, exportEpoch, exportEpochDay]; omega)
  have hseconds : readInt64? (toString (t.clock.seconds : Int)) = some (t.clock.seconds : Int) :=
    readInt64?_toString (by omega) (by omega)
  have hdiff : exportDayNumber t.date - exportEpochDay = t.date.day + 25567 := by
    simp [exportDayNumber, exportEpoch]
  have hbound : ((t.date.day + 25567) * 86400).natAbs ≤ offsetLimit.toNat ∧
      (t.clock.seconds : Int).natAbs ≤ offsetLimit.toNat ∧
      ((t.date.day + 25567) * 86400 + t.clock.seconds).natAbs ≤ offsetLimit.toNat := by
    simp only [offsetLimit]
    omega
  simp only [decodeEpochStamp, hne, Bool.false_or, hsplit]
  rw [if_neg (by simpa using hnull)]
  simp only [show toString t.clock.seconds = toString (t.clock.seconds : Int) from rfl, hdays,
    hseconds, hdiff, if_pos hbound, exportEpoch_addSeconds? ht]

end Epoch

section Basic

/-- A date of the years 0–9999 as its three fields are printed. -/
theorem basicDateText_toList (d : Date) :
    (basicDateText d).toList = (padNat 4 d.ymd.1.toNat).toList ++ (padNat 2 d.ymd.2.1).toList ++
      (padNat 2 d.ymd.2.2).toList := by
  simp [basicDateText]

theorem ymd_fields_lt (d : Date) : d.ymd.2.1 < 10 ^ 2 ∧ d.ymd.2.2 < 10 ^ 2 := by
  have hm := Date.ymd_valid d
  have := Date.monthLength_le_31 d.ymd.1 d.ymd.2.1
  omega

theorem length_basicDateText {d : Date} (hy0 : 0 ≤ d.ymd.1) (hy : d.ymd.1 ≤ 9999) :
    (basicDateText d).toList.length = 8 := by
  have hy4 : d.ymd.1.toNat < 10 ^ 4 := by omega
  obtain ⟨hm2, hd2⟩ := ymd_fields_lt d
  rw [basicDateText_toList d]
  simp [length_padNat (by decide) hy4, length_padNat (by decide) hm2, length_padNat (by decide) hd2]

theorem isDigits_basicDateText (d : Date) : IsDigits (basicDateText d).toList := by
  simp [basicDateText, isDigits_padNat]

/-- The fields read from a date printed as `yyyyMMdd`. -/
theorem go_compactDate {y m day : Nat} (rest : List Char) (hy : y < 10 ^ 4) (hm1 : 1 ≤ m)
    (hm : m ≤ 12) (hd1 : 1 ≤ day) (hd : day ≤ 31) :
    Pattern.fields?.go Pattern.compactDate {}
        ((padNat 4 y).toList ++ (padNat 2 m).toList ++ (padNat 2 day).toList ++ rest) =
      Pattern.fields?.go [] { year := some y, month := some m, day := some day } rest := by
  have hyear : Pattern.step {}
      ((padNat 4 y).toList ++ ((padNat 2 m).toList ++ (padNat 2 day).toList ++ rest)) .year =
      some ({ year := some y }, (padNat 2 m).toList ++ (padNat 2 day).toList ++ rest) := by
    simp only [Pattern.step]
    rw [Pattern.dropBlanks_digits _ (isDigits_padNat 4 y) (padNat_toList_ne_nil 4 y),
      Pattern.readYear_padNat _ hy]
    simp only
    rw [if_pos (by omega)]
  simp only [Pattern.compactDate, List.append_assoc] at hyear ⊢
  rw [Pattern.go_cons hyear, Pattern.go_cons (Pattern.step_month _ hm1 hm),
    Pattern.go_cons (Pattern.step_day _ hd1 hd)]

/-- A date of the years 0–9999 is read back from its basic encoding. -/
theorem readDate?_basicDateText {d : Date} (hd : d.InRange) (hy0 : 0 ≤ d.ymd.1)
    (hy : d.ymd.1 ≤ 9999) : Pattern.readDate? Pattern.compactDate (basicDateText d) = some d := by
  have hvalid := Date.ymd_valid d
  have hm := Date.monthLength_le_31 d.ymd.1 d.ymd.2.1
  have hgo := go_compactDate [] (show d.ymd.1.toNat < 10 ^ 4 by omega) hvalid.1 hvalid.2.1
    hvalid.2.2.1 (by omega)
  rw [List.append_nil] at hgo
  have hyear : ((d.ymd.1.toNat : Nat) : Int) = d.ymd.1 := Int.toNat_of_nonneg hy0
  simp only [Pattern.readDate?, Pattern.fields?, basicDateText_toList d, hgo, Pattern.go_nil,
    Option.bind_some, PatternFields.date?, PatternFields.fullYear, hyear]
  exact Date.ofYmd?_ymd hd

section Clock

theorem Clock.hms_of_nanos_eq_zero {c : Clock} (hn : c.nanos = 0) :
    c.hms = (c.seconds / 3600, c.seconds / 60 % 60, c.seconds % 60) := by
  simp [Clock.hms, hn]

theorem hhmmss_eq {c : Clock} (hn : c.nanos = 0) :
    hhmmss c = c.seconds / 3600 * 10000 + c.seconds / 60 % 60 * 100 + c.seconds % 60 := by
  simp [hhmmss, Clock.hms_of_nanos_eq_zero hn]

theorem padSix_toString (v : Nat) : padSix (toString v) = padNat 6 v := by
  rw [padSix, Nat.toString_eq_ofList_toDigits]
  rfl

/-- Six digits of `HHMMSS` are the two digits of each field. -/
theorem padNat_six_eq {h m s : Nat} (hh : h < 10 ^ 2) (hm : m < 10 ^ 2) (hs : s < 10 ^ 2) :
    (padNat 6 (h * 10000 + m * 100 + s)).toList =
      (padNat 2 h).toList ++ (padNat 2 m).toList ++ (padNat 2 s).toList := by
  have hlen2 : ∀ {v : Nat}, v < 10 ^ 2 → (padNat 2 v).toList.length = 2 :=
    fun hv => length_padNat (by decide) hv
  apply eq_of_digitsValue_eq (isDigits_padNat _ _) (by simp [isDigits_padNat])
  · rw [length_padNat (by decide) (by omega)]
    simp [hlen2 hh, hlen2 hm, hlen2 hs]
  · simp only [digitsValue_padNat, digitsValue_append, hlen2 hm, hlen2 hs]
    omega

/-- The fields read from a time printed as `HHMMSS`. -/
theorem go_compactTime {h m s : Nat} (rest : List Char) (hh : h ≤ 23) (hm : m ≤ 59)
    (hs : s ≤ 60) :
    Pattern.fields?.go Pattern.compactTime {}
        ((padNat 2 h).toList ++ (padNat 2 m).toList ++ (padNat 2 s).toList ++ rest) =
      Pattern.fields?.go [] { hour := some h, minute := some m, second := some s } rest := by
  simp only [Pattern.compactTime, List.append_assoc]
  rw [Pattern.go_cons (Pattern.step_hour _ hh), Pattern.go_cons (Pattern.step_minute _ hm),
    Pattern.go_cons (Pattern.step_second _ hs)]

/-- A time at a whole second is read back from its six digits. -/
theorem readCompactClock_basicClockText {c : Clock} (hn : c.nanos = 0) :
    readCompactClock (padSix (basicClockText c)) = .ok c := by
  have hs := c.seconds_lt
  have hsplit := padNat_six_eq (show c.seconds / 3600 < 10 ^ 2 by omega)
    (show c.seconds / 60 % 60 < 10 ^ 2 by omega) (show c.seconds % 60 < 10 ^ 2 by omega)
  have hgo := go_compactTime [] (show c.seconds / 3600 ≤ 23 by omega)
    (show c.seconds / 60 % 60 ≤ 59 by omega) (show c.seconds % 60 ≤ 60 by omega)
  rw [List.append_nil, ← hsplit] at hgo
  -- the time is rebuilt from its fields as any time is, with no fraction to add
  have hclock := Clock.ofHmsNano?_hms c
  have hfrac : c.fraction = 0 := by simp [Clock.fraction, hn]
  simp only [Clock.hms_of_nanos_eq_zero hn, hfrac] at hclock
  simp only [readCompactClock, basicClockText, padSix_toString, hhmmss_eq hn, Pattern.readClock?,
    Pattern.fields?, hgo, Pattern.go_nil, Option.bind_some, PatternFields.clock?, Option.getD_some,
    Option.getD_none, hclock]

theorem toString_ne_zero {v : Nat} (h : v ≠ 0) : toString v ≠ "0" := by
  intro hv
  have hdigits : digitsValue (toString v).toList = 0 := by rw [hv]; rfl
  rw [toString_nat_toList, digitsValue_toDigits] at hdigits
  exact h hdigits

theorem hhmmss_ne_zero {c : Clock} (hn : c.nanos = 0) (hc : c ≠ Clock.midnight) : hhmmss c ≠ 0 := by
  have hsec : c.seconds ≠ 0 := by
    intro h0
    exact hc (Clock.ext (by simp [Clock.midnight, h0]) (by simp [Clock.midnight, hn]))
  rw [hhmmss_eq hn]
  omega

/-- Every time but midnight, at a whole second, is read back from its basic encoding. -/
theorem decodeBasicClock_basicClockText {c : Clock} (hn : c.nanos = 0) (hc : c ≠ Clock.midnight) :
    decodeBasicClock (basicClockText c) = .ok (some c) := by
  have hzero : basicClockText c ≠ "0" := toString_ne_zero (hhmmss_ne_zero hn hc)
  have hne : (basicClockText c).isEmpty = false := by
    simp [basicClockText, ← String.toList_inj, Nat.toDigits_ne_nil]
  simp only [decodeBasicClock, hne, Bool.false_or, beq_iff_eq, hzero, if_false,
    readCompactClock_basicClockText hn]
  rfl

end Clock

/-- Text of eight characters or more is neither empty, nor the null pair, nor `0`. -/
theorem basic_guard {s : String} (h : 8 ≤ s.toList.length) :
    (s.isEmpty || s == nullPair || s == "0") = false := by
  have hnull : s ≠ nullPair := fun e => by subst e; exact absurd h (by decide)
  have hzero : s ≠ "0" := fun e => by subst e; exact absurd h (by decide)
  have hempty : s.isEmpty = false := by
    rw [Bool.eq_false_iff]
    intro he
    rw [String.isEmpty_iff] at he
    subst he
    exact absurd h (by decide)
  simp [hempty, hnull, hzero]

theorem decodeBasicStamp_basicDateText {d : Date} (hd : d.InRange) (hy0 : 0 ≤ d.ymd.1)
    (hy : d.ymd.1 ≤ 9999) :
    decodeBasicStamp (basicDateText d) = .ok (some (Stamp.atMidnight d)) := by
  have hnone : Text.splitFirst ' ' (basicDateText d) = none :=
    splitFirst_eq_none (blank_not_mem_of_isDigits (isDigits_basicDateText d))
  simp only [decodeBasicStamp, basic_guard (length_basicDateText hy0 hy).ge, hnone,
    readDate?_basicDateText hd hy0 hy]
  rfl

theorem decodeBasicStamp_basicDateText_zero {d : Date} (hd : d.InRange) (hy0 : 0 ≤ d.ymd.1)
    (hy : d.ymd.1 ≤ 9999) :
    decodeBasicStamp (basicDateText d ++ " 0") = .ok (some (Stamp.atMidnight d)) := by
  have hsplit : Text.splitFirst ' ' (basicDateText d ++ " 0") = some (basicDateText d, "0") :=
    splitFirst_eq (by simp) (blank_not_mem_of_isDigits (isDigits_basicDateText d))
  have hlen : 8 ≤ (basicDateText d ++ " 0").toList.length := by
    simp [length_basicDateText hy0 hy]
  simp only [decodeBasicStamp, basic_guard hlen, hsplit, beq_self_eq_true, if_true,
    readDate?_basicDateText hd hy0 hy]
  rfl

theorem decodeBasicStamp_basicDateText_clock {t : Stamp} (ht : t.IsWhole) (hy0 : 0 ≤ t.date.ymd.1)
    (hy : t.date.ymd.1 ≤ 9999) (hc : t.clock ≠ Clock.midnight) :
    decodeBasicStamp (basicDateText t.date ++ " " ++ basicClockText t.clock) = .ok (some t) := by
  have hsplit : Text.splitFirst ' ' (basicDateText t.date ++ " " ++ basicClockText t.clock) =
      some (basicDateText t.date, basicClockText t.clock) :=
    splitFirst_eq (by simp) (blank_not_mem_of_isDigits (isDigits_basicDateText t.date))
  have hlen : 8 ≤ (basicDateText t.date ++ " " ++ basicClockText t.clock).toList.length := by
    simp [length_basicDateText hy0 hy]
  have hzero : (basicClockText t.clock == "0") = false :=
    beq_eq_false_iff_ne.mpr (toString_ne_zero (hhmmss_ne_zero ht.nanos_eq hc))
  simp only [decodeBasicStamp, basic_guard hlen, hsplit, hzero, Bool.false_eq_true, if_false,
    readDate?_basicDateText ht.inRange hy0 hy,
    readCompactClock_basicClockText ht.nanos_eq]
  rfl

end Basic

/-- Decoding inverts both encodings of the text export on every stamp of the range at a whole
second: the epoch encoding everywhere, the basic encoding of a date of the years 0–9999 alone or
with ` 0` at midnight and with its `HHMMSS` otherwise, and the basic time of every time but
midnight. -/
theorem exportStamps_read_back (t : Stamp) (ht : t.IsWhole) :
    decodeEpochStamp (epochStampText t) = .ok (some t) ∧
      (0 ≤ t.date.year ∧ t.date.year ≤ 9999 →
        (t.clock = Clock.midnight →
          decodeBasicStamp (basicDateText t.date) = .ok (some t) ∧
            decodeBasicStamp (basicDateText t.date ++ " 0") = .ok (some t)) ∧
        (t.clock ≠ Clock.midnight →
          decodeBasicStamp (basicDateText t.date ++ " " ++ basicClockText t.clock) =
            .ok (some t))) ∧
      (t.clock ≠ Clock.midnight →
        decodeBasicClock (basicClockText t.clock) = .ok (some t.clock)) := by
  refine ⟨decodeEpochStamp_epochStampText ht, fun ⟨hy0, hy⟩ => ⟨fun hmid => ?_, fun hc => ?_⟩,
    fun hc => decodeBasicClock_basicClockText ht.nanos_eq hc⟩
  · have hat : Stamp.atMidnight t.date = t := by
      rw [Stamp.atMidnight, ← hmid]
    rw [← hat]
    exact ⟨decodeBasicStamp_basicDateText ht.inRange hy0 hy,
      decodeBasicStamp_basicDateText_zero ht.inRange hy0 hy⟩
  · exact decodeBasicStamp_basicDateText_clock ht hy0 hy hc

/-- Christmas morning 2024 at one o'clock, `2460670 3600` in the epoch encoding. -/
theorem christmas_morning_reads_back :
    Stamp.IsWhole ⟨⟨20082⟩, .ofSeconds 3600⟩ ∧
      (decodeEpochStamp (epochStampText ⟨⟨20082⟩, .ofSeconds 3600⟩) =
          .ok (some ⟨⟨20082⟩, .ofSeconds 3600⟩) ∧
        (0 ≤ (⟨20082⟩ : Date).year ∧ (⟨20082⟩ : Date).year ≤ 9999 →
          (Clock.ofSeconds 3600 = Clock.midnight →
            decodeBasicStamp (basicDateText ⟨20082⟩) = .ok (some ⟨⟨20082⟩, .ofSeconds 3600⟩) ∧
              decodeBasicStamp (basicDateText ⟨20082⟩ ++ " 0") =
                .ok (some ⟨⟨20082⟩, .ofSeconds 3600⟩)) ∧
          (Clock.ofSeconds 3600 ≠ Clock.midnight →
            decodeBasicStamp (basicDateText ⟨20082⟩ ++ " " ++ basicClockText (.ofSeconds 3600)) =
              .ok (some ⟨⟨20082⟩, .ofSeconds 3600⟩))) ∧
        (Clock.ofSeconds 3600 ≠ Clock.midnight →
          decodeBasicClock (basicClockText (.ofSeconds 3600)) = .ok (some (.ofSeconds 3600)))) := by
  have hw : Stamp.IsWhole ⟨⟨20082⟩, .ofSeconds 3600⟩ := ⟨by decide, rfl⟩
  exact ⟨hw, exportStamps_read_back _ hw⟩

end Schedule
