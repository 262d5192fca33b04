import Schedule.Proofs.PrintedNumbers
import Schedule.Time.Pattern

/-!
# Reading printed fields by pattern

A pattern reads a text item by item (`Pattern.fields?`). This module proves, item by item, that
each numeric item reads back the number printed in its place: digits are no blanks, a run of digits
of exactly the item's width is read whole, and a year of up to four digits, or of any length after
a sign, is read with its sign. A whole reading is then a chain of item readings (`go_cons`) that
ends on the empty text (`go_nil`).
-/

namespace Schedule.Pattern

open Schedule.Number

section Digits

theorem isBlank_of_isDigit {c : Char} (h : isDigit c = true) : Text.isBlank c = false := by
  have hc := (isDigit_iff c).mp h
  unfold Text.isBlank
  simp only [Bool.or_eq_false_iff, Bool.and_eq_false_iff, decide_eq_false_iff_not, not_le,
    beq_eq_false_iff_ne, ne_eq]
  omega

theorem dropBlanks_digits {ds : List Char} (rest : List Char) (h : IsDigits ds) (hne : ds ≠ []) :
    Text.dropBlanks (ds ++ rest) = ds ++ rest := by
  obtain ⟨c, cs, rfl⟩ := List.exists_cons_of_ne_nil hne
  rw [isDigits_cons] at h
  simp [Text.dropBlanks, isBlank_of_isDigit h.1]

theorem takeWhile_isDigit_append {ds : List Char} {c : Char} (rest : List Char) (h : IsDigits ds)
    (hc : isDigit c = false) : (ds ++ c :: rest).takeWhile isDigit = ds := by
  rw [List.takeWhile_append_of_pos h, List.takeWhile_cons_of_neg (by simp [hc]), List.append_nil]

/-- A run of digits as wide as the item is read whole; what follows is left. -/
theorem readDigits_append {w : Nat} {ds : List Char} (rest : List Char) (h : IsDigits ds)
    (hne : ds ≠ []) (hlen : ds.length = w) :
    readDigits w (ds ++ rest) = some (digitsValue ds, rest) := by
  have htake : ((ds ++ rest).takeWhile isDigit).take w = ds := by
    rw [List.takeWhile_append_of_pos h, ← hlen, List.take_left]
  simp [readDigits, htake, hne]

/-- A number printed to the width of a bounded item is read back when it lies in the bounds. -/
theorem readBounded_padNat {lo hi w v : Nat} (rest : List Char) (hw : 0 < w) (hv : v < 10 ^ w)
    (hlo : lo ≤ v) (hhi : v ≤ hi) :
    readBounded lo hi w ((padNat w v).toList ++ rest) = some (v, rest) := by
  rw [readBounded, dropBlanks_digits rest (isDigits_padNat w v) (padNat_toList_ne_nil w v),
    readDigits_append rest (isDigits_padNat w v) (padNat_toList_ne_nil w v) (length_padNat hw hv),
    digitsValue_padNat]
  simp [hlo, hhi]

/-- A year of at most four digits, printed with four, is read back without a sign. -/
theorem readYear_padNat {y : Nat} (rest : List Char) (hy : y < 10000) :
    readYear ((padNat 4 y).toList ++ rest) = some ((y : Int), rest) := by
  obtain ⟨c, cs, hcs⟩ := List.exists_cons_of_ne_nil (padNat_toList_ne_nil 4 y)
  have hc := (isDigits_padNat 4 y).head_of_eq_cons hcs
  have hread := readDigits_append rest (isDigits_padNat 4 y) (padNat_toList_ne_nil 4 y)
    (length_padNat (by decide) hy)
  rw [digitsValue_padNat] at hread
  have hminus : c ≠ '-' := by rintro rfl; exact absurd hc (by decide)
  have hplus : c ≠ '+' := by rintro rfl; exact absurd hc (by decide)
  rw [hcs] at hread ⊢
  simp only [List.cons_append, readYear]
  split
  · simp_all
  · simp_all
  · rw [← List.cons_append, hread]
    rfl

/-- A signed year reads its sign and all the digits after it, up to the first other character. -/
theorem readYear_signed {ds : List Char} {c : Char} (neg : Bool) (rest : List Char)
    (h : IsDigits ds) (hne : ds ≠ []) (hc : isDigit c = false) :
    readYear ((if neg then '-' else '+') :: ds ++ c :: rest) =
      some (if neg then -(digitsValue ds : Int) else digitsValue ds, c :: rest) := by
  have htake := takeWhile_isDigit_append rest h hc
  cases neg <;> simp [readYear, htake, hne]

end Digits

section Items

variable {f f' : PatternFields} {cs rest : List Char}

theorem go_cons {item : PatternItem} {items : Pattern} (h : step f cs item = some (f', rest)) :
    fields?.go (item :: items) f cs = fields?.go items f' rest := by
  rw [fields?.go, h]

theorem go_nil : fields?.go [] f [] = some f := rfl

theorem step_literal (c : Char) : step f (c :: rest) (.literal c) = some (f, rest) := by
  simp [step]

end Items

section TwoDigits

/-! Each two-digit item reads a number printed with two digits into its own field, when the
number lies in the item's bounds. -/

variable {f : PatternFields} {v : Nat} (rest : List Char)

theorem step_month (h1 : 1 ≤ v) (h12 : v ≤ 12) :
    step f ((padNat 2 v).toList ++ rest) .month = some ({ f with month := some v }, rest) := by
  rw [step, readBounded_padNat rest (by decide) (by omega) h1 h12]
  rfl

theorem step_day (h1 : 1 ≤ v) (h31 : v ≤ 31) :
    step f ((padNat 2 v).toList ++ rest) .day = some ({ f with day := some v }, rest) := by
  rw [step, readBounded_padNat rest (by decide) (by omega) h1 h31]
  rfl

theorem step_hour (h23 : v ≤ 23) :
    step f ((padNat 2 v).toList ++ rest) .hour = some ({ f with hour := some v }, rest) := by
  rw [step, readBounded_padNat rest (by decide) (by omega) (Nat.zero_le v) h23]
  rfl

theorem step_minute (h59 : v ≤ 59) :
    step f ((padNat 2 v).toList ++ rest) .minute = some ({ f with minute := some v }, rest) := by
  rw [step, readBounded_padNat rest (by decide) (by omega) (Nat.zero_le v) h59]
  rfl

/-- A second may be 60: the leap second is read like any other. -/
theorem step_second (h60 : v ≤ 60) :
    step f ((padNat 2 v).toList ++ rest) .second = some ({ f with second := some v }, rest) := by
  rw [step, readBounded_padNat rest (by decide) (by omega) (Nat.zero_le v) h60]
  rfl

end TwoDigits

end Schedule.Pattern
