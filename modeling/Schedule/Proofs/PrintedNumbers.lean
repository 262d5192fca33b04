import Mathlib.Data.Nat.Digits.Defs
import Schedule.Number.Integer
import Schedule.Time.Text

/-!
# Printed numbers read back

Numbers are printed by `Nat.toDigits` (through `toString`, `digitString` and `padNat`) and read by
`digitsValue` over a run of ASCII digits (through `readDigits` and `readInt?`). This module proves
that reading gives back what was printed: a run of digits has one value, printed numbers are runs
of digits, and a run of a fixed length is determined by its value.

## Main statements

* `digitsValue_toDigits`, `digitsValue_padNat` — the value of a printed number is the number.
* `eq_of_digitsValue_eq` — two runs of digits of one length and one value are equal.
* `readInt?_toString` — an integer in bounds reads back from its text.
-/

namespace Schedule.Number

/-- A list of ASCII decimal digits. -/
def IsDigits (cs : List Char) : Prop := ∀ c ∈ cs, isDigit c = true

theorem isDigit_iff (c : Char) : isDigit c = true ↔ 48 ≤ c.toNat ∧ c.toNat ≤ 57 := by
  simp only [isDigit, Bool.and_eq_true, decide_eq_true_eq, Char.le_def, UInt32.le_iff_toNat_le]
  rfl

theorem isDigit_eq_isDigit (c : Char) : isDigit c = c.isDigit := by
  simp [isDigit, Char.isDigit, Char.le_def]

section Digits

@[simp] theorem isDigits_nil : IsDigits [] := by simp [IsDigits]

@[simp] theorem isDigits_cons {c : Char} {cs : List Char} :
    IsDigits (c :: cs) ↔ isDigit c = true ∧ IsDigits cs := by
  simp [IsDigits]

@[simp] theorem isDigits_append {a b : List Char} :
    IsDigits (a ++ b) ↔ IsDigits a ∧ IsDigits b := by
  simp only [IsDigits, List.mem_append]
  grind

/-- The first character of a run of digits is a digit. -/
theorem IsDigits.head_of_eq_cons {cs rest : List Char} {c : Char} (h : IsDigits cs)
    (hcs : cs = c :: rest) : isDigit c = true := by
  rw [hcs, isDigits_cons] at h
  exact h.1

theorem isDigits_replicate_zero (k : Nat) : IsDigits (List.replicate k '0') := by
  intro c hc
  rw [List.eq_of_mem_replicate hc]
  rfl

theorem isDigits_toDigits (n : Nat) : IsDigits (Nat.toDigits 10 n) := fun c hc => by
  rw [isDigit_eq_isDigit]
  exact Nat.isDigit_of_mem_toDigits (by decide) (by decide) hc

theorem digitsValue_eq_ofDigitChars (cs : List Char) : digitsValue cs = Nat.ofDigitChars 10 cs 0 :=
  rfl

@[simp] theorem digitsValue_nil : digitsValue [] = 0 := rfl

theorem digitsValue_append (a b : List Char) :
    digitsValue (a ++ b) = 10 ^ b.length * digitsValue a + digitsValue b := by
  simp only [digitsValue_eq_ofDigitChars]
  rw [Nat.ofDigitChars_append, Nat.ofDigitChars_eq_ofDigitChars_zero]

theorem digitsValue_cons (c : Char) (cs : List Char) :
    digitsValue (c :: cs) = 10 ^ cs.length * (c.toNat - 48) + digitsValue cs := by
  rw [← List.singleton_append, digitsValue_append]
  simp [digitsValue]

@[simp] theorem digitsValue_toDigits (n : Nat) : digitsValue (Nat.toDigits 10 n) = n :=
  Nat.ofDigitChars_ten_toDigits

@[simp] theorem digitsValue_replicate_zero (k : Nat) : digitsValue (List.replicate k '0') = 0 := by
  rw [digitsValue_eq_ofDigitChars, Nat.ofDigitChars_replicate_zero, Nat.mul_zero]

theorem digitsValue_lt {cs : List Char} (h : IsDigits cs) : digitsValue cs < 10 ^ cs.length := by
  induction cs with
  | nil => simp
  | cons c cs ih =>
    rw [isDigits_cons, isDigit_iff] at h
    have hrest := ih h.2
    rw [digitsValue_cons, List.length_cons, Nat.pow_succ]
    have hc : c.toNat - 48 ≤ 9 := by omega
    calc 10 ^ cs.length * (c.toNat - 48) + digitsValue cs
        < 10 ^ cs.length * 9 + 10 ^ cs.length := by
          have := Nat.mul_le_mul_left (10 ^ cs.length) hc
          omega
      _ = 10 ^ cs.length * 10 := by omega

/-- A run of digits of a given length is determined by its value: the leading digit is the value
divided by the weight of its place, and the rest follows by induction. -/
theorem eq_of_digitsValue_eq {a b : List Char} (ha : IsDigits a) (hb : IsDigits b)
    (hlen : a.length = b.length) (hval : digitsValue a = digitsValue b) : a = b := by
  induction a generalizing b with
  | nil => exact (List.length_eq_zero_iff.mp hlen.symm).symm
  | cons c cs ih =>
    obtain _ | ⟨d, ds⟩ := b
    · simp at hlen
    rw [isDigits_cons] at ha hb
    have hlen' : cs.length = ds.length := by simpa using hlen
    have hcs := digitsValue_lt ha.2
    have hds := digitsValue_lt hb.2
    rw [digitsValue_cons, digitsValue_cons, hlen'] at hval
    rw [hlen'] at hcs
    -- both values split as leading digit times the place weight plus a smaller rest
    have hpos : 0 < 10 ^ ds.length := Nat.pow_pos (by decide)
    have hlead : c.toNat - 48 = d.toNat - 48 := by
      have h1 : (10 ^ ds.length * (c.toNat - 48) + digitsValue cs) / 10 ^ ds.length =
          c.toNat - 48 := by
        rw [Nat.mul_add_div hpos, Nat.div_eq_of_lt hcs, Nat.add_zero]
      have h2 : (10 ^ ds.length * (d.toNat - 48) + digitsValue ds) / 10 ^ ds.length =
          d.toNat - 48 := by
        rw [Nat.mul_add_div hpos, Nat.div_eq_of_lt hds, Nat.add_zero]
      rw [← h1, ← h2, hval]
    have hcd : c = d := by
      have hc := (isDigit_iff c).mp ha.1
      have hd := (isDigit_iff d).mp hb.1
      exact Char.toNat_inj.mp (by omega)
    rw [hcd, ih ha.2 hb.2 hlen' (by rw [hlead] at hval; omega)]

end Digits

section Printing

theorem length_toDigits_le {n w : Nat} (hw : 0 < w) (h : n < 10 ^ w) :
    (Nat.toDigits 10 n).length ≤ w :=
  Nat.toDigits_length 10 n w hw h

theorem padNat_toList (w n : Nat) :
    (padNat w n).toList =
      List.replicate (w - (Nat.toDigits 10 n).length) '0' ++ Nat.toDigits 10 n := by
  simp [padNat, zeros, digitString]

theorem isDigits_padNat (w n : Nat) : IsDigits (padNat w n).toList := by
  rw [padNat_toList, isDigits_append]
  exact ⟨isDigits_replicate_zero _, isDigits_toDigits n⟩

@[simp] theorem digitsValue_padNat (w n : Nat) : digitsValue (padNat w n).toList = n := by
  rw [padNat_toList, digitsValue_append, digitsValue_replicate_zero, digitsValue_toDigits]
  simp

theorem length_padNat {w n : Nat} (hw : 0 < w) (h : n < 10 ^ w) :
    (padNat w n).toList.length = w := by
  have := length_toDigits_le hw h
  rw [padNat_toList, List.length_append, List.length_replicate]
  omega

theorem padNat_toList_ne_nil (w n : Nat) : (padNat w n).toList ≠ [] := by
  rw [padNat_toList]
  simp [Nat.toDigits_ne_nil]

theorem toString_nat_toList (n : Nat) : (toString n).toList = Nat.toDigits 10 n := by
  rw [Nat.toString_eq_ofList_toDigits, String.toList_ofList]

/-- The text of an integer: a minus for a negative one, then the digits of its magnitude. -/
theorem toString_int_toList (n : Int) :
    (toString n).toList = (if n < 0 then ['-'] else []) ++ Nat.toDigits 10 n.natAbs := by
  cases n with
  | ofNat m =>
    show (toString m).toList = _
    simp
  | negSucc m =>
    show ("-" ++ toString (m + 1)).toList = _
    simp [Int.negSucc_lt_zero]

end Printing

section Reading

theorem splitSign_of_isDigit {c : Char} (rest : List Char) (h : isDigit c = true) :
    splitSign (c :: rest) = (false, c :: rest) := by
  have hc := (isDigit_iff c).mp h
  have hminus : c ≠ '-' := fun e => by subst e; simp at hc
  have hplus : c ≠ '+' := fun e => by subst e; simp at hc
  unfold splitSign
  split <;> simp_all

/-- The sign and body of an integer's text. -/
theorem splitSign_toString (n : Int) :
    splitSign (toString n).toList = (decide (n < 0), Nat.toDigits 10 n.natAbs) := by
  rw [toString_int_toList]
  by_cases hn : n < 0
  · simp [hn, splitSign]
  · obtain ⟨c, cs, hcs⟩ :=
      List.exists_cons_of_ne_nil (Nat.toDigits_ne_nil (n := n.natAbs) (b := 10))
    have hc := (isDigits_toDigits n.natAbs).head_of_eq_cons hcs
    simp [hn, hcs, splitSign_of_isDigit _ hc]

theorem readInt?_toString {lo hi n : Int} (hlo : lo ≤ n) (hhi : n ≤ hi) :
    readInt? lo hi (toString n) = some n := by
  have hall : (Nat.toDigits 10 n.natAbs).all isDigit = true :=
    List.all_eq_true.mpr (isDigits_toDigits n.natAbs)
  have hval : (if decide (n < 0) = true then -(n.natAbs : Int) else (n.natAbs : Int)) = n := by
    by_cases hn : n < 0
    · rw [if_pos (decide_eq_true hn)]
      omega
    · rw [if_neg (by simpa using hn)]
      omega
  simp only [readInt?, splitSign_toString, hall, digitsValue_toDigits, hval]
  simp [Nat.toDigits_ne_nil, hlo, hhi]

theorem readInt64?_toString {n : Int} (hlo : -9223372036854775808 ≤ n)
    (hhi : n ≤ 9223372036854775807) : readInt64? (toString n) = some n :=
  readInt?_toString hlo hhi

theorem readInt32?_toString (n : Int32) : readInt32? (toString n.toInt) = some n := by
  have hlo : int32Min ≤ n.toInt := by simpa [int32Min] using Int32.le_toInt n
  have hhi : n.toInt ≤ int32Max := by
    have := Int32.toInt_lt n
    simp only [int32Max]
    omega
  rw [readInt32?, readInt?_toString hlo hhi, Option.map_some, Int32.ofInt_toInt]

example : readInt64? "-2415021" = some (-2415021) := by decide

end Reading

end Schedule.Number
