/-!
# Blank characters

The characters with the Unicode property `White_Space`: the ASCII tab, line feed, vertical tab,
form feed, carriage return and space, the next-line control, the no-break space, the Ogham space
mark, the eleven spaces from en quad to hair space, the line and paragraph separators, the narrow
no-break space, the medium mathematical space and the ideographic space. Trimming removes them
from the ends of a text.

## Main statements

* `isWhitespace_isBlank` — every character that core calls whitespace is blank.
-/

namespace Schedule.Text

/-- A character has the Unicode property `White_Space`. -/
def isBlank (c : Char) : Bool :=
  let n := c.toNat
  (0x09 ≤ n && n ≤ 0x0D) || n == 0x20 || n == 0x85 || n == 0xA0 || n == 0x1680 ||
    (0x2000 ≤ n && n ≤ 0x200A) || n == 0x2028 || n == 0x2029 || n == 0x202F ||
    n == 0x205F || n == 0x3000

/-- Every character that core calls whitespace is blank. -/
theorem isWhitespace_isBlank (c : Char) (h : c.isWhitespace = true) : isBlank c = true := by
  simp only [Char.isWhitespace, Bool.or_eq_true, decide_eq_true_eq] at h
  simp only [isBlank, Bool.or_eq_true, Bool.and_eq_true, decide_eq_true_eq, beq_iff_eq]
  rcases h with ((h | h) | h) | h <;> simp [Char.toNat, h]

/-- The characters of a text without blanks at the start. -/
def dropBlanks (cs : List Char) : List Char := cs.dropWhile isBlank

/-- A text without blanks at either end. -/
def trim (s : String) : String :=
  String.ofList (dropBlanks (dropBlanks s.toList).reverse).reverse

/-- A text without blanks at the start. -/
def trimStart (s : String) : String := String.ofList (dropBlanks s.toList)

end Schedule.Text
