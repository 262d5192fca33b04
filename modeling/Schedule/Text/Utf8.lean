/-!
# Decoding UTF-8 with replacement

Bytes that should be UTF-8 are read as text with every maximal invalid part replaced by one
U+FFFD, the way lossy decoders of the standard do: a sequence is valid when its first byte
starts a sequence and each following byte lies in the range the first byte allows; at the first
byte that does not, the bytes read so far count as one invalid part.

## Main definitions

* `decodeLossy` — bytes as characters.
* `bytesText` — bytes as text.
-/

namespace Schedule.Text

/-- Whether a byte lies in a range. -/
def byteIn (lo hi : Nat) (b : UInt8) : Bool := lo ≤ b.toNat && b.toNat ≤ hi

/-- The ranges the continuation bytes of a sequence must lie in, by its first byte; none for a
byte that starts no sequence. -/
def continuationRanges (b : UInt8) : Option (List (Nat × Nat)) :=
  let n := b.toNat
  if n < 0x80 then some []
  else if 0xC2 ≤ n ∧ n ≤ 0xDF then some [(0x80, 0xBF)]
  else if n = 0xE0 then some [(0xA0, 0xBF), (0x80, 0xBF)]
  else if (0xE1 ≤ n ∧ n ≤ 0xEC) ∨ n = 0xEE ∨ n = 0xEF then some [(0x80, 0xBF), (0x80, 0xBF)]
  else if n = 0xED then some [(0x80, 0x9F), (0x80, 0xBF)]
  else if n = 0xF0 then some [(0x90, 0xBF), (0x80, 0xBF), (0x80, 0xBF)]
  else if 0xF1 ≤ n ∧ n ≤ 0xF3 then some [(0x80, 0xBF), (0x80, 0xBF), (0x80, 0xBF)]
  else if n = 0xF4 then some [(0x80, 0x8F), (0x80, 0xBF), (0x80, 0xBF)]
  else none

/-- How many of the bytes match the ranges in turn. -/
def matchingPrefix : List (Nat × Nat) → List UInt8 → Nat
  | (lo, hi) :: rs, b :: bs => if byteIn lo hi b then 1 + matchingPrefix rs bs else 0
  | _, _ => 0

/-- The code point of a complete sequence. -/
def codePoint (first : UInt8) (rest : List UInt8) : Nat :=
  let lead := match rest.length with
    | 0 => first.toNat
    | 1 => first.toNat % 0x20
    | 2 => first.toNat % 0x10
    | _ => first.toNat % 0x08
  rest.foldl (fun acc b => acc * 64 + b.toNat % 64) lead

/-- Bytes as characters; each maximal invalid part becomes U+FFFD. -/
def decodeLossy : Nat → List UInt8 → List Char
  | 0, _ => []
  | _, [] => []
  | fuel + 1, b :: bs =>
    match continuationRanges b with
    | none => '�' :: decodeLossy fuel bs
    | some ranges =>
      let k := matchingPrefix ranges bs
      if k = ranges.length then
        Char.ofNat (codePoint b (bs.take k)) :: decodeLossy fuel (bs.drop k)
      else '�' :: decodeLossy fuel (bs.drop k)

/-- Bytes as text, each invalid part replaced. -/
def bytesText (b : List UInt8) : String := String.ofList (decodeLossy (b.length + 1) b)

end Schedule.Text
