/-!
# Splitting text at a character

`splitAt c` cuts a text at every occurrence of `c`, so `n` occurrences give `n + 1` pieces and the
empty text gives one empty piece. `splitFirst c` cuts at the first occurrence only.
-/

namespace Schedule.Text

/-- The pieces of a character list between occurrences of separators. -/
def splitChars (sep : Char → Bool) : List Char → List (List Char)
  | [] => [[]]
  | c :: rest =>
    let pieces := splitChars sep rest
    if sep c then [] :: pieces
    else match pieces with
      | p :: ps => (c :: p) :: ps
      | [] => [[c]]

/-- The pieces of a text between occurrences of `c`. -/
def splitAt (c : Char) (s : String) : List String :=
  (splitChars (· == c) s.toList).map String.ofList

/-- The text before and after the first occurrence of `c`, if there is one. -/
def splitFirst (c : Char) (s : String) : Option (String × String) :=
  let cs := s.toList
  if cs.contains c then
    some (String.ofList (cs.takeWhile (· != c)), String.ofList ((cs.dropWhile (· != c)).drop 1))
  else none

/-- Replaces the first occurrence of `pat` in a character list by `rep`. -/
def replaceFirst (pat rep : List Char) : List Char → List Char
  | [] => []
  | c :: rest =>
    if pat.isPrefixOf (c :: rest) then rep ++ (c :: rest).drop pat.length
    else c :: replaceFirst pat rep rest

/-- Replaces every occurrence of `pat` in a text by `rep`, scanning left to right. -/
def replaceAll (pat rep : String) (s : String) : String :=
  if pat.isEmpty then s else go pat.toList rep.toList s.toList s.length
where
  go (pat rep : List Char) : List Char → Nat → String
    | [], _ => ""
    | cs, 0 => String.ofList cs
    | c :: rest, fuel + 1 =>
      if pat.isPrefixOf (c :: rest) then
        String.ofList rep ++ go pat rep ((c :: rest).drop pat.length) fuel
      else String.singleton c ++ go pat rep rest fuel

end Schedule.Text
