/-!
# TrafficRouting.Text.Numeral — digits, and numbers that stand alone in a text

* `digitValue?`, `charOfCode?`: the value of a digit, and the character of a code point.
* `natural?`: digits, perhaps behind a plus sign.
* `isFraction`: a number with a sign, a point and an exponent, or a word for one.
-/

namespace TrafficRouting.Text

/-- The value of a digit in a base. -/
def digitValue? (base : Nat) (c : Char) : Option Nat :=
  let n := c.toNat
  let v := if '0' ≤ c ∧ c ≤ '9' then n - 48
    else if 'a' ≤ c ∧ c ≤ 'f' then n - 87
    else if 'A' ≤ c ∧ c ≤ 'F' then n - 55
    else 99
  if v < base then some v else none

/-- The character of a code point, if it is one. -/
def charOfCode? (n : Nat) : Option Char := if n.isValidChar then some (Char.ofNat n) else none

/-- The number that a text of digits is. A plus sign may stand in front, and any number of zeros. -/
def natural? (s : List Char) : Option Nat :=
  let ds := if s.head? = some '+' then s.tail else s
  if ds ≠ [] ∧ ds.all Char.isDigit then
    some (ds.foldl (fun n d => n * 10 + (d.toNat - '0'.toNat)) 0)
  else none

/-- The text without a sign in front. -/
def withoutSign (s : List Char) : List Char :=
  if s.head? = some '+' ∨ s.head? = some '-' then s.tail else s

/-- The text is empty or an exponent. -/
def isExponent : List Char → Bool
  | [] => true
  | c :: rest =>
    let ds := withoutSign rest
    (c = 'e' || c = 'E') && ds ≠ [] && ds.all Char.isDigit

/-- Digits with at most one point among or beside them, and perhaps an exponent. -/
def isDecimalText (s : List Char) : Bool :=
  let whole := s.takeWhile Char.isDigit
  let rest := s.dropWhile Char.isDigit
  let tail := if rest.head? = some '.' then rest.tail else []
  let places := tail.takeWhile Char.isDigit
  whole ++ places ≠ [] &&
    isExponent (if rest.head? = some '.' then tail.dropWhile Char.isDigit else rest)

/-- The text is a number, perhaps a fraction, perhaps beyond all numbers or none at all. -/
def isFraction (s : List Char) : Bool :=
  let t := withoutSign s
  isDecimalText t ||
    ["inf", "infinity", "nan"].contains (String.ofList (t.map Char.toLower))

end TrafficRouting.Text
