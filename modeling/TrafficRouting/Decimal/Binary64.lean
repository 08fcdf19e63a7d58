/-!
# TrafficRouting.Decimal.Binary64 — doubles, read from decimals and written in the fewest digits

A finite double is `mantissa * 2 ^ exponent` with `mantissa < 2 ^ 53` and `-1074 ≤ exponent`.

* `Double.ofDecimal`: the double nearest to `digits * 10 ^ exponent`; a tie goes to the even
  mantissa.
* `Double.text`: the fewest digits that read back, in positional notation; a tie goes away from
  zero.
-/

namespace TrafficRouting

/-- A double-precision number. -/
inductive Double
  | nan
  | infinite (negative : Bool)
  | finite (negative : Bool) (mantissa : Nat) (exponent : Int)
deriving DecidableEq, Repr

namespace Double

/-- The integer nearest to `n / d`; a tie goes to the even one. -/
def roundDiv (n d : Nat) : Nat :=
  let q := n / d
  let r := n % d
  if 2 * r < d then q else if d < 2 * r then q + 1 else if q % 2 = 0 then q else q + 1

/-- `n * b ^ e` as a fraction. -/
def scaled (n b : Nat) (e : Int) : Nat × Nat :=
  if 0 ≤ e then (n * Nat.pow b e.toNat, 1) else (n, Nat.pow b (-e).toNat)

/-- The mantissa of `num / den` at a binary exponent. -/
def mantissaAt (num den : Nat) (q : Int) : Nat :=
  let s := scaled 1 2 q
  roundDiv (num * s.2) (den * s.1)

/-- The double nearest to the positive fraction `num / den`. -/
def ofFraction (negative : Bool) (num den : Nat) : Double :=
  let low : Int := max ((num.log2 : Int) - (den.log2 : Int) - 53) (-1074)
  let s := scaled 1 2 low
  let q := if num * s.2 / (den * s.1) < Nat.pow 2 53 then low else low + 1
  let m := mantissaAt num den q
  let (m, q) := if m = Nat.pow 2 53 then (Nat.pow 2 52, q + 1) else (m, q)
  if q > 971 then infinite negative else finite negative m q

/-- The double nearest to `digits * 10 ^ exponent`. Magnitudes beyond all doubles are infinite, and
ones below half of the least double are zero. -/
def ofDecimal (negative : Bool) (digits : Nat) (exponent : Int) : Double :=
  let size := (Nat.toDigits 10 digits).length
  if digits = 0 then finite negative 0 (-1074)
  else if size + exponent > 310 then infinite negative
  else if size + exponent < -330 then finite negative 0 (-1074)
  else
    let f := scaled digits 10 exponent
    ofFraction negative f.1 f.2

/-! ### The fewest digits -/

/-- The number `p` with `10 ^ (p - 1) ≤ num / den < 10 ^ p`. -/
def decimalPoint (num den : Nat) : Int :=
  if den ≤ num then (Nat.toDigits 10 (num / den)).length
  else
    match (List.range 400).find? fun j => den ≤ num * Nat.pow 10 (j + 1) with
    | some j => -(j : Int)
    | none => 0

/-- The bounds of the numbers that round to `mantissa * 2 ^ exponent`, over a common denominator:
low, value, high, denominator. -/
def interval (mantissa : Nat) (exponent : Int) : Nat × Nat × Nat × Nat :=
  let s := scaled 1 2 (exponent - 2)
  let below := if mantissa = Nat.pow 2 52 ∧ -1074 < exponent then 1 else 2
  ((4 * mantissa - below) * s.1, 4 * mantissa * s.1, (4 * mantissa + 2) * s.1, s.2)

/-- The multiple of `10 ^ k` nearest to the double among those that round to it; halfway between two
of them, the larger. -/
def gridPoint? (mantissa : Nat) (exponent k : Int) : Option Nat :=
  let (low, value, high, den) := interval mantissa exponent
  let g := scaled 1 10 k
  let num := value * g.2
  let unit := den * g.1
  let inside (d : Nat) : Bool :=
    let x := d * unit
    if mantissa % 2 = 0 then low * g.2 ≤ x && x ≤ high * g.2 else low * g.2 < x && x < high * g.2
  let down := num / unit
  let near := (2 * num + unit) / (2 * unit)
  let far := if near = down then down + 1 else down
  if inside near then some near else if inside far then some far else none

/-- The shortest digits of a positive double and the power of ten of the last one. -/
def shortest (mantissa : Nat) (exponent : Int) : Nat × Int :=
  let (_, value, _, den) := interval mantissa exponent
  let p := decimalPoint value den
  match (List.range 17).findSome? fun (i : Nat) =>
      (gridPoint? mantissa exponent (p - (i + 1 : Nat))).map (·, p - (i + 1 : Nat)) with
  | some r => r
  | none => (0, 0)

/-- `digits * 10 ^ k` in positional notation, with at least one digit behind the point. -/
def positional (digits : Nat) (k : Int) : String :=
  let ds := Nat.toDigits 10 digits
  if 0 ≤ k then .ofList (ds ++ List.replicate k.toNat '0') ++ ".0"
  else
    let places := (-k).toNat
    let ds := List.replicate (places + 1 - ds.length) '0' ++ ds
    let whole := ds.take (ds.length - places)
    let tail := ((ds.drop (ds.length - places)).reverse.dropWhile (· = '0')).reverse
    .ofList whole ++ "." ++ .ofList (if tail = [] then ['0'] else tail)

/-- The text of a double: positional, shortest, and with a point. -/
def text : Double → String
  | nan => "NaN"
  | infinite n => if n then "-inf" else "inf"
  | finite n m e =>
    (if n then "-" else "") ++
      if m = 0 then "0.0" else positional (shortest m e).1 (shortest m e).2

end Double

end TrafficRouting
