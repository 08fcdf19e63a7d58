import TrafficRouting.Decimal.Binary64

/-!
# TrafficRouting.Toml.Value — the values of a TOML document

* `DateTime.text`: the normal form of a date-time.
* `Value.kind`: how a message names a value.
-/

namespace TrafficRouting.Toml

structure Date where
  year : Nat
  month : Nat
  day : Nat
deriving DecidableEq, Repr

structure Time where
  hour : Nat
  minute : Nat
  second : Nat
  nanos : Nat
deriving DecidableEq, Repr

/-- The distance of a local time from universal time. -/
inductive Offset
  | utc
  | minutes (m : Int)
deriving DecidableEq, Repr

/-- A date, a time, or both, then perhaps with an offset. -/
inductive DateTime
  | date (d : Date)
  | time (t : Time)
  | both (d : Date) (t : Time) (offset : Option Offset)
deriving DecidableEq, Repr

/-- Decimal digits of `n`, filled up with zeros to `width`. -/
def padded (width n : Nat) : String :=
  let ds := Nat.toDigits 10 n
  .ofList (List.replicate (width - ds.length) '0' ++ ds)

def Date.text (d : Date) : String :=
  padded 4 d.year ++ "-" ++ padded 2 d.month ++ "-" ++ padded 2 d.day

/-- Fractions of a second are written without trailing zeros, and not at all when zero. -/
def Time.text (t : Time) : String :=
  let fraction := ((padded 9 t.nanos).toList.reverse.dropWhile (· = '0')).reverse
  padded 2 t.hour ++ ":" ++ padded 2 t.minute ++ ":" ++ padded 2 t.second ++
    if fraction = [] then "" else "." ++ .ofList fraction

def Offset.text : Offset → String
  | utc => "Z"
  | minutes m =>
    (if m < 0 then "-" else "+") ++ padded 2 (m.natAbs / 60) ++ ":" ++ padded 2 (m.natAbs % 60)

def DateTime.text : DateTime → String
  | date d => d.text
  | time t => t.text
  | both d t o => d.text ++ "T" ++ t.text ++ (o.map (·.text)).getD ""

/-- A value. Tables keep the order of the document and have distinct keys. -/
inductive Value
  | string (s : String)
  | integer (n : Int)
  | float (x : Double)
  | boolean (b : Bool)
  | dateTime (d : DateTime)
  | array (items : List Value)
  | table (fields : List (String × Value))
deriving Repr

end TrafficRouting.Toml
