import TrafficRouting.Text.Numeral
import TrafficRouting.Toml.Value

/-!
# TrafficRouting.Toml.Number — numbers and date-times as they are written

Every reader takes the front of its input and yields what it read with the rest, or nothing.
Integers have 64 bits with a sign; a number that does not fit is not read at all.
-/

namespace TrafficRouting.Toml

/-- A reader of the front of a text. -/
abbrev Reader (α : Type) := List Char → Option (α × List Char)

/-- Digits that follow a first one; an underscore stands between two digits. -/
def moreDigits (base : Nat) : List Char → Option (List Nat × List Char)
  | [] => some ([], [])
  | '_' :: c :: rest =>
    match Text.digitValue? base c with
    | some d => (moreDigits base rest).map fun r => (d :: r.1, r.2)
    | none => none
  | c :: rest =>
    if c = '_' then none
    else match Text.digitValue? base c with
    | some d => (moreDigits base rest).map fun r => (d :: r.1, r.2)
    | none => some ([], c :: rest)

/-- One or more digits. -/
def digits (base : Nat) : Reader (List Nat)
  | [] => none
  | c :: rest =>
    match Text.digitValue? base c with
    | some d => (moreDigits base rest).map fun r => (d :: r.1, r.2)
    | none => none

/-- The number with these digits. -/
def ofDigits (base : Nat) (ds : List Nat) : Nat := ds.foldl (fun n d => n * base + d) 0

/-- An optional sign; true for a minus. -/
def sign : List Char → Bool × List Char
  | '-' :: rest => (true, rest)
  | '+' :: rest => (false, rest)
  | s => (false, s)

/-- Digits without a needless zero in front. -/
def plainDigits : Reader (List Nat)
  | '0' :: rest => some ([0], rest)
  | s => digits 10 s

/-- An integer within 64 bits. -/
def bounded (negative : Bool) (n : Nat) : Option Int :=
  if negative then if n ≤ Nat.pow 2 63 then some (-n) else none
  else if n < Nat.pow 2 63 then some n else none

/-- Digits behind a radix mark. -/
def radixInteger (base : Nat) : Reader Value := fun s => do
  let (ds, rest) ← digits base s
  return (.integer (← bounded false (ofDigits base ds)), rest)

def integer : Reader Value
  | '0' :: 'x' :: rest => radixInteger 16 rest
  | '0' :: 'o' :: rest => radixInteger 8 rest
  | '0' :: 'b' :: rest => radixInteger 2 rest
  | s => do
    let (negative, s) := sign s
    let (ds, rest) ← plainDigits s
    return (.integer (← bounded negative (ofDigits 10 ds)), rest)

/-- The exponent behind an `e`. -/
def exponent : Reader Int
  | c :: rest =>
    if c = 'e' ∨ c = 'E' then do
      let (negative, s) := sign rest
      let (ds, rest) ← digits 10 s
      return (if negative then -(ofDigits 10 ds : Int) else ofDigits 10 ds, rest)
    else none
  | [] => none

/-- The digits behind a point. -/
def fraction : Reader (List Nat)
  | '.' :: rest => digits 10 rest
  | _ => none

/-- A float with digits. One that is too large is refused, unless it is negative. -/
def digitFloat : Reader Value := fun s => do
  let (negative, s) := sign s
  let (whole, s) ← plainDigits s
  let (frac, exp, rest) ← (match fraction s with
    | some (frac, s) => some (match exponent s with
      | some (e, rest) => (frac, e, rest)
      | none => (frac, 0, s))
    | none => (exponent s).map fun r => ([], r))
  let x := Double.ofDecimal negative (ofDigits 10 (whole ++ frac)) (exp - frac.length)
  if x = .infinite false then none else return (.float x, rest)

/-- A float without digits. -/
def wordFloat : Reader Value := fun s =>
  let (negative, s) := sign s
  match s with
  | 'i' :: 'n' :: 'f' :: rest => some (.float (.infinite negative), rest)
  | 'n' :: 'a' :: 'n' :: rest => some (.float .nan, rest)
  | _ => none

/-- Exactly two digits between two bounds. -/
def twoDigits (low high : Nat) : Reader Nat
  | a :: b :: rest => do
    let n := 10 * (← Text.digitValue? 10 a) + (← Text.digitValue? 10 b)
    if low ≤ n ∧ n ≤ high then some (n, rest) else none
  | _ => none

/-- A fixed character. -/
def char (c : Char) : List Char → Option (List Char)
  | d :: rest => if d = c then some rest else none
  | [] => none

/-- The number of days of a month. -/
def daysOf (year month : Nat) : Nat :=
  if month = 2 then if year % 4 = 0 ∧ (year % 100 ≠ 0 ∨ year % 400 = 0) then 29 else 28
  else if month = 4 ∨ month = 6 ∨ month = 9 ∨ month = 11 then 30
  else 31

def date : Reader Date := fun s => do
  let (century, s) ← twoDigits 0 99 s
  let (year, s) ← twoDigits 0 99 s
  let s ← char '-' s
  let (month, s) ← twoDigits 1 12 s
  let s ← char '-' s
  let (day, rest) ← twoDigits 1 (daysOf (100 * century + year) month) s
  return (⟨100 * century + year, month, day⟩, rest)

/-- The digits behind the point of a second; those beyond the ninth are read and dropped. -/
def nanos : List Char → Nat × List Char
  | '.' :: rest =>
    match rest.span Char.isDigit with
    | ([], _) => (0, '.' :: rest)
    | (ds, rest) =>
      (ofDigits 10 (((ds ++ List.replicate 9 '0').take 9).map (·.toNat - 48)), rest)
  | s => (0, s)

def time : Reader Time := fun s => do
  let (hour, s) ← twoDigits 0 23 s
  let s ← char ':' s
  let (minute, s) ← twoDigits 0 59 s
  let s ← char ':' s
  let (second, s) ← twoDigits 0 60 s
  let (nanos, rest) := nanos s
  return (⟨hour, minute, second, nanos⟩, rest)

def offset : Reader Offset
  | 'Z' :: rest => some (.utc, rest)
  | 'z' :: rest => some (.utc, rest)
  | s =>
    match sign s with
    | (negative, t) =>
      if t.length = s.length then none
      else do
        let (hour, t) ← twoDigits 0 23 t
        let t ← char ':' t
        let (minute, rest) ← twoDigits 0 59 t
        let m : Int := 60 * hour + minute
        return (.minutes (if negative then -m else m), rest)

/-- A time behind the mark that separates it from its date. -/
def markedTime : Reader Time
  | c :: rest => if c = 'T' ∨ c = 't' ∨ c = ' ' then time rest else none
  | [] => none

def dateTime : Reader Value := fun s =>
  match date s with
  | some (d, s) =>
    match markedTime s with
    | some (t, s) =>
      match offset s with
      | some (o, rest) => some (.dateTime (.both d t (some o)), rest)
      | none => some (.dateTime (.both d t none), s)
    | none => some (.dateTime (.date d), s)
  | none => (time s).map fun r => (.dateTime (.time r.1), r.2)

/-- A number or a date-time: whatever can be read, tried in this order. -/
def number : Reader Value := fun s =>
  dateTime s <|> digitFloat s <|> wordFloat s <|> integer s

end TrafficRouting.Toml
