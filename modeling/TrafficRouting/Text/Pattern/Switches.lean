import TrafficRouting.Text.Blank
import TrafficRouting.Text.Numeral
import TrafficRouting.Text.Pattern.Basic

/-!
# TrafficRouting.Text.Pattern.Switches — how the notation of a pattern is understood

Switches are set by letters within the notation. They decide whether blanks count, which characters
a pattern may name, and what a letter, an escape or a mark stands for.

* `Switches.update?`: the switches that letters set.
* `Switches.skip`: passes over what does not count.
* `Switches.escape?`: what an escape stands for.
-/

namespace TrafficRouting.Text

/-- What can be switched on and off within a pattern. -/
structure Switches where
  /-- Both cases of a letter are the same. -/
  anyCase : Bool := false
  /-- Start and end are those of a line. -/
  lines : Bool := false
  /-- The point stands for line breaks, too. -/
  dotAll : Bool := false
  /-- Repetition is reluctant unless it is marked. -/
  reluctant : Bool := false
  /-- Characters are those of Unicode, else of ASCII. -/
  unicode : Bool := true
  /-- Carriage returns end lines, too. -/
  crlf : Bool := false
  /-- White space and comments do not count. -/
  spaced : Bool := false
deriving DecidableEq, Repr

namespace Switches

variable (sw : Switches)

/-- Sets the switch of a letter. -/
def set? (on : Bool) (c : Char) : Option Switches :=
  match c with
  | 'i' => some { sw with anyCase := on }
  | 'm' => some { sw with lines := on }
  | 's' => some { sw with dotAll := on }
  | 'U' => some { sw with reluctant := on }
  | 'u' => some { sw with unicode := on }
  | 'R' => some { sw with crlf := on }
  | 'x' => some { sw with spaced := on }
  | _ => none

/-- Sets the switches of letters; those behind a minus sign are switched off. Nothing may stand
twice, and the minus sign not at the end. -/
def update? (letters : List Char) : Option Switches := do
  if letters.eraseDups ≠ letters ∨ letters.getLast? = some '-' then none
  let sw ← (letters.takeWhile (· ≠ '-')).foldlM (fun sw c => set? sw true c) sw
  (letters.dropWhile (· ≠ '-')).tail.foldlM (fun sw c => set? sw false c) sw

/-- The alphabet of classes. -/
def alphabet : Alphabet := if sw.unicode then .unicode else .ascii

/-! ### Blanks -/

/-- The text behind white space and comments, which go up to the end of a line. -/
def skipBlanks (inComment : Bool) : List Char → List Char
  | [] => []
  | c :: rest =>
    if inComment then skipBlanks (c ≠ '\n') rest
    else if isBlank c then skipBlanks false rest
    else if c = '#' then skipBlanks true rest
    else c :: rest

/-- The text behind what does not count. -/
def skip (s : List Char) : List Char := if sw.spaced then skipBlanks false s else s

/-- The character that decides what a hyphen in front of it means: the next one, or the one behind
blanks and the mark of a comment. -/
def glance (s : List Char) : Option Char :=
  if !sw.spaced then s.head?
  else
    let seen := match s.dropWhile isBlank with
      | '#' :: rest => rest.dropWhile isBlank
      | seen => seen
    seen.head?.or s.head?

/-! ### Characters -/

/-- What characters count as if cases are the same. -/
def fold (rs : Ranges) : Ranges := if sw.anyCase then rs.bothCases else rs

/-- Characters that a class may name. Cases are known within ASCII only. -/
def admit? (rs : Ranges) : Option Ranges :=
  if sw.unicode then if sw.anyCase then none else some rs
  else if rs.isAscii then some rs else none

/-- A class or what is outside of it. Outside of ASCII nothing can be named without Unicode. -/
def settle? (negated : Bool) (rs : Ranges) : Option Ranges :=
  let rs := sw.fold rs
  if !negated then some rs else if sw.unicode then some rs.complement else none

/-- A pattern for a character. -/
def letter? (c : Char) : Option Pattern :=
  if !sw.anyCase then some (.literal [c])
  else if sw.unicode then none
  else if c.isAlpha then some (.ofClass .ascii (Ranges.only c).bothCases)
  else some (.literal [c])

/-- A pattern for any character, line breaks perhaps left out. -/
def dot? : Option Pattern :=
  if !sw.unicode then none
  else
    let breaks : Ranges :=
      if sw.crlf then (Ranges.only '\n').union (.only '\x0d') else .only '\n'
    some (.oneOf .unicode (if sw.dotAll then .full else breaks.complement))

/-- The place that a caret stands for. -/
def caret : Anchor := if sw.lines then .lineStart sw.crlf else .textStart

/-- The place that a dollar sign stands for. -/
def dollar : Anchor := if sw.lines then .lineEnd sw.crlf else .textEnd

/-! ### Escapes -/

/-- Classes of ASCII by their names. -/
def namedClass? : String → Option Ranges
  | "alnum" => some [(0x30, 0x39), (0x41, 0x5A), (0x61, 0x7A)]
  | "alpha" => some [(0x41, 0x5A), (0x61, 0x7A)]
  | "ascii" => some [(0, 0x7F)]
  | "blank" => some [(0x9, 0x9), (0x20, 0x20)]
  | "cntrl" => some [(0, 0x1F), (0x7F, 0x7F)]
  | "digit" => some [(0x30, 0x39)]
  | "graph" => some [(0x21, 0x7E)]
  | "lower" => some [(0x61, 0x7A)]
  | "print" => some [(0x20, 0x7E)]
  | "punct" => some [(0x21, 0x2F), (0x3A, 0x40), (0x5B, 0x60), (0x7B, 0x7E)]
  | "space" => some [(0x9, 0xD), (0x20, 0x20)]
  | "upper" => some [(0x41, 0x5A)]
  | "word" => some [(0x30, 0x39), (0x41, 0x5A), (0x5F, 0x5F), (0x61, 0x7A)]
  | "xdigit" => some [(0x30, 0x39), (0x41, 0x46), (0x61, 0x66)]
  | _ => none

/-- What an escape stands for. -/
inductive Escape
  | char (c : Char)
  | oneOf (among : Ranges)
  | anchor (a : Anchor)
deriving DecidableEq, Repr

/-- A number of `n` hexadecimal digits. -/
def hex? : Nat → Nat → List Char → Option (Nat × List Char)
  | 0, value, s => some (value, s)
  | n + 1, value, s =>
    match sw.skip s with
    | [] => none
    | c :: rest => do hex? n (16 * value + (← digitValue? 16 c)) rest

/-- The character whose number has `n` digits. -/
def coded? (n : Nat) (s : List Char) : Option (Escape × List Char) := do
  let (value, rest) ← sw.hex? n 0 s
  return (.char (← charOfCode? value), rest)

/-- What an escape with this letter stands for. -/
def ofLetter? (c : Char) : Option Escape :=
  let unlessUnicode (e : Escape) := if sw.unicode then none else some e
  match c with
  | 'a' => some (.char '\x07')
  | 'f' => some (.char '\x0c')
  | 't' => some (.char '\t')
  | 'n' => some (.char '\n')
  | 'r' => some (.char '\x0d')
  | 'v' => some (.char '\x0b')
  | 'A' => some (.anchor .textStart)
  | 'z' => some (.anchor .textEnd)
  | 'b' => unlessUnicode (.anchor .wordEdge)
  | 'B' => unlessUnicode (.anchor .noWordEdge)
  | '<' => unlessUnicode (.anchor .wordStart)
  | '>' => unlessUnicode (.anchor .wordEnd)
  | 'd' => (namedClass? "digit").bind fun rs => unlessUnicode (.oneOf rs)
  | 's' => (namedClass? "space").bind fun rs => unlessUnicode (.oneOf rs)
  | 'w' => (namedClass? "word").bind fun rs => unlessUnicode (.oneOf rs)
  | _ => if c.toNat < 0x80 ∧ !c.isAlphanum then some (.char c) else none

/-- What the text behind a backslash stands for. -/
def escape? : List Char → Option (Escape × List Char)
  | [] => none
  | c :: rest =>
    if c = 'x' then do
      let (value, rest) ← sw.hex? 2 0 rest
      if !sw.unicode && 0x80 ≤ value then none else return (.char (← charOfCode? value), rest)
    else if c = 'u' then sw.coded? 4 rest
    else if c = 'U' then sw.coded? 8 rest
    else (sw.ofLetter? c).map fun e => (e, rest)

end Switches

end TrafficRouting.Text
