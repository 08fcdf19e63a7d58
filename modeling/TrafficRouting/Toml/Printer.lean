import TrafficRouting.Toml.Key
import TrafficRouting.Toml.Table

/-!
# TrafficRouting.Toml.Printer — writing a document

A document is written as blocks with an empty line between them: a header, then one line for each
pair. Strings are written in the first way that needs no escapes, and with escapes if there is none.
-/

namespace TrafficRouting.Toml

/-! ### Strings -/

/-- A control character that only an escape can write. -/
def isControl (c : Char) : Bool := (c.toNat < 0x20 && c ≠ '\t' && c ≠ '\n') || c.toNat = 0x7F

/-- Three quotes stand in a row. -/
def hasTriple (q : Char) : List Char → Bool
  | a :: b :: c :: rest => (a = q && b = q && c = q) || hasTriple q (b :: c :: rest)
  | _ => false

/-- Four hexadecimal digits, upper case. -/
def hex4 (n : Nat) : List Char :=
  let ds := (Nat.toDigits 16 n).map Char.toUpper
  List.replicate (4 - ds.length) '0' ++ ds

/-- One character between double quotes. -/
def escaped (c : Char) : List Char :=
  if c = '\x08' then ['\\', 'b']
  else if c = '\t' then ['\\', 't']
  else if c = '\n' then ['\\', 'n']
  else if c = '\x0c' then ['\\', 'f']
  else if c = '\r' then ['\\', 'r']
  else if c = '"' then ['\\', '"']
  else if c = '\\' then ['\\', '\\']
  else if c.toNat < 0x20 ∨ c.toNat = 0x7F then '\\' :: 'u' :: hex4 c.toNat
  else [c]

/-- Text between tripled double quotes, behind so many quotes in a row: line breaks stand as they
are, and so do quotes, except each third one in a row. -/
def tripleEscaped : Nat → List Char → List Char
  | _, [] => []
  | quotes, c :: rest =>
    if c = '"' then
      if quotes = 2 then '\\' :: '"' :: tripleEscaped 0 rest
      else '"' :: tripleEscaped (quotes + 1) rest
    else if c = '\n' then '\n' :: tripleEscaped 0 rest
    else escaped c ++ tripleEscaped 0 rest

/-- The ways to write a string. -/
inductive Quoting
  | basic
  | literal
  | tripleBasic
  | tripleLiteral
deriving DecidableEq, Repr

/-- The first way that needs no escapes (a tab apart), else the one with escapes. -/
def quoting (s : List Char) : Quoting :=
  let control := s.any isControl
  let onLine := !s.contains '\n'
  if !control && !s.contains '\\' && !s.contains '"' && onLine then .basic
  else if !control && !s.contains '\'' && onLine then .literal
  else if !control && !s.contains '\\' && !hasTriple '"' s then .tripleBasic
  else if !control && !hasTriple '\'' s then .tripleLiteral
  else if onLine then .basic else .tripleBasic

/-- The line break behind opening quotes, for a text with line breaks. -/
def openingBreak (s : List Char) : List Char := if s.contains '\n' then ['\n'] else []

/-- A string in a given way. -/
def writeAs (s : List Char) : Quoting → List Char
  | .basic => '"' :: s.flatMap escaped ++ ['"']
  | .literal => '\'' :: s ++ ['\'']
  | .tripleBasic => ['"', '"', '"'] ++ openingBreak s ++ tripleEscaped 0 s ++ ['"', '"', '"']
  | .tripleLiteral => ['\'', '\'', '\''] ++ openingBreak s ++ s ++ ['\'', '\'', '\'']

/-- A string value. -/
def writeText (s : String) : List Char := writeAs s.toList (quoting s.toList)

/-! ### Keys -/

/-- A control character other than a tab. -/
def isKeyControl (c : Char) : Bool := (c.toNat < 0x20 && c ≠ '\t') || c.toNat = 0x7F

/-- A key: bare if it can be, else quoted on one line. -/
def writeKey (k : String) : List Char :=
  let s := k.toList
  let control := s.any isKeyControl
  if s ≠ [] ∧ s.all bareChar then s
  else if !control && !s.contains '\\' && !s.contains '"' then writeAs s .basic
  else if !control && !s.contains '\'' then writeAs s .literal
  else writeAs s .basic

/-- Keys with points between them. -/
def writePath (ks : List String) : List Char := ['.'].intercalate (ks.map writeKey)

/-! ### Documents -/

/-- How arrays are laid out. -/
inductive Layout
  /-- On one line. -/
  | flat
  /-- One item on each line, from two items on. -/
  | tall
deriving DecidableEq, Repr

/-- A value of a pair: text, or texts in a row. -/
inductive Content
  | text (s : String)
  | texts (ss : List String)
deriving DecidableEq, Repr

/-- The value that a content stands for. -/
def Content.toValue : Content → Value
  | .text s => .string s
  | .texts ss => .array (ss.map .string)

/-- A header, if any, and pairs. -/
structure Block where
  header : Option (HeaderKind × List String)
  pairs : List (String × Content)

/-- A value in a layout. -/
def Content.write (layout : Layout) : Content → List Char
  | .text s => writeText s
  | .texts ss =>
    if layout = .tall ∧ 2 ≤ ss.length then
      let lines := ss.map fun s => [' ', ' ', ' ', ' '] ++ writeText s ++ [',', '\n']
      ['[', '\n'] ++ lines.flatten ++ [']']
    else '[' :: [',', ' '].intercalate (ss.map writeText) ++ [']']

/-- The line of a header. -/
def writeHeader : HeaderKind × List String → List Char
  | (.single, path) => '[' :: writePath path ++ [']', '\n']
  | (.repeated, path) => ['[', '['] ++ writePath path ++ [']', ']', '\n']

/-- The line of a pair. -/
def writePair (layout : Layout) (p : String × Content) : List Char :=
  writeKey p.1 ++ [' ', '=', ' '] ++ p.2.write layout ++ ['\n']

/-- The lines of a block. -/
def Block.write (layout : Layout) (b : Block) : List Char :=
  (b.header.map writeHeader).getD [] ++ b.pairs.flatMap (writePair layout)

/-- Blocks with an empty line between them. -/
def write (layout : Layout) (bs : List Block) : List Char :=
  ['\n'].intercalate (bs.map (·.write layout))

end TrafficRouting.Toml
