import TrafficRouting.Toml.Key
import TrafficRouting.Toml.Table

/-!
# TrafficRouting.Toml.Reader — reading a document

`Toml.read` turns the characters of a document into its fields, or refuses it. Values may nest
`depthLimit - 1` deep. Loops carry the length of their input as fuel; each turn of a loop takes a
character at least, so the fuel never runs out.
-/

namespace TrafficRouting.Toml

/-- Drops white space, line breaks and comments; `comment` holds behind a number sign. -/
def skipGaps (comment : Bool) : List Char → List Char
  | [] => []
  | '\r' :: '\n' :: rest => skipGaps false rest
  | c :: rest =>
    if comment ∧ textChar c then skipGaps true rest
    else if isSpace c ∨ c = '\n' then skipGaps false rest
    else if c = '#' then skipGaps true rest
    else c :: rest

/-- Items up to the closing bracket of an array. -/
def items (item : Reader Value) : Nat → Reader (List Value)
  | 0, _ => none
  | fuel + 1, s =>
    match skipGaps false s with
    | ']' :: rest => some ([], rest)
    | s =>
      match item s with
      | some (v, s) =>
        match skipGaps false s with
        | ',' :: rest => (items item fuel rest).map fun r => (v :: r.1, r.2)
        | ']' :: rest => some ([v], rest)
        | _ => none
      | none => none

/-- A path, an equals sign and a value. -/
def pair (value : Reader Value) : Reader (List String × Value) := fun s => do
  let (path, s) ← path s
  let s ← char '=' s
  let (v, rest) ← value (skipSpace s)
  return ((path, v), rest)

/-- One or more pairs up to the closing brace of an inline table. -/
def inlinePairs (value : Reader Value) : Nat → Reader (List (List String × Value))
  | 0, _ => none
  | fuel + 1, s =>
    match pair value s with
    | some (p, s) =>
      match skipSpace s with
      | ',' :: rest => (inlinePairs value fuel rest).map fun r => (p :: r.1, r.2)
      | '\x7d' :: rest => some ([p], rest)
      | _ => none
    | none => none

/-- The inside of an inline table, up to its closing brace. -/
def inlineBody (value : Reader Value) : Reader Value := fun s =>
  match skipSpace s with
  | '\x7d' :: rest => some (.table [], rest)
  | s => do
    let (pairs, rest) ← inlinePairs value s.length s
    return (← inlineTable pairs, rest)

/-- A value without parts. -/
def scalar : Reader Value
  | 't' :: 'r' :: 'u' :: 'e' :: rest => some (.boolean true, rest)
  | 'f' :: 'a' :: 'l' :: 's' :: 'e' :: rest => some (.boolean false, rest)
  | s => match quotedText s with
    | some (t, rest) => some (.string t, rest)
    | none => number s

/-- A value that nests less than `depth` deep. -/
def value : Nat → Reader Value
  | 0, _ => none
  | depth + 1, s =>
    match s with
    | '[' :: rest =>
      if depth = 0 then none
      else (items (value depth) (rest.length + 1) rest).map fun r => (.array r.1, r.2)
    | '\x7b' :: rest => if depth = 0 then none else inlineBody (value depth) rest
    | s => scalar s

/-- A line of a document that says something. -/
inductive Line
  | pair (path : List String) (v : Value)
  | header (kind : HeaderKind) (path : List String)

/-- A path up to its closing brackets. -/
def header : Reader Line
  | '[' :: '[' :: rest => do
    let (path, s) ← path rest
    let s ← char ']' s
    let s ← char ']' s
    return (.header .repeated path, s)
  | '[' :: rest => do
    let (path, s) ← path rest
    let s ← char ']' s
    return (.header .single path, s)
  | _ => none

/-- A header or a pair. -/
def line : Reader Line := fun s =>
  match s with
  | '[' :: _ => header s
  | _ => (pair (value depthLimit) s).map fun r => (.pair r.1.1 r.1.2, r.2)

/-- The end of a line: perhaps a comment, then a line break or the end of the document. -/
def endOfLine (s : List Char) : Option (List Char) :=
  let s := match skipSpace s with
    | '#' :: rest => rest.dropWhile textChar
    | s => s
  match s with
  | [] => some []
  | '\n' :: rest => some rest
  | '\r' :: '\n' :: rest => some rest
  | _ => none

/-- The lines of a document that say something. -/
def lines : Nat → List Char → Option (List Line)
  | 0, _ => none
  | fuel + 1, s =>
    match skipSpace s with
    | [] => some []
    | c :: rest =>
      if c = '\n' ∨ c = '\r' ∨ c = '#' then (endOfLine (c :: rest)).bind (lines fuel)
      else do
        let (l, s) ← line (c :: rest)
        let ls ← lines fuel (← endOfLine s)
        return l :: ls

/-- Lines by the header they stand below; those below none come first. -/
def sections : List Line → List (List String × Value) × List Section
  | [] => ([], [])
  | .pair path v :: rest => let r := sections rest; ((path, v) :: r.1, r.2)
  | .header kind path :: rest => let r := sections rest; ([], ⟨kind, path, r.1⟩ :: r.2)

/-- Drops the mark that may stand in front of a text. -/
def dropMark : List Char → List Char
  | '\uFEFF' :: rest => rest
  | s => s

/-- The fields of a document. -/
def read (s : List Char) : Option (List (String × Value)) := do
  let s := dropMark s
  let ls ← lines (s.length + 1) s
  let (pairs, secs) := sections ls
  assemble pairs secs

end TrafficRouting.Toml
