import TrafficRouting.Toml.Quoted

/-!
# TrafficRouting.Toml.Key — keys and paths of keys

A key is bare or quoted on one line. A path is one key, or several with points between them; a
path of `depthLimit` keys or more is refused.
-/

namespace TrafficRouting.Toml

/-- The nesting at which a document is refused. -/
def depthLimit : Nat := 80

/-- Letters, digits, underscore and hyphen of ASCII. -/
def bareChar (c : Char) : Bool :=
  ('a' ≤ c && c ≤ 'z') || ('A' ≤ c && c ≤ 'Z') || ('0' ≤ c && c ≤ '9') || c = '_' || c = '-'

/-- Drops spaces and tabs. -/
def skipSpace (s : List Char) : List Char := s.dropWhile isSpace

/-- One key. -/
def key : Reader String
  | '"' :: rest => (basicBody (.plain 0) rest).map fun r => (.ofList r.1, r.2)
  | '\'' :: rest => (literalBody rest).map fun r => (.ofList r.1, r.2)
  | s =>
    let bare := s.takeWhile bareChar
    if bare = [] then none else some (.ofList bare, s.dropWhile bareChar)

/-- At most `fuel` keys with points between them, and the space around each. -/
def keys : Nat → Reader (List String)
  | 0, _ => none
  | fuel + 1, s =>
    match key (skipSpace s) with
    | some (k, s) =>
      match skipSpace s with
      | '.' :: rest => (keys fuel rest).map fun r => (k :: r.1, r.2)
      | rest => some ([k], rest)
    | none => none

/-- A path that is not too deep. -/
def path : Reader (List String) := keys (depthLimit - 1)

end TrafficRouting.Toml
