import TrafficRouting.Toml.Number

/-!
# TrafficRouting.Toml.Quoted — strings in the four ways in which they are written

A string stands between double quotes (with escapes) or between single quotes (as it is), on one
line or between tripled quotes. The readers here start behind the opening quotes.
-/

namespace TrafficRouting.Toml

/-- Tab, visible ASCII, and everything beyond ASCII. -/
def textChar (c : Char) : Bool := c = '\t' || (0x20 ≤ c.toNat && c.toNat ≤ 0x7E) || 0x80 ≤ c.toNat

/-- The space and the tab. -/
def isSpace (c : Char) : Bool := c = ' ' || c = '\t'

/-- What an escape letter stands for: a character, or so many digits that give its number. -/
def escapeLetter (c : Char) : Option (Char ⊕ Nat) :=
  match c with
  | 'b' => some (.inl '\x08')
  | 't' => some (.inl '\t')
  | 'n' => some (.inl '\n')
  | 'f' => some (.inl '\x0c')
  | 'r' => some (.inl '\r')
  | '"' => some (.inl '"')
  | '\\' => some (.inl '\\')
  | 'u' => some (.inr 4)
  | 'U' => some (.inr 8)
  | _ => none

/-- Puts a character in front of what was read. -/
def push (c : Char) : Option (List Char × List Char) → Option (List Char × List Char)
  | some (cs, rest) => some (c :: cs, rest)
  | none => none

/-- Where the reader of a string with escapes stands. -/
inductive Mode
  /-- Among plain characters, behind so many quotes in a row. -/
  | plain (quotes : Nat)
  /-- Behind a backslash. -/
  | escape
  /-- Behind a backslash and white space, so a line break must follow. -/
  | beforeBreak
  /-- Behind an escaped line break, skipping white space. -/
  | afterBreak
  /-- Inside a number of so many more digits. -/
  | code (left value : Nat)
deriving DecidableEq, Repr

/-- A string between double quotes on one line. -/
def basicBody : Mode → List Char → Option (List Char × List Char)
  | _, [] => none
  | .plain _, c :: rest =>
    if c = '"' then some ([], rest)
    else if c = '\\' then basicBody .escape rest
    else if textChar c then push c (basicBody (.plain 0) rest)
    else none
  | .escape, c :: rest =>
    match escapeLetter c with
    | some (.inl d) => push d (basicBody (.plain 0) rest)
    | some (.inr n) => basicBody (.code n 0) rest
    | none => none
  | .code left value, c :: rest =>
    match Text.digitValue? 16 c with
    | some d =>
      if left = 1 then
        match Text.charOfCode? (16 * value + d) with
        | some x => push x (basicBody (.plain 0) rest)
        | none => none
      else basicBody (.code (left - 1) (16 * value + d)) rest
    | none => none
  | .beforeBreak, _ => none
  | .afterBreak, _ => none

/-- A string between single quotes on one line. -/
def literalBody : List Char → Option (List Char × List Char)
  | [] => none
  | c :: rest =>
    if c = '\'' then some ([], rest)
    else if textChar c then push c (literalBody rest)
    else none

/-- Behind three quotes that close a string: up to two more belong to the text before them. -/
def closing (q : Char) : List Char → List Char × List Char
  | a :: b :: rest =>
    if a = q then if b = q then ([q, q], rest) else ([q], b :: rest) else ([], a :: b :: rest)
  | [a] => if a = q then ([q], []) else ([], [a])
  | [] => ([], [])

/-- Puts quotes in front of what was read. -/
def pushQuotes (q : Char) (n : Nat) (r : Option (List Char × List Char)) :
    Option (List Char × List Char) :=
  r.map fun x => (List.replicate n q ++ x.1, x.2)

/-- A string between tripled double quotes. A line break is read as one character, however it is
written; a backslash at the end of a line takes the white space behind it away. -/
def tripleBasicBody : Mode → List Char → Option (List Char × List Char)
  | _, [] => none
  | .plain quotes, c :: rest =>
    if c = '"' then
      if quotes = 2 then some (closing '"' rest) else tripleBasicBody (.plain (quotes + 1)) rest
    else pushQuotes '"' quotes <|
      if c = '\\' then tripleBasicBody .escape rest
      else if c = '\n' then push '\n' (tripleBasicBody (.plain 0) rest)
      else if c = '\r' then
        match rest with
        | '\n' :: rest => push '\n' (tripleBasicBody (.plain 0) rest)
        | _ => none
      else if textChar c then push c (tripleBasicBody (.plain 0) rest)
      else none
  | .escape, c :: rest =>
    if isSpace c then tripleBasicBody .beforeBreak rest
    else if c = '\n' then tripleBasicBody .afterBreak rest
    else if c = '\r' then
      match rest with
      | '\n' :: rest => tripleBasicBody .afterBreak rest
      | _ => none
    else match escapeLetter c with
    | some (.inl d) => push d (tripleBasicBody (.plain 0) rest)
    | some (.inr n) => tripleBasicBody (.code n 0) rest
    | none => none
  | .beforeBreak, c :: rest =>
    if isSpace c then tripleBasicBody .beforeBreak rest
    else if c = '\n' then tripleBasicBody .afterBreak rest
    else if c = '\r' then
      match rest with
      | '\n' :: rest => tripleBasicBody .afterBreak rest
      | _ => none
    else none
  | .afterBreak, c :: rest =>
    if isSpace c || c = '\n' then tripleBasicBody .afterBreak rest
    else if c = '\r' then
      match rest with
      | '\n' :: rest => tripleBasicBody .afterBreak rest
      | _ => none
    else if c = '"' then tripleBasicBody (.plain 1) rest
    else if c = '\\' then tripleBasicBody .escape rest
    else if textChar c then push c (tripleBasicBody (.plain 0) rest)
    else none
  | .code left value, c :: rest =>
    match Text.digitValue? 16 c with
    | some d =>
      if left = 1 then
        match Text.charOfCode? (16 * value + d) with
        | some x => push x (tripleBasicBody (.plain 0) rest)
        | none => none
      else tripleBasicBody (.code (left - 1) (16 * value + d)) rest
    | none => none

/-- A string between tripled single quotes, behind so many quotes in a row. -/
def tripleLiteralBody : Nat → List Char → Option (List Char × List Char)
  | _, [] => none
  | quotes, c :: rest =>
    if c = '\'' then
      if quotes = 2 then some (closing '\'' rest) else tripleLiteralBody (quotes + 1) rest
    else pushQuotes '\'' quotes <|
      if c = '\n' then push '\n' (tripleLiteralBody 0 rest)
      else if c = '\r' then
        match rest with
        | '\n' :: rest => push '\n' (tripleLiteralBody 0 rest)
        | _ => none
      else if textChar c then push c (tripleLiteralBody 0 rest)
      else none

/-- Drops a line break right behind tripled quotes. -/
def dropBreak : List Char → List Char
  | '\n' :: rest => rest
  | '\r' :: '\n' :: rest => rest
  | s => s

/-- A string value in any of the four ways. -/
def quotedChars : Reader (List Char)
  | '"' :: '"' :: '"' :: rest => tripleBasicBody (.plain 0) (dropBreak rest)
  | '"' :: rest => basicBody (.plain 0) rest
  | '\'' :: '\'' :: '\'' :: rest => tripleLiteralBody 0 (dropBreak rest)
  | '\'' :: rest => literalBody rest
  | _ => none

@[inherit_doc quotedChars]
def quotedText : Reader String := fun s => (quotedChars s).map fun r => (.ofList r.1, r.2)

end TrafficRouting.Toml
