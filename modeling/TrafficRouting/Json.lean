/-!
# TrafficRouting.Json — writing JSON

* `Json.compact` writes on one line, `Json.pretty` with one member on each line.
* `Json.sorted` puts the members of every object in the order of their keys.
-/

namespace TrafficRouting

/-- The JSON values that are written. Objects keep the order of their members. -/
inductive Json
  | number (n : Nat)
  | string (s : String)
  | array (items : List Json)
  | object (members : List (String × Json))
deriving Repr

namespace Json

/-- One character inside a JSON string. -/
def stringChar (c : Char) : List Char :=
  if c = '"' then ['\\', '"']
  else if c = '\\' then ['\\', '\\']
  else if c = '\x08' then ['\\', 'b']
  else if c = '\x0c' then ['\\', 'f']
  else if c = '\n' then ['\\', 'n']
  else if c = '\r' then ['\\', 'r']
  else if c = '\t' then ['\\', 't']
  else if c.toNat < 0x20 then
    ['\\', 'u', '0', '0'] ++ [Nat.digitChar (c.toNat / 16), Nat.digitChar (c.toNat % 16)]
  else [c]

/-- A JSON string. -/
def writeString (s : String) : String := .ofList ('"' :: s.toList.flatMap stringChar ++ ['"'])

mutual
/-- The value on one line. -/
def compact : Json → String
  | number n => toString n
  | string s => writeString s
  | array items => "[" ++ ",".intercalate (compactItems items) ++ "]"
  | object members => "\x7b" ++ ",".intercalate (compactMembers members) ++ "\x7d"

def compactItems : List Json → List String
  | [] => []
  | v :: rest => compact v :: compactItems rest

def compactMembers : List (String × Json) → List String
  | [] => []
  | (k, v) :: rest => (writeString k ++ ":" ++ compact v) :: compactMembers rest
end

/-- Lines between two brackets, indented; nothing stands between them if there are no lines. -/
def enclose (opening closing indent : String) (lines : List String) : String :=
  if lines = [] then opening ++ closing
  else
    let indented := lines.map fun l => indent ++ "  " ++ l
    opening ++ "\n" ++ ",\n".intercalate indented ++ "\n" ++ indent ++ closing

mutual
/-- The value with one member on each line, indented by two more spaces at each level. -/
def prettyAt (indent : String) : Json → String
  | number n => toString n
  | string s => writeString s
  | array items => enclose "[" "]" indent (prettyItems (indent ++ "  ") items)
  | object members => enclose "\x7b" "\x7d" indent (prettyMembers (indent ++ "  ") members)

def prettyItems (indent : String) : List Json → List String
  | [] => []
  | v :: rest => prettyAt indent v :: prettyItems indent rest

def prettyMembers (indent : String) : List (String × Json) → List String
  | [] => []
  | (k, v) :: rest => (writeString k ++ ": " ++ prettyAt indent v) :: prettyMembers indent rest
end

/-- The value with one member on each line. -/
def pretty (j : Json) : String := prettyAt "" j

mutual
/-- The value with the members of every object in the order of their keys. -/
def sorted : Json → Json
  | number n => number n
  | string s => string s
  | array items => array (sortedItems items)
  | object members => object ((sortedMembers members).mergeSort fun a b => decide (a.1 ≤ b.1))

def sortedItems : List Json → List Json
  | [] => []
  | v :: rest => sorted v :: sortedItems rest

def sortedMembers : List (String × Json) → List (String × Json)
  | [] => []
  | (k, v) :: rest => (k, sorted v) :: sortedMembers rest
end

end Json

end TrafficRouting
