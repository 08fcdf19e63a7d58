import TrafficRouting.Text.CaseTable

/-!
# TrafficRouting.Text.Casing — full upper and lower case of a text

* `upper`: every character becomes its full upper case, which may be several characters.
* `lower`: every character becomes its full lower case; a capital sigma that ends a word becomes
  the final form `ς`.
-/

namespace TrafficRouting.Text

/-- The image of `c` under a case mapping given by runs and expansions; `c` itself by default. -/
def mapCase (runs : List CaseRun) (expansions : List (Nat × List Nat)) (c : Char) : List Char :=
  match runs.findSome? (·.image? c.toNat) with
  | some n => [Char.ofNat n]
  | none =>
    match expansions.lookup c.toNat with
    | some ns => ns.map Char.ofNat
    | none => [c]

/-- The full upper case of a character. -/
def upperChar (c : Char) : List Char :=
  if c.toNat < 0x80 then [c.toUpper] else mapCase upperRuns upperExpansions c

/-- The full lower case of a character on its own. -/
def lowerChar (c : Char) : List Char :=
  if c.toNat < 0x80 then [c.toLower] else mapCase lowerRuns lowerExpansions c

/-- The full upper case of a text. -/
def upper (s : String) : String := .ofList (s.toList.flatMap upperChar)

/-- The first character of `s` that casing looks at is one with a case. -/
def startsCased (s : List Char) : Bool :=
  match (s.dropWhile caseIgnorable.has).head? with
  | some c => cased.has c
  | none => false

/-- Lower case of `s` where `before` stands in front of it, last character first. A capital sigma is
final when a cased character stands before it and none after it. -/
def lowerAfter (before : List Char) : List Char → List Char
  | [] => []
  | c :: rest =>
    let final := startsCased before && !startsCased rest
    (if c = 'Σ' then [if final then 'ς' else 'σ'] else lowerChar c) ++ lowerAfter (c :: before) rest

/-- The full lower case of a text. -/
def lower (s : String) : String := .ofList (lowerAfter [] s.toList)

end TrafficRouting.Text
