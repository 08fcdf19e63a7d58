import TrafficRouting.Text.Pattern.Switches

/-!
# TrafficRouting.Text.Pattern.Class — classes of characters in the notation of a pattern

A class stands between square brackets: characters, ranges, named classes and classes within,
perhaps behind a caret, and perhaps with operators between them, which are taken from the left.

* `Switches.readClass?`: reads a class behind its bracket.
-/

namespace TrafficRouting.Text

/-- A part of a class, and how deep it is nested. -/
structure Portion where
  among : Ranges
  depth : Nat
deriving DecidableEq, Repr

/-- How deep something is nested that consists of parts. One part alone does not count. -/
def depthOf : List Nat → Nat
  | [] => 0
  | [d] => d
  | ds => ds.foldl max 0 + 1

/-- What is in one of the parts. -/
def Portion.joined (ps : List Portion) : Portion :=
  ⟨ps.foldl (fun rs p => rs.union p.among) [], depthOf (ps.map (·.depth))⟩

/-- An operator on classes. -/
inductive ClassOperator
  | both
  | without
  | either
deriving DecidableEq, Repr

/-- The result of an operator. -/
def ClassOperator.apply : ClassOperator → Ranges → Ranges → Ranges
  | both => Ranges.inter
  | without => Ranges.diff
  | either => Ranges.symmDiff

/-- A class that is being read. -/
structure OpenClass where
  negated : Bool
  /-- Only hyphens have been read. They stand for themselves there. -/
  begins : Bool := true
  /-- What stands in front of the last operator. -/
  left? : Option (Portion × ClassOperator) := none
  /-- What stands behind it, the last one first. -/
  items : List Portion := []

namespace OpenClass

variable (o : OpenClass)

/-- Puts a part behind the others. -/
def add (p : Portion) : OpenClass := { o with begins := false, items := p :: o.items }

/-- What has been read. -/
def whole (sw : Switches) : Portion :=
  let right := Portion.joined o.items
  match o.left? with
  | none => right
  | some (left, operator) =>
    ⟨operator.apply (sw.fold left.among) (sw.fold right.among), max left.depth right.depth + 1⟩

/-- The class between its brackets. -/
def closed? (sw : Switches) : Option Portion :=
  let p := o.whole sw
  (sw.settle? o.negated p.among).map fun rs => ⟨rs, p.depth + 1⟩

/-- Everything read so far stands in front of an operator. -/
def operate (sw : Switches) (operator : ClassOperator) : OpenClass :=
  { o with begins := false, left? := some (o.whole sw, operator), items := [] }

end OpenClass

namespace Switches

variable (sw : Switches)

/-- A class behind its bracket: a caret may stand there. -/
def openClass (s : List Char) : OpenClass × List Char :=
  match sw.skip s with
  | '^' :: rest => (⟨true, true, none, []⟩, rest)
  | s => (⟨false, true, none, []⟩, s)

/-- The operator that a text begins with. -/
def operator? : List Char → Option (ClassOperator × List Char)
  | '&' :: '&' :: rest => some (.both, rest)
  | '-' :: '-' :: rest => some (.without, rest)
  | '~' :: '~' :: rest => some (.either, rest)
  | _ => none

/-- A named class behind its bracket: a name between colons, perhaps behind a caret. -/
def named? : List Char → Option ((Bool × Ranges) × List Char)
  | ':' :: s =>
    let negated := s.head? = some '^'
    let s := if negated then s.tail else s
    match s.dropWhile (· ≠ ':') with
    | ':' :: ']' :: rest =>
      (namedClass? (.ofList (s.takeWhile (· ≠ ':')))).map fun rs => ((negated, rs), rest)
    | _ => none
  | _ => none

/-- What stands for itself in a class, or an escape. -/
def member? : List Char → Option (Escape × List Char)
  | [] => none
  | '\\' :: rest => sw.escape? rest
  | c :: rest => some (.char c, rest)

/-- The characters of a member. Places are no members. -/
def Escape.members? : Escape → Option Ranges
  | char c => some (.only c)
  | oneOf rs => some rs
  | anchor _ => none

/-- A member of a class, or a range of characters. -/
def range? (s : List Char) : Option (Ranges × List Char) := do
  let (a, rest) ← sw.member? s
  let rest := sw.skip rest
  if rest.head? ≠ some '-' ∨ [some ']', some '-'].contains (sw.glance rest.tail) then
    return (← sw.admit? (← a.members?), rest)
  let (b, rest) ← sw.member? (sw.skip rest.tail)
  match a, b with
  | .char a, .char b => if a ≤ b then return (← sw.admit? (.between a b), rest) else none
  | _, _ => none

/-- Reads on in a class that stands within others. Each step takes a character at least, so `fuel`
need not be more than there are. -/
def classFrom? : Nat → OpenClass → List OpenClass → List Char → Option (Portion × List Char)
  | 0, _, _, _ => none
  | fuel + 1, o, outer, s =>
    match sw.skip s with
    | [] => none
    | c :: rest =>
      if o.begins && c = '-' then do
        let rs ← sw.admit? (.only c)
        classFrom? fuel { o.add ⟨rs, 0⟩ with begins := true } outer rest
      else if o.begins && o.items.isEmpty && c = ']' then do
        classFrom? fuel (o.add ⟨← sw.admit? (.only c), 0⟩) outer rest
      else if c = '[' then
        match named? rest with
        | some ((negated, rs), rest) => do
          let rs ← sw.settle? negated (← sw.admit? rs)
          classFrom? fuel (o.add ⟨rs, 0⟩) outer rest
        | none =>
          let (inner, rest) := sw.openClass rest
          classFrom? fuel inner ({ o with begins := false } :: outer) rest
      else if c = ']' then do
        let p ← o.closed? sw
        match outer with
        | [] => return (p, rest)
        | o :: outer => classFrom? fuel (o.add p) outer rest
      else match operator? (c :: rest) with
      | some (operator, rest) => classFrom? fuel (o.operate sw operator) outer rest
      | none => do
        let (rs, rest) ← sw.range? (c :: rest)
        classFrom? fuel (o.add ⟨rs, 0⟩) outer rest

/-- Reads a class behind its bracket. -/
def readClass? (s : List Char) : Option (Portion × List Char) :=
  let (o, rest) := sw.openClass s
  sw.classFrom? (rest.length + 1) o [] rest

end Switches

end TrafficRouting.Text
