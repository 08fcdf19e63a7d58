import TrafficRouting.Text.Alphanumeric
import TrafficRouting.Text.Pattern.Class

/-!
# TrafficRouting.Text.Pattern.Notation — the notation of patterns

A pattern is written as letters, points, classes, places and escapes one behind the other, with
repetition marks behind them, bars between alternatives, and groups in round brackets. A group may
have a name or set switches; switches hold up to the end of the group in which they are set.

* `Pattern.read?`: the pattern that a text is the notation of. It may be nested up to `deepest`.
-/

namespace TrafficRouting.Text

/-- A part of a pattern. -/
structure Piece where
  pattern : Pattern
  /-- How deep it is nested. -/
  depth : Nat := 0
  /-- A repetition mark may follow. -/
  repeatable : Bool := true

/-- Parts one behind the other. -/
def Piece.series (ps : List Piece) : Piece :=
  { pattern := .ofSteps (ps.map (·.pattern)), depth := depthOf (ps.map (·.depth)) }

/-- Parts to choose from. -/
def Piece.alternatives (ps : List Piece) : Piece :=
  { pattern := .anyOf (ps.map (·.pattern)), depth := depthOf (ps.map (·.depth)) }

/-- A group that is being read. -/
structure OpenGroup where
  number? : Option Nat := none
  /-- The switches that hold again behind it. -/
  outside : Switches := {}
  /-- Complete alternatives, the last one first. -/
  branches : List Piece := []
  /-- The parts of the current one, the last one first. -/
  items : List Piece := []

namespace OpenGroup

variable (g : OpenGroup)

/-- Puts a part behind the others. -/
def add (p : Piece) : OpenGroup := { g with items := p :: g.items }

/-- Begins another alternative. -/
def branch : OpenGroup :=
  { g with branches := .series g.items.reverse :: g.branches, items := [] }

/-- What has been read. -/
def whole : Piece := .alternatives g.branch.branches.reverse

/-- The group between its brackets. -/
def closed : Piece :=
  let p := g.whole
  { pattern := g.number?.elim p.pattern fun n => .group n p.pattern, depth := p.depth + 1 }

end OpenGroup

/-- A pattern that is being read. -/
structure Reading where
  switches : Switches := {}
  current : OpenGroup := {}
  /-- The groups around the current one, the innermost first. -/
  around : List OpenGroup := []
  /-- How many groups have numbers. -/
  groups : Nat := 0
  names : List (List Char) := []

namespace Reading

variable (r : Reading)

def add (p : Piece) : Reading := { r with current := r.current.add p }

/-- Begins a group with these switches. -/
def enter (number? : Option Nat) (switches : Switches) : Reading :=
  { r with
    switches
    current := { number?, outside := r.switches }
    around := r.current :: r.around }

/-- Begins a group with the next number. -/
def enterNumbered : Reading :=
  { r.enter (some (r.groups + 1)) r.switches with groups := r.groups + 1 }

/-- Ends the current group. -/
def leave? : Option Reading :=
  match r.around with
  | [] => none
  | g :: around => some { r with
      switches := r.current.outside
      current := g.add r.current.closed
      around }

/-- A group may have this name. -/
def allows (name : List Char) : Bool :=
  match name with
  | [] => false
  | c :: rest =>
    (c = '_' || alphabetic.has c) &&
      rest.all (fun c => ['_', '.', '[', ']'].contains c || isAlphanumeric c) &&
      !r.names.contains name

/-- Begins a group whose name is up to an angle bracket. -/
def enterNamed? (s : List Char) : Option (Reading × List Char) :=
  let name := s.takeWhile (· ≠ '>')
  match s.dropWhile (· ≠ '>') with
  | [] => none
  | _ :: rest =>
    if r.allows name then some ({ r.enterNumbered with names := name :: r.names }, rest) else none

/-- Sets switches, up to the end of the current group or in a group of their own. -/
def switch? (s : List Char) : Option (Reading × List Char) := do
  let inside (c : Char) : Bool := c ≠ ':' && c ≠ ')'
  let switches ← r.switches.update? (s.takeWhile inside)
  match s.dropWhile inside with
  | [] => none
  | ':' :: rest => return (r.enter none switches, rest)
  | _ :: rest =>
    if s.takeWhile inside = [] then none
    else return ({ r.add ⟨.empty, 0, false⟩ with switches }, rest)

/-- Reads on behind an opening bracket. -/
def open? (s : List Char) : Option (Reading × List Char) :=
  match r.switches.skip s with
  | '?' :: 'P' :: '<' :: rest => r.enterNamed? rest
  | '?' :: '<' :: rest => r.enterNamed? rest
  | '?' :: rest => r.switch? rest
  | rest => some (r.enterNumbered, rest)

/-- The repetition that a mark stands for. -/
def times? : Char → Option Times
  | '?' => some .atMostOnce
  | '*' => some .anyTimes
  | '+' => some .atLeastOnce
  | _ => none

/-- Repeats the last part; a question mark may follow. -/
def repeat? (t : Times) (s : List Char) : Option (Reading × List Char) :=
  match r.current.items with
  | [] => none
  | p :: items =>
    let marked := s.head? = some '?'
    let again : Piece := {
      pattern := p.pattern.times t (marked == r.switches.reluctant)
      depth := p.depth + 1 }
    if p.repeatable then
      some ({ r with current := { r.current with items := again :: items } },
        if marked then s.tail else s)
    else none

end Reading

/-- A part that begins with this character and is no group. -/
def Switches.piece? (sw : Switches) (c : Char) (rest : List Char) : Option (Piece × List Char) :=
  match c with
  | '\x7b' => none
  | '.' => sw.dot?.map fun p => ({ pattern := p }, rest)
  | '^' => some ({ pattern := .anchor sw.caret }, rest)
  | '$' => some ({ pattern := .anchor sw.dollar }, rest)
  | '[' => (sw.readClass? rest).map fun r =>
    ({ pattern := .ofClass sw.alphabet r.1.among, depth := r.1.depth }, r.2)
  | '\\' => do
    match ← sw.escape? rest with
    | (.char c, rest) => return ({ pattern := ← sw.letter? c }, rest)
    | (.oneOf rs, rest) => return ({ pattern := .ofClass .ascii rs }, rest)
    | (.anchor a, rest) => return ({ pattern := .anchor a }, rest)
  | c => (sw.letter? c).map fun p => ({ pattern := p }, rest)

namespace Reading

/-- Reads a pattern to its end. Each step takes a character at least, so `fuel` need not be more
than there are. -/
def finish? : Nat → Reading → List Char → Option Piece
  | 0, _, _ => none
  | fuel + 1, r, s =>
    match r.switches.skip s with
    | [] => if r.around.isEmpty then some r.current.whole else none
    | c :: rest =>
      if c = '(' then do
        let (r, rest) ← r.open? rest
        finish? fuel r rest
      else if c = ')' then do
        finish? fuel (← r.leave?) rest
      else if c = '|' then
        finish? fuel { r with current := r.current.branch } rest
      else match times? c with
      | some t => do
        let (r, rest) ← r.repeat? t rest
        finish? fuel r rest
      | none => do
        let (p, rest) ← r.switches.piece? c rest
        finish? fuel (r.add p) rest

end Reading

namespace Pattern

/-- How deep a pattern may be nested. -/
def deepest : Nat := 250

/-- The pattern that a text is the notation of. -/
def read? (s : List Char) : Option Pattern := do
  let p ← Reading.finish? (s.length + 1) {} s
  if p.depth ≤ deepest then some p.pattern else none

end Pattern

end TrafficRouting.Text
