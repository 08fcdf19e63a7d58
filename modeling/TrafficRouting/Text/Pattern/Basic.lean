import TrafficRouting.Text.Ranges

/-!
# TrafficRouting.Text.Pattern.Basic — patterns for texts

A pattern is built by the functions here and not by its constructors: they join neighbouring
letters, leave out empty steps, make one class of alternatives that are single characters, and put
in front what all alternatives begin with. The shape matters: where a repeated part may fit nothing,
the way to fit that a search prefers depends on it.

* `append`, `ofSteps`: one pattern behind another.
* `anyOf`: alternatives, the first is preferred.
* `times`: repetition.
* `shortest?`, `longest?`: bounds for what a pattern fits.
-/

namespace TrafficRouting.Text

/-- A place between two characters. -/
inductive Anchor
  | textStart
  | textEnd
  /-- With `crlf` a line ends at a carriage return, too, and the two marks together are one end. -/
  | lineStart (crlf : Bool)
  | lineEnd (crlf : Bool)
  | wordEdge
  | noWordEdge
  | wordStart
  | wordEnd
deriving DecidableEq, Repr

/-- Letters, digits and underscores of ASCII make words. -/
def isWordLetter (c : Char) : Bool := c.isAlphanum || c = '_'

/-- Between these characters is such a place. There is none in front of a text or behind it. -/
def Anchor.holds (before after : Option Char) : Anchor → Bool
  | textStart => before.isNone
  | textEnd => after.isNone
  | lineStart false => before.all (· = '\n')
  | lineStart true => before.all fun c => c = '\n' || (c = '\x0d' && after ≠ some '\n')
  | lineEnd false => after.all (· = '\n')
  | lineEnd true => after.all fun c => c = '\x0d' || (c = '\n' && before ≠ some '\x0d')
  | wordEdge => before.any isWordLetter != after.any isWordLetter
  | noWordEdge => before.any isWordLetter == after.any isWordLetter
  | wordStart => !before.any isWordLetter && after.any isWordLetter
  | wordEnd => before.any isWordLetter && !after.any isWordLetter

/-- How often a part is repeated. -/
inductive Times
  | atMostOnce
  | anyTimes
  | atLeastOnce
deriving DecidableEq, Repr

/-- The least number of times. -/
def Times.least : Times → Nat
  | atMostOnce | anyTimes => 0
  | atLeastOnce => 1

/-- What a class was chosen from. -/
inductive Alphabet
  | unicode
  | ascii
deriving DecidableEq, Repr

/-- A pattern. -/
inductive Pattern
  | empty
  | literal (s : List Char)
  | oneOf (a : Alphabet) (among : Ranges)
  | anchor (a : Anchor)
  /-- As often as possible if greedy, else as seldom. -/
  | repeated (t : Times) (greedy : Bool) (p : Pattern)
  /-- The group with a number. -/
  | group (n : Nat) (p : Pattern)
  | sequence (p q : Pattern)
  /-- The first is preferred. -/
  | either (p q : Pattern)
deriving DecidableEq, Repr

namespace Pattern

/-- Fits nowhere. -/
def nothing : Pattern := oneOf .ascii []

/-- A character of the class. -/
def ofClass (a : Alphabet) (rs : Ranges) : Pattern :=
  match rs.only? with
  | some c => literal [c]
  | none => if rs = [] then nothing else oneOf a rs

/-- The length of the shortest text that fits; `none` if a part of the pattern fits nowhere. -/
def shortest? : Pattern → Option Nat
  | empty | anchor _ => some 0
  | literal s => some s.length
  | oneOf _ rs => if rs = [] then none else some 1
  | repeated t _ p => p.shortest?.map (t.least * ·)
  | group _ p => p.shortest?
  | sequence p q => do return (← p.shortest?) + (← q.shortest?)
  | either p q => do return min (← p.shortest?) (← q.shortest?)

/-- The length of the longest text that fits; `none` if there is no bound or a part of the pattern
fits nowhere. -/
def longest? : Pattern → Option Nat
  | empty | anchor _ => some 0
  | literal s => some s.length
  | oneOf _ rs => if rs = [] then none else some 1
  | repeated t _ p => if t = .atMostOnce then p.longest? else none
  | group _ p => p.longest?
  | sequence p q => do return (← p.longest?) + (← q.longest?)
  | either p q => do return max (← p.longest?) (← q.longest?)

/-- The pattern never fits without taking a character, and has no part that fits nowhere. -/
def alwaysTakes (p : Pattern) : Bool := p.shortest?.any (0 < ·)

/-- Repetition. What takes no character is not worth to be repeated. -/
def times (t : Times) (greedy : Bool) (p : Pattern) : Pattern :=
  if p.longest? ≠ some 0 then repeated t greedy p
  else if t = .atLeastOnce then p
  else repeated .atMostOnce greedy p

/-! ### One behind another -/

/-- Puts a step in front. Letters next to each other become one text. -/
def cons : Pattern → Pattern → Pattern
  | p, empty => p
  | literal s, literal t => literal (s ++ t)
  | literal s, sequence (literal t) q => sequence (literal (s ++ t)) q
  | p, q => sequence p q

/-- One pattern behind another. -/
def append : Pattern → Pattern → Pattern
  | empty, q => q
  | sequence p r, q => cons p (append r q)
  | p, q => cons p q

/-- Patterns one behind the other. -/
def ofSteps (ps : List Pattern) : Pattern := ps.foldr append empty

/-- What stands one behind the other in a pattern. -/
def steps : Pattern → List Pattern
  | empty => []
  | sequence p q => p :: steps q
  | p => [p]

/-! ### Alternatives -/

/-- The alternatives of a pattern. -/
def branches : Pattern → List Pattern
  | either p q => p :: branches q
  | p => [p]

/-- Branches as they are. -/
def ofBranches : List Pattern → Pattern
  | [] => nothing
  | [p] => p
  | p :: ps => either p (ofBranches ps)

/-- The class of a pattern for a single letter. -/
def letter? : Pattern → Option Ranges
  | literal [c] => some (.only c)
  | _ => none

/-- The class of a pattern that is one. -/
def among? : Pattern → Option Ranges
  | oneOf _ rs => some rs
  | _ => none

/-- The class of branches that are all letters or all classes. -/
def choice? (ps : List Pattern) : Option Ranges :=
  ((ps.mapM letter?).or (ps.mapM among?)).map fun rs => rs.foldl Ranges.union []

/-- Alternatives; letters and classes become one class. -/
def pick (ps : List Pattern) : Pattern :=
  let ps := ps.flatMap branches
  if ps.length = 1 then ofBranches ps
  else match choice? ps with
  | some rs => ofClass .unicode rs
  | none => ofBranches ps

/-- What two lists begin with. -/
def shared : List Pattern → List Pattern → List Pattern
  | p :: ps, q :: qs => if p = q then p :: shared ps qs else []
  | _, _ => []

/-- What all lists begin with. -/
def sharedByAll : List (List Pattern) → List Pattern
  | [] => []
  | ps :: rest => rest.foldl shared ps

/-- Alternatives. If each has several steps, those that all begin with stand in front. -/
def anyOf (ps : List Pattern) : Pattern :=
  let all := (ps.flatMap branches).map steps
  let front := sharedByAll all
  if 2 ≤ all.length ∧ all.all (2 ≤ ·.length) ∧ front ≠ [] then
    ofSteps (front ++ [pick (all.map fun steps => ofSteps (steps.drop front.length))])
  else pick ps

end Pattern

end TrafficRouting.Text
