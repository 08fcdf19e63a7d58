import TrafficRouting.Text.Pattern.Basic

/-!
# TrafficRouting.Text.Pattern.Machine — searching for a pattern

A pattern becomes a machine: numbered nodes that take a character, look at the place, or lead on to
two others, the first of which is preferred. A search keeps the nodes at which it may be, preferred
ones first. At each place a node counts only where it is reached first; what is less preferred than
a fit that has been found is given up.

* `Pattern.reachesEnd`: the preferred fit at the first place where there is one ends where the text
  ends.
-/

namespace TrafficRouting.Text

/-- A node of a machine, with the numbers of those it leads to. -/
inductive Node
  | accept
  | take (among : Ranges) (next : Nat)
  | look (a : Anchor) (next : Nat)
  /-- The first is preferred. -/
  | fork (first second : Nat)
deriving DecidableEq, Repr

/-- A machine. -/
abbrev Machine := Array Node

namespace Machine

/-! ### Building -/

/-- Adds a node; yields its number, too. -/
def add (m : Machine) (n : Node) : Nat × Machine := (m.size, m.push n)

/-- Tries a part before the rest if greedy, else after it. -/
def fork (greedy : Bool) (part rest : Nat) : Node :=
  if greedy then .fork part rest else .fork rest part

/-- Adds the nodes of a pattern, from where the search goes on with the node `next`. Yields the node
to start with, too. A part that may take nothing and is repeated gets two forks, one in front of it
and one behind it: else the way to stop could come before the ways into the part. -/
def build : Pattern → Nat → Machine → Nat × Machine
  | .empty, next, m => (next, m)
  | .literal s, next, m => s.foldr (fun c (next, m) => add m (.take (.only c) next)) (next, m)
  | .oneOf _ rs, next, m => add m (.take rs next)
  | .anchor a, next, m => add m (.look a next)
  | .group _ p, next, m => build p next m
  | .sequence p q, next, m =>
    let (next, m) := build q next m
    build p next m
  | .either p q, next, m =>
    let (second, m) := build q next m
    let (first, m) := build p next m
    add m (.fork first second)
  | .repeated t greedy p, next, m =>
    if t = .atMostOnce then
      let (part, m) := build p next m
      add m (fork greedy part next)
    else
      let (behind, m) := add m (.fork next next)
      let (part, m) := build p behind m
      let again := fork greedy part next
      let m := m.setIfInBounds behind again
      if t = .atLeastOnce then (part, m)
      else if p.alwaysTakes then (behind, m)
      else add m again

/-- The machine that looks for a pattern from every place on, and the node to start with. -/
def searching (p : Pattern) : Nat × Machine :=
  let (start, m) := build p 0 #[.accept]
  let search := m.size
  (search, (m.push (.fork start (search + 1))).push (.take .full search))

/-! ### Running -/

variable (m : Machine)

/-- Where a node leads without taking a character. -/
def onward (holds : Anchor → Bool) (i : Nat) : List Nat :=
  match m[i]? with
  | some (.look a next) => if holds a then [next] else []
  | some (.fork first second) => [first, second]
  | _ => []

theorem count_setIfInBounds_lt {fresh : Array Bool} {i : Nat} (h : fresh.getD i false = true) :
    (fresh.setIfInBounds i false).count true < fresh.count true := by
  have hi : i < fresh.size := Decidable.byContradiction fun hn => by
    rw [Array.getD, dif_neg hn] at h
    contradiction
  rw [Array.getD, dif_pos hi] at h
  have hv : fresh[i] = true := h
  have := Array.count_pos_iff.mpr (hv ▸ Array.getElem_mem hi)
  rw [Array.setIfInBounds, dif_pos hi, Array.count_set, hv]
  show fresh.count true - 1 + 0 < fresh.count true
  omega

/-- The nodes that are reached without taking a character, in the order in which they are reached
first. Those to come are `todo`, and `fresh` holds for those that have not been reached yet. -/
def reached (holds : Anchor → Bool) (fresh : Array Bool) (todo : List Nat) : List Nat :=
  match todo with
  | [] => []
  | i :: todo =>
    if fresh.getD i false then
      i :: reached holds (fresh.setIfInBounds i false) (m.onward holds i ++ todo)
    else reached holds fresh todo
termination_by (fresh.count true, todo.length)
decreasing_by
  · exact Prod.Lex.left _ _ (count_setIfInBounds_lt ‹_›)
  · exact Prod.Lex.right _ (by simp)

/-- The node is where a fit ends. -/
def accepts (i : Nat) : Bool := m[i]? == some .accept

/-- Where a node leads by taking a character. -/
def take? (c : Char) (i : Nat) : Option Nat :=
  match m[i]? with
  | some (.take rs next) => if rs.has c then some next else none
  | _ => none

/-- All that is reached from some nodes at the place between two characters. -/
def reachedFrom (before after : Option Char) (nodes : List Nat) : List Nat :=
  m.reached (·.holds before after) (.replicate m.size true) nodes

/-- A search that is at some nodes, behind a character, has found a fit that ends with the text. -/
def fitsEnd (before : Option Char) (nodes : List Nat) : List Char → Bool
  | [] => (m.reachedFrom before none nodes).any m.accepts
  | c :: rest =>
    let live := (m.reachedFrom before (some c) nodes).takeWhile fun i => !m.accepts i
    fitsEnd (some c) (live.filterMap (m.take? c)) rest

end Machine

/-- The search for a pattern in a text finds a fit that ends where the text ends. It finds the first
place where the pattern fits, and there the way to fit that the pattern prefers. -/
def Pattern.reachesEnd (p : Pattern) (s : List Char) : Bool :=
  let (start, m) := Machine.searching p
  m.fitsEnd none [start] s

end TrafficRouting.Text
