/-!
# TrafficRouting.Text.Ranges — character classes as lists of code point ranges

* `has`: a character lies in a class.
* `insert`, `union`, `inter`, `complement`, `diff`, `symmDiff`: classes from classes. What they
  yield is in increasing order, and no two ranges overlap or touch.
-/

namespace TrafficRouting.Text

/-- Inclusive ranges of code points, in increasing order. -/
abbrev Ranges := List (Nat × Nat)

/-- `c` lies in one of the ranges. -/
def Ranges.has (rs : Ranges) (c : Char) : Bool :=
  rs.any fun r => r.1 ≤ c.toNat && c.toNat ≤ r.2

namespace Ranges

/-- The last code point. -/
def top : Nat := 0x10FFFF

/-- All characters. -/
def full : Ranges := [(0, top)]

/-- One character. -/
def only (c : Char) : Ranges := [(c.toNat, c.toNat)]

/-- The characters from `a` to `b`. -/
def between (a b : Char) : Ranges := [(a.toNat, b.toNat)]

/-- The character of a class that has only one. -/
def only? : Ranges → Option Char
  | [r] => if r.1 = r.2 then some (Char.ofNat r.1) else none
  | _ => none

/-- Nothing beyond ASCII lies in the ranges. -/
def isAscii (rs : Ranges) : Bool := rs.all (·.2 < 0x80)

/-- Adds a range; ranges that overlap or touch become one. -/
def insert (r : Nat × Nat) : Ranges → Ranges
  | [] => [r]
  | s :: rest =>
    if r.2 + 1 < s.1 then r :: s :: rest
    else if s.2 + 1 < r.1 then s :: insert r rest
    else insert (min r.1 s.1, max r.2 s.2) rest

/-- What lies in the one or in the other. -/
def union (a b : Ranges) : Ranges := b.foldl (fun a r => a.insert r) a

/-- What lies in both. -/
def inter (a b : Ranges) : Ranges :=
  a.flatMap fun r => b.filterMap fun s =>
    if max r.1 s.1 ≤ min r.2 s.2 then some (max r.1 s.1, min r.2 s.2) else none

/-- The code point of the character behind a character. There are none from D800 to DFFF. -/
def following (n : Nat) : Nat := if n = 0xD7FF then 0xE000 else n + 1

/-- The code point of the character in front of a character. -/
def preceding (n : Nat) : Nat := if n = 0xE000 then 0xD7FF else n - 1

/-- What lies from `n` on and not in the ranges. -/
def outsideFrom (n : Nat) : Ranges → Ranges
  | [] => if n ≤ top then [(n, top)] else []
  | r :: rest =>
    let others := outsideFrom (following r.2) rest
    if n < r.1 then (n, preceding r.1) :: others else others

/-- What does not lie in the ranges. -/
def complement (a : Ranges) : Ranges := a.outsideFrom 0

/-- What lies in the one and not in the other. -/
def diff (a b : Ranges) : Ranges := a.inter b.complement

/-- What lies in exactly one of both. -/
def symmDiff (a b : Ranges) : Ranges := (a.union b).diff (a.inter b)

/-- The class with both cases of its ASCII letters. -/
def bothCases (a : Ranges) : Ranges :=
  let raised := (a.inter (between 'a' 'z')).map fun r => (r.1 - 32, r.2 - 32)
  let lowered := (a.inter (between 'A' 'Z')).map fun r => (r.1 + 32, r.2 + 32)
  (a.union raised).union lowered

theorem has_insert {r : Nat × Nat} {rs : Ranges} (hr : r.1 ≤ r.2) (hs : ∀ s ∈ rs, s.1 ≤ s.2)
    (c : Char) : (rs.insert r).has c = (has [r] c || rs.has c) := by
  induction rs generalizing r with
  | nil => simp [insert, has]
  | cons s rest ih =>
    have h := hs s List.mem_cons_self
    have hrest : ∀ t ∈ rest, t.1 ≤ t.2 := fun t ht => hs t (List.mem_cons_of_mem _ ht)
    unfold insert
    split
    · simp [has]
    · split
      · have := ih hr hrest
        simp only [has, List.any_cons, List.any_nil, Bool.or_false] at this ⊢
        rw [this]; simp only [Bool.or_left_comm]
      · rw [ih (by simp only; omega) hrest]
        simp only [has, List.any_cons, List.any_nil, Bool.or_false, ← Bool.or_assoc]
        congr 1
        rw [Bool.eq_iff_iff]
        simp only [Bool.and_eq_true, Bool.or_eq_true, decide_eq_true_eq]
        omega

end Ranges

end TrafficRouting.Text
