/-!
# TrafficRouting.Text.Utf8 — bytes as text

`decode?` accepts exactly valid UTF-8. `decodeLossy` shows any bytes: each longest broken piece of
a character becomes one replacement character.
-/

namespace TrafficRouting.Text

/-- The text that the bytes encode, if they are valid. -/
def decode? (b : ByteArray) : Option String := String.fromUTF8? b

/-- The number of bytes that the lead byte announces, and the range of the second one. -/
def leadByte (b : Nat) : Option (Nat × Nat × Nat) :=
  if b < 0x80 then some (1, 0, 0)
  else if 0xC2 ≤ b && b ≤ 0xDF then some (2, 0x80, 0xBF)
  else if b = 0xE0 then some (3, 0xA0, 0xBF)
  else if b = 0xED then some (3, 0x80, 0x9F)
  else if 0xE1 ≤ b && b ≤ 0xEF then some (3, 0x80, 0xBF)
  else if b = 0xF0 then some (4, 0x90, 0xBF)
  else if 0xF1 ≤ b && b ≤ 0xF3 then some (4, 0x80, 0xBF)
  else if b = 0xF4 then some (4, 0x80, 0x8F)
  else none

/-- Takes up to `n` continuation bytes in the given range (later ones in the full range), collecting
their bits. Yields what was collected, how many are missing, and the rest. -/
def takeTail : Nat → Nat → Nat → Nat → List Nat → Nat × Nat × List Nat
  | 0, _, _, acc, rest => (acc, 0, rest)
  | n + 1, lo, hi, acc, b :: rest =>
    if lo ≤ b && b ≤ hi then takeTail n 0x80 0xBF (acc * 64 + b % 64) rest
    else (acc, n + 1, b :: rest)
  | n + 1, _, _, acc, [] => (acc, n + 1, [])

theorem takeTail_length (n lo hi acc : Nat) (s : List Nat) :
    (takeTail n lo hi acc s).2.2.length ≤ s.length := by
  fun_induction takeTail n lo hi acc s with
  | case1 => exact Nat.le_refl _
  | case2 lo hi acc n b rest h ih => exact Nat.le_succ_of_le ih
  | case3 => exact Nat.le_refl _
  | case4 => exact Nat.le_refl _

/-- The characters that the bytes show. -/
def lossyChars : List Nat → List Char
  | [] => []
  | b :: rest =>
    match leadByte b with
    | none => '\uFFFD' :: lossyChars rest
    | some (n, lo, hi) =>
      let bits := if n = 1 then b else b % Nat.pow 2 (7 - n)
      let tail := takeTail (n - 1) lo hi bits rest
      (if tail.2.1 = 0 then Char.ofNat tail.1 else '\uFFFD') :: lossyChars tail.2.2
termination_by s => s.length
decreasing_by
  · simp
  · exact Nat.lt_succ_of_le (takeTail_length ..)

/-- Any bytes as text, with replacement characters where they are not valid. -/
def decodeLossy (b : ByteArray) : String :=
  (decode? b).getD (.ofList (lossyChars (b.toList.map (·.toNat))))

end TrafficRouting.Text
