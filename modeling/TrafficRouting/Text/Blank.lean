/-!
# TrafficRouting.Text.Blank — white space

`isBlank` is the `White_Space` property of Unicode; `trim` drops it at both ends.
-/

namespace TrafficRouting.Text

/-- White space: the ASCII controls from tab to carriage return, the space, the next-line character,
and the space separators and line separators beyond ASCII. -/
def isBlank (c : Char) : Bool :=
  let n := c.toNat
  (0x9 ≤ n && n ≤ 0xD) || n = 0x20 || n = 0x85 || n = 0xA0 || n = 0x1680 ||
    (0x2000 ≤ n && n ≤ 0x200A) || n = 0x2028 || n = 0x2029 || n = 0x202F || n = 0x205F || n = 0x3000

/-- The text without the white space at its ends. -/
def trimChars (s : List Char) : List Char :=
  ((s.dropWhile isBlank).reverse.dropWhile isBlank).reverse

@[inherit_doc trimChars]
def trim (s : String) : String := .ofList (trimChars s.toList)

/-- The text is white space throughout. -/
def blank (s : String) : Bool := s.toList.all isBlank

theorem dropWhile_eq_nil_iff {p : Char → Bool} {s : List Char} :
    s.dropWhile p = [] ↔ ∀ c ∈ s, p c = true := by
  induction s with
  | nil => simp
  | cons c r ih => by_cases h : p c <;> simp [h, ih]

theorem trimChars_eq_nil_iff {s : List Char} : trimChars s = [] ↔ ∀ c ∈ s, isBlank c = true := by
  constructor
  · intro h
    simp only [trimChars, List.reverse_eq_nil_iff, dropWhile_eq_nil_iff, List.mem_reverse] at h
    by_cases hd : s.dropWhile isBlank = []
    · exact dropWhile_eq_nil_iff.mp hd
    · have hh := List.head_dropWhile_not isBlank hd
      have := h _ (List.head_mem hd)
      simp_all
  · intro h
    simp [trimChars, dropWhile_eq_nil_iff.mpr h]

theorem blank_iff_trim {s : String} : blank s = true ↔ trim s = "" := by
  have : trim s = "" ↔ trimChars s.toList = [] := by
    rw [← String.toList_inj, trim, String.toList_ofList]; rfl
  rw [this, trimChars_eq_nil_iff, blank, List.all_eq_true]

end TrafficRouting.Text
