import Mathlib
import TrafficRouting.Text.Ranges

/-!
# TrafficRouting.Proofs.Text.Ranges — what lies in classes made of classes

A class is `Tidy` if none of its ranges is empty and no two of them overlap or touch.  The
operations make tidy classes of tidy ones, and their names say which characters lie in the result:
those in the one or the other class (`has_union`), in both (`has_inter`), outside of it
(`has_complement`), and so on.  Surrogates are no characters, so a class and its complement need not
meet there.
-/

namespace TrafficRouting.Text.Ranges

variable {a b : Ranges} {r s x : Nat × Nat} {c : Char} {n : Nat}

/-! ### Tidy classes -/

/-- A range from a character to one that is not in front of it. -/
def Proper (r : Nat × Nat) : Prop := r.1 ≤ r.2 ∧ r.1.isValidChar ∧ r.2.isValidChar

instance (r : Nat × Nat) : Decidable (Proper r) :=
  inferInstanceAs (Decidable (r.1 ≤ r.2 ∧ (_ ∨ _) ∧ (_ ∨ _)))

/-- The ranges are proper and in order, and between any two of them there is a gap. -/
structure Tidy (a : Ranges) : Prop where
  proper : ∀ r ∈ a, Proper r
  apart : a.Pairwise fun r s => r.2 + 1 < s.1

instance (a : Ranges) : Decidable a.Tidy :=
  decidable_of_iff ((∀ r ∈ a, Proper r) ∧ a.Pairwise fun r s => r.2 + 1 < s.1)
    ⟨fun h => ⟨h.1, h.2⟩, fun h => ⟨h.proper, h.apart⟩⟩

theorem tidy_nil : Tidy [] := ⟨nofun, .nil⟩

theorem tidy_cons_iff :
    Tidy (r :: a) ↔ Proper r ∧ (∀ s ∈ a, r.2 + 1 < s.1) ∧ a.Tidy := by
  constructor
  · rintro ⟨hproper, hapart⟩
    rw [List.forall_mem_cons] at hproper
    rw [List.pairwise_cons] at hapart
    exact ⟨hproper.1, hapart.1, hproper.2, hapart.2⟩
  · rintro ⟨hr, hgap, ha⟩
    exact ⟨List.forall_mem_cons.mpr ⟨hr, ha.proper⟩, List.pairwise_cons.mpr ⟨hgap, ha.apart⟩⟩

theorem isValidChar_toNat (c : Char) : c.toNat.isValidChar := c.valid

theorem tidy_only (c : Char) : (only c).Tidy :=
  tidy_cons_iff.mpr ⟨⟨Nat.le_refl _, isValidChar_toNat c, isValidChar_toNat c⟩, nofun, tidy_nil⟩

theorem tidy_between {c d : Char} (h : c ≤ d) : (between c d).Tidy :=
  tidy_cons_iff.mpr ⟨⟨h, isValidChar_toNat c, isValidChar_toNat d⟩, nofun, tidy_nil⟩

/-! ### Characters in a class -/

theorem has_iff : a.has c = true ↔ ∃ r ∈ a, r.1 ≤ c.toNat ∧ c.toNat ≤ r.2 := by
  simp [has, List.any_eq_true]

@[simp] theorem has_nil : has [] c = false := rfl

theorem has_cons_iff :
    has (r :: a) c = true ↔ (r.1 ≤ c.toNat ∧ c.toNat ≤ r.2) ∨ has a c = true := by
  simp [has]

theorem has_append : has (a ++ b) c = (a.has c || b.has c) := by
  simp [has]

/-! ### In the one or in the other -/

/-- Adding a range makes no new ends. -/
theorem ends_of_mem_insert (h : x ∈ insert r a) :
    (x.1 = r.1 ∨ ∃ s ∈ a, x.1 = s.1) ∧ (x.2 = r.2 ∨ ∃ s ∈ a, x.2 = s.2) := by
  induction a generalizing r with
  | nil =>
    obtain rfl := List.mem_singleton.mp h
    exact ⟨Or.inl rfl, Or.inl rfl⟩
  | cons s a ih =>
    rw [insert] at h
    split at h
    · rcases List.mem_cons.mp h with rfl | h
      · exact ⟨Or.inl rfl, Or.inl rfl⟩
      · exact ⟨Or.inr ⟨x, h, rfl⟩, Or.inr ⟨x, h, rfl⟩⟩
    · split at h
      · rcases List.mem_cons.mp h with rfl | h
        · exact ⟨Or.inr ⟨x, List.mem_cons_self, rfl⟩, Or.inr ⟨x, List.mem_cons_self, rfl⟩⟩
        · obtain ⟨hfirst, hlast⟩ := ih h
          grind
      · obtain ⟨hfirst, hlast⟩ := ih h
        grind

/-- Ranges that become one. -/
theorem Proper.join (hr : Proper r) (hs : Proper s) : Proper (min r.1 s.1, max r.2 s.2) := by
  simp only [Proper, Nat.isValidChar] at hr hs ⊢
  omega

theorem tidy_insert (hr : Proper r) (ha : a.Tidy) : (insert r a).Tidy := by
  induction a generalizing r with
  | nil => exact tidy_cons_iff.mpr ⟨hr, nofun, tidy_nil⟩
  | cons s a ih =>
    obtain ⟨hs, hgap, ha'⟩ := tidy_cons_iff.mp ha
    rw [insert]
    split
    · rename_i hbefore
      refine tidy_cons_iff.mpr ⟨hr, List.forall_mem_cons.mpr ⟨hbefore, fun t ht => ?_⟩, ha⟩
      have hle := hs.1
      have hlt := hgap t ht
      omega
    · split
      · rename_i hbehind
        refine tidy_cons_iff.mpr ⟨hs, fun x hx => ?_, ih hr ha'⟩
        rcases (ends_of_mem_insert hx).1 with hfirst | ⟨t, ht, hfirst⟩
        · rwa [hfirst]
        · rw [hfirst]
          exact hgap t ht
      · exact ih (hr.join hs) ha'

theorem tidy_union (ha : a.Tidy) (hb : ∀ r ∈ b, Proper r) : (a.union b).Tidy := by
  induction b generalizing a with
  | nil => exact ha
  | cons r b ih =>
    rw [List.forall_mem_cons] at hb
    exact ih (tidy_insert hb.1 ha) hb.2

/-- **What lies in the one or in the other.** -/
theorem has_union (ha : a.Tidy) (hb : ∀ r ∈ b, Proper r) :
    (a.union b).has c = (a.has c || b.has c) := by
  induction b generalizing a with
  | nil => exact (Bool.or_false _).symm
  | cons r b ih =>
    rw [List.forall_mem_cons] at hb
    have hcons : has (r :: b) c = (has [r] c || has b c) := has_append (a := [r])
    have hstep : (a.union (r :: b)).has c = ((a.insert r).union b).has c := rfl
    rw [hstep, ih (tidy_insert hb.1 ha) hb.2, has_insert hb.1.1 fun s hs => (ha.proper s hs).1,
      hcons, Bool.or_assoc, Bool.or_left_comm]

/-! ### In both -/

/-- What a range has in common with each range of a class. -/
theorem mem_inter : x ∈ a.inter b ↔ ∃ r ∈ a, ∃ s ∈ b, max r.1 s.1 ≤ min r.2 s.2 ∧
    x = (max r.1 s.1, min r.2 s.2) := by
  simp only [inter, List.mem_flatMap, List.mem_filterMap, Option.ite_none_right_eq_some,
    Option.some.injEq, eq_comm (a := x)]

/-- **What lies in both.** -/
theorem has_inter : (a.inter b).has c = (a.has c && b.has c) := by
  rw [Bool.eq_iff_iff, Bool.and_eq_true, has_iff, has_iff, has_iff]
  constructor
  · rintro ⟨x, hx, hfirst, hlast⟩
    obtain ⟨r, hr, s, hs, -, rfl⟩ := mem_inter.mp hx
    exact ⟨⟨r, hr, by omega, by omega⟩, ⟨s, hs, by omega, by omega⟩⟩
  · rintro ⟨⟨r, hr, hr₁, hr₂⟩, ⟨s, hs, hs₁, hs₂⟩⟩
    refine ⟨_, mem_inter.mpr ⟨r, hr, s, hs, ?_, rfl⟩, ?_, ?_⟩
    · omega
    · exact Nat.max_le.mpr ⟨hr₁, hs₁⟩
    · exact Nat.le_min.mpr ⟨hr₂, hs₂⟩

theorem tidy_inter (ha : a.Tidy) (hb : b.Tidy) : (a.inter b).Tidy := by
  constructor
  · intro x hx
    obtain ⟨r, hr, s, hs, hle, rfl⟩ := mem_inter.mp hx
    have hr := ha.proper r hr
    have hs := hb.proper s hs
    simp only [Proper, Nat.isValidChar] at hr hs ⊢
    omega
  · rw [inter, List.pairwise_flatMap]
    refine ⟨fun r hr => ?_, ha.apart.imp fun hgap x hx y hy => ?_⟩
    · rw [List.pairwise_filterMap]
      refine hb.apart.imp fun hgap x hx y hy => ?_
      simp only [Option.ite_none_right_eq_some, Option.some.injEq] at hx hy
      obtain ⟨-, rfl⟩ := hx
      obtain ⟨-, rfl⟩ := hy
      dsimp only
      omega
    · simp only [List.mem_filterMap, Option.ite_none_right_eq_some, Option.some.injEq] at hx hy
      obtain ⟨s, -, -, rfl⟩ := hx
      obtain ⟨t, -, -, rfl⟩ := hy
      dsimp only
      omega

/-! ### Outside -/

theorem following_le_iff : following n ≤ c.toNat ↔ n < c.toNat := by
  have hc := isValidChar_toNat c
  simp only [Nat.isValidChar] at hc
  unfold following
  split
  · omega
  · omega

theorem le_preceding_iff (h : 0 < n) : c.toNat ≤ preceding n ↔ c.toNat < n := by
  have hc := isValidChar_toNat c
  simp only [Nat.isValidChar] at hc
  unfold preceding
  split
  · omega
  · omega

theorem lt_following (n : Nat) : n < following n := by
  unfold following
  split
  · omega
  · omega

theorem preceding_lt (h : 0 < n) : preceding n < n := by
  unfold preceding
  split
  · omega
  · omega

/-- What follows a range is not beyond the beginning of a range behind it. -/
theorem following_le (hs : Proper s) (h : n + 1 < s.1) : following n ≤ s.1 := by
  have hvalid := hs.2.1
  simp only [Nat.isValidChar] at hvalid
  unfold following
  split
  · omega
  · omega

theorem isValidChar_following (h : n.isValidChar) (htop : following n ≤ top) :
    (following n).isValidChar := by
  simp only [following, top, Nat.isValidChar] at h htop ⊢
  by_cases hn : n = 0xD7FF
  · rw [if_pos hn]
    omega
  · rw [if_neg hn] at htop ⊢
    omega

/-- A gap in front of a range is proper. -/
theorem proper_preceding (hn : n.isValidChar) (hr : Proper r) (h : n < r.1) :
    Proper (n, preceding r.1) := by
  have hvalid := hr.2.1
  unfold preceding
  simp only [Proper, Nat.isValidChar] at hn hvalid ⊢
  split
  · omega
  · omega

theorem isValidChar_top : top.isValidChar := by decide

theorem le_top (h : n.isValidChar) : n ≤ top := by
  simp only [Nat.isValidChar, top] at h ⊢
  omega

/-- What lies from `n` on and outside of a class that begins at `n` or behind it. -/
theorem has_outsideFrom_iff (ha : a.Tidy) (hn : ∀ r ∈ a, n ≤ r.1) :
    (outsideFrom n a).has c = true ↔ n ≤ c.toNat ∧ ¬ a.has c = true := by
  induction a generalizing n with
  | nil =>
    have htop := le_top (isValidChar_toNat c)
    rw [outsideFrom]
    split
    · simp [has_cons_iff, htop]
    · exact iff_of_false Bool.false_ne_true fun h => by omega
  | cons r a ih =>
    obtain ⟨hr, hgap, ha'⟩ := tidy_cons_iff.mp ha
    have hnext : ∀ s ∈ a, following r.2 ≤ s.1 := fun s hs =>
      following_le (ha'.proper s hs) (hgap s hs)
    have hbehind : has a c = true → r.2 < c.toNat := by
      intro hc
      obtain ⟨s, hs, hfirst, -⟩ := has_iff.mp hc
      have hlt := hgap s hs
      omega
    have hle := hr.1
    have hfirst := hn r List.mem_cons_self
    rw [outsideFrom, has_cons_iff (a := a)]
    split
    · rename_i hlt
      rw [has_cons_iff, le_preceding_iff (Nat.zero_lt_of_lt hlt), ih ha' hnext, following_le_iff]
      grind
    · rw [ih ha' hnext, following_le_iff]
      grind

theorem tidy_outsideFrom (ha : a.Tidy) (hn : ∀ r ∈ a, n ≤ r.1)
    (hvalid : n ≤ top → n.isValidChar) :
    (outsideFrom n a).Tidy ∧ ∀ r ∈ outsideFrom n a, n ≤ r.1 := by
  induction a generalizing n with
  | nil =>
    unfold outsideFrom
    split
    · rename_i htop
      refine ⟨tidy_cons_iff.mpr ⟨⟨htop, hvalid htop, isValidChar_top⟩, nofun, tidy_nil⟩, ?_⟩
      exact List.forall_mem_singleton.mpr (Nat.le_refl n)
    · exact ⟨tidy_nil, nofun⟩
  | cons r a ih =>
    obtain ⟨hr, hgap, ha'⟩ := tidy_cons_iff.mp ha
    obtain ⟨htidy, hlow⟩ := ih ha'
      (fun s hs => following_le (ha'.proper s hs) (hgap s hs)) (isValidChar_following hr.2.2)
    have hle := hr.1
    have hlt := lt_following r.2
    rw [outsideFrom]
    split
    · rename_i hfirst
      have hvalid' := hvalid (hfirst.le.trans (le_top hr.2.1))
      have hpreceding := preceding_lt (Nat.zero_lt_of_lt hfirst)
      refine ⟨tidy_cons_iff.mpr ⟨proper_preceding hvalid' hr hfirst, fun s hs => ?_, htidy⟩,
        List.forall_mem_cons.mpr ⟨Nat.le_refl n, fun s hs => ?_⟩⟩
      · have hnext := hlow s hs
        dsimp only
        omega
      · have hnext := hlow s hs
        omega
    · refine ⟨htidy, fun s hs => ?_⟩
      have hfirst := hn r List.mem_cons_self
      have hnext := hlow s hs
      omega

theorem tidy_complement (ha : a.Tidy) : a.complement.Tidy :=
  (tidy_outsideFrom ha (fun _ _ => Nat.zero_le _) fun _ => by decide).1

/-- **What lies outside.** -/
theorem has_complement (ha : a.Tidy) : a.complement.has c = !a.has c := by
  rw [Bool.eq_iff_iff, complement, has_outsideFrom_iff ha fun _ _ => Nat.zero_le _]
  simp

example : complement [(0xD000, 0xD7FF)] = [(0, 0xCFFF), (0xE000, 0x10FFFF)] := by decide

theorem tidy_diff (ha : a.Tidy) (hb : b.Tidy) : (a.diff b).Tidy :=
  tidy_inter ha (tidy_complement hb)

theorem has_diff (hb : b.Tidy) : (a.diff b).has c = (a.has c && !b.has c) := by
  rw [diff, has_inter, has_complement hb]

theorem tidy_symmDiff (ha : a.Tidy) (hb : b.Tidy) : (a.symmDiff b).Tidy :=
  tidy_diff (tidy_union ha hb.proper) (tidy_inter ha hb)

theorem has_symmDiff (ha : a.Tidy) (hb : b.Tidy) :
    (a.symmDiff b).has c = (a.has c != b.has c) := by
  rw [symmDiff, has_diff (tidy_inter ha hb), has_union ha hb.proper, has_inter]
  cases a.has c <;> cases b.has c <;> rfl

/-! ### Both cases -/

theorem isUpper_iff : c.isUpper = true ↔ 0x41 ≤ c.toNat ∧ c.toNat ≤ 0x5A := decide_eq_true_iff

theorem isLower_iff : c.isLower = true ↔ 0x61 ≤ c.toNat ∧ c.toNat ≤ 0x7A := by
  rw [Char.isLower, Bool.and_eq_true, decide_eq_true_iff, decide_eq_true_iff]
  exact Iff.rfl

theorem toNat_toLower (h : c.isUpper = true) : c.toLower.toNat = c.toNat + 32 := by
  have hbounds := isUpper_iff.mp h
  rw [Char.toLower_eq_of_isUpper h, Char.toNat_ofNat, if_pos (Or.inl (by omega))]

theorem toNat_toUpper (h : c.isLower = true) : c.toUpper.toNat = c.toNat - 32 := by
  have hbounds := isLower_iff.mp h
  rw [Char.toUpper_eq_of_isLower h, Char.toNat_ofNat, if_pos (Or.inl (by omega))]

section

variable (f : Nat → Nat) {d e : Char}

/-- The part of a class between two characters. -/
theorem bounds_of_mem_inter (h : r ∈ a.inter (between d e)) :
    d.toNat ≤ r.1 ∧ r.1 ≤ r.2 ∧ r.2 ≤ e.toNat := by
  obtain ⟨s, -, t, ht, hle, rfl⟩ := mem_inter.mp h
  obtain rfl := List.mem_singleton.mp ht
  dsimp only at hle ⊢
  omega

/-- The part moves as a whole. -/
theorem has_moved_iff (c' : Char) (h : ∀ n m, d.toNat ≤ n → n ≤ m → m ≤ e.toNat →
      (f n ≤ c.toNat ∧ c.toNat ≤ f m ↔ n ≤ c'.toNat ∧ c'.toNat ≤ m)) :
    has ((a.inter (between d e)).map fun r => (f r.1, f r.2)) c = true ↔
      a.has c' = true ∧ d.toNat ≤ c'.toNat ∧ c'.toNat ≤ e.toNat := by
  have hmoved : has ((a.inter (between d e)).map fun r => (f r.1, f r.2)) c = true ↔
      (a.inter (between d e)).has c' = true := by
    rw [has_iff, has_iff]
    constructor
    · rintro ⟨_, hx, hc⟩
      obtain ⟨r, hr, rfl⟩ := List.mem_map.mp hx
      obtain ⟨hfirst, hle, hlast⟩ := bounds_of_mem_inter hr
      exact ⟨r, hr, (h _ _ hfirst hle hlast).mp hc⟩
    · rintro ⟨r, hr, hc⟩
      obtain ⟨hfirst, hle, hlast⟩ := bounds_of_mem_inter hr
      exact ⟨_, List.mem_map_of_mem hr, (h _ _ hfirst hle hlast).mpr hc⟩
  rw [hmoved, has_inter, Bool.and_eq_true, between, has_cons_iff, has_nil]
  simp

theorem proper_of_moved (h : ∀ n m, d.toNat ≤ n → n ≤ m → m ≤ e.toNat → f n ≤ f m ∧ f m < 0x80)
    (hx : x ∈ (a.inter (between d e)).map fun r => (f r.1, f r.2)) : Proper x := by
  obtain ⟨r, hr, rfl⟩ := List.mem_map.mp hx
  obtain ⟨hfirst, hle, hlast⟩ := bounds_of_mem_inter hr
  obtain ⟨hle, hlt⟩ := h _ _ hfirst hle hlast
  exact ⟨hle, Or.inl (by dsimp only; omega), Or.inl (by dsimp only; omega)⟩

end

/-- The capitals of the small letters in a class. -/
theorem has_raised_iff : has ((a.inter (between 'a' 'z')).map fun r => (r.1 - 32, r.2 - 32)) c =
    true ↔ c.isUpper = true ∧ a.has c.toLower = true := by
  have hletters : 'a'.toNat = 0x61 ∧ 'z'.toNat = 0x7A := ⟨rfl, rfl⟩
  by_cases hc : c.isUpper = true
  · have hbounds := isUpper_iff.mp hc
    have hlower := toNat_toLower hc
    refine (has_moved_iff (· - 32) c.toLower fun n m _ _ _ => by omega).trans ?_
    exact ⟨fun h => ⟨hc, h.1⟩, fun h => ⟨h.2, by omega, by omega⟩⟩
  · -- nothing moves to `c`, nor is anything moved from the null character
    have hbounds := mt isUpper_iff.mpr hc
    have hzero : '\x00'.toNat = 0 := rfl
    refine (has_moved_iff (· - 32) '\x00' fun n m _ _ _ => by omega).trans ?_
    exact iff_of_false (fun h => by omega) fun h => hc h.1

/-- The small letters of the capitals in a class. -/
theorem has_lowered_iff : has ((a.inter (between 'A' 'Z')).map fun r => (r.1 + 32, r.2 + 32)) c =
    true ↔ c.isLower = true ∧ a.has c.toUpper = true := by
  have hletters : 'A'.toNat = 0x41 ∧ 'Z'.toNat = 0x5A := ⟨rfl, rfl⟩
  by_cases hc : c.isLower = true
  · have hbounds := isLower_iff.mp hc
    have hupper := toNat_toUpper hc
    refine (has_moved_iff (· + 32) c.toUpper fun n m _ _ _ => by omega).trans ?_
    exact ⟨fun h => ⟨hc, h.1⟩, fun h => ⟨h.2, by omega, by omega⟩⟩
  · have hbounds := mt isLower_iff.mpr hc
    have hzero : '\x00'.toNat = 0 := rfl
    refine (has_moved_iff (· + 32) '\x00' fun n m _ _ _ => by omega).trans ?_
    exact iff_of_false (fun h => by omega) fun h => hc h.1

theorem proper_raised (h : x ∈ (a.inter (between 'a' 'z')).map fun r => (r.1 - 32, r.2 - 32)) :
    Proper x := by
  have hletters : 'a'.toNat = 0x61 ∧ 'z'.toNat = 0x7A := ⟨rfl, rfl⟩
  exact proper_of_moved (· - 32) (fun n m _ _ _ => by omega) h

theorem proper_lowered (h : x ∈ (a.inter (between 'A' 'Z')).map fun r => (r.1 + 32, r.2 + 32)) :
    Proper x := by
  have hletters : 'A'.toNat = 0x41 ∧ 'Z'.toNat = 0x5A := ⟨rfl, rfl⟩
  exact proper_of_moved (· + 32) (fun n m _ _ _ => by omega) h

theorem tidy_bothCases (ha : a.Tidy) : a.bothCases.Tidy :=
  tidy_union (tidy_union ha fun _ => proper_raised) fun _ => proper_lowered

/-- **What lies in a class in either case.** -/
theorem has_bothCases (ha : a.Tidy) :
    a.bothCases.has c = (a.has c || a.has c.toLower || a.has c.toUpper) := by
  rw [bothCases, has_union (tidy_union ha fun _ => proper_raised) fun _ => proper_lowered,
    has_union ha fun _ => proper_raised, Bool.eq_iff_iff]
  simp only [Bool.or_eq_true, has_raised_iff, has_lowered_iff]
  constructor
  · rintro ((h | ⟨-, h⟩) | ⟨-, h⟩)
    · exact Or.inl (Or.inl h)
    · exact Or.inl (Or.inr h)
    · exact Or.inr h
  · rintro ((h | h) | h)
    · exact Or.inl (Or.inl h)
    · by_cases hc : c.isUpper = true
      · exact Or.inl (Or.inr ⟨hc, h⟩)
      · exact Or.inl (Or.inl (Char.toLower_eq_of_not_isUpper hc ▸ h))
    · by_cases hc : c.isLower = true
      · exact Or.inr ⟨hc, h⟩
      · exact Or.inl (Or.inl (Char.toUpper_eq_of_not_isLower hc ▸ h))

end TrafficRouting.Text.Ranges
