import TrafficRouting.KnownTypes
import TrafficRouting.Proofs.Text.Casing

/-!
# TrafficRouting.Proofs.KnownTypes — the spellings of a type

What counts of a type is its normal form, so that a type is known exactly if one of the same normal
form has been made known in the same role (`has_addEach`), in whatever order and however often.
White space at its ends and upper case leave the normal form as it is.  Lower case does so too,
unless the type has a one-way capital; such a type is not known by its lower case
(`known_in_every_spelling`).
-/

namespace TrafficRouting

/-- What a type is asked for as. -/
inductive Role
  | algorithm
  | loadBalancer
deriving DecidableEq

/-- The type is known in the role. -/
def KnownTypes.Has (known : KnownTypes) (type : String) : Role → Prop
  | .algorithm => normalType type ∈ known.algorithms
  | .loadBalancer => normalType type ∈ known.loadBalancers

instance (known : KnownTypes) (type : String) : (role : Role) → Decidable (known.Has type role)
  | .algorithm => inferInstanceAs (Decidable (_ ∈ known.algorithms))
  | .loadBalancer => inferInstanceAs (Decidable (_ ∈ known.loadBalancers))

/-! ### Normal forms -/

/-- The spellings of a type: it may be put in upper or lower case, white space may be added at its
ends, and taken away. -/
inductive Spelling (s : String) : String → Prop
  | written : Spelling s s
  | upper {t : String} : Spelling s t → Spelling s (Text.upper t)
  | lower {t : String} : Spelling s t → Spelling s (Text.lower t)
  | padded {t a b : String} (ha : Text.blank a = true) (hb : Text.blank b = true) :
    Spelling s t → Spelling s (a ++ t ++ b)
  | trimmed {t : String} : Spelling s t → Spelling s (Text.trim t)

theorem normalType_upper (t : String) : normalType (Text.upper t) = normalType t := by
  rw [normalType, Text.trim_upper, Text.upper_upper, normalType]

theorem normalType_padded {a b : String} (ha : Text.blank a = true) (hb : Text.blank b = true)
    (t : String) : normalType (a ++ t ++ b) = normalType t := by
  rw [normalType, Text.trim_append ha hb, normalType]

theorem normalType_trim (t : String) : normalType (Text.trim t) = normalType t := by
  rw [normalType, Text.trim_trim, normalType]

theorem normalType_lower {t : String} (h : ∀ c ∈ t.toList, c.toNat ∉ Text.oneWayCapitals) :
    normalType (Text.lower t) = normalType t := by
  rw [normalType, ← Text.trim_upper, Text.upper_lower h, Text.trim_upper, normalType]

/-- One-way capitals are neither added nor lost but by lower case. -/
theorem Spelling.normalType_eq {s t : String} (h : Spelling s t)
    (hs : ∀ c ∈ s.toList, c.toNat ∉ Text.oneWayCapitals) :
    normalType t = normalType s ∧ ∀ c ∈ t.toList, c.toNat ∉ Text.oneWayCapitals := by
  induction h with
  | written => exact ⟨rfl, hs⟩
  | upper _ ih =>
    refine ⟨(normalType_upper _).trans ih.1, fun c hc hone => ?_⟩
    exact ih.2 c ((Text.mem_upper_oneWay hone).mp hc) hone
  | lower _ ih =>
    exact ⟨(normalType_lower ih.2).trans ih.1, fun c hc hone =>
      Text.notMem_lower_oneWay hone _ hc⟩
  | @padded t a b ha hb _ ih =>
    refine ⟨(normalType_padded ha hb _).trans ih.1, fun c hc hone => ?_⟩
    have hblank := Text.not_isBlank_of_oneWay hone
    rw [String.toList_append, String.toList_append, List.mem_append, List.mem_append] at hc
    rcases hc with (hc | hc) | hc
    · rw [List.all_eq_true.mp ha c hc] at hblank
      cases hblank
    · exact ih.2 c hc hone
    · rw [List.all_eq_true.mp hb c hc] at hblank
      cases hblank
  | trimmed _ ih =>
    refine ⟨(normalType_trim _).trans ih.1, fun c hc hone => ?_⟩
    exact ih.2 c ((Text.mem_trim (Text.not_isBlank_of_oneWay hone)).mp hc) hone

/-- The normal form keeps a one-way capital, which lower case takes away. -/
theorem normalType_lower_ne {s : String} {c : Char} (hc : c ∈ s.toList)
    (hone : c.toNat ∈ Text.oneWayCapitals) : normalType (Text.lower s) ≠ normalType s := by
  have hmem : ∀ t : String, c ∈ (normalType t).toList ↔ c ∈ t.toList := by
    intro t
    rw [normalType, Text.mem_upper_oneWay hone, Text.mem_trim (Text.not_isBlank_of_oneWay hone)]
  intro heq
  refine Text.notMem_lower_oneWay hone s ((hmem _).mp ?_)
  rw [heq]
  exact (hmem s).mpr hc

/-! ### Registrations -/

namespace KnownTypes

/-- Makes a type known in a role. -/
def add (known : KnownTypes) (type : String) : Role → KnownTypes
  | .algorithm => known.addAlgorithm type
  | .loadBalancer => known.addLoadBalancer type

/-- Makes types known one after the other. -/
def addEach (known : KnownTypes) (rs : List (String × Role)) : KnownTypes :=
  rs.foldl (fun k r => k.add r.1 r.2) known

variable {known : KnownTypes} {s t : String} {role : Role}

theorem has_congr (h : normalType s = normalType t) : known.Has s role ↔ known.Has t role := by
  cases role with
  | algorithm => rw [Has, Has, h]
  | loadBalancer => rw [Has, Has, h]

/-- One registration makes one normal form known, in its own role. -/
theorem has_add (known : KnownTypes) (r : String × Role) :
    (known.add r.1 r.2).Has s role ↔
      known.Has s role ∨ r.2 = role ∧ normalType r.1 = normalType s := by
  obtain ⟨t, role'⟩ := r
  cases role' with
  | algorithm => cases role with
    | algorithm => simp [add, addAlgorithm, Has, eq_comm]
    | loadBalancer => simp [add, addAlgorithm, Has]
  | loadBalancer => cases role with
    | algorithm => simp [add, addLoadBalancer, Has]
    | loadBalancer => simp [add, addLoadBalancer, Has, eq_comm]

/-- **What is known has been made known**, in any order and however often. -/
theorem has_addEach (known : KnownTypes) (rs : List (String × Role)) :
    (known.addEach rs).Has s role ↔
      known.Has s role ∨ ∃ t, (t, role) ∈ rs ∧ normalType t = normalType s := by
  induction rs generalizing known with
  | nil => simp [addEach]
  | cons r rs ih =>
    have hstep : known.addEach (r :: rs) = (known.add r.1 r.2).addEach rs := rfl
    rw [hstep, ih, has_add, or_assoc]
    refine or_congr_right ?_
    constructor
    · rintro (⟨hrole, hr⟩ | ⟨t, ht, hn⟩)
      · exact ⟨r.1, hrole ▸ List.mem_cons_self, hr⟩
      · exact ⟨t, List.mem_cons_of_mem _ ht, hn⟩
    · rintro ⟨t, ht, hn⟩
      rcases List.mem_cons.mp ht with rfl | ht
      · exact Or.inl ⟨rfl, hn⟩
      · exact Or.inr ⟨t, ht, hn⟩

/-- **A type is known in every spelling**, whatever has been made known before, after and how often:
white space around it and upper case never matter; without one-way capitals lower case does not
either, and one registration in any spelling makes all spellings known.  A type with a one-way
capital is known when it has been registered, but its lower case is not known any more than
before. -/
theorem known_in_every_spelling (start : KnownTypes) (rs : List (String × Role)) (s : String)
    (role : Role) :
    ((start.addEach rs).Has s role ↔
      start.Has s role ∨ ∃ t, (t, role) ∈ rs ∧ normalType t = normalType s) ∧
    ((start.addEach rs).Has (Text.upper s) role ↔ (start.addEach rs).Has s role) ∧
    (∀ a b, Text.blank a = true → Text.blank b = true →
      ((start.addEach rs).Has (a ++ s ++ b) role ↔ (start.addEach rs).Has s role)) ∧
    ((∀ c ∈ s.toList, c.toNat ∉ Text.oneWayCapitals) → ∀ t u, Spelling s t → Spelling s u →
      ((start.addEach rs).Has t role ↔ (start.addEach rs).Has u role) ∧
        ((t, role) ∈ rs → (start.addEach rs).Has u role)) ∧
    ((∃ c ∈ s.toList, c.toNat ∈ Text.oneWayCapitals) →
      ((start.addEach rs).add s role).Has s role ∧
        (((start.addEach rs).add s role).Has (Text.lower s) role ↔
          (start.addEach rs).Has (Text.lower s) role)) := by
  refine ⟨has_addEach start rs, has_congr (normalType_upper s),
    fun a b ha hb => has_congr (normalType_padded ha hb s), fun hs t u ht hu => ?_,
    fun ⟨c, hc, hone⟩ => ?_⟩
  · have hsame : normalType t = normalType u :=
      (ht.normalType_eq hs).1.trans (hu.normalType_eq hs).1.symm
    exact ⟨has_congr hsame, fun hmem => (has_addEach start rs).mpr (Or.inr ⟨t, hmem, hsame⟩)⟩
  · refine ⟨(has_add _ (s, role)).mpr (Or.inr ⟨rfl, rfl⟩), ?_⟩
    rw [has_add _ (s, role)]
    exact or_iff_left fun h => normalType_lower_ne hc hone h.2.symm

/-- A sharp s has two letters in upper case, and a final sigma is one in lower case only. -/
theorem known_in_every_spelling_odysseus :
    Text.upper "straße οδός" = "STRASSE ΟΔΌΣ" ∧
      ((builtin.addEach [("STRASSE ΟΔΌΣ", .algorithm), (" straße οδός ", .loadBalancer)]).Has
        "straße οδός" .loadBalancer) ∧
      (builtin.addEach [("straße οδός", .algorithm)]).Has
        (" " ++ Text.lower (Text.upper "straße οδός") ++ "") .algorithm := by
  have hall : "straße οδός".toList.all (fun c => decide (c.toNat ∉ Text.oneWayCapitals)) = true := by
    decide +kernel
  have hplain : ∀ c ∈ "straße οδός".toList, c.toNat ∉ Text.oneWayCapitals := fun c hc =>
    of_decide_eq_true (List.all_eq_true.mp hall c hc)
  have hpadded : Spelling "straße οδός" (" " ++ "straße οδός" ++ " ") :=
    .padded (by decide) (by decide) .written
  obtain ⟨-, -, -, hknown, -⟩ := known_in_every_spelling builtin
    [("STRASSE ΟΔΌΣ", .algorithm), (" straße οδός ", .loadBalancer)] "straße οδός" .loadBalancer
  obtain ⟨-, -, -, hknown', -⟩ := known_in_every_spelling builtin
    [("straße οδός", .algorithm)] "straße οδός" .algorithm
  refine ⟨by decide +kernel, (hknown hplain _ _ hpadded .written).2 (by decide +kernel), ?_⟩
  exact (hknown' hplain _ _ .written
    (.padded (by decide) (by decide) (.lower (.upper .written)))).2 (by decide +kernel)

/-- The lower case of the capital sharp s is the small one, whose upper case is not the capital
one. -/
theorem capital_sharp_s_unknown_in_lower_case :
    (builtin.addAlgorithm "GRÖẞE").hasAlgorithm "GRÖẞE" = true ∧
      Text.lower "GRÖẞE" = "größe" ∧
      (builtin.addAlgorithm "GRÖẞE").hasAlgorithm "größe" = false ∧
      (builtin.addAlgorithm "größe").hasAlgorithm "GRÖẞE" = false := by
  decide +kernel

end KnownTypes

end TrafficRouting
