import Mathlib.Data.List.TakeWhile
import TrafficRouting.Proofs.Text.CaseTable

/-!
# TrafficRouting.Proofs.Text.Casing — upper case, lower case and white space of whole texts

Upper case comes character by character, so what holds of single characters holds of texts: upper
case stays as it is (`upper_upper`), and it does not depend on lower case first, unless the text has a
one-way capital (`upper_lower`).  Neither the place of a sigma in its word nor upper cases of
several characters get in the way.  White space at the ends goes away in the same way before and
after (`trim_upper`).
-/

namespace TrafficRouting.Text

variable {c : Char} {s : String}

/-! ### Case -/

theorem toList_upper (s : String) : (upper s).toList = s.toList.flatMap upperChar :=
  String.toList_ofList

theorem toList_lower (s : String) : (lower s).toList = lowerAfter [] s.toList :=
  String.toList_ofList

theorem upper_eq_of_toList {s t : String}
    (h : s.toList.flatMap upperChar = t.toList.flatMap upperChar) : upper s = upper t :=
  congrArg String.ofList h

/-- **Upper case is upper case already.** -/
theorem upper_upper (s : String) : upper (upper s) = upper s := by
  have hself : ∀ c : Char, (upperChar c).flatMap upperChar = upperChar c := fun c =>
    (List.flatMap_congr fun d hd => upperChar_idem hd).trans (List.flatMap_singleton' _)
  refine upper_eq_of_toList ?_
  rw [toList_upper, List.flatMap_assoc]
  simp only [hself]

/-- What stands in front of a text does not matter to its upper case. -/
theorem flatMap_upperChar_lowerAfter (before : List Char) {l : List Char}
    (h : ∀ c ∈ l, c.toNat ∉ oneWayCapitals) :
    (lowerAfter before l).flatMap upperChar = l.flatMap upperChar := by
  induction l generalizing before with
  | nil => rfl
  | cons c l ih =>
    rw [List.forall_mem_cons] at h
    rw [lowerAfter, List.flatMap_append, List.flatMap_cons, ih _ h.2]
    congr 1
    split
    · rename_i hsigma
      rw [hsigma, List.flatMap_singleton]
      split
      · exact (CheckedTables.sigma checkedTables).1
      · exact (CheckedTables.sigma checkedTables).2
    · exact upperChar_lowerChar h.1

/-- **Lower case first makes no difference** to the upper case of a text without one-way capitals. -/
theorem upper_lower (h : ∀ c ∈ s.toList, c.toNat ∉ oneWayCapitals) : upper (lower s) = upper s := by
  refine upper_eq_of_toList ?_
  rw [toList_lower]
  exact flatMap_upperChar_lowerAfter [] h

theorem mem_upper_oneWay (h : c.toNat ∈ oneWayCapitals) : c ∈ (upper s).toList ↔ c ∈ s.toList := by
  rw [toList_upper, List.mem_flatMap]
  simp only [mem_upperChar_oneWay h, exists_eq_right']

theorem notMem_lowerAfter_oneWay (h : c.toNat ∈ oneWayCapitals) (before l : List Char) :
    c ∉ lowerAfter before l := by
  induction l generalizing before with
  | nil => exact List.not_mem_nil
  | cons d l ih =>
    rw [lowerAfter, List.mem_append, not_or]
    refine ⟨?_, ih _⟩
    split
    · intro hc
      have hsigmas : 'ς'.toNat ∉ oneWayCapitals ∧ 'σ'.toNat ∉ oneWayCapitals := by decide
      split at hc
      · exact hsigmas.1 (List.mem_singleton.mp hc ▸ h)
      · exact hsigmas.2 (List.mem_singleton.mp hc ▸ h)
    · exact notMem_lowerChar_oneWay h

theorem notMem_lower_oneWay (h : c.toNat ∈ oneWayCapitals) (s : String) : c ∉ (lower s).toList := by
  rw [toList_lower]
  exact notMem_lowerAfter_oneWay h [] s.toList

/-! ### White space -/

section

variable {p : Char → Bool} {f : Char → List Char}

/-- Dropping what passes, before or after a mapping that keeps what passes and makes nothing of it. -/
theorem dropWhile_flatMap (hpass : ∀ c, p c = true → f c = [c])
    (hstop : ∀ c, p c = false → f c ≠ [] ∧ ∀ d ∈ f c, p d = false) (l : List Char) :
    (l.flatMap f).dropWhile p = (l.dropWhile p).flatMap f := by
  induction l with
  | nil => rfl
  | cons c l ih =>
    cases hc : p c with
    | true => simp [hpass c hc, hc, ih]
    | false =>
      obtain ⟨d, ds, hd⟩ := List.exists_cons_of_ne_nil (hstop c hc).1
      have hstopped : p d = false := (hstop c hc).2 d (hd ▸ List.mem_cons_self)
      rw [List.dropWhile_cons_of_neg (by simp [hc]), List.flatMap_cons, hd, List.cons_append,
        List.dropWhile_cons_of_neg (by simp [hstopped])]

end

theorem trimChars_flatMap_upperChar (l : List Char) :
    trimChars (l.flatMap upperChar) = (trimChars l).flatMap upperChar := by
  have hpass : ∀ c, isBlank c = true → upperChar c = [c] := fun c => upperChar_of_isBlank
  have hstop : ∀ c, isBlank c = false → upperChar c ≠ [] ∧ ∀ d ∈ upperChar c, isBlank d = false :=
    fun c hc => ⟨upperChar_ne_nil c, fun d => not_isBlank_of_mem_upperChar hc⟩
  have hback := dropWhile_flatMap (p := isBlank) (f := List.reverse ∘ upperChar)
    (fun c hc => by rw [Function.comp_apply, hpass c hc, List.reverse_singleton])
    (fun c hc => by simpa using hstop c hc)
  rw [trimChars, dropWhile_flatMap hpass hstop, List.reverse_flatMap, hback, trimChars,
    List.reverse_flatMap]
  simp [Function.comp_def]

theorem toList_trim (s : String) : (trim s).toList = trimChars s.toList := String.toList_ofList

/-- White space at the ends goes away before or after. -/
theorem trim_upper (s : String) : trim (upper s) = upper (trim s) := by
  rw [trim, toList_upper, trimChars_flatMap_upperChar, upper, toList_trim]

theorem trimChars_append {a t b : List Char} (ha : ∀ c ∈ a, isBlank c = true)
    (hb : ∀ c ∈ b, isBlank c = true) : trimChars (a ++ t ++ b) = trimChars t := by
  have hback : ∀ l : List Char,
      (b.reverse ++ l).dropWhile isBlank = l.dropWhile isBlank := fun l =>
    List.dropWhile_append_of_pos fun c hc => hb c (List.mem_reverse.mp hc)
  rw [trimChars, List.append_assoc, List.dropWhile_append_of_pos ha, List.dropWhile_append,
    trimChars]
  split
  · rename_i hnil
    rw [List.isEmpty_iff.mp hnil, dropWhile_eq_nil_iff.mpr hb]
  · rw [List.reverse_append, hback]

/-- A text is what is left of it, with white space on both sides. -/
theorem exists_trimChars (l : List Char) : ∃ a b, (∀ c ∈ a, isBlank c = true) ∧
    (∀ c ∈ b, isBlank c = true) ∧ l = a ++ trimChars l ++ b := by
  refine ⟨l.takeWhile isBlank, ((l.dropWhile isBlank).reverse.takeWhile isBlank).reverse,
    fun c hc => List.mem_takeWhile_imp hc,
    fun c hc => List.mem_takeWhile_imp (List.mem_reverse.mp hc), ?_⟩
  rw [trimChars, List.append_assoc, ← List.reverse_append, List.takeWhile_append_dropWhile,
    List.reverse_reverse, List.takeWhile_append_dropWhile]

theorem trim_append {a t b : String} (ha : blank a = true) (hb : blank b = true) :
    trim (a ++ t ++ b) = trim t := by
  rw [trim, String.toList_append, String.toList_append,
    trimChars_append (List.all_eq_true.mp ha) (List.all_eq_true.mp hb)]
  rfl

theorem trim_trim (s : String) : trim (trim s) = trim s := by
  obtain ⟨a, b, ha, hb, hl⟩ := exists_trimChars s.toList
  have htrim := trimChars_append (t := trimChars s.toList) ha hb
  rw [← hl] at htrim
  rw [trim, toList_trim, ← htrim]
  rfl

theorem mem_trim (h : isBlank c = false) : c ∈ (trim s).toList ↔ c ∈ s.toList := by
  obtain ⟨a, b, ha, hb, hl⟩ := exists_trimChars s.toList
  have hnot : ∀ l : List Char, (∀ d ∈ l, isBlank d = true) → c ∉ l := by
    intro l hl hc
    rw [hl c hc] at h
    cases h
  rw [toList_trim]
  constructor
  · intro hc
    rw [hl]
    exact List.mem_append_left _ (List.mem_append_right _ hc)
  · intro hc
    rw [hl, List.mem_append, List.mem_append] at hc
    exact (hc.resolve_right (hnot b hb)).resolve_left (hnot a ha)

end TrafficRouting.Text
