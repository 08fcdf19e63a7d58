import Mathlib.Data.List.Chain
import TrafficRouting.Text.Blank
import TrafficRouting.Text.Casing

/-!
# TrafficRouting.Proofs.Text.CaseTable — what the case mappings do to single characters

The tables are finite, so what holds of all of them is a matter of computation; it is done once, in
`checkedTables`, and kept small.  A set of code points is a number with a bit for each of them
(`mask`), so that two sets are disjoint if `&&&` gives zero.  A run of one table is compared with a
run of the other one as a whole (`CaseRun.undoes`), and only the characters of the few runs that
nothing undoes are looked at one by one.

* `upperChar_idem`: an upper case is its own upper case.
* `upperChar_lowerChar`: an upper case does not depend on lower case first, except for the
  `oneWayCapitals`; these are in no upper case but their own, and in no lower case.
-/

namespace TrafficRouting.Text

/-! ### Code points of a table -/

/-- The code points that a run maps. -/
def CaseRun.codes (r : CaseRun) : List Nat :=
  List.range' r.first ((r.last - r.first) / r.step + 1) r.step

/-- Where a run maps a code point. -/
def CaseRun.move (r : CaseRun) (n : Nat) : Nat := ((n : Int) + r.shift).toNat

/-- The code points that a table maps. -/
def sources (runs : List CaseRun) (expansions : List (Nat × List Nat)) : List Nat :=
  runs.flatMap CaseRun.codes ++ expansions.map (·.1)

/-- The code points that a table maps to. -/
def targets (runs : List CaseRun) (expansions : List (Nat × List Nat)) : List Nat :=
  (runs.flatMap fun r => r.codes.map r.move) ++ expansions.flatMap (·.2)

theorem CaseRun.image?_eq_some {r : CaseRun} {n m : Nat} (h : r.image? n = some m) :
    n ∈ r.codes ∧ m = r.move n := by
  rw [image?] at h
  split at h
  · rename_i hn
    refine ⟨List.mem_range'.mpr ⟨(n - r.first) / r.step, ?_, ?_⟩, (Option.some.inj h).symm⟩
    · have := Nat.div_le_div_right (c := r.step) (Nat.sub_le_sub_right hn.2.1 r.first)
      omega
    · rw [Nat.mul_div_cancel' (Nat.dvd_of_mod_eq_zero hn.2.2)]
      omega
  · cases h

variable {runs : List CaseRun} {expansions : List (Nat × List Nat)} {c d : Char}

/-- A table maps a character by a run, or by an expansion, or not at all. -/
theorem mapCase_cases (runs : List CaseRun) (expansions : List (Nat × List Nat)) (c : Char) :
    (∃ r ∈ runs, c.toNat ∈ r.codes ∧
      mapCase runs expansions c = [Char.ofNat (r.move c.toNat)]) ∨
    (∃ ns, (c.toNat, ns) ∈ expansions ∧ mapCase runs expansions c = ns.map Char.ofNat) ∨
    mapCase runs expansions c = [c] := by
  unfold mapCase
  cases hrun : runs.findSome? (·.image? c.toNat) with
  | some n =>
    obtain ⟨r, hr, hn⟩ := List.exists_of_findSome?_eq_some hrun
    obtain ⟨hc, rfl⟩ := CaseRun.image?_eq_some hn
    exact Or.inl ⟨r, hr, hc, rfl⟩
  | none =>
    cases hexp : expansions.lookup c.toNat with
    | some ns =>
      obtain ⟨l₁, l₂, hl, -⟩ := List.lookup_eq_some_iff.mp hexp
      exact Or.inr (Or.inl ⟨ns, by rw [hl]; simp, rfl⟩)
    | none => exact Or.inr (Or.inr rfl)

theorem mapCase_of_notMem (h : c.toNat ∉ sources runs expansions) :
    mapCase runs expansions c = [c] := by
  rcases mapCase_cases runs expansions c with ⟨r, hr, hc, -⟩ | ⟨ns, hns, -⟩ | hself
  · exact absurd (List.mem_append_left _ (List.mem_flatMap.mpr ⟨r, hr, hc⟩)) h
  · exact absurd (List.mem_append_right _ (List.mem_map.mpr ⟨_, hns, rfl⟩)) h
  · exact hself

/-- The code point stands for a character. -/
def validCode (n : Nat) : Bool := Nat.blt n 0xD800 || (Nat.blt 0xDFFF n && Nat.blt n 0x110000)

theorem toNat_ofNat_of_validCode {n : Nat} (h : validCode n = true) : (Char.ofNat n).toNat = n := by
  have hvalid : n.isValidChar := by
    simp only [validCode, Nat.blt_eq, Bool.or_eq_true, Bool.and_eq_true] at h
    exact h
  rw [Char.ofNat, dif_pos hvalid]
  exact UInt32.toNat_ofNatLT ..

/-- A character stays as it is, or what comes out of it is among the targets. -/
theorem mapCase_targets (hvalid : (targets runs expansions).all validCode = true) (c : Char) :
    mapCase runs expansions c = [c] ∨
      ∀ d ∈ mapCase runs expansions c, d.toNat ∈ targets runs expansions := by
  have hcode : ∀ n ∈ targets runs expansions, (Char.ofNat n).toNat ∈ targets runs expansions :=
    fun n hn => (toNat_ofNat_of_validCode (List.all_eq_true.mp hvalid n hn)).symm ▸ hn
  rcases mapCase_cases runs expansions c with ⟨r, hr, hc, himage⟩ | ⟨ns, hns, himage⟩ | hself
  · refine Or.inr fun d hd => ?_
    rw [himage, List.mem_singleton] at hd
    rw [hd]
    refine hcode _ (List.mem_append_left _ (List.mem_flatMap.mpr ⟨r, hr, ?_⟩))
    exact List.mem_map.mpr ⟨_, hc, rfl⟩
  · refine Or.inr fun d hd => ?_
    rw [himage] at hd
    obtain ⟨n, hn, rfl⟩ := List.mem_map.mp hd
    exact hcode n (List.mem_append_right _ (List.mem_flatMap.mpr ⟨_, hns, hn⟩))
  · exact Or.inl hself

/-! ### Sets of code points -/

/-- The number with a bit for each code point of a list. -/
def mask (ns : List Nat) : Nat := ns.foldr (fun n m => Nat.lor (Nat.shiftLeft 1 n) m) 0

theorem testBit_mask (ns : List Nat) (n : Nat) : (mask ns).testBit n = decide (n ∈ ns) := by
  induction ns with
  | nil => exact Nat.zero_testBit n
  | cons k ns ih =>
    show ((1 <<< k) ||| mask ns).testBit n = _
    rw [Nat.testBit_or, ih, Nat.one_shiftLeft, Nat.testBit_two_pow]
    simp [eq_comm]

/-- Lists are disjoint if their bits are. -/
theorem notMem_of_mask {ns ms : List Nat} (h : Nat.land (mask ns) (mask ms) = 0) {n : Nat}
    (hn : n ∈ ns) : n ∉ ms := by
  intro hm
  have hbit : (mask ns &&& mask ms).testBit n = true := by
    rw [Nat.testBit_and, testBit_mask, testBit_mask, decide_eq_true hn, decide_eq_true hm]
    rfl
  have hzero : mask ns &&& mask ms = 0 := h
  rw [hzero, Nat.zero_testBit] at hbit
  cases hbit

/-- The capitals whose lower case has another upper case: the dotted I, the theta symbol, the sharp
s, and the signs for ohm, kelvin and angstrom. -/
def oneWayCapitals : List Nat := [0x130, 0x3F4, 0x1E9E, 0x2126, 0x212A, 0x212B]

/-- The code points of white space. -/
def blankCodes : List Nat :=
  [0x9, 0xA, 0xB, 0xC, 0xD, 0x20, 0x85, 0xA0, 0x1680, 0x2000, 0x2001, 0x2002, 0x2003, 0x2004,
    0x2005, 0x2006, 0x2007, 0x2008, 0x2009, 0x200A, 0x2028, 0x2029, 0x202F, 0x205F, 0x3000]

/-! ### Runs -/

/-- The one run ends before the other one begins. -/
def CaseRun.Before (r r' : CaseRun) : Prop := r.last < r'.first ∧ r'.first ≤ r'.last

instance (r r' : CaseRun) : Decidable (r.Before r') :=
  inferInstanceAs (Decidable (r.last < r'.first ∧ r'.first ≤ r'.last))

/-- The run maps back what the other one maps.  The kernel computes `Nat.ble` and the like at once,
and the first test that fails ends the computation. -/
def CaseRun.undoes (r' r : CaseRun) : Bool :=
  Nat.ble r'.first (r.move r.first) && (Nat.ble (r.move r.last) r'.last &&
    (Nat.blt 0 r'.first && (Nat.ble r.first r.last && (Nat.beq (r.step % r'.step) 0 &&
      (Nat.beq ((r.move r.first - r'.first) % r'.step) 0 && decide (r'.shift = -r.shift))))))

/-! ### The tables as a whole -/

/-- What is a letter of ASCII in the one case is in the table, and the rest of ASCII is not. -/
structure CheckedAscii (f : Char → Char) (a : Nat) (runs : List CaseRun)
    (expansions : List (Nat × List Nat)) : Prop where
  letters : ∀ n ∈ List.range' a 26, [f (Char.ofNat n)] = mapCase runs expansions (Char.ofNat n)
  others : ∀ n ∈ List.range' 0 a ++ List.range' (a + 26) (102 - a),
    f (Char.ofNat n) = Char.ofNat n
  apart : Nat.land (mask (List.range' 0 a ++ List.range' (a + 26) (102 - a)))
    (mask (sources runs expansions)) = 0

/-- What the kernel finds when it goes through the tables, once. -/
structure CheckedTables : Prop where
  validUpper : (targets upperRuns upperExpansions).all validCode = true
  validLower : (targets lowerRuns lowerExpansions).all validCode = true
  expansions : ∀ e ∈ upperExpansions, e.2 ≠ []
  /-- The runs are in order, so that there is at most one for each code point. -/
  ordered : upperRuns.IsChain CaseRun.Before
  upperAscii : CheckedAscii Char.toUpper 0x61 upperRuns upperExpansions
  lowerAscii : CheckedAscii Char.toLower 0x41 lowerRuns lowerExpansions
  targets_sources : Nat.land (mask (targets upperRuns upperExpansions))
    (mask (sources upperRuns upperExpansions)) = 0
  oneWay_sources : Nat.land (mask oneWayCapitals) (mask (sources upperRuns upperExpansions)) = 0
  oneWay_targets : Nat.land (mask oneWayCapitals) (mask (targets upperRuns upperExpansions)) = 0
  oneWay_lowered : Nat.land (mask oneWayCapitals) (mask (targets lowerRuns lowerExpansions)) = 0
  oneWay_blank : Nat.land (mask oneWayCapitals) (mask blankCodes) = 0
  blank_sources : Nat.land (mask blankCodes) (mask (sources upperRuns upperExpansions)) = 0
  blank_targets : Nat.land (mask blankCodes) (mask (targets upperRuns upperExpansions)) = 0
  /-- One-way capitals have a lower case. -/
  oneWay_lower : ∀ n ∈ oneWayCapitals, lowerChar (Char.ofNat n) ≠ [Char.ofNat n]
  /-- The runs that nothing undoes have letters of three cases, and the one-way capitals. -/
  not_undone : ∀ r ∈ lowerRuns.filter (fun r => !upperRuns.any (·.undoes r)), ∀ n ∈ r.codes,
    n ∈ oneWayCapitals ∨ (lowerChar (Char.ofNat n)).flatMap upperChar = upperChar (Char.ofNat n)
  /-- A sigma at the end of a word has the upper case of any other one. -/
  sigma : upperChar 'ς' = upperChar 'Σ' ∧ upperChar 'σ' = upperChar 'Σ'

theorem checkedTables : CheckedTables := by
  have hupper : CheckedAscii Char.toUpper 0x61 upperRuns upperExpansions := by
    constructor <;> decide +kernel
  have hlower : CheckedAscii Char.toLower 0x41 lowerRuns lowerExpansions := by
    constructor <;> decide +kernel
  constructor
  case upperAscii => exact hupper
  case lowerAscii => exact hlower
  -- one after the other, for each goes through the tables as a whole
  all_goals decide +kernel

/-- The table says the same of ASCII. -/
theorem CheckedAscii.eq_mapCase {f : Char → Char} {a : Nat} {runs : List CaseRun}
    {expansions : List (Nat × List Nat)} (h : CheckedAscii f a runs expansions) (ha : a ≤ 102)
    {c : Char} (hc : c.toNat < 0x80) : [f c] = mapCase runs expansions c := by
  by_cases hletter : c.toNat ∈ List.range' a 26
  · rw [← Char.ofNat_toNat c]
    exact h.letters c.toNat hletter
  · have hother : c.toNat ∈ List.range' 0 a ++ List.range' (a + 26) (102 - a) := by
      rw [List.mem_range'_1] at hletter
      rw [List.mem_append, List.mem_range'_1, List.mem_range'_1]
      omega
    rw [mapCase_of_notMem (notMem_of_mask h.apart hother), ← Char.ofNat_toNat c,
      h.others c.toNat hother]

theorem upperChar_eq_mapCase (c : Char) : upperChar c = mapCase upperRuns upperExpansions c := by
  unfold upperChar
  split
  · rename_i hc
    exact (CheckedTables.upperAscii checkedTables).eq_mapCase (by decide) hc
  · rfl

theorem lowerChar_eq_mapCase (c : Char) : lowerChar c = mapCase lowerRuns lowerExpansions c := by
  unfold lowerChar
  split
  · rename_i hc
    exact (CheckedTables.lowerAscii checkedTables).eq_mapCase (by decide) hc
  · rfl

/-- A character is its own upper case, or its upper case is among the targets. -/
theorem upperChar_targets (c : Char) :
    upperChar c = [c] ∨ ∀ d ∈ upperChar c, d.toNat ∈ targets upperRuns upperExpansions := by
  rw [upperChar_eq_mapCase]
  exact mapCase_targets (CheckedTables.validUpper checkedTables) c

theorem lowerChar_targets (c : Char) :
    lowerChar c = [c] ∨ ∀ d ∈ lowerChar c, d.toNat ∈ targets lowerRuns lowerExpansions := by
  rw [lowerChar_eq_mapCase]
  exact mapCase_targets (CheckedTables.validLower checkedTables) c

theorem upperChar_ne_nil (c : Char) : upperChar c ≠ [] := by
  rw [upperChar_eq_mapCase]
  rcases mapCase_cases upperRuns upperExpansions c with ⟨r, -, -, h⟩ | ⟨ns, hns, h⟩ | h
  · rw [h]
    exact List.cons_ne_nil _ _
  · rw [h]
    exact mt List.map_eq_nil_iff.mp (CheckedTables.expansions checkedTables _ hns)
  · rw [h]
    exact List.cons_ne_nil _ _

/-! ### Upper case -/

theorem targets_notMem_sources {n : Nat} (h : n ∈ targets upperRuns upperExpansions) :
    n ∉ sources upperRuns upperExpansions :=
  notMem_of_mask (CheckedTables.targets_sources checkedTables) h

theorem upperChar_of_notMem (h : c.toNat ∉ sources upperRuns upperExpansions) :
    upperChar c = [c] := by
  rw [upperChar_eq_mapCase, mapCase_of_notMem h]

/-- **Upper case is upper case already.** -/
theorem upperChar_idem (h : d ∈ upperChar c) : upperChar d = [d] := by
  rcases upperChar_targets c with hself | htargets
  · rw [hself, List.mem_singleton] at h
    rw [h, hself]
  · exact upperChar_of_notMem (targets_notMem_sources (htargets d h))

instance : Trans CaseRun.Before CaseRun.Before CaseRun.Before where
  trans h h' := ⟨by have := h.1; have := h.2; have := h'.1; omega, h'.2⟩

theorem upperRuns_ordered : upperRuns.Pairwise CaseRun.Before :=
  List.isChain_iff_pairwise.mp (CheckedTables.ordered checkedTables)

theorem findSome?_image? (hordered : runs.Pairwise CaseRun.Before) {r : CaseRun}
    (hr : r ∈ runs) {n m : Nat} (h : r.image? n = some m) :
    runs.findSome? (·.image? n) = some m := by
  induction runs with
  | nil => cases hr
  | cons r' runs ih =>
    rw [List.pairwise_cons] at hordered
    rw [List.findSome?_cons]
    rcases List.mem_cons.mp hr with rfl | hr
    · rw [h]
    · have hnone : r'.image? n = none := by
        have hlt := (hordered.1 r hr).1
        have hle : r.first ≤ n := by
          by_contra hnot
          rw [CaseRun.image?, if_neg fun hn => hnot hn.1] at h
          cases h
        exact if_neg fun hn => by omega
      rw [hnone]
      exact ih hordered.2 hr

theorem upperChar_of_image? {r : CaseRun} (hr : r ∈ upperRuns) {n m : Nat}
    (hn : (Char.ofNat n).toNat = n) (h : r.image? n = some m) :
    upperChar (Char.ofNat n) = [Char.ofNat m] := by
  rw [upperChar_eq_mapCase, mapCase, hn, findSome?_image? upperRuns_ordered hr h]

/-! ### Lower case first -/

theorem CaseRun.image?_of_undoes {r r' : CaseRun} (h : r'.undoes r = true) {n : Nat}
    (hn : n ∈ r.codes) : r'.image? (r.move n) = some n := by
  simp only [undoes, Bool.and_eq_true, Nat.ble_eq, Nat.blt_eq, Nat.beq_eq, decide_eq_true_eq] at h
  obtain ⟨hfirst, hlast, hpos, hle, hstep, hoffset, hshift⟩ := h
  obtain ⟨i, hi, rfl⟩ := List.mem_range'.mp hn
  have hin : r.first + r.step * i ≤ r.last := by
    have := Nat.mul_le_mul_left r.step (Nat.lt_succ_iff.mp hi)
    have := Nat.mul_div_le (r.last - r.first) r.step
    omega
  have hmove : r.move (r.first + r.step * i) = r.move r.first + r.step * i := by
    simp only [move] at hfirst ⊢
    omega
  have hback : ((r.move (r.first + r.step * i) : Nat) + r'.shift).toNat = r.first + r.step * i := by
    simp only [move, hshift] at hfirst ⊢
    omega
  have hmod : (r.move (r.first + r.step * i) - r'.first) % r'.step = 0 := by
    rw [hmove, Nat.sub_add_comm hfirst]
    exact Nat.mod_eq_zero_of_dvd (Nat.dvd_add (Nat.dvd_of_mod_eq_zero hoffset)
      (Nat.dvd_mul_right_of_dvd (Nat.dvd_of_mod_eq_zero hstep) i))
  have hbound : r.move (r.first + r.step * i) ≤ r'.last := by
    simp only [move] at hlast ⊢
    omega
  rw [image?, if_pos ⟨by omega, hbound, hmod⟩, hback]

/-- **Lower case first makes no difference** to the upper case, unless the character is a one-way
capital. -/
theorem upperChar_lowerChar (h : c.toNat ∉ oneWayCapitals) :
    (lowerChar c).flatMap upperChar = upperChar c := by
  rcases mapCase_cases lowerRuns lowerExpansions c with ⟨r, hr, hc, hlower⟩ | ⟨ns, hns, -⟩ | hlower
  · by_cases hundone : upperRuns.any (·.undoes r) = true
    · obtain ⟨r', hr', hundoes⟩ := List.any_eq_true.mp hundone
      have himage := CaseRun.image?_of_undoes hundoes hc
      have hmove : r.move c.toNat ∈ targets lowerRuns lowerExpansions :=
        List.mem_append_left _ (List.mem_flatMap.mpr ⟨r, hr, List.mem_map.mpr ⟨_, hc, rfl⟩⟩)
      have hcode : (Char.ofNat (r.move c.toNat)).toNat = r.move c.toNat :=
        toNat_ofNat_of_validCode
          (List.all_eq_true.mp (CheckedTables.validLower checkedTables) _ hmove)
      have hback := upperChar_of_image? hr' hcode himage
      rw [Char.ofNat_toNat] at hback
      have hself : upperChar c = [c] := upperChar_idem (hback ▸ List.mem_singleton_self c)
      rw [lowerChar_eq_mapCase, hlower, List.flatMap_singleton, hback, hself]
    · have hall := CheckedTables.not_undone checkedTables r
        (List.mem_filter.mpr ⟨hr, by simpa using hundone⟩) c.toNat hc
      rw [Char.ofNat_toNat] at hall
      exact hall.resolve_left h
  · have hone : ∀ e ∈ lowerExpansions, e.1 ∈ oneWayCapitals := by decide
    exact absurd (hone _ hns) h
  · rw [lowerChar_eq_mapCase, hlower, List.flatMap_singleton]

theorem upperChar_oneWay (h : d.toNat ∈ oneWayCapitals) : upperChar d = [d] :=
  upperChar_of_notMem (notMem_of_mask (CheckedTables.oneWay_sources checkedTables) h)

/-- A one-way capital is in no upper case but its own. -/
theorem mem_upperChar_oneWay (h : d.toNat ∈ oneWayCapitals) : d ∈ upperChar c ↔ d = c := by
  constructor
  · intro hd
    rcases upperChar_targets c with hself | htargets
    · rwa [hself, List.mem_singleton] at hd
    · exact absurd (htargets d hd) (notMem_of_mask (CheckedTables.oneWay_targets checkedTables) h)
  · rintro rfl
    rw [upperChar_oneWay h]
    exact List.mem_singleton_self d

/-- A one-way capital is in no lower case. -/
theorem notMem_lowerChar_oneWay (h : d.toNat ∈ oneWayCapitals) : d ∉ lowerChar c := by
  intro hd
  rcases lowerChar_targets c with hself | htargets
  · obtain rfl := List.mem_singleton.mp (hself ▸ hd)
    refine CheckedTables.oneWay_lower checkedTables d.toNat h ?_
    rw [Char.ofNat_toNat, hself]
  · exact notMem_of_mask (CheckedTables.oneWay_lowered checkedTables) h (htargets d hd)

/-! ### White space -/

theorem isBlank_iff : isBlank c = true ↔ c.toNat ∈ blankCodes := by
  simp only [isBlank, blankCodes, Bool.or_eq_true, Bool.and_eq_true, decide_eq_true_eq,
    List.mem_cons, List.not_mem_nil, or_false]
  omega

theorem upperChar_of_isBlank (h : isBlank c = true) : upperChar c = [c] :=
  upperChar_of_notMem
    (notMem_of_mask (CheckedTables.blank_sources checkedTables) (isBlank_iff.mp h))

/-- White space comes out of white space only. -/
theorem not_isBlank_of_mem_upperChar (h : isBlank c = false) (hd : d ∈ upperChar c) :
    isBlank d = false := by
  rcases upperChar_targets c with hself | htargets
  · rw [hself, List.mem_singleton] at hd
    rwa [hd]
  · refine Bool.eq_false_iff.mpr fun hblank => ?_
    exact notMem_of_mask (CheckedTables.blank_targets checkedTables) (isBlank_iff.mp hblank)
      (htargets d hd)

theorem not_isBlank_of_oneWay (h : c.toNat ∈ oneWayCapitals) : isBlank c = false := by
  refine Bool.eq_false_iff.mpr fun hblank => ?_
  exact notMem_of_mask (CheckedTables.oneWay_blank checkedTables) h (isBlank_iff.mp hblank)

end TrafficRouting.Text
