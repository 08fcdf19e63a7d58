import TrafficRouting.Proofs.Toml.Quoted

/-!
# TrafficRouting.Proofs.Toml.Key — written keys and paths read back

`key_writeKey` for one key, whatever characters it has, and `path_writePath` for a path of keys that
is not too deep.
-/

namespace TrafficRouting.Toml

variable {rest : List Char}

theorem textChar_of_not_isKeyControl {c : Char} (h : isKeyControl c = false) :
    textChar c = true := by
  by_cases ht : c = '\t'
  · subst c
    rfl
  · simp only [isKeyControl, ht, Bool.or_eq_false_iff, Bool.and_eq_false_iff,
      decide_eq_false_iff_not, ne_eq, not_false_eq_true, decide_true, Bool.true_eq_false,
      or_false] at h
    simp only [textChar, Bool.or_eq_true, Bool.and_eq_true, decide_eq_true_eq]
    omega

/-- A key is bare, or quoted with escapes, or quoted as it is. -/
theorem writeKey_cases (k : String) :
    (writeKey k = k.toList ∧ k.toList ≠ [] ∧ ∀ c ∈ k.toList, bareChar c = true) ∨
    writeKey k = writeAs k.toList .basic ∨
    (writeKey k = writeAs k.toList .literal ∧ (∀ c ∈ k.toList, textChar c = true) ∧
      '\'' ∉ k.toList) := by
  unfold writeKey
  dsimp only
  split
  · rename_i h
    exact Or.inl ⟨rfl, h.1, List.all_eq_true.mp h.2⟩
  · refine Or.inr ?_
    split
    · exact Or.inl rfl
    · split
      · rename_i h
        simp only [Bool.and_eq_true, Bool.not_eq_true', List.contains_eq_mem,
          decide_eq_false_iff_not] at h
        refine Or.inr ⟨rfl, fun c hc => textChar_of_not_isKeyControl ?_, h.2⟩
        simpa using List.any_eq_false.mp h.1 c hc
      · exact Or.inl rfl

/-- The first character of a written key. -/
theorem writeKey_eq_cons (k : String) :
    ∃ c t, writeKey k = c :: t ∧ (bareChar c = true ∨ c = '"' ∨ c = '\'') := by
  obtain ⟨hk, hne, hbare⟩ | hk | ⟨hk, -⟩ := writeKey_cases k
  · obtain ⟨c, t, ht⟩ := List.exists_cons_of_ne_nil hne
    exact ⟨c, t, hk.trans ht, Or.inl (hbare c (ht ▸ List.mem_cons_self))⟩
  · exact ⟨'"', _, hk, Or.inr (Or.inl rfl)⟩
  · exact ⟨'\'', _, hk, Or.inr (Or.inr rfl)⟩

/-- No key begins with a character that says something else at the beginning of a line. -/
theorem head_writeKey {k : String} {c : Char} {t : List Char} (h : writeKey k = c :: t) :
    isSpace c = false ∧ c ≠ '[' ∧ c ≠ '\n' ∧ c ≠ '\r' ∧ c ≠ '#' := by
  obtain ⟨d, t', hk, hd⟩ := writeKey_eq_cons k
  obtain ⟨rfl, -⟩ := List.cons.inj (hk.symm.trans h)
  rcases hd with hd | rfl | rfl
  · refine ⟨?_, ?_, ?_, ?_, ?_⟩
    · refine Bool.eq_false_iff.mpr fun hs => ?_
      simp only [isSpace, Bool.or_eq_true, decide_eq_true_eq] at hs
      rcases hs with rfl | rfl <;> exact absurd hd (by decide)
    all_goals
      rintro rfl
      exact absurd hd (by decide)
  · decide
  · decide

theorem skipSpace_cons {c : Char} (h : isSpace c = false) (t : List Char) :
    skipSpace (c :: t) = c :: t := by
  simp [skipSpace, h]

theorem skipSpace_space (t : List Char) : skipSpace (' ' :: t) = skipSpace t := rfl

theorem skipSpace_writeKey (k : String) (rest : List Char) :
    skipSpace (writeKey k ++ rest) = writeKey k ++ rest := by
  obtain ⟨c, t, hk, -⟩ := writeKey_eq_cons k
  rw [hk]
  exact skipSpace_cons (head_writeKey hk).1 _

/-- **Keys read back**: any text, behind which the key does not go on. -/
theorem key_writeKey (k : String) (h : ∀ c, rest.head? = some c → bareChar c = false) :
    key (writeKey k ++ rest) = some (k, rest) := by
  obtain ⟨hk, hne, hbare⟩ | hk | ⟨hk, htext, hquote⟩ := writeKey_cases k
  · have hrest : rest.takeWhile bareChar = [] ∧ rest.dropWhile bareChar = rest := by
      cases rest with
      | nil => exact ⟨rfl, rfl⟩
      | cons c rest => simp [h c rfl]
    obtain ⟨c, t, ht⟩ := List.exists_cons_of_ne_nil hne
    have hc : bareChar c = true := hbare c (ht ▸ List.mem_cons_self)
    have hkey : key (k.toList ++ rest) = some (.ofList ((k.toList ++ rest).takeWhile bareChar),
        (k.toList ++ rest).dropWhile bareChar) := by
      rw [ht, List.cons_append]
      unfold key
      split
      · rename_i heq
        exact absurd hc ((List.cons.inj heq).1 ▸ by decide)
      · rename_i heq
        exact absurd hc ((List.cons.inj heq).1 ▸ by decide)
      · rw [if_neg (by simp [hc])]
    rw [hk, hkey, List.takeWhile_append_of_pos hbare, List.dropWhile_append_of_pos hbare, hrest.1,
      hrest.2, List.append_nil, String.ofList_toList]
  · rw [hk, writeAs_basic, key, basicBody_flatMap_escaped, Option.map_some, String.ofList_toList]
  · rw [hk, writeAs_literal, key, literalBody_append htext hquote, Option.map_some,
      String.ofList_toList]

theorem writePath_cons {k : String} {ks : List String} (h : ks ≠ []) :
    writePath (k :: ks) = writeKey k ++ '.' :: writePath ks := by
  obtain ⟨k', ks, rfl⟩ := List.exists_cons_of_ne_nil h
  rfl

/-- Several keys, behind which neither a key nor the path goes on. -/
theorem keys_writePath {ks : List String} (hne : ks ≠ []) {fuel : Nat} (hfuel : ks.length ≤ fuel)
    (hbare : ∀ c, rest.head? = some c → bareChar c = false)
    (hpoint : (skipSpace rest).head? ≠ some '.') :
    keys fuel (writePath ks ++ rest) = some (ks, skipSpace rest) := by
  induction ks generalizing fuel with
  | nil => exact absurd rfl hne
  | cons k ks ih =>
    obtain ⟨fuel, rfl⟩ : ∃ n, fuel = n + 1 :=
      ⟨fuel - 1, by simp only [List.length_cons] at hfuel; omega⟩
    by_cases hks : ks = []
    -- only behind the last key the rest decides that the path ends
    · subst ks
      have hpath : writePath [k] = writeKey k := by simp [writePath]
      rw [hpath, keys, skipSpace_writeKey, key_writeKey k hbare]
      dsimp only
      split
      · rename_i heq
        rw [heq] at hpoint
        exact absurd rfl hpoint
      · rfl
    · have hfuel' : ks.length ≤ fuel := Nat.le_of_succ_le_succ hfuel
      have hdot : ∀ c, ('.' :: (writePath ks ++ rest)).head? = some c → bareChar c = false := by
        rintro c hc
        obtain rfl : '.' = c := Option.some.inj hc
        decide
      rw [writePath_cons hks, List.append_assoc, List.cons_append, keys, skipSpace_writeKey,
        key_writeKey k hdot]
      dsimp only
      rw [skipSpace_cons (by decide)]
      show (keys fuel (writePath ks ++ rest)).map _ = _
      rw [ih hks hfuel', Option.map_some]

/-- **Paths read back**, if they are not too deep. -/
theorem path_writePath {ks : List String} (hne : ks ≠ []) (hdepth : ks.length < depthLimit)
    (hbare : ∀ c, rest.head? = some c → bareChar c = false)
    (hpoint : (skipSpace rest).head? ≠ some '.') :
    path (writePath ks ++ rest) = some (ks, skipSpace rest) :=
  keys_writePath hne (Nat.le_sub_one_of_lt hdepth) hbare hpoint

end TrafficRouting.Toml
