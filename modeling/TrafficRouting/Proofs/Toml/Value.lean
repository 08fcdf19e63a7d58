import TrafficRouting.Proofs.Toml.Quoted
import TrafficRouting.Toml.Reader

/-!
# TrafficRouting.Proofs.Toml.Value — written values read back

`value_write`: a text or a row of texts is read back in either layout, at the end of its line.
Items are read one by one; the fuel of the loop, which is the length of its input, is enough as each
text takes a character at least.
-/

namespace TrafficRouting.Toml

variable {rest rest' : List Char}

/-- A written text begins with a quote. -/
theorem writeText_eq_cons (s : String) : ∃ c t, writeText s = c :: t ∧ (c = '"' ∨ c = '\'') := by
  unfold writeText
  cases quoting s.toList with
  | basic => exact ⟨'"', _, rfl, Or.inl rfl⟩
  | literal => exact ⟨'\'', _, rfl, Or.inr rfl⟩
  | tripleBasic => exact ⟨'"', _, rfl, Or.inl rfl⟩
  | tripleLiteral => exact ⟨'\'', _, rfl, Or.inr rfl⟩

/-- Behind a text no further quote follows. -/
def Unquoted (rest : List Char) : Prop := rest.head? ≠ some '"' ∧ rest.head? ≠ some '\''

theorem unquoted_cons {c : Char} (h : c ≠ '"' ∧ c ≠ '\'') : Unquoted (c :: rest) :=
  ⟨fun hc => h.1 (Option.some.inj hc), fun hc => h.2 (Option.some.inj hc)⟩

/-- A text is what is tried behind the words of truth. -/
theorem scalar_of_quotedText {c : Char} {t : String} (ht : c ≠ 't') (hf : c ≠ 'f')
    (h : quotedText (c :: rest) = some (t, rest')) :
    scalar (c :: rest) = some (.string t, rest') := by
  unfold scalar
  split
  · rename_i heq
    exact absurd (List.cons.inj heq).1 ht
  · rename_i heq
    exact absurd (List.cons.inj heq).1 hf
  · rw [h]

/-- A text is read wherever a value can stand. -/
theorem value_writeText (s : String) (depth : Nat) (h : Unquoted rest) :
    value (depth + 1) (writeText s ++ rest) = some (.string s, rest) := by
  have hquoted := quotedText_writeText s h.1 h.2
  obtain ⟨c, t, ht, hc⟩ := writeText_eq_cons s
  rw [ht, List.cons_append] at hquoted ⊢
  have hvalue : value (depth + 1) (c :: (t ++ rest)) = scalar (c :: (t ++ rest)) := by
    rcases hc with rfl | rfl <;> rfl
  rw [hvalue]
  rcases hc with rfl | rfl <;> exact scalar_of_quotedText (by simp) (by simp) hquoted

/-! ### Items -/

theorem skipGaps_space (t : List Char) : skipGaps false (' ' :: t) = skipGaps false t := rfl

theorem skipGaps_newline (t : List Char) : skipGaps false ('\n' :: t) = skipGaps false t := rfl

theorem skipGaps_writeText (s : String) (rest : List Char) :
    skipGaps false (writeText s ++ rest) = writeText s ++ rest := by
  obtain ⟨c, t, ht, hc⟩ := writeText_eq_cons s
  rw [ht, List.cons_append]
  rcases hc with rfl | rfl <;> rfl

/-- Gaps in front of an item do not count. -/
theorem items_of_skipGaps {item : Reader Value} {s t : List Char}
    (h : skipGaps false s = skipGaps false t) (fuel : Nat) :
    items item fuel s = items item fuel t := by
  cases fuel with
  | zero => rfl
  | succ fuel => rw [items, items, h]

/-- A text in front of something else. -/
theorem items_writeText (s : String) (depth fuel : Nat) (h : Unquoted rest) :
    items (value (depth + 1)) (fuel + 1) (writeText s ++ rest) =
      match skipGaps false rest with
      | ',' :: rest =>
        (items (value (depth + 1)) fuel rest).map fun r => (.string s :: r.1, r.2)
      | ']' :: rest => some ([.string s], rest)
      | _ => none := by
  have hvalue := value_writeText s depth h
  rw [items, skipGaps_writeText]
  split
  · rename_i heq
    obtain ⟨c, t, ht, hc⟩ := writeText_eq_cons s
    rw [ht, List.cons_append] at heq
    rcases hc with rfl | rfl <;> exact absurd (List.cons.inj heq).1 (by decide)
  · exact hvalue ▸ rfl

theorem items_comma (s : String) (depth fuel : Nat) (rest : List Char) :
    items (value (depth + 1)) (fuel + 1) (writeText s ++ ',' :: rest) =
      (items (value (depth + 1)) fuel rest).map fun r => (.string s :: r.1, r.2) :=
  items_writeText s depth fuel (unquoted_cons (by decide))

theorem items_close (s : String) (depth fuel : Nat) (rest : List Char) :
    items (value (depth + 1)) (fuel + 1) (writeText s ++ ']' :: rest) =
      some ([.string s], rest) :=
  items_writeText s depth fuel (unquoted_cons (by decide))

theorem items_flat {ss : List String} (hne : ss ≠ []) (depth : Nat) {fuel : Nat}
    (hfuel : ss.length ≤ fuel) :
    items (value (depth + 1)) fuel ([',', ' '].intercalate (ss.map writeText) ++ ']' :: rest) =
      some (ss.map .string, rest) := by
  induction ss generalizing fuel with
  | nil => exact absurd rfl hne
  | cons s ss ih =>
    obtain ⟨fuel, rfl⟩ : ∃ n, fuel = n + 1 :=
      ⟨fuel - 1, by simp only [List.length_cons] at hfuel; omega⟩
    cases ss with
    | nil =>
      have hone : [',', ' '].intercalate ([s].map writeText) = writeText s := by simp
      rw [hone, items_close]
      rfl
    | cons s' ss =>
      have hcons : [',', ' '].intercalate ((s :: s' :: ss).map writeText) ++ ']' :: rest =
          writeText s ++ ',' :: ' ' ::
            ([',', ' '].intercalate ((s' :: ss).map writeText) ++ ']' :: rest) := by simp
      rw [hcons, items_comma, items_of_skipGaps (skipGaps_space _),
        ih (by simp) (Nat.le_of_succ_le_succ hfuel)]
      rfl

/-- The line of a text in the tall layout. -/
def itemLine (s : String) : List Char := [' ', ' ', ' ', ' '] ++ writeText s ++ [',', '\n']

theorem items_tall (ss : List String) (depth : Nat) {fuel : Nat} (hfuel : ss.length < fuel) :
    items (value (depth + 1)) fuel ((ss.map itemLine).flatten ++ ']' :: rest) =
      some (ss.map .string, rest) := by
  induction ss generalizing fuel with
  | nil =>
    obtain ⟨fuel, rfl⟩ : ∃ n, fuel = n + 1 := ⟨fuel - 1, by omega⟩
    rfl
  | cons s ss ih =>
    obtain ⟨fuel, rfl⟩ : ∃ n, fuel = n + 1 := ⟨fuel - 1, by omega⟩
    have hcons : ((s :: ss).map itemLine).flatten ++ ']' :: rest =
        ' ' :: ' ' :: ' ' :: ' ' :: (writeText s ++ ',' :: '\n' ::
          ((ss.map itemLine).flatten ++ ']' :: rest)) := by simp [itemLine]
    rw [hcons, items_of_skipGaps (skipGaps_space _), items_of_skipGaps (skipGaps_space _),
      items_of_skipGaps (skipGaps_space _), items_of_skipGaps (skipGaps_space _), items_comma,
      items_of_skipGaps (skipGaps_newline _), ih (Nat.lt_of_succ_lt_succ hfuel)]
    rfl

/-! ### Values -/

theorem length_le_length_flatten {α : Type} (ls : List (List α)) (h : ∀ l ∈ ls, l ≠ []) :
    ls.length ≤ ls.flatten.length := by
  induction ls with
  | nil => exact Nat.zero_le 0
  | cons l ls ih =>
    have hl : 0 < l.length := List.length_pos_iff.mpr (h l List.mem_cons_self)
    have hls := ih fun m hm => h m (List.mem_cons_of_mem l hm)
    simp only [List.length_cons, List.flatten_cons, List.length_append]
    omega

theorem writeText_ne_nil (s : String) : writeText s ≠ [] := by
  obtain ⟨c, t, ht, -⟩ := writeText_eq_cons s
  simp [ht]

theorem length_le_length_intercalate (sep : List Char) (ls : List (List Char))
    (h : ∀ l ∈ ls, l ≠ []) : ls.length ≤ (sep.intercalate ls).length := by
  induction ls with
  | nil => exact Nat.zero_le _
  | cons l ls ih =>
    have hl : 0 < l.length := List.length_pos_iff.mpr (h l List.mem_cons_self)
    have hls := ih fun m hm => h m (List.mem_cons_of_mem l hm)
    cases ls with
    | nil => simp; omega
    | cons m ls =>
      simp only [List.length_cons, List.intercalate_cons_cons, List.length_append] at hls ⊢
      omega

/-- **Values read back**, whatever their layout. -/
theorem value_write (layout : Layout) (c : Content) (h : Unquoted rest) :
    value depthLimit (c.write layout ++ rest) = some (c.toValue, rest) := by
  cases c with
  | text s => exact value_writeText s 79 h
  | texts ss =>
    have harray (r : List Char) : value depthLimit ('[' :: r) =
        (items (value 79) (r.length + 1) r).map fun r => (.array r.1, r.2) := rfl
    rw [Content.write]
    split
    · rename_i htall
      have hitems : items (value 79)
          (('\n' :: ((ss.map itemLine).flatten ++ ']' :: rest)).length + 1)
          ('\n' :: ((ss.map itemLine).flatten ++ ']' :: rest)) = some (ss.map .string, rest) := by
        rw [items_of_skipGaps (skipGaps_newline _)]
        refine items_tall ss 78 ?_
        have hlen := length_le_length_flatten (ss.map itemLine) (by simp [itemLine])
        simp only [List.length_map, List.length_cons, List.length_append] at hlen ⊢
        omega
      show value depthLimit ('[' :: '\n' :: ((ss.map itemLine).flatten ++ [']']) ++ rest) = _
      rw [List.cons_append, List.cons_append, List.append_assoc, List.singleton_append, harray,
        hitems]
      rfl
    · have hitems : items (value 79)
          (([',', ' '].intercalate (ss.map writeText) ++ ']' :: rest).length + 1)
          ([',', ' '].intercalate (ss.map writeText) ++ ']' :: rest) =
            some (ss.map .string, rest) := by
        by_cases hss : ss = []
        · subst ss
          rfl
        · refine items_flat hss 78 ?_
          have hlen := length_le_length_intercalate [',', ' '] (ss.map writeText)
            (by simp [writeText_ne_nil])
          simp only [List.length_map, List.length_append] at hlen ⊢
          omega
      show value depthLimit ('[' :: ([',', ' '].intercalate (ss.map writeText) ++ [']'] ++ rest)) = _
      rw [List.append_assoc, List.singleton_append, harray, hitems]
      rfl

end TrafficRouting.Toml
