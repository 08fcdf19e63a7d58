import Mathlib.Data.List.Induction
import Mathlib.Data.List.Nodup
import TrafficRouting.OrdMap

/-!
# TrafficRouting.Proofs.OrdMap — look-up in maps that are built, overlaid and restricted

A map that is built from a list has the last value of each key (`get?_ofList`); an overlay prefers
the values on top (`get?_overlay`); a restriction keeps the values of the keys that pass
(`get?_restrict`).  A map is known by its keys in order and by its values (`ext_get?`), so that
laying over what a list builds is inserting the list (`overlay_ofList`), and an overlay and a
restriction that come again change nothing (`restrict_overlay_again`).
-/

namespace TrafficRouting.OrdMap

variable {κ α : Type} [DecidableEq κ]

/-! ### Keys and entries -/

theorem get?_eq_some_iff {d : OrdMap κ α} {k : κ} {v : α} :
    d.get? k = some v ↔ (k, v) ∈ d.entries := by
  obtain ⟨l, hl⟩ := d
  show l.lookup k = some v ↔ (k, v) ∈ l
  induction l with
  | nil => simp
  | cons e l ih =>
    obtain ⟨k', v'⟩ := e
    rw [List.map_cons, List.nodup_cons] at hl
    by_cases hk : k = k'
    · subst hk
      have hout : (k, v) ∉ l := fun h => hl.1 (List.mem_map.mpr ⟨(k, v), h, rfl⟩)
      simp [hout, eq_comm]
    · rw [List.lookup_cons, beq_eq_false_iff_ne.mpr hk, ih hl.2]
      simp [hk]

theorem contains_iff {d : OrdMap κ α} {k : κ} : d.contains k = true ↔ k ∈ d.keys := by
  rw [contains, get?, List.lookup_isSome_iff, keys, List.mem_map]
  refine exists_congr fun e => and_congr_right fun _ => ?_
  rw [beq_iff_eq]
  exact eq_comm

theorem get?_eq_none_iff {d : OrdMap κ α} {k : κ} : d.get? k = none ↔ k ∉ d.keys := by
  rw [← contains_iff, contains]
  simp

theorem mem_keys_iff {d : OrdMap κ α} {k : κ} : k ∈ d.keys ↔ ∃ v, d.get? k = some v := by
  rw [← contains_iff, contains, Option.isSome_iff_exists]

theorem mem_keys_insert {d : OrdMap κ α} {k k' : κ} {v : α} :
    k' ∈ (d.insert k v).keys ↔ k' = k ∨ k' ∈ d.keys := by
  rw [keys_insert]
  by_cases h : k ∈ d.keys
  · rw [if_pos h]
    exact ⟨Or.inr, fun h' => h'.elim (fun e => e ▸ h) id⟩
  · rw [if_neg h, List.mem_append, List.mem_singleton, or_comm]

/-! ### Building -/

theorem putEntry_of_not_mem {k : κ} (v : α) {l : List (κ × α)} (h : k ∉ l.map Prod.fst) :
    putEntry k v l = l ++ [(k, v)] := by
  induction l with
  | nil => rfl
  | cons e l ih =>
    simp only [List.map_cons, List.mem_cons, not_or] at h
    rw [putEntry, if_neg (Ne.symm h.1), ih h.2, List.cons_append]

/-- Up to order, what is put under a key takes the place of what was there. -/
theorem putEntry_perm (k : κ) (v : α) {l : List (κ × α)} (hl : (l.map Prod.fst).Nodup) :
    (putEntry k v l).Perm (l.filter (fun e => decide (e.1 ≠ k)) ++ [(k, v)]) := by
  induction l with
  | nil => exact List.Perm.refl _
  | cons e l ih =>
    rw [List.map_cons, List.nodup_cons] at hl
    rw [putEntry, List.filter_cons]
    by_cases he : e.1 = k
    · have hrest : l.filter (fun e => decide (e.1 ≠ k)) = l := by
        refine List.filter_eq_self.mpr fun x hx => decide_eq_true ?_
        rintro rfl
        exact hl.1 (he ▸ List.mem_map_of_mem hx)
      rw [if_pos he, if_neg (by simp [he]), hrest]
      exact (List.perm_append_singleton _ _).symm
    · rw [if_neg he, if_pos (decide_eq_true he), List.cons_append]
      exact (ih hl.2).cons e

/-- New entries are added in their order. -/
theorem entries_foldl_insert {l : List (κ × α)} {d : OrdMap κ α}
    (h : (d.entries ++ l).map Prod.fst |>.Nodup) :
    (l.foldl (fun d e => d.insert e.1 e.2) d).entries = d.entries ++ l := by
  induction l generalizing d with
  | nil => simp
  | cons e l ih =>
    have hnew : e.1 ∉ d.entries.map Prod.fst := by
      rw [List.map_append, List.nodup_append] at h
      exact fun hmem => h.2.2 e.1 hmem e.1 (by simp) rfl
    have hinsert : (d.insert e.1 e.2).entries = d.entries ++ [e] := putEntry_of_not_mem e.2 hnew
    rw [List.foldl_cons, ih (by simpa [hinsert] using h), hinsert, List.append_assoc]
    rfl

theorem entries_ofList {l : List (κ × α)} (h : (l.map Prod.fst).Nodup) : (ofList l).entries = l :=
  entries_foldl_insert (d := empty) h

/-- A map is built again from its entries. -/
theorem ofList_entries (d : OrdMap κ α) : ofList d.entries = d :=
  OrdMap.ext (entries_ofList d.nodup)

/-- Insertions in a row: the last value of a key counts, else the one from before. -/
theorem get?_foldl_insert (l : List (κ × α)) (d : OrdMap κ α) (k : κ) :
    (l.foldl (fun d e => d.insert e.1 e.2) d).get? k = (l.reverse.lookup k).or (d.get? k) := by
  induction l generalizing d with
  | nil => rfl
  | cons e l ih =>
    rw [List.foldl_cons, ih, get?_insert, List.reverse_cons, List.lookup_append, List.lookup_cons,
      List.lookup_nil, Option.or_assoc]
    by_cases hk : k = e.1
    · simp [hk]
    · simp [hk, beq_eq_false_iff_ne.mpr hk]

theorem mem_keys_foldl_insert (l : List (κ × α)) (d : OrdMap κ α) (k : κ) :
    k ∈ (l.foldl (fun d e => d.insert e.1 e.2) d).keys ↔ k ∈ l.map Prod.fst ∨ k ∈ d.keys := by
  induction l generalizing d with
  | nil => simp
  | cons e l ih =>
    rw [List.foldl_cons, ih, mem_keys_insert, List.map_cons, List.mem_cons, or_left_comm, or_assoc]

theorem get?_ofList (l : List (κ × α)) (k : κ) : (ofList l).get? k = l.reverse.lookup k := by
  rw [ofList, get?_foldl_insert, get?_empty, Option.or_none]

theorem mem_keys_ofList {l : List (κ × α)} {k : κ} :
    k ∈ (ofList l).keys ↔ k ∈ l.map Prod.fst := by
  rw [ofList, mem_keys_foldl_insert, keys_empty]
  simp

/-- Nothing but what the list says gets into the map. -/
theorem mem_of_mem_ofList {l : List (κ × α)} {e : κ × α} (h : e ∈ (ofList l).entries) : e ∈ l := by
  have h1 : (ofList l).get? e.1 = some e.2 := get?_eq_some_iff.mpr h
  rw [get?_ofList, List.lookup_eq_some_iff] at h1
  obtain ⟨l₁, l₂, h2, -⟩ := h1
  have h3 : e ∈ l.reverse := by rw [h2]; simp
  exact List.mem_reverse.mp h3

/-! ### Overlay and restriction -/

/-- Each key occurs once, so it does not matter from which end it is looked up. -/
theorem lookup_reverse_entries (d : OrdMap κ α) (k : κ) :
    d.entries.reverse.lookup k = d.get? k := by
  have hn : (d.entries.reverse.map Prod.fst).Nodup := by
    rw [List.map_reverse]; exact List.nodup_reverse.mpr d.nodup
  refine Option.ext fun v => ?_
  have h1 := get?_eq_some_iff (d := ⟨d.entries.reverse, hn⟩) (k := k) (v := v)
  have h2 := get?_eq_some_iff (d := d) (k := k) (v := v)
  rw [h2, ← List.mem_reverse]
  exact h1

theorem get?_overlay (d e : OrdMap κ α) (k : κ) :
    (d.overlay e).get? k = (e.get? k).or (d.get? k) := by
  rw [overlay, get?_foldl_insert, lookup_reverse_entries]

theorem mem_keys_overlay {d e : OrdMap κ α} {k : κ} :
    k ∈ (d.overlay e).keys ↔ k ∈ e.keys ∨ k ∈ d.keys :=
  mem_keys_foldl_insert e.entries d k

theorem mem_entries_overlay {d e : OrdMap κ α} {x : κ × α} (h : x ∈ (d.overlay e).entries) :
    x ∈ e.entries ∨ x ∈ d.entries := by
  have h1 : (d.overlay e).get? x.1 = some x.2 := get?_eq_some_iff.mpr h
  rw [get?_overlay, Option.or_eq_some_iff] at h1
  rcases h1 with h1 | ⟨-, h1⟩
  · exact Or.inl (get?_eq_some_iff.mp h1)
  · exact Or.inr (get?_eq_some_iff.mp h1)

theorem get?_restrict (d : OrdMap κ α) (p : κ → Bool) (k : κ) :
    (d.restrict p).get? k = if p k then d.get? k else none := by
  refine Option.ext fun v => ?_
  rw [get?_eq_some_iff]
  show (k, v) ∈ d.entries.filter (fun e => p e.1) ↔ _
  rw [List.mem_filter, ← get?_eq_some_iff]
  by_cases hp : p k <;> simp [hp]

omit [DecidableEq κ] in
theorem mem_keys_restrict {d : OrdMap κ α} {p : κ → Bool} {k : κ} :
    k ∈ (d.restrict p).keys ↔ k ∈ d.keys ∧ p k = true := by
  rw [keys_restrict, List.mem_filter]

/-! ### Order of the keys -/

/-- The entries are the keys with their values. -/
theorem entries_eq_filterMap (d : OrdMap κ α) :
    d.entries = d.keys.filterMap fun k => (d.get? k).map fun v => (k, v) := by
  rw [keys, List.filterMap_map]
  refine (List.filterMap_some (l := d.entries)).symm.trans (List.filterMap_congr fun e he => ?_)
  have hget : d.get? e.1 = some e.2 := get?_eq_some_iff.mpr he
  rw [Function.comp_apply, hget, Option.map_some]

/-- A map is known by its keys in order and by its values. -/
theorem ext_get? {d e : OrdMap κ α} (hkeys : d.keys = e.keys) (hget : ∀ k, d.get? k = e.get? k) :
    d = e := by
  apply OrdMap.ext
  rw [entries_eq_filterMap d, entries_eq_filterMap e, hkeys]
  simp only [hget]

theorem keys_foldl_insert {l : List (κ × α)} (hl : (l.map Prod.fst).Nodup) (d : OrdMap κ α) :
    (l.foldl (fun d e => d.insert e.1 e.2) d).keys =
      d.keys ++ (l.map Prod.fst).filter fun k => decide (k ∉ d.keys) := by
  induction l generalizing d with
  | nil => simp
  | cons e l ih =>
    rw [List.map_cons, List.nodup_cons] at hl
    rw [List.foldl_cons, ih hl.2, keys_insert, List.map_cons, List.filter_cons]
    by_cases he : e.1 ∈ d.keys
    · simp [he]
    -- the new key is at its place already, and it does not come again
    · have hrest : (l.map Prod.fst).filter (fun k => decide (k ∉ d.keys ++ [e.1])) =
          (l.map Prod.fst).filter fun k => decide (k ∉ d.keys) := by
        refine List.filter_congr fun k hk => decide_eq_decide.mpr (not_congr ?_)
        have hne : k ≠ e.1 := fun h => hl.1 (h ▸ hk)
        rw [List.mem_append, List.mem_singleton, or_iff_left hne]
      rw [if_neg he, hrest, if_pos (by simpa using he), List.append_assoc, List.singleton_append]

/-- An overlay keeps the order of the keys below, and adds its new ones in their order. -/
theorem keys_overlay (d e : OrdMap κ α) :
    (d.overlay e).keys = d.keys ++ e.keys.filter fun k => decide (k ∉ d.keys) :=
  keys_foldl_insert e.nodup d

/-- Laying over and then inserting is laying over what has been inserted into. -/
theorem overlay_insert (d e : OrdMap κ α) (k : κ) (v : α) :
    d.overlay (e.insert k v) = (d.overlay e).insert k v := by
  refine ext_get? ?_ fun k' => ?_
  · by_cases he : k ∈ e.keys
    · rw [keys_insert, if_pos (mem_keys_overlay.mpr (Or.inl he)), keys_overlay, keys_insert,
        if_pos he, keys_overlay]
    · rw [keys_overlay, keys_insert, if_neg he, List.filter_append, ← List.append_assoc,
        ← keys_overlay, keys_insert]
      by_cases hd : k ∈ d.keys
      · rw [if_pos (mem_keys_overlay.mpr (Or.inr hd))]
        simp [hd]
      · rw [if_neg fun h => (mem_keys_overlay.mp h).elim he hd]
        simp [hd]
  · rw [get?_insert, get?_overlay, get?_overlay, get?_insert]
    by_cases hk : k' = k
    · rw [if_pos hk, if_pos hk, Option.some_or]
    · rw [if_neg hk, if_neg hk]

theorem ofList_concat (l : List (κ × α)) (e : κ × α) :
    ofList (l ++ [e]) = (ofList l).insert e.1 e.2 :=
  List.foldl_concat _ _ _ _

/-- **One overlay for all insertions**: laying a map over that is built from a list is inserting
the entries of the list one after the other. -/
theorem overlay_ofList (d : OrdMap κ α) (l : List (κ × α)) :
    d.overlay (ofList l) = l.foldl (fun d e => d.insert e.1 e.2) d := by
  induction l using List.reverseRecOn with
  | nil => rfl
  | append_singleton l e ih => rw [ofList_concat, overlay_insert, ih, List.foldl_concat]

/-- Keys arrive with their first entry, in whatever way later ones change their values. -/
theorem keys_ofList (l : List (κ × α)) : (ofList l).keys = (l.map Prod.fst).eraseDups := by
  induction l using List.reverseRecOn with
  | nil => rfl
  | append_singleton l e ih =>
    rw [ofList_concat, keys_insert, ih, List.map_append, List.eraseDups_append]
    by_cases he : e.1 ∈ l.map Prod.fst
    · rw [if_pos (List.mem_eraseDups.mpr he)]
      simp [List.removeAll, he]
    · rw [if_neg (mt List.mem_eraseDups.mp he)]
      simp [List.removeAll, he, List.eraseDups_cons]

/-! ### Overlays and restrictions again -/

/-- What is there already changes nothing. -/
theorem overlay_eq_self {d e : OrdMap κ α} (h : ∀ k v, e.get? k = some v → d.get? k = some v) :
    d.overlay e = d := by
  refine ext_get? ?_ fun k => ?_
  · have hnone : e.keys.filter (fun k => decide (k ∉ d.keys)) = [] := by
      refine List.filter_eq_nil_iff.mpr fun k hk => ?_
      obtain ⟨v, hv⟩ := mem_keys_iff.mp hk
      simp [mem_keys_iff.mpr ⟨v, h k v hv⟩]
    rw [keys_overlay, hnone, List.append_nil]
  · rw [get?_overlay]
    cases he : e.get? k with
    | none => rw [Option.none_or]
    | some v => rw [Option.some_or, h k v he]

theorem overlay_overlay_self (d e : OrdMap κ α) : (d.overlay e).overlay e = d.overlay e :=
  overlay_eq_self fun k v h => by rw [get?_overlay, h, Option.some_or]

omit [DecidableEq κ] in
theorem restrict_restrict_self (d : OrdMap κ α) (p : κ → Bool) :
    (d.restrict p).restrict p = d.restrict p :=
  OrdMap.ext (by simp [restrict])

/-- A restriction may come before the overlay, if it comes to both maps. -/
theorem restrict_overlay (d e : OrdMap κ α) (p : κ → Bool) :
    (d.overlay e).restrict p = (d.restrict p).overlay (e.restrict p) := by
  refine ext_get? ?_ fun k => ?_
  · rw [keys_restrict, keys_overlay, keys_overlay, keys_restrict, keys_restrict,
      List.filter_append, List.filter_filter, List.filter_filter]
    refine congrArg _ (List.filter_congr fun k _ => ?_)
    by_cases hp : p k = true <;> simp [hp]
  · rw [get?_restrict, get?_overlay, get?_overlay, get?_restrict, get?_restrict]
    split
    · rfl
    · rfl

/-- Of maps without a common key it does not matter which one is asked first. -/
theorem get?_or_left_comm {d e : OrdMap κ α} (h : ∀ k ∈ d.keys, k ∉ e.keys) (k : κ)
    (v : Option α) : (e.get? k).or ((d.get? k).or v) = (d.get? k).or ((e.get? k).or v) := by
  by_cases hd : k ∈ d.keys
  · rw [get?_eq_none_iff.mpr (h k hd), Option.none_or, Option.none_or]
  · rw [get?_eq_none_iff.mpr hd, Option.none_or, Option.none_or]

/-- **Laying over and restricting is done once and for all**: a second time, what the overlay brings
back goes away again, and the rest stays in its order. -/
theorem restrict_overlay_again (d e : OrdMap κ α) (p : κ → Bool) :
    (((d.overlay e).restrict p).overlay e).restrict p = (d.overlay e).restrict p := by
  rw [restrict_overlay _ e, restrict_restrict_self, restrict_overlay d e, overlay_overlay_self]

end TrafficRouting.OrdMap
