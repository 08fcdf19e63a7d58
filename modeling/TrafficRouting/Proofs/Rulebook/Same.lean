import Mathlib.Data.List.Perm.Subperm
import TrafficRouting.Proofs.NameSet
import TrafficRouting.Proofs.OrdMap
import TrafficRouting.Rulebook.Same

/-!
# TrafficRouting.Proofs.Rulebook.Same — sameness is an equivalence

Maps are the same if they have the same keys and the same values (`OrdMap.same_iff`), sets if they
have the same members.  From there sameness is an equivalence on definitions, on strategies and
on rulebooks (`Rulebook.same_equivalence`), and equal strategies with equal look-ups are enough for
it (`Rulebook.same_of_get?`).
-/

namespace TrafficRouting

/-! ### Maps and sets -/

namespace OrdMap

variable {κ α : Type} [DecidableEq κ]

/-- Maps are the same if they have the same keys and `eq` holds between their values. -/
theorem same_iff {eq : α → α → Bool} {d e : OrdMap κ α} :
    d.same eq e = true ↔ (∀ k, k ∈ d.keys ↔ k ∈ e.keys) ∧
      ∀ k v w, d.get? k = some v → e.get? k = some w → eq v w = true := by
  have hlength : d.entries.length = e.entries.length ↔ d.keys.length = e.keys.length := by
    rw [keys, keys, List.length_map, List.length_map]
  rw [same, Bool.and_eq_true, decide_eq_true_eq, List.all_eq_true, hlength]
  constructor
  · rintro ⟨hlen, hall⟩
    have hget : ∀ k v, d.get? k = some v → ∃ w, e.get? k = some w ∧ eq v w = true := by
      intro k v hv
      have hv := hall (k, v) (get?_eq_some_iff.mp hv)
      cases hw : e.get? k with
      | none => simp [hw] at hv
      | some w => exact ⟨w, rfl, by simpa [hw] using hv⟩
    -- as many keys as in `e`, and all of them are keys of `e`
    have hsub : d.keys ⊆ e.keys := by
      intro k hk
      obtain ⟨v, hv⟩ := mem_keys_iff.mp hk
      obtain ⟨w, hw, -⟩ := hget k v hv
      exact mem_keys_iff.mpr ⟨w, hw⟩
    have hperm : d.keys.Perm e.keys :=
      (List.Nodup.subperm d.nodup hsub).perm_of_length_le (Nat.le_of_eq hlen.symm)
    refine ⟨fun k => hperm.mem_iff, fun k v w hv hw => ?_⟩
    obtain ⟨w', hw', heq⟩ := hget k v hv
    obtain rfl := Option.some.inj (hw.symm.trans hw')
    exact heq
  · rintro ⟨hkeys, heq⟩
    refine ⟨((List.perm_ext_iff_of_nodup d.nodup e.nodup).mpr hkeys).length_eq, fun x hx => ?_⟩
    have hv : d.get? x.1 = some x.2 := get?_eq_some_iff.mpr hx
    obtain ⟨w, hw⟩ := mem_keys_iff.mp ((hkeys x.1).mp (mem_keys_iff.mpr ⟨x.2, hv⟩))
    rw [hw]
    exact heq x.1 x.2 w hv hw

/-- Sameness of maps is an equivalence if the one of values is. -/
theorem same_equivalence {eq : α → α → Bool} (h : Equivalence fun v w => eq v w = true) :
    Equivalence fun d e : OrdMap κ α => d.same eq e = true where
  refl d := same_iff.mpr ⟨fun k => Iff.rfl, fun k v w hv hw => by
    obtain rfl := Option.some.inj (hv.symm.trans hw)
    exact h.refl v⟩
  symm hde := by
    obtain ⟨hkeys, heq⟩ := same_iff.mp hde
    exact same_iff.mpr ⟨fun k => (hkeys k).symm, fun k v w hv hw => h.symm (heq k w v hw hv)⟩
  trans hde hef := by
    obtain ⟨hkeys, heq⟩ := same_iff.mp hde
    obtain ⟨hkeys', heq'⟩ := same_iff.mp hef
    refine same_iff.mpr ⟨fun k => (hkeys k).trans (hkeys' k), fun k v w hv hw => ?_⟩
    obtain ⟨u, hu⟩ := mem_keys_iff.mp ((hkeys k).mp (mem_keys_iff.mpr ⟨v, hv⟩))
    exact h.trans (heq k v u hv hu) (heq' k u w hu hw)

end OrdMap

namespace NameSet

theorem same_iff {s t : NameSet} : s.same t = true ↔ ∀ n, n ∈ s ↔ n ∈ t := by
  rw [same, Bool.and_eq_true, decide_eq_true_eq, List.all_eq_true]
  constructor
  · rintro ⟨hlen, hall⟩ n
    have hsub : s.toList ⊆ t.toList := fun n hn => mem_def.mp (of_decide_eq_true (hall n hn))
    exact ((List.Nodup.subperm s.nodup hsub).perm_of_length_le (Nat.le_of_eq hlen.symm)).mem_iff
  · intro h
    refine ⟨((List.perm_ext_iff_of_nodup s.nodup t.nodup).mpr h).length_eq, fun n hn => ?_⟩
    exact decide_eq_true ((h n).mp hn)

theorem same_equivalence : Equivalence fun s t : NameSet => s.same t = true where
  refl _ := same_iff.mpr fun _ => Iff.rfl
  symm h := same_iff.mpr fun n => (same_iff.mp h n).symm
  trans h h' := same_iff.mpr fun n => (same_iff.mp h n).trans (same_iff.mp h' n)

end NameSet

/-! ### Lists -/

theorem sameList_equivalence {α : Type} {eq : α → α → Bool}
    (h : Equivalence fun a b => eq a b = true) :
    Equivalence fun as bs => sameList eq as bs = true where
  refl as := by
    induction as with
    | nil => rfl
    | cons a as ih => rw [sameList, h.refl a, ih, Bool.and_self]
  symm {as bs} hs := by
    induction as generalizing bs with
    | nil => cases bs with
      | nil => rfl
      | cons b bs => simp [sameList] at hs
    | cons a as ih => cases bs with
      | nil => simp [sameList] at hs
      | cons b bs =>
        rw [sameList, Bool.and_eq_true] at hs ⊢
        exact ⟨h.symm hs.1, ih hs.2⟩
  trans {as bs cs} hs hs' := by
    induction as generalizing bs cs with
    | nil => cases bs with
      | nil => exact hs'
      | cons b bs => simp [sameList] at hs
    | cons a as ih => cases bs with
      | nil => simp [sameList] at hs
      | cons b bs => cases cs with
        | nil => simp [sameList] at hs'
        | cons c cs =>
          rw [sameList, Bool.and_eq_true] at hs hs' ⊢
          exact ⟨h.trans hs.1 hs'.1, ih hs.2 hs'.2⟩

/-! ### Definitions, strategies, rulebooks -/

/-- Equality that is decided is an equivalence. -/
theorem decide_eq_equivalence {α : Type} [DecidableEq α] :
    Equivalence fun a b : α => decide (a = b) = true where
  refl _ := decide_eq_true rfl
  symm h := decide_eq_true (of_decide_eq_true h).symm
  trans h h' := decide_eq_true ((of_decide_eq_true h).trans (of_decide_eq_true h'))

theorem Definition.same_equivalence : Equivalence fun a b : Definition => a.same b = true := by
  have hprops := OrdMap.same_equivalence (κ := String) (decide_eq_equivalence (α := String))
  constructor
  · intro a
    rw [same, hprops.refl a.props, decide_eq_true rfl, Bool.and_self]
  · intro a b h
    rw [same, Bool.and_eq_true, decide_eq_true_eq] at h ⊢
    exact ⟨h.1.symm, hprops.symm h.2⟩
  · intro a b c h h'
    rw [same, Bool.and_eq_true, decide_eq_true_eq] at h h' ⊢
    exact ⟨h.1.trans h'.1, hprops.trans h.2 h'.2⟩

theorem Strategy.same_iff {a b : Strategy} :
    a.same b = true ↔ a.name = b.name ∧ a.algorithm = b.algorithm ∧
      a.loadBalancer = b.loadBalancer ∧ a.labels.same b.labels = true := by
  rw [same, Bool.and_eq_true, Bool.and_eq_true, Bool.and_eq_true, decide_eq_true_eq,
    decide_eq_true_eq, decide_eq_true_eq, and_assoc, and_assoc]

theorem Strategy.same_equivalence : Equivalence fun a b : Strategy => a.same b = true where
  refl a := same_iff.mpr ⟨rfl, rfl, rfl, NameSet.same_equivalence.refl a.labels⟩
  symm h := by
    obtain ⟨hn, ha, hb, hl⟩ := same_iff.mp h
    exact same_iff.mpr ⟨hn.symm, ha.symm, hb.symm, NameSet.same_equivalence.symm hl⟩
  trans h h' := by
    obtain ⟨hn, ha, hb, hl⟩ := same_iff.mp h
    obtain ⟨hn', ha', hb', hl'⟩ := same_iff.mp h'
    exact same_iff.mpr
      ⟨hn.trans hn', ha.trans ha', hb.trans hb', NameSet.same_equivalence.trans hl hl'⟩

namespace Rulebook

theorem same_iff {a b : Rulebook} :
    a.same b = true ↔ sameList Strategy.same a.strategies b.strategies = true ∧
      a.algorithms.same Definition.same b.algorithms = true ∧
      a.loadBalancers.same Definition.same b.loadBalancers = true := by
  rw [same, Bool.and_eq_true, Bool.and_eq_true, and_assoc]

/-- **Sameness of rulebooks is an equivalence.** -/
theorem same_equivalence : Equivalence fun a b : Rulebook => a.same b = true := by
  have hstrategies := sameList_equivalence Strategy.same_equivalence
  have hdefinitions := OrdMap.same_equivalence (κ := String) Definition.same_equivalence
  constructor
  · intro a
    exact same_iff.mpr ⟨hstrategies.refl _, hdefinitions.refl _, hdefinitions.refl _⟩
  · intro a b h
    obtain ⟨hs, ha, hb⟩ := same_iff.mp h
    exact same_iff.mpr ⟨hstrategies.symm hs, hdefinitions.symm ha, hdefinitions.symm hb⟩
  · intro a b c h h'
    obtain ⟨hs, ha, hb⟩ := same_iff.mp h
    obtain ⟨hs', ha', hb'⟩ := same_iff.mp h'
    exact same_iff.mpr
      ⟨hstrategies.trans hs hs', hdefinitions.trans ha ha', hdefinitions.trans hb hb'⟩

/-- The order of the load balancers does not count. -/
theorem same_of_get? {a b : Rulebook} (hs : a.strategies = b.strategies)
    (ha : a.algorithms = b.algorithms)
    (hb : ∀ k, a.loadBalancers.get? k = b.loadBalancers.get? k) : a.same b = true := by
  refine same_iff.mpr ⟨?_, ?_, OrdMap.same_iff.mpr ⟨fun k => ?_, fun k v w hv hw => ?_⟩⟩
  · exact hs ▸ (sameList_equivalence Strategy.same_equivalence).refl _
  · exact ha ▸ (OrdMap.same_equivalence Definition.same_equivalence).refl _
  · rw [OrdMap.mem_keys_iff, OrdMap.mem_keys_iff, hb]
  · obtain rfl := Option.some.inj (hv.symm.trans ((hb k).trans hw))
    exact Definition.same_equivalence.refl v

end Rulebook

end TrafficRouting
