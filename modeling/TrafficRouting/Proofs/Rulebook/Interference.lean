import TrafficRouting.Proofs.Rulebook.Merge
import TrafficRouting.Proofs.Rulebook.Resolution

/-!
# TrafficRouting.Proofs.Rulebook.Interference — what a merge does to strategies it does not mention

Such strategies stand in front, as they were and in their order.  What they refer to can only be
rewritten through a key of the delta, and `shadowed` tells such keys: a reference that resolves
otherwise after the merge is listed (`algorithm_mem_shadowed`, `balancer_mem_shadowed`), so if
nothing is listed every unmentioned strategy resolves as before.  No rulebook is assumed to be
sound here.
-/

namespace TrafficRouting.Rulebook

variable {current delta : Rulebook} {s : Strategy}

theorem mem_shadowed {k : String} :
    k ∈ current.shadowed delta ↔ (k ∈ delta.algorithms.keys ∨ k ∈ delta.loadBalancers.keys) ∧
      ∃ s ∈ current.untouched delta, s.algorithm = k ∨ s.balancer? = some k := by
  rw [shadowed, List.mem_filter, List.mem_append, decide_eq_true_eq, untouchedKeys,
    NameSet.mem_ofList, List.mem_flatMap]
  simp [eq_comm]

/-- An algorithm resolves otherwise after the merge only if the delta defines it. -/
theorem algorithm_mem_keys
    (h : (s.resolve (current.merge delta)).algorithm ≠ (s.resolve current).algorithm) :
    s.algorithm ∈ delta.algorithms.keys := by
  by_contra hk
  refine h ((get?_merge_algorithms s.algorithm).trans ?_)
  rw [OrdMap.get?_eq_none_iff.mpr hk]
  rfl

/-- So does a load balancer: the merge does not collect it, since the strategy is still there. -/
theorem balancer_mem_keys (hs : s ∈ current.untouched delta)
    (h : (s.resolve (current.merge delta)).loadBalancer ≠ (s.resolve current).loadBalancer) :
    ∃ k, s.balancer? = some k ∧ k ∈ delta.loadBalancers.keys := by
  cases hb : s.balancer? with
  | none =>
    refine absurd ?_ h
    show s.balancer?.bind _ = s.balancer?.bind _
    rw [hb]
    rfl
  | some k =>
    refine ⟨k, rfl, ?_⟩
    by_contra hk
    have hmerged : s ∈ (current.merge delta).strategies :=
      mem_strategies_merge.mpr (Or.inl (mem_untouched.mp hs))
    have hget := get?_merge_balancers hmerged hb
    rw [OrdMap.get?_eq_none_iff.mpr hk, Option.none_or] at hget
    refine h ?_
    show s.balancer?.bind _ = s.balancer?.bind _
    rw [hb]
    exact hget

/-- What resolves otherwise after the merge is shadowed. -/
theorem algorithm_mem_shadowed (hs : s ∈ current.untouched delta)
    (h : (s.resolve (current.merge delta)).algorithm ≠ (s.resolve current).algorithm) :
    s.algorithm ∈ current.shadowed delta :=
  mem_shadowed.mpr ⟨Or.inl (algorithm_mem_keys h), s, hs, Or.inl rfl⟩

theorem balancer_mem_shadowed (hs : s ∈ current.untouched delta)
    (h : (s.resolve (current.merge delta)).loadBalancer ≠ (s.resolve current).loadBalancer) :
    ∃ k, s.balancer? = some k ∧ k ∈ current.shadowed delta := by
  obtain ⟨k, hk, hkeys⟩ := balancer_mem_keys hs h
  exact ⟨k, hk, mem_shadowed.mpr ⟨Or.inr hkeys, s, hs, Or.inr hk⟩⟩

/-- Where nothing is shadowed, an unmentioned strategy resolves as before. -/
theorem resolve_merge_of_shadowed_eq_nil (h : current.shadowed delta = [])
    (hs : s ∈ current.untouched delta) : s.resolve (current.merge delta) = s.resolve current := by
  have ha : (s.resolve (current.merge delta)).algorithm = (s.resolve current).algorithm := by
    by_contra hne
    have hmem := algorithm_mem_shadowed hs hne
    rw [h] at hmem
    exact absurd hmem List.not_mem_nil
  have hb : (s.resolve (current.merge delta)).loadBalancer = (s.resolve current).loadBalancer := by
    by_contra hne
    obtain ⟨k, -, hmem⟩ := balancer_mem_shadowed hs hne
    rw [h] at hmem
    exact absurd hmem List.not_mem_nil
  exact congrArg₂ (fun a b => (⟨s.name, s.labels, a, b⟩ : Resolved)) ha hb

/-- **Non-interference.**  A merge leaves the strategies that the delta does not mention as they
are, in their order and in front of those of the delta.  Where no key is shadowed, their rules stay
the same; where one changes, the reference that it changed through is shadowed. -/
theorem merge_leaves_unmentioned (current delta : Rulebook) :
    (current.merge delta).strategies =
        current.strategies.filter (fun s => decide (s.name ∉ delta.names)) ++ delta.strategies ∧
      (current.shadowed delta = [] →
        (Resolution.ofRulebook (current.merge delta)).rules =
          (Resolution.ofRulebook current).rules.filter (fun t => decide (t.name ∉ delta.names)) ++
            delta.strategies.map (·.resolve (current.merge delta))) ∧
      ∀ s ∈ current.strategies, s.name ∉ delta.names →
        ((s.resolve (current.merge delta)).algorithm ≠ (s.resolve current).algorithm →
          s.algorithm ∈ current.shadowed delta) ∧
        ((s.resolve (current.merge delta)).loadBalancer ≠ (s.resolve current).loadBalancer →
          ∃ k, s.balancer? = some k ∧ k ∈ current.shadowed delta) := by
  refine ⟨rfl, fun h => ?_, fun s hs hn => ?_⟩
  · rw [Resolution.rules_ofRulebook, Resolution.rules_ofRulebook, List.filter_map]
    show (current.untouched delta ++ delta.strategies).map _ = _
    rw [List.map_append]
    refine congrArg (· ++ _) (List.map_congr_left fun s hs => ?_)
    exact resolve_merge_of_shadowed_eq_nil h hs
  · have hu : s ∈ current.untouched delta := mem_untouched.mpr ⟨hs, hn⟩
    exact ⟨algorithm_mem_shadowed hu, balancer_mem_shadowed hu⟩

/-- Alters one of the `twins`, under a key that the other one refers to if `key` is `"a1"`. -/
def twinDelta (key : String) : Rulebook where
  strategies := [{ name := "S1", algorithm := key }]
  algorithms := .ofList [(key, { type := "JDBC" })]

theorem merge_leaves_unmentioned_twins :
    (twins.shadowed (twinDelta "a2") = [] ∧
      (Resolution.ofRulebook (twins.merge (twinDelta "a2"))).rules =
        (Resolution.ofRulebook twins).rules.filter
          (fun t => decide (t.name ∉ (twinDelta "a2").names)) ++
          (twinDelta "a2").strategies.map (·.resolve (twins.merge (twinDelta "a2")))) ∧
      ∃ s ∈ twins.strategies, s.name ∉ (twinDelta "a1").names ∧
        (s.resolve (twins.merge (twinDelta "a1"))).algorithm ≠ (s.resolve twins).algorithm ∧
        s.algorithm ∈ twins.shadowed (twinDelta "a1") := by
  have hnone : twins.shadowed (twinDelta "a2") = [] := by decide +kernel
  refine ⟨⟨hnone, (merge_leaves_unmentioned twins (twinDelta "a2")).2.1 hnone⟩, ?_⟩
  have hs : twins.strategies[0] ∈ twins.strategies := List.getElem_mem _
  have hn : twins.strategies[0].name ∉ (twinDelta "a1").names := by decide +kernel
  have hne : (twins.strategies[0].resolve (twins.merge (twinDelta "a1"))).algorithm ≠
      (twins.strategies[0].resolve twins).algorithm := by decide +kernel
  exact ⟨_, hs, hn, hne, ((merge_leaves_unmentioned twins (twinDelta "a1")).2.2 _ hs hn).1 hne⟩

end TrafficRouting.Rulebook
