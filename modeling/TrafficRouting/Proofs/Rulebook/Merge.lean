import TrafficRouting.Proofs.Rulebook.Sound
import TrafficRouting.Rulebook.Merge

/-!
# TrafficRouting.Proofs.Rulebook.Merge — what a merged rulebook holds

Definitions of the delta win over current ones (`get?_merge_algorithms`, `get?_merge_balancers`),
where only load balancers in use are left.  `Closed.merge`: merging closed rulebooks gives a sound
one, however many load balancers of either are not referred to.
-/

namespace TrafficRouting.Rulebook

variable {current delta : Rulebook} {known : KnownTypes}

theorem strategies_merge (current delta : Rulebook) :
    (current.merge delta).strategies = current.untouched delta ++ delta.strategies := rfl

theorem algorithms_merge (current delta : Rulebook) :
    (current.merge delta).algorithms = current.algorithms.overlay delta.algorithms := rfl

theorem mem_untouched {s : Strategy} :
    s ∈ current.untouched delta ↔ s ∈ current.strategies ∧ s.name ∉ delta.names := by
  rw [untouched, List.mem_filter, decide_eq_true_eq]

theorem mem_strategies_merge {s : Strategy} :
    s ∈ (current.merge delta).strategies ↔
      (s ∈ current.strategies ∧ s.name ∉ delta.names) ∨ s ∈ delta.strategies := by
  rw [strategies_merge, List.mem_append, mem_untouched]

/-- A strategy that the delta mentions is the one of the delta. -/
theorem strategy?_merge_of_mem {n : String} (h : n ∈ delta.names) :
    (current.merge delta).strategy? n = delta.strategy? n := by
  rw [strategy?, strategy?, strategies_merge, List.find?_append, List.find?_eq_none.mpr,
    Option.none_or]
  intro s hs hn
  exact (mem_untouched.mp hs).2 ((decide_eq_true_eq.mp hn).symm ▸ h)

/-! ### Definitions -/

theorem get?_merge_algorithms (k : String) :
    (current.merge delta).algorithms.get? k =
      (delta.algorithms.get? k).or (current.algorithms.get? k) :=
  OrdMap.get?_overlay current.algorithms delta.algorithms k

theorem mem_keys_merge_algorithms {k : String} :
    k ∈ (current.merge delta).algorithms.keys ↔
      k ∈ delta.algorithms.keys ∨ k ∈ current.algorithms.keys :=
  OrdMap.mem_keys_overlay

theorem mem_keys_merge_balancers {k : String} :
    k ∈ (current.merge delta).loadBalancers.keys ↔
      (k ∈ delta.loadBalancers.keys ∨ k ∈ current.loadBalancers.keys) ∧
        ∃ s ∈ (current.merge delta).strategies, s.balancer? = some k := by
  rw [← mem_balancersInUse, ← OrdMap.mem_keys_overlay,
    ← decide_eq_true_eq (p := k ∈ balancersInUse _)]
  exact OrdMap.mem_keys_restrict

/-- Load balancers in use come from the delta or else from before; all others are dropped. -/
theorem get?_merge_balancers_eq_ite (k : String) :
    (current.merge delta).loadBalancers.get? k =
      if k ∈ (current.merge delta).balancersInUse then
        (delta.loadBalancers.get? k).or (current.loadBalancers.get? k)
      else none := by
  rw [← OrdMap.get?_overlay]
  refine (OrdMap.get?_restrict _ _ k).trans ?_
  simp only [decide_eq_true_eq]
  rfl

theorem get?_merge_balancers {s : Strategy} (hs : s ∈ (current.merge delta).strategies) {k : String}
    (hk : s.balancer? = some k) :
    (current.merge delta).loadBalancers.get? k =
      (delta.loadBalancers.get? k).or (current.loadBalancers.get? k) := by
  rw [get?_merge_balancers_eq_ite, if_pos (mem_balancersInUse.mpr ⟨s, hs, hk⟩)]

theorem mem_entries_merge_balancers {e : String × Definition}
    (h : e ∈ (current.merge delta).loadBalancers.entries) :
    e ∈ delta.loadBalancers.entries ∨ e ∈ current.loadBalancers.entries :=
  OrdMap.mem_entries_overlay (List.mem_of_mem_filter h)

/-! ### Soundness -/

theorem nodup_names_merge (hc : (current.strategies.map (·.name)).Nodup)
    (hd : (delta.strategies.map (·.name)).Nodup) :
    ((current.merge delta).strategies.map (·.name)).Nodup := by
  rw [strategies_merge, List.map_append, List.nodup_append]
  refine ⟨hc.sublist (List.filter_sublist.map _), hd, ?_⟩
  rintro n hn m hm rfl
  obtain ⟨s, hs, rfl⟩ := List.mem_map.mp hn
  obtain ⟨t, ht, hts⟩ := List.mem_map.mp hm
  exact (mem_untouched.mp hs).2 (mem_names.mpr ⟨t, ht, hts⟩)

/-- **Merging makes sound**: closed rulebooks merge to a rulebook without faults. -/
theorem Closed.merge (hc : current.Closed known) (hd : delta.Closed known) :
    (current.merge delta).Sound known where
  names_nodup := nodup_names_merge hc.names_nodup hd.names_nodup
  algorithm_mem s hs := by
    rw [mem_keys_merge_algorithms]
    rcases mem_strategies_merge.mp hs with ⟨hs, -⟩ | hs
    · exact Or.inr (hc.algorithm_mem s hs)
    · exact Or.inl (hd.algorithm_mem s hs)
  balancer_mem s hs k hk := by
    rw [mem_keys_merge_balancers]
    refine ⟨?_, s, hs, hk⟩
    rcases mem_strategies_merge.mp hs with ⟨hs, -⟩ | hs
    · exact Or.inr (hc.balancer_mem s hs k hk)
    · exact Or.inl (hd.balancer_mem s hs k hk)
  algorithm_known e he := by
    rcases OrdMap.mem_entries_overlay he with he | he
    · exact hd.algorithm_known e he
    · exact hc.algorithm_known e he
  balancer_known e he := by
    rcases mem_entries_merge_balancers he with he | he
    · exact hd.balancer_known e he
    · exact hc.balancer_known e he
  balancer_used k hk := (mem_keys_merge_balancers.mp hk).2

/-- A delta that mentions only strategies that there are adds no name and takes none away. -/
theorem mem_names_merge (h : ∀ n ∈ delta.names, n ∈ current.names) {n : String} :
    n ∈ (current.merge delta).names ↔ n ∈ current.names := by
  constructor
  · intro hn
    obtain ⟨s, hs, rfl⟩ := mem_names.mp hn
    rcases mem_strategies_merge.mp hs with ⟨hs, -⟩ | hs
    · exact mem_names.mpr ⟨s, hs, rfl⟩
    · exact h s.name (mem_names.mpr ⟨s, hs, rfl⟩)
  -- a strategy that goes away is mentioned, so one of its name comes back
  · intro hn
    obtain ⟨s, hs, rfl⟩ := mem_names.mp hn
    by_cases hd : s.name ∈ delta.names
    · obtain ⟨t, ht, hts⟩ := mem_names.mp hd
      exact mem_names.mpr ⟨t, mem_strategies_merge.mpr (Or.inr ht), hts⟩
    · exact mem_names.mpr ⟨s, mem_strategies_merge.mpr (Or.inl ⟨hs, hd⟩), rfl⟩

end TrafficRouting.Rulebook
