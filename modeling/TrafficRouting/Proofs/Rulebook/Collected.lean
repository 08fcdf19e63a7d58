import TrafficRouting.Proofs.Rulebook.Again

/-!
# TrafficRouting.Proofs.Rulebook.Collected — which definitions a merge leaves

A merge drops the load balancers that none of its strategies refers to, and nothing else
(`merge_drops_exactly`).  What counts are the strategies after the merge: a load balancer may lose
its last user, keep another one, or find one in the strategies from before.  Algorithms all stay.
Once dropped is dropped for good: a merge with nothing finds nothing more to drop
(`merge_merge_empty`).
-/

namespace TrafficRouting.Rulebook

/-- A merge with nothing only drops what is not in use. -/
theorem merge_empty (r : Rulebook) : r.merge {} = r.dropUnused := by
  have hstrategies : r.untouched {} = r.strategies :=
    List.filter_eq_self.mpr fun s _ => decide_eq_true (NameSet.not_mem_empty s.name)
  rw [merge, hstrategies]
  exact congrArg (fun l => dropUnused ⟨l, r.algorithms, r.loadBalancers⟩) (List.append_nil _)

theorem dropUnused_dropUnused (r : Rulebook) : r.dropUnused.dropUnused = r.dropUnused :=
  Rulebook.ext rfl rfl
    (OrdMap.restrict_restrict_self r.loadBalancers fun k => decide (k ∈ r.balancersInUse))

/-- Nothing is left to drop behind a merge. -/
theorem merge_merge_empty (c d : Rulebook) : (c.merge d).merge {} = c.merge d := by
  rw [merge_empty, merge, dropUnused_dropUnused]

/-- The load balancers that are left keep the order of the overlay. -/
theorem keys_merge_balancers_sublist (c d : Rulebook) :
    (c.merge d).loadBalancers.keys.Sublist (c.loadBalancers.keys ++
      d.loadBalancers.keys.filter fun k => decide (k ∉ c.loadBalancers.keys)) := by
  rw [loadBalancers_merge, OrdMap.keys_restrict, OrdMap.keys_overlay]
  exact List.filter_sublist

/-- **Nothing is dropped too early, and nothing is left behind.**  Of any two rulebooks, sound or
not, a merge keeps the load balancers that some merged strategy refers to, by a name that is not
empty, as far as either rulebook has them.  Each is as the delta defines it, or else as it was, and
they stand in the order of the overlay.  No algorithm goes away, none that the delta does not define
is changed, and a merge with nothing changes nothing any more. -/
theorem merge_drops_exactly (current delta : Rulebook) :
    (∀ k, k ∈ (current.merge delta).loadBalancers.keys ↔
      (∃ s ∈ (current.merge delta).strategies, s.loadBalancer = some k ∧ k ≠ "") ∧
        (k ∈ current.loadBalancers.keys ∨ k ∈ delta.loadBalancers.keys)) ∧
    (∀ k ∈ (current.merge delta).loadBalancers.keys,
      (current.merge delta).loadBalancers.get? k =
        if k ∈ delta.loadBalancers.keys then delta.loadBalancers.get? k
        else current.loadBalancers.get? k) ∧
    (current.merge delta).loadBalancers.keys.Sublist (current.loadBalancers.keys ++
      delta.loadBalancers.keys.filter fun k => decide (k ∉ current.loadBalancers.keys)) ∧
    current.algorithms.keys <+: (current.merge delta).algorithms.keys ∧
    (∀ k, k ∉ delta.algorithms.keys →
      (current.merge delta).algorithms.get? k = current.algorithms.get? k) ∧
    (current.merge delta).merge {} = current.merge delta := by
  refine ⟨fun k => ?_, fun k hk => ?_, keys_merge_balancers_sublist current delta, ?_,
    fun k hk => ?_, merge_merge_empty current delta⟩
  · rw [mem_keys_merge_balancers, and_comm, or_comm]
    simp only [Strategy.balancer?_eq_some_iff]
  · obtain ⟨s, hs, href⟩ := (mem_keys_merge_balancers.mp hk).2
    rw [get?_merge_balancers hs href]
    by_cases hdelta : k ∈ delta.loadBalancers.keys
    · obtain ⟨v, hv⟩ := OrdMap.mem_keys_iff.mp hdelta
      rw [if_pos hdelta, hv, Option.some_or]
    · rw [if_neg hdelta, OrdMap.get?_eq_none_iff.mpr hdelta, Option.none_or]
  · rw [algorithms_merge, OrdMap.keys_overlay]
    exact List.prefix_append _ _
  · rw [get?_merge_algorithms, OrdMap.get?_eq_none_iff.mpr hk, Option.none_or]

/-- A load balancer under the empty key, which `s2` names, one that nobody uses, and none under the
key that `s3` refers to. -/
def untidy : Rulebook where
  strategies := [{ name := "s1", algorithm := "a1", loadBalancer := some "b1" },
    { name := "s2", algorithm := "a1", loadBalancer := some "" },
    { name := "s3", algorithm := "a1", loadBalancer := some "b3" }]
  algorithms := .ofList [("a1", { type := "SQL_HINT" })]
  loadBalancers := .ofList [("", { type := "RANDOM" }), ("b1", { type := "RANDOM" }),
    ("b2", { type := "ROUND_ROBIN" })]

/-- Moves `s1` to a load balancer that nobody used, defines what `s3` refers to, and brings a load
balancer that nobody will use. -/
def tidying : Rulebook where
  strategies := [{ name := "s1", algorithm := "a2", loadBalancer := some "b2" }]
  algorithms := .ofList [("a2", { type := "PROXY" })]
  loadBalancers := .ofList [("b4", { type := "RANDOM" }), ("b3", { type := "RANDOM" })]

theorem merge_drops_exactly_untidy :
    (untidy.merge tidying).loadBalancers.keys = ["b2", "b3"] ∧
      (untidy.merge tidying).loadBalancers.get? "b2" = untidy.loadBalancers.get? "b2" ∧
      (untidy.merge tidying).loadBalancers.get? "b3" = tidying.loadBalancers.get? "b3" ∧
      (untidy.merge tidying).algorithms.get? "a1" = some { type := "SQL_HINT" } := by
  have hkeys : (untidy.merge tidying).loadBalancers.keys = ["b2", "b3"] := by decide +kernel
  obtain ⟨-, hget, -, -, halgorithms, -⟩ := merge_drops_exactly untidy tidying
  refine ⟨hkeys, ?_, ?_, ?_⟩
  · exact (hget "b2" (by simp [hkeys])).trans (if_neg (by decide +kernel))
  · exact (hget "b3" (by simp [hkeys])).trans (if_pos (by decide +kernel))
  · exact (halgorithms "a1" (by decide +kernel)).trans (by decide +kernel)

end TrafficRouting.Rulebook
