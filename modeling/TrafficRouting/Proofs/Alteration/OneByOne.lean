import TrafficRouting.Proofs.Alteration.Fidelity

/-!
# TrafficRouting.Proofs.Alteration.OneByOne — a request and its segments one after the other

`mergeEach` merges the segments of a request one by one.  It ends with the same algorithms as the
request at once (`algorithms_mergeEach`), and with the same strategies in another order
(`strategies_mergeEach_perm`).  Load balancers may be dropped on the way and defined anew later:
what carries over is that every one *in use* has the value that the segments so far give it
(`get?_balancers_mergeEach`).  One in use at the end was defined, or in use, ever since.
-/

namespace TrafficRouting

variable {current : Rulebook} {segments : List Segment}

/-- The segments of a request merged one after the other. -/
def mergeEach (current : Rulebook) (segments : List Segment) : Rulebook :=
  segments.foldl (fun r g => r.merge (delta [g])) current

theorem mergeEach_concat (current : Rulebook) (segments : List Segment) (g : Segment) :
    mergeEach current (segments ++ [g]) = (mergeEach current segments).merge (delta [g]) :=
  List.foldl_concat _ _ _ _

/-! ### Algorithms -/

/-- A request inserts its algorithms in order. -/
theorem algorithms_merge_delta (current : Rulebook) (segments : List Segment) :
    (current.merge (delta segments)).algorithms =
      (segments.map fun g => (g.algorithmKey, g.algorithm)).foldl (fun d e => d.insert e.1 e.2)
        current.algorithms := by
  rw [Rulebook.algorithms_merge, algorithms_delta, OrdMap.overlay_ofList]

/-- The algorithms are the same, in the same order. -/
theorem algorithms_mergeEach (current : Rulebook) (segments : List Segment) :
    (mergeEach current segments).algorithms = (current.merge (delta segments)).algorithms := by
  induction segments using List.reverseRecOn with
  | nil => rfl
  | append_singleton segments g ih =>
    rw [mergeEach_concat, algorithms_merge_delta, ih, algorithms_merge_delta,
      algorithms_merge_delta, List.map_append, List.foldl_append]

/-! ### Strategies -/

theorem untouched_delta (current : Rulebook) (segments : List Segment) :
    current.untouched (delta segments) =
      current.strategies.filter fun s => decide (s.name ∉ segments.map (·.name)) :=
  List.filter_congr fun _ _ => decide_eq_decide.mpr (not_congr mem_names_delta)

theorem untouched_delta_concat (current : Rulebook) (segments : List Segment) (g : Segment) :
    current.untouched (delta (segments ++ [g])) =
      (current.untouched (delta segments)).filter fun s => decide (s.name ≠ g.name) := by
  rw [untouched_delta, untouched_delta, List.filter_filter]
  refine List.filter_congr fun s _ => ?_
  simp only [List.map_append, List.map_singleton, List.mem_append, List.mem_singleton, not_or]
  rw [Bool.decide_and, Bool.and_comm]

/-- One segment takes the place of all strategies of its name, at the end. -/
theorem strategies_merge_delta_singleton (current : Rulebook) (g : Segment) :
    (current.merge (delta [g])).strategies =
      current.strategies.filter (fun s => decide (s.name ≠ g.name)) ++ [g.strategy] := by
  have hstrategies : (delta [g]).strategies = [g.strategy] := rfl
  rw [Rulebook.strategies_merge, hstrategies, untouched_delta]
  simp

theorem namedStrategies_concat (segments : List Segment) (g : Segment) :
    namedStrategies (segments ++ [g]) = (namedStrategies segments).insert g.name g.strategy := by
  rw [namedStrategies, List.map_append]
  exact OrdMap.ofList_concat _ (g.name, g.strategy)

/-- Up to order, one more segment takes the place of the strategy of its name. -/
theorem strategies_delta_concat_perm (segments : List Segment) (g : Segment) :
    (delta (segments ++ [g])).strategies.Perm
      ((delta segments).strategies.filter (fun s => decide (s.name ≠ g.name)) ++ [g.strategy]) := by
  have hput := (OrdMap.putEntry_perm g.name g.strategy (namedStrategies segments).nodup).map
    Prod.snd
  have hname : (namedStrategies segments).entries.filter (fun e => decide (e.1 ≠ g.name)) =
      (namedStrategies segments).entries.filter fun e => decide (e.2.name ≠ g.name) :=
    List.filter_congr fun e he => by rw [name_of_mem_namedStrategies he]
  rw [strategies_delta, strategies_delta, namedStrategies_concat, List.filter_map]
  rw [hname, List.map_append] at hput
  exact hput

/-- **The same strategies in another order**: one by one they stand where their last segment puts
them, at once where their first one does. -/
theorem strategies_mergeEach_perm (current : Rulebook) (segments : List Segment) :
    (mergeEach current segments).strategies.Perm (current.merge (delta segments)).strategies := by
  induction segments using List.reverseRecOn with
  | nil =>
    have hstrategies : (delta []).strategies = [] := rfl
    rw [Rulebook.strategies_merge, hstrategies, untouched_delta]
    simp [mergeEach]
  | append_singleton segments g ih =>
    rw [mergeEach_concat, strategies_merge_delta_singleton, Rulebook.strategies_merge,
      untouched_delta_concat]
    -- on either side the strategies named like `g` go, and that of `g` comes
    refine ((ih.filter _).append_right _).trans ?_
    rw [Rulebook.strategies_merge, List.filter_append, List.append_assoc]
    exact (strategies_delta_concat_perm segments g).symm.append_left _

/-- Names that come once leave the strategies of a request in its order. -/
theorem strategies_delta_of_nodup (h : (segments.map (·.name)).Nodup) :
    (delta segments).strategies = segments.map (·.strategy) := by
  have hentries : (namedStrategies segments).entries =
      segments.map fun g => (g.name, g.strategy) := by
    refine OrdMap.entries_ofList ?_
    rwa [List.map_map]
  rw [strategies_delta, hentries, List.map_map]
  rfl

/-- Then the order is the same too. -/
theorem strategies_mergeEach_of_nodup (h : (segments.map (·.name)).Nodup) :
    (mergeEach current segments).strategies = (current.merge (delta segments)).strategies := by
  rw [Rulebook.strategies_merge, strategies_delta_of_nodup h]
  induction segments using List.reverseRecOn with
  | nil =>
    rw [untouched_delta]
    simp [mergeEach]
  | append_singleton segments g ih =>
    rw [List.map_append, List.nodup_append] at h
    have hother : (segments.map (·.strategy)).filter (fun s => decide (s.name ≠ g.name)) =
        segments.map (·.strategy) := by
      refine List.filter_eq_self.mpr fun s hs => decide_eq_true ?_
      obtain ⟨x, hx, rfl⟩ := List.mem_map.mp hs
      exact h.2.2 x.name (List.mem_map_of_mem hx) g.name (by simp)
    rw [mergeEach_concat, strategies_merge_delta_singleton, ih h.1, untouched_delta_concat,
      List.filter_append, hother, List.map_append, List.append_assoc]
    rfl

/-! ### Load balancers -/

theorem lastBalancer_concat (k : String) (segments : List Segment) (g : Segment) :
    lastBalancer k (segments ++ [g]) = (lastBalancer k [g]).or (lastBalancer k segments) := by
  rw [lastBalancer, lastBalancer, lastBalancer, List.reverse_append, List.find?_append]
  by_cases hg : g.balancerKey? = some k
  · obtain ⟨b, hb, -⟩ := Option.map_eq_some_iff.mp hg
    simp [hg, hb]
  · simp [hg]

/-- **What is in use has its last value**: the segments so far give it, or it is from before. -/
theorem get?_balancers_mergeEach {k : String}
    (hk : k ∈ (mergeEach current segments).balancersInUse) :
    (mergeEach current segments).loadBalancers.get? k =
      (lastBalancer k segments).or (current.loadBalancers.get? k) := by
  induction segments using List.reverseRecOn with
  | nil => rfl
  | append_singleton segments g ih =>
    rw [mergeEach_concat] at hk ⊢
    rw [Rulebook.get?_merge_balancers_eq_ite, if_pos hk, get?_delta_balancers, lastBalancer_concat,
      Option.or_assoc]
    by_cases hg : g.balancerKey? = some k
    -- defined anew, whether it was dropped before or not
    · obtain ⟨b, hb, -⟩ := Option.map_eq_some_iff.mp hg
      have hlast : lastBalancer k [g] = some b := by simp [lastBalancer, hg, hb]
      rw [hlast, Option.some_or, Option.some_or]
    -- in use by an older strategy, so it has not been dropped
    · have hbefore : k ∈ (mergeEach current segments).balancersInUse := by
        obtain ⟨s, hs, hsk⟩ := Rulebook.mem_balancersInUse.mp hk
        rw [strategies_merge_delta_singleton, List.mem_append, List.mem_singleton] at hs
        rcases hs with hs | rfl
        · exact Rulebook.mem_balancersInUse.mpr ⟨s, List.mem_of_mem_filter hs, hsk⟩
        · exact absurd (g.balancer?_strategy ▸ hsk) hg
      rw [ih hbefore]

/-- The load balancers are the same. -/
theorem get?_balancers_mergeEach_eq (current : Rulebook) (h : segments ≠ []) (k : String) :
    (mergeEach current segments).loadBalancers.get? k =
      (current.merge (delta segments)).loadBalancers.get? k := by
  have huse : k ∈ (mergeEach current segments).balancersInUse ↔
      k ∈ (current.merge (delta segments)).balancersInUse :=
    Rulebook.mem_balancersInUse_perm (strategies_mergeEach_perm current segments)
  rw [Rulebook.get?_merge_balancers_eq_ite, get?_delta_balancers]
  by_cases hk : k ∈ (mergeEach current segments).balancersInUse
  · rw [if_pos (huse.mp hk), get?_balancers_mergeEach hk]
  -- the last merge drops what is not in use
  · rw [if_neg (mt huse.mpr hk)]
    obtain ⟨rest, g, rfl⟩ := (List.eq_nil_or_concat segments).resolve_left h
    rw [List.concat_eq_append, mergeEach_concat] at hk ⊢
    rw [Rulebook.get?_merge_balancers_eq_ite, if_neg hk]

end TrafficRouting
