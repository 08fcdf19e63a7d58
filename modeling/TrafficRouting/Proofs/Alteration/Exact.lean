import TrafficRouting.Proofs.Alteration.OneByOne
import TrafficRouting.Proofs.Rulebook.Again

/-!
# TrafficRouting.Proofs.Alteration.Exact — what an accepted request publishes, to the last detail

`accepted_request_publishes` says for each part of the published rulebook which keys it has, in
which order, and what stands under them.  Position and value follow different rules: a name or a key
stands where it was first mentioned, and it has what its last segment says.  Superseded segments
lose their strategy, but their definitions are written all the same; only load balancers that no
strategy refers to in the end are left out.
-/

namespace TrafficRouting

/-- The keys that there were, in their order, and behind them the new ones by first mention. -/
def keysBehind (old new : List String) : List String :=
  old ++ new.eraseDups.filter fun k => decide (k ∉ old)

namespace Alteration

variable {σ : Type} {known : KnownTypes} {current : Rulebook} {segments : List Segment}

theorem lastNamed_eq_some {n : String} {g : Segment} (h : lastNamed n segments = some g) :
    g.name = n := by
  have hp := List.find?_some h
  exact of_decide_eq_true hp

theorem keys_merge_delta_algorithms (current : Rulebook) (segments : List Segment) :
    (current.merge (delta segments)).algorithms.keys =
      keysBehind current.algorithms.keys (segments.map (·.algorithmKey)) := by
  rw [Rulebook.algorithms_merge, OrdMap.keys_overlay, keys_delta_algorithms, keysBehind]

theorem keys_merge_delta_balancers (current : Rulebook) (segments : List Segment) :
    (current.merge (delta segments)).loadBalancers.keys =
      (keysBehind current.loadBalancers.keys (segments.filterMap (·.balancerKey?))).filter
        fun k =>
          decide (k ∈ (current.merge (delta segments)).strategies.filterMap (·.balancer?)) := by
  rw [Rulebook.loadBalancers_merge, OrdMap.keys_restrict, OrdMap.keys_overlay, keys_delta_balancers,
    keysBehind]
  refine List.filter_congr fun k _ => decide_eq_decide.mpr ?_
  rw [Rulebook.balancersInUse, NameSet.mem_ofList]

/-- **The result, exactly.**  Of any live rulebook, sound or not, an accepted request publishes:

* the strategies that it does not mention, in their order, and behind them one for each mentioned
  name, by first mention, with what the last segment of that name asks for;
* the algorithms from before and the new ones, each with what the last segment that derives its key
  asks for, be it superseded, else with what it had;
* the load balancers likewise, of which only those are left that the strategies refer to.

Keys are derived by joining the name and the type, in lower case. -/
theorem accepted_request_publishes (sink : Option (Sink σ)) {st : State σ}
    (h : check known st.live.rulebook segments = .ok ()) :
    let c := st.live.rulebook
    ∃ o st', execute known sink segments st = (.ok o, st') ∧
      let r := st'.live.rulebook
      (∃ asked, r.strategies =
          c.strategies.filter (fun s => decide (s.name ∉ segments.map (·.name))) ++ asked ∧
        List.Forall₂ (fun n s => ∃ g, lastNamed n segments = some g ∧
          s = { name := n, algorithm := g.algorithmKey, loadBalancer := g.balancerKey?,
                labels := g.labels }) (segments.map (·.name)).eraseDups asked) ∧
      (r.algorithms.keys = keysBehind c.algorithms.keys (segments.map (·.algorithmKey)) ∧
        ∀ k, r.algorithms.get? k = (lastAlgorithm k segments).or (c.algorithms.get? k)) ∧
      (r.loadBalancers.keys =
          (keysBehind c.loadBalancers.keys (segments.filterMap (·.balancerKey?))).filter
            (fun k => decide (k ∈ r.strategies.filterMap (·.balancer?))) ∧
        ∀ k ∈ r.loadBalancers.keys,
          r.loadBalancers.get? k = (lastBalancer k segments).or (c.loadBalancers.get? k)) ∧
      ∀ g ∈ segments, g.algorithmKey = Text.lower (g.name ++ "_" ++ g.algorithm.type) ∧
        g.balancerKey? = g.loadBalancer.map fun b => Text.lower (g.name ++ "_" ++ b.type) := by
  intro c
  rcases execute_cases known sink segments st with ⟨e, he, -⟩ | ⟨-, r, rfl, hexecute⟩
  · rw [h] at he
    simp at he
  refine ⟨_, _, hexecute, ⟨(delta segments).strategies, ?_, ?_⟩,
    ⟨keys_merge_delta_algorithms c segments, fun k => ?_⟩,
    ⟨keys_merge_delta_balancers c segments, fun k hk => ?_⟩, fun g _ => ⟨rfl, rfl⟩⟩
  · exact congrArg (· ++ _) (untouched_delta c segments)
  · refine (strategies_delta_forall₂ segments).imp fun n s hs => ?_
    obtain ⟨g, hg, rfl⟩ := hs
    obtain rfl := lastNamed_eq_some hg
    exact ⟨g, hg, rfl⟩
  · exact (Rulebook.get?_merge_algorithms k).trans (get?_delta_algorithms k ▸ rfl)
  · obtain ⟨s, hs, hsk⟩ := (Rulebook.mem_keys_merge_balancers.mp hk).2
    exact (Rulebook.get?_merge_balancers hs hsk).trans (get?_delta_balancers k ▸ rfl)

/-- A request whose first segment is superseded, but still writes definitions. -/
def superseding : List Segment := [
  { name := "s1", algorithm := { type := "SQL_MATCH" }, loadBalancer := some { type := "RANDOM" } },
  { name := "s1", algorithm := { type := "PROXY" } }]

/-- Three strategies; the load balancer of the last one has a key that `superseding` derives. -/
def trio : Rulebook where
  strategies := Rulebook.twins.strategies ++
    [{ name := "s2", algorithm := "a1", loadBalancer := some "s1_random" }]
  algorithms := Rulebook.twins.algorithms
  loadBalancers := .ofList [("b1", { type := "RANDOM" }), ("s1_random", { type := "ROUND_ROBIN" })]

theorem accepted_request_publishes_trio :
    check .builtin trio superseding = .ok () ∧
      ∃ o st', execute .builtin (none : Option (Sink Unit)) superseding ⟨.first trio, ()⟩ =
          (.ok o, st') ∧
        st'.live.rulebook.strategies.map (·.name) = ["S1", "s2", "s1"] ∧
        st'.live.rulebook.algorithms.keys = ["a1", "s1_sql_match", "s1_proxy"] ∧
        st'.live.rulebook.loadBalancers.keys = ["s1_random"] ∧
        st'.live.rulebook.loadBalancers.get? "s1_random" = some { type := "RANDOM" } := by
  have hcheck : check .builtin (⟨.first trio, ()⟩ : State Unit).live.rulebook superseding =
      .ok () := by decide +kernel
  obtain ⟨o, st', hexecute, -, ⟨hkeys, -⟩, ⟨-, hget⟩, -⟩ :=
    accepted_request_publishes (none : Option (Sink Unit)) hcheck
  have hst : (execute .builtin (none : Option (Sink Unit)) superseding ⟨.first trio, ()⟩).2 = st' :=
    congrArg Prod.snd hexecute
  subst hst
  exact ⟨hcheck, o, _, hexecute, by decide +kernel, hkeys.trans (by decide +kernel),
    by decide +kernel, (hget _ (by decide +kernel)).trans (by decide +kernel)⟩

end Alteration

end TrafficRouting
