import TrafficRouting.Proofs.Rulebook.Sound
import TrafficRouting.Segment.Basic

/-!
# TrafficRouting.Proofs.Segment.Delta — what a request says as a rulebook

Under each derived key stands what the last segment that derives it asks for, be it of another
strategy or superseded (`get?_delta_algorithms`, `get?_delta_balancers`); of each name the last
segment counts (`strategy?_delta`).  `closed_delta`: a request whose types are known is closed.
-/

namespace TrafficRouting

/-- The key and the definition of the load balancer that a segment asks for, if any. -/
def Segment.balancerEntry? (g : Segment) : Option (String × Definition) :=
  g.loadBalancer.map fun b => (derivedKey g.name b.type, b)

/-- The last segment of a name. -/
def lastNamed (n : String) (segments : List Segment) : Option Segment :=
  segments.reverse.find? (·.name = n)

/-- The algorithm that the last segment with this derived key asks for. -/
def lastAlgorithm (k : String) (segments : List Segment) : Option Definition :=
  (segments.reverse.find? (·.algorithmKey = k)).map (·.algorithm)

/-- The load balancer that the last segment with this derived key asks for. -/
def lastBalancer (k : String) (segments : List Segment) : Option Definition :=
  (segments.reverse.find? (·.balancerKey? = some k)).bind (·.loadBalancer)

variable {segments : List Segment} {known : KnownTypes}

/-! ### The three parts of a draft -/

theorem strategies_foldl_add (segments : List Segment) (d : Draft) :
    (segments.foldl Draft.add d).strategies =
      (segments.map fun g => (g.name, g.strategy)).foldl (fun d e => d.insert e.1 e.2)
        d.strategies := by
  induction segments generalizing d with
  | nil => rfl
  | cons g segments ih => exact ih (d.add g)

theorem algorithms_foldl_add (segments : List Segment) (d : Draft) :
    (segments.foldl Draft.add d).algorithms =
      (segments.map fun g => (g.algorithmKey, g.algorithm)).foldl (fun d e => d.insert e.1 e.2)
        d.algorithms := by
  induction segments generalizing d with
  | nil => rfl
  | cons g segments ih => exact ih (d.add g)

theorem loadBalancers_foldl_add (segments : List Segment) (d : Draft) :
    (segments.foldl Draft.add d).loadBalancers =
      (segments.filterMap Segment.balancerEntry?).foldl (fun d e => d.insert e.1 e.2)
        d.loadBalancers := by
  induction segments generalizing d with
  | nil => rfl
  | cons g segments ih =>
    rw [List.foldl_cons, ih]
    cases hb : g.loadBalancer with
    | none => simp [Draft.add, Segment.balancerEntry?, hb]
    | some b => simp [Draft.add, Segment.balancerEntry?, hb]

/-- The strategies of a request by name. -/
def namedStrategies (segments : List Segment) : Dict Strategy :=
  .ofList (segments.map fun g => (g.name, g.strategy))

theorem strategies_delta (segments : List Segment) :
    (delta segments).strategies = (namedStrategies segments).entries.map Prod.snd :=
  congrArg (fun d : Dict Strategy => d.entries.map Prod.snd) (strategies_foldl_add segments {})

theorem algorithms_delta (segments : List Segment) :
    (delta segments).algorithms = .ofList (segments.map fun g => (g.algorithmKey, g.algorithm)) :=
  algorithms_foldl_add segments {}

theorem loadBalancers_delta (segments : List Segment) :
    (delta segments).loadBalancers = .ofList (segments.filterMap Segment.balancerEntry?) :=
  loadBalancers_foldl_add segments {}

/-! ### Look-up: the last segment counts -/

theorem lookup_map_pair {α : Type} (key : Segment → String) (val : Segment → α) (k : String)
    (l : List Segment) :
    (l.map fun g => (key g, val g)).lookup k = (l.find? (key · = k)).map val := by
  induction l with
  | nil => rfl
  | cons g l ih =>
    rw [List.map_cons, List.lookup_cons, List.find?_cons, ih]
    by_cases hk : key g = k
    · simp [hk]
    · simp [hk, beq_eq_false_iff_ne.mpr (Ne.symm hk)]

theorem get?_delta_algorithms (k : String) :
    (delta segments).algorithms.get? k = lastAlgorithm k segments := by
  rw [algorithms_delta, OrdMap.get?_ofList, ← List.map_reverse, lookup_map_pair]
  rfl

theorem get?_delta_balancers (k : String) :
    (delta segments).loadBalancers.get? k = lastBalancer k segments := by
  rw [loadBalancers_delta, OrdMap.get?_ofList, ← List.filterMap_reverse, lastBalancer]
  induction segments.reverse with
  | nil => rfl
  | cons g l ih =>
    rw [List.filterMap_cons, List.find?_cons, Segment.balancerEntry?, Segment.balancerKey?]
    cases hb : g.loadBalancer with
    | none => simpa using ih
    | some b =>
      by_cases hk : derivedKey g.name b.type = k
      · simp [hk, hb]
      · simp [hk, List.lookup_cons, beq_eq_false_iff_ne.mpr (Ne.symm hk), ih]

theorem get?_namedStrategies (n : String) :
    (namedStrategies segments).get? n = (lastNamed n segments).map (·.strategy) := by
  rw [namedStrategies, OrdMap.get?_ofList, ← List.map_reverse, lookup_map_pair]
  rfl

/-- Each strategy of a request stands under its name. -/
theorem name_of_mem_namedStrategies {e : String × Strategy}
    (h : e ∈ (namedStrategies segments).entries) : e.2.name = e.1 := by
  obtain ⟨g, -, rfl⟩ := List.mem_map.mp (OrdMap.mem_of_mem_ofList h)
  rfl

theorem map_name_strategies_delta (segments : List Segment) :
    (delta segments).strategies.map (·.name) = (namedStrategies segments).keys := by
  rw [strategies_delta, List.map_map]
  exact List.map_congr_left fun e he => name_of_mem_namedStrategies he

/-- The strategies of a request are those of the segments it mentions. -/
theorem mem_names_delta {n : String} :
    n ∈ (delta segments).names ↔ n ∈ segments.map (·.name) := by
  rw [Rulebook.names, NameSet.mem_ofList, map_name_strategies_delta, namedStrategies,
    OrdMap.mem_keys_ofList, List.map_map]
  rfl

theorem exists_segment_of_mem_delta {s : Strategy} (h : s ∈ (delta segments).strategies) :
    ∃ g ∈ segments, s = g.strategy := by
  rw [strategies_delta] at h
  obtain ⟨e, he, rfl⟩ := List.mem_map.mp h
  obtain ⟨g, hg, rfl⟩ := List.mem_map.mp (OrdMap.mem_of_mem_ofList he)
  exact ⟨g, hg, rfl⟩

theorem find?_map_snd (n : String) :
    ∀ l : List (String × Strategy), (∀ e ∈ l, e.2.name = e.1) →
      (l.map Prod.snd).find? (·.name = n) = l.lookup n
  | [], _ => rfl
  | e :: l, h => by
    have he : e.2.name = e.1 := h e List.mem_cons_self
    have ih := find?_map_snd n l fun e he => h e (List.mem_cons_of_mem _ he)
    rw [List.map_cons, List.find?_cons, List.lookup_cons, ih, he]
    by_cases hn : e.1 = n
    · simp [hn]
    · simp [hn, beq_eq_false_iff_ne.mpr (Ne.symm hn)]

/-- The strategy of a name is the one of its last segment. -/
theorem strategy?_delta (n : String) :
    (delta segments).strategy? n = (lastNamed n segments).map (·.strategy) := by
  rw [← get?_namedStrategies, Rulebook.strategy?, strategies_delta]
  exact find?_map_snd n _ fun e he => name_of_mem_namedStrategies he

/-! ### Order: by first mention -/

theorem keys_delta_algorithms (segments : List Segment) :
    (delta segments).algorithms.keys = (segments.map (·.algorithmKey)).eraseDups := by
  rw [algorithms_delta, OrdMap.keys_ofList, List.map_map]
  rfl

theorem keys_delta_balancers (segments : List Segment) :
    (delta segments).loadBalancers.keys = (segments.filterMap (·.balancerKey?)).eraseDups := by
  have hkey : ∀ g : Segment, g.balancerEntry?.map Prod.fst = g.balancerKey? := fun g =>
    Option.map_map _ _ _
  rw [loadBalancers_delta, OrdMap.keys_ofList, List.map_filterMap]
  simp only [hkey]

/-- One strategy for each mentioned name, that of its last segment. -/
theorem strategies_delta_forall₂ (segments : List Segment) :
    List.Forall₂ (fun n s => ∃ g, lastNamed n segments = some g ∧ s = g.strategy)
      (segments.map (·.name)).eraseDups (delta segments).strategies := by
  have hkeys : (segments.map (·.name)).eraseDups =
      (namedStrategies segments).entries.map Prod.fst := by
    have h := OrdMap.keys_ofList (segments.map fun g => (g.name, g.strategy))
    rw [List.map_map] at h
    exact h.symm
  rw [hkeys, strategies_delta, List.forall₂_map_left_iff, List.forall₂_map_right_iff,
    List.forall₂_same]
  intro e he
  have hget : (lastNamed e.1 segments).map (·.strategy) = some e.2 :=
    get?_namedStrategies e.1 ▸ OrdMap.get?_eq_some_iff.mpr he
  obtain ⟨g, hg, hs⟩ := Option.map_eq_some_iff.mp hget
  exact ⟨g, hg, hs.symm⟩

/-! ### Closedness -/

/-- The types that a request asks for are known in their roles. -/
def TypesKnown (known : KnownTypes) (segments : List Segment) : Prop :=
  ∀ g ∈ segments, known.hasAlgorithm g.algorithm.type = true ∧
    ∀ b, g.loadBalancer = some b → known.hasLoadBalancer b.type = true

/-- **Requests are closed**: what the strategies of a request refer to is defined in the request. -/
theorem closed_delta (h : TypesKnown known segments) : (delta segments).Closed known where
  names_nodup := by
    rw [map_name_strategies_delta]
    exact (namedStrategies segments).nodup
  algorithm_mem s hs := by
    obtain ⟨g, hg, rfl⟩ := exists_segment_of_mem_delta hs
    rw [algorithms_delta, OrdMap.mem_keys_ofList, List.map_map]
    exact List.mem_map.mpr ⟨g, hg, rfl⟩
  balancer_mem s hs k hk := by
    obtain ⟨g, hg, rfl⟩ := exists_segment_of_mem_delta hs
    obtain ⟨b, hb, rfl⟩ : ∃ b, g.loadBalancer = some b ∧ derivedKey g.name b.type = k :=
      Option.map_eq_some_iff.mp (Option.filter_eq_some_iff.mp hk).1
    rw [loadBalancers_delta, OrdMap.mem_keys_ofList, List.mem_map]
    refine ⟨(derivedKey g.name b.type, b), List.mem_filterMap.mpr ⟨g, hg, ?_⟩, rfl⟩
    rw [Segment.balancerEntry?, hb]
    rfl
  algorithm_known e he := by
    rw [algorithms_delta] at he
    obtain ⟨g, hg, rfl⟩ := List.mem_map.mp (OrdMap.mem_of_mem_ofList he)
    exact (h g hg).1
  balancer_known e he := by
    rw [loadBalancers_delta] at he
    obtain ⟨g, hg, hge⟩ := List.mem_filterMap.mp (OrdMap.mem_of_mem_ofList he)
    obtain ⟨b, hb, rfl⟩ := Option.map_eq_some_iff.mp hge
    exact (h g hg).2 b hb

end TrafficRouting
