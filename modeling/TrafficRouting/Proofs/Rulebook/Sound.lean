import TrafficRouting.Fault
import TrafficRouting.Proofs.OrdMap

/-!
# TrafficRouting.Proofs.Rulebook.Sound — what it means that a rulebook has no fault

`Closed` says that names are unique, references lead somewhere and types are known; a rulebook is
`Sound` if besides every load balancer is referred to.  `faults_eq_nil_iff`: the rulebooks without
faults are exactly the sound ones.
-/

namespace TrafficRouting

/-- A strategy refers to the load balancer that it names, unless the name is empty. -/
theorem Strategy.balancer?_eq_some_iff {s : Strategy} {k : String} :
    s.balancer? = some k ↔ s.loadBalancer = some k ∧ k ≠ "" := by
  rw [balancer?, Option.filter_eq_some_iff, decide_eq_true_eq]

namespace Rulebook

/-- Unique names, references that lead somewhere, types that are known. -/
structure Closed (r : Rulebook) (known : KnownTypes) : Prop where
  names_nodup : (r.strategies.map (·.name)).Nodup
  algorithm_mem : ∀ s ∈ r.strategies, s.algorithm ∈ r.algorithms.keys
  balancer_mem : ∀ s ∈ r.strategies, ∀ k, s.balancer? = some k → k ∈ r.loadBalancers.keys
  algorithm_known : ∀ e ∈ r.algorithms.entries, known.hasAlgorithm e.2.type = true
  balancer_known : ∀ e ∈ r.loadBalancers.entries, known.hasLoadBalancer e.2.type = true

/-- Closed, and every load balancer is referred to. -/
structure Sound (r : Rulebook) (known : KnownTypes) : Prop extends Closed r known where
  balancer_used : ∀ k ∈ r.loadBalancers.keys, ∃ s ∈ r.strategies, s.balancer? = some k

variable {r : Rulebook} {known : KnownTypes}

theorem mem_names {n : String} : n ∈ r.names ↔ ∃ s ∈ r.strategies, s.name = n := by
  rw [names, NameSet.mem_ofList, List.mem_map]

theorem mem_balancersInUse {k : String} :
    k ∈ r.balancersInUse ↔ ∃ s ∈ r.strategies, s.balancer? = some k := by
  rw [balancersInUse, NameSet.mem_ofList, List.mem_filterMap]

/-- The order of the strategies does not matter to what is in use. -/
theorem mem_balancersInUse_perm {r' : Rulebook} (h : r.strategies.Perm r'.strategies) {k : String} :
    k ∈ r.balancersInUse ↔ k ∈ r'.balancersInUse := by
  rw [mem_balancersInUse, mem_balancersInUse]
  simp only [h.mem_iff]

/-! ### Kind by kind, no fault -/

theorem strategyFaults_eq_nil_iff {seen : List String} {s : Strategy} :
    r.strategyFaults seen s = [] ↔ s.name ∉ seen ∧ s.algorithm ∈ r.algorithms.keys ∧
      ∀ k, s.balancer? = some k → k ∈ r.loadBalancers.keys := by
  unfold strategyFaults
  rw [List.append_eq_nil_iff, List.append_eq_nil_iff, and_assoc]
  refine and_congr (by simp) (and_congr ?_ ?_)
  · rw [← OrdMap.contains_iff]
    by_cases h : r.algorithms.contains s.algorithm = true <;> simp [h]
  · cases hb : s.balancer? with
    | none => simp
    | some k => simp [← OrdMap.contains_iff]

/-- The names must be new with respect to `seen` and to each other. -/
theorem strategiesFaults_eq_nil_iff {seen : List String} {l : List Strategy} :
    r.strategiesFaults seen l = [] ↔
      (∀ s ∈ l, s.name ∉ seen) ∧ (l.map (·.name)).Nodup ∧
        ∀ s ∈ l, s.algorithm ∈ r.algorithms.keys ∧
          ∀ k, s.balancer? = some k → k ∈ r.loadBalancers.keys := by
  induction l generalizing seen with
  | nil => simp [strategiesFaults]
  | cons s l ih =>
    rw [strategiesFaults, List.append_eq_nil_iff, strategyFaults_eq_nil_iff, ih, List.map_cons,
      List.nodup_cons]
    -- behind `s` its name counts as seen, which is where the names get distinct
    constructor
    · rintro ⟨⟨hnew, hs⟩, hseen, hnd, hl⟩
      refine ⟨?_, ⟨?_, hnd⟩, ?_⟩
      · intro s' hs'
        rcases List.mem_cons.mp hs' with rfl | hs'
        · exact hnew
        · exact fun h => hseen s' hs' (List.mem_cons_of_mem _ h)
      · intro h
        obtain ⟨s', hs', hn⟩ := List.mem_map.mp h
        exact hseen s' hs' (by rw [hn]; exact List.mem_cons_self)
      · intro s' hs'
        rcases List.mem_cons.mp hs' with rfl | hs'
        · exact hs
        · exact hl s' hs'
    · rintro ⟨hseen, ⟨hnotin, hnd⟩, hl⟩
      refine ⟨⟨hseen s (by simp), hl s (by simp)⟩, ?_, hnd, fun s' hs' => hl s' (by simp [hs'])⟩
      intro s' hs' h
      rcases List.mem_cons.mp h with hn | h
      · exact hnotin (List.mem_map.mpr ⟨s', hs', hn⟩)
      · exact hseen s' (by simp [hs']) h

theorem orphanFaults_eq_nil_iff :
    r.orphanFaults = [] ↔ ∀ k ∈ r.loadBalancers.keys, ∃ s ∈ r.strategies, s.balancer? = some k := by
  rw [orphanFaults, List.map_eq_nil_iff, List.filter_eq_nil_iff]
  simp [mem_balancersInUse]

theorem typeFaults_eq_nil_iff :
    r.typeFaults known = [] ↔
      (∀ e ∈ r.algorithms.entries, known.hasAlgorithm e.2.type = true) ∧
        ∀ e ∈ r.loadBalancers.entries, known.hasLoadBalancer e.2.type = true := by
  rw [typeFaults, List.append_eq_nil_iff, List.map_eq_nil_iff, List.map_eq_nil_iff,
    List.filter_eq_nil_iff, List.filter_eq_nil_iff]
  simp

/-- **No faults** means sound. -/
theorem faults_eq_nil_iff : r.faults known = [] ↔ r.Sound known := by
  rw [faults, List.append_eq_nil_iff, List.append_eq_nil_iff, strategiesFaults_eq_nil_iff,
    orphanFaults_eq_nil_iff, typeFaults_eq_nil_iff]
  constructor
  · rintro ⟨⟨⟨-, hnd, hl⟩, horphan⟩, ha, hb⟩
    exact ⟨⟨hnd, fun s hs => (hl s hs).1, fun s hs => (hl s hs).2, ha, hb⟩, horphan⟩
  · intro h
    exact ⟨⟨⟨by simp, h.names_nodup, fun s hs => ⟨h.algorithm_mem s hs, h.balancer_mem s hs⟩⟩,
      h.balancer_used⟩, h.algorithm_known, h.balancer_known⟩

/-- A sound rulebook has no faults for other types but the types of definitions. -/
theorem Sound.faults_eq {known' : KnownTypes} (h : r.Sound known) :
    r.faults known' = r.typeFaults known' := by
  have hfaults := faults_eq_nil_iff.mpr h
  rw [faults, List.append_eq_nil_iff] at hfaults
  rw [faults, hfaults.1, List.nil_append]

/-- Strategies whose names differ in case only, so that what requests ask for them gets the same
derived keys. -/
def twins : Rulebook where
  strategies := [
    { name := "s1", algorithm := "a1", loadBalancer := some "b1", labels := .ofList ["OLTP"] },
    { name := "S1", algorithm := "a1", loadBalancer := some "" }]
  algorithms := .ofList [("a1", { type := "SQL_HINT" })]
  loadBalancers := .ofList [("b1", { type := "RANDOM" })]

example : twins.faults .builtin = [] := by decide +kernel

end Rulebook

end TrafficRouting
