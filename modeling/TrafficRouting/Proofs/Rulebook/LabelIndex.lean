import Mathlib.Data.List.Forall2
import TrafficRouting.Proofs.Rulebook.Resolution

/-!
# TrafficRouting.Proofs.Rulebook.LabelIndex — a resolution answers as a scan of the rulebook does

`Strategy.ResolvesTo` says what a rule must be for a strategy, by the entries of the dictionaries and
without a look-up.  A resolution holds such a rule for each strategy; its index leads, for every
label, to the rules that carry the label, to each of them once, in order, and never beside the list;
and a look-up by name finds the rule of the strategy that a look-up in the rulebook finds
(`index_agrees_with_scan`).  Nothing is assumed of the rulebook: names may come twice, references
may lead nowhere.
-/

namespace TrafficRouting

/-- What the rule of a strategy holds: the name and the labels, and the definitions that the
dictionaries have under its keys.  The empty key refers to no load balancer. -/
structure Strategy.ResolvesTo (s : Strategy) (r : Rulebook) (t : Resolved) : Prop where
  name : t.name = s.name
  labels : t.labels = s.labels
  algorithm : ∀ d, t.algorithm = some d ↔ (s.algorithm, d) ∈ r.algorithms.entries
  loadBalancer : ∀ d, t.loadBalancer = some d ↔
    ∃ k, s.loadBalancer = some k ∧ k ≠ "" ∧ (k, d) ∈ r.loadBalancers.entries

theorem Strategy.resolvesTo_resolve (s : Strategy) (r : Rulebook) :
    s.ResolvesTo r (s.resolve r) where
  name := rfl
  labels := rfl
  algorithm _ := OrdMap.get?_eq_some_iff
  loadBalancer d := by
    show s.balancer?.bind r.loadBalancers.get? = some d ↔ _
    rw [Option.bind_eq_some_iff]
    refine exists_congr fun k => ?_
    rw [balancer?_eq_some_iff, and_assoc, OrdMap.get?_eq_some_iff]

namespace Resolution

/-- The places that the index has for a label. -/
def placesOf (res : Resolution) (label : String) : List Nat := (res.places.get? label).getD []

variable (r : Rulebook) (label : String)

/-- The index goes through the rules from front to back. -/
theorem placesOf_increasing : ((ofRulebook r).placesOf label).Pairwise (· < ·) := by
  have hplaces : (r.strategies.zipIdx.map (·.2)).Pairwise (· < ·) := by
    rw [List.zipIdx_map_snd]
    exact List.pairwise_lt_range' 1
  rw [placesOf, places_ofRulebook]
  exact hplaces.sublist (List.filter_sublist.map _)

/-- A scan of the rules for a label finds what a scan of the strategies does. -/
theorem filter_rules_ofRulebook :
    (ofRulebook r).rules.filter (fun t => decide (label ∈ t.labels)) =
      (r.strategies.filter fun s => decide (label ∈ s.labels)).map (·.resolve r) := by
  rw [rules_ofRulebook, List.filter_map]
  rfl

/-- **Looking up is scanning.**  A resolution has one rule for each strategy, in order, with what the
strategy refers to.  For every label the index has the places of the rules that carry it, in
increasing order, none of them beside the list, and the answer is the rules at these places.  For
every name the answer is what the first strategy of that name resolves to, or nothing. -/
theorem index_agrees_with_scan (r : Rulebook) :
    List.Forall₂ (fun s t => s.ResolvesTo r t) r.strategies (ofRulebook r).rules ∧
    (∀ label,
      ((ofRulebook r).placesOf label).Pairwise (· < ·) ∧
      ((ofRulebook r).placesOf label).map (fun i => (ofRulebook r).rules[i]?) =
        ((ofRulebook r).rules.filter fun t => decide (label ∈ t.labels)).map some ∧
      (ofRulebook r).withLabel label =
        (ofRulebook r).rules.filter fun t => decide (label ∈ t.labels)) ∧
    ∀ name, Option.Rel (fun s t => s.ResolvesTo r t)
      (r.strategies.find? fun s => decide (s.name = name)) ((ofRulebook r).rule? name) := by
  refine ⟨?_, fun label => ⟨placesOf_increasing r label, ?_, ?_⟩, fun name => ?_⟩
  · rw [rules_ofRulebook, List.forall₂_map_right_iff, List.forall₂_same]
    exact fun s _ => s.resolvesTo_resolve r
  · rw [filter_rules_ofRulebook, List.map_map]
    exact rules_at_places r label
  · rw [filter_rules_ofRulebook]
    exact withLabel_ofRulebook r label
  · rw [rule?_ofRulebook, Rulebook.strategy?]
    cases r.strategies.find? fun s => decide (s.name = name) with
    | none => exact .none
    | some s => exact .some (s.resolvesTo_resolve r)

end Resolution

end TrafficRouting
