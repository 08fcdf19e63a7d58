import Mathlib.Data.List.Basic
import Mathlib.Data.List.Induction
import TrafficRouting.Proofs.Rulebook.Sound
import TrafficRouting.Rulebook.Resolution

/-!
# TrafficRouting.Proofs.Rulebook.Resolution — the rules of a resolution

A resolution has one rule for each strategy, in order (`rules_ofRulebook`).  It finds by name what
the first strategy of that name resolves to (`rule?_ofRulebook`), and by label what the strategies
with that label resolve to, in order (`withLabel_ofRulebook`).  In a sound rulebook nothing that is
referred to is missing.
-/

namespace TrafficRouting

namespace Resolution

theorem rules_foldl_push (r : Rulebook) (l : List Strategy) (res : Resolution) :
    (l.foldl (fun res s => res.push (s.resolve r)) res).rules =
      res.rules ++ l.map (·.resolve r) := by
  induction l generalizing res with
  | nil => simp
  | cons s l ih =>
    rw [List.foldl_cons, ih]
    simp [push]

/-- One rule for each strategy, in order. -/
theorem rules_ofRulebook (r : Rulebook) : (ofRulebook r).rules = r.strategies.map (·.resolve r) := by
  rw [ofRulebook, rules_foldl_push]
  rfl

theorem rule?_ofRulebook (r : Rulebook) (n : String) :
    (ofRulebook r).rule? n = (r.strategy? n).map (·.resolve r) := by
  rw [rule?, rules_ofRulebook, List.find?_map]
  rfl

/-! ### Labels -/

theorem places_foldl_addPlace (i : Nat) {labels : List String} (h : labels.Nodup)
    (places : Dict (List Nat)) (label : String) :
    ((labels.foldl (addPlace i) places).get? label).getD [] =
      (places.get? label).getD [] ++ if label ∈ labels then [i] else [] := by
  induction labels generalizing places with
  | nil => simp
  | cons l labels ih =>
    rw [List.nodup_cons] at h
    rw [List.foldl_cons, ih h.2, addPlace, OrdMap.get?_insert]
    by_cases hl : label = l
    · subst hl
      simp [h.1]
    · simp [hl]

theorem places_foldl_push (r : Rulebook) (l : List Strategy) (label : String) :
    (((l.foldl (fun res s => res.push (s.resolve r)) ({} : Resolution)).places.get? label).getD []) =
      (l.zipIdx.filter fun x => label ∈ x.1.labels).map (·.2) := by
  induction l using List.reverseRecOn with
  | nil => rfl
  | append_singleton l s ih =>
    have hrules := rules_foldl_push r l {}
    have hlabel : label ∈ (s.resolve r).labels.toList ↔ label ∈ s.labels := Iff.rfl
    rw [List.foldl_append, List.foldl_cons, List.foldl_nil, push, hrules,
      places_foldl_addPlace _ (s.resolve r).labels.nodup, ih, List.zipIdx_append,
      List.filter_append, List.map_append]
    congr 1
    by_cases hmem : label ∈ s.labels
    · simp [hmem, hlabel]
    · simp [hmem, hlabel]

/-- The places of a label are those of the strategies that carry it. -/
theorem places_ofRulebook (r : Rulebook) (label : String) :
    ((ofRulebook r).places.get? label).getD [] =
      (r.strategies.zipIdx.filter fun x => label ∈ x.1.labels).map (·.2) :=
  places_foldl_push r r.strategies label

/-- At the places of a label stand the rules of the strategies that carry it, in order, and no place
is beside the list. -/
theorem rules_at_places (r : Rulebook) (label : String) :
    (((ofRulebook r).places.get? label).getD []).map (fun i => (ofRulebook r).rules[i]?) =
      (r.strategies.filter fun s => label ∈ s.labels).map fun s => some (s.resolve r) := by
  have hrule : ∀ x ∈ r.strategies.zipIdx.filter (fun x => label ∈ x.1.labels),
      (ofRulebook r).rules[x.2]? = some (x.1.resolve r) := by
    intro x hx
    have hget : r.strategies[x.2]? = some x.1 :=
      List.mem_zipIdx_iff_getElem?.mp (List.mem_of_mem_filter hx)
    rw [rules_ofRulebook, List.getElem?_map, hget]
    rfl
  calc (((ofRulebook r).places.get? label).getD []).map (fun i => (ofRulebook r).rules[i]?)
      = (r.strategies.zipIdx.filter fun x => label ∈ x.1.labels).map
          fun x => (ofRulebook r).rules[x.2]? := by
        rw [places_ofRulebook, List.map_map]
        rfl
    _ = (r.strategies.zipIdx.filter fun x => label ∈ x.1.labels).map
          fun x => some (x.1.resolve r) := List.map_congr_left hrule
    _ = ((r.strategies.zipIdx.map (·.1)).filter fun s => label ∈ s.labels).map
          fun s => some (s.resolve r) := by
        rw [List.filter_map, List.map_map]
        rfl
    _ = (r.strategies.filter fun s => label ∈ s.labels).map fun s => some (s.resolve r) := by
        rw [List.zipIdx_map_fst]

/-- The rules of a label are those of the strategies that carry it, in order. -/
theorem withLabel_ofRulebook (r : Rulebook) (label : String) :
    (ofRulebook r).withLabel label =
      (r.strategies.filter fun s => label ∈ s.labels).map (·.resolve r) := by
  have hplaces := congrArg (List.filterMap id) (rules_at_places r label)
  rw [List.filterMap_map, List.filterMap_map] at hplaces
  refine hplaces.trans ?_
  exact congrFun (List.filterMap_eq_map (f := fun s : Strategy => s.resolve r)) _

end Resolution

namespace Rulebook

variable {r : Rulebook} {known : KnownTypes} {s : Strategy}

theorem Closed.algorithm_isSome (h : r.Closed known) (hs : s ∈ r.strategies) :
    (s.resolve r).algorithm.isSome = true := by
  obtain ⟨v, hv⟩ := OrdMap.mem_keys_iff.mp (h.algorithm_mem s hs)
  show (r.algorithms.get? s.algorithm).isSome = true
  rw [hv]
  rfl

theorem Closed.loadBalancer_isSome (h : r.Closed known) (hs : s ∈ r.strategies) :
    (s.resolve r).loadBalancer.isSome = s.balancer?.isSome := by
  show (s.balancer?.bind r.loadBalancers.get?).isSome = s.balancer?.isSome
  cases hb : s.balancer? with
  | none => rfl
  | some k =>
    obtain ⟨v, hv⟩ := OrdMap.mem_keys_iff.mp (h.balancer_mem s hs k hb)
    rw [Option.bind_some, hv]
    rfl

end Rulebook

end TrafficRouting
