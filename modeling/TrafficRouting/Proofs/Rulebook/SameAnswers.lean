import Mathlib.Data.List.Forall2
import TrafficRouting.Proofs.Alteration.Accepted
import TrafficRouting.Proofs.Rulebook.Same

/-!
# TrafficRouting.Proofs.Rulebook.SameAnswers — rulebooks that say the same do the same

Sameness leaves the order of dictionary entries and of labels open.  Nothing that is made of
rulebooks depends on this order but an order again: laying over, dropping what is not in use,
checking requests, looking for faults and resolving respect it one by one, map by map and strategy
by strategy (`same_answers`).  So a reload that would only put entries in another order can be left
out.
-/

namespace TrafficRouting

/-! ### Maps -/

section Rel

variable {α β : Type} {R : α → α → Prop} {a a' b b' : Option α}

theorem optionRel_or (ha : Option.Rel R a a') (hb : Option.Rel R b b') :
    Option.Rel R (a.or b) (a'.or b') := by
  cases ha with
  | none => exact hb
  | some h => exact .some h

theorem optionRel_map {S : β → β → Prop} {f g : α → β} (hf : ∀ v w, R v w → S (f v) (g w))
    (h : Option.Rel R a a') : Option.Rel S (a.map f) (a'.map g) := by
  cases h with
  | none => exact .none
  | some h => exact .some (hf _ _ h)

theorem optionRel_map_eq {f : α → β} (h : Option.Rel R a a') (hf : ∀ v w, R v w → f v = f w) :
    a.map f = a'.map f := by
  cases h with
  | none => rfl
  | some h => exact congrArg some (hf _ _ h)

theorem optionRel_exists_iff (h : Option.Rel R a a') : (∃ v, a = some v) ↔ ∃ w, a' = some w := by
  cases h with
  | none => simp
  | some h => simp

end Rel

namespace OrdMap

variable {κ α β : Type} [DecidableEq κ] {eq : α → α → Bool} {d d' e e' : OrdMap κ α}

/-- Sameness by look-up: the same keys have values, and values for which `eq` holds. -/
theorem same_iff_rel : d.same eq d' = true ↔
    ∀ k, Option.Rel (fun v w => eq v w = true) (d.get? k) (d'.get? k) := by
  rw [same_iff]
  constructor
  · rintro ⟨hkeys, heq⟩ k
    cases hv : d.get? k with
    | none =>
      rw [get?_eq_none_iff.mpr (mt (hkeys k).mpr (get?_eq_none_iff.mp hv))]
      exact .none
    | some v =>
      obtain ⟨w, hw⟩ := mem_keys_iff.mp ((hkeys k).mp (mem_keys_iff.mpr ⟨v, hv⟩))
      rw [hw]
      exact .some (heq k v w hv hw)
  · intro h
    refine ⟨fun k => ?_, fun k v w hv hw => ?_⟩
    · rw [mem_keys_iff, mem_keys_iff]
      exact optionRel_exists_iff (h k)
    · have hk := h k
      rw [hv, hw] at hk
      cases hk with
      | some heq => exact heq

theorem overlay_same (hd : d.same eq d' = true) (he : e.same eq e' = true) :
    (d.overlay e).same eq (d'.overlay e') = true := by
  refine same_iff_rel.mpr fun k => ?_
  rw [get?_overlay, get?_overlay]
  exact optionRel_or (same_iff_rel.mp he k) (same_iff_rel.mp hd k)

theorem restrict_same {p p' : κ → Bool} (hd : d.same eq d' = true) (hp : ∀ k, p k = p' k) :
    (d.restrict p).same eq (d'.restrict p') = true := by
  refine same_iff_rel.mpr fun k => ?_
  rw [get?_restrict, get?_restrict, hp]
  split
  · exact same_iff_rel.mp hd k
  · exact .none

theorem keys_perm_of_same (h : d.same eq d' = true) : d.keys.Perm d'.keys :=
  (List.perm_ext_iff_of_nodup d.nodup d'.nodup).mpr (same_iff.mp h).1

theorem contains_of_same (h : d.same eq d' = true) (k : κ) : d.contains k = d'.contains k := by
  rw [Bool.eq_iff_iff, contains_iff, contains_iff]
  exact (same_iff.mp h).1 k

/-- What the entries say of their values, up to order, if `eq` does not leave it open. -/
theorem entries_perm_of_same {f : α → β} (hf : ∀ v w, eq v w = true → f v = f w)
    (h : d.same eq d' = true) :
    (d.entries.map fun x => (x.1, f x.2)).Perm (d'.entries.map fun x => (x.1, f x.2)) := by
  have hentries : ∀ d : OrdMap κ α, (d.entries.map fun x => (x.1, f x.2)) =
      d.keys.filterMap fun k => ((d.get? k).map f).map fun y => (k, y) := by
    intro d
    rw [entries_eq_filterMap d, List.map_filterMap]
    refine List.filterMap_congr fun k _ => ?_
    rw [Option.map_map, Option.map_map]
    rfl
  have hvalues : ∀ k, (d.get? k).map f = (d'.get? k).map f := fun k =>
    optionRel_map_eq (same_iff_rel.mp h k) hf
  rw [hentries d, hentries d']
  simp only [hvalues]
  exact (keys_perm_of_same h).filterMap _

end OrdMap

/-! ### Strategies -/

theorem sameList_iff {α : Type} {eq : α → α → Bool} {as bs : List α} :
    sameList eq as bs = true ↔ List.Forall₂ (fun a b => eq a b = true) as bs := by
  induction as generalizing bs with
  | nil => cases bs with
    | nil => simp [sameList]
    | cons b bs => simp [sameList]
  | cons a as ih => cases bs with
    | nil => simp [sameList]
    | cons b bs => rw [sameList, Bool.and_eq_true, ih, List.forall₂_cons]

/-- The first elements that pass are related, if related elements pass alike. -/
theorem optionRel_find? {α : Type} {R : α → α → Prop} {p q : α → Bool}
    (hpq : ∀ a b, R a b → p a = q b) {as bs : List α} (h : List.Forall₂ R as bs) :
    Option.Rel R (as.find? p) (bs.find? q) := by
  induction h with
  | nil => exact .none
  | @cons a b as bs hab _ ih =>
    rw [List.find?_cons, List.find?_cons, hpq a b hab]
    split
    · exact .some hab
    · exact ih

theorem Strategy.balancer?_congr {s t : Strategy} (h : s.loadBalancer = t.loadBalancer) :
    s.balancer? = t.balancer? := by
  rw [balancer?, balancer?, h]

/-- What strategies say besides their labels, one after the other. -/
theorem map_eq_of_same {β : Type} {f : Strategy → β} {l l' : List Strategy}
    (hf : ∀ s t, s.name = t.name → s.algorithm = t.algorithm → s.loadBalancer = t.loadBalancer →
      f s = f t)
    (h : List.Forall₂ (fun s t => Strategy.same s t = true) l l') : l.map f = l'.map f := by
  refine List.forall₂_eq_eq_eq ▸ ?_
  rw [List.forall₂_map_left_iff, List.forall₂_map_right_iff]
  refine h.imp fun s t hst => ?_
  obtain ⟨hn, ha, hb, -⟩ := Strategy.same_iff.mp hst
  exact hf s t hn ha hb

/-- The rules say the same: equal names, the same labels in any order, the same definitions, and none
where there is none. -/
structure Resolved.Same (t t' : Resolved) : Prop where
  name : t.name = t'.name
  labels : t.labels.same t'.labels = true
  algorithm : Option.Rel (fun v w => Definition.same v w = true) t.algorithm t'.algorithm
  loadBalancer : Option.Rel (fun v w => Definition.same v w = true) t.loadBalancer t'.loadBalancer

namespace Rulebook

variable {c c' d d' : Rulebook}

theorem forall₂_strategies (h : c.same c' = true) :
    List.Forall₂ (fun s t => Strategy.same s t = true) c.strategies c'.strategies :=
  sameList_iff.mp (same_iff.mp h).1

theorem names_of_same (h : c.same c' = true) : c.names = c'.names :=
  congrArg NameSet.ofList
    (map_eq_of_same (fun _ _ hn _ _ => hn) (forall₂_strategies h))

theorem balancersInUse_of_same (h : c.same c' = true) : c.balancersInUse = c'.balancersInUse := by
  have hrefs : c.strategies.map (·.balancer?) = c'.strategies.map (·.balancer?) :=
    map_eq_of_same (fun _ _ _ _ hb => Strategy.balancer?_congr hb) (forall₂_strategies h)
  have hmap : ∀ l : List Strategy, l.filterMap (·.balancer?) = (l.map (·.balancer?)).filterMap id :=
    fun l => (List.filterMap_map (f := fun s : Strategy => s.balancer?) (g := id)).symm
  rw [balancersInUse, balancersInUse, hmap, hmap, hrefs]

/-! ### Merging -/

theorem forall₂_untouched (hc : c.same c' = true) (hd : d.same d' = true) :
    List.Forall₂ (fun s t => Strategy.same s t = true) (c.untouched d) (c'.untouched d') := by
  refine List.rel_filter (fun s t hst => ?_) (forall₂_strategies hc)
  show decide (s.name ∉ d.names) = true ↔ decide (t.name ∉ d'.names) = true
  rw [names_of_same hd, (Strategy.same_iff.mp hst).1]

theorem dropUnused_same (h : c.same c' = true) : c.dropUnused.same c'.dropUnused = true := by
  obtain ⟨hs, ha, hb⟩ := same_iff.mp h
  refine same_iff.mpr ⟨hs, ha, OrdMap.restrict_same hb fun k => ?_⟩
  rw [balancersInUse_of_same h]

theorem merge_same (hc : c.same c' = true) (hd : d.same d' = true) :
    (c.merge d).same (c'.merge d') = true := by
  obtain ⟨-, hca, hcb⟩ := same_iff.mp hc
  obtain ⟨-, hda, hdb⟩ := same_iff.mp hd
  refine dropUnused_same (same_iff.mpr
    ⟨sameList_iff.mpr ?_, OrdMap.overlay_same hca hda, OrdMap.overlay_same hcb hdb⟩)
  exact List.rel_append (forall₂_untouched hc hd) (forall₂_strategies hd)

theorem untouchedKeys_of_same (hc : c.same c' = true) (hd : d.same d' = true) :
    c.untouchedKeys d = c'.untouchedKeys d' := by
  have hkeys : (c.untouched d).map (fun s => s.algorithm :: s.balancer?.toList) =
      (c'.untouched d').map fun s => s.algorithm :: s.balancer?.toList :=
    map_eq_of_same (fun s t _ ha hb => by rw [ha, Strategy.balancer?_congr hb])
      (forall₂_untouched hc hd)
  rw [untouchedKeys, untouchedKeys, List.flatMap_def, List.flatMap_def, hkeys]

theorem shadowed_perm (hc : c.same c' = true) (hd : d.same d' = true) :
    (c.shadowed d).Perm (c'.shadowed d') := by
  obtain ⟨-, ha, hb⟩ := same_iff.mp hd
  rw [shadowed, shadowed, untouchedKeys_of_same hc hd]
  exact ((OrdMap.keys_perm_of_same ha).append (OrdMap.keys_perm_of_same hb)).filter _

/-! ### Faults -/

theorem strategiesFaults_of_same {seen : List String} {l l' : List Strategy} (h : c.same c' = true)
    (hl : List.Forall₂ (fun s t => Strategy.same s t = true) l l') :
    c.strategiesFaults seen l = c'.strategiesFaults seen l' := by
  obtain ⟨-, ha, hb⟩ := same_iff.mp h
  induction hl generalizing seen with
  | nil => rfl
  | @cons s t l l' hst _ ih =>
    obtain ⟨hn, hsa, hsb, -⟩ := Strategy.same_iff.mp hst
    have hfaults : c.strategyFaults seen s = c'.strategyFaults seen t := by
      rw [strategyFaults, strategyFaults, hn, hsa, Strategy.balancer?_congr hsb,
        OrdMap.contains_of_same ha]
      simp only [OrdMap.contains_of_same hb]
    rw [strategiesFaults, strategiesFaults, hfaults, hn, ih]

/-- For either role: the faults of definitions of which the check reads nothing but the type. -/
theorem typeFaults_perm {ds ds' : Dict Definition} (f : String × String → Fault)
    (passes : String → Bool) (h : ds.same Definition.same ds' = true) :
    ((ds.entries.filter fun e => !passes e.2.type).map fun e => f (e.1, e.2.type)).Perm
      ((ds'.entries.filter fun e => !passes e.2.type).map fun e => f (e.1, e.2.type)) := by
  have htype : ∀ v w : Definition, v.same w = true → v.type = w.type := by
    intro v w hvw
    rw [Definition.same, Bool.and_eq_true, decide_eq_true_eq] at hvw
    exact hvw.1
  have hread : ∀ ds : Dict Definition,
      ((ds.entries.filter fun e => !passes e.2.type).map fun e => f (e.1, e.2.type)) =
        ((ds.entries.map fun e => (e.1, e.2.type)).filter fun x => !passes x.2).map f := by
    intro ds
    rw [List.filter_map, List.map_map]
    rfl
  rw [hread, hread]
  exact ((OrdMap.entries_perm_of_same htype h).filter _).map _

theorem faults_perm (h : c.same c' = true) (known : KnownTypes) :
    (c.faults known).Perm (c'.faults known) := by
  obtain ⟨-, ha, hb⟩ := same_iff.mp h
  have horphans : c.orphanFaults.Perm c'.orphanFaults := by
    rw [orphanFaults, orphanFaults, balancersInUse_of_same h]
    exact ((OrdMap.keys_perm_of_same hb).filter _).map _
  have htypes : (c.typeFaults known).Perm (c'.typeFaults known) :=
    (typeFaults_perm (fun x => .unknownAlgorithmType x.1 x.2) known.hasAlgorithm ha).append
      (typeFaults_perm (fun x => .unknownBalancerType x.1 x.2) known.hasLoadBalancer hb)
  rw [faults, faults, strategiesFaults_of_same h (forall₂_strategies h)]
  exact (horphans.append_left _).append htypes

/-! ### Resolving -/

theorem resolve_same (h : c.same c' = true) {s t : Strategy} (hst : s.same t = true) :
    (s.resolve c).Same (t.resolve c') := by
  obtain ⟨-, ha, hb⟩ := same_iff.mp h
  obtain ⟨hn, hsa, hsb, hlabels⟩ := Strategy.same_iff.mp hst
  refine ⟨hn, hlabels, ?_, ?_⟩
  · show Option.Rel _ (c.algorithms.get? s.algorithm) (c'.algorithms.get? t.algorithm)
    rw [hsa]
    exact OrdMap.same_iff_rel.mp ha t.algorithm
  · show Option.Rel _ (s.balancer?.bind c.loadBalancers.get?)
      (t.balancer?.bind c'.loadBalancers.get?)
    rw [Strategy.balancer?_congr hsb]
    cases t.balancer? with
    | none => exact .none
    | some k => exact OrdMap.same_iff_rel.mp hb k

theorem rule?_same (h : c.same c' = true) (name : String) :
    Option.Rel Resolved.Same ((Resolution.ofRulebook c).rule? name)
      ((Resolution.ofRulebook c').rule? name) := by
  have hfind : Option.Rel (fun s t => Strategy.same s t = true) (c.strategy? name)
      (c'.strategy? name) := by
    refine optionRel_find? (fun s t hst => ?_) (forall₂_strategies h)
    rw [(Strategy.same_iff.mp hst).1]
  rw [Resolution.rule?_ofRulebook, Resolution.rule?_ofRulebook]
  exact optionRel_map (fun _ _ => resolve_same h) hfind

theorem withLabel_same (h : c.same c' = true) (label : String) :
    List.Forall₂ Resolved.Same ((Resolution.ofRulebook c).withLabel label)
      ((Resolution.ofRulebook c').withLabel label) := by
  rw [Resolution.withLabel_ofRulebook, Resolution.withLabel_ofRulebook, List.forall₂_map_left_iff,
    List.forall₂_map_right_iff]
  refine (List.rel_filter (fun s t hst => ?_) (forall₂_strategies h)).imp fun s t hst =>
    resolve_same h hst
  show decide (label ∈ s.labels) = true ↔ decide (label ∈ t.labels) = true
  rw [decide_eq_true_eq, decide_eq_true_eq]
  exact NameSet.same_iff.mp (Strategy.same_iff.mp hst).2.2.2 label

end Rulebook

/-! ### Requests -/

namespace Alteration

variable {c c' : Rulebook}

theorem check_of_same (h : c.same c' = true) (known : KnownTypes) (segments : List Segment) :
    check known c segments = check known c' segments := by
  rw [check, check, missing, missing, Rulebook.names_of_same h]

/-- A refused request changes neither rulebook; an accepted one is merged into both. -/
theorem execute_same {σ σ' : Type} {st : State σ} {st' : State σ'}
    (h : st.live.rulebook.same st'.live.rulebook = true) (known : KnownTypes)
    (sink : Option (Sink σ)) (sink' : Option (Sink σ')) (segments : List Segment) :
    (execute known sink segments st).2.live.rulebook.same
      (execute known sink' segments st').2.live.rulebook = true := by
  have hcheck := check_of_same h known segments
  rcases execute_cases known sink segments st with ⟨e, hc, he⟩ | ⟨hc, r, rfl, he⟩
  · rcases execute_cases known sink' segments st' with ⟨e', -, he'⟩ | ⟨hc', r', -, -⟩
    · rw [he, he']
      exact h
    · rw [hc, hc'] at hcheck
      cases hcheck
  · rcases execute_cases known sink' segments st' with ⟨e', hc', -⟩ | ⟨-, r', rfl, he'⟩
    · rw [hc, hc'] at hcheck
      cases hcheck
    · rw [he, he']
      exact Rulebook.merge_same h (Rulebook.same_equivalence.refl _)

end Alteration

namespace Rulebook

/-- **Rulebooks that say the same do the same.**  For rulebooks and deltas that differ at most in the
order of dictionary entries and labels: merging gives rulebooks that say the same; as many shadowed
keys of each kind are found; every request gets the same answer, and what is live after it says the
same, whatever the stores do; the same faults are found; and the resolutions give rules that say the
same, for every name and every label. -/
theorem same_answers {c c' d d' : Rulebook} (hc : c.same c' = true) (hd : d.same d' = true) :
    (c.merge d).same (c'.merge d') = true ∧
    (c.shadowed d).Perm (c'.shadowed d') ∧
    (∀ known segments, Alteration.check known c segments = Alteration.check known c' segments) ∧
    (∀ {σ σ' : Type} (st : Alteration.State σ) (st' : Alteration.State σ'),
      st.live.rulebook = c → st'.live.rulebook = c' → ∀ known sink sink' segments,
        (Alteration.execute known sink segments st).2.live.rulebook.same
          (Alteration.execute known sink' segments st').2.live.rulebook = true) ∧
    (∀ known, (c.faults known).Perm (c'.faults known)) ∧
    (∀ name, Option.Rel Resolved.Same ((Resolution.ofRulebook c).rule? name)
      ((Resolution.ofRulebook c').rule? name)) ∧
    ∀ label, List.Forall₂ Resolved.Same ((Resolution.ofRulebook c).withLabel label)
      ((Resolution.ofRulebook c').withLabel label) := by
  refine ⟨merge_same hc hd, shadowed_perm hc hd, Alteration.check_of_same hc,
    fun st st' hlive hlive' known sink sink' segments => ?_, faults_perm hc, rule?_same hc,
    withLabel_same hc⟩
  refine Alteration.execute_same ?_ known sink sink' segments
  rw [hlive, hlive']
  exact hc

/-- Strategies with two labels, and two definitions of each kind with two properties. -/
def ordered : Rulebook where
  strategies := [
    { name := "s1", algorithm := "a1", loadBalancer := some "b1", labels := .ofList ["x", "y"] },
    { name := "s2", algorithm := "a2", loadBalancer := some "b2", labels := .ofList ["y"] }]
  algorithms := .ofList [("a1", { type := "SQL_HINT", props := .ofList [("p", "1"), ("q", "2")] }),
    ("a2", { type := "nope" }), ("a3", { type := "nope" })]
  loadBalancers := .ofList [("b1", { type := "RANDOM" }), ("b2", { type := "RANDOM" }),
    ("b3", { type := "RANDOM" }), ("b4", { type := "RANDOM" })]

/-- The same in another order. -/
def reordered : Rulebook where
  strategies := [
    { name := "s1", algorithm := "a1", loadBalancer := some "b1", labels := .ofList ["y", "x"] },
    { name := "s2", algorithm := "a2", loadBalancer := some "b2", labels := .ofList ["y"] }]
  algorithms := .ofList [("a3", { type := "nope" }), ("a2", { type := "nope" }),
    ("a1", { type := "SQL_HINT", props := .ofList [("q", "2"), ("p", "1")] })]
  loadBalancers := .ofList [("b4", { type := "RANDOM" }), ("b3", { type := "RANDOM" }),
    ("b2", { type := "RANDOM" }), ("b1", { type := "RANDOM" })]

/-- Against each other as rulebook and as delta: what comes out is the same, in another order. -/
theorem same_answers_reordered :
    (ordered.merge reordered).same (reordered.merge ordered) = true ∧
      ordered.merge reordered ≠ reordered.merge ordered ∧
      (ordered.faults .builtin).Perm (reordered.faults .builtin) ∧
      ordered.faults .builtin ≠ reordered.faults .builtin ∧
      List.Forall₂ Resolved.Same ((Resolution.ofRulebook ordered).withLabel "y")
        ((Resolution.ofRulebook reordered).withLabel "y") := by
  have hsame : ordered.same reordered = true := by decide +kernel
  have hsame' : reordered.same ordered = true := by decide +kernel
  obtain ⟨hmerge, -, -, -, hfaults, -, hlabel⟩ := same_answers hsame hsame'
  exact ⟨hmerge, by decide +kernel, hfaults .builtin, by decide +kernel, hlabel "y"⟩

end Rulebook

end TrafficRouting
