import TrafficRouting.Proofs.Alteration.OneByOne
import TrafficRouting.Proofs.ControlPlane.Run
import TrafficRouting.Proofs.Rulebook.Same

/-!
# TrafficRouting.Proofs.ControlPlane.Batch — one request or many requests of one segment

A request is accepted exactly if each of its segments fits the rulebook and the known types
(`accepted_execute_iff`).  An accepted request keeps the names of the strategies, so a segment fits
after the ones in front of it exactly if it fits before them (`accepted_run_singletons_iff`).  Both
ways end with the same definitions and with the same strategies, in the same order where no name
comes again (`batch_eq_sequence`).
-/

namespace TrafficRouting

/-- A segment for a strategy that there is, of types that are known. -/
def Segment.Fits (known : KnownTypes) (r : Rulebook) (g : Segment) : Prop :=
  g.name ∈ r.names ∧ known.hasAlgorithm g.algorithm.type = true ∧
    ∀ b, g.loadBalancer = some b → known.hasLoadBalancer b.type = true

theorem Alteration.check_eq_ok_iff_fits {known : KnownTypes} {r : Rulebook}
    {segments : List Segment} :
    check known r segments = .ok () ↔ ∀ g ∈ segments, g.Fits known r := by
  rw [check_eq_ok_iff]
  exact ⟨fun h g hg => ⟨h.1 g hg, h.2 g hg⟩,
    fun h => ⟨fun g hg => (h g hg).1, fun g hg => (h g hg).2⟩⟩

namespace ControlPlane

variable {σ : Type} {p : ControlPlane σ} {segments : List Segment}

/-! ### One request -/

theorem accepted_execute_iff :
    (p.apply (.execute segments)).1.accepted = true ↔
      ∀ g ∈ segments, g.Fits p.known p.live.rulebook := by
  rw [← Alteration.check_eq_ok_iff_fits]
  rcases Alteration.execute_cases p.known p.sink segments p.alterable with
    ⟨e, hc, he⟩ | ⟨hc, r, -, he⟩
  · have hrefused : (p.apply (.execute segments)).1.accepted = false := by
      simp only [apply, he]
      rfl
    have hcheck : Alteration.check p.known p.live.rulebook segments = .error e := hc
    simp [hrefused, hcheck]
  · have haccepted : (p.apply (.execute segments)).1.accepted = true := by
      simp only [apply, he]
      rfl
    exact iff_of_true haccepted hc

/-- An accepted request publishes the merged rulebook. -/
theorem published_execute (h : (p.apply (.execute segments)).1.accepted = true) :
    (p.apply (.execute segments)).2.live =
      p.live.publish (p.live.rulebook.merge (delta segments)) := by
  rcases Alteration.execute_cases p.known p.sink segments p.alterable with
    ⟨e, -, he⟩ | ⟨-, r, rfl, he⟩
  · simp [apply, he, Answer.accepted, Answer.outcome?] at h
  · simp only [apply, he]
    rfl

/-- It makes the merged rulebook live, and the known types stay. -/
theorem live_execute (h : (p.apply (.execute segments)).1.accepted = true) :
    (p.apply (.execute segments)).2.live.rulebook = p.live.rulebook.merge (delta segments) ∧
      (p.apply (.execute segments)).2.known = p.known :=
  ⟨congrArg Snapshot.rulebook (published_execute h), rfl⟩

/-- What fits after an accepted request is what fits before it. -/
theorem fits_execute_iff (h : (p.apply (.execute segments)).1.accepted = true) {g : Segment} :
    g.Fits (p.apply (.execute segments)).2.known (p.apply (.execute segments)).2.live.rulebook ↔
      g.Fits p.known p.live.rulebook := by
  have hc := Alteration.check_eq_ok_iff_fits.mpr (accepted_execute_iff.mp h)
  obtain ⟨hlive, hknown⟩ := live_execute h
  rw [Segment.Fits, Segment.Fits, hlive, hknown, Alteration.mem_names_merge_delta hc]

/-! ### One request for each segment -/

/-- The segments as requests of their own. -/
def singletons (segments : List Segment) : List Operation := segments.map fun g => .execute [g]

theorem run_singletons_cons (p : ControlPlane σ) (g : Segment) (segments : List Segment) :
    p.run (singletons (g :: segments)) =
      ((p.apply (.execute [g])).1 :: ((p.apply (.execute [g])).2.run (singletons segments)).1,
        ((p.apply (.execute [g])).2.run (singletons segments)).2) :=
  run_cons p (.execute [g]) (singletons segments)

/-- All are accepted if each one fits in the beginning. -/
theorem accepted_run_singletons_iff :
    (∀ a ∈ (p.run (singletons segments)).1, a.accepted = true) ↔
      ∀ g ∈ segments, g.Fits p.known p.live.rulebook := by
  induction segments generalizing p with
  | nil => simp [singletons, run]
  | cons g segments ih =>
    have hfirst : (p.apply (.execute [g])).1.accepted = true ↔ g.Fits p.known p.live.rulebook := by
      rw [accepted_execute_iff, List.forall_mem_singleton]
    rw [run_singletons_cons, List.forall_mem_cons, List.forall_mem_cons, ih, hfirst]
    refine and_congr_right fun hg => forall₂_congr fun g' _ => ?_
    exact fits_execute_iff (hfirst.mpr hg)

/-- Then they are merged one by one. -/
theorem live_run_singletons (h : ∀ a ∈ (p.run (singletons segments)).1, a.accepted = true) :
    (p.run (singletons segments)).2.live.rulebook = mergeEach p.live.rulebook segments := by
  induction segments generalizing p with
  | nil => rfl
  | cons g segments ih =>
    rw [run_singletons_cons] at h ⊢
    obtain ⟨hfirst, hrest⟩ := List.forall_mem_cons.mp h
    rw [ih hrest, (live_execute hfirst).1]
    rfl

/-- **A batch is its sequence.**  A request is accepted exactly if all its segments are, one request
for each in their order; then both ways end with the same algorithms in the same order, the same
load balancers, and the same strategies.  If no name comes again these are in the same order too,
and the two rulebooks say the same. -/
theorem batch_eq_sequence (p : ControlPlane σ) (hne : segments ≠ []) :
    let batch := p.apply (.execute segments)
    let each := p.run (segments.map fun g => .execute [g])
    (batch.1.accepted = true ↔ ∀ a ∈ each.1, a.accepted = true) ∧
      (batch.1.accepted = true →
        batch.2.live.rulebook.algorithms = each.2.live.rulebook.algorithms ∧
        (∀ k, batch.2.live.rulebook.loadBalancers.get? k =
          each.2.live.rulebook.loadBalancers.get? k) ∧
        batch.2.live.rulebook.strategies.Perm each.2.live.rulebook.strategies ∧
        ((segments.map (·.name)).Nodup →
          batch.2.live.rulebook.strategies = each.2.live.rulebook.strategies ∧
          batch.2.live.rulebook.same each.2.live.rulebook = true)) := by
  intro batch each
  have haccepted : batch.1.accepted = true ↔ ∀ a ∈ each.1, a.accepted = true :=
    accepted_execute_iff.trans accepted_run_singletons_iff.symm
  refine ⟨haccepted, fun h => ?_⟩
  have hbatch : batch.2.live.rulebook = p.live.rulebook.merge (delta segments) :=
    (live_execute h).1
  have heach : each.2.live.rulebook = mergeEach p.live.rulebook segments :=
    live_run_singletons (haccepted.mp h)
  rw [hbatch, heach]
  have halgorithms := (algorithms_mergeEach p.live.rulebook segments).symm
  have hbalancers := fun k => (get?_balancers_mergeEach_eq p.live.rulebook hne k).symm
  refine ⟨halgorithms, hbalancers, (strategies_mergeEach_perm _ segments).symm, fun hnodup => ?_⟩
  have hstrategies : (p.live.rulebook.merge (delta segments)).strategies =
      (mergeEach p.live.rulebook segments).strategies :=
    (strategies_mergeEach_of_nodup hnodup).symm
  exact ⟨hstrategies, Rulebook.same_of_get? hstrategies halgorithms hbalancers⟩

/-- One by one, the load balancer of the first segment is dropped and comes back from another
strategy, and the two strategies change places. -/
def comeback : List Segment := [
  { name := "s1", algorithm := { type := "JDBC" }, loadBalancer := some { type := "RANDOM" } },
  { name := "s1", algorithm := { type := "SQL_HINT" } },
  { name := "S1", algorithm := { type := "jdbc" }, loadBalancer := some { type := "random" } },
  { name := "s1", algorithm := { type := "PROXY" } }]

theorem batch_eq_sequence_twins :
    let p : ControlPlane Unit := .begin .builtin none () .twins
    (comeback ≠ [] ∧ (p.apply (.execute comeback)).1.accepted = true ∧
      let batch := (p.apply (.execute comeback)).2.live.rulebook
      let each := (p.run (comeback.map fun g => .execute [g])).2.live.rulebook
      batch.strategies.map (·.name) = ["s1", "S1"] ∧ each.strategies.map (·.name) = ["S1", "s1"] ∧
        batch.strategies.Perm each.strategies ∧ batch.algorithms = each.algorithms ∧
        batch.loadBalancers.get? "s1_random" = each.loadBalancers.get? "s1_random") ∧
    (Alteration.crossing ≠ [] ∧ (Alteration.crossing.map (·.name)).Nodup ∧
      (p.apply (.execute Alteration.crossing)).1.accepted = true ∧
      (p.apply (.execute Alteration.crossing)).2.live.rulebook.same
        (p.run (Alteration.crossing.map fun g => .execute [g])).2.live.rulebook = true) := by
  intro p
  have hcomeback : (p.apply (.execute comeback)).1.accepted = true := by decide +kernel
  have hcrossing : (p.apply (.execute Alteration.crossing)).1.accepted = true := by decide +kernel
  have hnodup : (Alteration.crossing.map (·.name)).Nodup := by decide
  have hne : comeback ≠ [] := by simp [comeback]
  have hne' : Alteration.crossing ≠ [] := by simp [Alteration.crossing]
  obtain ⟨ha, hb, hs, -⟩ := (batch_eq_sequence p hne).2 hcomeback
  obtain ⟨-, -, -, hsame⟩ := (batch_eq_sequence p hne').2 hcrossing
  exact ⟨⟨hne, hcomeback, by decide +kernel, by decide +kernel, hs, ha, hb _⟩,
    hne', hnodup, hcrossing, (hsame hnodup).2⟩

end ControlPlane

end TrafficRouting
