import TrafficRouting.Proofs.Alteration.Exact
import TrafficRouting.Proofs.ControlPlane.Batch

/-!
# TrafficRouting.Proofs.ControlPlane.TwoRequests — the same request again, and requests in any order

An accepted request takes no strategy away, so what was accepted before it is accepted behind it
(`accepted_execute_execute`), and two accepted requests are two merges in a row
(`live_execute_execute`).  The same request again therefore publishes what is live already
(`same_request_again`), and independent requests end alike in either order
(`independent_requests_commute`).
-/

namespace TrafficRouting.ControlPlane

open Alteration (superseding trio)

variable {σ : Type} {p : ControlPlane σ} {a b : List Segment}

/-! ### One request behind another -/

/-- A request that is accepted before another one is accepted behind it. -/
theorem accepted_execute_execute (ha : (p.apply (.execute a)).1.accepted = true)
    (hb : (p.apply (.execute b)).1.accepted = true) :
    ((p.apply (.execute a)).2.apply (.execute b)).1.accepted = true :=
  accepted_execute_iff.mpr fun g hg => (fits_execute_iff ha).mpr (accepted_execute_iff.mp hb g hg)

theorem live_execute_execute (ha : (p.apply (.execute a)).1.accepted = true)
    (hb : (p.apply (.execute b)).1.accepted = true) :
    ((p.apply (.execute a)).2.apply (.execute b)).2.live =
      (p.apply (.execute a)).2.live.publish
        ((p.live.rulebook.merge (delta a)).merge (delta b)) := by
  rw [published_execute (accepted_execute_execute ha hb), (live_execute ha).1]

/-! ### The same request again -/

/-- **The same again changes nothing.**  Merging a delta twice is merging it once, to the order of
every part, whatever the two rulebooks are.  So a request that is accepted is accepted again, and
then what is live is what the first one made live, with the next version. -/
theorem same_request_again :
    (∀ current delta : Rulebook, (current.merge delta).merge delta = current.merge delta) ∧
      ∀ (p : ControlPlane σ) (segments : List Segment),
        (p.apply (.execute segments)).1.accepted = true →
          let once := (p.apply (.execute segments)).2
          let twice := once.apply (.execute segments)
          twice.1.accepted = true ∧
            twice.2.live = { once.live with version := once.live.version + 1 } := by
  refine ⟨Rulebook.merge_merge_self, fun p segments h => ⟨accepted_execute_execute h h, ?_⟩⟩
  rw [live_execute_execute h h, Rulebook.merge_merge_self, published_execute h]
  rfl

/-- The first time moves `s1` behind the others; the second time nothing moves. -/
theorem same_request_again_trio :
    let p : ControlPlane Unit := .begin .builtin none () trio
    let once := (p.apply (.execute superseding)).2
    (p.apply (.execute superseding)).1.accepted = true ∧
      p.live.rulebook.strategies.map (·.name) = ["s1", "S1", "s2"] ∧
      once.live.rulebook.strategies.map (·.name) = ["S1", "s2", "s1"] ∧
      (once.apply (.execute superseding)).1.accepted = true ∧
      (once.apply (.execute superseding)).2.live = { once.live with version := 3 } := by
  intro p once
  have h : (p.apply (.execute superseding)).1.accepted = true := by decide +kernel
  have hversion : once.live.version = 2 := congrArg Snapshot.version (published_execute h)
  obtain ⟨haccepted, hlive⟩ := same_request_again.2 p superseding h
  refine ⟨h, rfl, by decide +kernel, haccepted, hlive.trans ?_⟩
  rw [hversion]

/-! ### Independent requests -/

/-- What an accepted request refers to it defines. -/
theorem balancer_mem_of_accepted (h : (p.apply (.execute a)).1.accepted = true) :
    ∀ k ∈ (delta a).balancersInUse, k ∈ (delta a).loadBalancers.keys := by
  have hc := Alteration.check_eq_ok_iff_fits.mpr (accepted_execute_iff.mp h)
  intro k hk
  obtain ⟨s, hs, hsk⟩ := Rulebook.mem_balancersInUse.mp hk
  exact (closed_delta (Alteration.check_eq_ok_iff.mp hc).2).balancer_mem s hs k hsk

/-- Two requests in a row are both accepted; what neither mentions stays in its order. -/
theorem run_pair (ha : (p.apply (.execute a)).1.accepted = true)
    (hb : (p.apply (.execute b)).1.accepted = true) :
    let q := p.run [.execute a, .execute b]
    (∀ x ∈ q.1, x.accepted = true) ∧
      q.2.live.rulebook = (p.live.rulebook.merge (delta a)).merge (delta b) ∧
      q.2.live.resolution = .ofRulebook q.2.live.rulebook ∧
      ∀ unmentioned : Strategy → Bool,
        (∀ s, unmentioned s = true → s.name ∉ a.map (·.name) ∧ s.name ∉ b.map (·.name)) →
          q.2.live.rulebook.strategies.filter unmentioned =
            p.live.rulebook.strategies.filter unmentioned := by
  intro q
  have hlive : q.2.live = _ := live_execute_execute ha hb
  rw [hlive]
  refine ⟨?_, rfl, rfl, fun unmentioned h => ?_⟩
  · exact List.forall_mem_cons.mpr
      ⟨ha, List.forall_mem_singleton.mpr (accepted_execute_execute ha hb)⟩
  · refine (Rulebook.filter_strategies_merge fun s hs hn => ?_).trans
      (Rulebook.filter_strategies_merge fun s hs hn => ?_)
    · exact (h s hs).2 (mem_names_delta.mp hn)
    · exact (h s hs).1 (mem_names_delta.mp hn)

/-- **Independent requests may come in either order.**  Two requests are accepted as things stand;
they mention different strategies, and derive different keys for algorithms and different keys for
load balancers, over all their segments.  Then both are accepted in both orders, and both orders end
alike: the same strategy for every name, those that no request mentions in the order that they
had, the same definition under every key; so every name resolves alike, and every label has the
same rules.  Nothing is assumed of the rulebook that is live before. -/
theorem independent_requests_commute (ha : (p.apply (.execute a)).1.accepted = true)
    (hb : (p.apply (.execute b)).1.accepted = true)
    (hnames : (a.map (·.name)).Disjoint (b.map (·.name)))
    (halgorithms : (a.map (·.algorithmKey)).Disjoint (b.map (·.algorithmKey)))
    (hbalancers : (a.filterMap (·.balancerKey?)).Disjoint (b.filterMap (·.balancerKey?))) :
    let ab := p.run [.execute a, .execute b]
    let ba := p.run [.execute b, .execute a]
    let unmentioned := fun s : Strategy =>
      decide (s.name ∉ a.map (·.name) ∧ s.name ∉ b.map (·.name))
    (∀ x ∈ ab.1 ++ ba.1, x.accepted = true) ∧
      ab.2.live.rulebook.Alike ba.2.live.rulebook ∧
      (ab.2.live.rulebook.strategies.filter unmentioned =
          p.live.rulebook.strategies.filter unmentioned ∧
        ba.2.live.rulebook.strategies.filter unmentioned =
          p.live.rulebook.strategies.filter unmentioned) ∧
      (∀ n, ab.2.live.resolution.rule? n = ba.2.live.resolution.rule? n) ∧
      ∀ label, (ab.2.live.resolution.withLabel label).Perm
        (ba.2.live.resolution.withLabel label) := by
  intro ab ba unmentioned
  obtain ⟨hab, hlive, hresolution, hrest⟩ := run_pair ha hb
  obtain ⟨hba, hlive', hresolution', hrest'⟩ := run_pair hb ha
  have halike : ab.2.live.rulebook.Alike ba.2.live.rulebook := by
    rw [hlive, hlive']
    refine Rulebook.merge_comm_alike p.live.rulebook (fun n hn hn' => ?_) (fun k hk hk' => ?_)
      (fun k hk hk' => ?_) (balancer_mem_of_accepted ha) (balancer_mem_of_accepted hb)
    · exact hnames (mem_names_delta.mp hn) (mem_names_delta.mp hn')
    · rw [keys_delta_algorithms, List.mem_eraseDups] at hk hk'
      exact halgorithms hk hk'
    · rw [keys_delta_balancers, List.mem_eraseDups] at hk hk'
      exact hbalancers hk hk'
  refine ⟨List.forall_mem_append.mpr ⟨hab, hba⟩, halike, ⟨?_, ?_⟩, fun n => ?_, fun label => ?_⟩
  · exact hrest unmentioned fun s hs => of_decide_eq_true hs
  · exact hrest' unmentioned fun s hs => (of_decide_eq_true hs).symm
  · rw [hresolution, hresolution']
    exact halike.rule? n
  · rw [hresolution, hresolution']
    exact halike.withLabel label

/-- A request for the twin, which derives other keys. -/
def besides : List Segment := [
  { name := "S1", algorithm := { type := "JDBC" }, loadBalancer := some { type := "ROUND_ROBIN" } }]

/-- In either order `s2` keeps its load balancer, as the superseded segment defines it. -/
theorem independent_requests_commute_trio :
    let p : ControlPlane Unit := .begin .builtin none () trio
    ((p.apply (.execute superseding)).1.accepted = true ∧
      (p.apply (.execute besides)).1.accepted = true ∧
      (superseding.map (·.name)).Disjoint (besides.map (·.name)) ∧
      (superseding.map (·.algorithmKey)).Disjoint (besides.map (·.algorithmKey)) ∧
      (superseding.filterMap (·.balancerKey?)).Disjoint (besides.filterMap (·.balancerKey?))) ∧
      let ab := (p.run [.execute superseding, .execute besides]).2.live.rulebook
      let ba := (p.run [.execute besides, .execute superseding]).2.live.rulebook
      ab.Alike ba ∧ ab.strategies.map (·.name) = ["s2", "s1", "S1"] ∧
        ba.strategies.map (·.name) = ["s2", "S1", "s1"] ∧
        ba.loadBalancers.get? "s1_random" = some { type := "RANDOM" } := by
  intro p
  have ha : (p.apply (.execute superseding)).1.accepted = true := by decide +kernel
  have hb : (p.apply (.execute besides)).1.accepted = true := by decide +kernel
  have hnames : ∀ n ∈ superseding.map (·.name), n ∉ besides.map (·.name) := by decide
  have halgorithms : ∀ k ∈ superseding.map (·.algorithmKey), k ∉ besides.map (·.algorithmKey) := by
    decide +kernel
  have hbalancers : ∀ k ∈ superseding.filterMap (·.balancerKey?),
      k ∉ besides.filterMap (·.balancerKey?) := by decide +kernel
  obtain ⟨-, halike, -⟩ := independent_requests_commute ha hb hnames halgorithms hbalancers
  exact ⟨⟨ha, hb, hnames, halgorithms, hbalancers⟩, halike, by decide +kernel⟩

end TrafficRouting.ControlPlane
