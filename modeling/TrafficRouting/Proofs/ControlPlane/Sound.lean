import TrafficRouting.Proofs.Alteration.Accepted
import TrafficRouting.Proofs.ControlPlane.Run

/-!
# TrafficRouting.Proofs.ControlPlane.Sound — requests and registrations keep the live rulebook sound

A service starts with a sound rulebook, whichever it takes: that of its settings was checked with
the settings, that of the store is checked on starting (`Service.start_sound`).  From then on
requests and registrations keep it so, and keep the names of its strategies
(`healthy_apply`), so every state that they reach is healthy (`run_requests_sound`).
-/

namespace TrafficRouting

/-! ### Known types only grow -/

namespace KnownTypes

variable {k : KnownTypes}

theorem foldl_addAlgorithm (ts : List String) (k : KnownTypes) :
    ts.foldl addAlgorithm k =
      { k with algorithms := k.algorithms.insertAll (ts.map normalType) } := by
  induction ts generalizing k with
  | nil => rfl
  | cons t ts ih => exact ih (k.addAlgorithm t)

theorem foldl_addLoadBalancer (ts : List String) (k : KnownTypes) :
    ts.foldl addLoadBalancer k =
      { k with loadBalancers := k.loadBalancers.insertAll (ts.map normalType) } := by
  induction ts generalizing k with
  | nil => rfl
  | cons t ts ih => exact ih (k.addLoadBalancer t)

/-- The types that are known afterwards. -/
theorem addAll_eq (k : KnownTypes) (as bs : List String) :
    k.addAll as bs = ⟨k.algorithms.insertAll (as.map normalType),
      k.loadBalancers.insertAll (bs.map normalType)⟩ := by
  rw [addAll, foldl_addAlgorithm, foldl_addLoadBalancer]

theorem hasAlgorithm_addAll {t : String} (as bs : List String) (h : k.hasAlgorithm t = true) :
    (k.addAll as bs).hasAlgorithm t = true := by
  rw [hasAlgorithm, decide_eq_true_eq] at h ⊢
  rw [addAll_eq]
  exact NameSet.mem_insertAll.mpr (Or.inl h)

theorem hasLoadBalancer_addAll {t : String} (as bs : List String)
    (h : k.hasLoadBalancer t = true) : (k.addAll as bs).hasLoadBalancer t = true := by
  rw [hasLoadBalancer, decide_eq_true_eq] at h ⊢
  rw [addAll_eq]
  exact NameSet.mem_insertAll.mpr (Or.inl h)

end KnownTypes

/-- More known types do no harm. -/
theorem Rulebook.Sound.addAll {r : Rulebook} {known : KnownTypes} (h : r.Sound known)
    (as bs : List String) : r.Sound (known.addAll as bs) :=
  { h with
    algorithm_known := fun e he => KnownTypes.hasAlgorithm_addAll as bs (h.algorithm_known e he)
    balancer_known := fun e he => KnownTypes.hasLoadBalancer_addAll as bs (h.balancer_known e he) }

/-! ### Starting -/

/-- A stored rulebook is taken only if it has no fault. -/
theorem Service.faults_of_stored {s : Settings} {files : FileTree} {r : Rulebook}
    (h : stored s files = .ok (some r)) : r.faults s.knownTypes = [] := by
  unfold stored at h
  split at h
  · simp at h
  · obtain ⟨found, -, h⟩ := bind_eq_ok_iff.mp h
    cases found with
    | none => simp at h
    | some r' =>
      dsimp only at h
      split at h
      · rename_i hfaults
        obtain rfl := Option.some.inj (Except.ok.inj h)
        exact hfaults
      · simp at h

/-- What a service starts with: its own types and the first snapshot of a rulebook, which is the
stored one if there is one. -/
theorem Service.start_eq_ok {s : Settings} {files : FileTree} {v : Service}
    (h : start s files = .ok v) :
    ∃ found, stored s files = .ok found ∧ v = ⟨s, .first (found.getD s.traffic), s.knownTypes⟩ := by
  obtain ⟨found, hfound, h⟩ := bind_eq_ok_iff.mp h
  exact ⟨found, hfound, (Except.ok.inj h).symm⟩

theorem Service.start_sound {s : Settings} {files : FileTree} {v : Service} (hs : s.faults = [])
    (h : start s files = .ok v) : v.live.rulebook.Sound v.known := by
  obtain ⟨found, hfound, rfl⟩ := start_eq_ok h
  rw [← Rulebook.faults_eq_nil_iff]
  cases found with
  | none => exact (List.append_eq_nil_iff.mp (List.append_eq_nil_iff.mp hs).1).1
  | some r => exact faults_of_stored hfound

/-! ### Steps and runs -/

/-- Requests, looked at or applied, and registrations. -/
def Operation.IsRequestOrRegistration : Operation → Prop
  | execute _ | preview _ | register _ _ => True
  | _ => False

theorem Operation.IsRequestOrRegistration.eq_or {o : Operation} (ho : o.IsRequestOrRegistration) :
    (∃ segments, o = .execute segments) ∨ (∃ segments, o = .preview segments) ∨
      ∃ algorithms loadBalancers, o = .register algorithms loadBalancers := by
  cases o with
  | execute segments => exact Or.inl ⟨segments, rfl⟩
  | preview segments => exact Or.inr (Or.inl ⟨segments, rfl⟩)
  | register algorithms loadBalancers => exact Or.inr (Or.inr ⟨algorithms, loadBalancers, rfl⟩)
  | publish r => exact ho.elim
  | reload r => exact ho.elim
  | ring => exact ho.elim
  | dropBell => exact ho.elim
  | close => exact ho.elim

namespace ControlPlane

variable {σ : Type}

/-- The live rulebook is sound for the known types, has the strategies of `names`, and requests are
routed by its own resolution. -/
structure Healthy (names : NameSet) (p : ControlPlane σ) : Prop where
  sound : p.live.rulebook.Sound p.known
  mem_names : ∀ n, n ∈ p.live.rulebook.names ↔ n ∈ names
  resolved : p.live.resolution = .ofRulebook p.live.rulebook

theorem healthy_execute {names : NameSet} {p : ControlPlane σ} (h : p.Healthy names)
    (segments : List Segment) : (p.apply (.execute segments)).2.Healthy names := by
  rcases Alteration.execute_cases p.known p.sink segments p.alterable with
    ⟨e, -, he⟩ | ⟨hc, r, rfl, he⟩
  · simp only [apply, he]
    exact ⟨h.sound, h.mem_names, h.resolved⟩
  · simp only [apply, he]
    refine ⟨Alteration.sound_merge_delta h.sound hc, fun n => ?_, rfl⟩
    exact (Alteration.mem_names_merge_delta hc).trans (h.mem_names n)

/-- A step keeps a control plane healthy. -/
theorem healthy_apply {names : NameSet} {p : ControlPlane σ} (h : p.Healthy names) {o : Operation}
    (ho : o.IsRequestOrRegistration) : (p.apply o).2.Healthy names := by
  obtain ⟨segments, rfl⟩ | ⟨segments, rfl⟩ | ⟨as, bs, rfl⟩ := ho.eq_or
  · exact healthy_execute h segments
  · exact h
  · exact ⟨h.sound.addAll as bs, h.mem_names, h.resolved⟩

theorem healthy_run {names : NameSet} {p : ControlPlane σ} (h : p.Healthy names)
    {ops : List Operation} (hops : ∀ o ∈ ops, o.IsRequestOrRegistration) :
    (p.run ops).2.Healthy names :=
  run_induction (P := fun _ q => q.Healthy names) h (fun _ _ _ ho hq => healthy_apply hq ho) hops

/-- In a healthy control plane every rule has its algorithm, and a load balancer exactly if its
strategy refers to one. -/
theorem Healthy.rules {names : NameSet} {p : ControlPlane σ} (h : p.Healthy names) :
    List.Forall₂ (fun s t => t.name = s.name ∧ t.labels = s.labels ∧ t.algorithm.isSome = true ∧
      t.loadBalancer.isSome = s.balancer?.isSome) p.live.rulebook.strategies
      p.live.resolution.rules := by
  rw [h.resolved, Resolution.rules_ofRulebook, List.forall₂_map_right_iff, List.forall₂_same]
  intro s hs
  exact ⟨rfl, rfl, h.sound.algorithm_isSome hs, h.sound.loadBalancer_isSome hs⟩

/-- **Requests keep the live rulebook sound.**  Whatever a service started from, whatever its sink
does, and whatever requests and registrations come: the live rulebook has no fault for the types
known by then, its strategies are those that the service started with, and every reference
resolves. -/
theorem run_requests_sound {s : Settings} {files : FileTree} {v : Service} (hs : s.faults = [])
    (hv : Service.start s files = .ok v) (sink : Option (Sink σ)) (store : σ)
    {ops : List Operation} (hops : ∀ o ∈ ops, o.IsRequestOrRegistration) :
    let p := (ControlPlane.run ops ⟨v.known, sink, store, v.serving⟩).2
    p.live.rulebook.faults p.known = [] ∧ p.live.rulebook.Sound p.known ∧
      (∀ n, n ∈ p.live.rulebook.names ↔ n ∈ v.live.rulebook.names) ∧
      List.Forall₂ (fun s t => t.name = s.name ∧ t.labels = s.labels ∧
        t.algorithm.isSome = true ∧ t.loadBalancer.isSome = s.balancer?.isSome)
        p.live.rulebook.strategies p.live.resolution.rules := by
  intro p
  have hbegin : Healthy v.live.rulebook.names ⟨v.known, sink, store, v.serving⟩ := by
    refine ⟨Service.start_sound hs hv, fun n => Iff.rfl, ?_⟩
    obtain ⟨found, -, rfl⟩ := Service.start_eq_ok hv
    rfl
  have hp : p.Healthy v.live.rulebook.names := healthy_run hbegin hops
  exact ⟨Rulebook.faults_eq_nil_iff.mpr hp.sound, hp.sound, hp.mem_names, hp.rules⟩

/-- Requests with equal derived keys, one that is refused, and a type that is made known in
between. -/
def twinRequests : List Operation := [
  .execute [
    { name := "s1", algorithm := { type := "SQL_MATCH", props := .ofList [("sql", "1")] },
      loadBalancer := some { type := "RANDOM" } },
    { name := "S1", algorithm := { type := "sql_match" },
      loadBalancer := some { type := "random" } },
    { name := "s1", algorithm := { type := "JDBC" } }],
  .preview [{ name := "s2", algorithm := { type := "JDBC" } }],
  .execute [{ name := "S1", algorithm := { type := "SHARD" } }],
  .register ["shard "] [],
  .execute [{ name := "S1", algorithm := { type := "SHARD" } }]]

/-- A service that starts from `twins`. -/
def twinService : Service :=
  let s : Settings := { traffic := .twins }
  ⟨s, .first s.traffic, s.knownTypes⟩

theorem run_requests_sound_twins :
    twinService.settings.faults = [] ∧ Service.start twinService.settings {} = .ok twinService ∧
      (∀ o ∈ twinRequests, o.IsRequestOrRegistration) ∧
      let p := (ControlPlane.run twinRequests
        ⟨twinService.known, some (.refusing Unit), (), twinService.serving⟩).2
      p.live.version = 3 ∧ p.live.rulebook.faults p.known = [] := by
  have hs : twinService.settings.faults = [] := by decide +kernel
  have hv : Service.start twinService.settings {} = .ok twinService := rfl
  have hops : ∀ o ∈ twinRequests, o.IsRequestOrRegistration := by
    simp [twinRequests, Operation.IsRequestOrRegistration]
  have h := run_requests_sound hs hv (some (.refusing Unit)) () hops
  exact ⟨hs, hv, hops, by decide +kernel, h.1⟩

end ControlPlane

end TrafficRouting
