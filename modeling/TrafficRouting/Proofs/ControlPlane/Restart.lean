import TrafficRouting.Proofs.ControlPlane.Durable

/-!
# TrafficRouting.Proofs.ControlPlane.Restart — a new start after types were made known

Requests are checked against the types known by then, which registrations add to; a new start
checks the store against the types that the settings make known, which registrations do not touch.
All else that makes a rulebook sound is the same for both.  So a written request stops the next
start exactly if some definition of the live rulebook has a type that the settings do not make known
(`restart_needs_registered_types`), and that can happen (`restart_forgets_registrations`).
-/

namespace TrafficRouting.ControlPlane

variable {s : Settings} {as : List Answer} {p : ControlPlane FileTree} {path : FilePath}

/-! ### The store across registrations -/

/-- A step retains what is live in the store, registrations included. -/
theorem retained_apply (h : Retained path as p) {o : Operation} (ho : o.IsRequestOrRegistration) :
    Retained path (as ++ [(p.apply o).1]) (p.apply o).2 := by
  have hother : ∀ a : Answer, a.kept? = none → lastKept (as ++ [a]) = some .written →
      Store.load path p.store = .ok (some p.live.rulebook) := fun a ha hlast =>
    h.stored (lastKept_other as ha ▸ hlast)
  obtain ⟨segments, rfl⟩ | ⟨segments, rfl⟩ | ⟨algorithms, loadBalancers, rfl⟩ := ho.eq_or
  · exact retained_execute h segments
  · exact ⟨h.sink, h.sound, hother _ rfl⟩
  · exact ⟨h.sink, h.sound.addAll _ _, hother _ rfl⟩

theorem retained_run (h : Retained path [] p) {ops : List Operation}
    (hops : ∀ o ∈ ops, o.IsRequestOrRegistration) :
    Retained path (p.run ops).1 (p.run ops).2 :=
  run_induction (P := fun as q => Retained path as q) h (fun _ _ _ ho hq => retained_apply hq ho)
    hops

/-- Of what is stored, a new start objects to the types only. -/
theorem start_of_retained (h : Retained (.ofText s.persistence.path) as p)
    (henabled : s.persistence.enabled = true) (hwritten : lastKept as = some .written) :
    Service.start s p.store =
      if p.live.rulebook.typeFaults s.knownTypes = [] then
        .ok ⟨s, .first p.live.rulebook, s.knownTypes⟩
      else .error (.invalidStore (p.live.rulebook.typeFaults s.knownTypes)) := by
  rw [Service.start_of_stored henabled (h.stored hwritten), h.sound.faults_eq]

/-! ### Requests for the types of the settings -/

/-- A request keeps the live rulebook sound for the types that it asks for, whatever else is
known. -/
theorem sound_execute_of_typesKnown {known : KnownTypes} (h : p.live.rulebook.Sound known)
    {segments : List Segment} (htypes : TypesKnown known segments) :
    (p.apply (.execute segments)).2.live.rulebook.Sound known := by
  rcases Alteration.execute_cases p.known p.sink segments p.alterable with
    ⟨e, -, he⟩ | ⟨-, r, rfl, he⟩
  · simp only [apply, he]
    exact h
  · simp only [apply, he]
    exact h.toClosed.merge (closed_delta htypes)

theorem sound_run_of_typesKnown {known : KnownTypes} (h : p.live.rulebook.Sound known)
    {ops : List Operation} (hops : ∀ o ∈ ops, o.IsRequestOrRegistration)
    (htypes : ∀ segments, Operation.execute segments ∈ ops → TypesKnown known segments) :
    (p.run ops).2.live.rulebook.Sound known := by
  have hallowed : ∀ o ∈ ops, o.IsRequestOrRegistration ∧
      ∀ segments, o = .execute segments → TypesKnown known segments := fun o ho =>
    ⟨hops o ho, fun segments he => htypes segments (he ▸ ho)⟩
  refine run_induction (P := fun _ q => q.live.rulebook.Sound known) h (fun _ q o ho hq => ?_)
    hallowed
  obtain ⟨segments, rfl⟩ | ⟨segments, rfl⟩ | ⟨algorithms, loadBalancers, rfl⟩ := ho.1.eq_or
  · exact sound_execute_of_typesKnown hq (ho.2 segments rfl)
  · exact hq
  · exact hq

/-! ### Starting again -/

/-- **A new start needs registered types, and no more.**  A service with a store starts from
settings without faults; then come requests and registrations, and the latest accepted request was
written.  If the settings make all types of the live rulebook known, a new start from the same
settings takes it; else the start is refused, and told are exactly the definitions whose types are
missing.  If all requests ask for types of the settings only, none is missing, whatever was
registered. -/
theorem restart_needs_registered_types {files : FileTree} {v : Service} (hs : s.faults = [])
    (henabled : s.persistence.enabled = true) (hv : Service.start s files = .ok v)
    {ops : List Operation} (hops : ∀ o ∈ ops, o.IsRequestOrRegistration)
    (hwritten : lastKept ((v.controlPlane files).run ops).1 = some .written) :
    let q := ((v.controlPlane files).run ops).2
    let missing := q.live.rulebook.typeFaults s.knownTypes
    (missing = [] → ∃ v', Service.start s q.store = .ok v' ∧
        v'.live.rulebook = q.live.rulebook) ∧
      (missing ≠ [] → Service.start s q.store = .error (.invalidStore missing)) ∧
      ((∀ segments, Operation.execute segments ∈ ops → TypesKnown s.knownTypes segments) →
        missing = []) := by
  intro q missing
  have hbegin := durable_start hs henabled hv
  have hstart := start_of_retained (retained_run hbegin.retained hops) henabled hwritten
  refine ⟨fun hnone => ?_, fun hsome => hstart.trans (if_neg hsome), fun htypes => ?_⟩
  · exact ⟨_, hstart.trans (if_pos hnone), rfl⟩
  · have hsound : q.live.rulebook.Sound s.knownTypes :=
      sound_run_of_typesKnown (hbegin.known ▸ hbegin.sound) hops htypes
    exact hsound.faults_eq.symm.trans (Rulebook.faults_eq_nil_iff.mpr hsound)

/-- A load balancer of a type that was registered is asked for, and dropped again. -/
def passing : List Operation := [
  .register ["TENANT_HASH"] ["WEIGHT"],
  .execute [
    { name := "s1", algorithm := { type := "JDBC" }, loadBalancer := some { type := "WEIGHT" } }],
  .execute [{ name := "s1", algorithm := { type := "JDBC" } }]]

theorem restart_needs_registered_types_passing :
    storedTwins.faults = [] ∧ storedTwins.persistence.enabled = true ∧
      Service.start storedTwins {} = .ok storedService ∧
      (∀ o ∈ passing, o.IsRequestOrRegistration) ∧
      lastKept ((storedService.controlPlane {}).run passing).1 = some .written ∧
      let q := ((storedService.controlPlane {}).run passing).2
      q.live.rulebook.typeFaults storedTwins.knownTypes = [] ∧
        ∃ v', Service.start storedTwins q.store = .ok v' ∧
          v'.live.rulebook = q.live.rulebook := by
  have hs : storedTwins.faults = [] := by decide +kernel
  have hv : Service.start storedTwins {} = .ok storedService := rfl
  have hops : ∀ o ∈ passing, o.IsRequestOrRegistration := by
    simp [passing, Operation.IsRequestOrRegistration]
  have hwritten : lastKept ((storedService.controlPlane {}).run passing).1 = some .written := by
    decide +kernel
  have hnone : ((storedService.controlPlane {}).run passing).2.live.rulebook.typeFaults
      storedTwins.knownTypes = [] := by decide +kernel
  exact ⟨hs, rfl, hv, hops, hwritten, hnone,
    (restart_needs_registered_types hs rfl hv hops hwritten).1 hnone⟩

/-- A type is registered, and then asked for. -/
def registering : List Operation := [
  .register ["TENANT_HASH"] [],
  .execute [{ name := "s1", algorithm := { type := "TENANT_HASH" } }]]

/-- **A written request can stop the next start**: the store holds a type that only a registration
made known. -/
theorem restart_forgets_registrations :
    storedTwins.faults = [] ∧ storedTwins.persistence.enabled = true ∧
      Service.start storedTwins {} = .ok storedService ∧
      (∀ o ∈ registering, o.IsRequestOrRegistration) ∧
      lastKept ((storedService.controlPlane {}).run registering).1 = some .written ∧
      Service.start storedTwins ((storedService.controlPlane {}).run registering).2.store =
        .error (.invalidStore [.unknownAlgorithmType "s1_tenant_hash" "TENANT_HASH"]) := by
  have hs : storedTwins.faults = [] := by decide +kernel
  have hv : Service.start storedTwins {} = .ok storedService := rfl
  have hops : ∀ o ∈ registering, o.IsRequestOrRegistration := by
    simp [registering, Operation.IsRequestOrRegistration]
  have hwritten : lastKept ((storedService.controlPlane {}).run registering).1 =
      some .written := by decide +kernel
  have hmissing : ((storedService.controlPlane {}).run registering).2.live.rulebook.typeFaults
      storedTwins.knownTypes = [.unknownAlgorithmType "s1_tenant_hash" "TENANT_HASH"] := by
    decide +kernel
  have hretained := retained_run (durable_start hs rfl hv).retained hops
  have hstart := start_of_retained hretained rfl hwritten
  rw [hmissing] at hstart
  exact ⟨hs, rfl, hv, hops, hwritten, hstart⟩

end TrafficRouting.ControlPlane
