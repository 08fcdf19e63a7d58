import TrafficRouting.Proofs.ControlPlane.Sound
import TrafficRouting.Proofs.Store

/-!
# TrafficRouting.Proofs.ControlPlane.Durable — what was written is live again after a new start

The store of a control plane holds the live rulebook whenever the latest accepted request was
written (`Retained`), and as long as no types come to be known the rulebook is sound for those of
the settings (`Durable`).  Edits of the settings do not touch it, because a store rules over them
(`live_update`).  A new start therefore finds a rulebook without faults and takes it
(`written_requests_survive`).
-/

namespace TrafficRouting

/-! ### The reload loop of a store -/

namespace Serving

variable {s : Serving}

@[simp] theorem live_settle (s : Serving) : s.settle.live = s.live := by
  unfold settle
  split
  · split <;> rfl
  · rfl

@[simp] theorem storeBacked_settle (s : Serving) :
    s.settle.loop.storeBacked = s.loop.storeBacked := by
  unfold settle
  split
  · split <;> rfl
  · rfl

@[simp] theorem live_ring (s : Serving) : s.ring.2.live = s.live := by
  unfold ring
  split
  · exact live_settle _
  · rfl

@[simp] theorem storeBacked_ring (s : Serving) :
    s.ring.2.loop.storeBacked = s.loop.storeBacked := by
  unfold ring
  split
  · exact storeBacked_settle _
  · rfl

@[simp] theorem storeBacked_update (s : Serving) (r : Rulebook) :
    (s.update r).2.loop.storeBacked = s.loop.storeBacked := by
  unfold update ReloadLoop.receive
  split
  · split
    · split <;> rfl
    · rfl
  · rfl

/-- Where a store rules, edited settings do not change what is live. -/
theorem live_update (h : s.loop.storeBacked = true) (r : Rulebook) :
    (s.update r).2.live = s.live := by
  have hnever : s.loop.reaction r ≠ .published := by
    unfold ReloadLoop.reaction
    rw [h]
    split <;> simp
  unfold update ReloadLoop.receive
  split
  · split
    · split
      · rfl
      · rfl
      · rename_i hpublished
        exact absurd hpublished hnever
    · rfl
  · rfl

end Serving

/-! ### Starting from a store -/

/-- What the store holds decides whether the service starts. -/
theorem Service.start_of_stored {s : Settings} {files : FileTree} {r : Rulebook}
    (henabled : s.persistence.enabled = true)
    (hload : Store.load (.ofText s.persistence.path) files = .ok (some r)) :
    start s files =
      if r.faults s.knownTypes = [] then .ok ⟨s, .first r, s.knownTypes⟩
      else .error (.invalidStore (r.faults s.knownTypes)) := by
  have hpath : storePath? s = some (.ofText s.persistence.path) := if_pos henabled
  have hstored : stored s files =
      if r.faults s.knownTypes = [] then .ok (some r)
      else .error (.invalidStore (r.faults s.knownTypes)) := by
    rw [stored, hpath]
    dsimp only
    rw [hload]
    rfl
  rw [start, hstored]
  split
  · rfl
  · rfl

/-- A sound rulebook in the store is the one to start with. -/
theorem Service.start_of_load {s : Settings} {files : FileTree} {r : Rulebook}
    (henabled : s.persistence.enabled = true)
    (hload : Store.load (.ofText s.persistence.path) files = .ok (some r))
    (hsound : r.Sound s.knownTypes) : start s files = .ok ⟨s, .first r, s.knownTypes⟩ :=
  (start_of_stored henabled hload).trans (if_pos (Rulebook.faults_eq_nil_iff.mpr hsound))

/-! ### Steps and runs -/

/-- How an answer says that an accepted request was kept. -/
def Answer.kept? : Answer → Option Persisted
  | executed (.ok o) => some o.persisted
  | _ => none

/-- How the latest accepted request was kept. -/
def lastKept (as : List Answer) : Option Persisted := (as.filterMap Answer.kept?).getLast?

theorem lastKept_accepted (as : List Answer) (o : Outcome) :
    lastKept (as ++ [.executed (.ok o)]) = some o.persisted := by
  simp [lastKept, Answer.kept?]

theorem lastKept_other (as : List Answer) {a : Answer} (h : a.kept? = none) :
    lastKept (as ++ [a]) = lastKept as := by
  simp [lastKept, h]

/-- Requests, looked at or applied, and all that can happen to the reload loop. -/
def Operation.IsRequestOrReload : Operation → Prop
  | publish _ | register _ _ => False
  | _ => True

namespace ControlPlane

/-- The live rulebook is sound for the types of the settings, and it is what the store holds if the
latest accepted request was written. -/
structure Durable (s : Settings) (as : List Answer) (p : ControlPlane FileTree) : Prop where
  known : p.known = s.knownTypes
  sink : p.sink = some (.file (.ofText s.persistence.path))
  storeBacked : p.serving.loop.storeBacked = true
  sound : p.live.rulebook.Sound p.known
  stored : lastKept as = some .written →
    Store.load (.ofText s.persistence.path) p.store = .ok (some p.live.rulebook)

variable {s : Settings} {as : List Answer} {p : ControlPlane FileTree}

/-- What is kept as written is loaded again. -/
theorem load_keep {path : FilePath} {r : Rulebook} {t : FileTree}
    (h : (Alteration.keep (some (.file path)) r t).1 = .written) :
    Store.load path (Alteration.keep (some (.file path)) r t).2 = .ok (some r) := by
  have hrun : (Store.persist path r true).run t =
      (((Store.persist path r true).run t).1, (Alteration.keep (some (.file path)) r t).2) := rfl
  have hok : ((Store.persist path r true).run t).1 = .ok () := by
    have hpersisted : Alteration.persisted ((Store.persist path r true).run t).1 = .written := h
    cases hw : ((Store.persist path r true).run t).1 with
    | ok u => rfl
    | error e => simp [hw, Alteration.persisted] at hpersisted
  rw [hok] at hrun
  exact Store.load_persist hrun

/-- The live rulebook is sound for the types known by now, and it is what the store at `path` holds
if the latest accepted request was written. -/
structure Retained (path : FilePath) (as : List Answer) (p : ControlPlane FileTree) : Prop where
  sink : p.sink = some (.file path)
  sound : p.live.rulebook.Sound p.known
  stored : lastKept as = some .written → Store.load path p.store = .ok (some p.live.rulebook)

theorem retained_execute {path : FilePath} (h : Retained path as p) (segments : List Segment) :
    Retained path (as ++ [(p.apply (.execute segments)).1]) (p.apply (.execute segments)).2 := by
  rcases Alteration.execute_cases p.known p.sink segments p.alterable with
    ⟨e, -, he⟩ | ⟨hc, r, hr, he⟩
  -- refused: the latest accepted request is still the one from before
  · simp only [apply, he]
    refine ⟨h.sink, h.sound, fun hlast => ?_⟩
    rw [lastKept_other as rfl] at hlast
    exact h.stored hlast
  -- accepted: what is published is also what the sink was given
  · have hsound : r.Sound p.known := hr ▸ Alteration.sound_merge_delta h.sound hc
    simp only [apply, he]
    refine ⟨h.sink, hsound, fun hlast => ?_⟩
    rw [lastKept_accepted, h.sink, Option.some.injEq] at hlast
    rw [h.sink]
    dsimp only at hlast ⊢
    exact load_keep hlast

theorem Durable.retained (h : Durable s as p) : Retained (.ofText s.persistence.path) as p :=
  ⟨h.sink, h.sound, h.stored⟩

theorem durable_execute (h : Durable s as p) (segments : List Segment) :
    Durable s (as ++ [(p.apply (.execute segments)).1]) (p.apply (.execute segments)).2 := by
  have hnext := retained_execute h.retained segments
  exact ⟨h.known, hnext.sink, h.storeBacked, hnext.sound, hnext.stored⟩

/-- An operation that is no request leaves the store and what is live as they were. -/
theorem durable_of_same (h : Durable s as p) {a : Answer} (ha : a.kept? = none) {serving : Serving}
    (hlive : serving.live = p.serving.live)
    (hloop : serving.loop.storeBacked = p.serving.loop.storeBacked) :
    Durable s (as ++ [a]) { p with serving } := by
  have hsame : ({ p with serving } : ControlPlane FileTree).live = p.live := hlive
  refine ⟨h.known, h.sink, hloop.trans h.storeBacked, hsame ▸ h.sound, fun hlast => ?_⟩
  rw [lastKept_other as ha] at hlast
  rw [hsame]
  exact h.stored hlast

/-- A step keeps a control plane durable. -/
theorem durable_apply (h : Durable s as p) {o : Operation} (ho : o.IsRequestOrReload) :
    Durable s (as ++ [(p.apply o).1]) (p.apply o).2 := by
  cases o with
  | execute segments => exact durable_execute h segments
  | preview segments => exact durable_of_same h rfl rfl rfl
  | publish r => exact ho.elim
  | register as bs => exact ho.elim
  | reload r =>
    exact durable_of_same h rfl (Serving.live_update h.storeBacked r)
      (Serving.storeBacked_update _ r)
  | ring => exact durable_of_same h rfl (Serving.live_ring _) (Serving.storeBacked_ring _)
  | dropBell => exact durable_of_same h rfl (Serving.live_settle _) (Serving.storeBacked_settle _)
  | close => exact durable_of_same h rfl rfl rfl

/-- A service with a store begins durable. -/
theorem durable_start {files : FileTree} {v : Service} (hs : s.faults = [])
    (henabled : s.persistence.enabled = true) (hv : Service.start s files = .ok v) :
    Durable s [] (v.controlPlane files) := by
  have hsound := Service.start_sound hs hv
  obtain ⟨found, -, rfl⟩ := Service.start_eq_ok hv
  have hsink : (Service.storePath? s).map Sink.file =
      some (.file (.ofText s.persistence.path)) := by
    rw [Service.storePath?, if_pos henabled]
    rfl
  refine ⟨rfl, hsink, ?_, hsound, fun hlast => absurd hlast (by simp [lastKept])⟩
  show ((Service.storePath? s).map Sink.file).isSome = true
  rw [hsink]
  rfl

/-- **Durability.**  Whatever a service with a store started from, and whatever requests and edits
of the settings came: if the latest accepted request was written, a new start from the same settings
succeeds, and exactly the same rulebook is live. -/
theorem written_requests_survive {files : FileTree} {v : Service} (hs : s.faults = [])
    (henabled : s.persistence.enabled = true) (hv : Service.start s files = .ok v)
    {ops : List Operation} (hops : ∀ o ∈ ops, o.IsRequestOrReload)
    (hwritten : lastKept ((v.controlPlane files).run ops).1 = some .written) :
    ∃ v', Service.start s ((v.controlPlane files).run ops).2.store = .ok v' ∧
      v'.live.rulebook = ((v.controlPlane files).run ops).2.live.rulebook ∧
      v'.live.resolution = .ofRulebook ((v.controlPlane files).run ops).2.live.rulebook := by
  have hrun : Durable s ((v.controlPlane files).run ops).1 ((v.controlPlane files).run ops).2 :=
    run_induction (P := fun as q => Durable s as q) (durable_start hs henabled hv)
      (fun _ _ _ ho hq => durable_apply hq ho) hops
  have hstart := Service.start_of_load henabled (hrun.stored hwritten) (hrun.known ▸ hrun.sound)
  exact ⟨_, hstart, rfl, rfl⟩

/-- Settings with `twins`, and with a store in a directory that is not there yet. -/
def storedTwins : Settings where
  persistence := ⟨true, "meta/rules.toml"⟩
  traffic := .twins

/-- A service that starts from them, as the store holds nothing. -/
def storedService : Service := ⟨storedTwins, .first .twins, storedTwins.knownTypes⟩

/-- A request that is written, one that is refused, a look at another one, and an edit. -/
def storedRequests : List Operation := [
  .execute [
    { name := "s1", algorithm := { type := "SQL_MATCH", props := .ofList [("a\nb", "\\\"'")] },
      loadBalancer := some { type := "RANDOM" } }],
  .execute [{ name := "S1", algorithm := { type := "SHARD" } }],
  .preview [{ name := "S1", algorithm := { type := "JDBC" } }],
  .reload {}]

theorem written_requests_survive_twins :
    storedTwins.faults = [] ∧ storedTwins.persistence.enabled = true ∧
      Service.start storedTwins {} = .ok storedService ∧
      (∀ o ∈ storedRequests, o.IsRequestOrReload) ∧
      lastKept ((storedService.controlPlane {}).run storedRequests).1 = some .written ∧
      ∃ v', Service.start storedTwins ((storedService.controlPlane {}).run storedRequests).2.store =
          .ok v' ∧
        v'.live.rulebook = ((storedService.controlPlane {}).run storedRequests).2.live.rulebook := by
  have hs : storedTwins.faults = [] := by decide +kernel
  have hv : Service.start storedTwins {} = .ok storedService := by rfl
  have hops : ∀ o ∈ storedRequests, o.IsRequestOrReload := by
    simp [storedRequests, Operation.IsRequestOrReload]
  have hwritten : lastKept ((storedService.controlPlane {}).run storedRequests).1 =
      some .written := by decide +kernel
  obtain ⟨v', hstart, hlive, -⟩ := written_requests_survive hs rfl hv hops hwritten
  refine ⟨hs, rfl, hv, hops, hwritten, ?_⟩
  exact ⟨v', hstart, hlive⟩

end ControlPlane

end TrafficRouting
