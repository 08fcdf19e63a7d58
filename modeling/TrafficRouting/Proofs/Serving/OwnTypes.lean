import TrafficRouting.Proofs.ControlPlane.Batch
import TrafficRouting.Proofs.ControlPlane.Commits
import TrafficRouting.Proofs.ControlPlane.Sound
import TrafficRouting.Proofs.Serving.Reloads

/-!
# TrafficRouting.Proofs.Serving.OwnTypes — reloads and the types that a service knows

Settings are checked with the types that they make known themselves, but a service goes on with
those that it knew when it started.  Hence the live rulebook stays without faults exactly if no
change names a type beyond those (`reloads_stay_known_iff`).  Nothing sees to that: settings that
load and make a type known leave a service with a rulebook whose own types it refuses
(`reload_leaves_known_types`).
-/

namespace TrafficRouting

/-- What makes a rulebook sound, the types apart, does not depend on what is known. -/
theorem Rulebook.Sound.of_typeFaults {r : Rulebook} {known known' : KnownTypes}
    (h : r.Sound known) (htypes : r.typeFaults known' = []) : r.Sound known' :=
  faults_eq_nil_iff.mp (h.faults_eq.trans htypes)

/-- Settings without faults have a rulebook that is sound for their own types. -/
theorem Settings.sound_of_faults {s : Settings} (h : s.faults = []) :
    s.traffic.Sound s.knownTypes :=
  Rulebook.faults_eq_nil_iff.mp (List.append_eq_nil_iff.mp (List.append_eq_nil_iff.mp h).1).1

/-- Settings that load have no fault. -/
theorem Settings.faults_of_load {t : FileTree} {path : FilePath} {s : Settings}
    (h : load t path = .ok s) : s.faults = [] := by
  obtain ⟨s', -, h⟩ := bind_eq_ok_iff.mp h
  split at h
  · rename_i hfaults
    exact Except.ok.inj h ▸ hfaults
  · simp at h

/-- The service that starts from settings without a store. -/
def Service.ofSettings (s : Settings) : Service := ⟨s, .first s.traffic, s.knownTypes⟩

theorem Service.start_of_storeless {s : Settings} (hstore : s.persistence.enabled = false)
    (files : FileTree) : start s files = .ok (.ofSettings s) := by
  rw [start, stored, storePath?, hstore]
  rfl

/-- The segment asks for types that definitions of the rulebook have. -/
structure Segment.UsesTypesOf (r : Rulebook) (g : Segment) : Prop where
  algorithm : ∃ e ∈ r.algorithms.entries, g.algorithm.type = e.2.type
  loadBalancer : ∀ b, g.loadBalancer = some b → ∃ e ∈ r.loadBalancers.entries, b.type = e.2.type

/-- Where all types are known, a segment fits if it keeps to the strategies and the types that there
are. -/
theorem Segment.UsesTypesOf.fits {known : KnownTypes} {r : Rulebook} {g : Segment}
    (h : g.UsesTypesOf r) (hr : r.Sound known) (hname : g.name ∈ r.names) : g.Fits known r := by
  refine ⟨hname, ?_, fun b hb => ?_⟩
  · obtain ⟨e, he, htype⟩ := h.algorithm
    exact htype ▸ hr.algorithm_known e he
  · obtain ⟨e, he, htype⟩ := h.loadBalancer b hb
    exact htype ▸ hr.balancer_known e he

namespace Backlog

variable {σ : Type} {p : ControlPlane σ} {u : Rulebook} {b c : Backlog σ} {ts : List (Taken σ)}
  {m : Move} {known : KnownTypes}

/-- What a step makes of the known types: nothing, if others only make requests. -/
theorem Step.known_eq (h : Step b m c) (hm : ∀ o, m = .other o → o.IsRequest) :
    c.plane.known = b.plane.known := by
  cases h with
  | @other o ho =>
    obtain ⟨segments, rfl | rfl⟩ := (hm o rfl).eq_or
    · rfl
    · rfl
  | _ => rfl

/-- Only by taking settings can a step leave the known types. -/
theorem Step.sound (h : Step b m c) (hm : ∀ o, m = .other o → o.IsRequest) (htake : m ≠ .take)
    (hb : b.live.rulebook.Sound b.plane.known) : c.live.rulebook.Sound b.plane.known := by
  by_cases hloops : m.isLoops = true
  · rw [(h.of_ne_take htake).2.2 hloops]
    exact hb
  · cases h with
    | @other o ho =>
      obtain ⟨segments, rfl | rfl⟩ := (hm o rfl).eq_or
      · exact Alteration.sound_execute hb
      · exact hb
    | send s => exact hb
    | ring => exact hb
    | dropBell => exact hb
    | close => exact hb
    | take => exact absurd rfl htake
    | hear => exact absurd rfl hloops
    | finish => exact absurd rfl hloops

/-- Others only make requests, and the settings that are sent have been found without faults. -/
structure Checked (ts : List (Taken σ)) : Prop where
  requests : ∀ t ∈ ts, ∀ o, t.move = .other o → o.IsRequest
  settings : ∀ s ∈ delivered ts, s.faults = []

theorem Checked.init {t : Taken σ} (h : Checked (ts ++ [t])) : Checked ts where
  requests t' ht' := h.requests t' (List.mem_append_left _ ht')
  settings s hs := h.settings s (delivered_concat ts t ▸ List.mem_append_left _ hs)

theorem mem_changes_concat {r : Rulebook} (h : r ∈ changes u (sections ts)) (t : Taken σ) :
    r ∈ changes u (sections (ts ++ [t])) := by
  rw [sections, handled_concat, List.map_append, changes_append]
  exact List.mem_append_left _ h

theorem known_run {b : Backlog σ} (h : Run b ts c) (hts : Checked ts) :
    c.plane.known = b.plane.known ∧ ∀ t ∈ ts, t.after.plane.known = b.plane.known := by
  induction h with
  | start => exact ⟨rfl, List.forall_mem_nil _⟩
  | @next ts c d m _ hstep ih =>
    obtain ⟨hc, hall⟩ := ih hts.init
    have hnext := (hstep.known_eq (hts.requests ⟨m, c, d⟩ (by simp))).trans hc
    exact ⟨hnext, List.forall_mem_append.mpr ⟨hall, List.forall_mem_singleton.mpr hnext⟩⟩

/-- Changes that name known types only leave the live rulebook sound. -/
theorem sound_run (h : Run (.begin p u false) ts c) (hts : Checked ts)
    (hp : p.live.rulebook.Sound p.known)
    (hchanges : ∀ r ∈ changes u (sections ts), r.typeFaults p.known = []) :
    c.live.rulebook.Sound p.known ∧ ∀ t ∈ ts, t.after.live.rulebook.Sound p.known := by
  induction h with
  | start => exact ⟨hp, List.forall_mem_nil _⟩
  | @next ts b c m hrun hstep ih =>
    obtain ⟨hb, hall⟩ := ih hts.init fun r hr => hchanges r (mem_changes_concat hr _)
    have hrequests : ∀ o, m = .other o → o.IsRequest := hts.requests ⟨m, b, c⟩ (by simp)
    have hnext : c.live.rulebook.Sound p.known := by
      by_cases hm : m = .take
      · subst hm
        cases hstep with
        | @take s rest hmail hrunning =>
          rw [(seen_run hrun).live_took hrunning s rest]
          split
          · exact hb
          · rename_i hdiffers
            -- what is published was sent, so it is sound for its own types; and it is a change
            have hsent : s ∈ delivered (ts ++ [⟨.take, b, b.took s rest⟩]) := by
              rw [← (seen_run (hrun.next (.take hmail hrunning))).mail, handled_concat,
                handled_take hmail]
              simp
            refine (Settings.sound_of_faults (hts.settings s hsent)).of_typeFaults ?_
            refine hchanges s.traffic ?_
            rw [sections_take hmail, changes_concat, if_neg (by simpa using hdiffers)]
            simp
      · have hknown := (known_run hrun hts.init).1
        exact hknown ▸ hstep.sound hrequests hm (hknown ▸ hb)
    exact ⟨hnext, List.forall_mem_append.mpr ⟨hall, List.forall_mem_singleton.mpr hnext⟩⟩

/-- Every change has been live. -/
theorem changes_were_live (h : Run (.begin p u false) ts c) {r : Rulebook}
    (hr : r ∈ changes u (sections ts)) : ∃ t ∈ ts, t.after.live.rulebook = r := by
  have hpublished : (publications ts).map (·.rulebook) = changes u (sections ts) :=
    map_publications_run h
  rw [← hpublished] at hr
  obtain ⟨live, hlive, rfl⟩ := List.mem_map.mp hr
  obtain ⟨t, ht, hstep⟩ := List.mem_filterMap.mp hlive
  split at hstep
  · exact ⟨t, ht, congrArg Snapshot.rulebook (Option.some.inj hstep)⟩
  · simp at hstep

/-- Without a store the loop of a service publishes what changes. -/
theorem begin_controlPlane {s : Settings} (hstore : s.persistence.enabled = false)
    (files : FileTree) :
    (⟨(Service.ofSettings s).controlPlane files, []⟩ : Backlog FileTree) =
      .begin ((Service.ofSettings s).controlPlane files) s.traffic false := by
  have hsink : (Service.ofSettings s).sink = none := by
    rw [Service.sink, Service.storePath?, Service.ofSettings, hstore]
    rfl
  rw [Service.controlPlane, Service.serving, hsink]
  rfl

/-- **Reloads keep a service within its own types exactly if no change leaves them.**  A service
without a store starts from settings without faults; then settings without faults reload, requests
are made in between, and the loop may stop.  The live rulebook has no fault for the types of the
service after each step if and only if every rulebook that the loop found changed names known
types only; and while it has none, requests that keep to its types are accepted. -/
theorem reloads_stay_known_iff {s : Settings} {files : FileTree} {v : Service}
    {ts : List (Taken FileTree)} {c : Backlog FileTree} (hs : s.faults = [])
    (hstore : s.persistence.enabled = false) (hv : Service.start s files = .ok v)
    (h : Run ⟨v.controlPlane files, []⟩ ts c) (hts : Checked ts) :
    ((∀ t ∈ ts, t.after.live.rulebook.faults v.known = []) ↔
      ∀ r ∈ changes s.traffic (sections ts), r.typeFaults v.known = []) ∧
    ∀ t ∈ ts, t.after.live.rulebook.faults v.known = [] → ∀ segments : List Segment,
      (∀ g ∈ segments, g.name ∈ t.after.live.rulebook.names ∧
        g.UsesTypesOf t.after.live.rulebook) →
      (t.after.plane.apply (.execute segments)).1.accepted = true := by
  obtain rfl := Except.ok.inj (hv.symm.trans (Service.start_of_storeless hstore files))
  have hknown := (known_run h hts).2
  rw [begin_controlPlane hstore] at h
  refine ⟨⟨fun hlive r hr => ?_, fun hchanges t ht => ?_⟩, fun t ht hlive segments hsegments => ?_⟩
  · obtain ⟨t, ht, rfl⟩ := changes_were_live h hr
    exact (List.append_eq_nil_iff.mp (hlive t ht)).2
  · exact Rulebook.faults_eq_nil_iff.mpr
      ((sound_run h hts (Service.start_sound hs hv) hchanges).2 t ht)
  · refine ControlPlane.accepted_execute_iff.mpr fun g hg => ?_
    obtain ⟨hname, htypes⟩ := hsegments g hg
    rw [hknown t ht]
    exact htypes.fits (Rulebook.faults_eq_nil_iff.mp hlive) hname

/-- Settings that make a type known, with one strategy of this type. -/
def tenants (strategy : String) : Settings where
  extraTypes := { algorithms := ["TENANT_HASH"] }
  traffic := {
    strategies := [{ name := strategy, algorithm := "a1" }]
    algorithms := .ofList [("a1", { type := "TENANT_HASH" })] }

/-- A request for an algorithm of this type. -/
def tenantRequest (strategy : String) : List Segment :=
  [{ name := strategy, algorithm := { type := "TENANT_HASH" } }]

/-- Settings are reloaded, and then a request comes. -/
theorem run_reload_request {b : Backlog σ} {s : Settings} (hmail : b.mail = [])
    (hopen : b.serving.sender = true) (hrunning : b.loop.running = true) (hs : s.faults = [])
    (segments : List Segment) :
    ∃ ts c, Run b ts c ∧ Checked ts ∧ delivered ts = [s] ∧ handled ts = [s] ∧
      c.plane = ((b.took s []).plane.apply (.execute segments)).2 := by
  have h0 : Run b [] _ := .start
  have h1 := h0.next (.send s hopen hrunning)
  have h2 := h1.next (.take (by rw [hmail]; rfl) hrunning)
  have h3 := h2.next (.other (o := .execute segments) trivial)
  refine ⟨_, _, h3, ⟨?_, ?_⟩, rfl, ?_, rfl⟩
  · simp [Operation.IsRequest]
  · simpa [delivered] using hs
  · simp [handled, hmail]

/-- Where the type is known from the start, a strategy of it can be reloaded and then altered. -/
theorem reloads_stay_known_iff_tenants :
    ∃ (ts : List (Taken FileTree)) (c : Backlog FileTree),
      let s := tenants "s1"
      let v := Service.ofSettings s
      s.faults = [] ∧ Service.start s {} = .ok v ∧ Run ⟨v.controlPlane {}, []⟩ ts c ∧
        Checked ts ∧ changes s.traffic (sections ts) = [(tenants "s2").traffic] ∧
        (∀ t ∈ ts, t.after.live.rulebook.faults v.known = []) ∧ c.live.version = 3 := by
  have hs : (tenants "s1").faults = [] := by decide +kernel
  have hv := Service.start_of_storeless (s := tenants "s1") rfl {}
  have hu : (tenants "s2").faults = [] := by decide +kernel
  obtain ⟨ts, c, h, hts, -, hhandled, hc⟩ := run_reload_request
    (b := ⟨(Service.ofSettings (tenants "s1")).controlPlane {}, []⟩) rfl rfl rfl hu
    (tenantRequest "s2")
  have hchanges : changes (tenants "s1").traffic (sections ts) = [(tenants "s2").traffic] := by
    rw [sections, hhandled]
    decide +kernel
  have hlive := (reloads_stay_known_iff hs rfl hv h hts).1.mpr fun r hr => by
    rw [hchanges, List.mem_singleton] at hr
    subst hr
    decide +kernel
  refine ⟨ts, c, hs, hv, h, hts, hchanges, hlive, ?_⟩
  rw [live, hc]
  decide +kernel

/-- A settings file with one strategy, behind the lines `head`. -/
def settingsFile (head type : String) : FileTree where
  nodes := .ofList [(["app.toml"], .file (head ++ "
[traffic.algorithms.a1]
type = '" ++ type ++ "'
[[traffic.strategies]]
name = 's1'
algorithm_name = 'a1'
").toUTF8)]

/-- Lines that make the type of `tenants` known. -/
def tenantLines : String := "[algorithm_types]
algorithms = ['TENANT_HASH']"

/-- **A reload can leave the types of a service.**  Both files load.  The second makes a type known
and uses it; then the live rulebook has a fault for the service, and the service refuses the very
type that is live. -/
theorem reload_leaves_known_types :
    ∃ (s u : Settings) (v : Service) (ts : List (Taken FileTree)) (c : Backlog FileTree),
      let files := settingsFile "" "SQL_HINT"
      let edited := settingsFile tenantLines "TENANT_HASH"
      Settings.load files (.ofText "app.toml") = .ok s ∧ s.persistence.enabled = false ∧
        Service.start s files = .ok v ∧ Settings.load edited (.ofText "app.toml") = .ok u ∧
        Run ⟨v.controlPlane files, []⟩ ts c ∧ Checked ts ∧ delivered ts = [u] ∧
        c.live.rulebook.faults v.known = [.unknownAlgorithmType "a1" "TENANT_HASH"] ∧
        Alteration.check v.known c.live.rulebook (tenantRequest "s1") =
          .error (.unknownTypes ["TENANT_HASH"]) := by
  let s : Settings := { traffic := {
    strategies := [{ name := "s1", algorithm := "a1" }]
    algorithms := .ofList [("a1", { type := "SQL_HINT" })] } }
  have hload : Settings.load (settingsFile "" "SQL_HINT") (.ofText "app.toml") = .ok s :=
    toOption_eq_some_iff.mp (by decide +kernel)
  have hreload : Settings.load (settingsFile tenantLines "TENANT_HASH") (.ofText "app.toml") =
      .ok (tenants "s1") :=
    toOption_eq_some_iff.mp (by decide +kernel)
  obtain ⟨ts, c, h, hts, hsent, -, hc⟩ := run_reload_request
    (b := ⟨(Service.ofSettings s).controlPlane (settingsFile "" "SQL_HINT"), []⟩) rfl rfl rfl
    (Settings.faults_of_load hreload) (tenantRequest "s1")
  refine ⟨s, tenants "s1", .ofSettings s, ts, c, hload, rfl, Service.start_of_storeless rfl _,
    hreload, h, hts, hsent, ?_, ?_⟩
  · rw [live, hc]
    decide +kernel
  · rw [live, hc]
    decide +kernel

end Backlog

end TrafficRouting
