import TrafficRouting.Command.Run
import TrafficRouting.Proofs.Alteration.Accepted
import TrafficRouting.Proofs.ControlPlane.Durable
import TrafficRouting.Proofs.Json.Reader
import TrafficRouting.Proofs.Json.Same
import TrafficRouting.Proofs.Serving.OwnTypes
import TrafficRouting.Proofs.Store.Frame

/-!
# TrafficRouting.Proofs.Command.Agreement — commands that share nothing but their files

Each command starts from the files alone: the settings and the store.  A dry run shows what applying
the request leads to, and changes nothing; printing afterwards shows what was applied if it was
written, and what was printed before if it was not (`commands_agree`).  What a command shows is what
the JSON text that it prints stands for, however its members are ordered.
-/

namespace TrafficRouting

/-! ### What is printed -/

theorem Definition.distinct_toJson (d : Definition) : d.toJson.Distinct := by
  have hkeys : (d.props.entries.map fun e => (e.1, Json.string e.2)).map Prod.fst =
      d.props.keys := by
    rw [List.map_map]
    rfl
  refine ⟨by simp, trivial, ⟨hkeys ▸ d.props.nodup, ?_⟩, trivial⟩
  refine Json.distinctMembers_iff.mpr fun m hm => ?_
  obtain ⟨e, -, rfl⟩ := List.mem_map.mp hm
  trivial

theorem distinct_definitionsToJson (ds : Dict Definition) : (definitionsToJson ds).Distinct := by
  have hkeys : (ds.entries.map fun e => (e.1, e.2.toJson)).map Prod.fst = ds.keys := by
    rw [List.map_map]
    rfl
  refine ⟨hkeys ▸ ds.nodup, Json.distinctMembers_iff.mpr fun m hm => ?_⟩
  obtain ⟨e, -, rfl⟩ := List.mem_map.mp hm
  exact e.2.distinct_toJson

theorem Strategy.distinct_toJson (s : Strategy) : s.toJson.Distinct := by
  have hlabels : (Json.array (s.labels.toList.map .string)).Distinct := by
    refine Json.distinctItems_iff.mpr fun j hj => ?_
    obtain ⟨label, -, rfl⟩ := List.mem_map.mp hj
    trivial
  rw [toJson]
  cases s.loadBalancer with
  | none => exact ⟨by simp, trivial, trivial, hlabels, trivial⟩
  | some b => exact ⟨by simp, trivial, trivial, trivial, hlabels, trivial⟩

theorem Rulebook.distinct_toJson (r : Rulebook) : r.toJson.Distinct := by
  have hstrategies : (Json.array (r.strategies.map (·.toJson))).Distinct := by
    refine Json.distinctItems_iff.mpr fun j hj => ?_
    obtain ⟨s, -, rfl⟩ := List.mem_map.mp hj
    exact s.distinct_toJson
  exact ⟨by simp, hstrategies, distinct_definitionsToJson _, distinct_definitionsToJson _, trivial⟩

theorem Persisted.distinct_toJson (p : Persisted) : p.toJson.Distinct := by
  cases p with
  | skipped => exact ⟨by simp, trivial, trivial⟩
  | written => exact ⟨by simp, trivial, trivial⟩
  | failed reason => exact ⟨by simp, trivial, trivial, trivial⟩

theorem Outcome.distinct_toJson (o : Outcome) (id : String) : (o.toJson id).Distinct :=
  ⟨by simp, trivial, trivial, trivial, o.persisted.distinct_toJson, trivial⟩

/-- What the printed text shows along keys. -/
def Run.shown? (r : Run) (path : List String) : Option Json :=
  (Json.read? r.output).bind (·.at? path)

namespace Command

variable {settings request : FilePath} {environment : Option String} {id : String}
  {files : FileTree} {s : Settings} {v : Service} {r : Rulebook} {run : Run}

theorem shown?_printed (h : run.output = printed r) : run.shown? [] = some r.toJson := by
  rw [Run.shown?, h, printed, Json.read?_pretty]
  rfl

theorem shown?_printedOutcome {o : Outcome} (h : run.output = printedOutcome id o r) :
    run.shown? ["configuration"] = some r.toJson.sorted ∧
      run.shown? ["outcome", "persisted", "status"] =
        (o.persisted.toJson.member? "status").map Json.sorted := by
  have hdistinct : (Json.object [("outcome", o.toJson id), ("configuration", r.toJson)]).Distinct :=
    ⟨by simp, o.distinct_toJson id, r.distinct_toJson, trivial⟩
  simp only [Run.shown?, h, printedOutcome, Json.read?_pretty, Option.bind_some]
  constructor
  · rw [Json.at?_sorted _ hdistinct]
    rfl
  · rw [Json.at?_sorted _ hdistinct]
    show ((o.persisted.toJson.member? "status").bind (Json.at? [])).map Json.sorted = _
    cases o.persisted.toJson.member? "status" with
    | none => rfl
    | some j => rfl

theorem status_eq_written_iff (p : Persisted) :
    (p.toJson.member? "status").map Json.sorted = some (.string "written") ↔ p = .written := by
  cases p with
  | skipped => simp [Persisted.toJson, Json.member?, Json.sorted]
  | written => simp [Persisted.toJson, Json.member?, Json.sorted]
  | failed reason => simp [Persisted.toJson, Json.member?, Json.sorted]

/-! ### Starting -/

theorem service_eq_ok_iff {c : Command} :
    (c.prepare environment files).service = .ok v ↔
      ∃ s, Settings.load files c.settings = .ok s ∧
        (Log.Filter.choose? environment s.observability.logLevel).isSome ∧
        Service.start s files = .ok v := by
  unfold prepare
  cases hload : Settings.load files c.settings with
  | error e => simp
  | ok s =>
    cases hfilter : Log.Filter.choose? environment s.observability.logLevel with
    | none => simp [hfilter]
    | some f => simp [hfilter, mapError_eq_ok_iff]

/-- Starting depends only on the settings and on what the store holds. -/
theorem prepare_congr {c : Command} {files' : FileTree}
    (hsettings : Settings.load files' c.settings = Settings.load files c.settings)
    (hstored : ∀ s, Settings.load files c.settings = .ok s →
      Service.stored s files' = Service.stored s files) :
    c.prepare environment files' = c.prepare environment files := by
  unfold prepare
  rw [hsettings]
  cases hload : Settings.load files c.settings with
  | error e => rfl
  | ok s => simp only [Service.startEvents, Service.start, hstored s hload]

theorem stored_congr {files' : FileTree}
    (h : ∀ path, Service.storePath? s = some path →
      Store.load path files' = Store.load path files) :
    Service.stored s files' = Service.stored s files := by
  unfold Service.stored
  cases hpath : Service.storePath? s with
  | none => rfl
  | some path =>
    dsimp only
    rw [h path hpath]

/-- Settings that are not at the places of the store load as before. -/
theorem load_of_frame {path : FilePath} {files' : FileTree} (h : Store.Frame path files files')
    (hload : Settings.load files settings = .ok s)
    (hplace : files.locate settings ≠ .ok (path.place files.here))
    (htemporary : files.locate settings ≠ .ok (path.temporary.place files.here)) :
    Settings.load files' settings = Settings.load files settings := by
  obtain ⟨s', hdocument, -⟩ := bind_eq_ok_iff.mp hload
  obtain ⟨text, hread, -⟩ := bind_eq_ok_iff.mp hdocument
  rw [mapError_eq_ok_iff] at hread
  have hread' := h.readText hread hplace htemporary
  rw [Settings.load, Settings.load, loadDocument, loadDocument, hread, hread']

/-! ### Running -/

theorem run_of_error {c : Command} {e : Failure}
    (h : (c.prepare environment files).service = .error e) (id : String) :
    c.run environment id files =
      { begun (c.prepare environment files) files with failure := some e } := by
  unfold Command.run
  dsimp only
  rw [h]

theorem run_of_ok {c : Command} (h : (c.prepare environment files).service = .ok v)
    (id : String) :
    c.run environment id files = act id v (begun (c.prepare environment files) files) c.action := by
  unfold Command.run
  dsimp only
  rw [h]

theorem act_print (v : Service) (id : String) (run : Run) :
    act id v run .print = { run with output := printed v.live.rulebook } := by
  unfold act
  rfl

theorem act_alter_of_error {e : LoadError} (v : Service) (id : String) (run : Run)
    (h : loadRequest run.files request = .error e) (dryRun : Bool) :
    act id v run (.alter request dryRun) = { run with failure := some (.load e) } := by
  unfold act
  dsimp only
  rw [h]

theorem act_alter_of_ok {segments : List Segment} (v : Service) (id : String) (run : Run)
    (h : loadRequest run.files request = .ok segments) (dryRun : Bool) :
    act id v run (.alter request dryRun) =
      if dryRun then preview v segments run else execute v id segments run := by
  unfold act
  dsimp only
  rw [h]

/-- A refused request is refused alike by a dry run, and changes no file. -/
theorem alter_of_refused {segments : List Segment} {e : Refusal}
    (h : Alteration.preview v.known v.live.rulebook segments = .error e) (id : String) (run : Run) :
    (preview v segments run).failure = some (.refused e) ∧
      (execute v id segments run).failure = some (.refused e) ∧
      (preview v segments run).output = run.output ∧
      (execute v id segments run).output = run.output ∧
      (preview v segments run).files = run.files ∧
      (execute v id segments run).files = run.files := by
  simp [preview, execute, Alteration.execute, h]

/-- An accepted request leads to the rulebook that a dry run shows. -/
theorem alter_of_accepted {segments : List Segment}
    (h : Alteration.preview v.known v.live.rulebook segments = .ok r) (id : String) (run : Run) :
    (preview v segments run).failure = run.failure ∧
      (preview v segments run).output = printed r ∧
      (preview v segments run).files = run.files ∧
      (execute v id segments run).failure = run.failure ∧
      (execute v id segments run).files = (Alteration.keep v.sink r run.files).2 ∧
      ∃ o, (execute v id segments run).output = printedOutcome id o r ∧
        o.persisted = (Alteration.keep v.sink r run.files).1 := by
  simp only [preview, execute, Alteration.execute, h, true_and]
  exact ⟨_, rfl, rfl⟩

/-- What a dry run and an application of a request come to: either both fail in the same way and
leave the files, or both lead to the same rulebook, and the application goes on to the store. -/
theorem alter_cases (settings request : FilePath) (environment : Option String)
    (dryId id : String) (files : FileTree) {dry real : Run}
    (hdry : dry = Command.run ⟨settings, .alter request true⟩ environment dryId files)
    (hreal : real = Command.run ⟨settings, .alter request false⟩ environment id files) :
    (∃ e, dry.failure = some e ∧ real.failure = some e ∧ dry.output = "" ∧ real.output = "" ∧
      dry.files = files ∧ real.files = files) ∨
    ∃ v segments r o, (prepare ⟨settings, .print⟩ environment files).service = .ok v ∧
      Alteration.preview v.known v.live.rulebook segments = .ok r ∧
      dry.failure = none ∧ dry.output = printed r ∧ dry.files = files ∧
      real.failure = none ∧ real.output = printedOutcome id o r ∧
      o.persisted = (Alteration.keep v.sink r files).1 ∧
      real.files = (Alteration.keep v.sink r files).2 := by
  have hservice : ∀ b, (prepare ⟨settings, .alter request b⟩ environment files).service =
      (prepare ⟨settings, .print⟩ environment files).service := fun _ => rfl
  cases hv : (prepare ⟨settings, .print⟩ environment files).service with
  | error e =>
    replace hdry := hdry.trans (run_of_error ((hservice true).trans hv) dryId)
    replace hreal := hreal.trans (run_of_error ((hservice false).trans hv) id)
    subst hdry hreal
    exact Or.inl ⟨e, rfl, rfl, rfl, rfl, rfl, rfl⟩
  | ok v =>
    have hstart : ∀ id b, Command.run ⟨settings, .alter request b⟩ environment id files =
        act id v (begun (prepare ⟨settings, .print⟩ environment files) files) (.alter request b) :=
      fun id b => run_of_ok ((hservice b).trans hv) id
    generalize hbegun : begun (prepare ⟨settings, .print⟩ environment files) files = run at hstart
    obtain ⟨hfiles, hempty, hfine⟩ : run.files = files ∧ run.output = "" ∧ run.failure = none := by
      subst hbegun
      exact ⟨rfl, rfl, rfl⟩
    rw [hstart] at hdry hreal
    cases hload : loadRequest run.files request with
    | error e =>
      rw [act_alter_of_error v dryId run hload] at hdry
      rw [act_alter_of_error v id run hload] at hreal
      subst hdry hreal
      exact Or.inl ⟨.load e, rfl, rfl, hempty, hempty, hfiles, hfiles⟩
    | ok segments =>
      rw [act_alter_of_ok v dryId run hload] at hdry
      rw [act_alter_of_ok v id run hload] at hreal
      cases hpreview : Alteration.preview v.known v.live.rulebook segments with
      | error e =>
        subst hdry hreal
        obtain ⟨hdry, hreal, hshown, hnothing, hsame, hkept⟩ := alter_of_refused hpreview id run
        exact Or.inl ⟨.refused e, hdry, hreal, hshown.trans hempty, hnothing.trans hempty,
          hsame.trans hfiles, hkept.trans hfiles⟩
      | ok r =>
        subst hdry hreal
        obtain ⟨hdry, hprinted, hsame, hreal, hkept, o, houtput, hpersisted⟩ :=
          alter_of_accepted hpreview id run
        rw [hfiles] at hsame hkept hpersisted
        exact Or.inr ⟨v, segments, r, o, rfl, hpreview, hdry.trans hfine, hprinted, hsame,
          hreal.trans hfine, houtput, hpersisted, hkept⟩

/-- An application shows its rulebook, and says that the store has it if so. -/
theorem shown?_of_kept {segments : List Segment}
    (hservice : (prepare ⟨settings, .alter request false⟩ environment files).service = .ok v)
    (hload : loadRequest files request = .ok segments)
    (hpreview : Alteration.preview v.known v.live.rulebook segments = .ok r)
    (hkept : (Alteration.keep v.sink r files).1 = .written) (id : String) :
    let run := Command.run ⟨settings, .alter request false⟩ environment id files
    run.shown? ["configuration"] = some r.toJson.sorted ∧
      run.shown? ["outcome", "persisted", "status"] = some (.string "written") := by
  intro real
  have hrun : real = _ := run_of_ok hservice id
  generalize hbegun : begun (prepare ⟨settings, .alter request false⟩ environment files) files = run
    at hrun
  have hfiles : run.files = files := by
    subst hbegun
    rfl
  have hact : act id v run (.alter request false) = execute v id segments run :=
    act_alter_of_ok v id run (hfiles.symm ▸ hload) false
  obtain ⟨-, -, -, -, -, o, houtput, hpersisted⟩ := alter_of_accepted hpreview id run
  obtain ⟨hconfiguration, hstatus⟩ := shown?_printedOutcome houtput
  rw [hpersisted, hfiles, hkept] at hstatus
  rw [hrun, hact]
  exact ⟨hconfiguration, hstatus.trans ((status_eq_written_iff _).mpr rfl)⟩

/-! ### Printing afterwards -/

/-- Printing shows the live rulebook. -/
theorem print_of_service (h : (prepare ⟨settings, .print⟩ environment files).service = .ok v)
    (id : String) :
    (Command.run ⟨settings, .print⟩ environment id files).failure = none ∧
      (Command.run ⟨settings, .print⟩ environment id files).output = printed v.live.rulebook := by
  rw [run_of_ok h id, act_print]
  exact ⟨rfl, rfl⟩

theorem print_congr {files' : FileTree}
    (h : prepare ⟨settings, .print⟩ environment files' =
      prepare ⟨settings, .print⟩ environment files) (id' id : String) :
    Command.run ⟨settings, .print⟩ environment id' files' =
      { Command.run ⟨settings, .print⟩ environment id files with files := files' } := by
  have hfiles : ∀ {x y : Run}, x = y → { x with files := files' } = { y with files := files' } :=
    fun h => h ▸ rfl
  have hservice := congrArg Prepared.service h
  cases hv : (prepare ⟨settings, .print⟩ environment files).service with
  | error e =>
    calc Command.run ⟨settings, .print⟩ environment id' files'
        = { begun (prepare ⟨settings, .print⟩ environment files) files' with
            failure := some e } := by
          rw [run_of_error (hservice.trans hv) id', h]
      _ = _ := (hfiles (run_of_error hv id)).symm
  | ok v =>
    calc Command.run ⟨settings, .print⟩ environment id' files'
        = act id' v (begun (prepare ⟨settings, .print⟩ environment files) files') .print := by
          rw [run_of_ok (hservice.trans hv) id', h]
      _ = { act id v (begun (prepare ⟨settings, .print⟩ environment files) files) .print with
            files := files' } := by
          rw [act_print, act_print]
          rfl
      _ = _ := (hfiles (run_of_ok hv id)).symm

/-! ### What becomes of the store -/

/-- The sink of a service that starts is its store, if the settings have one. -/
theorem keep_cases {t : FileTree} (hstart : Service.start s t = .ok v) (r : Rulebook) :
    Alteration.keep v.sink r t = (.skipped, t) ∨
    ∃ path, Service.storePath? s = some path ∧
      Alteration.keep v.sink r t = Alteration.keep (some (.file path)) r t := by
  obtain ⟨found, -, rfl⟩ := Service.start_eq_ok hstart
  rw [Service.sink]
  cases hpath : Service.storePath? s with
  | none => exact Or.inl rfl
  | some path => exact Or.inr ⟨path, rfl, rfl⟩

theorem frame_keep {path : FilePath} (hp : path.Plain) (r : Rulebook) (files : FileTree) :
    Store.Frame path files (Alteration.keep (some (.file path)) r files).2 :=
  Store.frame_persist hp r true files

theorem load_of_not_kept {path : FilePath} (hp : path.Plain) (hfiles : files.WellFormed)
    (h : (Alteration.keep (some (.file path)) r files).1 ≠ .written) :
    Store.load path (Alteration.keep (some (.file path)) r files).2 = Store.load path files := by
  cases hrun : (Store.persist path r true).run files with | mk answer t'
  have hkept : Alteration.keep (some (.file path)) r files = (Alteration.persisted answer, t') := by
    rw [Alteration.keep, Sink.file]
    simp only [hrun]
  cases answer with
  | ok => exact absurd (by rw [hkept]; rfl) h
  | error e =>
    rw [hkept]
    exact Store.load_of_persist_error hp hfiles hrun

/-- What was kept as written is what the next start takes. -/
theorem start_of_kept {path : FilePath} (hfaults : s.faults = [])
    (hstart : Service.start s files = .ok v) {segments : List Segment}
    (hpreview : Alteration.preview v.known v.live.rulebook segments = .ok r)
    (hpath : Service.storePath? s = some path)
    (hkept : (Alteration.keep (some (.file path)) r files).1 = .written) :
    Service.start s (Alteration.keep (some (.file path)) r files).2 =
      .ok ⟨s, .first r, s.knownTypes⟩ := by
  have hload := ControlPlane.load_keep hkept
  have hsound := Service.start_sound hfaults hstart
  obtain ⟨found, -, rfl⟩ := Service.start_eq_ok hstart
  obtain ⟨hcheck, rfl⟩ := Alteration.preview_eq_ok_iff.mp hpreview
  unfold Service.storePath? at hpath
  split at hpath
  · rename_i henabled
    obtain rfl := Option.some.inj hpath
    exact Service.start_of_load henabled hload (Alteration.sound_merge_delta hsound hcheck)
  · simp at hpath

/-- **Commands agree**: a dry run changes no file, and fails as the request does or shows what it
leads to; printing afterwards shows this if the store has it, and else what it showed before. -/
theorem commands_agree (dryId beforeId afterId : String) {dry real before after : Run}
    (hfiles : files.WellFormed)
    (hsettings : Settings.load files settings = .ok s)
    (hstore : ∀ path, Service.storePath? s = some path → path.Plain ∧
      files.locate settings ≠ .ok (path.place files.here) ∧
      files.locate settings ≠ .ok (path.temporary.place files.here))
    (hdry : dry = Command.run ⟨settings, .alter request true⟩ environment dryId files)
    (hreal : real = Command.run ⟨settings, .alter request false⟩ environment id files)
    (hbefore : before = Command.run ⟨settings, .print⟩ environment beforeId files)
    (hafter : after = Command.run ⟨settings, .print⟩ environment afterId real.files) :
    (dry.files = files ∧ dry.failure = real.failure ∧
      ((dry.failure ≠ none ∧ dry.output = "" ∧ real.output = "") ∨
        (dry.failure = none ∧ ∃ shown applied, dry.shown? [] = some shown ∧
          real.shown? ["configuration"] = some applied ∧ shown.Same applied))) ∧
    (real.shown? ["outcome", "persisted", "status"] = some (.string "written") →
      after.failure = none ∧ ∃ shown applied, after.shown? [] = some shown ∧
        real.shown? ["configuration"] = some applied ∧ shown.Same applied) ∧
    (real.shown? ["outcome", "persisted", "status"] ≠ some (.string "written") →
      after = { before with files := real.files }) := by
  rcases alter_cases settings request environment dryId id files hdry hreal with
    ⟨e, hdry, hreal, hshown, hnothing, hsame, hkept⟩ |
    ⟨v, segments, r, o, hservice, hpreview, hdry, hprinted, hsame, hreal, houtput, hpersisted,
      hkept⟩
  · have hnone : ∀ path, real.shown? path = none := by
      intro path
      rw [Run.shown?, hnothing]
      rfl
    refine ⟨⟨hsame, hdry.trans hreal.symm, Or.inl ⟨by simp [hdry], hshown, hnothing⟩⟩, ?_, ?_⟩
    · intro hwritten
      simp [hnone] at hwritten
    · intro _
      rw [hafter, hbefore, hkept]
      exact print_congr rfl afterId beforeId
  · obtain ⟨hconfiguration, hstatus⟩ := shown?_printedOutcome houtput
    have happlied := Json.same_sorted r.toJson r.distinct_toJson
    obtain ⟨s', hload, hfilter, hstart⟩ := service_eq_ok_iff.mp hservice
    obtain rfl := Except.ok.inj (hsettings.symm.trans hload)
    refine ⟨⟨hsame, hdry.trans hreal.symm, Or.inr ⟨hdry, r.toJson, _, shown?_printed hprinted,
      hconfiguration, happlied⟩⟩, ?_, ?_⟩
    · intro hwritten
      rw [hstatus, status_eq_written_iff, hpersisted] at hwritten
      rcases keep_cases hstart r with hskipped | ⟨path, hpath, hkeep⟩
      · rw [hskipped] at hwritten
        simp at hwritten
      · rw [hkeep] at hwritten hkept
        obtain ⟨hplain, hplace, htemporary⟩ := hstore path hpath
        have hframe := frame_keep hplain r files
        have hload' := load_of_frame hframe hsettings hplace htemporary
        have hstart' := start_of_kept (Settings.faults_of_load hsettings) hstart hpreview hpath
          hwritten
        rw [hkept] at hafter
        have hservice' : (prepare ⟨settings, .print⟩ environment _).service = .ok _ :=
          service_eq_ok_iff.mpr ⟨s, hload'.trans hsettings, hfilter, hstart'⟩
        obtain ⟨hnone, hshown⟩ := print_of_service hservice' afterId
        refine ⟨by rw [hafter, hnone], r.toJson, _, ?_, hconfiguration, happlied⟩
        exact shown?_printed (hafter ▸ hshown)
    · intro hnot
      rw [hstatus, Ne, status_eq_written_iff, hpersisted] at hnot
      rw [hafter, hbefore, hkept]
      refine print_congr ?_ afterId beforeId
      rcases keep_cases hstart r with hskipped | ⟨path, hpath, hkeep⟩
      · rw [hskipped]
      · rw [hkeep] at hnot ⊢
        obtain ⟨hplain, hplace, htemporary⟩ := hstore path hpath
        have hframe := frame_keep hplain r files
        have hload' := load_of_frame hframe hsettings hplace htemporary
        refine prepare_congr hload' fun s' hs' => stored_congr fun path' hpath' => ?_
        obtain rfl := Except.ok.inj (hsettings.symm.trans hs')
        obtain rfl := Option.some.inj (hpath.symm.trans hpath')
        exact load_of_not_kept hplain hfiles hnot

/-- The text of settings with a store in a directory that is not there yet. -/
def shopSettings : String := "[persistence]
enabled = true
path = 'meta/rules.toml'
[traffic.algorithms.a1]
type = 'SQL_HINT'
[[traffic.strategies]]
name = 's1'
algorithm_name = 'a1'
labels = ['b', 'a']
"

/-- The text of a request for them. -/
def shopRequest : String := "[[segments]]
name = 's1'
labels = ['z', 'a']
[segments.algorithm]
name = 'SQL_MATCH'
"

def shopFiles : FileTree where
  nodes := .ofList [(["app.toml"], .file shopSettings.toUTF8),
    (["request.toml"], .file shopRequest.toUTF8)]

/-- The settings that the text gives. -/
def shop : Settings where
  persistence := ⟨true, "meta/rules.toml"⟩
  traffic := {
    strategies := [{ name := "s1", algorithm := "a1", labels := .ofList ["b", "a"] }]
    algorithms := .ofList [("a1", { type := "SQL_HINT" })] }

/-- The request that the text gives. -/
def shopSegments : List Segment :=
  [{ name := "s1", labels := .ofList ["z", "a"], algorithm := { type := "SQL_MATCH" } }]

theorem wellFormed_shopFiles : shopFiles.WellFormed := by
  have hfirst : ({} : FileTree).write (.ofText "app.toml") shopSettings.toUTF8 =
      .ok { nodes := .ofList [(["app.toml"], .file shopSettings.toUTF8)] } := rfl
  have hsecond : FileTree.write { nodes := .ofList [(["app.toml"], .file shopSettings.toUTF8)] }
      (.ofText "request.toml") shopRequest.toUTF8 = .ok shopFiles := rfl
  exact (FileTree.wellFormed_empty.write hfirst).write hsecond

theorem load_shop : Settings.load shopFiles (.ofText "app.toml") = .ok shop :=
  toOption_eq_some_iff.mp (by decide +kernel)

theorem loadRequest_shop : loadRequest shopFiles (.ofText "request.toml") = .ok shopSegments :=
  toOption_eq_some_iff.mp (by decide +kernel)

/-- What the request leads to, with the members of objects in order. -/
def shopDocument : Json := .object [
  ("algorithms", .object [
    ("a1", .object [("props", .object []), ("type", .string "SQL_HINT")]),
    ("s1_sql_match", .object [("props", .object []), ("type", .string "SQL_MATCH")])]),
  ("load_balancers", .object []),
  ("strategies", .array [
    .object [("algorithm_name", .string "s1_sql_match"),
      ("labels", .array [.string "z", .string "a"]), ("name", .string "s1")]])]

theorem sorted_shop : (shop.traffic.merge (delta shopSegments)).toJson.sorted = shopDocument := by
  show Json.sorted (.object [
    ("strategies", .array [.object [("name", .string "s1"),
      ("algorithm_name", .string "s1_sql_match"),
      ("labels", .array [.string "z", .string "a"])]]),
    ("algorithms", .object [
      ("a1", .object [("type", .string "SQL_HINT"), ("props", .object [])]),
      ("s1_sql_match", .object [("type", .string "SQL_MATCH"), ("props", .object [])])]),
    ("load_balancers", .object [])]) = shopDocument
  simp [shopDocument, Json.sorted, Json.sortedMembers, Json.sortedItems, List.mergeSort,
    List.MergeSort.Internal.splitInTwo]

/-- The request is applied, and the store has what came out. -/
theorem shop_written :
    let run := Command.run ⟨.ofText "app.toml", .alter (.ofText "request.toml") false⟩ none "1"
      shopFiles
    run.shown? ["configuration"] = some shopDocument ∧
      run.shown? ["outcome", "persisted", "status"] = some (.string "written") := by
  have hstored : Service.stored shop shopFiles = .ok none :=
    toOption_eq_some_iff.mp (by decide +kernel)
  have hstart : Service.start shop shopFiles =
      .ok ⟨shop, .first shop.traffic, shop.knownTypes⟩ := by
    rw [Service.start, hstored]
    rfl
  have hcheck : Alteration.check shop.knownTypes shop.traffic shopSegments = .ok () :=
    toOption_eq_some_iff.mp (by decide +kernel)
  have hpreview : Alteration.preview shop.knownTypes shop.traffic shopSegments =
      .ok (shop.traffic.merge (delta shopSegments)) :=
    Alteration.preview_eq_ok_iff.mpr ⟨hcheck, rfl⟩
  have hkept : (Alteration.keep (some (.file (.ofText "meta/rules.toml")))
      (shop.traffic.merge (delta shopSegments)) shopFiles).1 = .written := by
    decide +kernel
  rw [← sorted_shop]
  exact shown?_of_kept (service_eq_ok_iff.mpr ⟨shop, load_shop, by decide +kernel, hstart⟩)
    loadRequest_shop hpreview hkept "1"

/-- The store is apart from the settings, whether it is there yet or not. -/
theorem shop_apart (path : FilePath) (hpath : Service.storePath? shop = some path) :
    path.Plain ∧
      shopFiles.locate (.ofText "app.toml") ≠ .ok (path.place shopFiles.here) ∧
      shopFiles.locate (.ofText "app.toml") ≠ .ok (path.temporary.place shopFiles.here) := by
  have hshop : Service.storePath? shop = some (.ofText "meta/rules.toml") := rfl
  have hlocate : shopFiles.locate (.ofText "app.toml") = .ok ["app.toml"] :=
    toOption_eq_some_iff.mp (by decide +kernel)
  obtain rfl := Option.some.inj (hshop.symm.trans hpath)
  rw [hlocate]
  refine ⟨by decide +kernel, fun h => ?_, fun h => ?_⟩
  · exact absurd (Except.ok.inj h) (by decide +kernel)
  · exact absurd (Except.ok.inj h) (by decide +kernel)

/-- What is written into a directory that is not there yet is printed afterwards. -/
theorem commands_agree_shop :
    shopFiles.WellFormed ∧ Settings.load shopFiles (.ofText "app.toml") = .ok shop ∧
    (∀ path, Service.storePath? shop = some path → path.Plain ∧
      shopFiles.locate (.ofText "app.toml") ≠ .ok (path.place shopFiles.here) ∧
      shopFiles.locate (.ofText "app.toml") ≠ .ok (path.temporary.place shopFiles.here)) ∧
    ∃ real after : Run,
      real = Command.run ⟨.ofText "app.toml", .alter (.ofText "request.toml") false⟩ none "1"
        shopFiles ∧
      after = Command.run ⟨.ofText "app.toml", .print⟩ none "2" real.files ∧
      real.shown? ["outcome", "persisted", "status"] = some (.string "written") ∧
      real.shown? ["configuration"] = some shopDocument ∧
      after.failure = none ∧ ∃ shown, after.shown? [] = some shown ∧ shown.Same shopDocument := by
  obtain ⟨hconfiguration, hwritten⟩ := shop_written
  generalize hreal : Command.run ⟨.ofText "app.toml", .alter (.ofText "request.toml") false⟩ none
    "1" shopFiles = real at hconfiguration hwritten
  generalize hafter : Command.run ⟨.ofText "app.toml", .print⟩ none "2" real.files = after
  obtain ⟨-, hagree, -⟩ := commands_agree "" "" "2" wellFormed_shopFiles load_shop shop_apart rfl
    hreal.symm rfl hafter.symm
  obtain ⟨hfine, shown, applied, hshown, happlied, hsame⟩ := hagree hwritten
  obtain rfl := Option.some.inj (hconfiguration.symm.trans happlied)
  exact ⟨wellFormed_shopFiles, load_shop, shop_apart, real, after, rfl, hafter.symm, hwritten,
    hconfiguration, hfine, shown, hshown, hsame⟩

end Command

end TrafficRouting
