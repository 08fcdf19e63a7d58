import Mathlib
import TrafficRouting.Proofs.FileTree
import TrafficRouting.Proofs.Toml.Edit
import TrafficRouting.Segment.Document
import TrafficRouting.Settings.Load
import TrafficRouting.Store

/-!
# TrafficRouting.Proofs.Settings.Tolerant — what loading a document does not depend on

Settings, requests and the documents of stores are structures that hold structures, lists and
dictionaries.  The formats below say of each structure which fields it has and what their defaults
are; everything else in its table is not looked at, and the order of its keys does not count.  Each
decoder tolerates the edits of its format (`Settings.tolerates`, `tolerates_request`,
`Store.tolerates`), at every depth, while dictionaries keep every key (`Settings.keeps`,
`keeps_request`, `Store.keeps`).  `loading_is_tolerant` says so of files.
-/

namespace TrafficRouting

open Toml

/-! ### Formats -/

/-- A definition, which names its type under `key`. -/
def Definition.format (key : String) : Format := [
  { name := key },
  { name := "props", idle := fun v => dict text v = .ok {} }]

/-- A strategy.  To have no load balancer is the default, but no value says so. -/
def Strategy.format : Format := [
  { name := "name" },
  { name := "algorithm_name" },
  { name := "load_balancer_name" },
  { name := "labels", idle := fun v => names v = .ok {} }]

def Rulebook.format : Format := [
  { name := "strategies"
    edits := ItemEdit (Edit Strategy.format)
    idle := fun v => list Strategy.decode v = .ok [] },
  { name := "algorithms"
    edits := EntryEdit (Edit (Definition.format "type"))
    idle := fun v => dict Definition.decode v = .ok {} },
  { name := "load_balancers"
    edits := EntryEdit (Edit (Definition.format "type"))
    idle := fun v => dict Definition.decode v = .ok {} }]

def Observability.format : Format := [
  { name := "log_level", idle := fun v => text v = .ok "info" },
  { name := "metrics_enabled", idle := fun v => flag v = .ok false },
  { name := "metrics_address", idle := fun v => text v = .ok "0.0.0.0:9090" }]

def ExtraTypes.format : Format := [
  { name := "algorithms", idle := fun v => list text v = .ok [] },
  { name := "load_balancers", idle := fun v => list text v = .ok [] }]

def Persistence.format : Format := [
  { name := "enabled", idle := fun v => flag v = .ok false },
  { name := "path", idle := fun v => text v = .ok "metadata/traffic_rule.toml" }]

def Settings.format : Format := [
  { name := "observability"
    edits := Edit Observability.format
    idle := fun v => Observability.decode v = .ok {} },
  { name := "algorithm_types"
    edits := Edit ExtraTypes.format
    idle := fun v => ExtraTypes.decode v = .ok {} },
  { name := "persistence"
    edits := Edit Persistence.format
    idle := fun v => Persistence.decode v = .ok {} },
  { name := "traffic"
    edits := Edit Rulebook.format
    idle := fun v => Rulebook.decode v = .ok {} }]

def Segment.format : Format := [
  { name := "name" },
  { name := "labels", idle := fun v => names v = .ok {} },
  { name := "algorithm", edits := Edit (Definition.format "name") },
  { name := "load_balancer", edits := Edit (Definition.format "name") }]

def requestFormat : Format := [
  { name := "segments"
    edits := ItemEdit (Edit Segment.format)
    idle := fun v => list Segment.decode v = .ok [] }]

/-- The document of a store. -/
def Store.format : Format := [
  { name := "traffic"
    edits := Edit Rulebook.format
    idle := fun v => Rulebook.decode v = .ok {} }]

/-! ### Edits that do not count -/

theorem tolerates_definition {key : String} (hkey : key ≠ "props") (name : String) :
    Tolerates (Edit (Definition.format key)) (record name default (definitionSlots key)) := by
  refine tolerates_record ?_ ?_ ?_
  · exact .cons (fits tolerates_nothing) (.cons (fits_may tolerates_nothing rfl) .nil)
  · simpa [definitionSlots, Slot.need, Slot.may] using hkey
  · simp [definitionSlots, Slot.need, Slot.may, commute_map]

theorem Definition.tolerates : Tolerates (Edit (format "type")) decode :=
  tolerates_definition (by decide) _

theorem tolerates_requested : Tolerates (Edit (Definition.format "name")) decodeRequested :=
  tolerates_definition (by decide) _

theorem Strategy.tolerates : Tolerates (Edit format) decode := by
  refine tolerates_record ?_ (by decide) ?_
  · exact .cons (fits tolerates_nothing) (.cons (fits tolerates_nothing)
      (.cons (fits tolerates_nothing) (.cons (fits_may tolerates_nothing rfl) .nil)))
  · simp [slots, Slot.need, Slot.may, commute_map]

theorem Rulebook.tolerates : Tolerates (Edit format) decode := by
  refine tolerates_record ?_ (by decide) ?_
  · exact .cons (fits_may Strategy.tolerates.list rfl)
      (.cons (fits_may Definition.tolerates.dict rfl)
        (.cons (fits_may Definition.tolerates.dict rfl) .nil))
  · simp [slots, Slot.may, commute_map]

theorem Observability.tolerates : Tolerates (Edit format) decode := by
  refine tolerates_record ?_ (by decide) ?_
  · exact .cons (fits_may tolerates_nothing rfl) (.cons (fits_may tolerates_nothing rfl)
      (.cons (fits_may tolerates_nothing rfl) .nil))
  · simp [Slot.may, commute_map]

theorem ExtraTypes.tolerates : Tolerates (Edit format) decode := by
  refine tolerates_record ?_ (by decide) ?_
  · exact .cons (fits_may tolerates_nothing rfl) (.cons (fits_may tolerates_nothing rfl) .nil)
  · simp [Slot.may, commute_map]

theorem Persistence.tolerates : Tolerates (Edit format) decode := by
  refine tolerates_record ?_ (by decide) ?_
  · exact .cons (fits_may tolerates_nothing rfl) (.cons (fits_may tolerates_nothing rfl) .nil)
  · simp [Slot.may, commute_map]

theorem Settings.tolerates : Tolerates (Edit format) decode := by
  refine tolerates_record ?_ (by decide) ?_
  · exact .cons (fits_may Observability.tolerates rfl) (.cons (fits_may ExtraTypes.tolerates rfl)
      (.cons (fits_may Persistence.tolerates rfl) (.cons (fits_may Rulebook.tolerates rfl) .nil)))
  · simp [Slot.may, commute_map]

theorem Segment.tolerates : Tolerates (Edit format) decode := by
  refine tolerates_record ?_ (by decide) ?_
  · exact .cons (fits tolerates_nothing) (.cons (fits_may tolerates_nothing rfl)
      (.cons (fits tolerates_requested) (.cons (fits tolerates_requested) .nil)))
  · simp [Slot.need, Slot.may, commute_map]

theorem tolerates_request : Tolerates (Edit requestFormat) decodeRequest := by
  refine tolerates_record ?_ (by decide) ?_
  · exact .cons (fits_may Segment.tolerates.list rfl) .nil
  · simp

theorem Store.tolerates : Tolerates (Edit format) decode := by
  refine tolerates_record ?_ (by decide) ?_
  · exact .cons (fits_may Rulebook.tolerates rfl) .nil
  · simp

/-! ### Dictionaries, which keep every key -/

/-- The properties have every key of their table. -/
def Definition.Keeps (key : String) (v : Value) (d : Definition) : Prop :=
  Part (KeepsKeys fun w s => w = .string s) {} (v.field? (format key) "props") d.props

/-- Both dictionaries have every key of their tables. -/
structure Rulebook.Keeps (v : Value) (r : Rulebook) : Prop where
  algorithms : Part (KeepsKeys (Definition.Keeps "type")) {} (v.field? format "algorithms")
    r.algorithms
  loadBalancers : Part (KeepsKeys (Definition.Keeps "type")) {} (v.field? format "load_balancers")
    r.loadBalancers

def Settings.Keeps (v : Value) (s : Settings) : Prop :=
  Part Rulebook.Keeps {} (v.field? format "traffic") s.traffic

def Store.Keeps (v : Value) (r : Rulebook) : Prop :=
  Part Rulebook.Keeps {} (v.field? format "traffic") r

/-- What is asked for has every property of its table. -/
structure Segment.Keeps (v : Value) (s : Segment) : Prop where
  algorithm : ∃ w, v.field? format "algorithm" = some w ∧ Definition.Keeps "name" w s.algorithm
  loadBalancer : Part (fun w b => ∃ d, b = some d ∧ Definition.Keeps "name" w d) none
    (v.field? format "load_balancer") s.loadBalancer

def RequestKeeps (v : Value) (segments : List Segment) : Prop :=
  Part (fun w ss => ∃ vs, w = .array vs ∧ List.Forall₂ Segment.Keeps vs ss) []
    (v.field? requestFormat "segments") segments

variable {v : Value}

theorem eq_string_of_text {s : String} (h : text v = .ok s) : v = .string s := by
  cases v with
  | string t => exact congrArg Value.string (Except.ok.inj h)
  | _ => exact absurd h (by simp [text])

theorem keeps_definition {key name : String} {d : Definition} (hkey : key ≠ "props")
    (hv : v.Distinct) (h : record name default (definitionSlots key) v = .ok d) :
    d.Keeps key v := by
  have hslots : ((definitionSlots key).map (·.name)).Nodup := by
    simpa [definitionSlots, Slot.need, Slot.may] using hkey
  have hprops := (filled_of_record hslots h).part [_] [] (·.props) (fun _ _ => rfl)
    (by simp [Slot.need, spares_map])
  exact hprops.imp fun w hw ⟨m, hm, hd⟩ => hd ▸
    keepsKeys_of_dict (fun u s _ hs => eq_string_of_text hs) (hv.part? hw) hm

theorem Definition.keeps {d : Definition} (hv : v.Distinct) (h : decode v = .ok d) :
    d.Keeps "type" v :=
  keeps_definition (by decide) hv h

theorem keeps_requested {d : Definition} (hv : v.Distinct) (h : decodeRequested v = .ok d) :
    d.Keeps "name" v :=
  keeps_definition (by decide) hv h

theorem Rulebook.keeps {r : Rulebook} (hv : v.Distinct) (h : decode v = .ok r) : r.Keeps v := by
  have hfilled := filled_of_record (by decide) h
  constructor
  · have hpart := hfilled.part [_] [_] (·.algorithms) (fun _ _ => rfl)
      (by simp [Slot.may, spares_map])
    exact hpart.imp fun w hw ⟨m, hm, hr⟩ => hr ▸
      keepsKeys_of_dict (fun u d hu => Definition.keeps hu) (hv.part? hw) hm
  · have hpart := hfilled.part [_, _] [] (·.loadBalancers) (fun _ _ => rfl)
      (by simp [Slot.may, spares_map])
    exact hpart.imp fun w hw ⟨m, hm, hr⟩ => hr ▸
      keepsKeys_of_dict (fun u d hu => Definition.keeps hu) (hv.part? hw) hm

theorem Settings.keeps {s : Settings} (hv : v.Distinct) (h : decode v = .ok s) : s.Keeps v := by
  have hpart := (filled_of_record (by decide) h).part [_, _, _] [] (·.traffic) (fun _ _ => rfl)
    (by simp [Slot.may, spares_map])
  exact hpart.imp fun w hw ⟨r, hr, hs⟩ => hs ▸ Rulebook.keeps (hv.part? hw) hr

theorem Store.keeps {r : Rulebook} (hv : v.Distinct) (h : decode v = .ok r) : Store.Keeps v r := by
  have hpart := (filled_of_record (by decide) h).part [] [] (fun r : Rulebook => r)
    (fun _ _ => rfl) (by simp)
  exact hpart.imp fun w hw ⟨r, hr, hs⟩ => hs ▸ Rulebook.keeps (hv.part? hw) hr

theorem Segment.keeps {s : Segment} (hv : v.Distinct) (h : decode v = .ok s) : s.Keeps v := by
  have hfilled := filled_of_record (by decide) h
  constructor
  · obtain ⟨w, hw⟩ : ∃ w, v.field? format "algorithm" = some w :=
      hfilled.exists_of_required (List.mem_cons_of_mem _ (List.mem_cons_of_mem _
        List.mem_cons_self)) rfl
    have hpart : Part _ _ (v.field? format "algorithm") s.algorithm :=
      hfilled.part [_, _] [_] (·.algorithm) (fun _ _ => rfl)
        (by simp [Slot.may, Slot.need, spares_map])
    rw [hw] at hpart
    obtain ⟨d, hd, hs⟩ := hpart
    exact ⟨w, hw, hs ▸ keeps_requested (hv.part? hw) hd⟩
  · have hpart := hfilled.part [_, _, _] [] (·.loadBalancer) (fun _ _ => rfl)
      (by simp [Slot.may, Slot.need, spares_map])
    exact hpart.imp fun w hw ⟨d, hd, hs⟩ => ⟨d, hs, keeps_requested (hv.part? hw) hd⟩

theorem keeps_request {segments : List Segment} (hv : v.Distinct)
    (h : decodeRequest v = .ok segments) : RequestKeeps v segments := by
  have hpart := (filled_of_record (by decide) h).part [] [] (fun ss : List Segment => ss)
    (fun _ _ => rfl) (by simp)
  exact hpart.imp fun w hw ⟨ss, hss, hs⟩ => hs ▸
    exists_items_of_list (fun u s hu => Segment.keeps hu) (hv.part? hw) hss

/-! ### Files -/

/-- Both texts are documents, and edits of the format lead from the first to the second. -/
def Edited (format : Format) (s s' : String) : Prop :=
  ∃ fields fields', read s.toList = some fields ∧ read s'.toList = some fields' ∧
    Relation.ReflTransGen (Edit format) (.table fields) (.table fields')

variable {α : Type} {d : Decoder α} {format : Format} {s s' : String} {x : α} {t t' : FileTree}
  {path path' : FilePath}

theorem decodeDocument_of_edited (hd : Tolerates (Edit format) d) (h : Edited format s s')
    (hx : decodeDocument d s = .ok x) : decodeDocument d s' = .ok x := by
  obtain ⟨fields, fields', hread, hread', hedits⟩ := h
  rw [decodeDocument, hread] at hx
  rw [decodeDocument, hread']
  have hx' := mapError_eq_ok_iff.mp hx
  exact mapError_eq_ok_iff.mpr (hd.reflTransGen.decode (distinct_of_read hread) hedits hx')

theorem keeps_of_decodeDocument {Keeps : Value → α → Prop}
    (hkeeps : ∀ {v : Value} {x : α}, v.Distinct → d v = .ok x → Keeps v x)
    {fields : List (String × Value)} (hread : read s.toList = some fields)
    (hx : decodeDocument d s = .ok x) : Keeps (.table fields) x := by
  rw [decodeDocument, hread] at hx
  exact hkeeps (distinct_of_read hread) (mapError_eq_ok_iff.mp hx)

theorem loadDocument_eq_ok (hs : t.readText path = .ok s) (hx : decodeDocument d s = .ok x) :
    loadDocument d t path = .ok x :=
  bind_eq_ok_iff.mpr ⟨s, mapError_eq_ok_iff.mpr hs, mapError_eq_ok_iff.mpr hx⟩

theorem Store.load_eq_ok {r : Rulebook} (hs : t.readText path = .ok s)
    (hr : decodeDocument decode s = .ok r) : load path t = .ok (some r) := by
  obtain ⟨b, hb, -⟩ := bind_eq_ok_iff.mp hs
  obtain ⟨l, hl, -⟩ := bind_eq_ok_iff.mp hb
  have hexists : t.exists? path = true := by
    rw [FileTree.exists?, hl]
    rfl
  rw [load, if_pos hexists]
  exact bind_eq_ok_iff.mpr
    ⟨s, mapError_eq_ok_iff.mpr hs, map_eq_ok_iff.mpr ⟨r, mapError_eq_ok_iff.mpr hr, rfl⟩⟩

/-- **Loading is tolerant.**  A text that decodes decodes to the same after any edits of its format,
wherever it is loaded from, and its dictionaries have every key that stands in the text. -/
theorem loading_is_tolerant (hs : t.readText path = .ok s) (hs' : t'.readText path' = .ok s') :
    (∀ x, Edited Settings.format s s' → decodeDocument Settings.decode s = .ok x →
      decodeDocument Settings.decode s' = .ok x ∧
        Settings.load t' path' = Settings.load t path ∧
        ∀ fields, read s'.toList = some fields → x.Keeps (.table fields)) ∧
    (∀ x, Edited requestFormat s s' → decodeDocument decodeRequest s = .ok x →
      decodeDocument decodeRequest s' = .ok x ∧ loadRequest t' path' = loadRequest t path ∧
        ∀ fields, read s'.toList = some fields → RequestKeeps (.table fields) x) ∧
    (∀ x, Edited Store.format s s' → decodeDocument Store.decode s = .ok x →
      decodeDocument Store.decode s' = .ok x ∧ Store.load path' t' = Store.load path t ∧
        ∀ fields, read s'.toList = some fields → Store.Keeps (.table fields) x) := by
  refine ⟨fun x h hx => ?_, fun x h hx => ?_, fun x h hx => ?_⟩
  · have hx' := decodeDocument_of_edited Settings.tolerates h hx
    refine ⟨hx', ?_, fun fields hread => keeps_of_decodeDocument Settings.keeps hread hx'⟩
    rw [Settings.load, Settings.load, loadDocument_eq_ok hs hx, loadDocument_eq_ok hs' hx']
  · have hx' := decodeDocument_of_edited tolerates_request h hx
    refine ⟨hx', ?_, fun fields hread => keeps_of_decodeDocument keeps_request hread hx'⟩
    rw [loadRequest, loadRequest, loadDocument_eq_ok hs hx, loadDocument_eq_ok hs' hx']
  · have hx' := decodeDocument_of_edited Store.tolerates h hx
    refine ⟨hx', ?_, fun fields hread => keeps_of_decodeDocument Store.keeps hread hx'⟩
    rw [Store.load_eq_ok hs hx, Store.load_eq_ok hs' hx']

/-! #### Documents and later versions of them -/

def oldSettings : String := "[persistence]
enabled = false
[traffic.algorithms.a]
type = 'SQL_HINT'
[[traffic.strategies]]
name = 's'
algorithm_name = 'a'
labels = []
"

/-- Without the section that says what is the default and without the labels, with a key that is no
field, and with the keys of the strategy in another order. -/
def newSettings : String := "[traffic.algorithms.a]
heavy = true
type = 'SQL_HINT'
[[traffic.strategies]]
algorithm_name = 'a'
name = 's'
"

def oldRequest : String := "[[segments]]
name = 's'
labels = []
algorithm.name = 'T'
"

/-- Without the labels, and in another order. -/
def newRequest : String := "[[segments]]
algorithm.name = 'T'
name = 's'
"

def oldStore : String := "[[traffic.strategies]]
name = 's'
algorithm_name = 'a'
labels = ['x']
[traffic.load_balancers]
"

/-- Without the load balancers, and with a version and a strategy that is paused. -/
def newStore : String := "version = '2'
[[traffic.strategies]]
paused = true
name = 's'
algorithm_name = 'a'
labels = ['x']
"

theorem edited_settings : Edited Settings.format oldSettings newSettings := by
  have hpersistence := List.mem_of_getElem? (show Settings.format[2]? = some _ from rfl)
  have htraffic := List.mem_of_getElem? (show Settings.format[3]? = some _ from rfl)
  have halgorithms := List.mem_of_getElem? (show Rulebook.format[1]? = some _ from rfl)
  have hstrategies := List.mem_of_getElem? (show Rulebook.format[0]? = some _ from rfl)
  have hdefinition : Edit (Definition.format "type") (.table [("type", .string "SQL_HINT")])
      (.table [("heavy", .boolean true), ("type", .string "SQL_HINT")]) :=
    @Edit.add _ [] _ _ _ (by decide) (by decide) (.boolean true)
  have hdefault := List.mem_of_getElem? (show Strategy.format[3]? = some _ from rfl)
  have hlabels : Edit Strategy.format
      (.table [("name", .string "s"), ("algorithm_name", .string "a"), ("labels", .array [])])
      (.table [("name", .string "s"), ("algorithm_name", .string "a")]) :=
    @Edit.leaveOut _ [_, _] [] _ _ hdefault rfl
  refine ⟨_, _, (by cbv : read oldSettings.toList = some _),
    (by cbv : read newSettings.toList = some _),
    .head (@Edit.leaveOut _ [] [_] _ _ hpersistence rfl) ?_⟩
  refine edits_inside [] [] htraffic (.trans (edits_inside [] [_] halgorithms ?_)
    (edits_inside [_] [] hstrategies ?_))
  · exact edits_entry [] [] (.single hdefinition)
  · exact edits_item [] [] (.tail (.single hlabels) (.permute (.swap _ _ _)))

theorem edited_request : Edited requestFormat oldRequest newRequest := by
  have hsegments := List.mem_of_getElem? (show requestFormat[0]? = some _ from rfl)
  have hdefault := List.mem_of_getElem? (show Segment.format[1]? = some _ from rfl)
  have hlabels : Edit Segment.format
      (.table [("name", .string "s"), ("labels", .array []),
        ("algorithm", .table [("name", .string "T")])])
      (.table [("name", .string "s"), ("algorithm", .table [("name", .string "T")])]) :=
    @Edit.leaveOut _ [_] [_] _ _ hdefault rfl
  refine ⟨_, _, (by cbv : read oldRequest.toList = some _),
    (by cbv : read newRequest.toList = some _), edits_inside [] [] hsegments ?_⟩
  exact edits_item [] [] (.tail (.single hlabels) (.permute (.swap _ _ _)))

theorem edited_store : Edited Store.format oldStore newStore := by
  have htraffic := List.mem_of_getElem? (show Store.format[0]? = some _ from rfl)
  have hstrategies := List.mem_of_getElem? (show Rulebook.format[0]? = some _ from rfl)
  have hbalancers := List.mem_of_getElem? (show Rulebook.format[2]? = some _ from rfl)
  have hpaused : Edit Strategy.format
      (.table [("name", .string "s"), ("algorithm_name", .string "a"),
        ("labels", .array [.string "x"])])
      (.table [("paused", .boolean true), ("name", .string "s"), ("algorithm_name", .string "a"),
        ("labels", .array [.string "x"])]) :=
    @Edit.add _ [] _ _ _ (by decide) (by decide) (.boolean true)
  refine ⟨_, _, (by cbv : read oldStore.toList = some _),
    (by cbv : read newStore.toList = some _),
    .tail (edits_inside [] [] htraffic (.tail (edits_inside [] [_] hstrategies ?_)
      (@Edit.leaveOut _ [_] [] _ _ hbalancers rfl)))
      (@Edit.add _ [] [_] _ _ (by decide) (by simp) (.string "2"))⟩
  exact edits_item [] [] (.single hpaused)

/-- A tree with one file. -/
def oneFile (s : String) : FileTree where
  nodes := .ofList [(["a.toml"], .file s.toUTF8)]

theorem readText_oneFile (s : String) : (oneFile s).readText (.ofText "a.toml") = .ok s := by
  have hbytes : (oneFile s).readBytes (.ofText "a.toml") = .ok s.toUTF8 := rfl
  refine bind_eq_ok_iff.mpr ⟨s.toUTF8, hbytes, ?_⟩
  rw [Text.decode?_toUTF8]

/-- Each document is loaded as its later version is, with everything that it says. -/
theorem later_versions_load_alike :
    Edited Settings.format oldSettings newSettings ∧
    Edited requestFormat oldRequest newRequest ∧ Edited Store.format oldStore newStore ∧
    Settings.load (oneFile newSettings) (.ofText "a.toml") =
      Settings.load (oneFile oldSettings) (.ofText "a.toml") ∧
    Settings.load (oneFile oldSettings) (.ofText "a.toml") = .ok {
      traffic := {
        strategies := [{ name := "s", algorithm := "a" }]
        algorithms := .ofList [("a", { type := "SQL_HINT" })] } } ∧
    loadRequest (oneFile newRequest) (.ofText "a.toml") =
      loadRequest (oneFile oldRequest) (.ofText "a.toml") ∧
    loadRequest (oneFile oldRequest) (.ofText "a.toml") =
      .ok [{ name := "s", algorithm := { type := "T" } }] ∧
    Store.load (.ofText "a.toml") (oneFile newStore) =
      Store.load (.ofText "a.toml") (oneFile oldStore) ∧
    Store.load (.ofText "a.toml") (oneFile oldStore) = .ok (some {
      strategies := [{ name := "s", algorithm := "a", labels := .ofList ["x"] }] }) := by
  have hsettings : decodeDocument Settings.decode oldSettings = .ok {
      traffic := {
        strategies := [{ name := "s", algorithm := "a" }]
        algorithms := .ofList [("a", { type := "SQL_HINT" })] } } :=
    toOption_eq_some_iff.mp (by decide +kernel)
  have hrequest : decodeDocument decodeRequest oldRequest =
      .ok [{ name := "s", algorithm := { type := "T" } }] :=
    toOption_eq_some_iff.mp (by decide +kernel)
  have hstore : decodeDocument Store.decode oldStore = .ok {
      strategies := [{ name := "s", algorithm := "a", labels := .ofList ["x"] }] } :=
    toOption_eq_some_iff.mp (by decide +kernel)
  have hloaded : Settings.load (oneFile oldSettings) (.ofText "a.toml") = .ok _ :=
    bind_eq_ok_iff.mpr ⟨_, loadDocument_eq_ok (readText_oneFile oldSettings) hsettings,
      if_pos (by decide +kernel)⟩
  exact ⟨edited_settings, edited_request, edited_store,
    ((loading_is_tolerant (readText_oneFile oldSettings) (readText_oneFile newSettings)).1 _
      edited_settings hsettings).2.1, hloaded,
    ((loading_is_tolerant (readText_oneFile oldRequest) (readText_oneFile newRequest)).2.1 _
      edited_request hrequest).2.1, loadDocument_eq_ok (readText_oneFile oldRequest) hrequest,
    ((loading_is_tolerant (readText_oneFile oldStore) (readText_oneFile newStore)).2.2 _
      edited_store hstore).2.1, Store.load_eq_ok (readText_oneFile oldStore) hstore⟩

end TrafficRouting
