import TrafficRouting.Proofs.Toml.Decode
import TrafficRouting.Proofs.Toml.Lines
import TrafficRouting.Proofs.Toml.Table
import TrafficRouting.Rulebook.Document

/-!
# TrafficRouting.Proofs.Rulebook.Document — rulebooks survive being written and read

`Rulebook.fields` is what stands between a rulebook and its text: the document that is written is
read as these fields (`read_toToml`), and they are decoded as the rulebook (`decode_fields`).
Nothing is lost, neither the order of anything nor an empty load balancer, which is told from none.
-/

namespace TrafficRouting

open Toml

/-! ### Decoding -/

/-- The fields that properties are written as. -/
def OrdMap.fields (props : Dict String) : List (String × Value) :=
  props.entries.map fun e => (e.1, .string e.2)

/-- The value that a definition is written as. -/
def Definition.value (d : Definition) : Value :=
  .table [("type", .string d.type), ("props", .table d.props.fields)]

theorem Definition.decode_value (d : Definition) : decode d.value = .ok d := by
  have hprops : dict text (.table d.props.fields) = .ok d.props := dict_table text_string d.props
  simp [decode, value, record, Value.fields?, changes, fill, List.lookup_cons, definitionSlots,
    Slot.need, Slot.may, text_string, hprops, Except.map, bind, Except.bind, pure, Except.pure]

/-- The fields that a strategy is written as. -/
def Strategy.fields (s : Strategy) : List (String × Value) :=
  s.pairs.map fun p => (p.1, p.2.toValue)

theorem Strategy.decode_fields (s : Strategy) : decode (.table s.fields) = .ok s := by
  obtain ⟨name, algorithm, balancer, labels⟩ := s
  have hlabels := names_array labels
  have hnone : (default : Strategy).loadBalancer = none := rfl
  cases balancer with
  | none =>
    simp [decode, fields, pairs, Content.toValue, record, Value.fields?, changes, fill,
      List.lookup_cons, List.lookup_nil, slots, Slot.need, Slot.may, text_string, hlabels, hnone,
      Except.map, bind, Except.bind, pure, Except.pure]
  | some b =>
    simp [decode, fields, pairs, Content.toValue, record, Value.fields?, changes, fill,
      List.lookup_cons, slots, Slot.need, Slot.may, text_string, hlabels, Except.map, bind,
      Except.bind, pure, Except.pure]

/-- The value that a dictionary of definitions is written as. -/
def definitionsValue (ds : Dict Definition) : Value :=
  .table (ds.entries.map fun e => (e.1, e.2.value))

namespace Rulebook

/-- The fields that a rulebook is written as. -/
def fields (r : Rulebook) : List (String × Value) := [
  ("strategies", .array (r.strategies.map fun s => .table s.fields)),
  ("algorithms", definitionsValue r.algorithms),
  ("load_balancers", definitionsValue r.loadBalancers)]

theorem decode_fields (r : Rulebook) : decode (.table r.fields) = .ok r := by
  have hstrategies := list_array Strategy.decode_fields r.strategies
  have halgorithms := dict_table Definition.decode_value r.algorithms
  have hbalancers := dict_table Definition.decode_value r.loadBalancers
  simp [decode, fields, definitionsValue, record, Value.fields?, changes, fill, List.lookup_cons,
    slots, Slot.may, hstrategies, halgorithms, hbalancers, Except.map, bind, Except.bind, pure,
    Except.pure]

end Rulebook

/-! ### Reading -/

/-- The sections of blocks that have headers. -/
def headed (bs : List Block) : List Section :=
  bs.filterMap fun b => b.header.map fun h => ⟨h.1, h.2, b.values⟩

theorem blockSections_of_headed {bs : List Block} (h : ∀ b ∈ bs, b.header.isSome = true) :
    blockSections bs = ([], headed bs) := by
  induction bs with
  | nil => rfl
  | cons b bs ih =>
    obtain ⟨header, hb⟩ := Option.isSome_iff_exists.mp (h b List.mem_cons_self)
    rw [blockSections, ih fun c hc => h c (List.mem_cons_of_mem b hc)]
    simp [headed, hb]

theorem headed_append (bs cs : List Block) : headed (bs ++ cs) = headed bs ++ headed cs :=
  List.filterMap_append

theorem headed_flatMap {α : Type} (f : α → List Block) (xs : List α) :
    headed (xs.flatMap f) = xs.flatMap fun x => headed (f x) :=
  List.filterMap_flatMap

/-- What a definition is written as, below any path. -/
theorem Definition.headed_blocks (path : List String) (d : Definition) :
    headed (d.blocks path) = [
      ⟨.single, path, plainPairs [("type", .string d.type)]⟩,
      ⟨.single, path ++ ["props"], plainPairs d.props.fields⟩] := by
  simp [headed, blocks, Block.values, plainPairs, OrdMap.fields, Content.toValue,
    Function.comp_def]

theorem Definition.adds (d : Definition) (key : String) :
    Adds (headed (d.blocks [key])) [(key, d.value)] := by
  have hnodup : (d.props.fields.map Prod.fst).Nodup := by
    rw [OrdMap.fields, List.map_map]
    exact d.props.nodup
  have hprops : Adds [⟨.single, ["props"], plainPairs d.props.fields⟩]
      [("props", .table d.props.fields)] := by
    simpa using adds_table "props" d.props.fields .nil hnodup (by simp)
  have htable := adds_table key [("type", .string d.type)] hprops (by simp) (by simp)
  rw [headed_blocks]
  exact htable

/-- The blocks of a dictionary name its definitions below the path. -/
theorem headed_definitionBlocks_cons (k : String) (path : List String) (ds : Dict Definition) :
    headed (definitionBlocks (k :: path) ds) =
      (headed (definitionBlocks path ds)).map (·.under k) := by
  unfold definitionBlocks
  split
  · rfl
  · rw [headed_flatMap, headed_flatMap, List.map_flatMap]
    refine congrArg (ds.entries.flatMap ·) (funext fun e => ?_)
    rw [Definition.headed_blocks, Definition.headed_blocks]
    rfl

theorem adds_definitionBlocks (k : String) (ds : Dict Definition) :
    Adds (headed (definitionBlocks [k] ds)) [(k, definitionsValue ds)] := by
  by_cases hds : ds.entries = []
  · have hempty := adds_table k [] .nil (by simp) (by simp)
    rw [definitionBlocks, if_pos hds, definitionsValue, hds]
    exact hempty
  · have hdefs : Adds (headed (definitionBlocks [] ds))
        (ds.entries.map fun e => (e.1, e.2.value)) := by
      rw [definitionBlocks, if_neg hds, headed_flatMap]
      exact Adds.flatMap (fun e _ => e.2.adds e.1) ds.nodup
    rw [headed_definitionBlocks_cons]
    refine adds_under hdefs fun hnil => ?_
    obtain ⟨e, es, hes⟩ := List.exists_cons_of_ne_nil hds
    rw [definitionBlocks, if_neg hds, hes, List.flatMap_cons, headed_append,
      Definition.headed_blocks] at hnil
    simp at hnil


theorem Strategy.nodup_fields (s : Strategy) : (s.fields.map Prod.fst).Nodup := by
  obtain ⟨name, algorithm, balancer, labels⟩ := s
  cases balancer <;> simp [fields, pairs]

namespace Rulebook

variable (r : Rulebook) {path : List String}

/-- The blocks of the strategies, if there are any. -/
def strategyBlocks (path : List String) : List Block :=
  r.strategies.map fun s => ⟨some (.repeated, path ++ ["strategies"]), s.pairs⟩

/-- The blocks of both dictionaries. -/
def dictionaryBlocks (path : List String) : List Block :=
  definitionBlocks (path ++ ["algorithms"]) r.algorithms ++
    definitionBlocks (path ++ ["load_balancers"]) r.loadBalancers

theorem headed_strategyBlocks (path : List String) :
    headed (r.strategyBlocks path) = (r.strategies.map (·.fields)).map
      fun ps => ⟨.repeated, path ++ ["strategies"], plainPairs ps⟩ := by
  simp [headed, strategyBlocks, Block.values, plainPairs, Strategy.fields, Function.comp_def]

theorem headed_strategyBlocks_cons (k : String) (path : List String) :
    headed (r.strategyBlocks (k :: path)) = (headed (r.strategyBlocks path)).map (·.under k) := by
  simp [headed_strategyBlocks, Section.under, Function.comp_def]

theorem adds_strategyBlocks (h : r.strategies ≠ []) :
    Adds (headed (r.strategyBlocks []))
      [("strategies", .array (r.strategies.map fun s => .table s.fields))] := by
  have hnodup : ∀ ps ∈ r.strategies.map (·.fields), (ps.map Prod.fst).Nodup := by
    intro ps hps
    obtain ⟨s, -, rfl⟩ := List.mem_map.mp hps
    exact s.nodup_fields
  have hvalues : r.strategies.map (fun s => Value.table s.fields) =
      (r.strategies.map (·.fields)).map .table := List.map_map.symm
  rw [headed_strategyBlocks, hvalues]
  exact adds_tables (by simpa using h) hnodup

theorem headed_dictionaryBlocks_cons (k : String) (path : List String) :
    headed (r.dictionaryBlocks (k :: path)) =
      (headed (r.dictionaryBlocks path)).map (·.under k) := by
  rw [dictionaryBlocks, dictionaryBlocks, List.cons_append, List.cons_append, headed_append,
    headed_append, headed_definitionBlocks_cons, headed_definitionBlocks_cons, List.map_append]

theorem adds_dictionaryBlocks :
    Adds (headed (r.dictionaryBlocks [])) [("algorithms", definitionsValue r.algorithms),
      ("load_balancers", definitionsValue r.loadBalancers)] := by
  have hadds := (adds_definitionBlocks "algorithms" r.algorithms).append
    (adds_definitionBlocks "load_balancers" r.loadBalancers) (by simp)
  rw [dictionaryBlocks, headed_append]
  exact hadds

theorem blocks_of_strategies_ne_nil (h : r.strategies ≠ []) (path : List String) :
    r.blocks path = r.strategyBlocks path ++ r.dictionaryBlocks path := by
  rw [blocks, if_neg h, List.append_assoc]
  rfl

theorem blocks_of_strategies_eq_nil (h : r.strategies = []) (path : List String) :
    r.blocks path =
      ⟨if path = [] then none else some (.single, path), [("strategies", .texts [])]⟩ ::
        r.dictionaryBlocks path := by
  rw [blocks, if_pos h, List.append_assoc]
  rfl

/-! #### Headers -/

theorem header_of_mem_definitionBlocks {ds : Dict Definition} {b : Block}
    (h : b ∈ definitionBlocks path ds) : ∃ more, more.length ≤ 2 ∧
      b.header = some (.single, path ++ more) := by
  unfold definitionBlocks at h
  split at h
  · obtain rfl := List.mem_singleton.mp h
    exact ⟨[], by simp, by simp⟩
  · obtain ⟨e, -, he⟩ := List.mem_flatMap.mp h
    rw [Definition.blocks, List.mem_cons, List.mem_singleton] at he
    rcases he with rfl | rfl
    · exact ⟨[e.1], by simp, rfl⟩
    · exact ⟨[e.1, "props"], by simp, by simp⟩

theorem header_of_mem_dictionaryBlocks {b : Block} (h : b ∈ r.dictionaryBlocks path) :
    ∃ k more, more.length ≤ 2 ∧ b.header = some (.single, path ++ k :: more) := by
  rcases List.mem_append.mp h with h | h
  · obtain ⟨more, hmore, hb⟩ := header_of_mem_definitionBlocks h
    exact ⟨"algorithms", more, hmore, by simpa using hb⟩
  · obtain ⟨more, hmore, hb⟩ := header_of_mem_definitionBlocks h
    exact ⟨"load_balancers", more, hmore, by simpa using hb⟩

theorem isSome_header_of_mem_dictionaryBlocks {b : Block} (h : b ∈ r.dictionaryBlocks path) :
    b.header.isSome = true := by
  obtain ⟨k, more, -, hb⟩ := r.header_of_mem_dictionaryBlocks h
  rw [hb]
  rfl

theorem shallow_of_mem_dictionaryBlocks (hpath : path.length + 3 < depthLimit) {b : Block}
    (h : b ∈ r.dictionaryBlocks path) : b.Shallow := by
  obtain ⟨k, more, hmore, hb⟩ := r.header_of_mem_dictionaryBlocks h
  intro header hheader
  obtain rfl := Option.some.inj (hb.symm.trans hheader)
  refine ⟨by simp, ?_⟩
  simp only [List.length_append, List.length_cons]
  omega

theorem shallow_of_mem_blocks (hpath : path.length + 3 < depthLimit) :
    ∀ b ∈ r.blocks path, b.Shallow := by
  intro b hb
  by_cases hs : r.strategies = []
  · rw [blocks_of_strategies_eq_nil r hs, List.mem_cons] at hb
    rcases hb with rfl | hb
    · intro header hheader
      dsimp only at hheader
      split at hheader
      · exact absurd hheader (by simp)
      · rename_i hne
        obtain rfl := Option.some.inj hheader
        exact ⟨hne, show path.length < depthLimit by omega⟩
    · exact r.shallow_of_mem_dictionaryBlocks hpath hb
  · rw [blocks_of_strategies_ne_nil r hs, List.mem_append] at hb
    rcases hb with hb | hb
    · obtain ⟨s, -, rfl⟩ := List.mem_map.mp hb
      intro header hheader
      obtain rfl := Option.some.inj hheader
      refine ⟨by simp, ?_⟩
      simp only [List.length_append, List.length_singleton]
      omega
    · exact r.shallow_of_mem_dictionaryBlocks hpath hb

/-! #### Whole documents -/

theorem isSome_header_of_mem_strategyBlocks {b : Block} (h : b ∈ r.strategyBlocks path) :
    b.header.isSome = true := by
  obtain ⟨s, -, rfl⟩ := List.mem_map.mp h
  rfl

/-- With strategies, everything stands below a header. -/
theorem blockSections_of_strategies_ne_nil (h : r.strategies ≠ []) (path : List String) :
    blockSections (r.blocks path) =
      ([], headed (r.strategyBlocks path) ++ headed (r.dictionaryBlocks path)) := by
  rw [blocks_of_strategies_ne_nil r h, blockSections_of_headed, headed_append]
  intro b hb
  rcases List.mem_append.mp hb with hb | hb
  · exact r.isSome_header_of_mem_strategyBlocks hb
  · exact r.isSome_header_of_mem_dictionaryBlocks hb

/-- What all sections of a rulebook with strategies add. -/
theorem adds_blocks (h : r.strategies ≠ []) :
    Adds (headed (r.strategyBlocks []) ++ headed (r.dictionaryBlocks [])) r.fields :=
  (r.adds_strategyBlocks h).append r.adds_dictionaryBlocks (by simp)

/-- A rulebook that is a document by itself is read as its fields. -/
theorem read_toToml (layout : Layout) :
    read (r.toToml layout []).toList = some r.fields := by
  rw [toToml, String.toList_ofList,
    read_write layout (r.shallow_of_mem_blocks (by simp [depthLimit]))]
  by_cases hs : r.strategies = []
  · have hsections : blockSections (r.blocks []) =
        (plainPairs [("strategies", .array [])], headed (r.dictionaryBlocks [])) := by
      rw [blocks_of_strategies_eq_nil r hs, blockSections,
        blockSections_of_headed fun b hb => r.isSome_header_of_mem_dictionaryBlocks hb]
      rfl
    rw [hsections, assemble_of_adds _ r.adds_dictionaryBlocks (by simp) (by simp), fields, hs]
    rfl
  · rw [blockSections_of_strategies_ne_nil r hs]
    exact assemble_of_adds [] (r.adds_blocks hs) List.nodup_nil (by simp)

/-- Below a key, it is read as a table under this key. -/
theorem read_toToml_below (layout : Layout) (k : String) :
    read (r.toToml layout [k]).toList = some [(k, .table r.fields)] := by
  rw [toToml, String.toList_ofList,
    read_write layout (r.shallow_of_mem_blocks (by simp [depthLimit]))]
  by_cases hs : r.strategies = []
  · have hsections : blockSections (r.blocks [k]) = (plainPairs [],
        ⟨.single, [k], plainPairs [("strategies", .array [])]⟩ ::
          (headed (r.dictionaryBlocks [])).map (·.under k)) := by
      rw [blocks_of_strategies_eq_nil r hs, blockSections,
        blockSections_of_headed fun b hb => r.isSome_header_of_mem_dictionaryBlocks hb,
        headed_dictionaryBlocks_cons]
      rfl
    have hadds := adds_table k [("strategies", .array [])] r.adds_dictionaryBlocks (by simp)
      (by simp)
    rw [hsections, assemble_of_adds [] hadds List.nodup_nil (by simp), fields, hs]
    rfl
  · have hne : headed (r.strategyBlocks []) ++ headed (r.dictionaryBlocks []) ≠ [] := by
      rw [headed_strategyBlocks]
      simp [hs]
    rw [blockSections_of_strategies_ne_nil r hs, headed_strategyBlocks_cons,
      headed_dictionaryBlocks_cons, ← List.map_append]
    exact assemble_of_adds [] (adds_under (r.adds_blocks hs) hne) List.nodup_nil (by simp)

/-- **Round trip of documents**: a rulebook comes back as it was written, in any layout. -/
theorem decodeDocument_toToml (layout : Layout) :
    decodeDocument decode (r.toToml layout []) = .ok r := by
  rw [decodeDocument, read_toToml]
  simp only [decode_fields]
  rfl

end Rulebook

end TrafficRouting
