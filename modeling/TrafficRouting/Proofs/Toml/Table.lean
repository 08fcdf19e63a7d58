import Mathlib.Data.List.Nodup
import TrafficRouting.Toml.Table

/-!
# TrafficRouting.Proofs.Toml.Table — what sections add to a document

`Adds secs kvs`: the sections `secs` add fields with the values `kvs` to any table that has none of
them yet.  A section with its own pairs, several tables in a row, and sections below a common key
each add one field (`adds_table`, `adds_tables`, `adds_under`); `Adds.append` puts them side by
side.  `assemble_of_adds` is the whole document.
-/

namespace TrafficRouting.Toml

variable {k : String} {fields t : Fields} {secs : List Section}

/-! ### Tables under construction -/

theorem lookup_eq_none_of_not_mem {α : Type} {l : List (String × α)} (h : k ∉ l.map Prod.fst) :
    l.lookup k = none := by
  rw [List.lookup_eq_none_iff]
  intro e he
  rw [bne_iff_ne]
  rintro rfl
  exact h (List.mem_map_of_mem he)

theorem lookup_last (h : k ∉ fields.map Prod.fst) (i : Item) :
    (fields ++ [(k, i)]).lookup k = some i := by
  rw [List.lookup_append, lookup_eq_none_of_not_mem h, Option.none_or, List.lookup_cons_self]

theorem setField_last (h : k ∉ fields.map Prod.fst) (i j : Item) :
    setField k i (fields ++ [(k, j)]) = fields ++ [(k, i)] := by
  induction fields with
  | nil => simp [setField]
  | cons e fields ih =>
    simp only [List.map_cons, List.mem_cons, not_or] at h
    rw [List.cons_append, setField, if_neg (Ne.symm h.1), ih h.2, List.cons_append]

theorem fieldValues_eq_map (fields : Fields) :
    fieldValues fields = fields.map fun e => (e.1, e.2.toValue) := by
  induction fields with
  | nil => rfl
  | cons e fields ih => rw [fieldValues, ih, List.map_cons]

theorem tableValues_eq_map (ts : List Fields) :
    tableValues ts = ts.map fun t => .table (fieldValues t) := by
  induction ts with
  | nil => rfl
  | cons t ts ih => rw [tableValues, ih, List.map_cons]

theorem fieldValues_append (f g : Fields) :
    fieldValues (f ++ g) = fieldValues f ++ fieldValues g := by
  simp only [fieldValues_eq_map, List.map_append]

theorem keys_fieldValues (fields : Fields) :
    (fieldValues fields).map Prod.fst = fields.map Prod.fst := by
  rw [fieldValues_eq_map, List.map_map]
  rfl

/-! ### Pairs -/

/-- Fields that hold finished values. -/
def valueFields (ps : List (String × Value)) : Fields := ps.map fun p => (p.1, .value p.2)

theorem fieldValues_valueFields (ps : List (String × Value)) :
    fieldValues (valueFields ps) = ps := by
  rw [fieldValues_eq_map, valueFields, List.map_map]
  exact List.map_id' ps

theorem keys_valueFields (ps : List (String × Value)) :
    (valueFields ps).map Prod.fst = ps.map Prod.fst := by
  rw [← keys_fieldValues, fieldValues_valueFields]

/-- Pairs of a section, each with a path of one key. -/
def plainPairs (ps : List (String × Value)) : List (List String × Value) :=
  ps.map fun p => ([p.1], p.2)

theorem assign_singleton (h : k ∉ fields.map Prod.fst) (v : Value) :
    assign [k] v fields = some (fields ++ [(k, .value v)]) := by
  have hlookup := lookup_eq_none_of_not_mem h
  simp [assign, alter, addValue, hlookup]

/-- Pairs with new keys are added at the end. -/
theorem assignAll_plainPairs {ps : List (String × Value)}
    (hnew : ∀ k ∈ ps.map Prod.fst, k ∉ fields.map Prod.fst) (hnodup : (ps.map Prod.fst).Nodup) :
    assignAll (plainPairs ps) fields = some (fields ++ valueFields ps) := by
  induction ps generalizing fields with
  | nil => simp [assignAll, plainPairs, valueFields]
  | cons p ps ih =>
    rw [List.map_cons, List.nodup_cons] at hnodup
    have hp : assign [p.1] p.2 fields = some (fields ++ [(p.1, .value p.2)]) :=
      assign_singleton (hnew p.1 List.mem_cons_self) p.2
    have hps : assignAll (plainPairs ps) (fields ++ [(p.1, .value p.2)]) =
        some (fields ++ [(p.1, .value p.2)] ++ valueFields ps) := by
      refine ih (fun k hk hmem => ?_) hnodup.2
      rw [List.map_append, List.mem_append] at hmem
      rcases hmem with hmem | hmem
      · exact hnew k (List.mem_cons_of_mem p.1 hk) hmem
      · rw [List.map_singleton, List.mem_singleton] at hmem
        exact hnodup.1 (hmem ▸ hk)
    have hcons : assignAll (plainPairs (p :: ps)) fields =
        (assign [p.1] p.2 fields).bind (assignAll (plainPairs ps)) := rfl
    rw [hcons, hp, Option.bind_some, hps, List.append_assoc]
    rfl

/-! ### Sections below a key -/

/-- The same section with a key in front of its path. -/
def Section.under (k : String) (sec : Section) : Section := { sec with path := k :: sec.path }

/-- What a header does at the end of its path. -/
def Section.edit (sec : Section) (k : String) (origin : Origin) (fields : Fields) : Option Fields :=
  match sec.kind with
  | .single => stateTable sec.pairs k origin fields
  | .repeated => addTable sec.pairs k origin fields

theorem alter_edit_origin (sec : Section) (last : String) (path : List String) (o o' : Origin)
    (fields : Fields) :
    alter .implied (sec.edit last) path o fields =
      alter .implied (sec.edit last) path o' fields := by
  cases path with
  | nil =>
    rw [alter, alter, Section.edit, Section.edit]
    cases sec.kind <;> rfl
  | cons k path => rfl

theorem addSection_eq {sec : Section} {path : List String} {last : String}
    (h : sec.path = path ++ [last]) (o : Origin) (fields : Fields) :
    addSection fields sec = alter .implied (sec.edit last) path o fields := by
  rw [alter_edit_origin sec last path o .stated, addSection, h, List.getLast?_concat,
    List.dropLast_concat]
  have hedit : (match sec.kind with
      | .single => stateTable sec.pairs last
      | .repeated => addTable sec.pairs last) = sec.edit last := by
    funext o fields
    rw [Section.edit]
    cases sec.kind <;> rfl
  exact congrArg (alter .implied · path .stated fields) hedit

/-- The first section below a key makes a table there. -/
theorem addSection_under_new {sec : Section} (hpath : sec.path ≠ [])
    (h : k ∉ fields.map Prod.fst) :
    addSection fields (sec.under k) =
      (addSection [] sec).map fun t => fields ++ [(k, .table .implied t)] := by
  obtain ⟨path, last, hsec⟩ := (List.eq_nil_or_concat' sec.path).resolve_left hpath
  have hunder : (sec.under k).path = (k :: path) ++ [last] := congrArg (k :: ·) hsec
  rw [addSection_eq hunder .stated, addSection_eq hsec .implied, alter, lookup_eq_none_of_not_mem h]
  rfl

/-- A later one adds to this table. -/
theorem addSection_under {sec : Section} (hpath : sec.path ≠ []) (h : k ∉ fields.map Prod.fst)
    (o : Origin) (t : Fields) :
    addSection (fields ++ [(k, .table o t)]) (sec.under k) =
      (addSection t sec).map fun t => fields ++ [(k, .table o t)] := by
  obtain ⟨path, last, hsec⟩ := (List.eq_nil_or_concat' sec.path).resolve_left hpath
  have hunder : (sec.under k).path = (k :: path) ++ [last] := congrArg (k :: ·) hsec
  rw [addSection_eq hunder .stated, addSection_eq hsec o, alter, lookup_last h]
  simp only [setField_last h]
  rfl

theorem foldlM_under (hpath : ∀ sec ∈ secs, sec.path ≠ []) (h : k ∉ fields.map Prod.fst)
    (o : Origin) (t : Fields) :
    (secs.map (·.under k)).foldlM addSection (fields ++ [(k, .table o t)]) =
      (secs.foldlM addSection t).map fun t => fields ++ [(k, .table o t)] := by
  induction secs generalizing t with
  | nil => rfl
  | cons sec secs ih =>
    rw [List.map_cons, List.foldlM_cons, List.foldlM_cons,
      addSection_under (hpath sec List.mem_cons_self) h]
    cases addSection t sec with
    | none => rfl
    | some t' => exact ih (fun s hs => hpath s (List.mem_cons_of_mem sec hs)) t'

theorem foldlM_under_new (hne : secs ≠ []) (hpath : ∀ sec ∈ secs, sec.path ≠ [])
    (h : k ∉ fields.map Prod.fst) :
    (secs.map (·.under k)).foldlM addSection fields =
      (secs.foldlM addSection []).map fun t => fields ++ [(k, .table .implied t)] := by
  obtain ⟨sec, secs, rfl⟩ := List.exists_cons_of_ne_nil hne
  rw [List.map_cons, List.foldlM_cons, List.foldlM_cons,
    addSection_under_new (hpath sec List.mem_cons_self) h]
  cases addSection [] sec with
  | none => rfl
  | some t => exact foldlM_under (fun s hs => hpath s (List.mem_cons_of_mem sec hs)) h .implied t

/-! ### What sections add -/

variable {kvs kvs' : List (String × Value)} {secs' : List Section}

/-- The sections name tables, and add fields with these values to any table that has none of
them. -/
structure Adds (secs : List Section) (kvs : List (String × Value)) : Prop where
  path_ne_nil : ∀ sec ∈ secs, sec.path ≠ []
  adds : ∀ fields : Fields, (∀ k ∈ kvs.map Prod.fst, k ∉ fields.map Prod.fst) →
    ∃ more, secs.foldlM addSection fields = some (fields ++ more) ∧ fieldValues more = kvs

theorem Adds.nil : Adds [] [] where
  path_ne_nil := by simp
  adds fields _ := ⟨[], by simp, rfl⟩

/-- Sections that add different fields, one after the other. -/
theorem Adds.append (h : Adds secs kvs) (h' : Adds secs' kvs')
    (hdisjoint : ∀ k ∈ kvs'.map Prod.fst, k ∉ kvs.map Prod.fst) :
    Adds (secs ++ secs') (kvs ++ kvs') where
  path_ne_nil sec hsec := (List.mem_append.mp hsec).elim (h.path_ne_nil sec) (h'.path_ne_nil sec)
  adds fields hnew := by
    obtain ⟨more, hmore, rfl⟩ := h.adds fields fun k hk => hnew k (by simp [hk])
    have hnew' : ∀ k ∈ kvs'.map Prod.fst, k ∉ (fields ++ more).map Prod.fst := by
      intro k hk hmem
      rw [List.map_append, List.mem_append] at hmem
      rcases hmem with hmem | hmem
      · exact hnew k (by simp [hk]) hmem
      · exact hdisjoint k hk ((keys_fieldValues more).symm ▸ hmem)
    obtain ⟨more', hmore', rfl⟩ := h'.adds (fields ++ more) hnew'
    refine ⟨more ++ more', ?_, fieldValues_append more more'⟩
    rw [List.foldlM_append, hmore, ← List.append_assoc]
    exact hmore'

/-- Sections for each of several fields with different names. -/
theorem Adds.flatMap {α : Type} {f : α → List Section} {key : α → String} {val : α → Value}
    {xs : List α} (h : ∀ x ∈ xs, Adds (f x) [(key x, val x)]) (hnodup : (xs.map key).Nodup) :
    Adds (xs.flatMap f) (xs.map fun x => (key x, val x)) := by
  induction xs with
  | nil => exact .nil
  | cons x xs ih =>
    rw [List.map_cons, List.nodup_cons] at hnodup
    have hxs := ih (fun y hy => h y (List.mem_cons_of_mem x hy)) hnodup.2
    refine (h x List.mem_cons_self).append hxs fun k hk hmem => ?_
    obtain rfl : k = key x := by simpa using hmem
    rw [List.map_map] at hk
    exact hnodup.1 hk

/-- A table with pairs of its own, and sections below it. -/
theorem adds_table (k : String) (ps : List (String × Value)) (h : Adds secs kvs)
    (hnodup : (ps.map Prod.fst).Nodup)
    (hdisjoint : ∀ k ∈ kvs.map Prod.fst, k ∉ ps.map Prod.fst) :
    Adds (⟨.single, [k], plainPairs ps⟩ :: secs.map (·.under k)) [(k, .table (ps ++ kvs))] where
  path_ne_nil := by simp [Section.under]
  adds fields hnew := by
    have hk : k ∉ fields.map Prod.fst := hnew k (by simp)
    have hpairs : assignAll (plainPairs ps) [] = some (valueFields ps) :=
      assignAll_plainPairs (by simp) hnodup
    have hsec : addSection fields ⟨.single, [k], plainPairs ps⟩ =
        some (fields ++ [(k, .table .stated (valueFields ps))]) := by
      simp [addSection, alter, stateTable, lookup_eq_none_of_not_mem hk, hpairs]
    obtain ⟨more, hmore, rfl⟩ := h.adds (valueFields ps) (by rwa [keys_valueFields])
    refine ⟨[(k, .table .stated (valueFields ps ++ more))], ?_, ?_⟩
    · rw [List.foldlM_cons, hsec]
      show (secs.map (·.under k)).foldlM addSection _ = _
      rw [foldlM_under h.path_ne_nil hk, hmore]
      rfl
    · rw [fieldValues, Item.toValue, fieldValues_append, fieldValues_valueFields]
      rfl

/-- A table that has only sections below it. -/
theorem adds_under (h : Adds secs kvs) (hne : secs ≠ []) :
    Adds (secs.map (·.under k)) [(k, .table kvs)] where
  path_ne_nil := by simp [Section.under]
  adds fields hnew := by
    obtain ⟨more, hmore, rfl⟩ := h.adds [] (by simp)
    refine ⟨[(k, .table .implied more)], ?_, rfl⟩
    rw [foldlM_under_new hne h.path_ne_nil (hnew k (by simp)), hmore]
    rfl

/-- One more table behind others. -/
theorem foldlM_addTable {pss : List (List (String × Value))} (hk : k ∉ fields.map Prod.fst)
    (hnodup : ∀ ps ∈ pss, (ps.map Prod.fst).Nodup) (done : List Fields) (last : Fields) :
    ∃ done' last', (pss.map fun ps => (⟨.repeated, [k], plainPairs ps⟩ : Section)).foldlM addSection
        (fields ++ [(k, .tables done last)]) = some (fields ++ [(k, .tables done' last')]) ∧
      done' ++ [last'] = done ++ [last] ++ pss.map valueFields := by
  -- `done ++ [last]` are all tables so far: the next one makes `last` a finished one
  induction pss generalizing done last with
  | nil => exact ⟨done, last, rfl, by simp⟩
  | cons ps pss ih =>
    have hpairs : assignAll (plainPairs ps) [] = some (valueFields ps) :=
      assignAll_plainPairs (by simp) (hnodup ps List.mem_cons_self)
    have hsec : addSection (fields ++ [(k, .tables done last)]) ⟨.repeated, [k], plainPairs ps⟩ =
        some (fields ++ [(k, .tables (done ++ [last]) (valueFields ps))]) := by
      simp [addSection, alter, addTable, lookup_last hk, hpairs, setField_last hk]
    obtain ⟨done', last', hfold, heq⟩ :=
      ih (fun qs hqs => hnodup qs (List.mem_cons_of_mem ps hqs)) (done ++ [last]) (valueFields ps)
    refine ⟨done', last', ?_, by simp [heq]⟩
    rw [List.map_cons, List.foldlM_cons, hsec]
    exact hfold

/-- Several tables in a row under one key. -/
theorem adds_tables {pss : List (List (String × Value))} (hne : pss ≠ [])
    (hnodup : ∀ ps ∈ pss, (ps.map Prod.fst).Nodup) :
    Adds (pss.map fun ps => ⟨.repeated, [k], plainPairs ps⟩) [(k, .array (pss.map .table))] where
  path_ne_nil := by simp
  adds fields hnew := by
    obtain ⟨ps, pss, rfl⟩ := List.exists_cons_of_ne_nil hne
    have hk : k ∉ fields.map Prod.fst := hnew k (by simp)
    have hpairs : assignAll (plainPairs ps) [] = some (valueFields ps) :=
      assignAll_plainPairs (by simp) (hnodup ps List.mem_cons_self)
    have hsec : addSection fields ⟨.repeated, [k], plainPairs ps⟩ =
        some (fields ++ [(k, .tables [] (valueFields ps))]) := by
      simp [addSection, alter, addTable, lookup_eq_none_of_not_mem hk, hpairs]
    obtain ⟨done, last, hfold, heq⟩ :=
      foldlM_addTable hk (fun qs hqs => hnodup qs (List.mem_cons_of_mem ps hqs)) []
        (valueFields ps)
    refine ⟨[(k, .tables done last)], ?_, ?_⟩
    · rw [List.map_cons, List.foldlM_cons, hsec]
      exact hfold
    · have hvalue : (Item.tables done last).toValue =
          .array ((done ++ [last]).map fun t => .table (fieldValues t)) := by
        rw [Item.toValue, tableValues_eq_map, List.map_append]
        rfl
      rw [fieldValues, hvalue, heq]
      simp [fieldValues, fieldValues_valueFields, Function.comp_def]

/-- **A whole document**: pairs in front, and sections that add other fields. -/
theorem assemble_of_adds (ps : List (String × Value)) (h : Adds secs kvs)
    (hnodup : (ps.map Prod.fst).Nodup)
    (hdisjoint : ∀ k ∈ kvs.map Prod.fst, k ∉ ps.map Prod.fst) :
    assemble (plainPairs ps) secs = some (ps ++ kvs) := by
  have hpairs : assignAll (plainPairs ps) [] = some (valueFields ps) :=
    assignAll_plainPairs (by simp) hnodup
  obtain ⟨more, hmore, rfl⟩ := h.adds (valueFields ps) (by rwa [keys_valueFields])
  simp only [assemble, hpairs, hmore, Option.bind_eq_bind, Option.bind_some, Option.pure_def]
  rw [fieldValues_append, fieldValues_valueFields]

end TrafficRouting.Toml
