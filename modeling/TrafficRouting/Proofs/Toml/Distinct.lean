import TrafficRouting.Proofs.Toml.Table
import TrafficRouting.Toml.Reader

/-!
# TrafficRouting.Proofs.Toml.Distinct — no table of a document has a key twice

`Value.Distinct` says so of a value, at every depth.  Tables under construction keep it: whatever
adds to a table refuses a key that is there (`Built`, one lemma for each way to add).  The readers
of values follow, by the depth to which values nest, and `distinct_of_read` is the whole document.
-/

namespace TrafficRouting.Toml

/-- No table in the value, however deep, has a key twice. -/
inductive Value.Distinct : Value → Prop
  | string (s : String) : Distinct (.string s)
  | integer (n : Int) : Distinct (.integer n)
  | float (x : Double) : Distinct (.float x)
  | boolean (b : Bool) : Distinct (.boolean b)
  | dateTime (d : DateTime) : Distinct (.dateTime d)
  | array {vs : List Value} (h : ∀ v ∈ vs, Distinct v) : Distinct (.array vs)
  | table {fields : List (String × Value)} (hnodup : (fields.map Prod.fst).Nodup)
      (h : ∀ e ∈ fields, Distinct e.2) : Distinct (.table fields)

theorem Value.distinct_array_iff {vs : List Value} :
    (Value.array vs).Distinct ↔ ∀ v ∈ vs, v.Distinct :=
  ⟨fun h => by cases h with | array h => exact h, .array⟩

theorem Value.distinct_table_iff {fields : List (String × Value)} :
    (Value.table fields).Distinct ↔
      (fields.map Prod.fst).Nodup ∧ ∀ e ∈ fields, e.2.Distinct :=
  ⟨fun h => by cases h with | table hnodup h => exact ⟨hnodup, h⟩, fun h => .table h.1 h.2⟩

variable {k : String} {v : Value} {fields fields' : Fields} {i : Item}

/-! ### Tables under construction -/

/-- What there is of a table has no key twice. -/
def Built (fields : Fields) : Prop := (Value.table (fieldValues fields)).Distinct

theorem built_iff :
    Built fields ↔ (fields.map Prod.fst).Nodup ∧ ∀ e ∈ fields, e.2.toValue.Distinct := by
  rw [Built, Value.distinct_table_iff, keys_fieldValues, fieldValues_eq_map, List.forall_mem_map]

theorem built_nil : Built [] := built_iff.mpr ⟨List.nodup_nil, nofun⟩

theorem distinct_tables_iff {done : List Fields} {last : Fields} :
    (Item.tables done last).toValue.Distinct ↔ ∀ t ∈ done ++ [last], Built t := by
  rw [Item.toValue, tableValues_eq_map, Value.distinct_array_iff, List.forall_mem_append,
    List.forall_mem_append, List.forall_mem_map, List.forall_mem_singleton,
    List.forall_mem_singleton]
  rfl

theorem Built.of_lookup (h : Built fields) (hi : fields.lookup k = some i) :
    i.toValue.Distinct := by
  obtain ⟨f, g, rfl, -⟩ := List.lookup_eq_some_iff.mp hi
  exact (built_iff.mp h).2 (k, i) (by simp)

/-- A new key goes to the end. -/
theorem Built.concat (h : Built fields) (hk : fields.lookup k = none) (hi : i.toValue.Distinct) :
    Built (fields ++ [(k, i)]) := by
  obtain ⟨hnodup, hitems⟩ := built_iff.mp h
  have hfresh : k ∉ fields.map Prod.fst := by
    intro hmem
    obtain ⟨e, he, rfl⟩ := List.mem_map.mp hmem
    exact (bne_iff_ne.mp (List.lookup_eq_none_iff.mp hk e he)) rfl
  refine built_iff.mpr ⟨?_, ?_⟩
  · rw [List.map_append, List.map_singleton, ← List.concat_eq_append]
    exact List.Nodup.concat hfresh hnodup
  · rw [List.forall_mem_append, List.forall_mem_singleton]
    exact ⟨hitems, hi⟩

theorem keys_setField (k : String) (i : Item) (fields : Fields) :
    (setField k i fields).map Prod.fst = fields.map Prod.fst := by
  induction fields with
  | nil => rfl
  | cons e fields ih => grind [setField]

theorem mem_setField {e : String × Item} (h : e ∈ setField k i fields) :
    e = (k, i) ∨ e ∈ fields := by
  induction fields with
  | nil => exact absurd h List.not_mem_nil
  | cons f fields ih => grind [setField]

theorem Built.setField (h : Built fields) (hi : i.toValue.Distinct) :
    Built (setField k i fields) := by
  obtain ⟨hnodup, hitems⟩ := built_iff.mp h
  refine built_iff.mpr ⟨by rwa [keys_setField], fun e he => ?_⟩
  rcases mem_setField he with rfl | he
  · exact hi
  · exact hitems e he

theorem Built.filter (h : Built fields) (p : String × Item → Bool) : Built (fields.filter p) := by
  obtain ⟨hnodup, hitems⟩ := built_iff.mp h
  exact built_iff.mpr
    ⟨hnodup.sublist (List.filter_sublist.map _), fun e he => hitems e (List.mem_of_mem_filter he)⟩

/-! ### Adding to a table -/

/-- What `edit` keeps at the end of a path, `alter` keeps in the whole table. -/
theorem Built.alter {made origin : Origin} {edit : Origin → Fields → Option Fields}
    {path : List String} (hedit : ∀ o t t', Built t → edit o t = some t' → Built t')
    (h : Built fields) (ha : alter made edit path origin fields = some fields') :
    Built fields' := by
  induction path generalizing origin fields fields' with
  | nil => exact hedit origin fields fields' h ha
  | cons k path ih =>
    rw [Toml.alter] at ha
    split at ha
    case h_1 hk =>
      obtain ⟨t, ht, rfl⟩ := Option.map_eq_some_iff.mp ha
      exact h.concat hk (ih built_nil ht)
    case h_2 => exact absurd ha (by simp)
    case h_3 o t hk =>
      split at ha
      · exact absurd ha (by simp)
      · obtain ⟨t', ht', rfl⟩ := Option.map_eq_some_iff.mp ha
        exact h.setField (ih (h.of_lookup hk) ht')
    case h_4 done t hk =>
      obtain ⟨t', ht', rfl⟩ := Option.map_eq_some_iff.mp ha
      have htables := distinct_tables_iff.mp (h.of_lookup hk)
      rw [List.forall_mem_append, List.forall_mem_singleton] at htables
      refine h.setField (distinct_tables_iff.mpr ?_)
      rw [List.forall_mem_append, List.forall_mem_singleton]
      exact ⟨htables.1, ih htables.2 ht'⟩

theorem Built.addValue {nested : Bool} {origin : Origin} (h : Built fields) (hv : v.Distinct)
    (ha : addValue nested k v origin fields = some fields') : Built fields' := by
  rw [Toml.addValue] at ha
  split at ha
  · exact absurd ha (by simp)
  · split at ha
    · exact absurd ha (by simp)
    · rename_i hk
      obtain rfl := Option.some.inj ha
      exact h.concat (by simpa only [Option.not_isSome_iff_eq_none] using hk) hv

theorem Built.assign {path : List String} (h : Built fields) (hv : v.Distinct)
    (ha : assign path v fields = some fields') : Built fields' := by
  rw [Toml.assign] at ha
  split at ha
  · exact h.alter (fun o t t' ht he => ht.addValue hv he) ha
  · exact absurd ha (by simp)

theorem Built.assignAll {pairs : List (List String × Value)} (h : Built fields)
    (hv : ∀ p ∈ pairs, p.2.Distinct) (ha : assignAll pairs fields = some fields') :
    Built fields' := by
  induction pairs generalizing fields with
  | nil =>
    obtain rfl := Option.some.inj ha
    exact h
  | cons p pairs ih =>
    obtain ⟨t, ht, hrest⟩ := Option.bind_eq_some_iff.mp ha
    rw [List.forall_mem_cons] at hv
    exact ih (h.assign hv.1 ht) hv.2 hrest

theorem Built.stateTable {pairs : List (List String × Value)} {origin : Origin}
    (h : Built fields) (hv : ∀ p ∈ pairs, p.2.Distinct)
    (ha : stateTable pairs k origin fields = some fields') : Built fields' := by
  rw [Toml.stateTable] at ha
  split at ha
  case h_1 hk =>
    obtain ⟨t, ht, rfl⟩ := Option.map_eq_some_iff.mp ha
    exact h.concat hk (built_nil.assignAll hv ht)
  case h_2 t hk =>
    obtain ⟨t', ht', rfl⟩ := Option.map_eq_some_iff.mp ha
    -- the implied table leaves its place, so its key is new at the end
    refine (h.filter _).concat (lookup_eq_none_of_not_mem ?_) (Built.assignAll ?_ hv ht')
    · simp
    · exact h.of_lookup hk
  case h_3 => exact absurd ha (by simp)

theorem Built.addTable {pairs : List (List String × Value)} {origin : Origin}
    (h : Built fields) (hv : ∀ p ∈ pairs, p.2.Distinct)
    (ha : addTable pairs k origin fields = some fields') : Built fields' := by
  rw [Toml.addTable] at ha
  split at ha
  case h_1 hk =>
    obtain ⟨t, ht, rfl⟩ := Option.map_eq_some_iff.mp ha
    refine h.concat hk (distinct_tables_iff.mpr ?_)
    rw [List.nil_append, List.forall_mem_singleton]
    exact built_nil.assignAll hv ht
  case h_2 done last hk =>
    obtain ⟨t, ht, rfl⟩ := Option.map_eq_some_iff.mp ha
    refine h.setField (distinct_tables_iff.mpr ?_)
    rw [List.forall_mem_append, List.forall_mem_singleton]
    exact ⟨distinct_tables_iff.mp (h.of_lookup hk), built_nil.assignAll hv ht⟩
  case h_3 => exact absurd ha (by simp)

theorem Built.addSection {sec : Section} (h : Built fields) (hv : ∀ p ∈ sec.pairs, p.2.Distinct)
    (ha : addSection fields sec = some fields') : Built fields' := by
  obtain ⟨kind, path, pairs⟩ := sec
  rw [Toml.addSection] at ha
  split at ha
  · cases kind with
    | single => exact h.alter (fun o t t' ht he => ht.stateTable hv he) ha
    | repeated => exact h.alter (fun o t t' ht he => ht.addTable hv he) ha
  · exact absurd ha (by simp)

theorem Built.addSections {secs : List Section} (h : Built fields)
    (hv : ∀ sec ∈ secs, ∀ p ∈ sec.pairs, p.2.Distinct)
    (ha : secs.foldlM Toml.addSection fields = some fields') : Built fields' := by
  induction secs generalizing fields with
  | nil =>
    obtain rfl := Option.some.inj ha
    exact h
  | cons sec secs ih =>
    obtain ⟨t, ht, hrest⟩ := Option.bind_eq_some_iff.mp ha
    rw [List.forall_mem_cons] at hv
    exact ih (h.addSection hv.1 ht) hv.2 hrest

/-! ### Reading values -/

/-- The reader yields values in which no table has a key twice. -/
def ReadsDistinct (r : Reader Value) : Prop := ∀ s v rest, r s = some (v, rest) → v.Distinct

variable {r r' : Reader Value}

theorem readsDistinct_dateTime : ReadsDistinct dateTime := by
  intro s v rest h
  grind [dateTime, Value.Distinct.dateTime, Option.map_eq_some_iff]

theorem readsDistinct_digitFloat : ReadsDistinct digitFloat := by
  intro s v rest h
  simp only [digitFloat, Option.bind_eq_bind, Option.bind_eq_some_iff] at h
  obtain ⟨a, _, b, _, h⟩ := h
  split at h
  · exact absurd h (by simp)
  · obtain ⟨rfl, -⟩ := Prod.mk.inj (Option.some.inj h)
    exact .float _

theorem readsDistinct_wordFloat : ReadsDistinct wordFloat := by
  intro s v rest h
  grind [wordFloat, Value.Distinct.float]

theorem readsDistinct_radixInteger (base : Nat) : ReadsDistinct (radixInteger base) := by
  intro s v rest h
  simp only [radixInteger, Option.bind_eq_bind, Option.bind_eq_some_iff] at h
  obtain ⟨a, _, n, _, h⟩ := h
  obtain ⟨rfl, -⟩ := Prod.mk.inj (Option.some.inj h)
  exact .integer n

theorem readsDistinct_integer : ReadsDistinct integer := by
  intro s v rest h
  unfold integer at h
  split at h
  · exact readsDistinct_radixInteger 16 _ v rest h
  · exact readsDistinct_radixInteger 8 _ v rest h
  · exact readsDistinct_radixInteger 2 _ v rest h
  · simp only [Option.bind_eq_bind, Option.bind_eq_some_iff] at h
    obtain ⟨a, _, n, _, h⟩ := h
    obtain ⟨rfl, -⟩ := Prod.mk.inj (Option.some.inj h)
    exact .integer n

theorem ReadsDistinct.orElse (hr : ReadsDistinct r) (hr' : ReadsDistinct r') :
    ReadsDistinct fun s => r s <|> r' s := by
  intro s v rest h
  dsimp only at h
  cases hs : r s with
  | some x =>
    rw [hs] at h
    exact hr s v rest (hs.trans h)
  | none =>
    rw [hs] at h
    exact hr' s v rest h

theorem readsDistinct_number : ReadsDistinct number :=
  readsDistinct_dateTime.orElse <| readsDistinct_digitFloat.orElse <|
    readsDistinct_wordFloat.orElse readsDistinct_integer

theorem readsDistinct_scalar : ReadsDistinct scalar := by
  intro s v rest h
  unfold scalar at h
  split at h
  · obtain ⟨rfl, -⟩ := Prod.mk.inj (Option.some.inj h)
    exact .boolean true
  · obtain ⟨rfl, -⟩ := Prod.mk.inj (Option.some.inj h)
    exact .boolean false
  · split at h
    · obtain ⟨rfl, -⟩ := Prod.mk.inj (Option.some.inj h)
      exact .string _
    · exact readsDistinct_number _ v rest h

theorem ReadsDistinct.items (hr : ReadsDistinct r) {fuel : Nat} {s rest : List Char}
    {vs : List Value} (h : items r fuel s = some (vs, rest)) : ∀ v ∈ vs, v.Distinct := by
  induction fuel generalizing s vs rest with
  | zero => exact absurd h (by simp [Toml.items])
  | succ fuel ih =>
    rw [Toml.items] at h
    split at h
    · obtain ⟨rfl, -⟩ := Prod.mk.inj (Option.some.inj h)
      exact nofun
    · split at h
      case h_1 v s' hv =>
        split at h
        · obtain ⟨⟨vs', rest'⟩, hvs, hcons⟩ := Option.map_eq_some_iff.mp h
          obtain ⟨rfl, -⟩ := Prod.mk.inj hcons
          exact List.forall_mem_cons.mpr ⟨hr _ v s' hv, ih hvs⟩
        · obtain ⟨rfl, -⟩ := Prod.mk.inj (Option.some.inj h)
          exact List.forall_mem_singleton.mpr (hr _ v s' hv)
        · exact absurd h (by simp)
      case h_2 => exact absurd h (by simp)

theorem ReadsDistinct.pair (hr : ReadsDistinct r) {s rest : List Char}
    {p : List String × Value} (h : pair r s = some (p, rest)) : p.2.Distinct := by
  simp only [Toml.pair, Option.bind_eq_bind, Option.bind_eq_some_iff] at h
  obtain ⟨a, -, t, -, ⟨v, rest'⟩, hv, h⟩ := h
  obtain ⟨rfl, -⟩ := Prod.mk.inj (Option.some.inj h)
  exact hr _ v rest' hv

theorem ReadsDistinct.inlinePairs (hr : ReadsDistinct r) {fuel : Nat} {s rest : List Char}
    {ps : List (List String × Value)} (h : inlinePairs r fuel s = some (ps, rest)) :
    ∀ p ∈ ps, p.2.Distinct := by
  induction fuel generalizing s ps rest with
  | zero => exact absurd h (by simp [Toml.inlinePairs])
  | succ fuel ih =>
    rw [Toml.inlinePairs] at h
    split at h
    case h_1 p s' hp =>
      split at h
      · obtain ⟨⟨ps', rest'⟩, hps, hcons⟩ := Option.map_eq_some_iff.mp h
        obtain ⟨rfl, -⟩ := Prod.mk.inj hcons
        exact List.forall_mem_cons.mpr ⟨hr.pair hp, ih hps⟩
      · obtain ⟨rfl, -⟩ := Prod.mk.inj (Option.some.inj h)
        exact List.forall_mem_singleton.mpr (hr.pair hp)
      · exact absurd h (by simp)
    case h_2 => exact absurd h (by simp)

theorem ReadsDistinct.inlineBody (hr : ReadsDistinct r) : ReadsDistinct (inlineBody r) := by
  intro s v rest h
  rw [Toml.inlineBody] at h
  split at h
  · obtain ⟨rfl, -⟩ := Prod.mk.inj (Option.some.inj h)
    exact built_nil
  · simp only [Option.bind_eq_bind, Option.bind_eq_some_iff] at h
    obtain ⟨⟨ps, rest'⟩, hps, t, ht, h⟩ := h
    obtain ⟨rfl, -⟩ := Prod.mk.inj (Option.some.inj h)
    obtain ⟨fields, hfields, rfl⟩ := Option.map_eq_some_iff.mp ht
    exact built_nil.assignAll (hr.inlinePairs hps) hfields

/-- By the depth: what stands inside of a value nests less deep. -/
theorem readsDistinct_value (depth : Nat) : ReadsDistinct (value depth) := by
  induction depth with
  | zero => exact fun s v rest h => absurd h (by simp [value])
  | succ depth ih =>
    intro s v rest h
    unfold value at h
    split at h
    · split at h
      · exact absurd h (by simp)
      · obtain ⟨⟨vs, rest'⟩, hvs, hv⟩ := Option.map_eq_some_iff.mp h
        obtain ⟨rfl, -⟩ := Prod.mk.inj hv
        exact .array (ih.items hvs)
    · split at h
      · exact absurd h (by simp)
      · exact ih.inlineBody _ v rest h
    · exact readsDistinct_scalar _ v rest h

/-! ### Reading a document -/

/-- A pair of the line has a value in which no table has a key twice. -/
def Line.Distinct : Line → Prop
  | .pair _ v => v.Distinct
  | .header _ _ => True

theorem distinct_line {s rest : List Char} {l : Line} (h : line s = some (l, rest)) :
    l.Distinct := by
  unfold line at h
  split at h
  · unfold header at h
    split at h
    · simp only [Option.bind_eq_bind, Option.bind_eq_some_iff] at h
      obtain ⟨a, -, t, -, u, -, h⟩ := h
      obtain ⟨rfl, -⟩ := Prod.mk.inj (Option.some.inj h)
      trivial
    · simp only [Option.bind_eq_bind, Option.bind_eq_some_iff] at h
      obtain ⟨a, -, t, -, h⟩ := h
      obtain ⟨rfl, -⟩ := Prod.mk.inj (Option.some.inj h)
      trivial
    · exact absurd h (by simp)
  · obtain ⟨⟨p, rest'⟩, hp, hl⟩ := Option.map_eq_some_iff.mp h
    obtain ⟨rfl, -⟩ := Prod.mk.inj hl
    exact (readsDistinct_value depthLimit).pair hp

theorem distinct_lines {fuel : Nat} {s : List Char} {ls : List Line}
    (h : lines fuel s = some ls) : ∀ l ∈ ls, l.Distinct := by
  induction fuel generalizing s ls with
  | zero => exact absurd h (by simp [lines])
  | succ fuel ih =>
    rw [lines] at h
    split at h
    · obtain rfl := Option.some.inj h
      exact nofun
    · split at h
      · obtain ⟨s', -, hs'⟩ := Option.bind_eq_some_iff.mp h
        exact ih hs'
      · simp only [Option.bind_eq_bind, Option.bind_eq_some_iff] at h
        obtain ⟨⟨l, s'⟩, hl, t, -, ls', hls, h⟩ := h
        obtain rfl := Option.some.inj h
        exact List.forall_mem_cons.mpr ⟨distinct_line hl, ih hls⟩

theorem distinct_sections {ls : List Line} (h : ∀ l ∈ ls, l.Distinct) :
    (∀ p ∈ (sections ls).1, p.2.Distinct) ∧
      ∀ sec ∈ (sections ls).2, ∀ p ∈ sec.pairs, p.2.Distinct := by
  induction ls with
  | nil => exact ⟨nofun, nofun⟩
  | cons l ls ih =>
    rw [List.forall_mem_cons] at h
    obtain ⟨hpairs, hsecs⟩ := ih h.2
    cases l with
    | pair path v => exact ⟨List.forall_mem_cons.mpr ⟨h.1, hpairs⟩, hsecs⟩
    | header kind path => exact ⟨nofun, List.forall_mem_cons.mpr ⟨hpairs, hsecs⟩⟩

/-- **Documents name no key twice**, in none of their tables. -/
theorem distinct_of_read {s : List Char} {fields : List (String × Value)}
    (h : read s = some fields) : (Value.table fields).Distinct := by
  simp only [read, Option.bind_eq_bind, Option.bind_eq_some_iff] at h
  obtain ⟨ls, hls, h⟩ := h
  obtain ⟨hpairs, hsecs⟩ := distinct_sections (distinct_lines hls)
  simp only [assemble, Option.bind_eq_bind, Option.bind_eq_some_iff] at h
  obtain ⟨root, hroot, doc, hdoc, h⟩ := h
  obtain rfl := Option.some.inj h
  exact (built_nil.assignAll hpairs hroot).addSections hsecs hdoc

end TrafficRouting.Toml
