import TrafficRouting.Proofs.Toml.Decode
import TrafficRouting.Proofs.Toml.Distinct

/-!
# TrafficRouting.Proofs.Toml.Record — what structures and dictionaries take from a value

`Value.part?` is the value that stands for a field: in a table what is under its name, in an array
what is at its place.  `Filled` says slot by slot how a structure comes from its defaults and these
values.  A record is filled with its parts (`filled_of_record`), and a table whose keys are distinct
decodes exactly if the record can be filled (`record_table_iff`), in whatever order its keys stand
and whatever else is in it.  `Filled.part` is one field of the structure.  A dictionary takes every
key of its table (`keepsKeys_of_dict`).
-/

namespace TrafficRouting.Toml

/-- The value that stands for the field `k` of a structure whose fields have these names. -/
def Value.part? (names : List String) (k : String) : Value → Option Value
  | .array vs => (names.zip vs).lookup k
  | v => v.fields?.bind (·.lookup k)

variable {σ α : Type} {look : String → Option Value} {slot : Slot σ} {slots : List (Slot σ)}
  {fields : List (String × Value)} {fs : List (String × (σ → σ))} {x y start : σ}

/-- The slots make `y` of `x`, each with the value that is found for it. -/
inductive Filled (look : String → Option Value) : List (Slot σ) → σ → σ → Prop
  | nil (x : σ) : Filled look [] x x
  | found {slot : Slot σ} {rest : List (Slot σ)} {x y : σ} {v : Value} {f : σ → σ}
      (hv : look slot.name = some v) (hf : slot.decode v = .ok f)
      (h : Filled look rest (f x) y) : Filled look (slot :: rest) x y
  | absent {slot : Slot σ} {rest : List (Slot σ)} {x y : σ} (hv : look slot.name = none)
      (hslot : slot.required = false) (h : Filled look rest x y) : Filled look (slot :: rest) x y

theorem filled_cons_of_some {v : Value} (hv : look slot.name = some v) :
    Filled look (slot :: slots) x y ↔ ∃ f, slot.decode v = .ok f ∧ Filled look slots (f x) y := by
  refine ⟨fun h => ?_, fun ⟨f, hf, h⟩ => .found hv hf h⟩
  cases h with
  | found hw hf h =>
    obtain rfl := Option.some.inj (hv.symm.trans hw)
    exact ⟨_, hf, h⟩
  | absent hw => exact absurd (hv.symm.trans hw) (by simp)

theorem filled_cons_of_none (hv : look slot.name = none) :
    Filled look (slot :: slots) x y ↔ slot.required = false ∧ Filled look slots x y := by
  refine ⟨fun h => ?_, fun ⟨hslot, h⟩ => .absent hv hslot h⟩
  cases h with
  | found hw => exact absurd (hv.symm.trans hw) (by simp)
  | absent hw hslot h => exact ⟨hslot, h⟩

/-- Every value that was found fits its slot. -/
theorem Filled.decodes (h : Filled look slots x y) {slot : Slot σ} (hslot : slot ∈ slots)
    {v : Value} (hv : look slot.name = some v) : ∃ f, slot.decode v = .ok f := by
  induction h with
  | nil => exact absurd hslot List.not_mem_nil
  | found hw hf h ih =>
    rcases List.mem_cons.mp hslot with rfl | hslot
    · obtain rfl := Option.some.inj (hw.symm.trans hv)
      exact ⟨_, hf⟩
    · exact ih hslot
  | absent hw hs h ih =>
    rcases List.mem_cons.mp hslot with rfl | hslot
    · exact absurd (hw.symm.trans hv) (by simp)
    · exact ih hslot

/-! ### Tables -/

theorem find?_name (hslots : (slots.map (·.name)).Nodup) (h : slot ∈ slots) :
    slots.find? (·.name = slot.name) = some slot := by
  induction slots with
  | nil => exact absurd h List.not_mem_nil
  | cons s slots ih =>
    rw [List.map_cons, List.nodup_cons] at hslots
    rcases List.mem_cons.mp h with rfl | h
    · simp
    · have hne : s.name ≠ slot.name := fun he => hslots.1 (he ▸ List.mem_map_of_mem h)
      rw [List.find?_cons_of_neg (by simpa using hne), ih hslots.2 h]

/-- What is found for a slot, and the change it asks for. -/
def Slot.Asks (slot : Slot σ) (v : Option Value) (f : Option (σ → σ)) : Prop :=
  match v, f with
  | some v, some f => slot.decode v = .ok f
  | none, none => True
  | _, _ => False

/-- The changes that a table asks for are found under the same keys as its values. -/
theorem asks_of_changes (hslots : (slots.map (·.name)).Nodup) (hslot : slot ∈ slots)
    (h : changes slots fields = .ok fs) :
    slot.Asks (fields.lookup slot.name) (fs.lookup slot.name) := by
  induction fields generalizing fs with
  | nil =>
    obtain rfl := Except.ok.inj h
    trivial
  | cons e fields ih =>
    obtain ⟨k, v⟩ := e
    rw [changes] at h
    split at h
    case h_1 s hs =>
      obtain ⟨f, hf, h⟩ := bind_eq_ok_iff.mp h
      obtain ⟨fs', hfs', h⟩ := bind_eq_ok_iff.mp h
      obtain rfl := Except.ok.inj h
      by_cases hk : slot.name = k
      · subst hk
        obtain rfl := Option.some.inj ((find?_name hslots hslot).symm.trans hs)
        simpa [Slot.Asks] using hf
      · rw [List.lookup_cons, List.lookup_cons, beq_eq_false_iff_ne.mpr hk]
        exact ih hfs'
    case h_2 hs =>
      have hk : slot.name ≠ k := fun he => by
        rw [← he, find?_name hslots hslot] at hs
        exact absurd hs (by simp)
      rw [List.lookup_cons, beq_eq_false_iff_ne.mpr hk]
      exact ih h

theorem exists_changes (hfields : (fields.map Prod.fst).Nodup)
    (h : ∀ slot ∈ slots, ∀ v, fields.lookup slot.name = some v → ∃ f, slot.decode v = .ok f) :
    ∃ fs, changes slots fields = .ok fs := by
  induction fields with
  | nil => exact ⟨[], rfl⟩
  | cons e fields ih =>
    obtain ⟨k, v⟩ := e
    rw [List.map_cons, List.nodup_cons] at hfields
    -- the first key does not come again, so what is found behind it was found before
    obtain ⟨fs, hfs⟩ := ih hfields.2 fun slot hslot w hw => by
      refine h slot hslot w ?_
      have hk : slot.name ≠ k := fun he => hfields.1 <| by
        obtain ⟨f, g, rfl, -⟩ := List.lookup_eq_some_iff.mp hw
        simp [he]
      rw [List.lookup_cons, beq_eq_false_iff_ne.mpr hk]
      exact hw
    rw [changes]
    split
    case h_1 s hs =>
      have hname : s.name = k := by simpa using List.find?_some hs
      obtain ⟨f, hf⟩ := h s (List.mem_of_find?_eq_some hs) v (by simp [hname])
      exact ⟨(k, f) :: fs, bind_eq_ok_iff.mpr ⟨f, hf, bind_eq_ok_iff.mpr ⟨fs, hfs, rfl⟩⟩⟩
    case h_2 => exact ⟨fs, hfs⟩

theorem fill_eq_ok_iff (h : ∀ slot ∈ slots, slot.Asks (look slot.name) (fs.lookup slot.name)) :
    fill fs slots x = .ok y ↔ Filled look slots x y := by
  induction slots generalizing x with
  | nil => exact ⟨fun he => Except.ok.inj he ▸ .nil x, fun he => by cases he; rfl⟩
  | cons slot slots ih =>
    rw [List.forall_mem_cons] at h
    obtain ⟨hslot, hrest⟩ := h
    rw [fill]
    cases hv : look slot.name with
    | none =>
      cases hf : fs.lookup slot.name with
      | none =>
        rw [filled_cons_of_none hv, guard_eq_ok_iff, ih hrest, Bool.not_eq_true]
      | some f => exact absurd hslot (by simp [hv, hf, Slot.Asks])
    | some v =>
      cases hf : fs.lookup slot.name with
      | none => exact absurd hslot (by simp [hv, hf, Slot.Asks])
      | some f =>
        rw [hv, hf] at hslot
        rw [filled_cons_of_some hv, ih hrest]
        refine ⟨fun h => ⟨f, hslot, h⟩, fun ⟨g, hg, h⟩ => ?_⟩
        obtain rfl := Except.ok.inj (Eq.trans (Eq.symm hslot) hg)
        exact h

/-- A table decodes if its parts fill the structure, for its keys are distinct. -/
theorem record_table_iff {name : String} (hslots : (slots.map (·.name)).Nodup)
    (hfields : (fields.map Prod.fst).Nodup) :
    record name start slots (.table fields) = .ok x ↔
      Filled (fun k => fields.lookup k) slots start x := by
  have hrecord : record name start slots (.table fields) =
      changes slots fields >>= fun fs => fill fs slots start := rfl
  rw [hrecord, bind_eq_ok_iff]
  constructor
  · rintro ⟨fs, hfs, h⟩
    exact (fill_eq_ok_iff fun slot hslot => asks_of_changes hslots hslot hfs).mp h
  · intro h
    obtain ⟨fs, hfs⟩ := exists_changes hfields fun slot hslot v hv => h.decodes hslot hv
    exact ⟨fs, hfs, (fill_eq_ok_iff fun slot hslot => asks_of_changes hslots hslot hfs).mpr h⟩

/-! ### Any value -/

theorem Filled.congr {look' : String → Option Value} (h : Filled look slots x y)
    (hlook : ∀ slot ∈ slots, look' slot.name = look slot.name) : Filled look' slots x y := by
  induction h with
  | nil x => exact .nil x
  | found hv hf h ih =>
    rw [List.forall_mem_cons] at hlook
    exact .found (hlook.1.trans hv) hf (ih hlook.2)
  | absent hv hslot h ih =>
    rw [List.forall_mem_cons] at hlook
    exact .absent (hlook.1.trans hv) hslot (ih hlook.2)

theorem filled_of_fillInOrder {name : String} {size i : Nat} {vs : List Value}
    (hslots : (slots.map (·.name)).Nodup)
    (h : fillInOrder name size i slots vs x = .ok y) :
    Filled (fun k => ((slots.map (·.name)).zip vs).lookup k) slots x y := by
  induction slots generalizing i vs x with
  | nil =>
    obtain rfl := Except.ok.inj h
    exact .nil x
  | cons slot slots ih =>
    rw [List.map_cons, List.nodup_cons] at hslots
    cases vs with
    | nil =>
      obtain ⟨hslot, h⟩ := guard_eq_ok_iff.mp h
      refine .absent (by simp) (by simpa using hslot) ((ih hslots.2 h).congr fun s hs => ?_)
      simp
    | cons v vs =>
      obtain ⟨f, hf, h⟩ := bind_eq_ok_iff.mp h
      refine .found (by simp) hf ((ih hslots.2 h).congr fun s hs => ?_)
      -- the name of the first slot does not come again
      have hne : s.name ≠ slot.name := fun he => hslots.1 (he ▸ List.mem_map_of_mem hs)
      rw [List.map_cons, List.zip_cons_cons, List.lookup_cons, beq_eq_false_iff_ne.mpr hne]

theorem Value.part?_of_fields {v : Value} (h : v.fields? = some fields) (names : List String)
    (k : String) : v.part? names k = fields.lookup k := by
  cases v <;> simp_all [part?, fields?]

/-- A record is filled with its parts. -/
theorem filled_of_record {name : String} {v : Value} (hslots : (slots.map (·.name)).Nodup)
    (h : record name start slots v = .ok x) :
    Filled (fun k => v.part? (slots.map (·.name)) k) slots start x := by
  unfold record at h
  split at h
  case h_1 vs => exact filled_of_fillInOrder hslots h
  case h_2 v hv =>
    split at h
    case h_1 fields hfields =>
      obtain ⟨fs, hfs, h⟩ := bind_eq_ok_iff.mp h
      have hfilled : Filled (fun k => fields.lookup k) slots start x :=
        (fill_eq_ok_iff fun slot hslot => asks_of_changes hslots hslot hfs).mp h
      exact hfilled.congr fun slot _ => Value.part?_of_fields hfields _ slot.name
    case h_2 => exact absurd h (by simp)

/-! ### One field -/

/-- What `P` says of the value that was found, or the default if none was. -/
def Part (P : Value → α → Prop) (default : α) : Option Value → α → Prop
  | some v, a => P v a
  | none, a => a = default

theorem Part.imp {P Q : Value → α → Prop} {default a : α} {o : Option Value}
    (h : Part P default o a) (hpq : ∀ v, o = some v → P v a → Q v a) : Part Q default o a := by
  cases o with
  | none => exact h
  | some v => exact hpq v rfl h

/-- The slot does not touch what `get` reads. -/
def Slot.Spares (slot : Slot σ) (get : σ → α) : Prop :=
  ∀ v f, slot.decode v = .ok f → ∀ x, get (f x) = get x

theorem spares_map {β : Type} {n : String} {r : Bool} {d : Decoder β} {set : β → σ → σ}
    {get : σ → α} (h : ∀ b x, get (set b x) = get x) :
    Slot.Spares ⟨n, r, fun v => (d v).map set⟩ get := by
  intro v f hf x
  obtain ⟨b, -, rfl⟩ := map_eq_ok_iff.mp hf
  exact h b x

theorem Filled.get_eq {get : σ → α} (h : Filled look slots x y)
    (hspares : ∀ slot ∈ slots, slot.Spares get) : get y = get x := by
  induction h with
  | nil x => rfl
  | found hv hf h ih =>
    rw [List.forall_mem_cons] at hspares
    exact (ih hspares.2).trans (hspares.1 _ _ hf _)
  | absent hv hslot h ih =>
    rw [List.forall_mem_cons] at hspares
    exact ih hspares.2

/-- A field that one slot sets is decoded from its value, or as it was. -/
theorem Filled.part {β : Type} (pre post : List (Slot σ)) {n : String} {r : Bool} {d : Decoder β}
    {set : β → σ → σ} {wrap : β → α} (get : σ → α)
    (h : Filled look (pre ++ ⟨n, r, fun v => (d v).map set⟩ :: post) x y)
    (hget : ∀ b x, get (set b x) = wrap b) (hspares : ∀ slot ∈ pre ++ post, slot.Spares get) :
    Part (fun v a => ∃ b, d v = .ok b ∧ a = wrap b) (get x) (look n) (get y) := by
  induction pre generalizing x with
  | nil =>
    cases h with
    | found hv hf h =>
      obtain ⟨b, hb, rfl⟩ := map_eq_ok_iff.mp hf
      rw [h.get_eq hspares, hget, hv]
      exact ⟨b, hb, rfl⟩
    | absent hv hslot h =>
      rw [h.get_eq hspares, hv]
      rfl
  | cons slot pre ih =>
    rw [List.cons_append, List.forall_mem_cons] at hspares
    cases h with
    | found hv hf h =>
      rw [← hspares.1 _ _ hf x]
      exact ih h hspares.2
    | absent hv hslot h => exact ih h hspares.2

/-- A field that must be there is there. -/
theorem Filled.exists_of_required (h : Filled look slots x y) (hslot : slot ∈ slots)
    (hrequired : slot.required = true) : ∃ v, look slot.name = some v := by
  induction h with
  | nil => exact absurd hslot List.not_mem_nil
  | found hv hf h ih =>
    rcases List.mem_cons.mp hslot with rfl | hslot
    · exact ⟨_, hv⟩
    · exact ih hslot
  | absent hv hs h ih =>
    rcases List.mem_cons.mp hslot with rfl | hslot
    · exact absurd (hs.symm.trans hrequired) (by simp)
    · exact ih hslot

/-! ### Lists and dictionaries -/

/-- The dictionary has the keys of a table, all of them and in order, each with something of which
`P` says that it comes from the value. -/
def KeepsKeys (P : Value → α → Prop) (v : Value) (m : Dict α) : Prop :=
  ∃ fields, v.fields? = some fields ∧
    List.Forall₂ (fun e f => e.1 = f.1 ∧ P e.2 f.2) fields m.entries

theorem Value.Distinct.fields? {v : Value} (h : v.Distinct) (hv : v.fields? = some fields) :
    (fields.map Prod.fst).Nodup ∧ ∀ e ∈ fields, e.2.Distinct := by
  cases v with
  | table l =>
    obtain rfl := Option.some.inj hv
    exact Value.distinct_table_iff.mp h
  | dateTime d =>
    obtain rfl := Option.some.inj hv
    exact ⟨List.nodup_singleton _, List.forall_mem_singleton.mpr (.string _)⟩
  | _ => exact absurd hv (by simp [Value.fields?])

theorem Value.Distinct.part? {v w : Value} {names : List String} {k : String} (h : v.Distinct)
    (hw : v.part? names k = some w) : w.Distinct := by
  cases hfields : v.fields? with
  | some fields =>
    rw [Value.part?_of_fields hfields] at hw
    obtain ⟨f, g, rfl, -⟩ := List.lookup_eq_some_iff.mp hw
    exact (h.fields? hfields).2 (k, w) (by simp)
  | none =>
    cases v with
    | array vs =>
      obtain ⟨f, g, hzip, -⟩ := List.lookup_eq_some_iff.mp hw
      have hmem : (k, w) ∈ names.zip vs := by simp [hzip]
      exact Value.distinct_array_iff.mp h w (List.of_mem_zip hmem).2
    | _ => simp_all [Value.part?, Value.fields?]

theorem exists_items_of_list {P : Value → α → Prop} {d : Decoder α} {v : Value} {as : List α}
    (hP : ∀ w a, w.Distinct → d w = .ok a → P w a) (hv : v.Distinct) (h : list d v = .ok as) :
    ∃ vs, v = .array vs ∧ List.Forall₂ P vs as := by
  cases v with
  | array vs =>
    have hdecoded := mapM_eq_ok_iff.mp h
    refine ⟨vs, rfl, ?_⟩
    exact ((List.forall₂_and_left _ _).mpr ⟨Value.distinct_array_iff.mp hv, hdecoded⟩).imp
      fun w a hw => hP w a hw.1 hw.2
  | _ => exact absurd h (by simp [list])

/-- **Dictionaries keep every key.** -/
theorem keepsKeys_of_dict {P : Value → α → Prop} {d : Decoder α} {v : Value} {m : Dict α}
    (hP : ∀ w a, w.Distinct → d w = .ok a → P w a) (hv : v.Distinct) (h : dict d v = .ok m) :
    KeepsKeys P v m := by
  unfold dict at h
  split at h
  case h_1 fields hfields =>
    obtain ⟨hnodup, hvalues⟩ := hv.fields? hfields
    obtain ⟨entries, hentries, rfl⟩ := map_eq_ok_iff.mp h
    have hall : List.Forall₂ (fun e f => e.1 = f.1 ∧ P e.2 f.2) fields entries := by
      have hdecoded := mapM_eq_ok_iff.mp hentries
      refine ((List.forall₂_and_left _ _).mpr ⟨hvalues, hdecoded⟩).imp fun e f hf => ?_
      obtain ⟨a, ha, rfl⟩ := map_eq_ok_iff.mp hf.2
      exact ⟨rfl, hP e.2 a hf.1 ha⟩
    have hkeys : fields.map Prod.fst = entries.map Prod.fst := by
      rw [← List.forall₂_eq_eq_eq, List.forall₂_map_left_iff, List.forall₂_map_right_iff]
      exact hall.imp fun e f hf => hf.1
    refine ⟨fields, hfields, ?_⟩
    rwa [OrdMap.entries_ofList (hkeys ▸ hnodup)]
  case h_2 => exact absurd h (by simp)

end TrafficRouting.Toml
