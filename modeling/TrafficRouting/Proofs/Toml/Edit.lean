import Mathlib.Logic.Relation
import TrafficRouting.Proofs.Toml.Decode
import TrafficRouting.Proofs.Toml.Distinct
import TrafficRouting.Proofs.Toml.Record

/-!
# TrafficRouting.Proofs.Toml.Edit — changes of a document that do not count

The format of a structure lists its fields: their names, which values say what is the default, and
which changes inside of a value do not count.  `Edit` is one such change of the structure itself: a
key that is no field comes in, the keys change places, a field with its default goes, or something
changes inside of a field.  A decoder `Tolerates` changes if it gives the same for what comes out of
them; `tolerates_record` says so of a record whose slots fit a format, and the same holds for lists
and dictionaries of what tolerates changes.
-/

namespace TrafficRouting.Toml

/-! ### Edits -/

/-- A field of a structure. -/
structure Field where
  name : String
  /-- The changes inside of its value that do not count. -/
  edits : Value → Value → Prop := fun _ _ => False
  /-- The values that say what is the default anyway. -/
  idle : Value → Prop := fun _ => False

/-- The fields of a structure, in the order that an array has. -/
abbrev Format := List Field

/-- The value that stands for the field `k` of a structure of a format. -/
def Value.field? (format : Format) (k : String) (v : Value) : Option Value :=
  v.part? (format.map (·.name)) k

/-- One change of a structure of a format that does not count. -/
inductive Edit (format : Format) : Value → Value → Prop
  /-- A key that is no field comes in, anywhere, with any value that a document may have. -/
  | add {l₁ l₂ : List (String × Value)} {k : String} {v : Value}
      (hunknown : k ∉ format.map (·.name)) (hnew : k ∉ (l₁ ++ l₂).map Prod.fst)
      (hv : v.Distinct) : Edit format (.table (l₁ ++ l₂)) (.table (l₁ ++ (k, v) :: l₂))
  /-- The keys change places. -/
  | permute {l l' : List (String × Value)} (h : l.Perm l') : Edit format (.table l) (.table l')
  /-- A field whose value is its default goes. -/
  | leaveOut {l₁ l₂ : List (String × Value)} {field : Field} {v : Value} (hfield : field ∈ format)
      (hv : field.idle v) :
      Edit format (.table (l₁ ++ (field.name, v) :: l₂)) (.table (l₁ ++ l₂))
  /-- Something changes inside of a field. -/
  | inside {l₁ l₂ : List (String × Value)} {field : Field} {v v' : Value}
      (hfield : field ∈ format) (h : field.edits v v') :
      Edit format (.table (l₁ ++ (field.name, v) :: l₂)) (.table (l₁ ++ (field.name, v') :: l₂))
  /-- Something changes inside of a field of a structure that is written as an array. -/
  | insideAt {vs₁ vs₂ : List Value} {field : Field} {v v' : Value}
      (hfield : format[vs₁.length]? = some field) (h : field.edits v v') :
      Edit format (.array (vs₁ ++ v :: vs₂)) (.array (vs₁ ++ v' :: vs₂))

/-- A change in one item of an array. -/
inductive ItemEdit (R : Value → Value → Prop) : Value → Value → Prop
  | item {vs₁ vs₂ : List Value} {v v' : Value} (h : R v v') :
      ItemEdit R (.array (vs₁ ++ v :: vs₂)) (.array (vs₁ ++ v' :: vs₂))

/-- A change in one value of a dictionary; its keys stay. -/
inductive EntryEdit (R : Value → Value → Prop) : Value → Value → Prop
  | entry {l₁ l₂ : List (String × Value)} {k : String} {v v' : Value} (h : R v v') :
      EntryEdit R (.table (l₁ ++ (k, v) :: l₂)) (.table (l₁ ++ (k, v') :: l₂))

/-! ### Several edits further inside -/

variable {R : Value → Value → Prop} {format : Format} {field : Field} {k : String} {v v' : Value}

theorem edits_inside (l₁ l₂ : List (String × Value)) (hfield : field ∈ format)
    (h : Relation.ReflTransGen field.edits v v') :
    Relation.ReflTransGen (Edit format) (.table (l₁ ++ (field.name, v) :: l₂))
      (.table (l₁ ++ (field.name, v') :: l₂)) :=
  h.lift (fun u => Value.table (l₁ ++ (field.name, u) :: l₂)) fun _ _ => .inside hfield

theorem edits_item (vs₁ vs₂ : List Value) (h : Relation.ReflTransGen R v v') :
    Relation.ReflTransGen (ItemEdit R) (.array (vs₁ ++ v :: vs₂)) (.array (vs₁ ++ v' :: vs₂)) :=
  h.lift (fun u => Value.array (vs₁ ++ u :: vs₂)) fun _ _ => .item

theorem edits_entry (l₁ l₂ : List (String × Value)) (h : Relation.ReflTransGen R v v') :
    Relation.ReflTransGen (EntryEdit R) (.table (l₁ ++ (k, v) :: l₂))
      (.table (l₁ ++ (k, v') :: l₂)) :=
  h.lift (fun u => Value.table (l₁ ++ (k, u) :: l₂)) fun _ _ => .entry

/-! ### Decoders that tolerate changes -/

variable {α σ : Type} {d : Decoder α}

/-- What comes out of a change is a value of a document too, and decodes to the same. -/
structure Tolerates (R : Value → Value → Prop) (d : Decoder α) : Prop where
  distinct : ∀ {v v' : Value}, v.Distinct → R v v' → v'.Distinct
  decode : ∀ {v v' : Value} {a : α}, v.Distinct → R v v' → d v = .ok a → d v' = .ok a

theorem tolerates_nothing : Tolerates (fun _ _ => False) d := ⟨nofun, nofun⟩

theorem Tolerates.map {β : Type} (h : Tolerates R d) (f : α → β) :
    Tolerates R fun v => (d v).map f where
  distinct := h.distinct
  decode hv hR hd := by
    obtain ⟨a, ha, rfl⟩ := map_eq_ok_iff.mp hd
    exact map_eq_ok_iff.mpr ⟨a, h.decode hv hR ha, rfl⟩

/-- Several changes, one after the other. -/
theorem Tolerates.reflTransGen (h : Tolerates R d) :
    Tolerates (Relation.ReflTransGen R) d where
  distinct hv hR := by
    induction hR with
    | refl => exact hv
    | tail _ hstep ih => exact h.distinct ih hstep
  decode := by
    intro v v' a hv hR
    -- from the front, so that every value on the way is one of a document
    induction hR using Relation.ReflTransGen.head_induction_on with
    | refl => exact id
    | head hstep _ ih => exact fun ha => ih (h.distinct hv hstep) (h.decode hv hstep ha)

/-- The key in the middle of a table stands nowhere else. -/
theorem distinct_middle_iff {l₁ l₂ : List (String × Value)} {k : String} {v : Value} :
    (Value.table (l₁ ++ (k, v) :: l₂)).Distinct ↔
      k ∉ (l₁ ++ l₂).map Prod.fst ∧ v.Distinct ∧ (Value.table (l₁ ++ l₂)).Distinct := by
  rw [Value.distinct_table_iff, Value.distinct_table_iff, List.map_append, List.map_cons,
    List.nodup_middle, List.nodup_cons, ← List.map_append, List.forall_mem_append,
    List.forall_mem_cons, List.forall_mem_append]
  tauto

/-! ### Lists and dictionaries -/

theorem mapM_replace {β ε : Type} {f : β → Except ε α} {l₁ l₂ : List β} {x x' : β} {as : List α}
    (hx : ∀ a, f x = .ok a → f x' = .ok a) (h : (l₁ ++ x :: l₂).mapM f = .ok as) :
    (l₁ ++ x' :: l₂).mapM f = .ok as := by
  rw [List.mapM_append, bind_eq_ok_iff] at h ⊢
  obtain ⟨as₁, h₁, h⟩ := h
  rw [List.mapM_cons] at h ⊢
  obtain ⟨as', h', h⟩ := bind_eq_ok_iff.mp h
  obtain ⟨a, ha, h'⟩ := bind_eq_ok_iff.mp h'
  exact ⟨as₁, h₁, bind_eq_ok_iff.mpr ⟨as', bind_eq_ok_iff.mpr ⟨a, hx a ha, h'⟩, h⟩⟩

theorem Tolerates.list (h : Tolerates R d) : Tolerates (ItemEdit R) (list d) where
  distinct := by
    rintro _ _ hv ⟨hR⟩
    rw [Value.distinct_array_iff, List.forall_mem_append, List.forall_mem_cons] at hv ⊢
    exact ⟨hv.1, h.distinct hv.2.1 hR, hv.2.2⟩
  decode := by
    rintro _ _ as hv ⟨hR⟩ has
    rw [Value.distinct_array_iff, List.forall_mem_append, List.forall_mem_cons] at hv
    exact mapM_replace (fun a ha => h.decode hv.2.1 hR ha) has

theorem Tolerates.dict (h : Tolerates R d) : Tolerates (EntryEdit R) (dict d) where
  distinct := by
    rintro _ _ hv ⟨hR⟩
    obtain ⟨hnew, hvalue, hrest⟩ := distinct_middle_iff.mp hv
    exact distinct_middle_iff.mpr ⟨hnew, h.distinct hvalue hR, hrest⟩
  decode := by
    rintro _ _ m hv ⟨hR⟩ hm
    obtain ⟨-, hvalue, -⟩ := distinct_middle_iff.mp hv
    obtain ⟨entries, hentries, rfl⟩ := map_eq_ok_iff.mp hm
    refine map_eq_ok_iff.mpr ⟨entries, mapM_replace (fun e he => ?_) hentries, rfl⟩
    obtain ⟨a, ha, rfl⟩ := map_eq_ok_iff.mp he
    exact map_eq_ok_iff.mpr ⟨a, h.decode hvalue hR ha, rfl⟩

/-! ### Records -/

/-- Two slots change a structure in the same way in either order. -/
def Slot.Commute (s t : Slot σ) : Prop :=
  ∀ v w f g, s.decode v = .ok f → t.decode w = .ok g → ∀ x, f (g x) = g (f x)

/-- A slot carries out what a format says of its field. -/
structure Field.Fits (start : σ) (field : Field) (slot : Slot σ) : Prop where
  name : field.name = slot.name
  edits : Tolerates field.edits slot.decode
  idle : ∀ v f, field.idle v → slot.decode v = .ok f → slot.required = false ∧ f start = start

/-- What an edit may do to the value that is found for a field. -/
inductive Field.Change (field : Field) : Option Value → Option Value → Prop
  | same (o : Option Value) : Change field o o
  | gone {v : Value} (hv : field.idle v) : Change field (some v) none
  | inside {v v' : Value} (hv : v.Distinct) (h : field.edits v v') :
      Change field (some v) (some v')

variable {look look' : String → Option Value} {slots : List (Slot σ)} {start x y : σ}
  {l l' l₁ l₂ : List (String × Value)} {k' : String}

theorem names_of_fits (hfits : List.Forall₂ (Field.Fits start) format slots) :
    format.map (·.name) = slots.map (·.name) := by
  induction hfits with
  | nil => rfl
  | cons hfit _ ih => rw [List.map_cons, List.map_cons, hfit.name, ih]

theorem exists_fits (hfits : List.Forall₂ (Field.Fits start) format slots)
    (hfield : field ∈ format) : ∃ slot, field.Fits start slot := by
  induction hfits with
  | nil => exact absurd hfield List.not_mem_nil
  | @cons f slot _ _ hfit _ ih =>
    rcases List.mem_cons.mp hfield with rfl | hfield
    · exact ⟨slot, hfit⟩
    · exact ih hfield

/-- A field that is not left out, whether it must be there or not. -/
theorem fits {n : String} {r : Bool} {set : α → σ → σ} (hd : Tolerates R d) :
    Field.Fits start ⟨n, R, fun _ => False⟩ ⟨n, r, fun v => (d v).map set⟩ :=
  ⟨rfl, hd.map set, nofun⟩

/-- A field that may be left out when it has its default. -/
theorem fits_may {n : String} {a : α} {set : α → σ → σ} (hd : Tolerates R d)
    (hset : set a start = start) :
    Field.Fits start ⟨n, R, fun v => d v = .ok a⟩ (.may n d set) where
  name := rfl
  edits := hd.map set
  idle v f hidle hf := by
    obtain ⟨b, hb, rfl⟩ := map_eq_ok_iff.mp hf
    obtain rfl := Except.ok.inj (hidle.symm.trans hb)
    exact ⟨rfl, hset⟩

theorem commute_map {β : Type} {n m : String} {r r' : Bool} {d : Decoder α} {e : Decoder β}
    {set : α → σ → σ} {put : β → σ → σ} (h : ∀ a b x, set a (put b x) = put b (set a x)) :
    Slot.Commute ⟨n, r, fun v => (d v).map set⟩ ⟨m, r', fun v => (e v).map put⟩ := by
  intro v w f g hf hg x
  obtain ⟨a, -, rfl⟩ := map_eq_ok_iff.mp hf
  obtain ⟨b, -, rfl⟩ := map_eq_ok_iff.mp hg
  exact h a b x

theorem lookup_middle (h : k ∉ (l₁ ++ l₂).map Prod.fst) :
    (l₁ ++ (k, v) :: l₂).lookup k = some v := by
  rw [List.map_append, List.mem_append, not_or] at h
  rw [List.lookup_append, lookup_eq_none_of_not_mem h.1, Option.none_or, List.lookup_cons_self]

theorem lookup_middle_of_ne (h : k ≠ k') :
    (l₁ ++ (k', v) :: l₂).lookup k = (l₁ ++ l₂).lookup k := by
  rw [List.lookup_append, List.lookup_cons, beq_eq_false_iff_ne.mpr h, List.lookup_append]

theorem lookup_perm (hnodup : (l.map Prod.fst).Nodup) (h : l.Perm l') :
    l'.lookup k = l.lookup k := by
  have hnodup' : (l'.map Prod.fst).Nodup := (h.map Prod.fst).nodup_iff.mp hnodup
  refine Option.ext fun v => ?_
  exact (OrdMap.get?_eq_some_iff (d := ⟨l', hnodup'⟩)).trans <|
    h.symm.mem_iff.trans (OrdMap.get?_eq_some_iff (d := ⟨l, hnodup⟩)).symm

theorem change_of_edit (hformat : (format.map (·.name)).Nodup)
    (hl : (Value.table l).Distinct) (h : Edit format (.table l) (.table l'))
    (hfield : field ∈ format) : field.Change (l.lookup field.name) (l'.lookup field.name) := by
  cases h with
  | @add l₁ l₂ k v hunknown hnew hv =>
    have hne : field.name ≠ k := fun he => hunknown (he ▸ List.mem_map_of_mem hfield)
    rw [lookup_middle_of_ne hne]
    exact .same _
  | permute hperm =>
    rw [lookup_perm (Value.distinct_table_iff.mp hl).1 hperm]
    exact .same _
  | @leaveOut l₁ l₂ f v hf hv =>
    obtain ⟨hnew, -, -⟩ := distinct_middle_iff.mp hl
    by_cases he : field.name = f.name
    · obtain rfl := List.inj_on_of_nodup_map hformat hfield hf he
      rw [lookup_middle hnew, lookup_eq_none_of_not_mem hnew]
      exact .gone hv
    · rw [lookup_middle_of_ne he]
      exact .same _
  | @inside l₁ l₂ f v v' hf hR =>
    obtain ⟨hnew, hdistinct, -⟩ := distinct_middle_iff.mp hl
    by_cases he : field.name = f.name
    · obtain rfl := List.inj_on_of_nodup_map hformat hfield hf he
      rw [lookup_middle hnew, lookup_middle hnew]
      exact .inside hdistinct hR
    · rw [lookup_middle_of_ne he, lookup_middle_of_ne he]
      exact .same _

/-- The slot keeps `x` if it asks for what `start` has already. -/
def Slot.Still (slot : Slot σ) (start x : σ) : Prop :=
  ∀ v f, slot.decode v = .ok f → f start = start → f x = x

/-- Other parts that mean the same fill the structure to the same. -/
theorem Filled.change (h : Filled look slots x y)
    (hfits : List.Forall₂ (Field.Fits start) format slots)
    (hcommute : slots.Pairwise Slot.Commute)
    (hchange : ∀ field ∈ format, field.Change (look field.name) (look' field.name))
    (hstill : ∀ slot ∈ slots, slot.Still start x) : Filled look' slots x y := by
  induction h generalizing format with
  | nil x => exact .nil x
  | @found slot rest x y v f hv hf h ih =>
    cases hfits with
    | @cons field _ format _ hfit hfits =>
      rw [List.forall_mem_cons] at hchange hstill
      obtain ⟨hslot, hrest⟩ := List.pairwise_cons.mp hcommute
      -- what the slots behind it keep is not touched by this one
      have hstill' : ∀ t ∈ rest, t.Still start (f x) := fun t ht w g hg hstart => by
        rw [← hslot t ht v w f g hf hg, hstill.2 t ht w g hg hstart]
      have hfilled := ih hfits hrest hchange.2 hstill'
      have hfield := hchange.1
      rw [hfit.name, hv] at hfield
      generalize hv' : look' slot.name = o at hfield
      cases hfield with
      | same => exact .found hv' hf hfilled
      | gone hidle =>
        obtain ⟨hslot, hstart⟩ := hfit.idle v f hidle hf
        rw [hstill.1 v f hf hstart] at hfilled
        exact .absent hv' hslot hfilled
      | inside hdistinct hR => exact .found hv' (hfit.edits.decode hdistinct hR hf) hfilled
  | @absent slot rest x y hv hslot h ih =>
    cases hfits with
    | @cons field _ format _ hfit hfits =>
      rw [List.forall_mem_cons] at hchange hstill
      have hfilled := ih hfits (List.pairwise_cons.mp hcommute).2 hchange.2 hstill.2
      have hfield := hchange.1
      rw [hfit.name, hv] at hfield
      generalize hv' : look' slot.name = o at hfield
      cases hfield with
      | same => exact .absent hv' hslot hfilled

/-- A structure that is written as an array. -/
theorem fillInOrder_inside {name : String} {size i : Nat} {vs₁ vs₂ : List Value}
    (hfits : List.Forall₂ (Field.Fits start) format slots)
    (hfield : format[vs₁.length]? = some field) (hv : v.Distinct) (h : field.edits v v')
    (hfill : fillInOrder name size i slots (vs₁ ++ v :: vs₂) x = .ok y) :
    fillInOrder name size i slots (vs₁ ++ v' :: vs₂) x = .ok y := by
  induction vs₁ generalizing format slots i x with
  | nil =>
    cases hfits with
    | nil => exact absurd hfield (by simp)
    | cons hfit hfits =>
      obtain rfl := Option.some.inj hfield
      obtain ⟨f, hf, hfill⟩ := bind_eq_ok_iff.mp hfill
      exact bind_eq_ok_iff.mpr ⟨f, hfit.edits.decode hv h hf, hfill⟩
  | cons w vs₁ ih =>
    cases hfits with
    | nil => exact absurd hfield (by simp)
    | cons hfit hfits =>
      obtain ⟨f, hf, hfill⟩ := bind_eq_ok_iff.mp hfill
      exact bind_eq_ok_iff.mpr ⟨f, hf, ih hfits hfield hfill⟩

theorem Edit.distinct (hformat : ∀ field ∈ format, ∀ v v' : Value, v.Distinct →
    field.edits v v' → v'.Distinct) (hv : v.Distinct) (h : Edit format v v') : v'.Distinct := by
  cases h with
  | add hunknown hnew hw => exact distinct_middle_iff.mpr ⟨hnew, hw, hv⟩
  | permute hperm =>
    rw [Value.distinct_table_iff] at hv ⊢
    exact ⟨(hperm.map Prod.fst).nodup_iff.mp hv.1, fun e he => hv.2 e (hperm.mem_iff.mpr he)⟩
  | leaveOut hf hw => exact (distinct_middle_iff.mp hv).2.2
  | inside hf hR =>
    obtain ⟨hnew, hvalue, hrest⟩ := distinct_middle_iff.mp hv
    exact distinct_middle_iff.mpr ⟨hnew, hformat _ hf _ _ hvalue hR, hrest⟩
  | insideAt hf hR =>
    rw [Value.distinct_array_iff, List.forall_mem_append, List.forall_mem_cons] at hv ⊢
    exact ⟨hv.1, hformat _ (List.mem_of_getElem? hf) _ _ hv.2.1 hR, hv.2.2⟩

/-- A structure in a table. -/
theorem record_of_edit {name : String} (hfits : List.Forall₂ (Field.Fits start) format slots)
    (hslots : (slots.map (·.name)).Nodup) (hcommute : slots.Pairwise Slot.Commute)
    (hl : (Value.table l).Distinct) (hl' : (Value.table l').Distinct)
    (h : Edit format (.table l) (.table l')) (hx : record name start slots (.table l) = .ok x) :
    record name start slots (.table l') = .ok x := by
  have hformat : (format.map (·.name)).Nodup := by rwa [names_of_fits hfits]
  have hfilled := (record_table_iff hslots (Value.distinct_table_iff.mp hl).1).mp hx
  refine (record_table_iff hslots (Value.distinct_table_iff.mp hl').1).mpr ?_
  exact hfilled.change hfits hcommute (fun field hfield => change_of_edit hformat hl h hfield)
    fun slot _ v f _ hstart => hstart

/-- **Records tolerate edits** of a format that their slots fit. -/
theorem tolerates_record {name : String} (hfits : List.Forall₂ (Field.Fits start) format slots)
    (hslots : (slots.map (·.name)).Nodup) (hcommute : slots.Pairwise Slot.Commute) :
    Tolerates (Edit format) (record name start slots) := by
  have hedits : ∀ field ∈ format, ∀ v v' : Value, v.Distinct → field.edits v v' → v'.Distinct := by
    intro field hfield v v' hv h
    obtain ⟨slot, hslot⟩ := exists_fits hfits hfield
    exact hslot.edits.distinct hv h
  refine ⟨fun hv h => h.distinct hedits hv, fun {v v' x} hv h hx => ?_⟩
  have hv' := h.distinct hedits hv
  cases h with
  | add hunknown hnew hw =>
    exact record_of_edit hfits hslots hcommute hv hv' (.add hunknown hnew hw) hx
  | permute hperm => exact record_of_edit hfits hslots hcommute hv hv' (.permute hperm) hx
  | leaveOut hf hw => exact record_of_edit hfits hslots hcommute hv hv' (.leaveOut hf hw) hx
  | inside hf hR => exact record_of_edit hfits hslots hcommute hv hv' (.inside hf hR) hx
  | insideAt hf hR =>
    rw [Value.distinct_array_iff, List.forall_mem_append, List.forall_mem_cons] at hv
    exact fillInOrder_inside hfits hf hv.2.1 hR hx

end TrafficRouting.Toml
