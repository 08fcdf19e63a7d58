/-!
# TrafficRouting.OrdMap — finite maps that keep the order of arrival

An `OrdMap κ α` maps distinct keys to values. It iterates in the order in which the keys arrived; a
later value of a key takes the place of the earlier one. A `Dict` has strings for keys.

* `get?_insert`: looking up after an insertion.
* `keys_insert`: a known key keeps its place, a new one goes to the end.
-/

namespace TrafficRouting

variable {κ α : Type} [DecidableEq κ]

/-! ### Lists of entries -/

/-- Sets the value of `k`: in place where `k` occurs, else at the end. -/
def putEntry (k : κ) (v : α) : List (κ × α) → List (κ × α)
  | [] => [(k, v)]
  | e :: rest => if e.1 = k then (k, v) :: rest else e :: putEntry k v rest

theorem map_fst_putEntry (k : κ) (v : α) (l : List (κ × α)) :
    (putEntry k v l).map Prod.fst =
      if k ∈ l.map Prod.fst then l.map Prod.fst else l.map Prod.fst ++ [k] := by
  induction l with
  | nil => simp [putEntry]
  | cons e rest ih => grind [putEntry]

theorem nodup_putEntry {k : κ} {v : α} {l : List (κ × α)} (h : (l.map Prod.fst).Nodup) :
    ((putEntry k v l).map Prod.fst).Nodup := by
  rw [map_fst_putEntry]
  split
  · exact h
  · rename_i hk
    rw [List.nodup_append]
    exact ⟨h, by simp, by intro a ha b hb; simp at hb; grind⟩

theorem lookup_putEntry (k k' : κ) (v : α) (l : List (κ × α)) :
    (putEntry k v l).lookup k' = if k' = k then some v else l.lookup k' := by
  induction l with
  | nil => grind [putEntry]
  | cons e rest ih => grind [putEntry]

/-! ### Maps -/

/-- A finite map in order of arrival. -/
structure OrdMap (κ α : Type) where
  /-- The entries, first arrival first. -/
  entries : List (κ × α)
  /-- Each key has one entry. -/
  nodup : (entries.map Prod.fst).Nodup
deriving DecidableEq, Repr

/-- A finite map from strings in order of arrival. -/
abbrev Dict (α : Type) := OrdMap String α

namespace OrdMap

omit [DecidableEq κ] in
@[ext] theorem ext {d e : OrdMap κ α} (h : d.entries = e.entries) : d = e := by
  cases d; cases e; simp_all

/-- No entry. -/
def empty : OrdMap κ α := ⟨[], by simp⟩

instance : EmptyCollection (OrdMap κ α) := ⟨empty⟩
instance : Inhabited (OrdMap κ α) := ⟨empty⟩

/-- The keys in order. -/
def keys (d : OrdMap κ α) : List κ := d.entries.map Prod.fst

/-- The value of a key. -/
def get? (d : OrdMap κ α) (k : κ) : Option α := d.entries.lookup k

/-- The key has a value. -/
def contains (d : OrdMap κ α) (k : κ) : Bool := (d.get? k).isSome

/-- Sets the value of a key; a new key goes to the end. -/
def insert (d : OrdMap κ α) (k : κ) (v : α) : OrdMap κ α :=
  ⟨putEntry k v d.entries, nodup_putEntry d.nodup⟩

/-- Later values replace earlier ones in place. -/
def ofList (l : List (κ × α)) : OrdMap κ α := l.foldl (fun d e => d.insert e.1 e.2) empty

/-- The entries of `e` laid over those of `d`. -/
def overlay (d e : OrdMap κ α) : OrdMap κ α := e.entries.foldl (fun d e => d.insert e.1 e.2) d

omit [DecidableEq κ] in
/-- The entries whose key passes. -/
def restrict (d : OrdMap κ α) (p : κ → Bool) : OrdMap κ α :=
  ⟨d.entries.filter fun e => p e.1, d.nodup.sublist (List.filter_sublist.map _)⟩

/-- Both have the same keys, and `eq` holds between their values; order does not count. -/
def same (eq : α → α → Bool) (d e : OrdMap κ α) : Bool :=
  d.entries.length = e.entries.length &&
    d.entries.all fun x => match e.get? x.1 with
      | some v => eq x.2 v
      | none => false

@[simp] theorem get?_empty (k : κ) : (empty : OrdMap κ α).get? k = none := rfl

omit [DecidableEq κ] in
@[simp] theorem keys_empty : (empty : OrdMap κ α).keys = [] := rfl

theorem get?_insert (d : OrdMap κ α) (k k' : κ) (v : α) :
    (d.insert k v).get? k' = if k' = k then some v else d.get? k' :=
  lookup_putEntry k k' v d.entries

theorem keys_insert (d : OrdMap κ α) (k : κ) (v : α) :
    (d.insert k v).keys = if k ∈ d.keys then d.keys else d.keys ++ [k] :=
  map_fst_putEntry k v d.entries

omit [DecidableEq κ] in
theorem keys_restrict (d : OrdMap κ α) (p : κ → Bool) :
    (d.restrict p).keys = d.keys.filter p := by
  simp [keys, restrict, List.filter_map]; rfl

end OrdMap

end TrafficRouting
