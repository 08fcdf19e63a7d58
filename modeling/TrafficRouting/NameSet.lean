/-!
# TrafficRouting.NameSet — sets of names that keep the order of arrival
-/

namespace TrafficRouting

/-- Distinct names, first arrival first. -/
structure NameSet where
  /-- The members in order. -/
  toList : List String
  /-- Each member occurs once. -/
  nodup : toList.Nodup
deriving DecidableEq, Repr

namespace NameSet

@[ext] theorem ext {s t : NameSet} (h : s.toList = t.toList) : s = t := by
  cases s; cases t; simp_all

/-- No name. -/
def empty : NameSet := ⟨[], by simp⟩

instance : EmptyCollection NameSet := ⟨empty⟩
instance : Inhabited NameSet := ⟨empty⟩

instance : Membership String NameSet := ⟨fun s n => n ∈ s.toList⟩

instance (n : String) (s : NameSet) : Decidable (n ∈ s) :=
  inferInstanceAs (Decidable (n ∈ s.toList))

theorem mem_def {n : String} {s : NameSet} : n ∈ s ↔ n ∈ s.toList := Iff.rfl

/-- Adds a name at the end, unless it is a member. -/
def insert (s : NameSet) (n : String) : NameSet :=
  if h : n ∈ s.toList then s
  else ⟨s.toList ++ [n], by
    rw [List.nodup_append]; exact ⟨s.nodup, by simp, by intro a ha b hb; simp at hb; grind⟩⟩

/-- Adds names one after the other. -/
def insertAll (s : NameSet) (ns : List String) : NameSet := ns.foldl insert s

/-- The distinct names of a list, by first occurrence. -/
def ofList (ns : List String) : NameSet := empty.insertAll ns

/-- Both have the same members; order does not count. -/
def same (s t : NameSet) : Bool :=
  s.toList.length = t.toList.length && s.toList.all fun n => decide (n ∈ t)

@[simp] theorem not_mem_empty (n : String) : n ∉ empty := by simp [mem_def, empty]

@[simp] theorem mem_insert {s : NameSet} {n m : String} : m ∈ s.insert n ↔ m ∈ s ∨ m = n := by
  unfold insert; split <;> simp_all [mem_def]

@[simp] theorem mem_insertAll {s : NameSet} {ns : List String} {m : String} :
    m ∈ s.insertAll ns ↔ m ∈ s ∨ m ∈ ns := by
  induction ns generalizing s with
  | nil => simp [insertAll]
  | cons n ns ih => have := @ih (s.insert n); simp_all [insertAll, or_assoc]

@[simp] theorem mem_ofList {ns : List String} {m : String} : m ∈ ofList ns ↔ m ∈ ns := by
  simp [ofList]

end NameSet

end TrafficRouting
