import TrafficRouting.Json
import TrafficRouting.Proofs.OrdMap

/-!
# TrafficRouting.Proofs.Json.Same — values that differ only in the order of members

Two values are the same if arrays agree item by item and objects key by key.  Putting the members
of every object in order gives the same value, if no key occurs twice (`same_sorted`), and it does
not change what is found at a path (`at?_sorted`).
-/

namespace TrafficRouting.Json

/-! ### Definitions -/

mutual
/-- The same value; the order of members does not count. -/
def Same : Json → Json → Prop
  | .number m, .number n => m = n
  | .string s, .string t => s = t
  | .array js, .array ks => SameItems js ks
  | .object ms, .object ns =>
    (ms.map Prod.fst).Nodup ∧ (ms.map Prod.fst).Perm (ns.map Prod.fst) ∧ SameMembers ms ns
  | _, _ => False

def SameItems : List Json → List Json → Prop
  | [], [] => True
  | j :: js, k :: ks => Same j k ∧ SameItems js ks
  | _, _ => False

/-- Each member is among the others. -/
def SameMembers : List (String × Json) → List (String × Json) → Prop
  | [], _ => True
  | (key, j) :: ms, ns => (∃ k, (key, k) ∈ ns ∧ Same j k) ∧ SameMembers ms ns
end

mutual
/-- No object has a key twice. -/
def Distinct : Json → Prop
  | .number _ => True
  | .string _ => True
  | .array js => DistinctItems js
  | .object ms => (ms.map Prod.fst).Nodup ∧ DistinctMembers ms

def DistinctItems : List Json → Prop
  | [] => True
  | j :: js => Distinct j ∧ DistinctItems js

def DistinctMembers : List (String × Json) → Prop
  | [] => True
  | (_, j) :: ms => Distinct j ∧ DistinctMembers ms
end

/-- The member of an object under a key. -/
def member? (key : String) : Json → Option Json
  | .object ms => ms.lookup key
  | _ => none

/-- What is found along keys. -/
def at? : List String → Json → Option Json
  | [], j => some j
  | key :: path, j => (j.member? key).bind (at? path)

/-! ### Values without double keys -/

variable {j k : Json} {key : String}

theorem distinctItems_iff {js : List Json} : DistinctItems js ↔ ∀ j ∈ js, j.Distinct := by
  induction js with
  | nil => simp [DistinctItems]
  | cons j js ih => rw [DistinctItems, ih, List.forall_mem_cons]

theorem distinctMembers_iff {ms : List (String × Json)} :
    DistinctMembers ms ↔ ∀ m ∈ ms, m.2.Distinct := by
  induction ms with
  | nil => simp [DistinctMembers]
  | cons m ms ih => rw [DistinctMembers, ih, List.forall_mem_cons]

theorem lookup_eq_some_iff {ms : List (String × Json)} (h : (ms.map Prod.fst).Nodup) :
    ms.lookup key = some j ↔ (key, j) ∈ ms :=
  OrdMap.get?_eq_some_iff (d := ⟨ms, h⟩)

theorem Distinct.member? (h : j.Distinct) (hk : j.member? key = some k) : k.Distinct := by
  cases j with
  | object ms =>
    obtain ⟨hnodup, hmembers⟩ := h
    exact distinctMembers_iff.mp hmembers _ ((lookup_eq_some_iff hnodup).mp hk)
  | _ => simp [Json.member?] at hk

/-! ### Members in order -/

theorem sortedMembers_eq (ms : List (String × Json)) :
    sortedMembers ms = ms.map fun m => (m.1, m.2.sorted) := by
  induction ms with
  | nil => rfl
  | cons m ms ih => rw [sortedMembers, ih, List.map_cons]

theorem map_fst_sortedMembers (ms : List (String × Json)) :
    (sortedMembers ms).map Prod.fst = ms.map Prod.fst := by
  rw [sortedMembers_eq, List.map_map]
  rfl

mutual

theorem same_sorted (j : Json) (h : j.Distinct) : j.Same j.sorted := by
  match j with
  | .number n => rfl
  | .string s => rfl
  | .array js => exact sameItems_sorted js h
  | .object ms =>
    have hperm := (sortedMembers ms).mergeSort_perm fun a b => decide (a.1 ≤ b.1)
    refine ⟨h.1, ?_, sameMembers_sorted ms _ h.2 fun m hm => hperm.symm.subset hm⟩
    exact (map_fst_sortedMembers ms).symm ▸ (hperm.map Prod.fst).symm

theorem sameItems_sorted (js : List Json) (h : DistinctItems js) :
    SameItems js (sortedItems js) := by
  match js with
  | [] => trivial
  | j :: js => exact ⟨same_sorted j h.1, sameItems_sorted js h.2⟩

theorem sameMembers_sorted (ms ns : List (String × Json)) (h : DistinctMembers ms)
    (hns : ∀ m ∈ sortedMembers ms, m ∈ ns) : SameMembers ms ns := by
  match ms with
  | [] => trivial
  | (key, j) :: ms =>
    exact ⟨⟨j.sorted, hns _ List.mem_cons_self, same_sorted j h.1⟩,
      sameMembers_sorted ms ns h.2 fun m hm => hns m (List.mem_cons_of_mem _ hm)⟩

end

/-- The same is found among members in order. -/
theorem member?_sorted (h : j.Distinct) : j.sorted.member? key = (j.member? key).map sorted := by
  cases j with
  | object ms =>
    have hperm := (sortedMembers ms).mergeSort_perm fun a b => decide (a.1 ≤ b.1)
    have hnodup : (((sortedMembers ms).mergeSort fun a b => decide (a.1 ≤ b.1)).map
        Prod.fst).Nodup := by
      rw [(hperm.map Prod.fst).nodup_iff, map_fst_sortedMembers]
      exact h.1
    refine Option.ext fun k => ?_
    rw [sorted, Json.member?, Json.member?, lookup_eq_some_iff hnodup, hperm.mem_iff,
      sortedMembers_eq, List.mem_map, Option.map_eq_some_iff]
    constructor
    · rintro ⟨⟨key', j⟩, hmem, heq⟩
      obtain ⟨rfl, rfl⟩ := Prod.mk.inj heq
      exact ⟨j, (lookup_eq_some_iff h.1).mpr hmem, rfl⟩
    · rintro ⟨j, hj, rfl⟩
      exact ⟨(key, j), (lookup_eq_some_iff h.1).mp hj, rfl⟩
  | _ => rfl

theorem at?_sorted (path : List String) (h : j.Distinct) :
    j.sorted.at? path = (j.at? path).map sorted := by
  induction path generalizing j with
  | nil => rfl
  | cons key path ih =>
    rw [at?, at?, member?_sorted h]
    cases hk : j.member? key with
    | none => rfl
    | some k => exact ih (h.member? hk)

end TrafficRouting.Json
