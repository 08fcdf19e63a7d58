import Mathlib.Data.List.Forall2
import TrafficRouting.Proofs.Except
import TrafficRouting.Proofs.NameSet
import TrafficRouting.Proofs.OrdMap
import TrafficRouting.Toml.Decode

/-!
# TrafficRouting.Proofs.Toml.Decode — decoders give back what was written as values

Lists, sets of names and dictionaries are decoded item by item (`mapM_eq_ok_iff`, `list_array`,
`names_array`, `dict_table`).
-/

namespace TrafficRouting.Toml

variable {α β ε : Type}

theorem mapM_map_ok {f : β → Except ε α} {g : α → β} {xs : List α}
    (h : ∀ x ∈ xs, f (g x) = .ok x) : (xs.map g).mapM f = .ok xs := by
  induction xs with
  | nil => rfl
  | cons x xs ih =>
    rw [List.map_cons, List.mapM_cons, h x List.mem_cons_self,
      ih fun y hy => h y (List.mem_cons_of_mem x hy)]
    rfl

/-- Item by item. -/
theorem mapM_eq_ok_iff {f : β → Except ε α} {xs : List β} {ys : List α} :
    xs.mapM f = .ok ys ↔ List.Forall₂ (fun x y => f x = .ok y) xs ys := by
  induction xs generalizing ys with
  | nil =>
    rw [List.forall₂_nil_left_iff]
    exact ⟨fun h => (Except.ok.inj h).symm, fun h => h ▸ rfl⟩
  | cons x xs ih =>
    rw [List.mapM_cons, bind_eq_ok_iff, List.forall₂_cons_left_iff]
    constructor
    · rintro ⟨y, hy, h⟩
      obtain ⟨ys', hys, h⟩ := bind_eq_ok_iff.mp h
      exact ⟨y, ys', hy, ih.mp hys, (Except.ok.inj h).symm⟩
    · rintro ⟨y, ys', hy, hys, rfl⟩
      exact ⟨y, hy, bind_eq_ok_iff.mpr ⟨ys', ih.mpr hys, rfl⟩⟩

theorem list_array {d : Decoder α} {g : α → Value} (h : ∀ x, d (g x) = .ok x) (xs : List α) :
    list d (.array (xs.map g)) = .ok xs :=
  mapM_map_ok fun x _ => h x

theorem names_array (s : NameSet) : names (.array (s.toList.map .string)) = .ok s := by
  have htexts : (s.toList.map .string).mapM text = .ok s.toList := mapM_map_ok fun n _ => rfl
  rw [names, htexts]
  exact congrArg Except.ok (NameSet.ofList_toList s)

theorem dict_table {d : Decoder α} {g : α → Value} (h : ∀ x, d (g x) = .ok x) (m : Dict α) :
    dict d (.table (m.entries.map fun e => (e.1, g e.2))) = .ok m := by
  have hentries : (m.entries.map fun e => (e.1, g e.2)).mapM
      (fun e => (d e.2).map (e.1, ·)) = .ok m.entries :=
    mapM_map_ok fun e _ => by
      simp only [h]
      rfl
  rw [dict, Value.fields?]
  simp only [hentries]
  exact congrArg Except.ok (OrdMap.ofList_entries m)

theorem text_string (s : String) : text (.string s) = .ok s := rfl

end TrafficRouting.Toml
