import Mathlib.Data.List.Induction
import Mathlib.Data.List.Nodup
import TrafficRouting.NameSet

/-!
# TrafficRouting.Proofs.NameSet — sets of names from lists

A list without repetition is the set that is made of it (`toList_insertAll`).  The set that is made of
any other list has each name once, in the order in which the names come up (`firstMentions_ofList`).
-/

namespace TrafficRouting.NameSet

/-- New names are added in their order. -/
theorem toList_insertAll {s : NameSet} {ns : List String} (h : (s.toList ++ ns).Nodup) :
    (s.insertAll ns).toList = s.toList ++ ns := by
  induction ns generalizing s with
  | nil => simp [insertAll]
  | cons n ns ih =>
    have hnew : n ∉ s.toList := by
      rw [List.nodup_append] at h
      exact fun hmem => h.2.2 n hmem n (by simp) rfl
    have hinsert : (s.insert n).toList = s.toList ++ [n] := by simp [insert, hnew]
    have hcons : s.insertAll (n :: ns) = (s.insert n).insertAll ns := rfl
    rw [hcons, ih (by simpa [hinsert] using h), hinsert, List.append_assoc]
    rfl

/-- A set is built again from its members. -/
theorem ofList_toList (s : NameSet) : ofList s.toList = s := by
  apply NameSet.ext
  exact toList_insertAll (s := empty) s.nodup

/-! ### Lists with repetition -/

/-- The names of a list, each of them once, in the order of their first mention. -/
structure FirstMentions (mentions names : List String) : Prop where
  nodup : names.Nodup
  mem_iff : ∀ n, n ∈ names ↔ n ∈ mentions
  ordered : names.Pairwise fun m n => mentions.idxOf m < mentions.idxOf n

theorem ofList_concat (ns : List String) (n : String) :
    ofList (ns ++ [n]) = (ofList ns).insert n :=
  List.foldl_concat _ _ _ _

/-- **A set has the names of its list by first mention.** -/
theorem firstMentions_ofList (ns : List String) : FirstMentions ns (ofList ns).toList := by
  refine ⟨(ofList ns).nodup, fun n => mem_ofList, ?_⟩
  induction ns using List.reverseRecOn with
  | nil => exact List.Pairwise.nil
  | append_singleton ns n ih =>
    -- what comes behind does not change where the others come up first
    have hsame : ∀ m ∈ (ofList ns).toList, (ns ++ [n]).idxOf m = ns.idxOf m := fun m hm =>
      List.idxOf_append_of_mem (mem_ofList.mp hm)
    have hold : (ofList ns).toList.Pairwise fun m m' =>
        (ns ++ [n]).idxOf m < (ns ++ [n]).idxOf m' := by
      refine List.Pairwise.imp_of_mem (fun hm hm' hlt => ?_) ih
      rwa [hsame _ hm, hsame _ hm']
    rw [ofList_concat, insert]
    split
    · exact hold
    · rename_i hnew
      have hn : n ∉ ns := fun h => hnew (mem_ofList.mpr h)
      refine List.pairwise_append.mpr ⟨hold, List.pairwise_singleton _ _, fun m hm m' hm' => ?_⟩
      obtain rfl := List.mem_singleton.mp hm'
      rw [hsame m hm, List.idxOf_append_of_notMem hn]
      exact Nat.lt_add_right _ (List.idxOf_lt_length_of_mem (mem_ofList.mp hm))

end TrafficRouting.NameSet
