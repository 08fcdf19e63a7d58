import TrafficRouting.Alteration
import TrafficRouting.Proofs.Except
import TrafficRouting.Proofs.Rulebook.Merge
import TrafficRouting.Proofs.Rulebook.Resolution
import TrafficRouting.Proofs.Segment.Delta

/-!
# TrafficRouting.Proofs.Alteration.Accepted — which requests are accepted, and what they lead to

A request is accepted if it mentions only strategies that there are and types that are known
(`check_eq_ok_iff`).  `execute_cases` is all that applying a request can do: a refused one leaves
everything as it was, an accepted one publishes the merged rulebook and hands it to the sink.
-/

namespace TrafficRouting.Alteration

variable {σ : Type} {known : KnownTypes} {current r : Rulebook} {segments : List Segment}

theorem ofList_toList_eq_nil_iff {l : List String} : (NameSet.ofList l).toList = [] ↔ l = [] := by
  rw [List.eq_nil_iff_forall_not_mem, List.eq_nil_iff_forall_not_mem]
  exact forall_congr' fun n => not_congr NameSet.mem_ofList

theorem missing_eq_nil_iff :
    missing current segments = [] ↔ ∀ g ∈ segments, g.name ∈ current.names := by
  rw [missing, ofList_toList_eq_nil_iff, List.filter_eq_nil_iff]
  simp

theorem unknownTypesOf_eq_nil_iff {g : Segment} :
    unknownTypesOf known g = [] ↔ known.hasAlgorithm g.algorithm.type = true ∧
      ∀ b, g.loadBalancer = some b → known.hasLoadBalancer b.type = true := by
  unfold unknownTypesOf
  rw [List.append_eq_nil_iff]
  refine and_congr (by simp) ?_
  cases g.loadBalancer with
  | none => simp
  | some b => simp

theorem unknownTypes_eq_nil_iff : unknownTypes known segments = [] ↔ TypesKnown known segments := by
  rw [unknownTypes, ofList_toList_eq_nil_iff, List.flatMap_eq_nil_iff]
  exact forall₂_congr fun g _ => unknownTypesOf_eq_nil_iff

/-- **Acceptance**: known strategies and known types, nothing else. -/
theorem check_eq_ok_iff :
    check known current segments = .ok () ↔
      (∀ g ∈ segments, g.name ∈ current.names) ∧ TypesKnown known segments := by
  rw [← missing_eq_nil_iff, ← unknownTypes_eq_nil_iff, check]
  by_cases hm : missing current segments = []
  · by_cases hu : unknownTypes known segments = []
    · simp [hm, hu]
    · simp [hm, hu]
  · simp [hm]

theorem preview_eq_ok_iff :
    preview known current segments = .ok r ↔
      check known current segments = .ok () ∧ r = current.merge (delta segments) := by
  unfold preview
  rw [bind_eq_ok_iff]
  constructor
  · rintro ⟨u, hc, h⟩
    exact ⟨hc, (Except.ok.inj h).symm⟩
  · rintro ⟨hc, rfl⟩
    exact ⟨(), hc, rfl⟩

/-- All that applying a request can do. -/
theorem execute_cases (known : KnownTypes) (sink : Option (Sink σ)) (segments : List Segment)
    (st : State σ) :
    (∃ e, check known st.live.rulebook segments = .error e ∧
      execute known sink segments st = (.error e, st)) ∨
    (check known st.live.rulebook segments = .ok () ∧
      ∃ r, r = st.live.rulebook.merge (delta segments) ∧
        execute known sink segments st =
          (.ok ⟨st.live.version + 1, r.strategies.length, (keep sink r st.store).1⟩,
            ⟨st.live.publish r, (keep sink r st.store).2⟩)) := by
  unfold execute preview
  cases hc : check known st.live.rulebook segments with
  | error e => exact Or.inl ⟨e, rfl, rfl⟩
  | ok u => exact Or.inr ⟨rfl, _, rfl, rfl⟩

/-- What is live after an accepted request is the merged rulebook. -/
theorem live_of_execute_ok {sink : Option (Sink σ)} {st st' : State σ} {o : Outcome}
    (h : execute known sink segments st = (.ok o, st')) :
    check known st.live.rulebook segments = .ok () ∧
      st'.live = st.live.publish (st.live.rulebook.merge (delta segments)) := by
  rcases execute_cases known sink segments st with ⟨e, -, he⟩ | ⟨hc, r, rfl, he⟩
  · rw [he] at h
    simp at h
  · rw [he, Prod.mk.injEq] at h
    exact ⟨hc, h.2 ▸ rfl⟩

/-- An accepted request keeps a sound rulebook sound. -/
theorem sound_merge_delta (hs : current.Sound known) (hc : check known current segments = .ok ()) :
    (current.merge (delta segments)).Sound known :=
  hs.toClosed.merge (closed_delta (check_eq_ok_iff.mp hc).2)

/-- So does every request, since a refused one changes nothing. -/
theorem sound_execute {sink : Option (Sink σ)} {st : State σ} (h : st.live.rulebook.Sound known) :
    (execute known sink segments st).2.live.rulebook.Sound known := by
  rcases execute_cases known sink segments st with ⟨e, -, he⟩ | ⟨hc, r, rfl, he⟩
  · rw [he]
    exact h
  · rw [he]
    exact sound_merge_delta h hc

/-- An accepted request keeps the names of the strategies. -/
theorem mem_names_merge_delta (hc : check known current segments = .ok ()) {n : String} :
    n ∈ (current.merge (delta segments)).names ↔ n ∈ current.names := by
  refine Rulebook.mem_names_merge fun m hm => ?_
  obtain ⟨g, hg, rfl⟩ := List.mem_map.mp (mem_names_delta.mp hm)
  exact (check_eq_ok_iff.mp hc).1 g hg

end TrafficRouting.Alteration
