import TrafficRouting.Proofs.Alteration.Accepted
import TrafficRouting.Proofs.ControlPlane.Run

/-!
# TrafficRouting.Proofs.ControlPlane.NoTrace — refusals and previews leave no trace

A preview answers what the request would lead to, and a refused request answers why it is refused;
both leave the control plane as it was (`apply_of_leavesNoTrace`).  So they can be left out of a
run: what remains gets the same answers and ends in the same state (`refusals_leave_no_trace`).
-/

namespace TrafficRouting

/-- With this answer the operation is a preview or a refused request. -/
def Operation.leavesNoTrace : Operation → Answer → Bool
  | preview _, _ => true
  | execute _, .executed (.error _) => true
  | _, _ => false

namespace ControlPlane

variable {σ : Type}

/-- Every operation is answered. -/
theorem length_answers (p : ControlPlane σ) (ops : List Operation) :
    (p.run ops).1.length = ops.length := by
  induction ops generalizing p with
  | nil => rfl
  | cons o ops ih => rw [run_cons, List.length_cons, List.length_cons, ih]

/-- The operations of a run with their answers, without previews and refused requests. -/
def traces (p : ControlPlane σ) (ops : List Operation) : List (Operation × Answer) :=
  (ops.zip (p.run ops).1).filter fun x => !x.1.leavesNoTrace x.2

theorem traces_cons (p : ControlPlane σ) (o : Operation) (ops : List Operation) :
    p.traces (o :: ops) =
      if o.leavesNoTrace (p.apply o).1 = true then (p.apply o).2.traces ops
      else (o, (p.apply o).1) :: (p.apply o).2.traces ops := by
  rw [traces, run_cons, List.zip_cons_cons, List.filter_cons]
  by_cases h : o.leavesNoTrace (p.apply o).1 = true
  · rw [if_neg (by simp [h]), if_pos h]
    rfl
  · rw [if_pos (by simp [h]), if_neg h]
    rfl

/-! ### Single operations -/

theorem apply_of_leavesNoTrace {p : ControlPlane σ} {o : Operation}
    (h : o.leavesNoTrace (p.apply o).1 = true) : (p.apply o).2 = p := by
  cases o with
  | execute segments =>
    rcases Alteration.execute_cases p.known p.sink segments p.alterable with
      ⟨e, -, he⟩ | ⟨-, r, -, he⟩
    · simp only [apply, he]
      rfl
    · simp [apply, he, Operation.leavesNoTrace] at h
  | preview segments => rfl
  | publish r => simp [Operation.leavesNoTrace] at h
  | register as bs => simp [Operation.leavesNoTrace] at h
  | reload r => simp [Operation.leavesNoTrace] at h
  | ring => simp [Operation.leavesNoTrace] at h
  | dropBell => simp [Operation.leavesNoTrace] at h
  | close => simp [Operation.leavesNoTrace] at h

theorem answer_preview (p : ControlPlane σ) (segments : List Segment) :
    (p.apply (.preview segments)).1 =
      .previewed (Alteration.preview p.known p.live.rulebook segments) := rfl

/-- Applying a request begins with the preview of it. -/
theorem apply_execute_cases (p : ControlPlane σ) (segments : List Segment) :
    (∃ e, (p.apply (.preview segments)).1 = .previewed (.error e) ∧
      (p.apply (.execute segments)).1 = .executed (.error e)) ∨
    ∃ r o, (p.apply (.preview segments)).1 = .previewed (.ok r) ∧
      (p.apply (.execute segments)).1 = .executed (.ok o) ∧
      (p.apply (.execute segments)).2.live = p.live.publish r := by
  have hlive : p.alterable.live.rulebook = p.live.rulebook := rfl
  rw [answer_preview, apply, Alteration.execute, hlive]
  cases Alteration.preview p.known p.live.rulebook segments with
  | error e => exact Or.inl ⟨e, rfl, rfl⟩
  | ok r => exact Or.inr ⟨r, _, rfl, rfl, rfl⟩

/-- A request is refused exactly as its preview is. -/
theorem refused_iff (p : ControlPlane σ) (segments : List Segment) (e : Refusal) :
    (p.apply (.execute segments)).1 = .executed (.error e) ↔
      (p.apply (.preview segments)).1 = .previewed (.error e) := by
  rcases p.apply_execute_cases segments with ⟨e', hp, he⟩ | ⟨r, o, hp, he, -⟩
  · rw [hp, he]
    simp
  · rw [hp, he]
    simp

/-- An accepted request publishes exactly what its preview shows. -/
theorem accepted_and_published_iff (p : ControlPlane σ) (segments : List Segment) (r : Rulebook) :
    ((∃ o, (p.apply (.execute segments)).1 = .executed (.ok o)) ∧
        (p.apply (.execute segments)).2.live = p.live.publish r) ↔
      (p.apply (.preview segments)).1 = .previewed (.ok r) := by
  rcases p.apply_execute_cases segments with ⟨e, hp, he⟩ | ⟨r', o, hp, he, hlive⟩
  · rw [hp, he]
    simp
  · rw [hp, he, hlive]
    constructor
    · rintro ⟨-, hpublish⟩
      obtain rfl : r' = r := congrArg Snapshot.rulebook hpublish
      rfl
    · intro h
      simp only [Answer.previewed.injEq, Except.ok.injEq] at h
      exact ⟨⟨o, rfl⟩, h ▸ rfl⟩

/-! ### Runs -/

/-- **Refusals and previews leave no trace.**  Every operation of a run is answered.  Without its
previews and its refused requests the run ends in the same state, with all that is in it, and the
other operations get the same answers.  In every state a request is refused exactly as its preview
is, and is accepted exactly if its preview is, with what the preview shows made live. -/
theorem refusals_leave_no_trace (p : ControlPlane σ) (ops : List Operation) :
    ((p.run ops).1.length = ops.length ∧
      p.run ((p.traces ops).map Prod.fst) = ((p.traces ops).map Prod.snd, (p.run ops).2)) ∧
    ∀ (q : ControlPlane σ) (segments : List Segment),
      (∀ e, (q.apply (.execute segments)).1 = .executed (.error e) ↔
        (q.apply (.preview segments)).1 = .previewed (.error e)) ∧
      ∀ r, ((∃ o, (q.apply (.execute segments)).1 = .executed (.ok o)) ∧
          (q.apply (.execute segments)).2.live = q.live.publish r) ↔
        (q.apply (.preview segments)).1 = .previewed (.ok r) := by
  refine ⟨⟨p.length_answers ops, ?_⟩, fun q segments =>
    ⟨q.refused_iff segments, q.accepted_and_published_iff segments⟩⟩
  induction ops generalizing p with
  | nil => rfl
  | cons o ops ih =>
    rw [traces_cons, run_cons]
    split
    · rename_i htraceless
      rw [apply_of_leavesNoTrace htraceless, ih]
    · rw [List.map_cons, List.map_cons, run_cons, ih]

example : ((ControlPlane.begin .builtin none () .twins : ControlPlane Unit).traces [
    .execute [{ name := "s1", algorithm := { type := "SHARD" } }],
    .register ["SHARD"] [],
    .preview [{ name := "s2", algorithm := { type := "SHARD" } }],
    .execute [{ name := "s1", algorithm := { type := "SHARD" } }]]).map Prod.fst = [
    .register ["SHARD"] [],
    .execute [{ name := "s1", algorithm := { type := "SHARD" } }]] := by decide +kernel

end ControlPlane

end TrafficRouting
