import Mathlib.Data.List.Induction
import TrafficRouting.ControlPlane

/-!
# TrafficRouting.Proofs.ControlPlane.Run — runs of a control plane, from the last operation

`run_induction`: what holds at the beginning and is kept by each operation holds after every run,
together with the answers given so far.
-/

namespace TrafficRouting

/-- The outcome of an accepted request. -/
def Answer.outcome? : Answer → Option Outcome
  | executed (.ok o) => some o
  | _ => none

/-- The answer is that a request was accepted. -/
def Answer.accepted (a : Answer) : Bool := a.outcome?.isSome

namespace ControlPlane

variable {σ : Type}

theorem run_cons (p : ControlPlane σ) (o : Operation) (ops : List Operation) :
    p.run (o :: ops) =
      ((p.apply o).1 :: ((p.apply o).2.run ops).1, ((p.apply o).2.run ops).2) := rfl

theorem run_concat (p : ControlPlane σ) (ops : List Operation) (o : Operation) :
    p.run (ops ++ [o]) =
      ((p.run ops).1 ++ [((p.run ops).2.apply o).1], ((p.run ops).2.apply o).2) := by
  induction ops generalizing p with
  | nil => rfl
  | cons o' ops ih =>
    rw [List.cons_append, run_cons, ih, run_cons]
    rfl

/-- **Run induction**: `P` relates the answers so far to the control plane. -/
theorem run_induction {P : List Answer → ControlPlane σ → Prop} {allowed : Operation → Prop}
    {p : ControlPlane σ} (hbegin : P [] p)
    (hstep : ∀ as q o, allowed o → P as q → P (as ++ [(q.apply o).1]) (q.apply o).2)
    {ops : List Operation} (hops : ∀ o ∈ ops, allowed o) : P (p.run ops).1 (p.run ops).2 := by
  induction ops using List.reverseRecOn with
  | nil => exact hbegin
  | append_singleton ops o ih =>
    rw [run_concat]
    exact hstep _ _ o (hops o (by simp)) (ih fun o' ho' => hops o' (by simp [ho']))

end ControlPlane

end TrafficRouting
