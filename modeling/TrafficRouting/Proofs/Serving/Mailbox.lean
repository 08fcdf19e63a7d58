import TrafficRouting.ControlPlane

/-!
# TrafficRouting.Proofs.Serving.Mailbox — the reload loop among others, step by step

A control plane lets its loop act at once.  Here settings wait in a mailbox, and the loop takes
them, or stops, at any time after: `Step` has one case for each whole step that the loop or somebody
else can take.  Where settings wait and the bell has rung both `take` and `hear` can come next.  A
`Run` is any sequence of such steps, with what was there before and after each.

`apply_is_run`: the operations of a control plane are runs in which the loop acts at once.
-/

namespace TrafficRouting

/-- What others do to the live rulebook and the known types without touching the loop. -/
def Operation.SparesLoop : Operation → Prop
  | execute _ | preview _ | publish _ | register _ _ => True
  | _ => False

/-- A control plane whose reload loop has settings waiting. -/
structure Backlog (σ : Type) where
  plane : ControlPlane σ
  mail : List Settings := []

/-- The steps, by others and by the loop. -/
inductive Move
  /-- Settings are sent to the loop. -/
  | send (s : Settings)
  /-- Somebody carries out an operation. -/
  | other (o : Operation)
  /-- Somebody rings the bell. -/
  | ring
  /-- The bell goes away. -/
  | dropBell
  /-- No more settings can be sent. -/
  | close
  /-- The loop takes the next settings. -/
  | take
  /-- The loop hears its bell and stops. -/
  | hear
  /-- The loop has taken all settings, no more can come, and it stops. -/
  | finish

/-- The loop takes this step. -/
def Move.isLoops : Move → Bool
  | take | hear | finish => true
  | _ => false

/-- The loop stops with this step. -/
def Move.stops : Move → Bool
  | hear | finish => true
  | _ => false

namespace Backlog

variable {σ : Type}

def serving (b : Backlog σ) : Serving := b.plane.serving

def live (b : Backlog σ) : Snapshot := b.plane.serving.live

def loop (b : Backlog σ) : ReloadLoop := b.plane.serving.loop

/-- The same with something else served. -/
def serve (b : Backlog σ) (s : Serving) : Backlog σ :=
  { b with plane := { b.plane with serving := s } }

/-- A loop that has just begun, with any control plane around it. -/
def begin (p : ControlPlane σ) (seen : Rulebook) (storeBacked : Bool) : Backlog σ where
  plane := { p with serving := { p.serving with loop := { seen, storeBacked } } }

/-- The loop has taken settings, and `rest` still waits. -/
def took (b : Backlog σ) (s : Settings) (rest : List Settings) : Backlog σ :=
  { b.serve { b.serving with
      live := (b.loop.receive s.traffic b.live).2
      loop := (b.loop.receive s.traffic b.live).1 } with mail := rest }

/-- One whole step. -/
inductive Step : Backlog σ → Move → Backlog σ → Prop
  | send {b : Backlog σ} (s : Settings) (hopen : b.serving.sender = true)
      (hrunning : b.loop.running = true) : Step b (.send s) { b with mail := b.mail ++ [s] }
  | other {b : Backlog σ} {o : Operation} (ho : o.SparesLoop) :
      Step b (.other o) { b with plane := (b.plane.apply o).2 }
  | ring {b : Backlog σ} (hpresent : b.serving.bell.present = true) :
      Step b .ring (b.serve { b.serving with bell := b.serving.bell.ring })
  | dropBell {b : Backlog σ} :
      Step b .dropBell (b.serve { b.serving with bell := b.serving.bell.leave })
  | close {b : Backlog σ} : Step b .close (b.serve { b.serving with sender := false })
  | take {b : Backlog σ} {s : Settings} {rest : List Settings} (hmail : b.mail = s :: rest)
      (hrunning : b.loop.running = true) : Step b .take (b.took s rest)
  | hear {b : Backlog σ} (hrunning : b.loop.running = true)
      (hheard : (b.serving.bell.hear 0).1 ≠ some .silence) :
      Step b .hear (b.serve b.serving.settle)
  | finish {b : Backlog σ} (hmail : b.mail = []) (hclosed : b.serving.sender = false)
      (hrunning : b.loop.running = true) : Step b .finish (b.serve b.serving.halt)

/-- A step with what was there before and after it. -/
structure Taken (σ : Type) where
  move : Move
  before : Backlog σ
  after : Backlog σ

/-- Steps one after the other. -/
inductive Run (b : Backlog σ) : List (Taken σ) → Backlog σ → Prop
  | start : Run b [] b
  | next {ts : List (Taken σ)} {c d : Backlog σ} {m : Move} (hrun : Run b ts c)
      (hstep : Step c m d) : Run b (ts ++ [⟨m, c, d⟩]) d

/-! ### What a run shows -/

/-- The settings that were sent. -/
def delivered (ts : List (Taken σ)) : List Settings :=
  ts.filterMap fun t => match t.move with
    | .send s => some s
    | _ => none

/-- The settings that the loop took. -/
def handled (ts : List (Taken σ)) : List Settings :=
  ts.filterMap fun t => match t.move with
    | .take => t.before.mail.head?
    | _ => none

/-- The rulebooks among them. -/
def sections (ts : List (Taken σ)) : List Rulebook := (handled ts).map (·.traffic)

/-- What the loop published: what is live after a step of it and was not before. -/
def publications (ts : List (Taken σ)) : List Snapshot :=
  ts.filterMap fun t =>
    if t.move.isLoops = true ∧ t.after.live ≠ t.before.live then some t.after.live else none

/-! ### Control planes let the loop act at once -/

/-- A listener that hears nothing is where it was. -/
theorem hearAt_of_silence {b : Bell} {n : Nat} (h : (b.hearAt n).1 = .silence) :
    (b.hearAt n).2 = n := by
  unfold Bell.hearAt at h ⊢
  by_cases hn : n = b.rings
  · rw [if_pos hn]
  · rw [if_neg hn] at h
    split at h
    · simp at h
    · simp at h

theorem hear_of_silence {b : Bell} {i : Nat} (h : (b.hear i).1 = some .silence) :
    (b.hear i).2 = b := by
  unfold Bell.hear at h ⊢
  split at h
  · rename_i n hn
    obtain ⟨hi, hget⟩ := List.getElem?_eq_some_iff.mp hn
    have hset : b.listeners.set i (some n) = b.listeners := hget ▸ List.set_getElem_self hi
    simp only [hearAt_of_silence (Option.some.inj h), hset]
  · simp at h

theorem settle_of_silence {s : Serving} (h : (s.bell.hear 0).1 = some .silence) :
    s.settle = s := by
  have hheard : s.bell.hear 0 = (some .silence, s.bell) := Prod.ext h (hear_of_silence h)
  unfold Serving.settle
  rw [hheard]
  split
  · rfl
  · rfl

/-- A loop that hears anything stops. -/
theorem settle_of_heard {s : Serving} (hrunning : s.loop.running = true)
    (h : (s.bell.hear 0).1 ≠ some .silence) :
    s.settle.loop = s.loop.stop ∧ s.settle.live = s.live := by
  unfold Serving.settle
  rw [if_pos hrunning]
  split
  · rename_i heq
    rw [heq] at h
    exact absurd rfl h
  · exact ⟨rfl, rfl⟩

/-- The loop looks at its bell, and stops if there is anything to hear. -/
theorem run_settle {b c : Backlog σ} {ts : List (Taken σ)} (h : Run b ts c)
    (hrunning : c.loop.running = true) : ∃ ts', Run b ts' (c.serve c.serving.settle) := by
  by_cases hheard : (c.serving.bell.hear 0).1 = some .silence
  · rw [settle_of_silence hheard]
    exact ⟨ts, h⟩
  · exact ⟨_, h.next (.hear hrunning hheard)⟩

/-- **The operations of a control plane are runs.** -/
theorem apply_is_run {p : ControlPlane σ} (hrunning : p.serving.loop.running = true)
    (o : Operation) : ∃ ts, Run ⟨p, []⟩ ts ⟨(p.apply o).2, []⟩ := by
  have hstart : Run (⟨p, []⟩ : Backlog σ) [] ⟨p, []⟩ := .start
  cases o with
  | execute segments => exact ⟨_, hstart.next (.other trivial)⟩
  | preview segments => exact ⟨_, hstart.next (.other trivial)⟩
  | publish r => exact ⟨_, hstart.next (.other trivial)⟩
  | register as bs => exact ⟨_, hstart.next (.other trivial)⟩
  | reload r =>
    by_cases hopen : p.serving.sender = true
    · have hsent := hstart.next (.send { traffic := r } hopen hrunning)
      have htaken := hsent.next (.take (s := { traffic := r }) rfl hrunning)
      have hboth : (p.serving.sender && p.serving.loop.running) = true := by
        rw [hopen, hrunning]
        rfl
      have hreload : (p.apply (.reload r)).2 =
          ((⟨p, []⟩ : Backlog σ).took { traffic := r } []).plane := by
        show ({ p with serving := (p.serving.update r).2 } : ControlPlane σ) = _
        rw [Serving.update, if_pos hboth]
        rfl
      rw [hreload]
      exact ⟨_, htaken⟩
    · refine ⟨[], ?_⟩
      rw [ControlPlane.apply, Serving.update, Bool.eq_false_iff.mpr hopen]
      exact hstart
  | ring =>
    by_cases hpresent : p.serving.bell.present = true
    · rw [ControlPlane.apply, Serving.ring, if_pos hpresent]
      exact run_settle (hstart.next (.ring hpresent)) hrunning
    · rw [ControlPlane.apply, Serving.ring, if_neg hpresent]
      exact ⟨[], hstart⟩
  | dropBell => exact run_settle (hstart.next .dropBell) hrunning
  | close => exact ⟨_, (hstart.next .close).next (.finish rfl rfl hrunning)⟩

end Backlog

end TrafficRouting
