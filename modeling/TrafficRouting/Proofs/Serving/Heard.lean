import TrafficRouting.Proofs.Bell
import TrafficRouting.Proofs.Rulebook.Sound
import TrafficRouting.Proofs.Serving.Mailbox

/-!
# TrafficRouting.Proofs.Serving.Heard — no listener misses a ring

The reload loop is one of the listeners of its bell, and others come and leave as they like.  While
it runs it has heard nothing, so it is behind by all rings since it came (`behind_sharedRun`); from
the first of them on it hears something whenever it looks, and stops by it (`every_ring_is_heard`).
-/

namespace TrafficRouting.Backlog

open Bell

variable {σ : Type} {b c d : Backlog σ} {ms : List (Move ⊕ Toll)} {t : Toll} {ts : List Toll}
  {k : Nat}

/-! ### A bell with other listeners -/

/-- One more listener has come, who is counted first. -/
def joined (bell : Bell) : Bell := { bell with listeners := some bell.rings :: bell.listeners }

/-- A step of the loop or of those around it, or of another listener of its bell. -/
inductive SharedStep (b : Backlog σ) : Move ⊕ Toll → Backlog σ → Prop
  | own {m : Move} {c : Backlog σ} (hstep : Step b m c) : SharedStep b (.inl m) c
  | other {t : Toll} {bell : Bell} (hstep : b.serving.bell.Step t bell)
      (hother : t.listener? ≠ some 0) : SharedStep b (.inr t) (b.serve { b.serving with bell })

/-- Such steps one after the other. -/
inductive SharedRun (b : Backlog σ) : List (Move ⊕ Toll) → Backlog σ → Prop
  | start : SharedRun b [] b
  | next {ms : List (Move ⊕ Toll)} {c d : Backlog σ} {m : Move ⊕ Toll} (hrun : SharedRun b ms c)
      (hstep : SharedStep c m d) : SharedRun b (ms ++ [m]) d

/-- The bell rings with this step. -/
def isRing : Move ⊕ Toll → Bool
  | .inl .ring => true
  | .inl _ => false
  | .inr t => t.isRing

/-! ### What the loop is due -/

/-- If the loop runs, the bell has rung so often since the loop last heard it. -/
def Behind (c : Backlog σ) (k : Nat) : Prop :=
  c.loop.running = true →
    ∃ n, c.serving.bell.listeners[0]? = some (some n) ∧ n + k = c.serving.bell.rings

/-- A step without the bell. -/
theorem Behind.of_bell_eq (h : Behind c k) (hbell : d.serving.bell = c.serving.bell)
    (hloop : d.loop.running = true → c.loop.running = true) : Behind d k := by
  intro hrunning
  rw [hbell]
  exact h (hloop hrunning)

/-- A step of the bell that is not about the loop. -/
theorem Behind.next (h : Behind c k) (hstep : c.serving.bell.Step t d.serving.bell)
    (ht : t.listener? ≠ some 0) (hloop : d.loop.running = true → c.loop.running = true) :
    Behind d (k + if t.isRing then 1 else 0) := by
  intro hrunning
  obtain ⟨n, hn, hbehind⟩ := h (hloop hrunning)
  refine ⟨n, (hstep.getElem?_eq ht).trans hn, ?_⟩
  by_cases hring : t.isRing = true
  · rw [if_pos hring, hstep.rings_eq_succ hring hn]
    omega
  · rw [if_neg hring, hstep.rings_eq (Bool.not_eq_true _ ▸ hring)]
    exact hbehind

theorem behind_of_stopped (h : c.loop.running = false) : Behind c k := by
  intro hrunning
  simp [h] at hrunning

/-- A step of the loop and those around it rings the bell, or leaves the loop as far behind. -/
theorem Behind.own {m : Move} (h : Behind c k) (hstep : Step c m d) :
    Behind d (k + if isRing (.inl m) then 1 else 0) := by
  cases hstep with
  | send s => exact h.of_bell_eq rfl id
  | @other o ho =>
    refine h.of_bell_eq ?_ ?_
    · cases o with
      | execute | preview | publish | register => rfl
      | reload | ring | dropBell | close => exact ho.elim
    · cases o with
      | execute | preview | publish | register => exact id
      | reload | ring | dropBell | close => exact ho.elim
  | ring hpresent => exact h.next (t := .rang _) (.rang hpresent) nofun id
  | dropBell => exact h
  | close => exact h.of_bell_eq rfl id
  | take _ hrunning => exact h.of_bell_eq rfl fun _ => hrunning
  | hear hrunning hheard =>
    exact behind_of_stopped (congrArg ReloadLoop.running (settle_of_heard hrunning hheard).1)
  | finish => exact behind_of_stopped rfl

/-- **A loop that runs is behind by all rings since it came.** -/
theorem behind_sharedRun {bell : Bell} (hbell : b.serving.bell = joined bell)
    (h : SharedRun b ms c) : Behind c (ms.countP isRing) := by
  induction h with
  | start =>
    intro _
    rw [hbell]
    exact ⟨bell.rings, rfl, rfl⟩
  | next _ hstep ih =>
    rw [List.countP_append, List.countP_singleton]
    cases hstep with
    | own hstep => exact ih.own hstep
    | other hstep hother => exact ih.next hstep hother id

/-- A loop that is behind can stop; one that is not cannot hear anything, while its bell is
there. -/
theorem Behind.hear (h : Behind c k) (hrunning : c.loop.running = true) :
    (0 < k → ∃ d, Step c .hear d ∧ d.loop.running = false ∧ d.live = c.live) ∧
    (k = 0 → c.serving.bell.present = true → ∀ d, ¬ Step c .hear d) := by
  obtain ⟨n, hn, hbehind⟩ := h hrunning
  refine ⟨fun hk => ?_, ?_⟩
  · have hheard : (c.serving.bell.hear 0).1 ≠ some .silence := by
      -- a report of missed rings stops the loop as well as a ring does
      rw [hear_listener hn]
      rcases Nat.lt_or_ge (n + 1) c.serving.bell.rings with hlt | hge
      · rw [hearAt_of_lt hlt]
        nofun
      · rw [hearAt_of_succ (by omega)]
        nofun
    obtain ⟨hloop, hlive⟩ := settle_of_heard hrunning hheard
    exact ⟨_, .hear hrunning hheard, congrArg ReloadLoop.running hloop, hlive⟩
  · rintro rfl hpresent d hstep
    obtain rfl : n = c.serving.bell.rings := hbehind
    cases hstep with
    | hear _ hheard =>
      rw [hear_listener hn, hearAt_caughtUp, if_pos hpresent] at hheard
      exact hheard rfl

/-- **No listener misses a ring.**  Listeners come, hear and leave in any order while a bell rings,
any number of times.  Each ring is answered with the number of those who listen.  A listener that is
due no ring hears nothing while the bell is there.  One that is due rings always hears something: the
newest of them, or first how many others there were, and then the newest.  A reload loop may come at
any time; it can stop from the next ring on for as long as it runs, and not before. -/
theorem every_ring_is_heard {bell : Bell} (h : Bell.Run ts bell) :
    (∀ us n, us ++ [.rang n] <+: ts → n = (audience us).length) ∧
    (∀ s : Serving, s.bell = bell → bell.present = true → s.ring.1 = some (audience ts).length) ∧
    (∀ i ∈ audience ts,
      (due i ts = 0 → (bell.hear i).1 = some (if bell.present then .silence else .gone)) ∧
      (0 < due i ts → (due i ts = reported i ts + 1 ∧ (bell.hear i).1 = some .ring) ∨
        ∃ n, 0 < n ∧ due i ts = reported i ts + n + 1 ∧ (bell.hear i).1 = some (.missed n)) ∧
      ∀ us n vs, ts = us ++ .heard i (.missed n) :: vs →
        (∀ t ∈ vs, t.isRing = false ∧ t.listener? ≠ some i) → (bell.hear i).1 = some .ring) ∧
    ∀ {σ : Type} {b c : Backlog σ} {ms : List (Move ⊕ Toll)}, b.serving.bell = joined bell →
      SharedRun b ms c → c.loop.running = true →
      (0 < ms.countP isRing → ∃ d, Step c .hear d ∧ d.loop.running = false ∧ d.live = c.live) ∧
      (ms.countP isRing = 0 → c.serving.bell.present = true → ∀ d, ¬ Step c .hear d) := by
  refine ⟨fun us n => rang_run h, ?_,
    fun i hi => ⟨hear_of_due_eq_zero h hi, hear_of_due_pos h hi, ?_⟩, ?_⟩
  · rintro s rfl hpresent
    rw [Serving.ring, if_pos hpresent, listening_run h]
  · rintro us n vs rfl hvs
    exact hear_of_missed h hvs
  · intro σ b c ms hjoined hrun hrunning
    exact (behind_sharedRun hjoined hrun).hear hrunning

/-- Two listeners come and the bell rings twice; one is told of the ring that it missed, the other
leaves, and a third comes, who is due nothing.  Then a loop comes to a bell of its own, and another
listener: the bell rings twice while settings wait, the loop takes them, and it can still stop. -/
theorem every_ring_is_heard_twice :
    (∃ bell, Bell.Run [.came 0, .came 1, .rang 2, .rang 2, .heard 0 (.missed 1), .left 1, .came 2]
        bell ∧ audience [.came 0, .came 1, .rang 2] = [0, 1] ∧ (bell.hear 0).1 = some .ring ∧
      (bell.hear 2).1 = some .silence) ∧
    ∃ c : Backlog Unit,
      SharedRun (.begin (.begin .builtin none () .twins) .twins false)
        [.inr (.came 1), .inl (.send {}), .inl .ring, .inr (.rang 2), .inr (.heard 1 (.missed 1)),
          .inl .take] c ∧
      c.live.version = 2 ∧ ∃ d, Step c .hear d ∧ d.loop.running = false ∧ d.live = c.live := by
  constructor
  · have h0 : Bell.Run [] {} := .start
    have h1 := h0.next (.came rfl)
    have h2 := h1.next (.came rfl)
    have h3 := h2.next (.rang rfl)
    have h4 := h3.next (.rang rfl)
    have h5 := h4.next (.heard (i := 0) rfl)
    have h6 := h5.next (.left (i := 1) rfl)
    have h7 := h6.next (.came rfl)
    obtain ⟨-, -, hheard, -⟩ := every_ring_is_heard h7
    obtain ⟨-, -, hnewest⟩ := hheard 0 (by decide)
    obtain ⟨hsilent, -⟩ := hheard 2 (by decide)
    exact ⟨_, h7, by decide, hnewest [.came 0, .came 1, .rang 2, .rang 2] 1 [.left 1, .came 2] rfl
      (by decide), hsilent (by decide)⟩
  · have h0 : SharedRun
        (.begin (.begin .builtin none () .twins : ControlPlane Unit) .twins false) [] _ := .start
    have h1 := h0.next (.other (.came rfl) (by decide))
    have h2 := h1.next (.own (.send {} rfl rfl))
    have h3 := h2.next (.own (.ring rfl))
    have h4 := h3.next (.other (.rang rfl) (by decide))
    have h5 := h4.next (.other (.heard (i := 1) rfl) (by decide))
    have h6 := h5.next (.own (.take rfl rfl))
    obtain ⟨-, -, -, hloop⟩ := every_ring_is_heard Bell.Run.start
    obtain ⟨hready, -⟩ := hloop (b := .begin (.begin .builtin none () .twins) .twins false) rfl h6
      (by decide +kernel)
    exact ⟨_, h6, by decide +kernel, hready (by decide)⟩

end TrafficRouting.Backlog
