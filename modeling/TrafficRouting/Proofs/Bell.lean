import Mathlib.Algebra.Ring.Nat
import Mathlib.Data.List.Basic
import Mathlib.Data.List.Induction
import TrafficRouting.Bell

/-!
# TrafficRouting.Proofs.Bell — what each listener is due

A run of a bell is a list of `Toll`s: listeners come, hear and leave in any order, and the bell
rings in between.  What a listener is `due` can be read off this list alone: the rings since it came
or last heard the bell ring.  A bell keeps no such list, only how often it rang and where each
listener stands; `position_run` ties the two together, and so tells what a listener hears
(`hear_of_due_eq_zero`, `hear_of_due_pos`).
-/

namespace TrafficRouting

/-- What happens to a bell, with the answer. -/
inductive Toll
  /-- A listener comes; it gets this number. -/
  | came (i : Nat)
  /-- The bell rings while so many listen. -/
  | rang (listeners : Nat)
  /-- A listener asks, and hears this. -/
  | heard (i : Nat) (h : Heard)
  /-- A listener leaves. -/
  | left (i : Nat)
  /-- The bell goes away. -/
  | gone
deriving DecidableEq

namespace Toll

def isRing : Toll → Bool
  | rang _ => true
  | _ => false

/-- The listener who comes. -/
def newcomer? : Toll → Option Nat
  | came i => some i
  | _ => none

/-- The listener whom it is about. -/
def listener? : Toll → Option Nat
  | came i | heard i _ | left i => some i
  | rang _ | gone => none

/-- How many rings a listener is told that it missed. -/
def missedBy (i : Nat) : Toll → Nat
  | heard j (.missed n) => if j = i then n else 0
  | _ => 0

/-- From then on the listener is due no ring of before. -/
def CatchesUp (i : Nat) (t : Toll) : Prop := t = .came i ∨ t = .heard i .ring

instance (i : Nat) (t : Toll) : Decidable (t.CatchesUp i) :=
  inferInstanceAs (Decidable (_ ∨ _))

variable {t : Toll} {i : Nat}

theorem not_catchesUp (h : t.listener? ≠ some i) : ¬ t.CatchesUp i := by
  rintro (rfl | rfl)
  · exact h rfl
  · exact h rfl

theorem missedBy_eq_zero (h : t.listener? ≠ some i) : t.missedBy i = 0 := by
  unfold missedBy
  split
  · exact if_neg fun hj => h (congrArg some hj)
  · rfl

end Toll

namespace Bell

/-! ### Runs -/

/-- One step. Only those who listen can hear or leave, and a bell that is gone does nothing more. -/
inductive Step (b : Bell) : Toll → Bell → Prop
  | came (hpresent : b.present = true) : Step b (.came b.listeners.length) b.listen
  | rang (hpresent : b.present = true) : Step b (.rang b.listening) b.ring
  | heard {i : Nat} {h : Heard} {c : Bell} (hheard : b.hear i = (some h, c)) :
      Step b (.heard i h) c
  | left {i n : Nat} (hlistens : b.listeners[i]? = some (some n)) : Step b (.left i) (b.drop i)
  | gone (hpresent : b.present = true) : Step b .gone b.leave

/-- Steps one after the other, from a bell without listeners. -/
inductive Run : List Toll → Bell → Prop
  | start : Run [] {}
  | next {ts : List Toll} {b c : Bell} {t : Toll} (hrun : Run ts b) (hstep : Step b t c) :
      Run (ts ++ [t]) c

/-! ### What a run shows -/

/-- Those who have come and not left. -/
def audience (ts : List Toll) : List Nat :=
  (ts.filterMap Toll.newcomer?).filter fun i => decide (.left i ∉ ts)

/-- What has happened since the listener came or last heard the bell ring, newest first. -/
def since (i : Nat) (ts : List Toll) : List Toll :=
  ts.reverse.takeWhile fun t => decide ¬ t.CatchesUp i

/-- The rings since the listener came or last heard the bell ring. -/
def due (i : Nat) (ts : List Toll) : Nat := (since i ts).countP Toll.isRing

/-- How many of these the listener has been told that it missed. -/
def reported (i : Nat) (ts : List Toll) : Nat := ((since i ts).map (Toll.missedBy i)).sum

variable {b c : Bell} {t : Toll} {ts us : List Toll} {i n : Nat}

theorem since_concat (i : Nat) (ts : List Toll) (t : Toll) :
    since i (ts ++ [t]) = if t.CatchesUp i then [] else t :: since i ts := by
  rw [since, List.reverse_concat, List.takeWhile_cons]
  by_cases h : t.CatchesUp i
  · simp [h]
  · simp [h, since]

theorem due_concat (i : Nat) (ts : List Toll) (t : Toll) :
    due i (ts ++ [t]) = if t.CatchesUp i then 0 else due i ts + if t.isRing then 1 else 0 := by
  rw [due, since_concat]
  split
  · rfl
  · rw [List.countP_cons, due]

theorem reported_concat (i : Nat) (ts : List Toll) (t : Toll) :
    reported i (ts ++ [t]) = if t.CatchesUp i then 0 else t.missedBy i + reported i ts := by
  rw [reported, since_concat]
  split
  · rfl
  · rw [List.map_cons, List.sum_cons, reported]

/-! ### Single steps -/

theorem listeners_listen (hpresent : b.present = true) :
    b.listen.listeners = b.listeners ++ [some b.rings] := by
  rw [listen, if_pos hpresent]

theorem listeners_ring (b : Bell) : b.ring.listeners = b.listeners := by
  unfold ring
  split
  · rfl
  · rfl

/-- A bell that somebody listens to rings once more. -/
theorem rings_ring (h : b.listeners[i]? = some (some n)) : b.ring.rings = b.rings + 1 := by
  have hmem : some n ∈ b.listeners.filter (·.isSome) :=
    List.mem_filter.mpr ⟨List.mem_of_getElem? h, rfl⟩
  have hpos : 0 < b.listening := List.length_pos_of_mem hmem
  rw [ring, if_neg (Nat.ne_of_gt hpos)]

/-- Only a listener hears anything, and nothing but its own place changes. -/
theorem hear_eq_some {h : Heard} (hheard : b.hear i = (some h, c)) :
    ∃ n, b.listeners[i]? = some (some n) ∧ h = (b.hearAt n).1 ∧
      c = { b with listeners := b.listeners.set i (some (b.hearAt n).2) } := by
  unfold hear at hheard
  split at hheard
  · rename_i n hn
    obtain ⟨hh, hc⟩ := Prod.mk.inj hheard
    exact ⟨n, hn, (Option.some.inj hh).symm, hc.symm⟩
  · cases hheard

theorem hear_eq (h : b.listeners[i]? = some (some n)) :
    b.hear i = (some (b.hearAt n).1,
      { b with listeners := b.listeners.set i (some (b.hearAt n).2) }) := by
  unfold hear
  rw [h]

theorem hear_listener (h : b.listeners[i]? = some (some n)) :
    (b.hear i).1 = some (b.hearAt n).1 :=
  congrArg Prod.fst (hear_eq h)

theorem hearAt_caughtUp (b : Bell) :
    b.hearAt b.rings = (if b.present then .silence else .gone, b.rings) :=
  if_pos rfl

theorem hearAt_of_succ (h : n + 1 = b.rings) : b.hearAt n = (.ring, b.rings) := by
  rw [hearAt, if_neg (by omega), if_pos h]

theorem hearAt_of_lt (h : n + 1 < b.rings) :
    b.hearAt n = (.missed (b.rings - 1 - n), b.rings - 1) := by
  rw [hearAt, if_neg (by omega), if_neg (by omega)]

/-- Only a listener that is due more than the newest ring is told of missed ones. -/
theorem lt_of_hearAt_eq_missed {k : Nat} (hle : n ≤ b.rings) (h : (b.hearAt n).1 = .missed k) :
    n + 1 < b.rings := by
  rcases Nat.lt_trichotomy (n + 1) b.rings with hlt | heq | hgt
  · exact hlt
  · rw [hearAt_of_succ heq] at h
    cases h
  · obtain rfl : n = b.rings := by omega
    rw [hearAt_caughtUp] at h
    dsimp only at h
    split at h
    · cases h
    · cases h

theorem getElem?_set_listener (h : b.listeners[i]? = some (some n)) (m : Option Nat) :
    (b.listeners.set i m)[i]? = some m :=
  List.getElem?_set_self (List.getElem?_eq_some_iff.mp h).1

/-- A step leaves a listener whom it is not about at its place. -/
theorem Step.getElem?_eq (h : Step b t c) (ht : t.listener? ≠ some i) :
    c.listeners[i]? = b.listeners[i]? := by
  cases h with
  | came hpresent =>
    have hne : i ≠ b.listeners.length := fun hi => ht (congrArg some hi.symm)
    rw [listeners_listen hpresent, List.getElem?_append]
    split
    · rfl
    · rename_i hge
      rw [List.getElem?_eq_none (by simpa using by omega), List.getElem?_eq_none (by omega)]
  | rang => rw [listeners_ring]
  | heard hheard =>
    obtain ⟨n, -, -, rfl⟩ := hear_eq_some hheard
    exact List.getElem?_set_ne fun hj => ht (congrArg some hj)
  | left => exact List.getElem?_set_ne fun hj => ht (congrArg some hj)
  | gone => rfl

theorem Step.rings_eq (h : Step b t c) (ht : t.isRing = false) : c.rings = b.rings := by
  cases h with
  | rang => cases ht
  | heard hheard =>
    obtain ⟨n, -, -, rfl⟩ := hear_eq_some hheard
    rfl
  | _ => rfl

/-- A step that rings counts, if anybody listens. -/
theorem Step.rings_eq_succ (h : Step b t c) (ht : t.isRing = true)
    (hn : b.listeners[i]? = some (some n)) : c.rings = b.rings + 1 := by
  cases h with
  | rang => exact rings_ring hn
  | _ => cases ht

/-- The last step of a run. -/
theorem Run.last (h : Run (ts ++ [t]) c) : ∃ b, Run ts b ∧ Step b t c := by
  generalize hts : ts ++ [t] = ts' at h
  cases h with
  | start => simp at hts
  | @next ts' b c t' hrun hstep =>
    obtain ⟨rfl, hlast⟩ := List.append_inj' hts rfl
    obtain rfl := List.singleton_inj.mp hlast
    exact ⟨b, hrun, hstep⟩

/-! ### Who listens -/

/-- Listeners are numbered as they come. -/
theorem newcomers_run (h : Run ts b) :
    ts.filterMap Toll.newcomer? = List.range b.listeners.length := by
  induction h with
  | start => rfl
  | @next ts b c t _ hstep ih =>
    rw [List.filterMap_append, ih]
    cases hstep with
    | came hpresent =>
      rw [listeners_listen hpresent, List.length_append, List.length_singleton, List.range_succ]
      rfl
    | rang => rw [listeners_ring]; exact List.append_nil _
    | heard hheard =>
      obtain ⟨n, -, -, rfl⟩ := hear_eq_some hheard
      simp [Toll.newcomer?]
    | left => simp [Toll.newcomer?, drop]
    | gone => exact List.append_nil _

theorem left_mem_run (h : Run ts b) (i : Nat) :
    .left i ∈ ts ↔ b.listeners[i]? = some none := by
  induction h with
  | start => simp
  | @next ts b c t _ hstep ih =>
    rw [List.mem_append, List.mem_singleton, ih]
    by_cases ht : t.listener? = some i
    · cases hstep with
      | came hpresent =>
        obtain rfl : b.listeners.length = i := Option.some.inj ht
        simp [listeners_listen hpresent]
      | heard hheard =>
        obtain rfl := Option.some.inj ht
        obtain ⟨n, hn, -, rfl⟩ := hear_eq_some hheard
        simp [hn, getElem?_set_listener hn]
      | left hn =>
        obtain rfl := Option.some.inj ht
        simp [drop, getElem?_set_listener hn]
      | rang => cases ht
      | gone => cases ht
    · rw [hstep.getElem?_eq ht, or_iff_left]
      rintro rfl
      exact ht rfl

/-- Those who have come and not left are those whom the bell has a place for. -/
theorem mem_audience_iff (h : Run ts b) :
    i ∈ audience ts ↔ ∃ n, b.listeners[i]? = some (some n) := by
  rw [audience, newcomers_run h, List.mem_filter, List.mem_range, decide_eq_true_iff,
    left_mem_run h]
  cases hi : b.listeners[i]? with
  | none => simpa using hi
  | some place =>
    have hlt := (List.getElem?_eq_some_iff.mp hi).1
    cases place with
    | none => simp
    | some n => simp [hlt]

theorem length_filter_eq {α : Type} (l : List α) (p : α → Bool) :
    (l.filter p).length = ((List.range l.length).filter fun i => (l[i]?).any p).length := by
  induction l using List.reverseRecOn with
  | nil => rfl
  | append_singleton l a ih =>
    have hleft : ∀ k ∈ List.range l.length, ((l ++ [a])[k]?).any p = (l[k]?).any p := fun k hk => by
      rw [List.getElem?_append_left (List.mem_range.mp hk)]
    rw [List.length_append, List.length_singleton, List.range_succ, List.filter_append,
      List.filter_append, List.length_append, List.length_append, List.filter_congr hleft, ← ih]
    by_cases ha : p a = true
    · simp [ha]
    · simp [ha]

/-- The bell counts its audience. -/
theorem listening_run (h : Run ts b) : b.listening = (audience ts).length := by
  rw [listening, length_filter_eq, audience, newcomers_run h]
  refine congrArg List.length (List.filter_congr fun i hi => ?_)
  have hlt := List.mem_range.mp hi
  rw [Bool.eq_iff_iff, decide_eq_true_iff, left_mem_run h, List.getElem?_eq_getElem hlt]
  cases b.listeners[i] with
  | none => simp
  | some n => simp

/-- Each ring is answered with the size of its audience. -/
theorem rang_run (h : Run ts b) (hinit : us ++ [.rang n] <+: ts) : n = (audience us).length := by
  induction h with
  | start => simp at hinit
  | @next ts b c t hrun hstep ih =>
    rcases List.prefix_concat_iff.mp hinit with heq | hinit
    · obtain ⟨rfl, hlast⟩ := List.append_inj' heq rfl
      obtain rfl := List.singleton_inj.mp hlast
      cases hstep with
      | rang => exact listening_run hrun
    · exact ih hinit

/-! ### What a listener is due -/

/-- A listener that is done with `n` rings: those that it is due and has not been told of are the
ones that the bell has rung since. -/
structure Position (ts : List Toll) (b : Bell) (i n : Nat) : Prop where
  le : n ≤ b.rings
  balance : n + due i ts = b.rings + reported i ts
  lt_of_due : 0 < due i ts → n < b.rings

/-- Where nobody rings and the listener is told nothing, all is as it was. -/
theorem Position.concat (h : Position ts b i n) (hrings : c.rings = b.rings)
    (hcatch : ¬ t.CatchesUp i) (hring : t.isRing = false) (hmissed : t.missedBy i = 0) :
    Position (ts ++ [t]) c i n := by
  have hdue : due i (ts ++ [t]) = due i ts := by
    rw [due_concat, if_neg hcatch, hring]
    rfl
  have hreported : reported i (ts ++ [t]) = reported i ts := by
    rw [reported_concat, if_neg hcatch, hmissed, Nat.zero_add]
  refine ⟨?_, ?_, ?_⟩
  · rw [hrings]
    exact h.le
  · rw [hdue, hreported, hrings]
    exact h.balance
  · rw [hdue, hrings]
    exact h.lt_of_due

/-- A listener that has just caught up is due nothing. -/
theorem position_of_catchesUp (hcatch : t.CatchesUp i) : Position (ts ++ [t]) c i c.rings := by
  have hdue : due i (ts ++ [t]) = 0 := by rw [due_concat, if_pos hcatch]
  have hreported : reported i (ts ++ [t]) = 0 := by rw [reported_concat, if_pos hcatch]
  refine ⟨Nat.le_refl _, ?_, ?_⟩
  · rw [hdue, hreported]
  · rw [hdue]
    exact nofun

/-- One more ring is one more that is due. -/
theorem Position.ring (h : Position ts b i n) (hrings : c.rings = b.rings + 1)
    (hcatch : ¬ t.CatchesUp i) (hring : t.isRing = true) (hmissed : t.missedBy i = 0) :
    Position (ts ++ [t]) c i n := by
  have hdue : due i (ts ++ [t]) = due i ts + 1 := by
    rw [due_concat, if_neg hcatch, hring]
    rfl
  have hreported : reported i (ts ++ [t]) = reported i ts := by
    rw [reported_concat, if_neg hcatch, hmissed, Nat.zero_add]
  have hle := h.le
  have hbalance := h.balance
  exact ⟨by omega, by omega, fun _ => by omega⟩

/-- A listener that asks goes on to where it then stands. -/
theorem Position.hear (h : Position ts b i n) (listeners : List (Option Nat)) :
    Position (ts ++ [.heard i (b.hearAt n).1]) { b with listeners } i (b.hearAt n).2 := by
  have hle := h.le
  rcases Nat.lt_trichotomy (n + 1) b.rings with hlt | heq | hgt
  · -- it is told of all rings that it is due but the newest one
    rw [hearAt_of_lt hlt]
    have hcatch : ¬ (Toll.heard i (.missed (b.rings - 1 - n))).CatchesUp i := by
      rintro (hcame | hring)
      · cases hcame
      · cases hring
    have hdue : due i (ts ++ [.heard i (.missed (b.rings - 1 - n))]) = due i ts := by
      rw [due_concat, if_neg hcatch]
      rfl
    have hreported : reported i (ts ++ [.heard i (.missed (b.rings - 1 - n))]) =
        (b.rings - 1 - n) + reported i ts := by
      rw [reported_concat, if_neg hcatch, Toll.missedBy, if_pos rfl]
    have hbalance := h.balance
    exact ⟨Nat.sub_le _ _, by dsimp only; omega, fun _ => by dsimp only; omega⟩
  · rw [hearAt_of_succ heq]
    exact position_of_catchesUp (c := { b with listeners }) (Or.inr rfl)
  · obtain rfl : n = b.rings := by omega
    rw [hearAt_caughtUp]
    by_cases hpresent : b.present = true
    · rw [if_pos hpresent]
      exact h.concat rfl (by simp [Toll.CatchesUp]) rfl rfl
    · rw [if_neg hpresent]
      exact h.concat rfl (by simp [Toll.CatchesUp]) rfl rfl

/-- **Every listener stands where the run has left it.** -/
theorem position_run (h : Run ts b) (hn : b.listeners[i]? = some (some n)) :
    Position ts b i n := by
  induction h generalizing n with
  | start => simp at hn
  | @next ts b c t hrun hstep ih =>
    by_cases ht : t.listener? = some i
    · cases hstep with
      | came hpresent =>
        obtain rfl : b.listeners.length = i := Option.some.inj ht
        obtain rfl : b.rings = n := by simpa [listeners_listen hpresent] using hn
        exact position_of_catchesUp (c := b.listen) (Or.inl rfl)
      | heard hheard =>
        obtain rfl := Option.some.inj ht
        obtain ⟨m, hm, rfl, rfl⟩ := hear_eq_some hheard
        obtain rfl : (b.hearAt m).2 = n := by simpa [getElem?_set_listener hm] using hn
        exact (ih hm).hear _
      | left hm =>
        obtain rfl := Option.some.inj ht
        simp [drop, getElem?_set_listener hm] at hn
      | rang => cases ht
      | gone => cases ht
    · rw [hstep.getElem?_eq ht] at hn
      have hcatch := Toll.not_catchesUp ht
      have hmissed := Toll.missedBy_eq_zero ht
      by_cases hring : t.isRing = true
      · exact (ih hn).ring (hstep.rings_eq_succ hring hn) hcatch hring hmissed
      · rw [Bool.not_eq_true] at hring
        exact (ih hn).concat (hstep.rings_eq hring) hcatch hring hmissed

/-- A listener that is due nothing hears nothing. -/
theorem hear_of_due_eq_zero (h : Run ts b) (hi : i ∈ audience ts) (hdue : due i ts = 0) :
    (b.hear i).1 = some (if b.present then .silence else .gone) := by
  obtain ⟨n, hn⟩ := (mem_audience_iff h).mp hi
  obtain ⟨hle, hbalance, -⟩ := position_run h hn
  obtain rfl : n = b.rings := by omega
  rw [hear_listener hn, hearAt_caughtUp]

/-- A listener that is due rings hears the newest one, or how many others it has not been told
of. -/
theorem hear_of_due_pos (h : Run ts b) (hi : i ∈ audience ts) (hdue : 0 < due i ts) :
    (due i ts = reported i ts + 1 ∧ (b.hear i).1 = some .ring) ∨
      ∃ n, 0 < n ∧ due i ts = reported i ts + n + 1 ∧ (b.hear i).1 = some (.missed n) := by
  obtain ⟨n, hn⟩ := (mem_audience_iff h).mp hi
  obtain ⟨-, hbalance, hlt⟩ := position_run h hn
  have hbehind := hlt hdue
  rw [hear_listener hn]
  by_cases hnewest : n + 1 = b.rings
  · rw [hearAt_of_succ hnewest]
    exact Or.inl ⟨by omega, rfl⟩
  · rw [hearAt_of_lt (by omega)]
    exact Or.inr ⟨b.rings - 1 - n, by omega, by omega, rfl⟩

/-- A listener that has been told of missed rings hears the newest one next, whatever others do
meanwhile. -/
theorem hear_of_missed (h : Run (ts ++ .heard i (.missed n) :: us) b)
    (hus : ∀ t ∈ us, t.isRing = false ∧ t.listener? ≠ some i) : (b.hear i).1 = some .ring := by
  suffices hplace : ∃ m, b.listeners[i]? = some (some m) ∧ m + 1 = b.rings by
    obtain ⟨m, hm, hnewest⟩ := hplace
    rw [hear_listener hm, hearAt_of_succ hnewest]
  induction us using List.reverseRecOn generalizing b with
  | nil =>
    obtain ⟨b', hrun, hstep⟩ := h.last
    cases hstep with
    | heard hheard =>
      obtain ⟨m, hm, hmissed, rfl⟩ := hear_eq_some hheard
      have hbehind := lt_of_hearAt_eq_missed (position_run hrun hm).le hmissed.symm
      refine ⟨b'.rings - 1, ?_, by dsimp only; omega⟩
      rw [getElem?_set_listener hm, hearAt_of_lt hbehind]
  | append_singleton us t ih =>
    rw [← List.cons_append, ← List.append_assoc] at h
    obtain ⟨b', hrun, hstep⟩ := h.last
    obtain ⟨hring, hother⟩ := hus t (by simp)
    obtain ⟨m, hm, hnewest⟩ := ih hrun fun t' ht' => hus t' (List.mem_append_left _ ht')
    exact ⟨m, (hstep.getElem?_eq hother).trans hm, hnewest.trans (hstep.rings_eq hring).symm⟩

end Bell

end TrafficRouting
