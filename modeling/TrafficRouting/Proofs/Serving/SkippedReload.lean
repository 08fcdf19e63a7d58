import TrafficRouting.Proofs.ControlPlane.Run
import TrafficRouting.Proofs.Rulebook.SameAnswers

/-!
# TrafficRouting.Proofs.Serving.SkippedReload — a reload that is skipped is not missed

The reload loop does not publish a rulebook that says the same as the one it saw last.  Where that one
is still live, nobody can tell from later answers: control planes that differ in their versions, in
the order of entries, and in what their stores hold (`ControlPlane.Same`) give the same answers to
every operation and stay like that, so they do over every run (`skipped_reload_is_not_missed`).
-/

namespace TrafficRouting

/-! ### What is served -/

namespace Serving

/-- The same with another live snapshot and another rulebook that the loop saw last. -/
def disguise (s : Serving) (live : Snapshot) (seen : Rulebook) : Serving :=
  { s with live, loop := { s.loop with seen } }

/-- Live rulebooks that say the same, loops that saw the same last, and no other difference but in
versions. -/
structure Same (s s' : Serving) : Prop where
  apart : s' = s.disguise s'.live s'.loop.seen
  live : s.live.rulebook.same s'.live.rulebook = true
  seen : s.loop.seen.same s'.loop.seen = true

variable {s s' : Serving}

/-- Whatever looks neither at the live rulebook nor at the one seen last keeps sameness. -/
theorem Same.map {f : Serving → Serving}
    (hf : ∀ s live seen, f (s.disguise live seen) = (f s).disguise live seen) (h : s.Same s') :
    (f s).Same (f s') := by
  have hs : f s = (f s).disguise s.live s.loop.seen := hf s s.live s.loop.seen
  have hs' : f s' = (f s).disguise s'.live s'.loop.seen := by
    rw [← hf, ← h.apart]
  refine ⟨?_, ?_, ?_⟩
  · rw [hs']
    rfl
  · rw [hs, hs']
    exact h.live
  · rw [hs, hs']
    exact h.seen

theorem settle_disguise (s : Serving) (live : Snapshot) (seen : Rulebook) :
    (s.disguise live seen).settle = s.settle.disguise live seen := by
  obtain ⟨_, ⟨_, _, running⟩, bell, _⟩ := s
  cases running with
  | false => rfl
  | true =>
    rcases hheard : bell.hear 0 with ⟨heard, b⟩
    simp only [settle, disguise, if_true, hheard]
    split
    · rfl
    · rfl

theorem ring_disguise (s : Serving) (live : Snapshot) (seen : Rulebook) :
    (s.disguise live seen).ring = (s.ring.1, s.ring.2.disguise live seen) := by
  unfold ring
  show (if s.bell.present = true then _ else _) = _
  split
  · exact congrArg _ (settle_disguise { s with bell := s.bell.ring } live seen)
  · rfl

theorem dropBell_disguise (s : Serving) (live : Snapshot) (seen : Rulebook) :
    (s.disguise live seen).dropBell = s.dropBell.disguise live seen :=
  settle_disguise { s with bell := s.bell.leave } live seen

/-- Publishing puts other rulebooks in place of those that were live, which may be any. -/
theorem Same.publish (h : s.Same s') {r r' : Rulebook} (hr : r.same r' = true) :
    (s.publish r).Same (s'.publish r') where
  apart := by
    rw [h.apart]
    rfl
  live := hr
  seen := h.seen

theorem Same.reaction (h : s.Same s') {r r' : Rulebook} (hr : r.same r' = true) :
    s.loop.reaction r = s'.loop.reaction r' := by
  have hequiv := Rulebook.same_equivalence
  have hseen : r.same s.loop.seen = r'.same s'.loop.seen := by
    rw [Bool.eq_iff_iff]
    constructor
    · intro heq
      exact hequiv.trans (hequiv.symm hr) (hequiv.trans heq h.seen)
    · intro heq
      exact hequiv.trans hr (hequiv.trans heq (hequiv.symm h.seen))
  have hstore : s.loop.storeBacked = s'.loop.storeBacked := by
    rw [h.apart]
    rfl
  rw [ReloadLoop.reaction, ReloadLoop.reaction, hseen, hstore]

/-- What is handed to the loop is published by both or by neither. -/
theorem Same.update (h : s.Same s') {r r' : Rulebook} (hr : r.same r' = true) :
    (s.update r).1 = (s'.update r').1 ∧ (s.update r).2.Same (s'.update r').2 := by
  have hrunning : s'.loop.running = s.loop.running := by rw [h.apart]; rfl
  have hsender : s'.sender = s.sender := by rw [h.apart]; rfl
  unfold Serving.update
  by_cases hopen : (s.sender && s.loop.running) = true
  · have hopen' : (s'.sender && s'.loop.running) = true := by rw [hsender, hrunning, hopen]
    have hrun : s.loop.running = true := (Bool.and_eq_true_iff.mp hopen).2
    have hrun' : s'.loop.running = true := (Bool.and_eq_true_iff.mp hopen').2
    rw [if_pos hopen, if_pos hopen', ReloadLoop.receive, ReloadLoop.receive, if_pos hrun,
      if_pos hrun', ← h.reaction hr]
    refine ⟨rfl, ?_⟩
    cases s.loop.reaction r with
    | unchanged => exact h
    | ignored => exact ⟨by rw [h.apart]; rfl, h.live, hr⟩
    | published => exact ⟨by rw [h.apart]; rfl, hr, hr⟩
  · have hopen' : ¬ (s'.sender && s'.loop.running) = true := by rwa [hsender, hrunning]
    rw [if_neg hopen, if_neg hopen']
    exact ⟨rfl, h⟩

end Serving

/-! ### Control planes -/

/-- Answers that tell the same: equal refusals, as many strategies, rulebooks that say the same. -/
def Answer.Same : Answer → Answer → Prop
  | .executed (.ok o), .executed (.ok o') => o.strategies = o'.strategies
  | .executed (.error e), .executed (.error e') => e = e'
  | .previewed (.ok r), .previewed (.ok r') => r.same r' = true
  | .previewed (.error e), .previewed (.error e') => e = e'
  | .handed received, .handed received' => received = received'
  | .rung listeners, .rung listeners' => listeners = listeners'
  | .done, .done => True
  | _, _ => False

namespace ControlPlane

variable {σ : Type}

/-- The same types are known, and the same is served.  The stores may hold anything. -/
structure Same (p p' : ControlPlane σ) : Prop where
  known : p.known = p'.known
  serving : p.serving.Same p'.serving

variable {p p' : ControlPlane σ}

theorem Same.preview (h : p.Same p') (segments : List Segment) :
    (p.apply (.preview segments)).1.Same (p'.apply (.preview segments)).1 := by
  have hcheck := Alteration.check_of_same h.serving.live p.known segments
  show Answer.Same (.previewed (Alteration.preview p.known p.live.rulebook segments))
    (.previewed (Alteration.preview p'.known p'.live.rulebook segments))
  rw [← h.known, Alteration.preview, Alteration.preview, live, live, ← hcheck]
  cases Alteration.check p.known p.serving.live.rulebook segments with
  | error e => exact rfl
  | ok u => exact Rulebook.merge_same h.serving.live (Rulebook.same_equivalence.refl _)

/-- Refused by both for the same reason, or published by both. -/
theorem Same.execute (h : p.Same p') (segments : List Segment) :
    (p.apply (.execute segments)).1.Same (p'.apply (.execute segments)).1 ∧
      (p.apply (.execute segments)).2.Same (p'.apply (.execute segments)).2 := by
  have hcheck : Alteration.check p.known p.live.rulebook segments =
      Alteration.check p'.known p'.live.rulebook segments := by
    rw [← h.known]
    exact Alteration.check_of_same h.serving.live p.known segments
  have hmerge := Rulebook.merge_same h.serving.live
    (Rulebook.same_equivalence.refl (delta segments))
  simp only [ControlPlane.apply]
  rcases Alteration.execute_cases p.known p.sink segments p.alterable with
    ⟨e, hc, he⟩ | ⟨hc, r, rfl, he⟩
  · rcases Alteration.execute_cases p'.known p'.sink segments p'.alterable with
      ⟨e', hc', he'⟩ | ⟨hc', r', -, -⟩
    · rw [he, he']
      exact ⟨Except.error.inj (hc.symm.trans (hcheck.trans hc')), h.known, h.serving⟩
    · cases hc.symm.trans (hcheck.trans hc')
  · rcases Alteration.execute_cases p'.known p'.sink segments p'.alterable with
      ⟨e', hc', -⟩ | ⟨-, r', rfl, he'⟩
    · cases hc.symm.trans (hcheck.trans hc')
    · rw [he, he']
      exact ⟨(Rulebook.forall₂_strategies hmerge).length_eq, h.known, h.serving.publish hmerge⟩

theorem Same.apply (h : p.Same p') (o : Operation) :
    (p.apply o).1.Same (p'.apply o).1 ∧ (p.apply o).2.Same (p'.apply o).2 := by
  have hrefl := Rulebook.same_equivalence.refl
  cases o with
  | execute segments => exact h.execute segments
  | preview segments => exact ⟨h.preview segments, h⟩
  | publish r => exact ⟨trivial, h.known, h.serving.publish (hrefl r)⟩
  | register algorithms loadBalancers =>
    exact ⟨trivial, congrArg (fun known => known.addAll algorithms loadBalancers) h.known,
      h.serving⟩
  | reload r =>
    obtain ⟨hreceived, hserving⟩ := h.serving.update (hrefl r)
    exact ⟨hreceived, h.known, hserving⟩
  | ring =>
    have hring := Serving.ring_disguise p.serving p'.serving.live p'.serving.loop.seen
    rw [← h.serving.apart] at hring
    have hserving := h.serving.map (f := fun s => s.ring.2) fun s live seen =>
      congrArg Prod.snd (Serving.ring_disguise s live seen)
    exact ⟨(congrArg Prod.fst hring).symm, h.known, hserving⟩
  | dropBell => exact ⟨trivial, h.known, h.serving.map Serving.dropBell_disguise⟩
  | close => exact ⟨trivial, h.known, h.serving.map (f := Serving.close) fun _ _ _ => rfl⟩

theorem Same.run (h : p.Same p') (ops : List Operation) :
    List.Forall₂ Answer.Same (p.run ops).1 (p'.run ops).1 ∧ (p.run ops).2.Same (p'.run ops).2 := by
  induction ops generalizing p p' with
  | nil => exact ⟨.nil, h⟩
  | cons o ops ih =>
    obtain ⟨hanswer, hnext⟩ := h.apply o
    obtain ⟨hanswers, hlast⟩ := ih hnext
    exact ⟨.cons hanswer hanswers, hlast⟩

/-- A rulebook that says the same as the one seen last leaves everything as it is. -/
theorem apply_reload_of_same (p : ControlPlane σ) {r : Rulebook}
    (hseen : r.same p.serving.loop.seen = true) : (p.apply (.reload r)).2 = p := by
  have hreaction : p.serving.loop.reaction r = .unchanged := if_pos hseen
  have hserving : (p.serving.update r).2 = p.serving := by
    unfold Serving.update ReloadLoop.receive
    rw [hreaction]
    split
    · split
      · rfl
      · rfl
    · rfl
  show { p with serving := (p.serving.update r).2 } = p
  rw [hserving]

/-- **A reload that is skipped is not missed.**  The loop skips a rulebook that says the same as the
one it saw last.  If what is live says the same too, all operations that follow get the same
answers as if the loop had published it, and what is live in the end says the same. -/
theorem skipped_reload_is_not_missed (p : ControlPlane σ) {r : Rulebook}
    (hseen : r.same p.serving.loop.seen = true) (hlive : r.same p.live.rulebook = true)
    (ops : List Operation) :
    let skipped := (p.apply (.reload r)).2.run ops
    let published :=
      { p with serving := p.serving.disguise (p.live.publish r) r : ControlPlane σ }.run ops
    List.Forall₂ Answer.Same skipped.1 published.1 ∧
      skipped.2.live.rulebook.same published.2.live.rulebook = true := by
  have hsymm := @Rulebook.same_equivalence.symm
  have hsame : p.Same { p with serving := p.serving.disguise (p.live.publish r) r } :=
    ⟨rfl, rfl, hsymm hlive, hsymm hseen⟩
  obtain ⟨hanswers, hend⟩ := hsame.run ops
  rw [apply_reload_of_same p hseen]
  exact ⟨hanswers, hend.serving.live⟩

end ControlPlane

end TrafficRouting
