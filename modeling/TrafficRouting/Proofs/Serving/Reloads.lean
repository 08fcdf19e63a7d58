import Mathlib.Data.List.Infix
import TrafficRouting.Proofs.Rulebook.Same
import TrafficRouting.Proofs.Rulebook.Sound
import TrafficRouting.Proofs.Serving.Mailbox

/-!
# TrafficRouting.Proofs.Serving.Reloads — what the reload loop publishes

The loop compares settings with those it noted last, and notes only what differs.  Since sameness is
an equivalence that is as good as comparing with the settings before (`seen_run`), so the loop
publishes exactly the changes (`map_publications_run`), each as one more version, whatever others do
meanwhile and however the loop stops (`reload_loop_publishes_changes`).
-/

namespace TrafficRouting

/-- The rulebooks that are not the same as the one before; `u` is the one before the first. -/
def changes (u : Rulebook) : List Rulebook → List Rulebook
  | [] => []
  | r :: rest => if r.same u then changes r rest else r :: changes r rest

/-- The last rulebook of a list, or `u` if there is none. -/
def latest (u : Rulebook) (rs : List Rulebook) : Rulebook := rs.getLast?.getD u

theorem latest_concat (u : Rulebook) (rs : List Rulebook) (r : Rulebook) :
    latest u (rs ++ [r]) = r := by
  rw [latest, List.getLast?_concat, Option.getD_some]

theorem changes_append (u : Rulebook) (rs rs' : List Rulebook) :
    changes u (rs ++ rs') = changes u rs ++ changes (latest u rs) rs' := by
  induction rs generalizing u with
  | nil => rfl
  | cons r rs ih =>
    have hlatest : latest u (r :: rs) = latest r rs := by
      rw [latest, latest, List.getLast?_cons, Option.getD_some]
    rw [List.cons_append, changes, changes, ih, hlatest]
    by_cases h : r.same u = true
    · rw [if_pos h, if_pos h]
    · rw [if_neg h, if_neg h, List.cons_append]

theorem changes_concat (u : Rulebook) (rs : List Rulebook) (r : Rulebook) :
    changes u (rs ++ [r]) = changes u rs ++ if r.same (latest u rs) then [] else [r] := by
  rw [changes_append]
  rfl

theorem Snapshot.publish_ne (s : Snapshot) (r : Rulebook) : s.publish r ≠ s := by
  intro h
  have hversion : s.version + 1 = s.version := congrArg Snapshot.version h
  omega

/-- All that a running loop does with a rulebook. -/
theorem ReloadLoop.receive_of_running {l : ReloadLoop} (h : l.running = true) (r : Rulebook)
    (live : Snapshot) :
    l.receive r live =
      ({ l with seen := if r.same l.seen then l.seen else r },
        if (r.same l.seen || l.storeBacked) = true then live else live.publish r) := by
  unfold receive reaction
  rw [if_pos h]
  by_cases hsame : r.same l.seen = true
  · simp [hsame]
  · by_cases hstore : l.storeBacked = true
    · simp [hsame, hstore]
    · simp [hsame, hstore]

namespace Backlog

variable {σ : Type} {p : ControlPlane σ} {u : Rulebook} {storeBacked : Bool} {b c : Backlog σ}
  {ts : List (Taken σ)} {t : Taken σ} {m : Move} {s : Settings} {rest : List Settings}

/-! ### Single steps -/

theorem loop_other {o : Operation} (ho : o.SparesLoop) :
    (b.plane.apply o).2.serving.loop = b.loop := by
  cases o with
  | execute segments => rfl
  | preview segments => rfl
  | publish r => rfl
  | register as bs => rfl
  | reload r => exact ho.elim
  | ring => exact ho.elim
  | dropBell => exact ho.elim
  | close => exact ho.elim

/-- Only by taking settings does the loop note or publish anything. -/
theorem Step.of_ne_take (h : Step b m c) (hm : m ≠ .take) :
    c.loop.seen = b.loop.seen ∧ c.loop.storeBacked = b.loop.storeBacked ∧
      (m.isLoops = true → c.live = b.live) := by
  cases h with
  | send s => exact ⟨rfl, rfl, nofun⟩
  | other ho =>
    have hloop := loop_other (b := b) ho
    exact ⟨congrArg ReloadLoop.seen hloop, congrArg ReloadLoop.storeBacked hloop, nofun⟩
  | ring => exact ⟨rfl, rfl, nofun⟩
  | dropBell => exact ⟨rfl, rfl, nofun⟩
  | close => exact ⟨rfl, rfl, nofun⟩
  | take => exact absurd rfl hm
  | hear hrunning hheard =>
    obtain ⟨hloop, hlive⟩ := settle_of_heard hrunning hheard
    exact ⟨(congrArg ReloadLoop.seen hloop).trans rfl,
      (congrArg ReloadLoop.storeBacked hloop).trans rfl, fun _ => hlive⟩
  | finish => exact ⟨rfl, rfl, fun _ => rfl⟩

/-- The loop takes steps only while it runs. -/
theorem Step.running_of_isLoops (h : Step b m c) (hm : m.isLoops = true) :
    b.loop.running = true := by
  cases h with
  | take _ hrunning => exact hrunning
  | hear hrunning => exact hrunning
  | finish _ _ hrunning => exact hrunning
  | send s => simp [Move.isLoops] at hm
  | other => simp [Move.isLoops] at hm
  | ring => simp [Move.isLoops] at hm
  | dropBell => simp [Move.isLoops] at hm
  | close => simp [Move.isLoops] at hm

/-- A loop that has stopped does not run again. -/
theorem Step.stopped (h : Step b m c) (hb : m.stops = true ∨ b.loop.running = false) :
    c.loop.running = false := by
  cases h with
  | hear hrunning hheard =>
    exact (congrArg ReloadLoop.running (settle_of_heard hrunning hheard).1).trans rfl
  | finish => rfl
  | take _ hrunning => simp [Move.stops, hrunning] at hb
  | send s => exact hb.resolve_left nofun
  | other ho =>
    have hloop := loop_other (b := b) ho
    exact (congrArg ReloadLoop.running hloop).trans (hb.resolve_left nofun)
  | ring => exact hb.resolve_left nofun
  | dropBell => exact hb.resolve_left nofun
  | close => exact hb.resolve_left nofun

/-! ### What a run shows, step by step -/

theorem delivered_concat (ts : List (Taken σ)) (t : Taken σ) :
    delivered (ts ++ [t]) = delivered ts ++ delivered [t] := List.filterMap_append

theorem handled_concat (ts : List (Taken σ)) (t : Taken σ) :
    handled (ts ++ [t]) = handled ts ++ handled [t] := List.filterMap_append

theorem publications_concat (ts : List (Taken σ)) (t : Taken σ) :
    publications (ts ++ [t]) = publications ts ++ publications [t] := List.filterMap_append

theorem handled_take (hmail : b.mail = s :: rest) :
    handled [(⟨.take, b, c⟩ : Taken σ)] = [s] := by
  simp [handled, hmail]

theorem handled_of_ne_take (hm : m ≠ .take) : handled [(⟨m, b, c⟩ : Taken σ)] = [] := by
  cases m with
  | take => exact absurd rfl hm
  | _ => rfl

theorem publications_of_live_eq (h : m.isLoops = true → c.live = b.live) :
    publications [(⟨m, b, c⟩ : Taken σ)] = [] := by
  simpa [publications] using h

/-- What is sent has been taken or waits. -/
theorem mail_step (h : Step b m c) (hmail : handled ts ++ b.mail = delivered ts) :
    handled (ts ++ [⟨m, b, c⟩]) ++ c.mail = delivered (ts ++ [⟨m, b, c⟩]) := by
  -- what was taken before stays in front, so only the last step and the mail count
  rw [handled_concat, delivered_concat, ← hmail, List.append_assoc, List.append_assoc]
  refine congrArg (handled ts ++ ·) ?_
  cases h with
  | take hb => rw [handled_take hb, hb]; simp [delivered, took]
  | send s => simp [handled, delivered]
  | other => simp [handled, delivered]
  | ring => simp [handled, delivered, serve]
  | dropBell => simp [handled, delivered, serve]
  | close => simp [handled, delivered, serve]
  | hear => simp [handled, delivered, serve]
  | finish => simp [handled, delivered, serve]

/-! ### The loop and what it has seen -/

/-- The loop stands where the settings that it took have left it: what it noted is the same as the
latest of them. -/
structure Seen (u : Rulebook) (storeBacked : Bool) (ts : List (Taken σ)) (b : Backlog σ) :
    Prop where
  seen : b.loop.seen.same (latest u (sections ts)) = true
  storeBacked : b.loop.storeBacked = storeBacked
  mail : handled ts ++ b.mail = delivered ts

/-- Comparing with what was noted is comparing with the latest settings. -/
theorem Seen.same_eq (h : Seen u storeBacked ts b) (r : Rulebook) :
    r.same b.loop.seen = r.same (latest u (sections ts)) := by
  rw [Bool.eq_iff_iff]
  exact ⟨fun hr => Rulebook.same_equivalence.trans hr h.seen,
    fun hr => Rulebook.same_equivalence.trans hr (Rulebook.same_equivalence.symm h.seen)⟩

/-- What is live after settings have been taken. -/
theorem Seen.live_took (h : Seen u storeBacked ts b) (hrunning : b.loop.running = true)
    (s : Settings) (rest : List Settings) :
    (b.took s rest).live =
      if (s.traffic.same (latest u (sections ts)) || storeBacked) = true then b.live
      else b.live.publish s.traffic := by
  rw [← h.same_eq, ← h.storeBacked]
  exact congrArg Prod.snd (ReloadLoop.receive_of_running hrunning s.traffic b.live)

theorem sections_take (hmail : b.mail = s :: rest) (ts : List (Taken σ)) :
    sections (ts ++ [⟨.take, b, c⟩]) = sections ts ++ [s.traffic] := by
  rw [sections, handled_concat, handled_take hmail, List.map_append]
  rfl

theorem sections_of_ne_take (hm : m ≠ .take) (ts : List (Taken σ)) :
    sections (ts ++ [⟨m, b, c⟩]) = sections ts := by
  rw [sections, handled_concat, handled_of_ne_take hm, List.append_nil]
  rfl

theorem Seen.step (h : Seen u storeBacked ts b) (hstep : Step b m c) :
    Seen u storeBacked (ts ++ [⟨m, b, c⟩]) c := by
  have hmail := mail_step hstep h.mail
  by_cases hm : m = .take
  · subst hm
    cases hstep with
    | @take s rest hb hrunning =>
      have hloop : (b.took s rest).loop =
          { b.loop with seen := if s.traffic.same b.loop.seen then b.loop.seen else s.traffic } :=
        congrArg Prod.fst (ReloadLoop.receive_of_running hrunning s.traffic b.live)
      refine ⟨?_, ?_, hmail⟩
      · rw [sections_take hb, latest_concat, hloop]
        by_cases hsame : s.traffic.same b.loop.seen = true
        · rw [if_pos hsame]
          exact Rulebook.same_equivalence.symm hsame
        · rw [if_neg hsame]
          exact Rulebook.same_equivalence.refl _
      · rw [hloop]
        exact h.storeBacked
  · obtain ⟨hseen, hstore, -⟩ := hstep.of_ne_take hm
    refine ⟨?_, hstore.trans h.storeBacked, hmail⟩
    rw [sections_of_ne_take hm, hseen]
    exact h.seen

theorem seen_run (h : Run (.begin p u storeBacked) ts c) : Seen u storeBacked ts c := by
  induction h with
  | start => exact ⟨Rulebook.same_equivalence.refl u, rfl, rfl⟩
  | next _ hstep ih => exact ih.step hstep

/-! ### What a run publishes -/

/-- **The loop publishes the changes**, unless a store rules. -/
theorem map_publications_run (h : Run (.begin p u storeBacked) ts c) :
    (publications ts).map (·.rulebook) =
      if storeBacked = true then [] else changes u (sections ts) := by
  induction h with
  | start => cases storeBacked <;> rfl
  | @next ts b c m hrun hstep ih =>
    rw [publications_concat, List.map_append, ih]
    by_cases hm : m = .take
    · subst hm
      cases hstep with
      | @take s rest hb hrunning =>
        have hlive := (seen_run hrun).live_took hrunning s rest
        rw [sections_take hb, changes_concat]
        -- the loop compares with the latest settings, as `changes` does
        by_cases hsame : (s.traffic.same (latest u (sections ts)) || storeBacked) = true
        · rw [if_pos hsame] at hlive
          rw [publications_of_live_eq fun _ => hlive]
          rcases Bool.or_eq_true_iff.mp hsame with hsame | hstore
          · simp [hsame]
          · simp [hstore]
        · rw [if_neg hsame] at hlive
          obtain ⟨hdiffers, hstore⟩ := Bool.or_eq_false_iff.mp (Bool.eq_false_iff.mpr hsame)
          have hpublished : publications [(⟨.take, b, b.took s rest⟩ : Taken σ)] =
              [b.live.publish s.traffic] := by
            simp [publications, Move.isLoops, hlive, Snapshot.publish_ne]
          rw [hpublished]
          simp [hdiffers, hstore]
          rfl
    · rw [sections_of_ne_take hm, publications_of_live_eq (hstep.of_ne_take hm).2.2]
      simp

/-- Nothing more is taken once the loop has stopped. -/
theorem pairwise_stops_run {b : Backlog σ} (h : Run b ts c) :
    (ts.Pairwise fun t t' => t.move.stops = true → t'.move.isLoops = false) ∧
      ((∃ t ∈ ts, t.move.stops = true) → c.loop.running = false) := by
  induction h with
  | start => simp
  | @next ts b c m _ hstep ih =>
    obtain ⟨hpairs, hstopped⟩ := ih
    refine ⟨List.pairwise_append.mpr ⟨hpairs, by simp, fun t ht t' ht' hstops => ?_⟩, ?_⟩
    -- a loop that has stopped does not run, and the loop steps only while it runs
    · obtain rfl := List.mem_singleton.mp ht'
      have hnot := hstopped ⟨t, ht, hstops⟩
      by_contra hloops
      have hrunning := hstep.running_of_isLoops (eq_true_of_ne_false hloops)
      simp [hnot] at hrunning
    · rintro ⟨t, ht, hstops⟩
      rcases List.mem_append.mp ht with ht | ht
      · exact hstep.stopped (Or.inr (hstopped ⟨t, ht, hstops⟩))
      · obtain rfl := List.mem_singleton.mp ht
        exact hstep.stopped (Or.inl hstops)

/-- What the loop does with the settings of a step. -/
theorem live_take_run (h : Run (.begin p u storeBacked) ts c) {ts₁ : List (Taken σ)}
    (hinit : ts₁ ++ [t] <+: ts) (htake : t.move = .take) :
    ∃ s, handled (ts₁ ++ [t]) = handled ts₁ ++ [s] ∧
      t.after.live = if (s.traffic.same (latest u (sections ts₁)) || storeBacked) = true then
        t.before.live else t.before.live.publish s.traffic := by
  induction h with
  | start => simp at hinit
  | @next ts b c m hrun hstep ih =>
    rcases List.prefix_concat_iff.mp hinit with heq | hinit
    · obtain ⟨rfl, hlast⟩ := List.append_inj' heq rfl
      obtain rfl := List.singleton_inj.mp hlast
      obtain rfl : m = .take := htake
      cases hstep with
      | @take s rest hb hrunning =>
        refine ⟨s, ?_, (seen_run hrun).live_took hrunning s rest⟩
        rw [handled_concat, handled_take hb]
    · exact ih hinit

/-- A loop does not change what is live by stopping. -/
theorem live_stops_run {b : Backlog σ} (h : Run b ts c) (ht : t ∈ ts)
    (hstops : t.move.stops = true) : t.after.live = t.before.live := by
  induction h with
  | start => simp at ht
  | @next ts b c m _ hstep ih =>
    rcases List.mem_append.mp ht with ht | ht
    · exact ih ht
    · obtain rfl := List.mem_singleton.mp ht
      cases hstep with
      | hear hrunning hheard => exact (settle_of_heard hrunning hheard).2
      | finish => rfl
      | take => simp [Move.stops] at hstops
      | send s => simp [Move.stops] at hstops
      | other => simp [Move.stops] at hstops
      | ring => simp [Move.stops] at hstops
      | dropBell => simp [Move.stops] at hstops
      | close => simp [Move.stops] at hstops

/-- **The reload loop.**  It began with the settings `u`; then it, and others, took any steps.  It
takes settings in the order in which they are sent.  Where no store rules it has published exactly
those that are not the same as the ones before, in order: each makes the version one higher and
becomes live as it is, while settings that say the same leave what others made live.  Where a store
rules it publishes nothing.  It does not publish by stopping, nor after. -/
theorem reload_loop_publishes_changes (h : Run (.begin p u storeBacked) ts c) :
    handled ts ++ c.mail = delivered ts ∧
    (publications ts).map (·.rulebook) =
      (if storeBacked = true then [] else changes u (sections ts)) ∧
    (∀ ts₁ t, ts₁ ++ [t] <+: ts → t.move = .take →
      ∃ s, handled (ts₁ ++ [t]) = handled ts₁ ++ [s] ∧
        (storeBacked = true ∨ s.traffic.same (latest u (sections ts₁)) = true →
          t.after.live = t.before.live) ∧
        (storeBacked = false ∧ s.traffic.same (latest u (sections ts₁)) = false →
          t.after.live.version = t.before.live.version + 1 ∧
            t.after.live.rulebook = s.traffic)) ∧
    (∀ t ∈ ts, t.move.stops = true → t.after.live = t.before.live) ∧
    ts.Pairwise fun t t' => t.move.stops = true → t'.move.isLoops = false := by
  refine ⟨(seen_run h).mail, map_publications_run h, fun ts₁ t hinit htake => ?_,
    fun t ht hstops => live_stops_run h ht hstops, (pairwise_stops_run h).1⟩
  obtain ⟨s, hhandled, hlive⟩ := live_take_run h hinit htake
  refine ⟨s, hhandled, fun hkeep => ?_, fun ⟨hstore, hdiffers⟩ => ?_⟩
  · rw [hlive, if_pos (Bool.or_eq_true_iff.mpr hkeep.symm)]
  · rw [hlive, if_neg (by simp [hstore, hdiffers])]
    exact ⟨rfl, rfl⟩

/-- Settings are emptied and restored: somebody publishes in between, settings that say the same
follow, and the bell rings while settings wait. -/
theorem reload_loop_publishes_changes_twins :
    ∃ (ts : List (Taken Unit)) (c : Backlog Unit),
      Run (.begin (.begin .builtin none () .twins) .twins false) ts c ∧
      ts.map (·.move.isLoops) =
        [false, true, false, false, true, false, false, true, false, true] ∧
      sections ts = [{}, {}, .twins] ∧ (publications ts).map (·.rulebook) = [{}, .twins] ∧
      c.live.version = 4 ∧ handled ts ++ c.mail = delivered ts ∧ c.mail.length = 1 := by
  have h0 : Run (.begin (.begin .builtin none () .twins : ControlPlane Unit) .twins false) [] _ :=
    .start
  have h1 := h0.next (.send {} rfl rfl)
  have h2 := h1.next (.take rfl rfl)
  have h3 := h2.next (.other (o := .publish .twins) trivial)
  have h4 := h3.next (.send {} rfl (by decide +kernel))
  have h5 := h4.next (.take rfl (by decide +kernel))
  have h6 := h5.next (.send { traffic := .twins } rfl (by decide +kernel))
  have h7 := h6.next (.ring rfl)
  have h8 := h7.next (.take rfl (by decide +kernel))
  have h9 := h8.next (.send {} rfl (by decide +kernel))
  have h10 := h9.next (.hear (by decide +kernel) (by decide +kernel))
  obtain ⟨hmail, hpublished, -⟩ := reload_loop_publishes_changes h10
  refine ⟨_, _, h10, rfl, by decide +kernel, ?_, by decide +kernel, hmail, by decide +kernel⟩
  rw [hpublished]
  decide +kernel

end Backlog

end TrafficRouting
