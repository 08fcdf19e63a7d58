import Mathlib.Data.List.Induction
import TrafficRouting.Proofs.Alteration.Accepted

/-!
# TrafficRouting.Proofs.Alteration.Fidelity — what a request gets for the strategies it mentions

Of several segments of one name the last counts.  Its labels are what the published rule has; its
definitions are kept under derived keys, so they are what it asked for unless a segment behind it
derives the same key for something else.  That can be a segment of another strategy, because keys
are in lower case and run name and type together (`twins_get_each_other`).  What was defined before
the request does not matter.
-/

namespace TrafficRouting

variable {σ : Type} {known : KnownTypes} {segments before after : List Segment} {g : Segment}

/-! ### Derived keys are never empty -/

theorem underscore_mem_lowerAfter :
    ∀ (s before : List Char), '_' ∈ s → '_' ∈ Text.lowerAfter before s
  | c :: s, before, h => by
    rw [Text.lowerAfter]
    rcases List.mem_cons.mp h with rfl | h
    · rw [if_neg (by decide)]
      exact List.mem_append_left _ (by decide)
    · exact List.mem_append_right _ (underscore_mem_lowerAfter s (c :: before) h)

theorem derivedKey_ne_empty (strategy type : String) : derivedKey strategy type ≠ "" := by
  have h : '_' ∈ (derivedKey strategy type).toList := by
    rw [derivedKey, Text.lower, String.toList_ofList]
    exact underscore_mem_lowerAfter _ _ (by simp)
  intro he
  rw [he] at h
  simp at h

/-- A segment with a load balancer refers to it. -/
theorem Segment.balancer?_strategy (g : Segment) : g.strategy.balancer? = g.balancerKey? := by
  show g.balancerKey?.filter (· ≠ "") = g.balancerKey?
  rw [Segment.balancerKey?]
  cases g.loadBalancer with
  | none => rfl
  | some b => exact Option.filter_some_pos (decide_eq_true (derivedKey_ne_empty _ _))

/-! ### The last segment with a property -/

/-- Behind a segment that passes nothing in front of it counts. -/
theorem find?_reverse_of_pos (before after : List Segment) (p : Segment → Bool) (hg : p g = true) :
    ∃ x ∈ g :: after, p x = true ∧ (g :: after).reverse.find? p = some x ∧
      (before ++ g :: after).reverse.find? p = some x := by
  have hsome : ((g :: after).reverse.find? p).isSome = true :=
    List.find?_isSome.mpr ⟨g, by simp, hg⟩
  obtain ⟨x, hx⟩ := Option.isSome_iff_exists.mp hsome
  refine ⟨x, List.mem_reverse.mp (List.mem_of_find?_eq_some hx), List.find?_some hx, hx, ?_⟩
  rw [List.reverse_append, List.find?_append, hx]
  rfl

theorem lastNamed_of_last (h : ∀ x ∈ after, x.name ≠ g.name) :
    lastNamed g.name (before ++ g :: after) = some g := by
  obtain ⟨x, hx, hp, -, hfind⟩ :=
    find?_reverse_of_pos before after (·.name = g.name) (decide_eq_true rfl)
  rcases List.mem_cons.mp hx with rfl | hx
  · exact hfind
  · exact absurd (of_decide_eq_true hp) (h x hx)

/-- A mentioned name has a last segment. -/
theorem exists_last_segment {n : String} (h : n ∈ segments.map (·.name)) :
    ∃ before g after, segments = before ++ g :: after ∧ g.name = n ∧
      ∀ x ∈ after, x.name ≠ n := by
  induction segments using List.reverseRecOn with
  | nil => simp at h
  | append_singleton l x ih =>
    by_cases hx : x.name = n
    · exact ⟨l, x, [], rfl, hx, by simp⟩
    -- the last segment of the name is among the earlier ones, and stays the last
    · have hl : n ∈ l.map (·.name) := by
        rw [List.map_append, List.mem_append] at h
        exact h.resolve_right fun h' => hx (List.mem_singleton.mp h').symm
      obtain ⟨before, g, after, rfl, hg, hafter⟩ := ih hl
      refine ⟨before, g, after ++ [x], by simp, hg, fun y hy => ?_⟩
      rcases List.mem_append.mp hy with hy | hy
      · exact hafter y hy
      · exact List.mem_singleton.mp hy ▸ hx

/-- The algorithm under the key of a segment comes from it or from one behind it. -/
theorem exists_lastAlgorithm (before : List Segment) (g : Segment) (after : List Segment) :
    ∃ x ∈ g :: after, x.algorithmKey = g.algorithmKey ∧
      lastAlgorithm g.algorithmKey (g :: after) = some x.algorithm ∧
      lastAlgorithm g.algorithmKey (before ++ g :: after) = some x.algorithm := by
  obtain ⟨x, hx, hp, h1, h2⟩ :=
    find?_reverse_of_pos before after (·.algorithmKey = g.algorithmKey) (decide_eq_true rfl)
  refine ⟨x, hx, of_decide_eq_true hp, ?_, ?_⟩
  · rw [lastAlgorithm, h1, Option.map_some]
  · rw [lastAlgorithm, h2, Option.map_some]

/-- So does its load balancer. -/
theorem exists_lastBalancer (before : List Segment) {g : Segment} (after : List Segment) {k : String}
    (hk : g.balancerKey? = some k) :
    ∃ x ∈ g :: after, x.balancerKey? = some k ∧ ∃ b, x.loadBalancer = some b ∧
      lastBalancer k (g :: after) = some b ∧ lastBalancer k (before ++ g :: after) = some b := by
  obtain ⟨x, hx, hp, h1, h2⟩ :=
    find?_reverse_of_pos before after (·.balancerKey? = some k) (decide_eq_true hk)
  obtain ⟨b, hb, -⟩ := Option.map_eq_some_iff.mp (of_decide_eq_true hp)
  refine ⟨x, hx, of_decide_eq_true hp, b, hb, ?_, ?_⟩
  · rw [lastBalancer, h1, Option.bind_some, hb]
  · rw [lastBalancer, h2, Option.bind_some, hb]

/-- It is what the segment asks for if nothing behind it asks for something else under its key. -/
theorem lastAlgorithm_eq
    (h : ∀ x ∈ after, x.algorithmKey = g.algorithmKey → x.algorithm = g.algorithm) :
    lastAlgorithm g.algorithmKey (g :: after) = some g.algorithm := by
  obtain ⟨x, hx, hk, hlast, -⟩ := exists_lastAlgorithm [] g after
  rw [hlast]
  rcases List.mem_cons.mp hx with rfl | hx
  · rfl
  · exact congrArg some (h x hx hk)

theorem lastBalancer_eq {k : String} (hk : g.balancerKey? = some k)
    (h : ∀ x ∈ after, x.balancerKey? = some k → x.loadBalancer = g.loadBalancer) :
    lastBalancer k (g :: after) = g.loadBalancer := by
  obtain ⟨x, hx, hxk, b, hb, hlast, -⟩ := exists_lastBalancer [] after hk
  rw [hlast, ← hb]
  rcases List.mem_cons.mp hx with rfl | hx
  · rfl
  · exact h x hx hxk

/-! ### The published rule -/

namespace Alteration

/-- What the strategy of the last segment of a name resolves to once the request is merged. -/
theorem resolve_merge_delta (current : Rulebook) (before : List Segment)
    (hlast : ∀ x ∈ after, x.name ≠ g.name) :
    (Resolution.ofRulebook (current.merge (delta (before ++ g :: after)))).rule? g.name =
      some {
        name := g.name
        labels := g.labels
        algorithm := lastAlgorithm g.algorithmKey (g :: after)
        loadBalancer := g.balancerKey?.bind (lastBalancer · (g :: after)) } := by
  have hstrategy : (delta (before ++ g :: after)).strategy? g.name = some g.strategy := by
    rw [strategy?_delta, lastNamed_of_last hlast]
    rfl
  have hmem : g.strategy ∈ (current.merge (delta (before ++ g :: after))).strategies :=
    Rulebook.mem_strategies_merge.mpr (Or.inr (List.mem_of_find?_eq_some hstrategy))
  have hname : g.name ∈ (delta (before ++ g :: after)).names := mem_names_delta.mpr (by simp)
  rw [Resolution.rule?_ofRulebook, Rulebook.strategy?_merge_of_mem hname, hstrategy, Option.map_some]
  have halg : (g.strategy.resolve (current.merge (delta (before ++ g :: after)))).algorithm =
      lastAlgorithm g.algorithmKey (g :: after) := by
    refine (Rulebook.get?_merge_algorithms g.algorithmKey).trans ?_
    obtain ⟨x, -, -, hlast, hall⟩ := exists_lastAlgorithm before g after
    rw [get?_delta_algorithms, hall, hlast, Option.some_or]
  have hbal : (g.strategy.resolve (current.merge (delta (before ++ g :: after)))).loadBalancer =
      g.balancerKey?.bind (lastBalancer · (g :: after)) := by
    show g.strategy.balancer?.bind _ = _
    rw [Segment.balancer?_strategy]
    cases hb : g.balancerKey? with
    | none => rfl
    | some k =>
      have hk : g.strategy.balancer? = some k := (Segment.balancer?_strategy g).trans hb
      obtain ⟨x, -, -, b, -, hlast, hall⟩ := exists_lastBalancer before after hb
      rw [Option.bind_some, Option.bind_some, Rulebook.get?_merge_balancers hmem hk,
        get?_delta_balancers, hall, hlast, Option.some_or]
  exact congrArg₂ (fun a b => some (⟨g.name, g.labels, a, b⟩ : Resolved)) halg hbal

/-- **Request fidelity.**  Whatever was live before an accepted request, each name it mentions
resolves to what its last segment `g` asks for: the labels always, the definitions unless a segment
behind `g` derives the same key for another definition, which then counts in its place. -/
theorem accepted_request_resolves {sink : Option (Sink σ)} {st st' : State σ} {o : Outcome}
    (h : execute known sink segments st = (.ok o, st')) :
    ∀ n ∈ segments.map (·.name), ∃ before g after, segments = before ++ g :: after ∧
      g.name = n ∧ (∀ x ∈ after, x.name ≠ n) ∧
      ∃ rule, st'.live.resolution.rule? n = some rule ∧
        rule.name = n ∧ rule.labels = g.labels ∧
        rule.algorithm = lastAlgorithm g.algorithmKey (g :: after) ∧
        rule.loadBalancer = g.balancerKey?.bind (lastBalancer · (g :: after)) ∧
        ((∀ x ∈ after, x.algorithmKey = g.algorithmKey → x.algorithm = g.algorithm) →
          rule.algorithm = some g.algorithm) ∧
        ((∀ x ∈ after, x.balancerKey? = g.balancerKey? → x.loadBalancer = g.loadBalancer) →
          rule.loadBalancer = g.loadBalancer) := by
  intro n hn
  obtain ⟨before, g, after, rfl, rfl, hlast⟩ := exists_last_segment hn
  have hrule := resolve_merge_delta st.live.rulebook before hlast
  have hlive : st'.live.resolution =
      .ofRulebook (st.live.rulebook.merge (delta (before ++ g :: after))) := by
    rw [(live_of_execute_ok h).2]
    rfl
  rw [← hlive] at hrule
  refine ⟨before, g, after, rfl, rfl, hlast, _, hrule, rfl, rfl, rfl, rfl, lastAlgorithm_eq, ?_⟩
  intro hsame
  show g.balancerKey?.bind _ = g.loadBalancer
  cases hb : g.balancerKey? with
  | none => exact (Option.map_eq_none_iff.mp hb).symm
  | some k => exact lastBalancer_eq hb fun x hx hk => hsame x hx (hk.trans hb.symm)

/-- Both `twins` are to match, each by a statement of its own. -/
def crossing : List Segment := [
  { name := "s1", algorithm := { type := "SQL_MATCH", props := .ofList [("sql", "1")] } },
  { name := "S1", algorithm := { type := "SQL_MATCH", props := .ofList [("sql", "2")] } }]

theorem accepted_request_resolves_crossing :
    ∃ st' o, execute .builtin (none : Option (Sink Unit)) crossing ⟨.first .twins, ()⟩ = (.ok o, st') ∧
      "s1" ∈ crossing.map (·.name) ∧
      ∃ before g after, crossing = before ++ g :: after ∧ g.name = "s1" ∧
        ∃ rule, st'.live.resolution.rule? "s1" = some rule ∧ rule.labels = g.labels ∧
          rule.algorithm = lastAlgorithm g.algorithmKey (g :: after) ∧ rule.loadBalancer = none := by
  have hmem : "s1" ∈ crossing.map (·.name) := by decide
  obtain ⟨before, g, after, hseg, hname, -, rule, hrule, -, hlabels, halg, -, -, hbal⟩ :=
    accepted_request_resolves
      (rfl : execute .builtin (none : Option (Sink Unit)) crossing ⟨.first .twins, ()⟩ = _) "s1" hmem
  have hnone : ∀ x ∈ crossing, x.loadBalancer = none := by decide +kernel
  have hin : ∀ x ∈ g :: after, x.loadBalancer = none := fun x hx =>
    hnone x (hseg ▸ List.mem_append_right _ hx)
  have hg : g.loadBalancer = none := hin g List.mem_cons_self
  refine ⟨_, _, rfl, hmem, before, g, after, hseg, hname, rule, hrule, hlabels, halg, ?_⟩
  rw [hbal fun x hx _ => (hin x (List.mem_cons_of_mem _ hx)).trans hg.symm, hg]

/-- The first of them gets the statement of the second: requests are not always resolved as they
ask. -/
theorem twins_get_each_other :
    ¬ ∀ (known : KnownTypes) (segments : List Segment) (st st' : State Unit) (o : Outcome),
      execute known none segments st = (.ok o, st') → ∀ n g, lastNamed n segments = some g →
        st'.live.resolution.rule? n = some ⟨n, g.labels, some g.algorithm, g.loadBalancer⟩ := by
  intro h
  have h1 := h .builtin crossing ⟨.first .twins, ()⟩ _ _ rfl "s1" crossing[0] (by decide +kernel)
  revert h1
  decide +kernel

end Alteration

end TrafficRouting
