import TrafficRouting.Alteration
import TrafficRouting.Proofs.Rulebook.Interference

/-!
# TrafficRouting.Proofs.Rulebook.Alarm — which of the shadowed keys are rewritten

A delta rewrites a definition under an untouched strategy if it defines the key in the role in which
the strategy refers to it (`Rewritten`).  `shadowed` lists all such keys, but it does not ask for
the role: an algorithm of the delta under a key that an untouched strategy refers to as a load
balancer is listed too, and the other way round (`mem_shadowed_iff`).  Nothing happens to such a
strategy.  So all that is listed is rewritten exactly if no key crosses the roles without being
rewritten as well (`shadowed_rewritten_iff`); a request may well derive one that does
(`mixed_alarm_is_false`).
-/

namespace TrafficRouting.Rulebook

section

variable (current delta : Rulebook)

/-- The delta defines the key in a role in which an untouched strategy refers to it. -/
def Rewritten (k : String) : Prop :=
  (k ∈ delta.algorithms.keys ∧ ∃ s ∈ current.untouched delta, s.algorithm = k) ∨
    (k ∈ delta.loadBalancers.keys ∧ ∃ s ∈ current.untouched delta, s.balancer? = some k)

/-- The delta defines the key in one role, and an untouched strategy refers to it in the other. -/
def Crossed (k : String) : Prop :=
  (k ∈ delta.algorithms.keys ∧ ∃ s ∈ current.untouched delta, s.balancer? = some k) ∨
    (k ∈ delta.loadBalancers.keys ∧ ∃ s ∈ current.untouched delta, s.algorithm = k)

instance (k : String) : Decidable (current.Rewritten delta k) := inferInstanceAs (Decidable (_ ∨ _))

instance (k : String) : Decidable (current.Crossed delta k) := inferInstanceAs (Decidable (_ ∨ _))

variable {current delta} {s : Strategy} {k : String}

theorem mem_shadowed_iff :
    k ∈ current.shadowed delta ↔ current.Rewritten delta k ∨ current.Crossed delta k := by
  rw [mem_shadowed]
  constructor
  · rintro ⟨hk | hk, s, hs, href | href⟩
    · exact Or.inl (Or.inl ⟨hk, s, hs, href⟩)
    · exact Or.inr (Or.inl ⟨hk, s, hs, href⟩)
    · exact Or.inr (Or.inr ⟨hk, s, hs, href⟩)
    · exact Or.inl (Or.inr ⟨hk, s, hs, href⟩)
  · rintro ((⟨hk, s, hs, href⟩ | ⟨hk, s, hs, href⟩) | ⟨hk, s, hs, href⟩ | ⟨hk, s, hs, href⟩)
    · exact ⟨Or.inl hk, s, hs, Or.inl href⟩
    · exact ⟨Or.inr hk, s, hs, Or.inr href⟩
    · exact ⟨Or.inl hk, s, hs, Or.inr href⟩
    · exact ⟨Or.inr hk, s, hs, Or.inl href⟩

/-- A key that is not rewritten resolves as before, in either role. -/
theorem resolve_merge_of_not_rewritten (h : ¬ current.Rewritten delta k)
    (hs : s ∈ current.untouched delta) :
    (s.algorithm = k →
      (s.resolve (current.merge delta)).algorithm = (s.resolve current).algorithm) ∧
    (s.balancer? = some k →
      (s.resolve (current.merge delta)).loadBalancer = (s.resolve current).loadBalancer) := by
  constructor
  · rintro rfl
    by_contra hne
    exact h (Or.inl ⟨algorithm_mem_keys hne, s, hs, rfl⟩)
  · intro hk
    by_contra hne
    obtain ⟨k', hk', hkeys⟩ := balancer_mem_keys hs hne
    obtain rfl : k = k' := Option.some.inj (hk.symm.trans hk')
    exact h (Or.inr ⟨hkeys, s, hs, hk⟩)

/-- **When every alarm is true.**  All rewritten keys are listed, and none but these if every key
that crosses the roles is rewritten as well.  A key that is listed without being rewritten is a false
alarm: whatever an untouched strategy refers to under it resolves as before. -/
theorem shadowed_rewritten_iff (current delta : Rulebook) :
    (∀ k, current.Rewritten delta k → k ∈ current.shadowed delta) ∧
    ((∀ k ∈ current.shadowed delta, current.Rewritten delta k) ↔
      ∀ k, current.Crossed delta k → current.Rewritten delta k) ∧
    ∀ k ∈ current.shadowed delta, ¬ current.Rewritten delta k → ∀ s ∈ current.untouched delta,
      (s.algorithm = k →
        (s.resolve (current.merge delta)).algorithm = (s.resolve current).algorithm) ∧
      (s.balancer? = some k →
        (s.resolve (current.merge delta)).loadBalancer = (s.resolve current).loadBalancer) := by
  refine ⟨fun k hk => mem_shadowed_iff.mpr (Or.inl hk), ⟨fun h k hk => ?_, fun h k hk => ?_⟩,
    fun k _ h s hs => resolve_merge_of_not_rewritten h hs⟩
  · exact h k (mem_shadowed_iff.mpr (Or.inr hk))
  · exact (mem_shadowed_iff.mp hk).elim id (h k)

end

/-- A rulebook whose load balancer has a key that requests derive for an algorithm. -/
def mixed : Rulebook where
  strategies := [{ name := "s1", algorithm := "a1" },
    { name := "s2", algorithm := "a1", loadBalancer := some "s1_sql_match" }]
  algorithms := .ofList [("a1", { type := "SQL_HINT" })]
  loadBalancers := .ofList [("s1_sql_match", { type := "RANDOM" })]

/-- Asks for the algorithm with this key. -/
def mixing : List Segment := [{ name := "s1", algorithm := { type := "SQL_MATCH" } }]

/-- The load balancer of `s2` is told of as overwritten, and it is the same as before. -/
theorem shadowed_rewritten_iff_mixed :
    "s1_sql_match" ∈ mixed.shadowed (delta mixing) ∧
      ∃ s ∈ mixed.untouched (delta mixing), s.balancer? = some "s1_sql_match" ∧
        (s.resolve (mixed.merge (delta mixing))).loadBalancer = (s.resolve mixed).loadBalancer := by
  have hlisted : "s1_sql_match" ∈ mixed.shadowed (delta mixing) := by decide +kernel
  have hnot : ¬ mixed.Rewritten (delta mixing) "s1_sql_match" := by decide +kernel
  have hs : mixed.strategies[1] ∈ mixed.untouched (delta mixing) := by decide +kernel
  have hk : mixed.strategies[1].balancer? = some "s1_sql_match" := by decide +kernel
  obtain ⟨-, -, hsame⟩ := shadowed_rewritten_iff mixed (delta mixing)
  exact ⟨hlisted, _, hs, hk, (hsame _ hlisted hnot _ hs).2 hk⟩

/-- **A false alarm**: the request is accepted, and not everything that it is said to overwrite is
rewritten. -/
theorem mixed_alarm_is_false :
    Alteration.check .builtin mixed mixing = .ok () ∧
      ¬ ∀ k ∈ mixed.shadowed (delta mixing), mixed.Rewritten (delta mixing) k := by
  refine ⟨by decide +kernel, fun h => ?_⟩
  exact absurd (h "s1_sql_match" (by decide +kernel)) (by decide +kernel)

end TrafficRouting.Rulebook
