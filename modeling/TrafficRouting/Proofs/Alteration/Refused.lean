import TrafficRouting.Proofs.Alteration.Accepted
import TrafficRouting.Proofs.KnownTypes
import TrafficRouting.Proofs.NameSet

/-!
# TrafficRouting.Proofs.Alteration.Refused — what a refusal names

A refused request is told all that is wrong with it, of one kind: the strategies that there are not,
or else the types that are not known in the role in which they are asked for.  A type is known by its
normal form, but it is named as it was written, so spellings of one type are named one by one, and a
text that fails in both roles is named once.  `check_names_exactly` puts both lists in the order of
first mention; mentions of types that are known in their role do not count.
-/

namespace TrafficRouting

/-- The types that a segment asks for: the one of its algorithm, then the one of its load
balancer. -/
def Segment.types (g : Segment) : List (String × Role) :=
  (g.algorithm.type, .algorithm) :: (g.loadBalancer.map fun b => (b.type, .loadBalancer)).toList

namespace Alteration

variable {known : KnownTypes} {current : Rulebook} {segments : List Segment}

/-- Every mention of a strategy that there is not. -/
def missingMentions (current : Rulebook) (segments : List Segment) : List String :=
  (segments.map (·.name)).filter fun n => decide (∀ s ∈ current.strategies, s.name ≠ n)

/-- Every mention of a type that is not known in the role that it is asked for. -/
def unknownMentions (known : KnownTypes) (segments : List Segment) : List String :=
  ((segments.flatMap Segment.types).filter fun m => decide (¬ known.Has m.1 m.2)).map Prod.fst

/-! ### The two lists -/

theorem firstMentions_missing (current : Rulebook) (segments : List Segment) :
    NameSet.FirstMentions (missingMentions current segments) (missing current segments) := by
  have hmentions : missingMentions current segments =
      (segments.map (·.name)).filter fun n => decide (n ∉ current.names) := by
    refine List.filter_congr fun n _ => decide_eq_decide.mpr ?_
    rw [Rulebook.mem_names]
    simp
  rw [hmentions, missing]
  exact NameSet.firstMentions_ofList _

/-- A single mention counts if its type is not known in its role. -/
theorem unknown_singleton (known : KnownTypes) (m : String × Role) :
    (([m].filter fun m => decide (¬ known.Has m.1 m.2)).map Prod.fst) =
      if known.Has m.1 m.2 then [] else [m.1] := by
  by_cases h : known.Has m.1 m.2
  · simp [h]
  · simp [h]

theorem unknownTypesOf_eq (known : KnownTypes) (g : Segment) :
    unknownTypesOf known g =
      (g.types.filter fun m => decide (¬ known.Has m.1 m.2)).map Prod.fst := by
  have hsplit : g.types = [(g.algorithm.type, .algorithm)] ++
    (g.loadBalancer.map fun b => (b.type, .loadBalancer)).toList := rfl
  rw [unknownTypesOf, hsplit, List.filter_append, List.map_append, unknown_singleton]
  congr 1
  · exact if_congr decide_eq_true_iff rfl rfl
  · cases g.loadBalancer with
    | none => rfl
    | some b =>
      refine Eq.trans ?_ (unknown_singleton known (b.type, .loadBalancer)).symm
      exact if_congr decide_eq_true_iff rfl rfl

theorem firstMentions_unknownTypes (known : KnownTypes) (segments : List Segment) :
    NameSet.FirstMentions (unknownMentions known segments) (unknownTypes known segments) := by
  have hmentions : unknownMentions known segments =
      segments.flatMap (unknownTypesOf known) := by
    rw [unknownMentions, List.filter_flatMap, List.map_flatMap]
    exact (List.flatMap_congr fun g _ => unknownTypesOf_eq known g).symm
  rw [hmentions, unknownTypes]
  exact NameSet.firstMentions_ofList _

/-! ### The refusal -/

theorem check_of_missing (h : missing current segments ≠ []) :
    check known current segments = .error (.missingStrategies (missing current segments)) :=
  if_pos h

theorem check_of_unknownTypes (hm : missing current segments = [])
    (hu : unknownTypes known segments ≠ []) :
    check known current segments = .error (.unknownTypes (unknownTypes known segments)) := by
  rw [check, if_neg (not_not.mpr hm), if_pos hu]

theorem typesKnown_iff :
    TypesKnown known segments ↔ ∀ g ∈ segments, ∀ m ∈ g.types, known.Has m.1 m.2 := by
  refine forall₂_congr fun g _ => ?_
  rw [Segment.types, List.forall_mem_cons]
  refine and_congr decide_eq_true_iff ?_
  simp [KnownTypes.Has, KnownTypes.hasLoadBalancer]

/-- **The check, exactly.**  A request is accepted if and only if it mentions only strategies that
there are, and asks only for types whose normal forms are known in their roles.  If a strategy is
missing, all missing ones are named and nothing else, whatever types are asked for.  Otherwise, if a
type is not known, all such types are named as they were written, and nothing else.  Each name comes
once, in the order of first mention. -/
theorem check_names_exactly (known : KnownTypes) (current : Rulebook) (segments : List Segment) :
    (check known current segments = .ok () ↔
      (∀ g ∈ segments, ∃ s ∈ current.strategies, s.name = g.name) ∧
        ∀ g ∈ segments, ∀ m ∈ g.types, known.Has m.1 m.2) ∧
    ((∃ g ∈ segments, ∀ s ∈ current.strategies, s.name ≠ g.name) →
      ∃ names, check known current segments = .error (.missingStrategies names) ∧
        NameSet.FirstMentions (missingMentions current segments) names) ∧
    ((∀ g ∈ segments, ∃ s ∈ current.strategies, s.name = g.name) →
      (∃ g ∈ segments, ∃ m ∈ g.types, ¬ known.Has m.1 m.2) →
      ∃ types, check known current segments = .error (.unknownTypes types) ∧
        NameSet.FirstMentions (unknownMentions known segments) types) := by
  have hthere : missing current segments = [] ↔
      ∀ g ∈ segments, ∃ s ∈ current.strategies, s.name = g.name := by
    rw [missing_eq_nil_iff]
    exact forall₂_congr fun g _ => Rulebook.mem_names
  refine ⟨?_, fun ⟨g, hg, hnone⟩ => ?_, fun hnames ⟨g, hg, m, hm, hnot⟩ => ?_⟩
  · rw [check_eq_ok_iff, typesKnown_iff, ← missing_eq_nil_iff, hthere]
  · refine ⟨_, check_of_missing fun hnil => ?_, firstMentions_missing current segments⟩
    obtain ⟨s, hs, hname⟩ := hthere.mp hnil g hg
    exact hnone s hs hname
  · refine ⟨_, check_of_unknownTypes (hthere.mpr hnames) fun hnil => ?_,
      firstMentions_unknownTypes known segments⟩
    exact hnot (typesKnown_iff.mp (unknownTypes_eq_nil_iff.mp hnil) g hg m hm)

/-- Types in several spellings: `" sql_match "` is known as an algorithm, `"RANDOM"` only as a load
balancer, and `"nope"` fails in both roles. -/
def misspelled : List Segment := [
  { name := "s1", algorithm := { type := " sql_match " }, loadBalancer := some { type := "Random" } },
  { name := "S1", algorithm := { type := "nope" }, loadBalancer := some { type := "nope" } },
  { name := "s1", algorithm := { type := "RANDOM" }, loadBalancer := some { type := "NOPE" } }]

/-- The same for strategies that there are not, one of them mentioned twice. -/
def misnamed : List Segment := misspelled ++ [
  { name := "s9", algorithm := { type := "PROXY" } },
  { name := "s8", algorithm := { type := "PROXY" } },
  { name := "s9", algorithm := { type := "nope" } }]

theorem check_names_exactly_twins :
    (∃ types, check .builtin Rulebook.twins misspelled = .error (.unknownTypes types) ∧
      types = ["nope", "RANDOM", "NOPE"] ∧
      NameSet.FirstMentions (unknownMentions .builtin misspelled) types) ∧
    ∃ names, check .builtin Rulebook.twins misnamed = .error (.missingStrategies names) ∧
      names = ["s9", "s8"] ∧
      NameSet.FirstMentions (missingMentions Rulebook.twins misnamed) names := by
  obtain ⟨-, -, htypes⟩ := check_names_exactly .builtin Rulebook.twins misspelled
  obtain ⟨-, hnames, -⟩ := check_names_exactly .builtin Rulebook.twins misnamed
  obtain ⟨types, hcheck, hfirst⟩ := htypes (by decide +kernel) (by decide +kernel)
  obtain ⟨names, hcheck', hfirst'⟩ := hnames (by decide +kernel)
  have hanswer : check .builtin Rulebook.twins misspelled =
      .error (.unknownTypes ["nope", "RANDOM", "NOPE"]) := by decide +kernel
  have hanswer' : check .builtin Rulebook.twins misnamed =
      .error (.missingStrategies ["s9", "s8"]) := by decide +kernel
  refine ⟨⟨types, hcheck, ?_, hfirst⟩, names, hcheck', ?_, hfirst'⟩
  · exact Refusal.unknownTypes.inj (Except.error.inj (hcheck.symm.trans hanswer))
  · exact Refusal.missingStrategies.inj (Except.error.inj (hcheck'.symm.trans hanswer'))

end Alteration

end TrafficRouting
