import Mathlib.Data.List.Count
import TrafficRouting.Proofs.Rulebook.LabelIndex

/-!
# TrafficRouting.Proofs.Rulebook.Report — the faults of a rulebook, one by one

`checks` lists everything that a rulebook is checked for, in the order of the configuration, each with
the fault to report and with whether it fails; a name fails where an earlier strategy has it.  The
faults are those of the failed checks, in order (`faults_eq_failed`).  So each fault comes as often
as there is a reason for it (`FaultReport`), and none is left exactly if the rulebook is sound, in
which case everything that is referred to is there (`faults_reported_exactly`).
-/

namespace TrafficRouting

/-- The rule of a strategy in which nothing that the strategy refers to is missing. -/
structure Strategy.ResolvesWholly (s : Strategy) (r : Rulebook) (t : Resolved) : Prop
    extends s.ResolvesTo r t where
  algorithm_isSome : t.algorithm.isSome = true
  loadBalancer_isSome : ∀ k, s.loadBalancer = some k → k ≠ "" → t.loadBalancer.isSome = true

namespace Rulebook

section

variable (r : Rulebook) (known : KnownTypes)

/-- What a strategy is checked for; `before` holds the strategies in front of it. -/
def strategyChecks (before : List Strategy) (s : Strategy) : List (Fault × Bool) := [
  (.duplicateStrategy s.name, decide (∃ t ∈ before, t.name = s.name)),
  (.unknownAlgorithm s.name s.algorithm, decide (s.algorithm ∉ r.algorithms.keys)),
  (.unknownBalancer s.name (s.loadBalancer.getD ""),
    decide (∃ k ∈ s.loadBalancer, k ≠ "" ∧ k ∉ r.loadBalancers.keys))]

/-- Everything that a rulebook is checked for: the strategies in order, the load balancers for being
referred to, the types of the algorithms, the types of the load balancers. -/
def checks : List (Fault × Bool) :=
  (r.strategies.zipIdx.flatMap fun x => r.strategyChecks (r.strategies.take x.2) x.1) ++
  r.loadBalancers.keys.map (fun k =>
    (.orphanBalancer k, decide (k = "" ∨ ∀ s ∈ r.strategies, s.loadBalancer ≠ some k))) ++
  r.algorithms.entries.map (fun e =>
    (.unknownAlgorithmType e.1 e.2.type, decide (known.hasAlgorithm e.2.type = false))) ++
  r.loadBalancers.entries.map (fun e =>
    (.unknownBalancerType e.1 e.2.type, decide (known.hasLoadBalancer e.2.type = false)))

/-- The faults of the checks that fail, in order. -/
def failed (cs : List (Fault × Bool)) : List Fault := (cs.filter (·.2)).map (·.1)

/-- What a list of faults says of a rulebook: each fault as often as there is a reason for it, and
all of them in the order of the checks. -/
structure FaultReport (fs : List Fault) : Prop where
  /-- A name is reported each time that it comes again. -/
  duplicate : ∀ n, fs.count (.duplicateStrategy n) = (r.strategies.map (·.name)).count n - 1
  /-- Once for each strategy whose algorithm is missing. -/
  algorithm : ∀ n k, fs.count (.unknownAlgorithm n k) =
    r.strategies.countP fun s => s.name = n ∧ s.algorithm = k ∧ k ∉ r.algorithms.keys
  /-- Once for each strategy whose load balancer is missing. -/
  balancer : ∀ n k, fs.count (.unknownBalancer n k) =
    r.strategies.countP fun s =>
      s.name = n ∧ s.loadBalancer = some k ∧ k ≠ "" ∧ k ∉ r.loadBalancers.keys
  /-- Once for each load balancer that nothing refers to; to the empty key nothing does. -/
  orphan : ∀ k, fs.count (.orphanBalancer k) =
    if k ∈ r.loadBalancers.keys ∧ (k = "" ∨ ∀ s ∈ r.strategies, s.loadBalancer ≠ some k) then 1
    else 0
  /-- Once for each algorithm of a type that is no known algorithm. -/
  algorithmType : ∀ k t, fs.count (.unknownAlgorithmType k t) =
    r.algorithms.entries.countP fun e =>
      e.1 = k ∧ e.2.type = t ∧ known.hasAlgorithm t = false
  /-- Once for each load balancer of a type that is no known load balancer. -/
  balancerType : ∀ k t, fs.count (.unknownBalancerType k t) =
    r.loadBalancers.entries.countP fun e =>
      e.1 = k ∧ e.2.type = t ∧ known.hasLoadBalancer t = false
  /-- The faults of the failed checks and no others. -/
  ordered : fs = failed (r.checks known)

end

variable {r : Rulebook} {known : KnownTypes}

/-! ### In order -/

theorem failed_append (cs cs' : List (Fault × Bool)) :
    failed (cs ++ cs') = failed cs ++ failed cs' := by
  rw [failed, List.filter_append, List.map_append]
  rfl

theorem failed_map {α : Type} (f : α → Fault) (p : α → Bool) (l : List α) :
    failed (l.map fun x => (f x, p x)) = (l.filter p).map f := by
  rw [failed, List.filter_map, List.map_map]
  rfl

theorem failed_cons (f : Fault) (p : Bool) (cs : List (Fault × Bool)) :
    failed ((f, p) :: cs) = (if p = true then [f] else []) ++ failed cs := by
  cases p with
  | false => rfl
  | true => rfl

/-- The faults of a strategy, kind by kind. -/
theorem strategyFaults_eq (r : Rulebook) (seen : List String) (s : Strategy) :
    r.strategyFaults seen s =
      (if s.name ∈ seen then [.duplicateStrategy s.name] else []) ++
      (if s.algorithm ∉ r.algorithms.keys then [.unknownAlgorithm s.name s.algorithm] else []) ++
      (if ∃ k ∈ s.loadBalancer, k ≠ "" ∧ k ∉ r.loadBalancers.keys then
        [.unknownBalancer s.name (s.loadBalancer.getD "")] else []) := by
  rw [strategyFaults]
  refine congrArg₂ (· ++ ·) (congrArg₂ (· ++ ·) rfl ?_) ?_
  · by_cases h : s.algorithm ∈ r.algorithms.keys
    · rw [if_pos (OrdMap.contains_iff.mpr h), if_neg (not_not.mpr h)]
    · rw [if_neg (mt OrdMap.contains_iff.mp h), if_pos h]
  · cases hb : s.balancer? with
    | none =>
      have hno : ¬ ∃ k ∈ s.loadBalancer, k ≠ "" ∧ k ∉ r.loadBalancers.keys := by
        rintro ⟨k, hk, hne, -⟩
        rw [Strategy.balancer?_eq_some_iff.mpr ⟨hk, hne⟩] at hb
        cases hb
      rw [if_neg hno]
    | some k =>
      obtain ⟨hk, hne⟩ := Strategy.balancer?_eq_some_iff.mp hb
      have hiff : (∃ k ∈ s.loadBalancer, k ≠ "" ∧ k ∉ r.loadBalancers.keys) ↔
          k ∉ r.loadBalancers.keys := by
        rw [hk]
        simp [hne]
      by_cases h : k ∈ r.loadBalancers.keys
      · rw [if_neg (mt hiff.mp (not_not.mpr h))]
        exact if_pos (OrdMap.contains_iff.mpr h)
      · rw [if_pos (hiff.mpr h), hk]
        exact if_neg (mt OrdMap.contains_iff.mp h)

theorem strategyFaults_eq_failed {seen : List String} {before : List Strategy} (s : Strategy)
    (hseen : ∀ n, n ∈ seen ↔ ∃ t ∈ before, t.name = n) :
    r.strategyFaults seen s = failed (r.strategyChecks before s) := by
  rw [strategyFaults_eq, strategyChecks, failed_cons, failed_cons, failed_cons, List.append_assoc]
  simp only [hseen, decide_eq_true_eq]
  exact congrArg _ (congrArg _ (List.append_nil _).symm)

/-- The names that count as seen are those of the strategies in front. -/
theorem strategiesFaults_eq_failed {seen : List String} {before : List Strategy} (l : List Strategy)
    (hseen : ∀ n, n ∈ seen ↔ ∃ t ∈ before, t.name = n) :
    r.strategiesFaults seen l =
      failed ((l.zipIdx before.length).flatMap fun x =>
        r.strategyChecks ((before ++ l).take x.2) x.1) := by
  induction l generalizing seen before with
  | nil => rfl
  | cons s l ih =>
    have hnext : ∀ n, n ∈ s.name :: seen ↔ ∃ t ∈ before ++ [s], t.name = n := by
      intro n
      rw [List.mem_cons, hseen]
      constructor
      · rintro (rfl | ⟨t, ht, hn⟩)
        · exact ⟨s, by simp, rfl⟩
        · exact ⟨t, List.mem_append_left _ ht, hn⟩
      · rintro ⟨t, ht, hn⟩
        rcases List.mem_append.mp ht with ht | ht
        · exact Or.inr ⟨t, ht, hn⟩
        · obtain rfl := List.mem_singleton.mp ht
          exact Or.inl hn.symm
    rw [strategiesFaults, strategyFaults_eq_failed s hseen, ih hnext, List.zipIdx_cons,
      List.flatMap_cons, failed_append, List.take_left, List.length_append, List.append_assoc]
    rfl

theorem notMem_balancersInUse_iff {k : String} :
    k ∉ r.balancersInUse ↔ k = "" ∨ ∀ s ∈ r.strategies, s.loadBalancer ≠ some k := by
  rw [mem_balancersInUse]
  simp only [Strategy.balancer?_eq_some_iff]
  by_cases hk : k = ""
  · simp [hk]
  · simp [hk]

/-- **Nothing but the failed checks**, in their order. -/
theorem faults_eq_failed (r : Rulebook) (known : KnownTypes) :
    r.faults known = failed (r.checks known) := by
  have hnone : ∀ n : String, n ∈ [] ↔ ∃ t ∈ ([] : List Strategy), t.name = n := by simp
  have hstrategies : r.strategiesFaults [] r.strategies =
      failed (r.strategies.zipIdx.flatMap fun x =>
        r.strategyChecks (r.strategies.take x.2) x.1) :=
    strategiesFaults_eq_failed r.strategies hnone
  have horphans : r.orphanFaults = failed (r.loadBalancers.keys.map fun k =>
      (.orphanBalancer k, decide (k = "" ∨ ∀ s ∈ r.strategies, s.loadBalancer ≠ some k))) := by
    rw [failed_map, orphanFaults]
    exact congrArg _ (List.filter_congr fun k _ => decide_eq_decide.mpr notMem_balancersInUse_iff)
  have htypes : ∀ b : Bool, (!b) = decide (b = false) := by decide
  rw [faults, hstrategies, horphans, typeFaults, ← List.append_assoc, checks, failed_append,
    failed_append, failed_append, failed_map, failed_map, failed_map]
  simp only [htypes]

/-! ### As often as there is a reason -/

theorem count_ite_singleton {p : Prop} [Decidable p] (f g : Fault) :
    (if p then [f] else []).count g = if p ∧ f = g then 1 else 0 := by
  by_cases hp : p
  · simp [hp, List.count_singleton]
  · simp [hp]

theorem count_map_filter {α : Type} (g : α → Fault) (p : α → Bool) (l : List α) (f : Fault) :
    ((l.filter p).map g).count f = l.countP fun x => decide (g x = f ∧ p x = true) := by
  rw [List.count, List.countP_map, List.countP_filter]
  refine List.countP_congr fun x _ => ?_
  simp

/-- How often each fault comes up at one strategy, by kind. -/
theorem count_strategyFaults (r : Rulebook) (seen : List String) (s : Strategy) (f : Fault) :
    (r.strategyFaults seen s).count f =
      (if s.name ∈ seen ∧ .duplicateStrategy s.name = f then 1 else 0) +
      (if s.algorithm ∉ r.algorithms.keys ∧ .unknownAlgorithm s.name s.algorithm = f then 1
        else 0) +
      (if (∃ k ∈ s.loadBalancer, k ≠ "" ∧ k ∉ r.loadBalancers.keys) ∧
        .unknownBalancer s.name (s.loadBalancer.getD "") = f then 1 else 0) := by
  rw [strategyFaults_eq, List.count_append, List.count_append, count_ite_singleton,
    count_ite_singleton, count_ite_singleton]

/-- A fault that strategies have or have not by themselves comes once for each that has it. -/
theorem count_strategiesFaults {f : Fault} {p : Strategy → Bool}
    (h : ∀ seen s, (r.strategyFaults seen s).count f = if p s = true then 1 else 0)
    (seen : List String) (l : List Strategy) :
    (r.strategiesFaults seen l).count f = l.countP p := by
  induction l generalizing seen with
  | nil => rfl
  | cons s l ih => rw [strategiesFaults, List.count_append, h, ih, List.countP_cons, Nat.add_comm]

/-- A name that is seen already is reported at every mention, another one from its second mention
on. -/
theorem count_duplicateStrategy (n : String) (seen : List String) (l : List Strategy) :
    (r.strategiesFaults seen l).count (.duplicateStrategy n) =
      if n ∈ seen then (l.map (·.name)).count n else (l.map (·.name)).count n - 1 := by
  induction l generalizing seen with
  | nil => simp [strategiesFaults]
  | cons s l ih =>
    have hhead : (r.strategyFaults seen s).count (.duplicateStrategy n) =
        if s.name ∈ seen ∧ s.name = n then 1 else 0 := by
      rw [count_strategyFaults]
      simp
    rw [strategiesFaults, List.count_append, hhead, ih, List.map_cons, List.count_cons]
    by_cases hs : s.name = n
    · by_cases hn : n ∈ seen
      · simp [hs, hn, Nat.add_comm]
      · simp [hs, hn]
    · by_cases hn : n ∈ seen
      · simp [hs, hn]
      · simp [hs, hn, Ne.symm hs]

theorem count_unknownAlgorithm (n k : String) (seen : List String) (l : List Strategy) :
    (r.strategiesFaults seen l).count (.unknownAlgorithm n k) =
      l.countP fun s => s.name = n ∧ s.algorithm = k ∧ k ∉ r.algorithms.keys := by
  refine count_strategiesFaults (fun seen s => ?_) seen l
  have hiff : s.algorithm ∉ r.algorithms.keys ∧ s.name = n ∧ s.algorithm = k ↔
      s.name = n ∧ s.algorithm = k ∧ k ∉ r.algorithms.keys := by
    constructor
    · rintro ⟨hk, rfl, rfl⟩
      exact ⟨rfl, rfl, hk⟩
    · rintro ⟨rfl, rfl, hk⟩
      exact ⟨hk, rfl, rfl⟩
  rw [count_strategyFaults]
  simp [hiff]

theorem count_unknownBalancer (n k : String) (seen : List String) (l : List Strategy) :
    (r.strategiesFaults seen l).count (.unknownBalancer n k) =
      l.countP fun s =>
        s.name = n ∧ s.loadBalancer = some k ∧ k ≠ "" ∧ k ∉ r.loadBalancers.keys := by
  refine count_strategiesFaults (fun seen s => ?_) seen l
  have hiff : (∃ k' ∈ s.loadBalancer, k' ≠ "" ∧ k' ∉ r.loadBalancers.keys) ∧
        s.name = n ∧ s.loadBalancer.getD "" = k ↔
      s.name = n ∧ s.loadBalancer = some k ∧ k ≠ "" ∧ k ∉ r.loadBalancers.keys := by
    constructor
    · rintro ⟨⟨k', hk', hmissing⟩, rfl, rfl⟩
      rw [Option.mem_def] at hk'
      rw [hk']
      exact ⟨rfl, rfl, hmissing⟩
    · rintro ⟨rfl, hk, hmissing⟩
      rw [hk]
      exact ⟨⟨k, rfl, hmissing⟩, rfl, rfl⟩
  rw [count_strategyFaults]
  simp only [reduceCtorEq, and_false, if_false, Nat.zero_add, Fault.unknownBalancer.injEq, hiff,
    decide_eq_true_eq]

/-- No strategy is at fault for a load balancer or a type. -/
theorem count_strategiesFaults_eq_zero {f : Fault} (hdup : ∀ n, f ≠ .duplicateStrategy n)
    (halg : ∀ n k, f ≠ .unknownAlgorithm n k) (hbal : ∀ n k, f ≠ .unknownBalancer n k)
    (seen : List String) (l : List Strategy) : (r.strategiesFaults seen l).count f = 0 := by
  have hnone : ∀ seen s, (r.strategyFaults seen s).count f = if false = true then 1 else 0 := by
    intro seen s
    rw [count_strategyFaults]
    simp [(hdup _).symm, (halg _ _).symm, (hbal _ _).symm]
  rw [count_strategiesFaults hnone, List.countP_false]
  rfl

theorem count_orphanBalancer (r : Rulebook) (k : String) :
    r.orphanFaults.count (.orphanBalancer k) =
      if k ∈ r.loadBalancers.keys ∧ (k = "" ∨ ∀ s ∈ r.strategies, s.loadBalancer ≠ some k) then 1
      else 0 := by
  have hinj : Function.Injective Fault.orphanBalancer := fun _ _ h => Fault.orphanBalancer.inj h
  have hnodup : (r.loadBalancers.keys.filter fun k => decide (k ∉ r.balancersInUse)).Nodup :=
    r.loadBalancers.nodup.filter _
  rw [orphanFaults, List.count_map_of_injective _ _ hinj, hnodup.count]
  simp only [List.mem_filter, decide_eq_true_eq, notMem_balancersInUse_iff]

/-- For either role: the entries that are reported with a key and a type. -/
theorem countP_wrongType {g : String → String → Fault}
    (hg : ∀ {k t k' t'}, g k t = g k' t' → k = k' ∧ t = t') (isKnown : String → Bool)
    (ds : Dict Definition) (k t : String) :
    ds.entries.countP (fun e => g e.1 e.2.type = g k t ∧ isKnown e.2.type = false) =
      ds.entries.countP fun e => e.1 = k ∧ e.2.type = t ∧ isKnown t = false := by
  refine List.countP_congr fun e _ => ?_
  rw [decide_eq_true_eq, decide_eq_true_eq]
  constructor
  · rintro ⟨h, hwrong⟩
    obtain ⟨rfl, rfl⟩ := hg h
    exact ⟨rfl, rfl, hwrong⟩
  · rintro ⟨rfl, rfl, hwrong⟩
    exact ⟨rfl, hwrong⟩

/-- The faults of a rulebook, each as often as it comes. -/
theorem count_faults (r : Rulebook) (known : KnownTypes) (f : Fault) :
    (r.faults known).count f =
      (r.strategiesFaults [] r.strategies).count f + r.orphanFaults.count f +
        (r.algorithms.entries.countP (fun e =>
            .unknownAlgorithmType e.1 e.2.type = f ∧ known.hasAlgorithm e.2.type = false) +
          r.loadBalancers.entries.countP fun e =>
            .unknownBalancerType e.1 e.2.type = f ∧ known.hasLoadBalancer e.2.type = false) := by
  rw [faults, typeFaults, List.count_append, List.count_append, List.count_append,
    count_map_filter, count_map_filter]
  simp only [Bool.not_eq_true']

theorem faultReport_faults (r : Rulebook) (known : KnownTypes) :
    r.FaultReport known (r.faults known) where
  duplicate n := by
    rw [count_faults, count_duplicateStrategy, orphanFaults, count_map_filter]
    simp
  algorithm n k := by
    rw [count_faults, count_unknownAlgorithm, orphanFaults, count_map_filter]
    simp
  balancer n k := by
    rw [count_faults, count_unknownBalancer, orphanFaults, count_map_filter]
    simp
  orphan k := by
    rw [count_faults, count_strategiesFaults_eq_zero (by simp) (by simp) (by simp),
      count_orphanBalancer]
    simp
  algorithmType k t := by
    rw [count_faults, count_strategiesFaults_eq_zero (by simp) (by simp) (by simp), orphanFaults,
      count_map_filter, countP_wrongType Fault.unknownAlgorithmType.inj known.hasAlgorithm]
    simp
  balancerType k t := by
    rw [count_faults, count_strategiesFaults_eq_zero (by simp) (by simp) (by simp), orphanFaults,
      count_map_filter, countP_wrongType Fault.unknownBalancerType.inj known.hasLoadBalancer]
    simp
  ordered := faults_eq_failed r known

/-! ### No fault -/

/-- Soundness in terms of what is written down: the load balancers are exactly those referred to. -/
theorem sound_iff : r.Sound known ↔
    (r.strategies.map (·.name)).Nodup ∧
    (∀ s ∈ r.strategies, s.algorithm ∈ r.algorithms.keys) ∧
    (∀ k, k ∈ r.loadBalancers.keys ↔ k ≠ "" ∧ ∃ s ∈ r.strategies, s.loadBalancer = some k) ∧
    (∀ e ∈ r.algorithms.entries, known.hasAlgorithm e.2.type = true) ∧
    ∀ e ∈ r.loadBalancers.entries, known.hasLoadBalancer e.2.type = true := by
  constructor
  · intro h
    refine ⟨h.names_nodup, h.algorithm_mem, fun k => ⟨fun hk => ?_, ?_⟩, h.algorithm_known,
      h.balancer_known⟩
    · obtain ⟨s, hs, href⟩ := h.balancer_used k hk
      obtain ⟨hk, hne⟩ := Strategy.balancer?_eq_some_iff.mp href
      exact ⟨hne, s, hs, hk⟩
    · rintro ⟨hne, s, hs, hk⟩
      exact h.balancer_mem s hs k (Strategy.balancer?_eq_some_iff.mpr ⟨hk, hne⟩)
  · rintro ⟨hnodup, halgorithm, hkeys, hka, hkb⟩
    refine ⟨⟨hnodup, halgorithm, fun s hs k href => ?_, hka, hkb⟩, fun k hk => ?_⟩
    · obtain ⟨hk, hne⟩ := Strategy.balancer?_eq_some_iff.mp href
      exact (hkeys k).mpr ⟨hne, s, hs, hk⟩
    · obtain ⟨hne, s, hs, hk⟩ := (hkeys k).mp hk
      exact ⟨s, hs, Strategy.balancer?_eq_some_iff.mpr ⟨hk, hne⟩⟩

/-- **Everything that is wrong is reported, and nothing else**: each fault as often as there is a
reason for it, in the order of the configuration.  So no fault is left exactly if names are unique,
references lead somewhere, the load balancers are those referred to, and each type is known in its
own role; and then the resolution has for every strategy the definitions that it refers to. -/
theorem faults_reported_exactly (r : Rulebook) (known : KnownTypes) :
    r.FaultReport known (r.faults known) ∧
    (r.faults known = [] ↔
      (r.strategies.map (·.name)).Nodup ∧
      (∀ s ∈ r.strategies, s.algorithm ∈ r.algorithms.keys) ∧
      (∀ k, k ∈ r.loadBalancers.keys ↔ k ≠ "" ∧ ∃ s ∈ r.strategies, s.loadBalancer = some k) ∧
      (∀ e ∈ r.algorithms.entries, known.hasAlgorithm e.2.type = true) ∧
      ∀ e ∈ r.loadBalancers.entries, known.hasLoadBalancer e.2.type = true) ∧
    (r.faults known = [] →
      List.Forall₂ (fun s t => s.ResolvesWholly r t) r.strategies
        (Resolution.ofRulebook r).rules) := by
  refine ⟨faultReport_faults r known, faults_eq_nil_iff.trans sound_iff, fun h => ?_⟩
  have hclosed : r.Closed known := (faults_eq_nil_iff.mp h).toClosed
  rw [Resolution.rules_ofRulebook, List.forall₂_map_right_iff, List.forall₂_same]
  intro s hs
  refine ⟨s.resolvesTo_resolve r, hclosed.algorithm_isSome hs, fun k hk hne => ?_⟩
  rw [hclosed.loadBalancer_isSome hs, Strategy.balancer?_eq_some_iff.mpr ⟨hk, hne⟩]
  rfl

/-- A name that comes three times, references that lead nowhere, load balancers that nothing refers
to, and types that are known in the other role only. -/
def muddled : Rulebook where
  strategies := [
    { name := "s1", algorithm := "a1", loadBalancer := some "b1" },
    { name := "s1", algorithm := "a3", loadBalancer := some "b3" },
    { name := "s1", algorithm := "a3", loadBalancer := some "" }]
  algorithms := .ofList [("a1", { type := "SQL_HINT" }), ("a2", { type := "RANDOM" })]
  loadBalancers := .ofList [("b1", { type := "PROXY" }), ("", { type := "RANDOM" })]

theorem faults_reported_exactly_twins :
    twins.faults .builtin = [] ∧
      List.Forall₂ (fun s t => s.ResolvesWholly twins t) twins.strategies
        (Resolution.ofRulebook twins).rules ∧
      (muddled.faults .builtin).count (.duplicateStrategy "s1") = 2 ∧
      (muddled.faults .builtin).count (.unknownAlgorithm "s1" "a3") = 2 ∧
      muddled.faults .builtin = [.duplicateStrategy "s1", .unknownAlgorithm "s1" "a3",
        .unknownBalancer "s1" "b3", .duplicateStrategy "s1", .unknownAlgorithm "s1" "a3",
        .orphanBalancer "", .unknownAlgorithmType "a2" "RANDOM",
        .unknownBalancerType "b1" "PROXY"] := by
  have hsound : twins.faults .builtin = [] := by decide +kernel
  have hmuddled := (faults_reported_exactly muddled .builtin).1
  exact ⟨hsound, (faults_reported_exactly twins .builtin).2.2 hsound,
    (hmuddled.duplicate "s1").trans (by decide +kernel),
    (hmuddled.algorithm "s1" "a3").trans (by decide +kernel),
    hmuddled.ordered.trans (by decide +kernel)⟩

end Rulebook

end TrafficRouting
