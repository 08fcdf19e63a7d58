import TrafficRouting.Proofs.Rulebook.Merge
import TrafficRouting.Proofs.Rulebook.Resolution

/-!
# TrafficRouting.Proofs.Rulebook.Again — two merges in a row

The same delta changes nothing when it comes again (`merge_merge_self`): its strategies go to the
place that they are at, and what the second overlay brings back of the load balancers is dropped
as it was the first time.

Deltas that mention different strategies, and define different keys, may come in either order.
Between the two merges load balancers are dropped that the first leaves unused; one that the second
needs is not among them if the second defines what it refers to (`get?_merge_merge_balancers`).  So
both orders end with the same look-ups and with the same strategies, those of one delta behind
those of the other (`strategies_merge_merge`).
-/

namespace TrafficRouting.Rulebook

variable {c d e : Rulebook}

@[ext] theorem ext {a b : Rulebook} (hs : a.strategies = b.strategies)
    (ha : a.algorithms = b.algorithms) (hb : a.loadBalancers = b.loadBalancers) : a = b := by
  cases a; cases b; simp_all

theorem loadBalancers_merge (c d : Rulebook) :
    (c.merge d).loadBalancers =
      (c.loadBalancers.overlay d.loadBalancers).restrict
        fun k => decide (k ∈ (c.merge d).balancersInUse) := rfl

/-- What a delta leaves of a merged rulebook. -/
theorem untouched_merge (c d e : Rulebook) :
    (c.merge d).untouched e =
      c.strategies.filter (fun s => decide (s.name ∉ d.names ∧ s.name ∉ e.names)) ++
        d.untouched e := by
  rw [untouched, strategies_merge, List.filter_append, untouched, List.filter_filter]
  refine congrArg (· ++ _) (List.filter_congr fun s _ => ?_)
  rw [Bool.decide_and, Bool.and_comm]

/-! ### The same delta again -/

/-- A delta leaves nothing of itself. -/
theorem untouched_self (d : Rulebook) : d.untouched d = [] :=
  List.filter_eq_nil_iff.mpr fun s hs => by simp [mem_names.mpr ⟨s, hs, rfl⟩]

theorem strategies_merge_merge_self (c d : Rulebook) :
    ((c.merge d).merge d).strategies = (c.merge d).strategies := by
  rw [strategies_merge, untouched_merge, untouched_self, List.append_nil, strategies_merge]
  simp only [and_self]
  rfl

/-- **Merging again changes nothing**, not even an order. -/
theorem merge_merge_self (c d : Rulebook) : (c.merge d).merge d = c.merge d := by
  have hstrategies := strategies_merge_merge_self c d
  have huse : ((c.merge d).merge d).balancersInUse = (c.merge d).balancersInUse := by
    rw [balancersInUse, hstrategies, balancersInUse]
  refine Rulebook.ext hstrategies ?_ ?_
  · rw [algorithms_merge, algorithms_merge, OrdMap.overlay_overlay_self]
  · rw [loadBalancers_merge, huse, loadBalancers_merge, OrdMap.restrict_overlay_again]

/-! ### Different deltas in either order -/

/-- A strategy that the delta does not mention is the one from before. -/
theorem strategy?_merge_of_not_mem {n : String} (h : n ∉ d.names) :
    (c.merge d).strategy? n = c.strategy? n := by
  have hdelta : d.strategies.find? (·.name = n) = none :=
    List.find?_eq_none.mpr fun s hs hn => h (mem_names.mpr ⟨s, hs, of_decide_eq_true hn⟩)
  rw [strategy?, strategies_merge, List.find?_append, hdelta, Option.or_none, untouched,
    List.find?_filter, strategy?]
  congr 1
  funext s
  by_cases hn : s.name = n
  · simp [hn, h]
  · simp [hn]

/-- A look-up by name does not tell which of two deltas came first. -/
theorem strategy?_merge_comm (h : ∀ n ∈ d.names, n ∉ e.names) (n : String) :
    ((c.merge d).merge e).strategy? n = ((c.merge e).merge d).strategy? n := by
  by_cases hd : n ∈ d.names
  · rw [strategy?_merge_of_not_mem (h n hd), strategy?_merge_of_mem hd, strategy?_merge_of_mem hd]
  · rw [strategy?_merge_of_not_mem hd]
    by_cases he : n ∈ e.names
    · rw [strategy?_merge_of_mem he, strategy?_merge_of_mem he]
    · rw [strategy?_merge_of_not_mem he, strategy?_merge_of_not_mem he,
        strategy?_merge_of_not_mem hd]

/-- A merge leaves strategies that it does not mention as they are, and in their order. -/
theorem filter_strategies_merge {p : Strategy → Bool} (h : ∀ s, p s = true → s.name ∉ d.names) :
    (c.merge d).strategies.filter p = c.strategies.filter p := by
  have hdelta : d.strategies.filter p = [] :=
    List.filter_eq_nil_iff.mpr fun s hs hp => h s hp (mem_names.mpr ⟨s, hs, rfl⟩)
  rw [strategies_merge, List.filter_append, hdelta, List.append_nil, untouched, List.filter_filter]
  refine List.filter_congr fun s _ => ?_
  by_cases hp : p s = true
  · simp [hp, h s hp]
  · simp [hp]

/-- The strategies that neither delta mentions, those of the first, and those of the second. -/
theorem strategies_merge_merge (h : ∀ n ∈ d.names, n ∉ e.names) :
    ((c.merge d).merge e).strategies =
      c.strategies.filter (fun s => decide (s.name ∉ d.names ∧ s.name ∉ e.names)) ++
        d.strategies ++ e.strategies := by
  have hall : d.untouched e = d.strategies :=
    List.filter_eq_self.mpr fun s hs => decide_eq_true (h s.name (mem_names.mpr ⟨s, hs, rfl⟩))
  rw [strategies_merge, untouched_merge, hall]

theorem strategies_merge_comm_perm (h : ∀ n ∈ d.names, n ∉ e.names) :
    ((c.merge d).merge e).strategies.Perm ((c.merge e).merge d).strategies := by
  rw [strategies_merge_merge h, strategies_merge_merge fun n he hd => h n hd he, List.append_assoc,
    List.append_assoc]
  simp only [and_comm (a := _ ∉ e.names)]
  exact List.perm_append_comm.append_left _

theorem get?_merge_comm_algorithms (h : ∀ k ∈ d.algorithms.keys, k ∉ e.algorithms.keys)
    (k : String) :
    ((c.merge d).merge e).algorithms.get? k = ((c.merge e).merge d).algorithms.get? k := by
  rw [get?_merge_algorithms, get?_merge_algorithms, get?_merge_algorithms, get?_merge_algorithms,
    OrdMap.get?_or_left_comm h]

/-- A load balancer in use comes into use with the delta, or it is in use before. -/
theorem mem_balancersInUse_merge {k : String} (h : k ∈ (c.merge d).balancersInUse) :
    k ∈ d.balancersInUse ∨ k ∈ c.balancersInUse := by
  obtain ⟨s, hs, hk⟩ := mem_balancersInUse.mp h
  rcases mem_strategies_merge.mp hs with ⟨hs, -⟩ | hs
  · exact Or.inr (mem_balancersInUse.mpr ⟨s, hs, hk⟩)
  · exact Or.inl (mem_balancersInUse.mpr ⟨s, hs, hk⟩)

/-- **Nothing is dropped too early**: where the second delta defines what it refers to, every load
balancer in use at the end has the value of the second delta, else of the first, else from
before. -/
theorem get?_merge_merge_balancers (h : ∀ k ∈ e.balancersInUse, k ∈ e.loadBalancers.keys)
    (k : String) :
    ((c.merge d).merge e).loadBalancers.get? k =
      if k ∈ ((c.merge d).merge e).balancersInUse then
        (e.loadBalancers.get? k).or ((d.loadBalancers.get? k).or (c.loadBalancers.get? k))
      else none := by
  rw [get?_merge_balancers_eq_ite]
  split
  · rename_i hk
    rcases mem_balancersInUse_merge hk with he | hbefore
    -- defined anew, whether it was dropped before or not
    · obtain ⟨v, hv⟩ := OrdMap.mem_keys_iff.mp (h k he)
      rw [hv, Option.some_or, Option.some_or]
    · rw [get?_merge_balancers_eq_ite, if_pos hbefore]
  · rfl

theorem get?_merge_comm_balancers (hnames : ∀ n ∈ d.names, n ∉ e.names)
    (h : ∀ k ∈ d.loadBalancers.keys, k ∉ e.loadBalancers.keys)
    (hd : ∀ k ∈ d.balancersInUse, k ∈ d.loadBalancers.keys)
    (he : ∀ k ∈ e.balancersInUse, k ∈ e.loadBalancers.keys) (k : String) :
    ((c.merge d).merge e).loadBalancers.get? k = ((c.merge e).merge d).loadBalancers.get? k := by
  have huse := mem_balancersInUse_perm (strategies_merge_comm_perm (c := c) hnames) (k := k)
  rw [get?_merge_merge_balancers he, get?_merge_merge_balancers hd, OrdMap.get?_or_left_comm h]
  exact if_congr huse rfl rfl

/-! ### The same look-ups -/

/-- The same strategies, in some order, with the same strategy for every name, and the same
definition under every key. -/
structure Alike (r r' : Rulebook) : Prop where
  strategies : r.strategies.Perm r'.strategies
  strategy? : ∀ n, r.strategy? n = r'.strategy? n
  algorithms : ∀ k, r.algorithms.get? k = r'.algorithms.get? k
  loadBalancers : ∀ k, r.loadBalancers.get? k = r'.loadBalancers.get? k

variable {r r' : Rulebook}

theorem Alike.resolve (h : r.Alike r') (s : Strategy) : s.resolve r = s.resolve r' := by
  have hbalancers : r.loadBalancers.get? = r'.loadBalancers.get? := funext h.loadBalancers
  rw [Strategy.resolve, Strategy.resolve, h.algorithms, hbalancers]

/-- A name resolves alike. -/
theorem Alike.rule? (h : r.Alike r') (n : String) :
    (Resolution.ofRulebook r).rule? n = (Resolution.ofRulebook r').rule? n := by
  rw [Resolution.rule?_ofRulebook, Resolution.rule?_ofRulebook, h.strategy?]
  exact congrArg (fun f => Option.map f _) (funext h.resolve)

/-- A label has the same rules, in some order. -/
theorem Alike.withLabel (h : r.Alike r') (label : String) :
    ((Resolution.ofRulebook r).withLabel label).Perm
      ((Resolution.ofRulebook r').withLabel label) := by
  rw [Resolution.withLabel_ofRulebook, Resolution.withLabel_ofRulebook,
    List.map_congr_left fun s _ => h.resolve s]
  exact (h.strategies.filter _).map _

/-- **Independent deltas may come in either order**, each of which defines the load balancers that
it refers to. -/
theorem merge_comm_alike (c : Rulebook) (hnames : ∀ n ∈ d.names, n ∉ e.names)
    (halgorithms : ∀ k ∈ d.algorithms.keys, k ∉ e.algorithms.keys)
    (hbalancers : ∀ k ∈ d.loadBalancers.keys, k ∉ e.loadBalancers.keys)
    (hd : ∀ k ∈ d.balancersInUse, k ∈ d.loadBalancers.keys)
    (he : ∀ k ∈ e.balancersInUse, k ∈ e.loadBalancers.keys) :
    ((c.merge d).merge e).Alike ((c.merge e).merge d) where
  strategies := strategies_merge_comm_perm hnames
  strategy? := strategy?_merge_comm hnames
  algorithms := get?_merge_comm_algorithms halgorithms
  loadBalancers := get?_merge_comm_balancers hnames hbalancers hd he

end TrafficRouting.Rulebook
