import TrafficRouting.Proofs.Alteration.Accepted
import TrafficRouting.Proofs.ControlPlane.Run

/-!
# TrafficRouting.Proofs.ControlPlane.Commits — what is live and what the store holds

A commit is an accepted request with the snapshot that is live right after it.  All that a request
can do is in `request_cases`: nothing, or exactly one publication with one call of the sink.  What
is live is therefore the latest commit, whatever the sink does (`commits_live_eq`), and the store
holds the latest commit that was written (`store_lags_by_failed_writes`).
-/

namespace TrafficRouting

/-! ### Sinks that keep what they accept -/

/-- Where the contents of a sink are read by `content`: a write that succeeds replaces them, and one
that fails leaves them. -/
structure Sink.Keeps {σ : Type} (k : Sink σ) (content : σ → Option Rulebook) : Prop where
  ok : ∀ r overwrite x, (k.write r overwrite x).1 = .ok () →
    content (k.write r overwrite x).2 = some r
  error : ∀ r overwrite x e, (k.write r overwrite x).1 = .error e →
    content (k.write r overwrite x).2 = content x

/-- A sink whose calls are noted. -/
def Sink.noted {σ : Type} (k : Sink σ) : Sink (σ × List (Rulebook × Bool)) where
  write r overwrite x :=
    let w := k.write r overwrite x.1
    (w.1, w.2, x.2 ++ [(r, overwrite)])
  path? := k.path?

theorem Sink.Keeps.noted {σ : Type} {k : Sink σ} {content : σ → Option Rulebook}
    (h : k.Keeps content) : k.noted.Keeps fun x => content x.1 where
  ok r overwrite x := h.ok r overwrite x.1
  error r overwrite x := h.error r overwrite x.1

/-! ### What a request does -/

/-- Requests, looked at or applied. -/
def Operation.IsRequest : Operation → Prop
  | execute _ | preview _ => True
  | _ => False

theorem Operation.IsRequest.eq_or {o : Operation} (ho : o.IsRequest) :
    ∃ segments, o = .execute segments ∨ o = .preview segments := by
  cases o with
  | execute segments => exact ⟨segments, Or.inl rfl⟩
  | preview segments => exact ⟨segments, Or.inr rfl⟩
  | publish r => exact ho.elim
  | register as bs => exact ho.elim
  | reload r => exact ho.elim
  | ring => exact ho.elim
  | dropBell => exact ho.elim
  | close => exact ho.elim

/-- An accepted request: its outcome, and what is live right after it. -/
structure Commit where
  outcome : Outcome
  live : Snapshot

namespace ControlPlane

variable {σ τ : Type}

/-- The commit that an operation makes, if it makes one. -/
def commit? (p : ControlPlane σ) (o : Operation) : Option Commit :=
  (p.apply o).1.outcome?.map fun out => ⟨out, (p.apply o).2.live⟩

/-- The commits of a run, in order. -/
def commits (p : ControlPlane σ) : List Operation → List Commit
  | [] => []
  | o :: ops => (p.commit? o).toList ++ commits (p.apply o).2 ops

theorem commits_concat (p : ControlPlane σ) (ops : List Operation) (o : Operation) :
    p.commits (ops ++ [o]) = p.commits ops ++ ((p.run ops).2.commit? o).toList := by
  induction ops generalizing p with
  | nil => simp [commits, run]
  | cons o' ops ih => rw [List.cons_append, commits, ih, commits, List.append_assoc, run_cons]

/-- The rulebook that an operation would publish as a request. -/
def asked? (known : KnownTypes) (current : Rulebook) : Operation → Option Rulebook
  | .execute segments => (Alteration.preview known current segments).toOption
  | _ => none

/-- The control plane after a rulebook has been published and handed to the sink. -/
def committed (p : ControlPlane σ) (r : Rulebook) : ControlPlane σ :=
  { p with
    store := (Alteration.keep p.sink r p.store).2
    serving := { p.serving with live := p.live.publish r } }

/-- The commit of a rulebook. -/
def commitOf (p : ControlPlane σ) (r : Rulebook) : Commit where
  outcome := ⟨p.live.version + 1, r.strategies.length, (Alteration.keep p.sink r p.store).1⟩
  live := p.live.publish r

/-- **All that a request can do**: nothing, or one publication and one call of the sink. -/
theorem request_cases (p : ControlPlane σ) {o : Operation} (ho : o.IsRequest) :
    (asked? p.known p.live.rulebook o = none ∧ p.commit? o = none ∧ (p.apply o).2 = p) ∨
      ∃ r, asked? p.known p.live.rulebook o = some r ∧ p.commit? o = some (p.commitOf r) ∧
        (p.apply o).2 = p.committed r := by
  obtain ⟨segments, rfl | rfl⟩ := ho.eq_or
  · have hasked : asked? p.known p.live.rulebook (.execute segments) =
      (Alteration.preview p.known p.alterable.live.rulebook segments).toOption := rfl
    rw [hasked, commit?, apply, Alteration.execute]
    cases Alteration.preview p.known p.alterable.live.rulebook segments with
    | error e => exact Or.inl ⟨rfl, rfl, rfl⟩
    | ok r => exact Or.inr ⟨r, rfl, rfl, rfl⟩
  · exact Or.inl ⟨rfl, rfl, rfl⟩

/-! ### What is live does not depend on the sink -/

/-- **Publishing comes first**: with the same types and the same live rulebook, the same snapshots
are published one after the other, whatever the sinks do. -/
theorem commits_live_eq {p : ControlPlane σ} {q : ControlPlane τ} (hknown : q.known = p.known)
    (hlive : q.live = p.live) {ops : List Operation} (hops : ∀ o ∈ ops, o.IsRequest) :
    (q.commits ops).map (·.live) = (p.commits ops).map (·.live) := by
  induction ops generalizing p q with
  | nil => rfl
  | cons o ops ih =>
    obtain ⟨ho, hops⟩ := List.forall_mem_cons.mp hops
    rw [commits, commits, List.map_append, List.map_append]
    have hasked : asked? q.known q.live.rulebook o = asked? p.known p.live.rulebook o := by
      rw [hknown, hlive]
    rcases request_cases p ho with ⟨hr, hc, hp⟩ | ⟨r, hr, hc, hp⟩
    · rcases request_cases q ho with ⟨-, hc', hq⟩ | ⟨r', hr', -, -⟩
      · rw [hc, hc', hp, hq, ih hknown hlive hops]
      · simp [hasked, hr] at hr'
    · rcases request_cases q ho with ⟨hr', -, -⟩ | ⟨r', hr', hc', hq⟩
      · simp [hasked, hr] at hr'
      · obtain rfl : r = r' := by simpa [hasked, hr] using hr'
        have hnext : (q.committed r).live = (p.committed r).live :=
          congrArg (fun s : Snapshot => s.publish r) hlive
        rw [hc, hc', hp, hq, ih (p := p.committed r) (q := q.committed r) hknown hnext hops]
        exact congrArg (· :: _) hnext

/-! ### Noting calls changes nothing -/

/-- A control plane beside one whose sink notes its calls: one call for each commit, with the whole
rulebook that was published, over what was there. -/
structure Noted (k : Sink σ) (cs : List Commit) (p : ControlPlane σ)
    (q : ControlPlane (σ × List (Rulebook × Bool))) : Prop where
  sink : p.sink = some k
  noting : q.sink = some k.noted
  known : q.known = p.known
  live : q.live = p.live
  store : q.store = (p.store, cs.map fun c => (c.live.rulebook, true))

theorem noted_run {k : Sink σ} {p : ControlPlane σ} {q : ControlPlane (σ × List (Rulebook × Bool))}
    (h : Noted k [] p q) {ops : List Operation} (hops : ∀ o ∈ ops, o.IsRequest) :
    Noted k (p.commits ops) (p.run ops).2 (q.run ops).2 := by
  induction ops using List.reverseRecOn with
  | nil => exact h
  | append_singleton ops o ih =>
    have ih := ih fun o' ho' => hops o' (List.mem_append_left _ ho')
    have ho : o.IsRequest := hops o (by simp)
    rw [commits_concat, run_concat, run_concat]
    generalize (p.run ops).2 = p' at ih ⊢
    generalize (q.run ops).2 = q' at ih ⊢
    have hasked : asked? q'.known q'.live.rulebook o = asked? p'.known p'.live.rulebook o := by
      rw [ih.known, ih.live]
    -- both are asked for the same rulebook, so both commit or neither does
    rcases request_cases p' ho with ⟨hr, hc, hp⟩ | ⟨r, hr, hc, hp⟩
    · rcases request_cases q' ho with ⟨-, -, hq⟩ | ⟨r', hr', -, -⟩
      · rw [hc, hp, hq, Option.toList_none, List.append_nil]
        exact ih
      · simp [hasked, hr] at hr'
    · rcases request_cases q' ho with ⟨hr', -, -⟩ | ⟨r', hr', -, hq⟩
      · simp [hasked, hr] at hr'
      · obtain rfl : r = r' := by simpa [hasked, hr] using hr'
        rw [hc, hp, hq, Option.toList_some]
        refine ⟨ih.sink, ih.noting, ih.known, ?_, ?_⟩
        · exact congrArg (fun s : Snapshot => s.publish r) ih.live
        · show (Alteration.keep q'.sink r q'.store).2 =
            ((Alteration.keep p'.sink r p'.store).2, _)
          rw [ih.noting, ih.sink, ih.store, List.map_append]
          rfl

/-! ### The lag of the store -/

/-- The latest commit that was written. -/
def lastWritten? (cs : List Commit) : Option Commit :=
  (cs.filter fun c => decide (c.outcome.persisted = .written)).getLast?

theorem lastWritten?_concat (cs : List Commit) (c : Commit) :
    lastWritten? (cs ++ [c]) =
      if c.outcome.persisted = .written then some c else lastWritten? cs := by
  rw [lastWritten?, lastWritten?, List.filter_append]
  by_cases hc : c.outcome.persisted = .written
  · simp [hc]
  · simp [hc]

/-- How a control plane that began with `r` stands after the commits `cs`: the latest one is live,
they are numbered, and the store holds the latest one that was written. -/
structure Lags (k : Sink σ) (content : σ → Option Rulebook) (r : Rulebook) (begun : Option Rulebook)
    (cs : List Commit) (p : ControlPlane σ) : Prop where
  sink : p.sink = some k
  live : p.live = (cs.getLast?.map (·.live)).getD (.first r)
  version : p.live.version = 1 + cs.length
  numbered : ∀ i c, cs[i]? = some c → c.outcome.version = i + 2 ∧ c.live.version = i + 2 ∧
    c.outcome.strategies = c.live.rulebook.strategies.length
  stored : content p.store = ((lastWritten? cs).map (·.live.rulebook)).or begun

variable {k : Sink σ} {content : σ → Option Rulebook} {r : Rulebook} {begun : Option Rulebook}
  {cs : List Commit} {p : ControlPlane σ}

/-- What the sink does with a rulebook shows in how it is told. -/
theorem content_keep (hk : k.Keeps content) (r : Rulebook) (x : σ) :
    content (Alteration.keep (some k) r x).2 =
      if (Alteration.keep (some k) r x).1 = .written then some r else content x := by
  show content (k.write r true x).2 =
    if Alteration.persisted (k.write r true x).1 = .written then some r else content x
  cases hw : (k.write r true x).1 with
  | ok u => rw [hk.ok r true x hw, Alteration.persisted, if_pos rfl]
  | error e => rw [hk.error r true x e hw, Alteration.persisted, if_neg (by simp)]

/-- A commit keeps the lag. -/
theorem lags_committed (hk : k.Keeps content) (h : Lags k content r begun cs p)
    (r' : Rulebook) : Lags k content r begun (cs ++ [p.commitOf r']) (p.committed r') := by
  have hversion : (p.committed r').live.version = p.live.version + 1 := rfl
  refine ⟨h.sink, ?_, ?_, fun i c hc => ?_, ?_⟩
  · rw [List.getLast?_concat]
    rfl
  · rw [hversion, h.version, List.length_append, List.length_singleton]
    omega
  · rcases Nat.lt_trichotomy i cs.length with hi | rfl | hi
    · rw [List.getElem?_append_left hi] at hc
      exact h.numbered i c hc
    · rw [List.getElem?_concat_length] at hc
      obtain rfl := Option.some.inj hc
      have hnumber : p.live.version + 1 = cs.length + 2 := by
        rw [h.version]
        omega
      exact ⟨hnumber, hnumber, rfl⟩
    · rw [List.getElem?_eq_none (by simp; omega)] at hc
      simp at hc
  · show content (Alteration.keep p.sink r' p.store).2 = _
    rw [h.sink, content_keep hk, lastWritten?_concat, h.stored]
    have hpersisted : (p.commitOf r').outcome.persisted =
        (Alteration.keep (some k) r' p.store).1 := by rw [← h.sink]; rfl
    rw [hpersisted]
    split
    · rfl
    · rfl

theorem lags_run (hk : k.Keeps content) (h : Lags k content r begun [] p) {ops : List Operation}
    (hops : ∀ o ∈ ops, o.IsRequest) :
    Lags k content r begun (p.commits ops) (p.run ops).2 := by
  induction ops using List.reverseRecOn with
  | nil => exact h
  | append_singleton ops o ih =>
    have ih := ih fun o' ho' => hops o' (List.mem_append_left _ ho')
    rw [commits_concat, run_concat]
    rcases request_cases (p.run ops).2 (hops o (by simp)) with ⟨-, hc, hp⟩ | ⟨r', -, hc, hp⟩
    · rw [hc, hp, Option.toList_none, List.append_nil]
      exact ih
    · rw [hc, hp, Option.toList_some]
      exact lags_committed hk ih r'

/-- **The store lags by the writes that failed.**  A control plane begins with a rulebook and a sink
that may fail at any call.  After any requests: the live version counts the commits, which are
numbered by it; the sink was called once for each commit, with the whole rulebook, over what was
there; it holds the rulebook of the latest commit that was written; and what is live is the
latest commit, one for each accepted request, as it would be with any other sink or none. -/
theorem store_lags_by_failed_writes (hk : k.Keeps content) (known : KnownTypes) (r : Rulebook)
    (x : σ) {ops : List Operation} (hops : ∀ o ∈ ops, o.IsRequest) :
    let p : ControlPlane σ := .begin known (some k) x r
    let cs := p.commits ops
    let q := (p.run ops).2
    (q.live.version = 1 + cs.length ∧ ∀ i c, cs[i]? = some c → c.outcome.version = i + 2 ∧
      c.live.version = i + 2 ∧ c.outcome.strategies = c.live.rulebook.strategies.length) ∧
    ((ControlPlane.begin known (some k.noted) (x, []) r).run ops).2.store =
      (q.store, cs.map fun c => (c.live.rulebook, true)) ∧
    (content q.store = ((lastWritten? cs).map (·.live.rulebook)).or (content x) ∧
      ∀ c, cs.getLast? = some c → c.outcome.persisted = .written →
        content q.store = some q.live.rulebook) ∧
    q.live = (cs.getLast?.map (·.live)).getD (.first r) ∧
    ∀ (τ : Type) (sink : Option (Sink τ)) (y : τ),
      ((ControlPlane.begin known sink y r).commits ops).map (·.live) = cs.map (·.live) := by
  intro p cs q
  have hbegin : Lags k content r (content x) [] p := by
    refine ⟨rfl, rfl, rfl, fun i c hc => by simp at hc, ?_⟩
    rfl
  have hq : Lags k content r (content x) cs q := lags_run hk hbegin hops
  have hnoted := noted_run (p := p) (q := .begin known (some k.noted) (x, []) r)
    ⟨rfl, rfl, rfl, rfl, rfl⟩ hops
  refine ⟨⟨hq.version, hq.numbered⟩, hnoted.store, ⟨hq.stored, fun c hc hwritten => ?_⟩, hq.live,
    fun _ sink y => commits_live_eq (p := p) (q := .begin known sink y r) rfl rfl hops⟩
  obtain ⟨before, hbefore⟩ := List.getLast?_eq_some_iff.mp hc
  rw [hq.stored, hq.live, hc, hbefore, lastWritten?_concat, if_pos hwritten]
  rfl

end ControlPlane

/-- A sink that fails and writes as a list says, and writes from then on. -/
def Sink.wavering : Sink (List Bool × Option Rulebook) where
  write r _ x := match x.1 with
    | true :: rest => (.error (.io .unavailable), rest, x.2)
    | false :: rest => (.ok (), rest, some r)
    | [] => (.ok (), [], some r)

theorem Sink.wavering_keeps : Sink.wavering.Keeps Prod.snd where
  ok r overwrite x h := by
    obtain ⟨_ | ⟨_ | _, rest⟩, held⟩ := x
    · rfl
    · rfl
    · simp [wavering] at h
  error r overwrite x e h := by
    obtain ⟨_ | ⟨_ | _, rest⟩, held⟩ := x
    · simp [wavering] at h
    · simp [wavering] at h
    · rfl

namespace ControlPlane

/-- Three requests that are accepted, with a look and a refusal between them. -/
def threeRequests : List Operation := [
  .execute [{ name := "s1", algorithm := { type := "JDBC" } }],
  .preview [{ name := "S1", algorithm := { type := "PROXY" } }],
  .execute [{ name := "S1", algorithm := { type := "SQL_HINT" } }],
  .execute [{ name := "s1", algorithm := { type := "SHARD" } }],
  .execute [{ name := "s1", algorithm := { type := "PROXY" } }]]

theorem store_lags_by_failed_writes_twins :
    Sink.wavering.Keeps Prod.snd ∧ (∀ o ∈ threeRequests, o.IsRequest) ∧
      let p := ControlPlane.begin .builtin (some Sink.wavering) ([true, false, true], none) .twins
      let cs := p.commits threeRequests
      let q := (p.run threeRequests).2
      cs.map (fun c => decide (c.outcome.persisted = .written)) = [false, true, false] ∧
        q.live.version = 4 ∧ q.live.version = 1 + cs.length ∧
        q.store.2 = (cs[1]?).map (·.live.rulebook) ∧
        q.store.2 = ((lastWritten? cs).map (·.live.rulebook)).or none ∧
        q.store.2 ≠ some q.live.rulebook := by
  have hops : ∀ o ∈ threeRequests, o.IsRequest := by
    simp [threeRequests, Operation.IsRequest]
  obtain ⟨⟨hversion, -⟩, -, ⟨hstored, -⟩, -⟩ := store_lags_by_failed_writes Sink.wavering_keeps
    .builtin .twins ([true, false, true], none) hops
  exact ⟨Sink.wavering_keeps, hops, by decide +kernel, by decide +kernel, hversion,
    by decide +kernel, hstored, by decide +kernel⟩

end ControlPlane

end TrafficRouting
