import Mathlib.Data.List.Basic
import Mathlib.Data.List.Induction
import Mathlib.Order.Basic
import TrafficRouting.Proofs.Rulebook.Resolution
import TrafficRouting.Snapshot

/-!
# TrafficRouting.Proofs.Snapshot.Board — one publisher and its readers, step by step

Publishing is not one step for those who look on: the publisher reads the live version, builds the
next snapshot at a place of its own, and only then makes this place the live one.  Readers take the
live place at any time and look there whenever they like.  `Board.run` lets publisher and readers
take turns in any order.

`readers_see_whole_snapshots`: what a reading shows, now or later, is one installed snapshot; these
are numbered from one without a gap, and readers never go back.
-/

namespace TrafficRouting

/-- How far the publisher is with the next rulebook. -/
inductive Phase
  | resting
  /-- It has read the live version. -/
  | counted (version : Nat)
  /-- It has built the snapshot, which stands at this place. -/
  | built (place : Nat)
deriving DecidableEq

/-- How many steps of three are done with it. -/
def Phase.steps : Phase → Nat
  | resting => 0
  | counted _ => 1
  | built _ => 2

theorem Phase.steps_lt (p : Phase) : p.steps < 3 := by
  cases p <;> simp [steps]

/-- What a reader can ask for. -/
inductive View
  | snapshot
  | rule
  | rulebook
deriving DecidableEq

/-- What a reading shows; a rule comes with the rulebook that it was resolved from. -/
inductive Shown
  | snapshot (s : Snapshot)
  | rule (resolution : Resolution) (r : Rulebook)
  | rulebook (r : Rulebook)
deriving DecidableEq

/-- The part of a snapshot that was asked for. -/
def View.of : View → Snapshot → Shown
  | snapshot, s => .snapshot s
  | rule, s => .rule s.resolution s.rulebook
  | rulebook, s => .rulebook s.rulebook

/-- A reader keeps the place that was live when it asked. -/
structure Reading (ι : Type) where
  reader : ι
  view : View
  place : Nat
deriving DecidableEq

/-- The snapshots that were built, by place, and which of them is live. -/
structure Board (ι : Type) where
  built : List Snapshot
  live : Nat := 0
  /-- The places that have been live, in order. -/
  installed : List Nat := [0]
  phase : Phase := .resting
  /-- The rulebooks that are still to be published. -/
  todo : List Rulebook
  /-- What readers got, in order. -/
  readings : List (Reading ι) := []

/-- Whose turn it is. -/
inductive Turn (ι : Type)
  | publisher
  | reader (i : ι) (view : View)

def Turn.isPublisher {ι : Type} : Turn ι → Bool
  | publisher => true
  | reader .. => false

namespace Board

variable {ι : Type}

/-- The first rulebook is live, and others are to be published. -/
def begin (r : Rulebook) (todo : List Rulebook) : Board ι := { built := [.first r], todo }

/-- The version that is read from the live place. -/
def liveVersion (b : Board ι) : Nat := (b.built[b.live]?).elim 0 (·.version)

/-- The next step of the publisher. -/
def publish (b : Board ι) : Board ι :=
  match b.phase, b.todo with
  | _, [] => b
  | .resting, _ :: _ => { b with phase := .counted b.liveVersion }
  | .counted version, r :: _ =>
    { b with built := b.built ++ [.ofRulebook (version + 1) r], phase := .built b.built.length }
  | .built place, _ :: rest =>
    { b with live := place, installed := b.installed ++ [place], phase := .resting, todo := rest }

/-- A reader takes the live place. -/
def read (b : Board ι) (i : ι) (view : View) : Board ι :=
  { b with readings := b.readings ++ [⟨i, view, b.live⟩] }

/-- One step of whoever has the turn. -/
def step (b : Board ι) : Turn ι → Board ι
  | .publisher => b.publish
  | .reader i view => b.read i view

/-- Steps in order. -/
def run (b : Board ι) (turns : List (Turn ι)) : Board ι := turns.foldl step b

/-- The snapshots that have been live, in order. -/
def installations (b : Board ι) : List Snapshot := b.installed.filterMap (b.built[·]?)

/-- The snapshot that stands where a reader has taken its place from. -/
def snapshot? (b : Board ι) (x : Reading ι) : Option Snapshot := b.built[x.place]?

/-- What a reading shows when it is looked at. -/
def look (b : Board ι) (x : Reading ι) : Option Shown := (b.snapshot? x).map x.view.of

/-- What a reader got, in order. -/
def readingsOf [DecidableEq ι] (b : Board ι) (i : ι) : List (Reading ι) :=
  b.readings.filter fun x => decide (x.reader = i)

end Board

/-! ### Numbered snapshots -/

/-- The snapshots of rulebooks, numbered from one. -/
def Snapshot.numbered (rs : List Rulebook) : List Snapshot :=
  rs.mapIdx fun k r => .ofRulebook (k + 1) r

namespace Snapshot

theorem numbered_concat (rs : List Rulebook) (r : Rulebook) :
    numbered (rs ++ [r]) = numbered rs ++ [.ofRulebook (rs.length + 1) r] := List.mapIdx_concat

theorem getElem?_numbered (rs : List Rulebook) (k : Nat) :
    (numbered rs)[k]? = rs[k]?.map (ofRulebook (k + 1)) := List.getElem?_mapIdx

theorem length_numbered (rs : List Rulebook) : (numbered rs).length = rs.length :=
  List.length_mapIdx

theorem map_version_numbered (rs : List Rulebook) :
    (numbered rs).map (·.version) = List.range' 1 rs.length := by
  induction rs using List.reverseRecOn with
  | nil => rfl
  | append_singleton rs r ih =>
    rw [numbered_concat, List.map_append, ih, List.length_append, List.length_singleton,
      List.range'_1_concat, Nat.add_comm 1]
    rfl

/-- Each is what publishing makes of the one before. -/
theorem publish_of_numbered {r : Rulebook} {rs : List Rulebook} {k : Nat} {s t : Snapshot}
    (hs : (numbered (r :: rs))[k]? = some s) (ht : (numbered (r :: rs))[k + 1]? = some t) :
    ∃ next, rs[k]? = some next ∧ t = s.publish next := by
  rw [getElem?_numbered, Option.map_eq_some_iff] at hs ht
  obtain ⟨old, -, rfl⟩ := hs
  obtain ⟨next, hnext, rfl⟩ := ht
  exact ⟨next, hnext, rfl⟩

end Snapshot

/-- Looking up all places of a list gives the list. -/
theorem filterMap_getElem?_range {α : Type} (l : List α) :
    (List.range l.length).filterMap (l[·]?) = l := by
  induction l using List.reverseRecOn with
  | nil => rfl
  | append_singleton l a ih =>
    have hleft : ∀ k ∈ List.range l.length, (l ++ [a])[k]? = l[k]? := fun k hk =>
      List.getElem?_append_left (List.mem_range.mp hk)
    rw [List.length_append, List.length_singleton, List.range_succ, List.filterMap_append,
      List.filterMap_congr hleft, ih]
    simp

theorem getElem?_of_prefix {α : Type} {l l' : List α} (h : l <+: l') {k : Nat} {a : α}
    (ha : l[k]? = some a) : l'[k]? = some a := by
  obtain ⟨more, rfl⟩ := h
  rw [List.getElem?_append_left (List.getElem?_eq_some_iff.mp ha).1]
  exact ha

namespace Board

variable {ι : Type} {r : Rulebook} {done rs : List Rulebook} {b : Board ι}

theorem run_append (b : Board ι) (turns later : List (Turn ι)) :
    b.run (turns ++ later) = (b.run turns).run later := List.foldl_append

theorem run_concat (b : Board ι) (turns : List (Turn ι)) (t : Turn ι) :
    b.run (turns ++ [t]) = (b.run turns).step t := b.run_append turns [t]

/-! ### Places stay as they are -/

theorem built_step (b : Board ι) (t : Turn ι) : b.built <+: (b.step t).built := by
  cases t with
  | publisher =>
    show b.built <+: b.publish.built
    unfold publish
    split
    · exact List.prefix_rfl
    · exact List.prefix_rfl
    · exact List.prefix_append _ _
    · exact List.prefix_rfl
  | reader i view => exact List.prefix_rfl

theorem built_run (b : Board ι) (turns : List (Turn ι)) : b.built <+: (b.run turns).built := by
  induction turns using List.reverseRecOn with
  | nil => exact List.prefix_rfl
  | append_singleton turns t ih =>
    rw [run_concat]
    exact ih.trans (built_step _ t)

/-- What stands at a place stands there from then on. -/
theorem snapshot?_run {x : Reading ι} {s : Snapshot} (h : b.snapshot? x = some s)
    (later : List (Turn ι)) : (b.run later).snapshot? x = some s :=
  getElem?_of_prefix (b.built_run later) h

/-! ### What publisher and readers keep -/

/-- The rulebook whose snapshot is built and not yet live. -/
def underway (b : Board ι) : List Rulebook :=
  match b.phase with
  | .built _ => b.todo.take 1
  | _ => []

/-- The rulebooks `done` have been published one after the other, and perhaps one more snapshot is
built; readers have only places that were live when they asked. -/
structure Orderly (r : Rulebook) (done : List Rulebook) (b : Board ι) : Prop where
  live : b.live = done.length
  installed : b.installed = List.range (done.length + 1)
  built : b.built = Snapshot.numbered (r :: done ++ b.underway)
  resting : b.todo = [] → b.phase = .resting
  counted : ∀ version, b.phase = .counted version → version = done.length + 1
  place : ∀ place, b.phase = .built place → place = done.length + 1
  known : ∀ x ∈ b.readings, x.place ≤ b.live
  ordered : b.readings.Pairwise fun x y => x.place ≤ y.place

theorem Orderly.getElem?_built (h : Orderly r done b) {k : Nat} (hk : k ≤ done.length) :
    b.built[k]? = (Snapshot.numbered (r :: done))[k]? := by
  rw [h.built, Snapshot.getElem?_numbered, Snapshot.getElem?_numbered,
    List.getElem?_append_left (by simpa using Nat.lt_succ_of_le hk)]

theorem Orderly.liveVersion (h : Orderly r done b) : b.liveVersion = done.length + 1 := by
  rw [Board.liveVersion, h.live, h.getElem?_built (Nat.le_refl _), Snapshot.getElem?_numbered,
    List.getElem?_eq_getElem (by simp), Option.map_some]
  rfl

/-- While a snapshot is not built there is none underway. -/
theorem Orderly.built_of_underway (h : Orderly r done b) (hnone : b.underway = []) :
    b.built = Snapshot.numbered (r :: done) := by
  rw [h.built, hnone, List.append_nil]

/-- The publisher goes on with the same rulebook or is done with it. -/
theorem Orderly.publish (h : Orderly r done b) :
    ∃ more, done ++ b.todo = done ++ more ++ b.publish.todo ∧
      3 * (done ++ more).length + b.publish.phase.steps =
        3 * done.length + b.phase.steps + (if b.todo = [] then 0 else 1) ∧
      Orderly r (done ++ more) b.publish := by
  unfold Board.publish
  split
  · rename_i htodo
    exact ⟨[], by simp, by simp [htodo], by simpa using h⟩
  · rename_i next rest hphase htodo
    have hbuilt := h.built_of_underway (by simp [underway, hphase])
    refine ⟨[], by simp, by simp [hphase, htodo, Phase.steps], ?_⟩
    rw [List.append_nil]
    refine ⟨h.live, h.installed, ?_, fun hnil => ?_, fun v hv => ?_, nofun, h.known, h.ordered⟩
    · simpa [underway] using hbuilt
    · exact absurd hnil (by simp [htodo])
    · exact (Phase.counted.inj hv).symm.trans h.liveVersion
  · rename_i version next rest hphase htodo
    have hbuilt := h.built_of_underway (by simp [underway, hphase])
    have hversion := h.counted version hphase
    refine ⟨[], by simp, by simp [hphase, htodo, Phase.steps], ?_⟩
    rw [List.append_nil]
    refine ⟨h.live, h.installed, ?_, fun hnil => ?_, nofun, fun a ha => ?_, h.known, h.ordered⟩
    · simp only [underway, htodo, List.take_succ_cons, List.take_zero]
      rw [Snapshot.numbered_concat, hbuilt, hversion, List.length_cons]
    · exact absurd hnil (by simp [htodo])
    · rw [← Phase.built.inj ha, hbuilt, Snapshot.length_numbered, List.length_cons]
  · rename_i place next rest hphase htodo
    have hplace := h.place place hphase
    have hlength : (done ++ [next]).length = done.length + 1 := by simp
    refine ⟨[next], by simp [htodo], ?_,
      ⟨?_, ?_, ?_, fun _ => rfl, nofun, nofun, fun x hx => ?_, h.ordered⟩⟩
    · rw [hlength, hphase, if_neg (by simp [htodo])]
      simp only [Phase.steps]
      omega
    · rw [hlength]
      exact hplace
    · show b.installed ++ [place] = _
      rw [h.installed, hlength, hplace, List.range_succ (n := done.length + 1)]
    · simpa [underway, hphase, htodo] using h.built
    · have hle := h.known x hx
      rw [h.live] at hle
      show x.place ≤ place
      omega

theorem Orderly.read (h : Orderly r done b) (i : ι) (view : View) :
    Orderly r done (b.read i view) := by
  refine ⟨h.live, h.installed, h.built, h.resting, h.counted, h.place, fun x hx => ?_, ?_⟩
  · rcases List.mem_append.mp hx with hx | hx
    · exact h.known x hx
    · obtain rfl := List.mem_singleton.mp hx
      exact Nat.le_refl _
  · refine List.pairwise_append.mpr ⟨h.ordered, List.pairwise_singleton _ _, fun x hx y hy => ?_⟩
    obtain rfl := List.mem_singleton.mp hy
    exact h.known x hx

theorem orderly_begin (r : Rulebook) (rs : List Rulebook) :
    Orderly r [] (begin r rs : Board ι) where
  live := rfl
  installed := rfl
  built := rfl
  resting := fun _ => rfl
  counted := nofun
  place := nofun
  known := by simp [begin]
  ordered := List.Pairwise.nil

/-- Three turns of the publisher bring one rulebook to the live place. -/
theorem orderly_run (r : Rulebook) (rs : List Rulebook) (turns : List (Turn ι)) :
    ∃ done, rs = done ++ ((begin r rs).run turns).todo ∧
      3 * done.length + ((begin r rs).run turns).phase.steps =
        min (turns.countP Turn.isPublisher) (3 * rs.length) ∧
      Orderly r done ((begin r rs).run turns) := by
  induction turns using List.reverseRecOn with
  | nil => exact ⟨[], rfl, by simp [run, begin, Phase.steps], orderly_begin r rs⟩
  | append_singleton turns t ih =>
    obtain ⟨done, hrs, hsteps, h⟩ := ih
    rw [run_concat, List.countP_append, List.countP_singleton]
    generalize (begin r rs).run turns = b at hrs hsteps h
    cases t with
    | publisher =>
      obtain ⟨more, htodo, hmore, horderly⟩ := h.publish
      refine ⟨done ++ more, hrs.trans htodo, ?_, horderly⟩
      have hlength : rs.length = done.length + b.todo.length := by rw [hrs, List.length_append]
      have hlt := b.phase.steps_lt
      show 3 * (done ++ more).length + b.publish.phase.steps = min (_ + 1) _
      rw [hmore]
      by_cases hnil : b.todo = []
      · have hzero : b.phase.steps = 0 := by rw [h.resting hnil]; rfl
        rw [if_pos hnil]
        rw [hnil, List.length_nil] at hlength
        omega
      · have hpos : 0 < b.todo.length := List.length_pos_iff.mpr hnil
        rw [if_neg hnil]
        omega
    | reader i view => exact ⟨done, hrs, hsteps, h.read i view⟩

/-! ### What readers see -/

theorem Orderly.installations (h : Orderly r done b) :
    b.installations = Snapshot.numbered (r :: done) := by
  have hall : ∀ k ∈ List.range (done.length + 1),
      b.built[k]? = (Snapshot.numbered (r :: done))[k]? := fun k hk =>
    h.getElem?_built (Nat.le_of_lt_succ (List.mem_range.mp hk))
  have hlength : done.length + 1 = (Snapshot.numbered (r :: done)).length := by
    rw [Snapshot.length_numbered, List.length_cons]
  rw [Board.installations, h.installed, List.filterMap_congr hall, hlength]
  exact filterMap_getElem?_range _

/-- A reading has the snapshot that was live when it was taken. -/
theorem Orderly.snapshot?_of_mem (h : Orderly r done b) {x : Reading ι} (hx : x ∈ b.readings) :
    ∃ seen, (r :: done)[x.place]? = some seen ∧
      b.snapshot? x = some (.ofRulebook (x.place + 1) seen) := by
  have hplace : x.place ≤ done.length := h.live ▸ h.known x hx
  have hlt : x.place < (r :: done).length := Nat.lt_succ_of_le hplace
  refine ⟨(r :: done)[x.place], List.getElem?_eq_getElem hlt, ?_⟩
  rw [snapshot?, h.getElem?_built hplace, Snapshot.getElem?_numbered,
    List.getElem?_eq_getElem hlt, Option.map_some]

/-- The versions that one reader gets do not go down. -/
theorem Orderly.pairwise_readingsOf [DecidableEq ι] (h : Orderly r done b) (i : ι) :
    ((b.readingsOf i).filterMap b.snapshot?).Pairwise fun s t => s.version ≤ t.version := by
  rw [List.pairwise_filterMap]
  have hsub : (b.readingsOf i).Sublist b.readings := List.filter_sublist
  refine (h.ordered.sublist hsub).imp_of_mem fun {x y} hx hy hle s hs t ht => ?_
  obtain ⟨_, -, hx⟩ := h.snapshot?_of_mem (hsub.subset hx)
  obtain ⟨_, -, hy⟩ := h.snapshot?_of_mem (hsub.subset hy)
  obtain rfl := Option.some.inj (hx.symm.trans hs)
  obtain rfl := Option.some.inj (hy.symm.trans ht)
  exact Nat.succ_le_succ hle

/-- Publisher and readers in any order, every third turn of the publisher bringing the next rulebook
to the live place: the installed snapshots are numbered from one, each being what publishing makes
of the one before; no reader gets a lower version after a higher one; a reading has one installed
snapshot with its own rulebook and the resolution of just this rulebook, and shows it whenever it is
looked at; and what has the same version is the same. -/
theorem readers_see_whole_snapshots [DecidableEq ι] (r : Rulebook) (rs : List Rulebook)
    (turns : List (Turn ι)) (b : Board ι) (hb : b = (begin r rs).run turns) :
    (b.installations = Snapshot.numbered (r :: rs.take (turns.countP Turn.isPublisher / 3)) ∧
      b.installations.map (·.version) = List.range' 1 b.installations.length ∧
      ∀ k s t, b.installations[k]? = some s → b.installations[k + 1]? = some t →
        ∃ next, rs[k]? = some next ∧ t = s.publish next) ∧
    (∀ i, ((b.readingsOf i).filterMap b.snapshot?).Pairwise fun s t => s.version ≤ t.version) ∧
    (∀ x ∈ b.readings, ∃ k s, b.installations[k]? = some s ∧ s.version = k + 1 ∧
      (r :: rs)[k]? = some s.rulebook ∧
      s.resolution.rules = s.rulebook.strategies.map (·.resolve s.rulebook) ∧
      (∀ label, s.resolution.withLabel label =
        (s.rulebook.strategies.filter fun e => label ∈ e.labels).map (·.resolve s.rulebook)) ∧
      b.snapshot? x = some s ∧ ∀ later, (b.run later).look x = some (x.view.of s)) ∧
    ∀ x ∈ b.readings, ∀ y ∈ b.readings, ∀ s t, b.snapshot? x = some s → b.snapshot? y = some t →
      s.version = t.version → s = t := by
  obtain ⟨done, hrs, hsteps, h⟩ := orderly_run r rs turns
  rw [← hb] at hrs hsteps h
  have hstart : done <+: rs := ⟨b.todo, hrs.symm⟩
  have hdone : done = rs.take (turns.countP Turn.isPublisher / 3) := by
    have hlt := b.phase.steps_lt
    have hle := hstart.length_le
    have hlength : min (turns.countP Turn.isPublisher / 3) rs.length = done.length := by omega
    rw [List.prefix_iff_eq_take.mp hstart, ← hlength, ← List.take_eq_take_min]
  have hall := h.installations
  refine ⟨⟨hdone ▸ hall, ?_, ?_⟩, h.pairwise_readingsOf, ?_, ?_⟩
  · rw [hall, Snapshot.map_version_numbered, Snapshot.length_numbered]
  · intro k s t hs ht
    rw [hall] at hs ht
    obtain ⟨next, hnext, rfl⟩ := Snapshot.publish_of_numbered hs ht
    exact ⟨next, getElem?_of_prefix hstart hnext, rfl⟩
  · intro x hx
    obtain ⟨seen, hseen, hsnapshot⟩ := h.snapshot?_of_mem hx
    refine ⟨x.place, _, ?_, rfl, ?_, Resolution.rules_ofRulebook seen,
      Resolution.withLabel_ofRulebook seen, hsnapshot, fun later => ?_⟩
    · rw [hall, Snapshot.getElem?_numbered, hseen, Option.map_some]
    · exact getElem?_of_prefix (List.cons_prefix_cons.mpr ⟨rfl, hstart⟩) hseen
    · rw [look, snapshot?_run hsnapshot, Option.map_some]
  · intro x hx y hy s t hs ht hversion
    obtain ⟨a, ha, hsx⟩ := h.snapshot?_of_mem hx
    obtain ⟨c, hc, hsy⟩ := h.snapshot?_of_mem hy
    obtain rfl := Option.some.inj (hsx.symm.trans hs)
    obtain rfl := Option.some.inj (hsy.symm.trans ht)
    have hplace : x.place = y.place := Nat.succ_inj.mp hversion
    rw [hplace] at ha
    rw [hplace, Option.some.inj (ha.symm.trans hc)]

/-- One reader asks before and after an empty rulebook is published over the twins, another one
while its snapshot is built but not yet live: this one finds the rule that the twins resolve to. -/
theorem readers_see_whole_snapshots_twins :
    let b : Board Bool := (begin .twins [{}]).run
      [.reader true .snapshot, .publisher, .publisher, .reader false .rule, .publisher,
        .reader true .snapshot]
    b.installations = Snapshot.numbered [.twins, {}] ∧
    ((b.readingsOf true).filterMap b.snapshot?).Pairwise (fun s t => s.version ≤ t.version) ∧
    ⟨false, .rule, 0⟩ ∈ b.readings ∧ ∃ s, b.installations[0]? = some s ∧ s.version = 1 ∧
      b.snapshot? ⟨false, .rule, 0⟩ = some s ∧
      (∀ later, (b.run later).look ⟨false, .rule, 0⟩ =
        some (.rule s.resolution s.rulebook)) ∧
      s.resolution.withLabel "OLTP" = [{
        name := "s1"
        labels := .ofList ["OLTP"]
        algorithm := some { type := "SQL_HINT" }
        loadBalancer := some { type := "RANDOM" } }] := by
  intro b
  obtain ⟨⟨hinstalled, -⟩, hordered, hwhole, -⟩ :=
    readers_see_whole_snapshots .twins [{}] _ b rfl
  have hmem : ⟨false, .rule, 0⟩ ∈ b.readings := by decide
  obtain ⟨k, s, hk, hversion, -, -, hlabel, hsnapshot, hlook⟩ := hwhole _ hmem
  have hfirst : b.snapshot? ⟨false, .rule, 0⟩ = some (.first .twins) := rfl
  obtain rfl := Option.some.inj (hfirst.symm.trans hsnapshot)
  obtain rfl : 0 = k := Nat.succ_inj.mp hversion
  exact ⟨hinstalled, hordered true, hmem, _, hk, hversion, hsnapshot, hlook,
    (hlabel "OLTP").trans (by decide +kernel)⟩

end Board

end TrafficRouting
