import TrafficRouting.Proofs.Store.Writable

/-!
# TrafficRouting.Proofs.Store.CutOff — writes that stop anywhere

A write may be refused on the way, and it may be cut off between two changes or in the middle of the
temporary file.  Then some of the directories have been made, or there is a temporary file with any
bytes, or everything has been done (`CutOff`).  So the document is the old one or the new one, and
what is left over bars no later write (`persist_all_or_nothing`), however often that happens
(`attempts_keep_store`).
-/

namespace TrafficRouting.Store

variable {path : FilePath} {r : Rulebook} {overwrite : Bool} {t t' : FileTree}

/-- What a write leaves that is cut off. -/
inductive CutOff (path : FilePath) (r : Rulebook) (overwrite : Bool) (t t' : FileTree) : Prop
  /-- At most directories have been made. -/
  | above : t' ∈ (Plan.makeDirs path.directories.reverse).cutoffs t → CutOff path r overwrite t t'
  /-- The temporary file has been written, in part or as a whole. -/
  | beside {t₁ : FileTree} {b : ByteArray} :
      (Plan.makeDirs path.directories.reverse).run t = (none, t₁) →
      t₁.write path.temporary b = .ok t' → CutOff path r overwrite t t'
  | moved : (persist path r overwrite).run t = (.ok (), t') → CutOff path r overwrite t t'

theorem cutOff_of_mem_cutoffs (h : t' ∈ (persist path r overwrite).cutoffs t) :
    CutOff path r overwrite t t' := by
  rw [persist, Plan.cutoffs] at h
  split at h
  · obtain rfl := List.mem_singleton.mp h
    exact .above (Plan.start_mem_cutoffs _ t')
  rename_i hgoes
  rcases Plan.mem_cutoffs_bind h with h | h
  · exact .above h
  have hmade := Plan.run_mem_cutoffs (Plan.makeDirs path.directories.reverse) t
  cases hdirs : (Plan.makeDirs path.directories.reverse).run t with | mk e? t₁
  rw [hdirs] at h hmade
  cases e? with
  | some e => exact .above (List.mem_singleton.mp h ▸ hmade)
  | none =>
    dsimp only at h
    rw [Plan.cutoffs, Change.apply] at h
    cases hwrite : t₁.write path.temporary (document r).toUTF8 with
    | error e =>
      rw [hwrite] at h
      rcases List.mem_cons.mp h with rfl | h
      · exact .above hmade
      · exact .above (List.mem_singleton.mp h ▸ hmade)
    | ok t₂ =>
      rw [hwrite] at h
      rcases List.mem_cons.mp h with rfl | h
      · exact .above hmade
      rcases List.mem_append.mp h with h | h
      · obtain ⟨p, b, n, heq, hpart⟩ := Change.mem_partials h
        obtain ⟨rfl, -⟩ := Change.write.inj heq
        exact .beside hdirs hpart
      rw [Plan.cutoffs, Change.apply] at h
      cases hrename : t₂.rename path.temporary path with
      | error e =>
        rw [hrename] at h
        rcases List.mem_cons.mp h with rfl | h
        · exact .beside hdirs hwrite
        · exact .beside hdirs (List.mem_singleton.mp h ▸ hwrite)
      | ok t₃ =>
        rw [hrename] at h
        rcases List.mem_cons.mp h with rfl | h
        · exact .beside hdirs hwrite
        · obtain rfl := List.mem_singleton.mp h
          refine .moved ?_
          rw [persist, Plan.run, if_neg hgoes, Plan.run_bind, hdirs]
          simp only [Plan.run, Change.apply, hwrite, hrename]

/-- What is left over is a temporary file, and directories; else the write has come to its end. -/
theorem CutOff.cases (hp : path.Plain) (h : CutOff path r overwrite t t') :
    (Frame path t t' ∧ t'.node? (path.place t.here) = t.node? (path.place t.here) ∧
      (t'.node? (path.temporary.place t.here) = t.node? (path.temporary.place t.here) ∨
        ∃ b, t'.node? (path.temporary.place t.here) = some (.file b))) ∨
    (persist path r overwrite).run t = (.ok (), t') := by
  cases h with
  | above h =>
    have hplain : ∀ d ∈ path.directories.reverse, d.Plain := fun d hd =>
      hp.of_mem_stages (List.dropLast_subset _ (List.mem_reverse.mp hd))
    have hadds := (FileTree.addsDirectories_of_mem_cutoffs hplain h).mono
      fun d => List.mem_reverse.mp
    obtain ⟨hplace, hbeside⟩ := node?_of_addsDirectories hadds
    exact Or.inl ⟨frame_addsDirectories hadds, hplace, Or.inl hbeside⟩
  | beside hdirs hwrite =>
    obtain ⟨hframe, hplace, hbeside⟩ := frame_of_write hp hdirs hwrite
    exact Or.inl ⟨hframe, hplace, Or.inr ⟨_, hbeside⟩⟩
  | moved hrun => exact Or.inr hrun

theorem CutOff.frame (hp : path.Plain) (h : CutOff path r overwrite t t') : Frame path t t' := by
  rcases h.cases hp with ⟨hframe, -, -⟩ | hrun
  · exact hframe
  · exact frame_of_persist_ok hp hrun

/-! ### Leftovers are not in the way -/

/-- A store stays free to be written as long as no directory takes one of its two places. -/
theorem Unbarred.of_frame (h : Unbarred path t) (hframe : Frame path t t')
    (hfree : t'.node? (path.place t.here) ≠ some .directory)
    (hbeside : t'.node? (path.temporary.place t.here) ≠ some .directory) : Unbarred path t' := by
  have hhere := hframe.keeps.here
  refine ⟨h.named, h.usable, h.usableBeside, fun m hm => ?_, hhere ▸ hfree, hhere ▸ hbeside⟩
  rw [hhere] at hm
  -- what is above is shorter than the two places
  have hlength : m.length < (path.place t.here).length := by
    obtain ⟨xs, x, hpieces, hx⟩ := h.named
    obtain ⟨pieces⟩ := path
    obtain rfl : pieces = xs ++ [x] := hpieces
    have hle := hm.length_le
    rw [FilePath.place_concat xs hx, List.dropLast_concat] at hle
    rw [FilePath.place_concat xs hx, List.length_append]
    exact Nat.lt_succ_of_le hle
  have hlengthBeside := path.length_place_le t.here
  have hplace : m ≠ path.place t.here := by
    rintro rfl
    omega
  have htemporary : m ≠ path.temporary.place t.here := by
    rintro rfl
    omega
  rcases hframe.node m hplace htemporary with hsame | ⟨-, hdir⟩
  · rw [hsame]
    exact h.clear m hm
  · exact Or.inr hdir

/-- **Leftovers bar no later write.** -/
theorem CutOff.writable (hp : path.Plain) (ht : t.WellFormed) (ht' : t'.WellFormed)
    (h : CutOff path r overwrite t t') (hwritable : Writable path t) : Writable path t' := by
  have hunbarred := hwritable.unbarred hp ht
  refine (hunbarred.of_frame (h.frame hp) ?_ ?_).writable ht'
  · rcases h.cases hp with ⟨-, hplace, -⟩ | hrun
    · rw [hplace]
      exact hunbarred.free
    · rw [node?_of_persist_ok hp hrun, if_pos rfl]
      nofun
  · rcases h.cases hp with ⟨-, -, hbeside | ⟨b, hbeside⟩⟩ | hrun
    · rw [hbeside]
      exact hunbarred.freeBeside
    · rw [hbeside]
      nofun
    · rw [node?_of_persist_ok hp hrun, if_neg (path.place_temporary_ne t.here), if_pos rfl]
      nofun

theorem writable_of_persist_ok (h : (persist path r overwrite).run t = (.ok (), t')) :
    Writable path t := by
  cases Persists.of_run h with
  | moved hdirs hwrite hrename => exact ⟨_, _, _, _, hdirs, hwrite, hrename⟩

/-! ### One write after the other -/

/-- Writes to one path, each of which may stop anywhere. -/
inductive Attempts (path : FilePath) : List Rulebook → FileTree → FileTree → Prop
  | none (t : FileTree) : Attempts path [] t t
  | more {r : Rulebook} {overwrite : Bool} {rs : List Rulebook} {t t₁ t' : FileTree} :
      t₁ ∈ (persist path r overwrite).cutoffs t → Attempts path rs t₁ t' →
      Attempts path (r :: rs) t t'

/-- What a write that is cut off leaves in the store: what was there, or what was written. -/
theorem CutOff.load (hp : path.Plain) (ht : t.WellFormed) (h : CutOff path r overwrite t t') :
    Store.load path t' = Store.load path t ∨ Store.load path t' = .ok (some r) := by
  rcases h.cases hp with ⟨hframe, hplace, -⟩ | hrun
  · exact Or.inl (load_of_frame hp ht hframe hplace)
  · exact Or.inr (load_persist hrun)

/-- **However often a write is cut off**, the store holds what it held at first or one of the
rulebooks as a whole, and it can be written if it could be written at first. -/
theorem attempts_keep_store {rs : List Rulebook} (hp : path.Plain) (ht : t.WellFormed)
    (h : Attempts path rs t t') :
    (load path t' = load path t ∨ ∃ r ∈ rs, load path t' = .ok (some r)) ∧
      (Writable path t → Writable path t') := by
  induction h with
  | none t => exact ⟨Or.inl rfl, id⟩
  | more hcut _ ih =>
    have h := cutOff_of_mem_cutoffs hcut
    have ht₁ := ht.of_mem_cutoffs hcut
    obtain ⟨hload, hwritable⟩ := ih ht₁
    refine ⟨?_, fun hfirst => hwritable (h.writable hp ht ht₁ hfirst)⟩
    rcases hload with hsame | ⟨r, hr, hnew⟩
    · rw [hsame]
      rcases h.load hp ht with hold | hnew
      · exact Or.inl hold
      · exact Or.inr ⟨_, List.mem_cons_self, hnew⟩
    · exact Or.inr ⟨r, List.mem_cons_of_mem _ hr, hnew⟩

/-! ### All or nothing -/

/-- **A write does all or nothing**, wherever it stops: if it succeeds, the store holds the rulebook
and no temporary file is left; if it fails, the document is as it was; and if it is cut off, the
document is the old one or the new one, and every write that could be made before it can still be
made.  Nothing but the temporary file and new directories is different beside the document. -/
theorem persist_all_or_nothing (hp : path.Plain) (ht : t.WellFormed) (r : Rulebook)
    (overwrite : Bool) :
    (∀ t', (persist path r overwrite).run t = (.ok (), t') →
      load path t' = .ok (some r) ∧ t'.node? (path.temporary.place t.here) = none ∧
        Frame path t t') ∧
    (∀ e t', (persist path r overwrite).run t = (.error e, t') →
      t'.node? (path.place t.here) = t.node? (path.place t.here) ∧ load path t' = load path t ∧
        Frame path t t') ∧
    (overwrite = false → t.exists? path = true →
      (persist path r overwrite).run t = (.error (.alreadyExists path.text), t)) ∧
    ∀ t' ∈ (persist path r overwrite).cutoffs t, Frame path t t' ∧
      ((t'.node? (path.place t.here) = t.node? (path.place t.here) ∧
          load path t' = load path t) ∨
        (t'.node? (path.place t.here) = some (.file (document r).toUTF8) ∧
          load path t' = .ok (some r))) ∧
      ∀ later t₁, (persist path later true).run t = (.ok (), t₁) →
        ∃ t₂, (persist path later true).run t' = (.ok (), t₂) ∧
          load path t₂ = .ok (some later) := by
  refine ⟨fun t' hrun => ?_, fun e t' hrun => ?_, fun hkeep hexists => ?_, fun t' hcut => ?_⟩
  · refine ⟨load_persist hrun, ?_, frame_of_persist_ok hp hrun⟩
    rw [node?_of_persist_ok hp hrun, if_neg (path.place_temporary_ne t.here), if_pos rfl]
  · obtain ⟨hframe, hplace⟩ := frame_of_persist_error hp hrun
    exact ⟨hplace, load_of_frame hp ht hframe hplace, hframe⟩
  · rw [persist, Plan.run, if_pos (by simp [hkeep, hexists])]
    rfl
  · have h := cutOff_of_mem_cutoffs hcut
    refine ⟨h.frame hp, ?_, fun later t₁ hlater => ?_⟩
    · rcases h.cases hp with ⟨hframe, hplace, -⟩ | hrun
      · exact Or.inl ⟨hplace, load_of_frame hp ht hframe hplace⟩
      · refine Or.inr ⟨?_, load_persist hrun⟩
        rw [node?_of_persist_ok hp hrun, if_pos rfl]
    · have hwritable := h.writable hp ht (ht.of_mem_cutoffs hcut) (writable_of_persist_ok hlater)
      obtain ⟨t₂, hrun⟩ := hwritable.persist later
      exact ⟨t₂, hrun, load_persist hrun⟩

/-- A document without any text, and what is left beside it of a write that was cut off. -/
def staleFiles : FileTree where
  nodes := .ofList [(["data"], .directory), (["data", "rules.toml"], .file .empty),
    (["data", "rules.toml.tmp"], .file ⟨#[0xff]⟩)]

theorem wellFormed_staleFiles : staleFiles.WellFormed := by
  have hdirectory : ({} : FileTree).makeDir (.ofText "data") =
      .ok { nodes := .ofList [(["data"], .directory)] } := rfl
  have hdocument : FileTree.write { nodes := .ofList [(["data"], .directory)] }
      (.ofText "data/rules.toml") .empty = .ok { nodes := .ofList [(["data"], .directory),
        (["data", "rules.toml"], .file .empty)] } := rfl
  have hbeside : FileTree.write { nodes := .ofList [(["data"], .directory),
      (["data", "rules.toml"], .file .empty)] } (.ofText "data/rules.toml.tmp") ⟨#[0xff]⟩ =
      .ok staleFiles := rfl
  exact ((FileTree.wellFormed_empty.makeDir hdirectory).write hdocument).write hbeside

/-- The document is replaced where it is, and a directory is not. -/
theorem persist_all_or_nothing_stale :
    (FilePath.ofText "data/rules.toml").Plain ∧
    (FilePath.ofText "data").Plain ∧ staleFiles.WellFormed ∧
    load (.ofText "data/rules.toml") staleFiles = .ok (some {}) ∧
    (∃ t, (persist (.ofText "data/rules.toml") quoted true).run staleFiles = (.ok (), t) ∧
      load (.ofText "data/rules.toml") t = .ok (some quoted) ∧
      t.node? ["data", "rules.toml.tmp"] = none) ∧
    (persist (.ofText "data/rules.toml") quoted false).run staleFiles =
      (.error (.alreadyExists "data/rules.toml"), staleFiles) ∧
    (∀ t ∈ (persist (.ofText "data/rules.toml") quoted true).cutoffs staleFiles,
      load (.ofText "data/rules.toml") t = .ok (some {}) ∨
        load (.ofText "data/rules.toml") t = .ok (some quoted)) ∧
    ∃ t, (persist (.ofText "data") quoted true).run staleFiles = (.error (.io .isDirectory), t) ∧
      t.node? ["data"] = some .directory ∧
      load (.ofText "data") t = .error (.io .isDirectory) := by
  have hplain : (FilePath.ofText "data/rules.toml").Plain := by decide +kernel
  have habove : (FilePath.ofText "data").Plain := by decide +kernel
  have hload : load (.ofText "data/rules.toml") staleFiles = .ok (some {}) :=
    toOption_eq_some_iff.mp (by decide +kernel)
  have hwritable : Writable (.ofText "data/rules.toml") staleFiles :=
    ⟨_, _, _, ByteArray.empty, rfl, rfl, rfl⟩
  obtain ⟨t, hrun⟩ := hwritable.persist quoted
  obtain ⟨t₁, hfailed⟩ : ∃ t₁, (persist (.ofText "data") quoted true).run staleFiles =
    (.error (.io .isDirectory), t₁) := ⟨_, rfl⟩
  obtain ⟨-, -, hrefused, -⟩ := persist_all_or_nothing hplain wellFormed_staleFiles quoted false
  obtain ⟨hdone, -, -, hcut⟩ := persist_all_or_nothing hplain wellFormed_staleFiles quoted true
  obtain ⟨-, herror, -, -⟩ := persist_all_or_nothing habove wellFormed_staleFiles quoted true
  obtain ⟨hnew, hbeside, -⟩ := hdone t hrun
  obtain ⟨hplace, hsame, -⟩ := herror _ t₁ hfailed
  refine ⟨hplain, habove, wellFormed_staleFiles, hload, ⟨t, hrun, hnew, hbeside⟩,
    hrefused rfl rfl, fun t' ht' => ?_, t₁, hfailed, hplace.trans rfl, hsame.trans rfl⟩
  obtain ⟨-, ⟨-, hold⟩ | ⟨-, hnew'⟩, -⟩ := hcut t' ht'
  · exact Or.inl (hold.trans hload)
  · exact Or.inr hnew'

end TrafficRouting.Store
