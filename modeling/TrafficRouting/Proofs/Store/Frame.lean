import TrafficRouting.Proofs.FileTree.Frame
import TrafficRouting.Proofs.Store

/-!
# TrafficRouting.Proofs.Store.Frame — what a write to a store leaves as it was

Whatever comes of a write to a plain path, only the document and its temporary file may be others
afterwards, and directories may have come where nothing was (`frame_persist`).  If the write fails,
the document is as it was (`node?_of_persist_error`), so the store still holds what it held
(`load_of_persist_error`).
-/

namespace TrafficRouting.Store

variable {path : FilePath} {r : Rulebook} {overwrite : Bool} {t t' : FileTree} {e : StoreError}
  {l : Location}

/-- Only the document and its temporary file may be others; directories may have come. -/
structure Frame (path : FilePath) (t t' : FileTree) : Prop where
  keeps : t.KeepsDirectories t'
  node : ∀ l, l ≠ path.place t.here → l ≠ path.temporary.place t.here →
    t'.node? l = t.node? l ∨ (t.node? l = none ∧ t'.node? l = some .directory)

theorem Frame.refl (path : FilePath) (t : FileTree) : Frame path t t :=
  ⟨⟨rfl, fun _ h => h⟩, fun _ _ _ => Or.inl rfl⟩

/-- What was somewhere else is there. -/
theorem Frame.node?_eq (h : Frame path t t') (hl : t.node? l ≠ none)
    (hplace : l ≠ path.place t.here) (htemporary : l ≠ path.temporary.place t.here) :
    t'.node? l = t.node? l := by
  rcases h.node l hplace htemporary with hsame | ⟨hnone, -⟩
  · exact hsame
  · exact absurd hnone hl

theorem addsDirectories (hp : path.Plain) (t : FileTree) :
    FileTree.AddsDirectories path.directories t
      ((Plan.makeDirs path.directories.reverse).run t).2 := by
  refine (FileTree.addsDirectories_makeDirs (fun d hd => ?_) t).mono fun d => List.mem_reverse.mp
  exact hp.of_mem_stages (List.dropLast_subset _ (List.mem_reverse.mp hd))

/-- Directories on the way are neither at the place of the document nor of the temporary file. -/
theorem node?_of_addsDirectories (h : FileTree.AddsDirectories path.directories t t') :
    t'.node? (path.place t.here) = t.node? (path.place t.here) ∧
      t'.node? (path.temporary.place t.here) = t.node? (path.temporary.place t.here) := by
  constructor
  · rcases h.node (path.place t.here) with hsame | ⟨-, -, d, hd, hplace⟩
    · exact hsame
    · exact absurd hplace.symm (FilePath.place_ne_of_mem_directories hd t.here).1
  · rcases h.node (path.temporary.place t.here) with hsame | ⟨-, -, d, hd, hplace⟩
    · exact hsame
    · exact absurd hplace.symm (FilePath.place_ne_of_mem_directories hd t.here).2

theorem frame_addsDirectories {ds : List FilePath} (h : FileTree.AddsDirectories ds t t') :
    Frame path t t' := by
  refine ⟨h.keeps, fun l _ _ => ?_⟩
  rcases h.node l with hsame | ⟨hnone, hdir, -⟩
  · exact Or.inl hsame
  · exact Or.inr ⟨hnone, hdir⟩

/-- A temporary file that has been written, whatever its bytes, leaves the document as it was. -/
theorem frame_of_write {t₁ : FileTree} {b : ByteArray} (hp : path.Plain)
    (hdirs : (Plan.makeDirs path.directories.reverse).run t = (none, t₁))
    (hwrite : t₁.write path.temporary b = .ok t') :
    Frame path t t' ∧ t'.node? (path.place t.here) = t.node? (path.place t.here) ∧
      t'.node? (path.temporary.place t.here) = some (.file b) := by
  have hadds := addsDirectories hp t
  rw [hdirs] at hadds
  obtain ⟨-, hnode⟩ := FileTree.node?_of_write hp.temporary hwrite
  rw [hadds.here] at hnode
  have hframe : Frame path t t₁ := frame_addsDirectories hadds
  have hne := (path.place_temporary_ne t.here).symm
  refine ⟨⟨hframe.keeps.trans (FileTree.keepsDirectories_write hwrite), ?_⟩, ?_, ?_⟩
  · intro l hplace htemporary
    rw [hnode, if_neg htemporary]
    exact hframe.node l hplace htemporary
  · rw [hnode, if_neg hne, (node?_of_addsDirectories hadds).1]
  · rw [hnode, if_pos rfl]

/-- A write that fails leaves the document as it was. -/
theorem frame_of_persist_error (hp : path.Plain)
    (h : (persist path r overwrite).run t = (.error e, t')) :
    Frame path t t' ∧ t'.node? (path.place t.here) = t.node? (path.place t.here) := by
  have hadds := addsDirectories hp t
  cases Persists.of_run h with
  | refused => exact ⟨.refl path _, rfl⟩
  | noDirectory hdirs =>
    rw [hdirs] at hadds
    exact ⟨frame_addsDirectories hadds, (node?_of_addsDirectories hadds).1⟩
  | notWritten hdirs hwrite =>
    rw [hdirs] at hadds
    exact ⟨frame_addsDirectories hadds, (node?_of_addsDirectories hadds).1⟩
  | notMoved hdirs hwrite hrename =>
    obtain ⟨hframe, hplace, -⟩ := frame_of_write hp hdirs hwrite
    exact ⟨hframe, hplace⟩

/-- A write that succeeds leaves the new document, and no temporary file. -/
theorem node?_of_persist_ok (hp : path.Plain)
    (h : (persist path r overwrite).run t = (.ok (), t')) (l : Location) :
    t'.node? l = if l = path.place t.here then some (.file (document r).toUTF8)
      else if l = path.temporary.place t.here then none
      else ((Plan.makeDirs path.directories.reverse).run t).2.node? l := by
  have hadds := addsDirectories hp t
  cases Persists.of_run h with | moved hdirs hwrite hrename
  rw [hdirs] at hadds ⊢
  obtain ⟨-, hnode⟩ := FileTree.node?_of_rename hp.temporary hp hwrite hrename
  rw [← hadds.here]
  exact hnode l

theorem frame_of_persist_ok (hp : path.Plain)
    (h : (persist path r overwrite).run t = (.ok (), t')) : Frame path t t' := by
  have hframe : Frame path t _ := frame_addsDirectories (addsDirectories hp t)
  have hnode := node?_of_persist_ok hp h
  cases Persists.of_run h with | moved hdirs hwrite hrename
  rw [hdirs] at hframe hnode
  have hkeeps := (FileTree.keepsDirectories_write hwrite).trans
    (FileTree.keepsDirectories_rename hrename)
  refine ⟨hframe.keeps.trans hkeeps, fun l hplace htemporary => ?_⟩
  rw [hnode, if_neg hplace, if_neg htemporary]
  exact hframe.node l hplace htemporary

/-- Whatever comes of a write, it changes only what is at its two places. -/
theorem frame_persist (hp : path.Plain) (r : Rulebook) (overwrite : Bool) (t : FileTree) :
    Frame path t ((persist path r overwrite).run t).2 := by
  cases h : (persist path r overwrite).run t with | mk answer t'
  cases answer with
  | ok => exact frame_of_persist_ok hp h
  | error e => exact (frame_of_persist_error hp h).1

/-- A text somewhere else is read as before. -/
theorem Frame.readText {p : FilePath} {text : String} (h : Frame path t t')
    (hread : t.readText p = .ok text) (hplace : t.locate p ≠ .ok (path.place t.here))
    (htemporary : t.locate p ≠ .ok (path.temporary.place t.here)) :
    t'.readText p = .ok text := by
  obtain ⟨b, hbytes, htext⟩ := bind_eq_ok_iff.mp hread
  obtain ⟨l, hlocate, hfile⟩ := bind_eq_ok_iff.mp hbytes
  have hl : t.node? l ≠ none := by
    intro hnone
    rw [hnone] at hfile
    simp at hfile
  rw [hlocate] at hplace htemporary
  have hnode := h.node?_eq hl (fun heq => hplace (heq ▸ rfl)) (fun heq => htemporary (heq ▸ rfl))
  have hlocate' := FileTree.locate_of_keeps h.keeps hlocate (by rwa [hnode])
  rw [← hnode] at hfile
  exact bind_eq_ok_iff.mpr ⟨b, bind_eq_ok_iff.mpr ⟨l, hlocate', hfile⟩, htext⟩

/-! ### What the store holds -/

theorem load_of_locate {l : Location} (h : t.locate path = .ok l) (h' : t'.locate path = .ok l)
    (hnode : t'.node? l = t.node? l) : load path t' = load path t := by
  have hexists : t'.exists? path = t.exists? path := by
    rw [FileTree.exists?, FileTree.exists?, h, h']
  have htext : t'.readText path = t.readText path := by
    rw [FileTree.readText, FileTree.readText, FileTree.readBytes, FileTree.readBytes, h, h']
    simp only [bind, Except.bind, hnode]
  rw [load, load, hexists, htext]

theorem load_of_not_located {e : FileError} (h : t.locate path = .error e) :
    load path t = .ok none := by
  rw [load, FileTree.exists?, h]
  rfl

/-- A tree with the same document, and with no directory less, holds the same. -/
theorem load_of_frame (hp : path.Plain) (ht : t.WellFormed) (h : Frame path t t')
    (hnode : t'.node? (path.place t.here) = t.node? (path.place t.here)) :
    load path t' = load path t := by
  have hhere := h.keeps.here
  cases hlocate : t.locate path with
  | ok l =>
    obtain rfl := FileTree.place_of_locate hp hlocate
    have hl := FileTree.node?_of_locate hp ht.here hlocate
    rw [← hnode] at hl
    exact load_of_locate hlocate (FileTree.locate_of_keeps h.keeps hlocate hl) hnode
  | error e =>
    -- nothing is there now that was not there before, although the way may be there now
    cases hlocate' : t'.locate path with
    | error e' => rw [load_of_not_located hlocate, load_of_not_located hlocate']
    | ok l =>
      obtain rfl : l = path.place t.here := by
        rw [FileTree.place_of_locate hp hlocate', hhere]
      have hdir : t'.node? t'.here = some .directory := by
        rw [hhere]
        exact h.keeps.directory _ ht.here
      have hl := FileTree.node?_of_locate hp hdir hlocate'
      rw [hnode] at hl
      have hfound := FileTree.locate_of_place hp ht hhere hlocate' hnode hl
      rw [hlocate] at hfound
      simp at hfound

theorem load_of_persist_error (hp : path.Plain) (ht : t.WellFormed)
    (h : (persist path r overwrite).run t = (.error e, t')) : load path t' = load path t := by
  obtain ⟨hframe, hnode⟩ := frame_of_persist_error hp h
  exact load_of_frame hp ht hframe hnode

end TrafficRouting.Store
