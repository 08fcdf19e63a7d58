import TrafficRouting.Proofs.FileTree.Clear
import TrafficRouting.Proofs.Store.Frame

/-!
# TrafficRouting.Proofs.Store.Writable — rulebooks come back from documents and stores

Whether a path can be written does not depend on what is written (`exists_rename`); it can be just
where only directories are above it and none has its name (`writable_iff`).  Every rulebook,
whatever characters its texts have, comes back from its document and from every store that can be
written (`rulebooks_come_back`).
-/

namespace TrafficRouting

namespace FileTree

variable {t t₁ t₂ t₁' : FileTree} {p source target : FilePath} {b : ByteArray}

/-- Where a file can be written, any other one can. -/
theorem exists_write (h : t.write p b = .ok t₁) (b' : ByteArray) :
    ∃ t₁', t.write p b' = .ok t₁' := by
  obtain ⟨loc, name, hentrance, hstanding, hnode, -⟩ := write_eq_ok_iff.mp h
  exact ⟨_, write_eq_ok_iff.mpr ⟨loc, name, hentrance, hstanding, hnode, rfl⟩⟩

/-- Trees that differ in one written file have the same directories. -/
theorem directory_of_write {b' : ByteArray} (h : t.write p b = .ok t₁) (h' : t.write p b' = .ok t₁')
    {l : Location} (hl : t₁.node? l = some .directory) : t₁'.node? l = some .directory := by
  refine (keepsDirectories_write h').directory l ?_
  obtain ⟨loc, name, -, -, -, rfl⟩ := write_eq_ok_iff.mp h
  rw [node?_insert t _ (by simp)] at hl
  split at hl
  · simp at hl
  · exact hl

/-- Where a written file can be moved, any other one that is written there can. -/
theorem exists_rename {b' : ByteArray} (hwrite : t.write source b = .ok t₁)
    (hrename : t₁.rename source target = .ok t₂) (hwrite' : t.write source b' = .ok t₁') :
    ∃ t₂', t₁'.rename source target = .ok t₂' := by
  obtain ⟨dir, name, loc, last, c, hsource, htarget, hstanding, -, hslash, hnode, -⟩ :=
    rename_eq_ok_iff.mp hrename
  obtain ⟨dir', name', hentrance, -, -, rfl⟩ := write_eq_ok_iff.mp hwrite'
  have hkeeps : t₁.KeepsDirectories
      { t with nodes := t.nodes.insert (dir' ++ [name']) (.file b') } :=
    ⟨(keepsDirectories_write hwrite).here.symm, fun l hl => directory_of_write hwrite hwrite' hl⟩
  have hsame := entrance_of_keeps (keepsDirectories_write hwrite') hentrance
  have hsource' := entrance_of_keeps hkeeps hsource
  obtain ⟨rfl, rfl⟩ := Prod.mk.inj (Except.ok.inj (hsame.symm.trans hsource'))
  refine ⟨_, rename_eq_ok_iff.mpr ⟨dir', name', loc, last, b', hsource',
    entrance_of_keeps hkeeps htarget, hstanding, ?_, hslash, ?_, rfl⟩⟩
  · rw [node?_insert t _ (by simp), if_pos rfl]
  · exact fun hdir => hnode (directory_of_write hwrite' hwrite hdir)

/-- A file can be written where its name is free, and then moved where its new name is. -/
theorem exists_write_rename {dir loc : Location} {name last : String}
    (hsource : t.entrance source = .ok (dir, name)) (htarget : t.entrance target = .ok (loc, last))
    (hname : isStanding name = false) (hlast : isStanding last = false)
    (hslash : target.endsInSlash = false) (hfrom : t.node? (dir ++ [name]) ≠ some .directory)
    (hto : t.node? (loc ++ [last]) ≠ some .directory) (b : ByteArray) :
    ∃ t₁ t₂, t.write source b = .ok t₁ ∧ t₁.rename source target = .ok t₂ := by
  have hwrite : t.write source b = .ok _ :=
    write_eq_ok_iff.mpr ⟨dir, name, hsource, hname, hfrom, rfl⟩
  have hkeeps := keepsDirectories_write hwrite
  refine ⟨_, _, hwrite, rename_eq_ok_iff.mpr ⟨dir, name, loc, last, b,
    entrance_of_keeps hkeeps hsource, entrance_of_keeps hkeeps htarget, hlast, ?_, hslash, ?_, rfl⟩⟩
  · rw [node?_insert t _ (by simp), if_pos rfl]
  · rw [node?_insert t _ (by simp)]
    split
    · simp
    · exact hto

end FileTree

namespace Store

variable {path : FilePath} {t : FileTree}

/-- The directories on the way to the path can be made, and some file can be written beside it and
take its place. -/
def Writable (path : FilePath) (t : FileTree) : Prop :=
  ∃ t₁ t₂ t₃ b, (Plan.makeDirs path.directories.reverse).run t = (none, t₁) ∧
    t₁.write path.temporary b = .ok t₂ ∧ t₂.rename path.temporary path = .ok t₃

/-- Nothing is in the way of a write: the path and the one beside it have names that are allowed,
only directories are above them, and no directory has their names. -/
structure Unbarred (path : FilePath) (t : FileTree) : Prop where
  named : ∃ xs x, path.pieces = xs ++ [x] ∧ x ≠ "" ∧ x ≠ "."
  usable : path.Usable
  usableBeside : path.temporary.Usable
  clear : t.Clear (path.place t.here).dropLast
  free : t.node? (path.place t.here) ≠ some .directory
  freeBeside : t.node? (path.temporary.place t.here) ≠ some .directory

theorem Unbarred.writable (h : Unbarred path t) (ht : t.WellFormed) : Writable path t := by
  obtain ⟨⟨xs, x, hpath, hx⟩, hp, htemporary, hclear, hplace, hbeside⟩ := h
  obtain ⟨pieces⟩ := path
  obtain rfl : pieces = xs ++ [x] := hpath
  have hup : x ≠ ".." := fun h => hp.plain.1 (by simp [h])
  rw [FilePath.place_concat xs hx, List.dropLast_concat] at hclear
  have hdirectories := FilePath.directories_concat xs hx
  have hstages : ∀ d ∈ (⟨xs⟩ : FilePath).stages, d ∈ (⟨xs ++ [x]⟩ : FilePath).stages := by
    intro d hd
    rw [← hdirectories] at hd
    exact List.dropLast_subset _ hd
  obtain ⟨t₁, hdirs, hparent⟩ := FileTree.makeDirs_of_clear ht _ (fun d hd =>
    ⟨hp.of_mem_stages (hstages d hd), FilePath.isAbsolute_of_mem_stages (hstages d hd)⟩) hclear
  have hadds := addsDirectories hp.plain t
  have ht₁ := ht.run (Plan.makeDirs (⟨xs⟩ : FilePath).stages.reverse)
  rw [← hdirectories] at hdirs ht₁
  rw [hdirs] at hadds ht₁
  have hclear₁ := hclear.of_addsDirectories hadds
  obtain ⟨hlast, hfirst⟩ := node?_of_addsDirectories hadds
  rw [← hlast, FilePath.place_concat xs hx] at hplace
  -- both names are entered in the directory that is there now
  obtain ⟨ys, hbetween, hsame⟩ := FilePath.exists_temporary_eq xs hx hup t.here
  have hname := FilePath.append_tmp_leads x
  rw [← hfirst, hbetween, FilePath.place_concat ys hname, hsame] at hbeside
  rw [hbetween] at htemporary
  have htarget := FileTree.entrance_of_clear ht₁ hp hx.1 (by rw [hadds.here]) hclear₁
  have hsource := FileTree.entrance_of_clear ht₁ htemporary hname.1 (by rw [hadds.here, hsame])
    hclear₁
  rw [if_pos hparent] at htarget hsource
  obtain ⟨t₂, t₃, hwrite, hrename⟩ := FileTree.exists_write_rename hsource htarget
    (htemporary.isStanding_last hname.2) (hp.isStanding_last hx.2)
    (FilePath.endsInSlash_concat xs hx.1) hbeside hplace .empty
  rw [← hbetween] at hwrite hrename
  exact ⟨t₁, t₂, t₃, .empty, hdirs, hwrite, hrename⟩

theorem Writable.unbarred (h : Writable path t) (hp : path.Plain) (ht : t.WellFormed) :
    Unbarred path t := by
  obtain ⟨t₁, t₂, t₃, b, hdirs, hwrite, hrename⟩ := h
  have hadds := addsDirectories hp t
  have ht₁ := ht.run (Plan.makeDirs path.directories.reverse)
  rw [hdirs] at hadds ht₁
  obtain ⟨dir, name, hsource, hname, hfrom, -⟩ := FileTree.write_eq_ok_iff.mp hwrite
  obtain ⟨-, -, loc, last, -, -, htarget, hlast, -, hslash, hto, -⟩ :=
    FileTree.rename_eq_ok_iff.mp hrename
  obtain ⟨hhere, hnode⟩ := FileTree.node?_of_write hp.temporary hwrite
  have hplace := FileTree.place_of_entrance hp htarget hlast
  have hbeside := FileTree.place_of_entrance hp.temporary hsource hname
  have hkeeps := hadds.keeps.trans (FileTree.keepsDirectories_write hwrite)
  rw [hkeeps.here] at hplace
  rw [hadds.here] at hbeside hnode
  obtain ⟨xs, hpieces, hx⟩ := FileTree.named_of_entrance htarget hlast hslash
  refine ⟨⟨xs, last, hpieces, hx⟩, FileTree.usable_of_entrance hp htarget,
    FileTree.usable_of_entrance hp.temporary hsource, ?_, ?_, ?_⟩
  · -- what is above is a directory now, so it was one before or was made
    intro m hm
    rw [← hplace, List.dropLast_concat] at hm
    have hloc := (FileTree.entrance_eq_ok_iff.mp htarget).2.2.2.1
    have hdir := (ht₁.write hwrite).directory_above hloc hm
    rw [hnode] at hdir
    split at hdir
    · simp at hdir
    · rcases hadds.node m with hsame | ⟨hnone, -, -⟩
      · exact Or.inr (hsame.symm.trans hdir)
      · exact Or.inl hnone
  · intro hdir
    exact hto (hplace ▸ hkeeps.directory _ hdir)
  · intro hdir
    exact hfrom (hbeside ▸ hadds.keeps.directory _ hdir)

/-- **A store can be written exactly if nothing is in its way.** -/
theorem writable_iff (hp : path.Plain) (ht : t.WellFormed) :
    Writable path t ↔ Unbarred path t :=
  ⟨fun h => h.unbarred hp ht, fun h => h.writable ht⟩

theorem Writable.persist (h : Writable path t) (r : Rulebook) :
    ∃ t', (Store.persist path r true).run t = (.ok (), t') := by
  obtain ⟨t₁, t₂, t₃, b, hdirs, hwrite, hrename⟩ := h
  obtain ⟨t₂', hwrite'⟩ := FileTree.exists_write hwrite (document r).toUTF8
  obtain ⟨t₃', hrename'⟩ := FileTree.exists_rename hwrite hrename hwrite'
  cases hrun : (Store.persist path r true).run t with | mk answer t'
  cases Persists.of_run hrun with
  | refused hoverwrite => simp at hoverwrite
  | noDirectory hdirs' =>
    rw [hdirs] at hdirs'
    simp at hdirs'
  | notWritten hdirs' hrefused =>
    obtain ⟨-, rfl⟩ := Prod.mk.inj (hdirs.symm.trans hdirs')
    rw [hwrite'] at hrefused
    simp at hrefused
  | notMoved hdirs' hwritten hrefused =>
    obtain ⟨-, rfl⟩ := Prod.mk.inj (hdirs.symm.trans hdirs')
    obtain rfl := Except.ok.inj (hwrite'.symm.trans hwritten)
    rw [hrename'] at hrefused
    simp at hrefused
  | moved => exact ⟨_, rfl⟩

/-- **Rulebooks come back** as they were written, with everything in its order: from their
documents in either layout, and from every store that can be written. -/
theorem rulebooks_come_back (r : Rulebook) :
    (∀ layout, Toml.decodeDocument Rulebook.decode (r.toToml layout []) = .ok r) ∧
    ∀ path t, Writable path t → ∃ t', (Store.persist path r true).run t = (.ok (), t') ∧
      load path t' = .ok (some r) := by
  refine ⟨r.decodeDocument_toToml, fun path t h => ?_⟩
  obtain ⟨t', hpersist⟩ := h.persist r
  exact ⟨t', hpersist, load_persist hpersist⟩

/-- A name with quotes of both kinds over two lines, an empty name for a load balancer, and a
property under an empty key. -/
def quoted : Rulebook where
  strategies := [{ name := "it's \"\"\"\n", algorithm := "a.b", loadBalancer := some "" },
    { name := "", algorithm := "\\\x7f", labels := .ofList ["\t", ""] }]
  algorithms := .ofList [("a.b", { type := "\x00", props := .ofList [("", "''"), ("é", "")] })]

theorem rulebooks_come_back_quoted :
    Writable (.ofText "data/rules.toml") {} ∧
    ∃ t', (Store.persist (.ofText "data/rules.toml") quoted true).run {} = (.ok (), t') ∧
      load (.ofText "data/rules.toml") t' = .ok (some quoted) := by
  have h : Writable (.ofText "data/rules.toml") {} :=
    ⟨_, _, _, ByteArray.empty, rfl, rfl, rfl⟩
  exact ⟨h, (rulebooks_come_back quoted).2 _ _ h⟩

end Store

end TrafficRouting
