import TrafficRouting.FileTree.Plan
import TrafficRouting.Proofs.Except
import TrafficRouting.Proofs.OrdMap

/-!
# TrafficRouting.Proofs.FileTree — what file operations do, and what they leave as it was

`entrance_eq_ok_iff`, `write_eq_ok_iff` and `rename_eq_ok_iff` say when an operation succeeds, and
what it leaves.  Files come and go, but directories stay (`KeepsDirectories`), so a path leads on to
the same place (`entrance_of_keeps`); `readBytes_of_entrance` reads what is there.  A plan that is cut
off is on the way to what `run` leaves (`mem_cutoffs_bind`), and only a write can stop in the middle
(`Change.mem_partials`).
-/

namespace TrafficRouting

theorem Text.decode?_toUTF8 (s : String) : Text.decode? s.toUTF8 = some s :=
  dif_pos s.isValidUTF8

namespace Plan

variable {α β : Type}

theorem run_bind (p : Plan α) (f : α → Plan β) (t : FileTree) :
    (p.bind f).run t = (f (p.run t).1).run (p.run t).2 := by
  induction p generalizing t with
  | done a => rfl
  | look next ih => exact ih t t
  | act change next ih =>
    simp only [bind, run]
    cases change.apply t with
    | ok t' => exact ih none t'
    | error e => exact ih (some e) t

/-! ### Plans that are cut off -/

variable {t' : FileTree}

/-- Nothing has been done yet. -/
theorem start_mem_cutoffs (p : Plan α) (t : FileTree) : t ∈ p.cutoffs t := by
  induction p generalizing t with
  | done a => exact List.mem_singleton_self t
  | look next ih => exact ih t t
  | act change next ih =>
    rw [cutoffs]
    split
    · exact List.mem_cons_self
    · exact List.mem_cons_self

/-- Everything has been done. -/
theorem run_mem_cutoffs (p : Plan α) (t : FileTree) : (p.run t).2 ∈ p.cutoffs t := by
  induction p generalizing t with
  | done a => exact List.mem_singleton_self t
  | look next ih => exact ih t t
  | act change next ih =>
    rw [run, cutoffs]
    cases change.apply t with
    | ok t' => exact List.mem_cons_of_mem _ (List.mem_append_right _ (ih none t'))
    | error e => exact List.mem_cons_of_mem _ (ih (some e) t)

/-- A plan that goes on is cut off on the way to its result, or behind it. -/
theorem mem_cutoffs_bind {p : Plan α} {f : α → Plan β} {t : FileTree}
    (h : t' ∈ (p.bind f).cutoffs t) :
    t' ∈ p.cutoffs t ∨ t' ∈ (f (p.run t).1).cutoffs (p.run t).2 := by
  induction p generalizing t with
  | done a => exact Or.inr h
  | look next ih => exact ih t h
  | act change next ih =>
    simp only [bind, run, cutoffs] at h ⊢
    cases happly : change.apply t with
    | ok t₁ =>
      rw [happly] at h
      rcases List.mem_cons.mp h with rfl | h
      · exact Or.inl List.mem_cons_self
      · rcases List.mem_append.mp h with h | h
        · exact Or.inl (List.mem_cons_of_mem _ (List.mem_append_left _ h))
        · rcases ih none h with h | h
          · exact Or.inl (List.mem_cons_of_mem _ (List.mem_append_right _ h))
          · exact Or.inr h
    | error e =>
      rw [happly] at h
      rcases List.mem_cons.mp h with rfl | h
      · exact Or.inl List.mem_cons_self
      · rcases ih (some e) h with h | h
        · exact Or.inl (List.mem_cons_of_mem _ h)
        · exact Or.inr h

end Plan

/-- Only a write can be cut off after it has begun, and it leaves the first of its bytes. -/
theorem Change.mem_partials {change : Change} {t t' : FileTree} (h : t' ∈ change.partials t) :
    ∃ path content n, change = .write path content ∧
      t.write path (content.extract 0 n) = .ok t' := by
  cases change with
  | write path content =>
    obtain ⟨n, -, hn⟩ := List.mem_filterMap.mp h
    exact ⟨path, content, n, rfl, toOption_eq_some_iff.mp hn⟩
  | makeDir path => exact absurd h List.not_mem_nil
  | rename source target => exact absurd h List.not_mem_nil

namespace FileTree

variable {t t' : FileTree} {p source target : FilePath} {loc dir : Location} {name last : String}
  {b : ByteArray}

/-! ### Locations -/

theorem node?_insert (t : FileTree) (n : Node) (h : loc ≠ []) (l : Location) :
    ({ t with nodes := t.nodes.insert loc n } : FileTree).node? l =
      if l = loc then some n else t.node? l := by
  by_cases hl : l = []
  · subst hl
    rw [if_neg (Ne.symm h)]
    rfl
  · rw [node?, node?, if_neg hl, if_neg hl]
    exact t.nodes.get?_insert loc l n

theorem node?_restrict_ne (t : FileTree) (h : loc ≠ []) (l : Location) :
    ({ t with nodes := t.nodes.restrict (· ≠ loc) } : FileTree).node? l =
      if l = loc then none else t.node? l := by
  by_cases hl : l = []
  · subst hl
    rw [if_neg (Ne.symm h)]
    rfl
  · rw [node?, node?, if_neg hl, if_neg hl]
    have hget := t.nodes.get?_restrict (· ≠ loc) l
    rw [hget]
    by_cases hloc : l = loc
    · simp [hloc]
    · simp [hloc]

/-- After a file has moved. -/
theorem node?_move (t : FileTree) (n : Node) (hdir : dir ≠ []) (hloc : loc ≠ []) (l : Location) :
    ({ t with nodes := (t.nodes.restrict (· ≠ dir)).insert loc n } : FileTree).node? l =
      if l = loc then some n else if l = dir then none else t.node? l := by
  have hinsert := node?_insert { t with nodes := t.nodes.restrict (· ≠ dir) } n hloc l
  rwa [node?_restrict_ne t hdir] at hinsert

/-! ### Operations -/

theorem entrance_eq_ok_iff :
    t.entrance p = .ok (loc, name) ↔ p.fault? = none ∧ p.names.getLast? = some name ∧
      t.walk t.here p.names.dropLast = .ok loc ∧ t.node? loc = some .directory ∧
      name.utf8ByteSize ≤ nameLimit := by
  unfold entrance
  cases p.fault? with
  | some e => simp
  | none =>
    cases p.names.getLast? with
    | none => simp
    | some last =>
      dsimp only
      rw [bind_eq_ok_iff]
      constructor
      · rintro ⟨l, hwalk, h⟩
        obtain ⟨hdir, h⟩ := guard_eq_ok_iff.mp h
        obtain ⟨hlen, h⟩ := guard_eq_ok_iff.mp h
        obtain ⟨rfl, rfl⟩ := Prod.mk.inj (Except.ok.inj h)
        exact ⟨rfl, rfl, hwalk, not_not.mp hdir, Nat.le_of_not_lt hlen⟩
      · rintro ⟨-, hlast, hwalk, hdir, hlen⟩
        obtain rfl := Option.some.inj hlast
        refine ⟨loc, hwalk, ?_⟩
        rw [if_neg (not_not.mpr hdir), if_neg (Nat.not_lt.mpr hlen)]

theorem write_eq_ok_iff :
    t.write p b = .ok t' ↔ ∃ loc name, t.entrance p = .ok (loc, name) ∧
      isStanding name = false ∧ t.node? (loc ++ [name]) ≠ some .directory ∧
      t' = { t with nodes := t.nodes.insert (loc ++ [name]) (.file b) } := by
  unfold write
  rw [bind_eq_ok_iff]
  constructor
  · rintro ⟨⟨loc, name⟩, hentrance, h⟩
    obtain ⟨hfree, h⟩ := guard_eq_ok_iff.mp h
    obtain ⟨hstanding, hnode⟩ := not_or.mp hfree
    exact ⟨loc, name, hentrance, Bool.eq_false_iff.mpr hstanding, hnode, (Except.ok.inj h).symm⟩
  · rintro ⟨loc, name, hentrance, hstanding, hnode, rfl⟩
    refine ⟨(loc, name), hentrance, guard_eq_ok_iff.mpr ⟨not_or.mpr ⟨?_, hnode⟩, rfl⟩⟩
    exact Bool.eq_false_iff.mp hstanding

theorem rename_eq_ok_iff :
    t.rename source target = .ok t' ↔ ∃ dir name loc last b, t.entrance source = .ok (dir, name) ∧
      t.entrance target = .ok (loc, last) ∧ isStanding last = false ∧
      t.node? (dir ++ [name]) = some (.file b) ∧ target.endsInSlash = false ∧
      t.node? (loc ++ [last]) ≠ some .directory ∧
      t' = { t with nodes :=
        (t.nodes.restrict (· ≠ dir ++ [name])).insert (loc ++ [last]) (.file b) } := by
  unfold rename
  constructor
  · intro h
    obtain ⟨⟨dir, name⟩, hsource, h⟩ := bind_eq_ok_iff.mp h
    obtain ⟨⟨loc, last⟩, htarget, h⟩ := bind_eq_ok_iff.mp h
    obtain ⟨hstanding, h⟩ := guard_eq_ok_iff.mp h
    split at h
    · rename_i b hb
      obtain ⟨hslash, h⟩ := guard_eq_ok_iff.mp h
      obtain ⟨hdir, h⟩ := guard_eq_ok_iff.mp h
      exact ⟨dir, name, loc, last, b, hsource, htarget, Bool.eq_false_iff.mpr hstanding, hb,
        Bool.eq_false_iff.mpr hslash, hdir, (Except.ok.inj h).symm⟩
    · simp at h
  · rintro ⟨dir, name, loc, last, b, hsource, htarget, hstanding, hb, hslash, hdir, rfl⟩
    refine bind_eq_ok_iff.mpr ⟨(dir, name), hsource, bind_eq_ok_iff.mpr ⟨(loc, last), htarget, ?_⟩⟩
    refine guard_eq_ok_iff.mpr ⟨Bool.eq_false_iff.mp hstanding, ?_⟩
    simp only [hb]
    exact guard_eq_ok_iff.mpr ⟨Bool.eq_false_iff.mp hslash, guard_eq_ok_iff.mpr ⟨hdir, rfl⟩⟩

/-! ### Directories stay -/

/-- From the same working directory, at least the same directories can be reached. -/
structure KeepsDirectories (t t' : FileTree) : Prop where
  here : t'.here = t.here
  directory : ∀ l, t.node? l = some .directory → t'.node? l = some .directory

theorem KeepsDirectories.trans {t'' : FileTree} (h : t.KeepsDirectories t')
    (h' : t'.KeepsDirectories t'') : t.KeepsDirectories t'' :=
  ⟨h'.here.trans h.here, fun l hl => h'.directory l (h.directory l hl)⟩

theorem keepsDirectories_write (h : t.write p b = .ok t') : t.KeepsDirectories t' := by
  obtain ⟨loc, name, -, -, hnode, rfl⟩ := write_eq_ok_iff.mp h
  refine ⟨rfl, fun l hl => ?_⟩
  have hne : l ≠ loc ++ [name] := by
    rintro rfl
    exact hnode hl
  rw [node?_insert t _ (by simp), if_neg hne, hl]

theorem keepsDirectories_rename (h : t.rename source target = .ok t') :
    t.KeepsDirectories t' := by
  obtain ⟨dir, name, loc, last, b, -, -, -, hsource, -, htarget, rfl⟩ := rename_eq_ok_iff.mp h
  refine ⟨rfl, fun l hl => ?_⟩
  have hlast : l ≠ loc ++ [last] := by
    rintro rfl
    exact htarget hl
  have hname : l ≠ dir ++ [name] := by
    rintro rfl
    rw [hsource] at hl
    simp at hl
  rw [node?_move t _ (by simp) (by simp), if_neg hlast, if_neg hname, hl]

theorem walk_append (t : FileTree) (loc : Location) (xs ys : List String) :
    t.walk loc (xs ++ ys) = (t.walk loc xs).bind fun l => t.walk l ys := by
  induction xs generalizing loc with
  | nil => rfl
  | cons x xs ih =>
    simp only [List.cons_append, walk, bind, Except.bind]
    cases t.step loc x with
    | error e => rfl
    | ok l => exact ih l

/-- What can be left is a directory. -/
theorem directory_of_step {l : Location} (h : t.step loc name = .ok l) :
    t.node? loc = some .directory := by
  unfold step at h
  split at h
  · simp at h
  · rename_i hdir
    exact not_not.mp hdir

/-- A step can be made wherever it starts in a directory and ends at something. -/
theorem step_of_directory {l : Location} (h : t.step loc name = .ok l)
    (hloc : t'.node? loc = some .directory) (hl : t'.node? l ≠ none) :
    t'.step loc name = .ok l := by
  unfold step at h ⊢
  rw [if_neg (by simp [hloc])]
  rw [if_neg (by simp [directory_of_step h])] at h
  split at h
  · rename_i htop
    rw [if_pos htop, h]
  · rename_i htop
    rw [if_neg htop]
    split at h
    · rename_i hdot
      rw [if_pos hdot, h]
    · rename_i hdot
      rw [if_neg hdot]
      split at h
      · rename_i hup
        rw [if_pos hup, h]
      · rename_i hup
        rw [if_neg hup]
        split at h
        · simp at h
        · rename_i hlen
          rw [if_neg hlen]
          split at h
          · simp at h
          · obtain rfl := Except.ok.inj h
            rw [if_neg hl]

/-- A walk that goes on from where it has come starts in a directory. -/
theorem directory_of_walk {names : List String} {l : Location} (h : t.walk loc names = .ok l)
    (hnames : names ≠ []) : t.node? loc = some .directory := by
  obtain ⟨name, rest, rfl⟩ := List.exists_cons_of_ne_nil hnames
  obtain ⟨m, hstep, -⟩ := bind_eq_ok_iff.mp h
  exact directory_of_step hstep

/-- Names still lead where they led, as long as something is there. -/
theorem walk_of_keeps (hkeeps : t.KeepsDirectories t') {names : List String} {l : Location}
    (h : t.walk loc names = .ok l) (hl : t'.node? l ≠ none) : t'.walk loc names = .ok l := by
  induction names generalizing loc with
  | nil => exact h
  | cons name names ih =>
    obtain ⟨m, hstep, hrest⟩ := bind_eq_ok_iff.mp h
    have hm : t'.node? m ≠ none := by
      by_cases hnames : names = []
      · subst hnames
        exact Except.ok.inj hrest ▸ hl
      · rw [hkeeps.directory m (directory_of_walk hrest hnames)]
        nofun
    have hloc := hkeeps.directory loc (directory_of_step hstep)
    exact bind_eq_ok_iff.mpr ⟨m, step_of_directory hstep hloc hm, ih hrest⟩

theorem locate_eq_ok_iff {l : Location} :
    t.locate p = .ok l ↔ p.fault? = none ∧ p.steps ≠ [] ∧ t.walk t.here p.steps = .ok l := by
  unfold locate
  cases p.fault? with
  | some e => simp
  | none =>
    dsimp only
    rw [guard_eq_ok_iff]
    simp

/-- A path still leads where it led, as long as something is there. -/
theorem locate_of_keeps (hkeeps : t.KeepsDirectories t') {l : Location} (h : t.locate p = .ok l)
    (hl : t'.node? l ≠ none) : t'.locate p = .ok l := by
  obtain ⟨hfault, hsteps, hwalk⟩ := locate_eq_ok_iff.mp h
  rw [locate_eq_ok_iff, hkeeps.here]
  exact ⟨hfault, hsteps, walk_of_keeps hkeeps hwalk hl⟩

/-- A path still ends in the same directory. -/
theorem entrance_of_keeps (hkeeps : t.KeepsDirectories t')
    (h : t.entrance p = .ok (loc, name)) : t'.entrance p = .ok (loc, name) := by
  obtain ⟨hfault, hname, hwalk, hloc, hlen⟩ := entrance_eq_ok_iff.mp h
  have hloc' := hkeeps.directory loc hloc
  rw [entrance_eq_ok_iff, hkeeps.here]
  exact ⟨hfault, hname, walk_of_keeps hkeeps hwalk (by simp [hloc']), hloc', hlen⟩

/-! ### Reading what is there -/

/-- A path whose last name stands for something leads there. -/
theorem locate_of_entrance (h : t.entrance p = .ok (loc, name))
    (hstanding : isStanding name = false) (hslash : p.endsInSlash = false)
    (hnode : t.node? (loc ++ [name]) ≠ none) : t.locate p = .ok (loc ++ [name]) := by
  obtain ⟨hfault, hname, hwalk, hloc, hlen⟩ := entrance_eq_ok_iff.mp h
  have hsteps : p.steps = p.names.dropLast ++ [name] := by
    rw [FilePath.steps, hslash, if_neg (by simp), List.append_nil,
      List.dropLast_append_getLast? name hname]
  have hstep : t.step loc name = .ok (loc ++ [name]) := by
    simp only [isStanding, Bool.or_eq_false_iff, decide_eq_false_iff_not] at hstanding
    unfold step
    rw [if_neg (by simp [hloc]), if_neg hstanding.2, if_neg hstanding.1.1, if_neg hstanding.1.2,
      if_neg (Nat.not_lt.mpr hlen), if_neg hnode]
  rw [locate_eq_ok_iff, hsteps, walk_append, hwalk]
  refine ⟨hfault, by simp, ?_⟩
  show t.walk loc [name] = _
  exact bind_eq_ok_iff.mpr ⟨_, hstep, rfl⟩

theorem readBytes_of_entrance (h : t.entrance p = .ok (loc, name))
    (hstanding : isStanding name = false) (hslash : p.endsInSlash = false)
    (hnode : t.node? (loc ++ [name]) = some (.file b)) :
    t.exists? p = true ∧ t.readBytes p = .ok b := by
  have hlocate := locate_of_entrance h hstanding hslash (by simp [hnode])
  constructor
  · rw [exists?, hlocate]
    rfl
  · refine bind_eq_ok_iff.mpr ⟨_, hlocate, ?_⟩
    rw [hnode]

/-- **A file that takes the place of another one** is read there from then on. -/
theorem readBytes_rename_write {t₁ t₂ : FileTree} (hwrite : t.write source b = .ok t₁)
    (hrename : t₁.rename source target = .ok t₂) :
    t₂.exists? target = true ∧ t₂.readBytes target = .ok b := by
  obtain ⟨dir, name, hsource, -, -, hwritten⟩ := write_eq_ok_iff.mp hwrite
  obtain ⟨dir', name', loc, last, b', hsource', htarget, hstanding, hfile, hslash, -, hmoved⟩ :=
    rename_eq_ok_iff.mp hrename
  have hkeeps := keepsDirectories_rename hrename
  -- what is moved is what was written, as writing does not change where the path leads
  have hsame := entrance_of_keeps (keepsDirectories_write hwrite) hsource
  obtain ⟨rfl, rfl⟩ := Prod.mk.inj (Except.ok.inj (hsame.symm.trans hsource'))
  have hb : b' = b := by
    rw [hwritten, node?_insert t _ (by simp), if_pos rfl] at hfile
    simpa using hfile.symm
  have hnode : t₂.node? (loc ++ [last]) = some (.file b) := by
    rw [hmoved, node?_move t₁ _ (by simp) (by simp), if_pos rfl, hb]
  exact readBytes_of_entrance (entrance_of_keeps hkeeps htarget) hstanding hslash hnode

end FileTree

end TrafficRouting
