import TrafficRouting.Proofs.FileTree.Place

/-!
# TrafficRouting.Proofs.FileTree.Frame — what a change leaves as it was

Making the directories on the way to a path adds directories where nothing was, at the places of
just these paths, however far it comes (`addsDirectories_of_mem_cutoffs`).  Writing and moving change
what is at the places of their paths (`node?_of_write`, `node?_of_rename`).  A tree whose nodes are
in directories stays so under every plan (`WellFormed.of_mem_cutoffs`).  In such a tree, a plain path
leads somewhere as soon as something is at its place, however the directories on the way came about
(`locate_of_place`).
-/

namespace TrafficRouting.FileTree

variable {t t' t₁ t₂ : FileTree} {p source target : FilePath} {loc l m dir : Location}
  {name last : String} {b : ByteArray} {ps qs : List FilePath}

/-! ### Directories that are added -/

/-- Directories came where nothing was, at the places of these paths. -/
structure AddsDirectories (ps : List FilePath) (t t' : FileTree) : Prop where
  here : t'.here = t.here
  node : ∀ l, t'.node? l = t.node? l ∨
    (t.node? l = none ∧ t'.node? l = some .directory ∧ ∃ p ∈ ps, l = p.place t.here)

theorem AddsDirectories.refl (ps : List FilePath) (t : FileTree) : AddsDirectories ps t t :=
  ⟨rfl, fun _ => Or.inl rfl⟩

theorem AddsDirectories.mono (h : AddsDirectories ps t t') (hsub : ps ⊆ qs) :
    AddsDirectories qs t t' := by
  refine ⟨h.here, fun l => ?_⟩
  rcases h.node l with hl | ⟨hnone, hdir, p, hp, hplace⟩
  · exact Or.inl hl
  · exact Or.inr ⟨hnone, hdir, p, hsub hp, hplace⟩

theorem AddsDirectories.trans (h : AddsDirectories ps t t₁) (h₁ : AddsDirectories ps t₁ t₂) :
    AddsDirectories ps t t₂ := by
  refine ⟨h₁.here.trans h.here, fun l => ?_⟩
  rcases h.node l with hl | ⟨hnone, hdir, hplace⟩
  · rcases h₁.node l with hl₁ | ⟨hnone₁, hdir₁, p, hp, hplace⟩
    · exact Or.inl (hl₁.trans hl)
    · exact Or.inr ⟨hl ▸ hnone₁, hdir₁, p, hp, h.here ▸ hplace⟩
  · rcases h₁.node l with hl₁ | ⟨hnone₁, -, -⟩
    · exact Or.inr ⟨hnone, hl₁.trans hdir, hplace⟩
    · simp [hdir] at hnone₁

theorem AddsDirectories.keeps (h : AddsDirectories ps t t') : t.KeepsDirectories t' := by
  refine ⟨h.here, fun l hl => ?_⟩
  rcases h.node l with hsame | ⟨hnone, -, -⟩
  · rw [hsame, hl]
  · simp [hl] at hnone

theorem addsDirectories_makeDir (hp : p.Plain) (h : t.makeDir p = .ok t') :
    AddsDirectories [p] t t' := by
  unfold makeDir at h
  obtain ⟨⟨loc, name⟩, hentrance, h⟩ := bind_eq_ok_iff.mp h
  obtain ⟨hfree, h⟩ := guard_eq_ok_iff.mp h
  obtain ⟨hstanding, hnode⟩ := not_or.mp hfree
  have hplace := place_of_entrance hp hentrance (Bool.eq_false_iff.mpr hstanding)
  rw [← Except.ok.inj h]
  refine ⟨rfl, fun l => ?_⟩
  rw [node?_insert t _ (by simp)]
  by_cases hl : l = loc ++ [name]
  · exact Or.inr ⟨hl ▸ not_not.mp hnode, if_pos hl, p, List.mem_singleton_self p, hl.trans hplace⟩
  · exact Or.inl (if_neg hl)

/-- However far the directories on the way to a path are made, nothing else happens. -/
theorem addsDirectories_of_mem_cutoffs (hps : ∀ p ∈ ps, p.Plain)
    (h : t' ∈ (Plan.makeDirs ps).cutoffs t) : AddsDirectories ps t t' := by
  induction ps generalizing t t' with
  | nil => exact List.mem_singleton.mp h ▸ .refl [] t
  | cons p ps ih =>
    have hp := hps p List.mem_cons_self
    have hhead : [p] ⊆ p :: ps := by simp
    have htail : ps ⊆ p :: ps := List.subset_cons_self p ps
    have hup : ∀ {t t'}, t' ∈ (Plan.makeDirs ps).cutoffs t → AddsDirectories (p :: ps) t t' :=
      fun h => (ih (fun q hq => hps q (List.mem_cons_of_mem _ hq)) h).mono htail
    rw [Plan.makeDirs, Plan.cutoffs] at h
    split at h
    · rename_i t₁ hmake
      have hadds := (addsDirectories_makeDir hp hmake).mono hhead
      rcases List.mem_cons.mp h with rfl | h
      · exact .refl _ t'
      · exact List.mem_singleton.mp h ▸ hadds
    · rename_i e hmake
      rcases List.mem_cons.mp h with rfl | h
      · exact .refl _ t'
      cases e with
      | notFound =>
        -- the directory above comes first, then there is a second try
        rcases Plan.mem_cutoffs_bind h with h | h
        · exact hup h
        have habove := hup (Plan.run_mem_cutoffs (Plan.makeDirs ps) t)
        revert h
        generalize (Plan.makeDirs ps).run t = x at habove
        obtain ⟨_ | e, t₁⟩ := x
        · intro h
          dsimp only at h
          rw [Plan.cutoffs] at h
          split at h
          · rename_i t₂ hagain
            have hadds := (addsDirectories_makeDir hp hagain).mono hhead
            rcases List.mem_cons.mp h with rfl | h
            · exact habove
            · exact List.mem_singleton.mp h ▸ habove.trans hadds
          · rcases List.mem_cons.mp h with rfl | h
            · exact habove
            · exact List.mem_singleton.mp h ▸ habove
        · intro h
          exact List.mem_singleton.mp h ▸ habove
      | _ => exact List.mem_singleton.mp h ▸ .refl _ t'

theorem addsDirectories_makeDirs (hps : ∀ p ∈ ps, p.Plain) (t : FileTree) :
    AddsDirectories ps t ((Plan.makeDirs ps).run t).2 :=
  addsDirectories_of_mem_cutoffs hps (Plan.run_mem_cutoffs (Plan.makeDirs ps) t)

/-! ### Files that are written and moved -/

theorem node?_of_write (hp : p.Plain) (h : t.write p b = .ok t') :
    t'.here = t.here ∧
      ∀ l, t'.node? l = if l = p.place t.here then some (.file b) else t.node? l := by
  obtain ⟨loc, name, hentrance, hstanding, -, rfl⟩ := write_eq_ok_iff.mp h
  refine ⟨rfl, fun l => ?_⟩
  rw [node?_insert t _ (by simp), place_of_entrance hp hentrance hstanding]

/-- A file that is written at one place and moved to another one. -/
theorem node?_of_rename (hsource : source.Plain) (htarget : target.Plain)
    (hwrite : t.write source b = .ok t₁) (hrename : t₁.rename source target = .ok t₂) :
    t₂.here = t.here ∧
      ∀ l, t₂.node? l = if l = target.place t.here then some (.file b)
        else if l = source.place t.here then none else t.node? l := by
  obtain ⟨hhere, hnode⟩ := node?_of_write hsource hwrite
  obtain ⟨dir, name, hentrance, hname, -, -⟩ := write_eq_ok_iff.mp hwrite
  obtain ⟨dir', name', loc, last, b', hentrance', hlast, hstanding, hfile, -, -, rfl⟩ :=
    rename_eq_ok_iff.mp hrename
  have hsame := entrance_of_keeps (keepsDirectories_write hwrite) hentrance
  obtain ⟨rfl, rfl⟩ := Prod.mk.inj (Except.ok.inj (hsame.symm.trans hentrance'))
  have hfrom := place_of_entrance hsource hentrance hname
  have hto := place_of_entrance htarget hlast hstanding
  rw [hhere] at hto
  have hb : b' = b := by
    rw [hnode, if_pos hfrom] at hfile
    exact (Node.file.inj (Option.some.inj hfile)).symm
  refine ⟨hhere, fun l => ?_⟩
  rw [node?_move t₁ _ (by simp) (by simp), hto, hfrom, hnode, hb]
  by_cases hl : l = target.place t.here
  · rw [if_pos hl, if_pos hl]
  · rw [if_neg hl, if_neg hl]
    by_cases hl' : l = source.place t.here
    · rw [if_pos hl', if_pos hl']
    · rw [if_neg hl', if_neg hl', if_neg hl']

/-! ### Trees whose nodes are in directories -/

/-- What is somewhere is in a directory, and so is the working directory. -/
structure WellFormed (t : FileTree) : Prop where
  here : t.node? t.here = some .directory
  parent : ∀ l n, t.node? (l ++ [n]) ≠ none → t.node? l = some .directory

theorem WellFormed.directory_of_append (ht : t.WellFormed) {more : Location}
    (h : t.node? (l ++ more) ≠ none) (hmore : more ≠ []) : t.node? l = some .directory := by
  induction more using List.reverseRecOn with
  | nil => exact absurd rfl hmore
  | append_singleton more n ih =>
    rw [← List.append_assoc] at h
    have hparent := ht.parent _ n h
    by_cases hnil : more = []
    · rwa [hnil, List.append_nil] at hparent
    · exact ih (by rw [hparent]; nofun) hnil

theorem WellFormed.directory_above (ht : t.WellFormed) (hl : t.node? l = some .directory)
    (hm : m <+: l) : t.node? m = some .directory := by
  obtain ⟨more, rfl⟩ := hm
  by_cases hmore : more = []
  · rwa [hmore, List.append_nil] at hl
  · exact ht.directory_of_append (by rw [hl]; nofun) hmore

theorem wellFormed_empty : ({} : FileTree).WellFormed where
  here := rfl
  parent l n h := absurd (if_neg (by simp)) h

/-- Nodes that come in directories leave a tree well-formed, as long as directories stay. -/
theorem WellFormed.of_keeps (ht : t.WellFormed) (hkeeps : t.KeepsDirectories t')
    (hnew : ∀ l n, t'.node? (l ++ [n]) ≠ none → t.node? (l ++ [n]) = none →
      t.node? l = some .directory) : t'.WellFormed := by
  refine ⟨?_, fun l n h => hkeeps.directory l ?_⟩
  · rw [hkeeps.here]
    exact hkeeps.directory _ ht.here
  · by_cases hold : t.node? (l ++ [n]) = none
    · exact hnew l n h hold
    · exact ht.parent l n hold

theorem WellFormed.makeDir (ht : t.WellFormed) (h : t.makeDir p = .ok t') : t'.WellFormed := by
  unfold FileTree.makeDir at h
  obtain ⟨⟨loc, name⟩, hentrance, h⟩ := bind_eq_ok_iff.mp h
  obtain ⟨hfree, h⟩ := guard_eq_ok_iff.mp h
  have hnode := not_not.mp (not_or.mp hfree).2
  have hdir := (entrance_eq_ok_iff.mp hentrance).2.2.2.1
  obtain rfl := Except.ok.inj h
  refine ht.of_keeps ⟨rfl, fun l hl => ?_⟩ fun l n hnew hold => ?_
  · rw [node?_insert t _ (by simp)]
    split
    · rfl
    · exact hl
  · rw [node?_insert t _ (by simp), hold] at hnew
    split at hnew
    · rename_i hplace
      exact (List.append_inj' hplace rfl).1 ▸ hdir
    · exact absurd rfl hnew

theorem WellFormed.write (ht : t.WellFormed) (h : t.write p b = .ok t') : t'.WellFormed := by
  refine ht.of_keeps (keepsDirectories_write h) fun l n hnew hold => ?_
  obtain ⟨loc, name, hentrance, -, -, rfl⟩ := write_eq_ok_iff.mp h
  rw [node?_insert t _ (by simp), hold] at hnew
  split at hnew
  · rename_i hplace
    exact (List.append_inj' hplace rfl).1 ▸ (entrance_eq_ok_iff.mp hentrance).2.2.2.1
  · exact absurd rfl hnew

theorem WellFormed.rename (ht : t.WellFormed) (h : t.rename source target = .ok t') :
    t'.WellFormed := by
  refine ht.of_keeps (keepsDirectories_rename h) fun l n hnew hold => ?_
  obtain ⟨dir, name, loc, last, b, -, hentrance, -, -, -, -, rfl⟩ := rename_eq_ok_iff.mp h
  rw [node?_move t _ (by simp) (by simp), hold] at hnew
  split at hnew
  · rename_i hplace
    exact (List.append_inj' hplace rfl).1 ▸ (entrance_eq_ok_iff.mp hentrance).2.2.2.1
  · split at hnew
    · exact absurd rfl hnew
    · exact absurd rfl hnew

theorem WellFormed.apply (ht : t.WellFormed) {change : Change} (h : change.apply t = .ok t') :
    t'.WellFormed := by
  cases change with
  | makeDir p => exact ht.makeDir h
  | write p b => exact ht.write h
  | rename source target => exact ht.rename h

/-- Wherever a plan is cut off, the tree is well-formed. -/
theorem WellFormed.of_mem_cutoffs {α : Type} {plan : Plan α} (ht : t.WellFormed)
    (h : t' ∈ plan.cutoffs t) : t'.WellFormed := by
  induction plan generalizing t with
  | done a => exact List.mem_singleton.mp h ▸ ht
  | look next ih => exact ih t ht h
  | act change next ih =>
    rw [Plan.cutoffs] at h
    split at h
    · rename_i t₁ happly
      rcases List.mem_cons.mp h with rfl | h
      · exact ht
      · rcases List.mem_append.mp h with h | h
        · obtain ⟨p, b, n, -, hwrite⟩ := Change.mem_partials h
          exact ht.write hwrite
        · exact ih none (ht.apply happly) h
    · rename_i e happly
      rcases List.mem_cons.mp h with rfl | h
      · exact ht
      · exact ih (some e) ht h

/-- So it is when the plan has been carried out. -/
theorem WellFormed.run {α : Type} (ht : t.WellFormed) (plan : Plan α) :
    (plan.run t).2.WellFormed :=
  ht.of_mem_cutoffs (plan.run_mem_cutoffs t)

/-- Where names lead on from somewhere, there is something. -/
theorem node?_of_walk {names : List String} (h : t.walk loc names = .ok l)
    (hnames : ∀ n ∈ names, n ≠ "..") (hloc : t.node? loc ≠ none) : t.node? l ≠ none := by
  induction names generalizing loc with
  | nil => exact Except.ok.inj h ▸ hloc
  | cons n names ih =>
    obtain ⟨m, hstep, hrest⟩ := bind_eq_ok_iff.mp h
    refine ih hrest (fun x hx => hnames x (List.mem_cons_of_mem _ hx)) ?_
    unfold step at hstep
    obtain ⟨-, hstep⟩ := guard_eq_ok_iff.mp hstep
    split at hstep
    · rw [← Except.ok.inj hstep]
      nofun
    · split at hstep
      · exact Except.ok.inj hstep ▸ hloc
      · rw [if_neg (hnames n List.mem_cons_self)] at hstep
        obtain ⟨-, hstep⟩ := guard_eq_ok_iff.mp hstep
        obtain ⟨hnode, hstep⟩ := guard_eq_ok_iff.mp hstep
        exact Except.ok.inj hstep ▸ hnode

theorem node?_of_locate (hp : p.Plain) (hhere : t.node? t.here = some .directory)
    (h : t.locate p = .ok l) : t.node? l ≠ none := by
  obtain ⟨-, -, hwalk⟩ := locate_eq_ok_iff.mp h
  refine node?_of_walk hwalk (fun n hn => ?_) (by rw [hhere]; nofun)
  rw [FilePath.steps_eq] at hn
  rcases List.mem_append.mp hn with hn | hn
  · split at hn
    · obtain rfl := List.mem_singleton.mp hn
      decide
    · simp at hn
  · exact (way_plain hp n hn).2.1

/-- Where a plain path leads in another tree it leads in this one, if the same is there. -/
theorem locate_of_place (hp : p.Plain) (ht : t.WellFormed) (hhere : t'.here = t.here)
    (h : t'.locate p = .ok l) (hnode : t'.node? l = t.node? l) (hl : t.node? l ≠ none) :
    t.locate p = .ok l := by
  obtain ⟨hfault, hsteps, hwalk⟩ := locate_eq_ok_iff.mp h
  have hdir : ∀ m, m <+: l → t'.node? m = some .directory → t.node? m = some .directory := by
    rintro m ⟨more, rfl⟩ hm
    by_cases hmore : more = []
    · rw [hmore, List.append_nil] at hnode
      rwa [← hnode]
    · exact ht.directory_of_append hl hmore
  rw [locate_eq_ok_iff]
  refine ⟨hfault, hsteps, ?_⟩
  rw [FilePath.steps_eq, hhere] at hwalk
  rw [FilePath.steps_eq]
  cases habsolute : p.isAbsolute with
  | false =>
    rw [habsolute] at hwalk
    exact walk_of_plain hdir hl hwalk (way_plain hp)
  | true =>
    rw [habsolute] at hwalk
    obtain ⟨m, hstep, hrest⟩ := bind_eq_ok_iff.mp hwalk
    rw [step_top (directory_of_step hstep)] at hstep
    rw [← Except.ok.inj hstep] at hrest
    exact bind_eq_ok_iff.mpr ⟨[], step_top ht.here, walk_of_plain hdir hl hrest (way_plain hp)⟩

end TrafficRouting.FileTree
