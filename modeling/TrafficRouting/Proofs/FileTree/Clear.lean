import TrafficRouting.Proofs.FileTree.Frame

/-!
# TrafficRouting.Proofs.FileTree.Clear — where nothing is in the way

Where only directories are on a way, names that lead on are followed up to the first one that is
missing (`walk_of_clear`), and a path can be entered as soon as the directory that it is in is there
(`entrance_of_clear`).  So the directories on a way that is clear can all be made, however many of
them are missing (`makeDirs_of_clear`).  A path that can be entered has names that are allowed
(`usable_of_entrance`).
-/

namespace TrafficRouting

namespace FilePath

variable {p d : FilePath} {xs : List String} {x : String}

/-- Names that are allowed, none of which leads upwards. -/
structure Usable (p : FilePath) : Prop where
  plain : p.Plain
  fault : p.fault? = none
  short : ∀ n ∈ p.pieces, n.utf8ByteSize ≤ nameLimit

theorem exists_text_append (xs ys : List String) :
    ∃ s, (⟨xs ++ ys⟩ : FilePath).text = (⟨xs⟩ : FilePath).text ++ s := by
  by_cases hxs : xs = []
  · exact ⟨"/".intercalate ys, by simp [hxs, text]⟩
  by_cases hys : ys = []
  · exact ⟨"", by simp [hys]⟩
  · refine ⟨"/" ++ "/".intercalate ys, ?_⟩
    rw [text, String.intercalate_append_of_ne_nil hxs hys, text, String.append_assoc]

/-- What a path may be, its starts may be. -/
theorem fault?_of_prefix (h : p.fault? = none) (hd : d.pieces <+: p.pieces) : d.fault? = none := by
  obtain ⟨more, hmore⟩ := hd
  obtain ⟨s, hs⟩ := exists_text_append d.pieces more
  unfold fault? at h ⊢
  rw [hmore] at hs
  rw [show p.text = d.text ++ s from hs, String.toList_append, String.utf8ByteSize_append] at h
  split at h
  · simp at h
  · rename_i hzero
    split at h
    · simp at h
    · rename_i hlen
      rw [if_neg, if_neg]
      · omega
      · simpa using fun hmem => hzero (by simp [hmem])

theorem Usable.of_mem_stages (hp : p.Usable) (h : d ∈ p.stages) : d.Usable where
  plain := hp.plain.of_mem_stages h
  fault := fault?_of_prefix hp.fault (FilePath.of_mem_stages h).1
  short n hn := hp.short n ((FilePath.of_mem_stages h).1.subset hn)

theorem Usable.isStanding_last (hp : (⟨xs ++ [x]⟩ : FilePath).Usable) (hx : x ≠ ".") :
    FileTree.isStanding x = false := by
  have hup : x ≠ ".." := fun h => hp.plain.1 (by simp [h])
  have htop : x ≠ topName := fun h => hp.plain.2 (by simp [h])
  simp [FileTree.isStanding, hx, hup, htop]

theorem endsInSlash_concat (xs : List String) (hx : x ≠ "") :
    (⟨xs ++ [x]⟩ : FilePath).endsInSlash = false := by
  simp [endsInSlash, hx]

/-! ### A path that ends in a name -/

theorem place_concat (xs : List String) (hx : x ≠ "" ∧ x ≠ ".") (here : Location) :
    (⟨xs ++ [x]⟩ : FilePath).place here =
      (if (⟨xs ++ [x]⟩ : FilePath).isAbsolute then [] else here) ++ onward xs ++ [x] := by
  rw [place, onward_append, onward_singleton hx, List.append_assoc]

theorem directories_concat (xs : List String) (hx : x ≠ "" ∧ x ≠ ".") :
    (⟨xs ++ [x]⟩ : FilePath).directories = (⟨xs⟩ : FilePath).stages := by
  rw [directories, stages_concat, if_pos ⟨hx.1, Or.inl hx.2⟩, List.dropLast_concat]

theorem exists_sibling_eq (p : FilePath) (name : String) :
    ∃ ys, p.sibling name = ⟨ys ++ [name]⟩ := by
  rw [sibling]
  cases p.directories.getLast? with
  | some d => exact ⟨d.pieces, rfl⟩
  | none =>
    cases p.isAbsolute with
    | false => exact ⟨[], rfl⟩
    | true => exact ⟨[""], rfl⟩

/-- The temporary file has a name in the same directory. -/
theorem exists_temporary_eq (xs : List String) (hx : x ≠ "" ∧ x ≠ ".") (hup : x ≠ "..")
    (here : Location) :
    ∃ ys, (⟨xs ++ [x]⟩ : FilePath).temporary = ⟨ys ++ [x ++ ".tmp"]⟩ ∧
      (if (⟨ys ++ [x ++ ".tmp"]⟩ : FilePath).isAbsolute then [] else here) ++ onward ys =
        (if (⟨xs ++ [x]⟩ : FilePath).isAbsolute then [] else here) ++ onward xs := by
  have hlast : (⟨xs ++ [x]⟩ : FilePath).lastName? = some x := by
    rw [lastName?, stages_concat, if_pos ⟨hx.1, Or.inl hx.2⟩, List.getLast?_concat]
    simp [hx.2, hup]
  have hname := append_tmp_leads x
  obtain ⟨ys, hys⟩ := exists_sibling_eq ⟨xs ++ [x]⟩ (x ++ ".tmp")
  have hplace := place_sibling hname (directories_concat xs hx) here
  rw [hys, place_concat ys hname] at hplace
  refine ⟨ys, ?_, (List.append_inj' hplace rfl).1⟩
  rw [temporary, hlast]
  exact hys

end FilePath

namespace FileTree

variable {t t' t₁ : FileTree} {p : FilePath} {loc l m : Location} {name x : String}
  {names xs : List String} {ps : List FilePath}

/-- Nothing but directories is on the way to a location. -/
def Clear (t : FileTree) (l : Location) : Prop :=
  ∀ m, m <+: l → t.node? m = none ∨ t.node? m = some .directory

theorem Clear.of_prefix (h : t.Clear l) (hm : m <+: l) : t.Clear m :=
  fun m' hm' => h m' (hm'.trans hm)

theorem Clear.of_addsDirectories (h : t.Clear l) (hadds : AddsDirectories ps t t') :
    t'.Clear l := by
  intro m hm
  rcases hadds.node m with hsame | ⟨-, hdir, -⟩
  · rw [hsame]
    exact h m hm
  · exact Or.inr hdir

/-- On a clear way nothing but a missing directory can stop a walk. -/
theorem walk_of_clear (ht : t.WellFormed) (hloc : t.node? loc = some .directory)
    (hnames : ∀ n ∈ names, (n ≠ "" ∧ n ≠ ".." ∧ n ≠ topName) ∧ n.utf8ByteSize ≤ nameLimit)
    (hclear : t.Clear (loc ++ FilePath.onward names)) :
    t.walk loc names =
      if t.node? (loc ++ FilePath.onward names) = some .directory then
        .ok (loc ++ FilePath.onward names)
      else .error .notFound := by
  induction names generalizing loc with
  | nil => simp [walk, FilePath.onward, hloc]
  | cons n names ih =>
    obtain ⟨⟨hempty, hup, htop⟩, hlen⟩ := hnames n List.mem_cons_self
    have hrest := fun x hx => hnames x (List.mem_cons_of_mem _ hx)
    rw [walk]
    by_cases hdot : n = "."
    · have hstep : t.step loc n = .ok loc := by
        unfold step
        rw [if_neg (by simp [hloc]), if_neg htop, if_pos hdot]
      have hskip : FilePath.onward (n :: names) = FilePath.onward names := by
        simp [FilePath.onward, hdot]
      rw [hstep, hskip]
      rw [hskip] at hclear
      exact ih hloc hrest hclear
    · have hon : FilePath.onward (n :: names) = n :: FilePath.onward names := by
        simp [FilePath.onward, hdot, hempty]
      have hsplit : loc ++ n :: FilePath.onward names = loc ++ [n] ++ FilePath.onward names := by
        simp
      rw [hon, hsplit] at hclear ⊢
      rcases hclear (loc ++ [n]) (List.prefix_append _ _) with hnone | hdir
      · have hstep : t.step loc n = .error .notFound := by
          unfold step
          rw [if_neg (by simp [hloc]), if_neg htop, if_neg hdot, if_neg hup,
            if_neg (Nat.not_lt.mpr hlen), if_pos hnone]
        have hmissing : t.node? (loc ++ [n] ++ FilePath.onward names) ≠ some .directory := by
          intro hdir
          by_cases hnil : FilePath.onward names = []
          · rw [hnil, List.append_nil, hnone] at hdir
            simp at hdir
          · have hthere : t.node? (loc ++ [n] ++ FilePath.onward names) ≠ none := by
              rw [hdir]
              simp
            have habove := ht.directory_of_append hthere hnil
            rw [hnone] at habove
            simp at habove
        rw [hstep, if_neg hmissing]
        rfl
      · have hstep : t.step loc n = .ok (loc ++ [n]) := by
          unfold step
          rw [if_neg (by simp [hloc]), if_neg htop, if_neg hdot, if_neg hup,
            if_neg (Nat.not_lt.mpr hlen), if_neg (by simp [hdir])]
        rw [hstep]
        exact ih hdir hrest hclear

/-- The walk may start at the top as well as in the working directory. -/
theorem walk_start_of_clear (ht : t.WellFormed) (top : Bool)
    (hnames : ∀ n ∈ names, (n ≠ "" ∧ n ≠ ".." ∧ n ≠ topName) ∧ n.utf8ByteSize ≤ nameLimit)
    (hl : l = (if top then [] else t.here) ++ FilePath.onward names) (hclear : t.Clear l) :
    t.walk t.here ((if top then [topName] else []) ++ names) =
      if t.node? l = some .directory then .ok l else .error .notFound := by
  subst hl
  cases top with
  | false => exact walk_of_clear ht ht.here hnames hclear
  | true =>
    show t.walk t.here (topName :: names) = _
    rw [walk, step_top ht.here]
    exact walk_of_clear ht rfl hnames hclear

/-- On a clear way, a path can be entered if the directory that it is in is there. -/
theorem entrance_of_clear (ht : t.WellFormed) (hp : (⟨xs ++ [x]⟩ : FilePath).Usable) (hx : x ≠ "")
    (hl : l = (if (⟨xs ++ [x]⟩ : FilePath).isAbsolute then [] else t.here) ++ FilePath.onward xs)
    (hclear : t.Clear l) :
    t.entrance ⟨xs ++ [x]⟩ =
      if t.node? l = some .directory then .ok (l, x) else .error .notFound := by
  have hlen := hp.short x (by simp)
  have hfilter : (xs ++ [x]).filter (· ≠ "") = xs.filter (· ≠ "") ++ [x] := by
    rw [List.filter_append]
    simp [hx]
  have hnames : (⟨xs ++ [x]⟩ : FilePath).names =
      (if (⟨xs ++ [x]⟩ : FilePath).isAbsolute then [topName] else []) ++ xs.filter (· ≠ "") ++
        [x] := by
    rw [FilePath.names, hfilter, List.append_assoc]
  have hplain : ∀ n ∈ xs.filter (· ≠ ""),
      (n ≠ "" ∧ n ≠ ".." ∧ n ≠ topName) ∧ n.utf8ByteSize ≤ nameLimit := by
    intro n hn
    have hmem : n ∈ (xs ++ [x]).filter (· ≠ "") := by
      rw [hfilter]
      exact List.mem_append_left _ hn
    exact ⟨names_plain hp.plain n hmem, hp.short n (List.mem_of_mem_filter hmem)⟩
  rw [← FilePath.onward_names] at hl
  have hwalk := walk_start_of_clear ht _ hplain hl hclear
  unfold entrance
  rw [hp.fault, hnames, List.getLast?_concat, List.dropLast_concat, hwalk]
  by_cases hdir : t.node? l = some .directory
  · rw [if_pos hdir, if_pos hdir]
    show (if t.node? l ≠ some .directory then _ else _) = _
    rw [if_neg (not_not.mpr hdir), if_neg (Nat.not_lt.mpr hlen)]
  · rw [if_neg hdir, if_neg hdir]
    rfl

/-! ### A path that is entered -/

theorem short_of_step (h : t.step loc name = .ok l) : name.utf8ByteSize ≤ nameLimit := by
  unfold step at h
  obtain ⟨-, h⟩ := guard_eq_ok_iff.mp h
  split at h
  · rename_i htop
    rw [htop]
    decide
  · split at h
    · rename_i hdot
      rw [hdot]
      decide
    · split at h
      · rename_i hup
        rw [hup]
        decide
      · exact Nat.le_of_not_lt (guard_eq_ok_iff.mp h).1

theorem short_of_walk (h : t.walk loc names = .ok l) :
    ∀ n ∈ names, n.utf8ByteSize ≤ nameLimit := by
  induction names generalizing loc with
  | nil => simp
  | cons name names ih =>
    obtain ⟨m, hstep, hrest⟩ := bind_eq_ok_iff.mp h
    intro n hn
    rcases List.mem_cons.mp hn with rfl | hn
    · exact short_of_step hstep
    · exact ih hrest n hn

/-- Only names that are allowed can be entered. -/
theorem usable_of_entrance (hp : p.Plain) (h : t.entrance p = .ok (loc, name)) : p.Usable := by
  obtain ⟨hfault, hlast, hwalk, -, hlen⟩ := entrance_eq_ok_iff.mp h
  refine ⟨hp, hfault, fun n hn => ?_⟩
  by_cases hempty : n = ""
  · rw [hempty]
    decide
  have hname : n ∈ p.names :=
    List.mem_append_right _ (List.mem_filter.mpr ⟨hn, by simpa using hempty⟩)
  rw [← List.dropLast_append_getLast? name hlast] at hname
  rcases List.mem_append.mp hname with hname | hname
  · exact short_of_walk hwalk n hname
  · rwa [List.mem_singleton.mp hname]

/-- A path whose last name is not followed by a slash ends in this name. -/
theorem named_of_entrance (h : t.entrance p = .ok (loc, name))
    (hstanding : isStanding name = false) (hslash : p.endsInSlash = false) :
    ∃ xs, p.pieces = xs ++ [name] ∧ name ≠ "" ∧ name ≠ "." := by
  obtain ⟨-, hlast, -, -, -⟩ := entrance_eq_ok_iff.mp h
  simp only [isStanding, Bool.or_eq_false_iff, decide_eq_false_iff_not] at hstanding
  obtain ⟨pieces⟩ := p
  cases pieces using List.reverseRecOn with
  | nil => simp [FilePath.names, FilePath.isAbsolute] at hlast
  | append_singleton xs x =>
    by_cases hx : x = ""
    · -- nothing is behind the last slash, so there is no slash, and no name
      obtain rfl : xs = [] := by simpa [FilePath.endsInSlash, hx] using hslash
      simp [FilePath.names, hx] at hlast
    · rw [FilePath.names, List.filter_append, ← List.append_assoc] at hlast
      obtain rfl : x = name := by simpa [hx] using hlast
      exact ⟨xs, rfl, hx, hstanding.1.1⟩

/-! ### Making directories -/

theorem makeDir_of_entrance (h : t.entrance p = .ok (loc, name)) :
    t.makeDir p = if isStanding name ∨ t.node? (loc ++ [name]) ≠ none then .error .exists
      else .ok { t with nodes := t.nodes.insert (loc ++ [name]) .directory } := by
  unfold makeDir
  rw [h]
  rfl

theorem makeDir_ne_notFound (h : t.entrance p = .ok (loc, name)) :
    t.makeDir p ≠ .error .notFound := by
  rw [makeDir_of_entrance h]
  intro heq
  split at heq
  · simp at heq
  · simp at heq

theorem makeDirs_of_isDirectory (hmake : t.makeDir p = .error .exists)
    (h : t.isDirectory p = true) : (Plan.makeDirs (p :: ps)).run t = (none, t) := by
  rw [Plan.makeDirs, Plan.run]
  simp only [Change.apply, hmake, Plan.run, h, if_true]

/-- A dot in front stands for the working directory, which is there. -/
theorem makeDirs_dot (h : t.node? t.here = some .directory) :
    (Plan.makeDirs [⟨["."]⟩]).run t = (none, t) := by
  have hentrance : t.entrance ⟨["."]⟩ = .ok (t.here, ".") :=
    entrance_eq_ok_iff.mpr ⟨by decide, rfl, rfl, h, by decide⟩
  have hstep : t.step t.here "." = .ok t.here := by
    unfold step
    rw [if_neg (by simp [h]), if_neg (by decide), if_pos rfl]
  have hlocate : t.locate ⟨["."]⟩ = .ok t.here :=
    locate_eq_ok_iff.mpr ⟨by decide, by decide, bind_eq_ok_iff.mpr ⟨_, hstep, rfl⟩⟩
  refine makeDirs_of_isDirectory ((makeDir_of_entrance hentrance).trans (if_pos (.inl rfl))) ?_
  unfold isDirectory
  rw [hlocate]
  simpa using h

/-- A directory whose name can be entered is there after the first try. -/
theorem makeDirs_of_entrance (h : t.entrance p = .ok (loc, name))
    (hstanding : isStanding name = false) (hslash : p.endsInSlash = false)
    (hnode : t.node? (loc ++ [name]) = none ∨ t.node? (loc ++ [name]) = some .directory) :
    ∃ t', (Plan.makeDirs (p :: ps)).run t = (none, t') ∧
      t'.node? (loc ++ [name]) = some .directory := by
  have hmake := makeDir_of_entrance h
  rcases hnode with hnone | hdir
  · rw [if_neg (not_or.mpr ⟨Bool.eq_false_iff.mp hstanding, not_not.mpr hnone⟩)] at hmake
    refine ⟨{ t with nodes := t.nodes.insert (loc ++ [name]) .directory }, ?_, ?_⟩
    · rw [Plan.makeDirs, Plan.run]
      simp only [Change.apply, hmake, Plan.run]
    · rw [node?_insert t _ (by simp), if_pos rfl]
  · rw [if_pos (Or.inr (by simp [hdir]))] at hmake
    have hfound : t.isDirectory p = true := by
      unfold isDirectory
      rw [locate_of_entrance h hstanding hslash (by simp [hdir])]
      simpa using hdir
    exact ⟨t, makeDirs_of_isDirectory hmake hfound, hdir⟩

/-- If what is above is missing, it is made, and the directory is tried again. -/
theorem makeDirs_of_notFound (h : t.entrance p = .error .notFound)
    (hups : (Plan.makeDirs ps).run t = (none, t₁)) (h₁ : t₁.entrance p = .ok (loc, name)) :
    (Plan.makeDirs (p :: ps)).run t = (Plan.makeDirs (p :: ps)).run t₁ := by
  have hmake : t.makeDir p = .error .notFound := by
    unfold makeDir
    rw [h]
    rfl
  rw [Plan.makeDirs, Plan.run, Plan.run]
  simp only [Change.apply, hmake]
  rw [Plan.run_bind, hups]
  simp only [Plan.run, Change.apply]
  cases hagain : t₁.makeDir p with
  | ok t₂ => rfl
  | error e =>
    cases e with
    | notFound => exact absurd hagain (makeDir_ne_notFound h₁)
    | _ => rfl

/-- **Directories on a clear way are made**, whichever of them are missing. -/
theorem makeDirs_of_clear (ht : t.WellFormed) (top : Bool)
    (hstages : ∀ d ∈ (⟨xs⟩ : FilePath).stages, d.Usable ∧ d.isAbsolute = top)
    (hclear : t.Clear ((if top then [] else t.here) ++ FilePath.onward xs)) :
    ∃ t', (Plan.makeDirs (⟨xs⟩ : FilePath).stages.reverse).run t = (none, t') ∧
      t'.node? ((if top then [] else t.here) ++ FilePath.onward xs) = some .directory := by
  induction xs using List.reverseRecOn with
  | nil =>
    refine ⟨t, rfl, ?_⟩
    cases top with
    | false => simpa [FilePath.onward] using ht.here
    | true => rfl
  | append_singleton xs x ih =>
    rcases FilePath.stages_concat_cases xs x with
      ⟨hsame, honward⟩ | ⟨rfl, rfl⟩ | ⟨hx, honward, hmore⟩
    · -- the last piece is skipped
      rw [hsame] at hstages ⊢
      rw [honward] at hclear ⊢
      exact ih hstages hclear
    · obtain ⟨-, htop⟩ := hstages ⟨["."]⟩ (by decide)
      obtain rfl : false = top := (FilePath.isAbsolute_singleton ".").symm.trans htop
      refine ⟨t, makeDirs_dot ht.here, ?_⟩
      simpa [FilePath.onward] using ht.here
    · have hlast : (⟨xs ++ [x]⟩ : FilePath) ∈ (⟨xs ++ [x]⟩ : FilePath).stages := by
        rw [hmore]
        exact List.mem_append_right _ (List.mem_singleton_self _)
      obtain ⟨husable, rfl⟩ := hstages _ hlast
      have hups := fun d hd => hstages d (by rw [hmore]; exact List.mem_append_left _ hd)
      have hstanding := husable.isStanding_last hx.2
      have hslash := FilePath.endsInSlash_concat xs hx.1
      rw [honward, ← List.append_assoc] at hclear ⊢
      have habove := hclear.of_prefix (List.prefix_append _ [x])
      have hentrance := entrance_of_clear ht husable hx.1 rfl habove
      rw [hmore, List.reverse_append, List.reverse_singleton, List.singleton_append]
      by_cases hparent : t.node? ((if (⟨xs ++ [x]⟩ : FilePath).isAbsolute then [] else t.here) ++
          FilePath.onward xs) = some .directory
      · rw [if_pos hparent] at hentrance
        exact makeDirs_of_entrance hentrance hstanding hslash (hclear _ List.prefix_rfl)
      · rw [if_neg hparent] at hentrance
        obtain ⟨t₁, hrun, hmade⟩ := ih hups habove
        have hadds := addsDirectories_makeDirs
          (fun d hd => (hups d (List.mem_reverse.mp hd)).1.plain) t
        have ht₁ := ht.run (Plan.makeDirs (⟨xs⟩ : FilePath).stages.reverse)
        rw [hrun] at hadds ht₁
        have hclear₁ := hclear.of_addsDirectories hadds
        have hentrance₁ := entrance_of_clear ht₁ husable hx.1 (by rw [hadds.here])
          (hclear₁.of_prefix (List.prefix_append _ [x]))
        rw [if_pos hmade] at hentrance₁
        rw [makeDirs_of_notFound hentrance hrun hentrance₁]
        exact makeDirs_of_entrance hentrance₁ hstanding hslash (hclear₁ _ List.prefix_rfl)

end FileTree

end TrafficRouting
