import Mathlib.Data.List.Induction
import TrafficRouting.Proofs.FileTree

/-!
# TrafficRouting.Proofs.FileTree.Place — where plain paths lead

The names of a plain path only lead on, so that its text says where it leads (`FilePath.place`),
whatever the tree holds (`place_of_locate`, `place_of_entrance`).  The directories on the way to a
plain path are above its place (`place_of_mem_directories`), and the sibling that a document is
written to is neither there nor above (`place_temporary`).
-/

namespace TrafficRouting

namespace FilePath

variable {p d : FilePath} {name : String}

/-- No name leads upwards. -/
def Plain (p : FilePath) : Prop := ".." ∉ p.pieces ∧ topName ∉ p.pieces

instance : Decidable p.Plain := inferInstanceAs (Decidable (_ ∧ _))

/-- The names that lead on, which an empty one and a dot do not. -/
def onward (names : List String) : List String := names.filter fun n => n ≠ "" ∧ n ≠ "."

/-- Where a plain path leads from the working directory. -/
def place (p : FilePath) (here : Location) : Location :=
  (if p.isAbsolute then [] else here) ++ onward p.pieces

/-! ### Names that lead on -/

@[simp] theorem onward_append (xs ys : List String) : onward (xs ++ ys) = onward xs ++ onward ys :=
  List.filter_append xs ys

theorem onward_singleton (h : name ≠ "" ∧ name ≠ ".") : onward [name] = [name] := by
  simp [onward, h]

theorem onward_names (xs : List String) : onward (xs.filter (· ≠ "")) = onward xs := by
  rw [onward, List.filter_filter]
  refine List.filter_congr fun n _ => ?_
  by_cases hn : n = ""
  · simp [hn]
  · simp [hn]

/-- The names behind the top or the working directory. -/
def way (p : FilePath) : List String :=
  p.pieces.filter (· ≠ "") ++ if p.endsInSlash then ["."] else []

theorem steps_eq (p : FilePath) :
    p.steps = (if p.isAbsolute then [topName] else []) ++ p.way := by
  rw [steps, names, way, List.append_assoc]

theorem onward_way (p : FilePath) : onward p.way = onward p.pieces := by
  have hslash : onward (if p.endsInSlash = true then ["."] else []) = [] := by
    split
    · decide
    · rfl
  rw [way, onward_append, hslash, List.append_nil, onward_names]

theorem onward_prefix {xs ys : List String} (h : xs <+: ys) : onward xs <+: onward ys :=
  h.filter _

theorem splitSlashes_free (s : List Char) : ∀ piece ∈ splitSlashes s, '/' ∉ piece := by
  induction s with
  | nil => simp [splitSlashes]
  | cons c s ih =>
    unfold splitSlashes
    split
    · intro piece hpiece
      rcases List.mem_cons.mp hpiece with rfl | hpiece
      · exact List.not_mem_nil
      · exact ih piece hpiece
    · rename_i hc
      split
      · rename_i piece pieces hsplit
        rw [hsplit] at ih
        intro x hx
        rcases List.mem_cons.mp hx with rfl | hx
        · rintro (_ | ⟨_, hmem⟩)
          · exact hc rfl
          · exact ih piece List.mem_cons_self hmem
        · exact ih x (List.mem_cons_of_mem _ hx)
      · simpa using Ne.symm hc

/-- The path of a text is plain unless two dots stand between slashes. -/
theorem plain_ofText_iff (s : String) : (ofText s).Plain ↔ ".." ∉ (ofText s).pieces := by
  refine ⟨And.left, fun h => ⟨h, fun htop => ?_⟩⟩
  obtain ⟨piece, hpiece, htop⟩ := List.mem_map.mp htop
  have hslash : '/' ∈ piece := by
    rw [← String.toList_ofList (l := piece), htop]
    decide
  exact splitSlashes_free s.toList piece hpiece hslash

@[simp] theorem isAbsolute_singleton (x : String) : (⟨[x]⟩ : FilePath).isAbsolute = false := by
  simp [isAbsolute]

theorem isAbsolute_cons_cons (x y : String) (xs : List String) :
    (⟨x :: y :: xs⟩ : FilePath).isAbsolute = decide (x = "") := by
  simp [isAbsolute]

theorem isAbsolute_concat (xs : List String) (x y : String) :
    (⟨xs ++ [x]⟩ : FilePath).isAbsolute = (⟨xs ++ [y]⟩ : FilePath).isAbsolute := by
  match xs with
  | [] => exact (isAbsolute_singleton x).trans (isAbsolute_singleton y).symm
  | [z] => exact (isAbsolute_cons_cons z x []).trans (isAbsolute_cons_cons z y []).symm
  | z :: w :: xs => exact (isAbsolute_cons_cons z w _).trans (isAbsolute_cons_cons z w _).symm

/-- What comes behind a piece of its own does not matter. -/
theorem isAbsolute_append (xs : List String) {x : String} (hx : x ≠ "") (more : List String) :
    (⟨xs ++ [x] ++ more⟩ : FilePath).isAbsolute = (⟨xs ++ [x]⟩ : FilePath).isAbsolute := by
  match xs, more with
  | [], [] => rfl
  | [], m :: more =>
    show isAbsolute ⟨x :: m :: more⟩ = isAbsolute ⟨[x]⟩
    rw [isAbsolute_singleton, isAbsolute_cons_cons, decide_eq_false hx]
  | [y], more => exact (isAbsolute_cons_cons y x more).trans (isAbsolute_cons_cons y x []).symm
  | y :: z :: xs, more =>
    exact (isAbsolute_cons_cons y z _).trans (isAbsolute_cons_cons y z _).symm

/-! ### Stages -/

theorem starts_concat (before xs : List String) (x : String) :
    starts before (xs ++ [x]) = starts before xs ++
      if x ≠ "" ∧ (x ≠ "." ∨ before ++ xs = []) then [⟨before ++ xs ++ [x]⟩] else [] := by
  induction xs generalizing before with
  | nil => simp [starts]
  | cons y xs ih =>
    rw [List.cons_append, starts, ih, starts, List.append_assoc]
    simp

theorem stages_concat (xs : List String) (x : String) :
    (⟨xs ++ [x]⟩ : FilePath).stages = (⟨xs⟩ : FilePath).stages ++
      if x ≠ "" ∧ (x ≠ "." ∨ xs = []) then [⟨xs ++ [x]⟩] else [] :=
  starts_concat [] xs x

/-- A further piece is either skipped, or it is a dot in front, or it leads on. -/
theorem stages_concat_cases (xs : List String) (x : String) :
    ((⟨xs ++ [x]⟩ : FilePath).stages = (⟨xs⟩ : FilePath).stages ∧ onward (xs ++ [x]) = onward xs) ∨
    (xs = [] ∧ x = ".") ∨
    ((x ≠ "" ∧ x ≠ ".") ∧ onward (xs ++ [x]) = onward xs ++ [x] ∧
      (⟨xs ++ [x]⟩ : FilePath).stages = (⟨xs⟩ : FilePath).stages ++ [⟨xs ++ [x]⟩]) := by
  rw [stages_concat, onward_append]
  by_cases hempty : x = ""
  · exact Or.inl (by simp [hempty, onward])
  by_cases hdot : x = "."
  · by_cases hxs : xs = []
    · exact Or.inr (Or.inl ⟨hxs, hdot⟩)
    · exact Or.inl (by simp [hdot, hxs, onward])
  · refine Or.inr (Or.inr ⟨⟨hempty, hdot⟩, ?_, ?_⟩)
    · rw [onward_singleton ⟨hempty, hdot⟩]
    · rw [if_pos ⟨hempty, Or.inl hdot⟩]

/-- A stage is a start of the path that ends in a piece of its own. -/
theorem of_mem_stages (h : d ∈ p.stages) :
    d.pieces <+: p.pieces ∧ ∃ xs x, d.pieces = xs ++ [x] ∧ x ≠ "" := by
  obtain ⟨pieces⟩ := p
  induction pieces using List.reverseRecOn with
  | nil => simp [stages, starts] at h
  | append_singleton xs x ih =>
    rw [stages_concat, List.mem_append] at h
    rcases h with h | h
    · obtain ⟨hstart, hlast⟩ := ih h
      exact ⟨hstart.trans (List.prefix_append _ _), hlast⟩
    · split at h
      · rename_i hx
        obtain rfl := List.mem_singleton.mp h
        exact ⟨List.prefix_rfl, xs, x, rfl, hx.1⟩
      · simp at h

theorem isAbsolute_of_mem_stages (h : d ∈ p.stages) : d.isAbsolute = p.isAbsolute := by
  obtain ⟨⟨more, hmore⟩, xs, x, hd, hx⟩ := of_mem_stages h
  obtain ⟨pieces⟩ := p
  obtain ⟨dpieces⟩ := d
  subst hmore hd
  exact (isAbsolute_append xs hx more).symm

/-- The last stage leads where the path leads. -/
theorem onward_last_stage (p : FilePath) :
    p.stages.getLast?.elim [] (fun d => onward d.pieces) = onward p.pieces := by
  obtain ⟨pieces⟩ := p
  induction pieces using List.reverseRecOn with
  | nil => rfl
  | append_singleton xs x ih =>
    rcases stages_concat_cases xs x with ⟨hstages, honward⟩ | ⟨rfl, rfl⟩ | ⟨-, -, hstages⟩
    · rw [hstages, honward, ih]
    · decide
    · rw [hstages, List.getLast?_concat]
      rfl

/-- The directories on the way lead to places above. -/
theorem onward_of_mem_directories (h : d ∈ p.directories) :
    ∃ more, more ≠ [] ∧ onward p.pieces = onward d.pieces ++ more := by
  obtain ⟨pieces⟩ := p
  induction pieces using List.reverseRecOn with
  | nil => simp [directories, stages, starts] at h
  | append_singleton xs x ih =>
    rw [directories] at h
    rcases stages_concat_cases xs x with ⟨hstages, honward⟩ | ⟨rfl, rfl⟩ | ⟨-, honward, hstages⟩
    · rw [hstages] at h
      rw [honward]
      exact ih h
    · simp [stages, starts] at h
    · rw [hstages, List.dropLast_concat] at h
      obtain ⟨more, hmore⟩ := onward_prefix (of_mem_stages h).1
      exact ⟨more ++ [x], by simp, by rw [honward, ← hmore, List.append_assoc]⟩

/-- The last name, in a directory that the directories on the way lead to; or no name leads on. -/
theorem lastName?_cases (p : FilePath) :
    (∃ n xs, p.lastName? = some n ∧ n ≠ "" ∧ onward p.pieces = onward xs ++ [n] ∧
      p.directories = (⟨xs⟩ : FilePath).stages) ∨
    (p.lastName? = none ∧ (p.Plain → onward p.pieces = [])) := by
  obtain ⟨pieces⟩ := p
  induction pieces using List.reverseRecOn with
  | nil => exact Or.inr ⟨rfl, fun _ => rfl⟩
  | append_singleton xs x ih =>
    rw [lastName?, directories]
    rcases stages_concat_cases xs x with ⟨hstages, honward⟩ | ⟨rfl, rfl⟩ | ⟨hx, honward, hstages⟩
    · rw [hstages, honward]
      rcases ih with h | ⟨hlast, hnone⟩
      · exact Or.inl h
      · refine Or.inr ⟨hlast, fun hp => hnone ⟨fun h => hp.1 ?_, fun h => hp.2 ?_⟩⟩
        · exact List.mem_append_left _ h
        · exact List.mem_append_left _ h
    · exact Or.inr ⟨rfl, fun _ => by decide⟩
    · rw [hstages, List.getLast?_concat, List.dropLast_concat]
      by_cases hup : x = ".."
      · refine Or.inr ⟨by simp [hup], fun hp => absurd ?_ hp.1⟩
        exact List.mem_append_right _ (by simp [hup])
      · exact Or.inl ⟨x, xs, by simp [hx.2, hup], hx.1, honward, rfl⟩

/-! ### Places -/

theorem place_of_mem_directories (h : d ∈ p.directories) (here : Location) :
    ∃ more, more ≠ [] ∧ p.place here = d.place here ++ more := by
  obtain ⟨more, hmore, honward⟩ := onward_of_mem_directories h
  have habsolute := isAbsolute_of_mem_stages (List.dropLast_subset _ h)
  exact ⟨more, hmore, by rw [place, place, habsolute, honward, List.append_assoc]⟩

/-- A sibling is in the directory that the path is in. -/
theorem place_sibling {xs : List String} (hname : name ≠ "" ∧ name ≠ ".")
    (hdirectories : p.directories = (⟨xs⟩ : FilePath).stages) (here : Location) :
    (p.sibling name).place here = (if p.isAbsolute then [] else here) ++ onward xs ++ [name] := by
  have hlast := onward_last_stage ⟨xs⟩
  rw [← hdirectories] at hlast
  rw [sibling]
  cases hd : p.directories.getLast? with
  | none =>
    rw [hd] at hlast
    rw [← show [] = onward xs from hlast]
    dsimp only
    cases p.isAbsolute with
    | false =>
      show (if isAbsolute ⟨[name]⟩ = true then [] else here) ++ onward [name] = _
      rw [isAbsolute_singleton, onward_singleton hname]
      simp
    | true =>
      show (if isAbsolute ⟨["", name]⟩ = true then [] else here) ++ onward ([""] ++ [name]) = _
      rw [isAbsolute_cons_cons, onward_append, onward_singleton hname]
      simp [onward]
  | some d =>
    rw [hd] at hlast
    have hmem : d ∈ p.stages := List.dropLast_subset _ (List.mem_of_getLast? hd)
    obtain ⟨-, ys, y, hpieces, hy⟩ := of_mem_stages hmem
    have habsolute := isAbsolute_of_mem_stages hmem
    dsimp only
    rw [place, hpieces, isAbsolute_append ys hy, ← hpieces, habsolute, onward_append,
      onward_singleton hname, List.append_assoc]
    exact congrArg (fun l => _ ++ (l ++ [name])) hlast

/-- What is below is in the directory that the path is. -/
theorem place_below (hname : name ≠ "" ∧ name ≠ ".") (here : Location) :
    (p.below name).place here = p.place here ++ [name] := by
  obtain ⟨pieces⟩ := p
  cases pieces using List.reverseRecOn with
  | nil => simp [below, place, onward, hname, isAbsolute]
  | append_singleton xs x =>
    rw [below]
    dsimp only
    rw [List.getLast?_concat, List.dropLast_concat]
    by_cases hx : x = ""
    · subst hx
      rw [if_pos rfl, place, place, isAbsolute_concat xs name "", onward_append, onward_append,
        onward_singleton hname]
      simp [onward]
    · rw [if_neg (by simpa using hx), place, place, isAbsolute_append xs hx, onward_append,
        onward_singleton hname, List.append_assoc]

theorem length_append_tmp (n : String) : (n ++ ".tmp").length = n.length + 4 := by
  rw [String.length_append]
  rfl

theorem append_tmp_ne {s : String} (hs : s.length < 4) (n : String) : n ++ ".tmp" ≠ s := by
  rintro rfl
  rw [length_append_tmp] at hs
  omega

theorem append_tmp_leads (n : String) : n ++ ".tmp" ≠ "" ∧ n ++ ".tmp" ≠ "." :=
  ⟨append_tmp_ne (by decide) n, append_tmp_ne (by decide) n⟩

/-- The temporary file is a sibling, or below if the path has no name. -/
theorem place_temporary (p : FilePath) (here : Location) :
    (∃ dir n, p.place here = dir ++ [n] ∧ p.temporary.place here = dir ++ [n ++ ".tmp"]) ∨
      p.temporary.place here = p.place here ++ [".tmp"] := by
  rw [temporary]
  rcases p.lastName?_cases with ⟨n, xs, hlast, -, honward, hdirectories⟩ | ⟨hlast, -⟩
  · rw [hlast]
    dsimp only
    refine Or.inl ⟨_, n, ?_, place_sibling (append_tmp_leads n) hdirectories here⟩
    rw [place, honward, List.append_assoc]
  · rw [hlast]
    exact Or.inr (place_below (by decide) here)

theorem place_temporary_ne (p : FilePath) (here : Location) :
    p.temporary.place here ≠ p.place here := by
  rcases p.place_temporary here with ⟨dir, n, hplace, htemporary⟩ | htemporary
  · rw [hplace, htemporary]
    intro h
    have hname : n ++ ".tmp" = n := List.singleton_inj.mp (List.append_cancel_left h)
    have hlength := length_append_tmp n
    rw [hname] at hlength
    omega
  · rw [htemporary]
    simp

/-- The temporary file is not above the path. -/
theorem length_place_le (p : FilePath) (here : Location) :
    (p.place here).length ≤ (p.temporary.place here).length := by
  rcases p.place_temporary here with ⟨dir, n, hp, ht⟩ | ht
  · rw [hp, ht, List.length_append, List.length_append]
    exact Nat.le_refl _
  · rw [ht, List.length_append]
    exact Nat.le_add_right _ _

/-- Neither the path nor its temporary file is among the directories on the way. -/
theorem place_ne_of_mem_directories (h : d ∈ p.directories) (here : Location) :
    d.place here ≠ p.place here ∧ d.place here ≠ p.temporary.place here := by
  obtain ⟨more, hmore, hplace⟩ := place_of_mem_directories h here
  have hlength : (p.place here).length = (d.place here).length + more.length := by
    rw [hplace, List.length_append]
  have hpos := List.length_pos_iff.mpr hmore
  have htemporary := p.length_place_le here
  constructor
  · intro heq
    rw [heq] at hlength
    omega
  · intro heq
    rw [heq] at hlength
    omega

/-! ### Plain paths among themselves -/

theorem Plain.of_subset {xs : List String} (hp : p.Plain) (h : xs ⊆ p.pieces) :
    (⟨xs⟩ : FilePath).Plain :=
  ⟨fun hup => hp.1 (h hup), fun htop => hp.2 (h htop)⟩

theorem Plain.of_mem_stages (hp : p.Plain) (h : d ∈ p.stages) : d.Plain :=
  hp.of_subset (FilePath.of_mem_stages h).1.subset

theorem Plain.concat {xs : List String} (hxs : (⟨xs⟩ : FilePath).Plain)
    (hname : name ≠ ".." ∧ name ≠ topName) : (⟨xs ++ [name]⟩ : FilePath).Plain := by
  constructor
  · intro h
    rcases List.mem_append.mp h with h | h
    · exact hxs.1 h
    · exact hname.1 (List.mem_singleton.mp h).symm
  · intro h
    rcases List.mem_append.mp h with h | h
    · exact hxs.2 h
    · exact hname.2 (List.mem_singleton.mp h).symm

theorem Plain.sibling (hp : p.Plain) (hname : name ≠ ".." ∧ name ≠ topName) :
    (p.sibling name).Plain := by
  rw [FilePath.sibling]
  cases hd : p.directories.getLast? with
  | some d =>
    have hmem : d ∈ p.stages := List.dropLast_subset _ (List.mem_of_getLast? hd)
    exact Plain.concat (hp.of_mem_stages hmem) hname
  | none =>
    dsimp only
    split
    · exact Plain.concat (show (⟨[""]⟩ : FilePath).Plain by decide) hname
    · exact Plain.concat (show (⟨[]⟩ : FilePath).Plain by decide) hname

theorem Plain.temporary (hp : p.Plain) : p.temporary.Plain := by
  rw [FilePath.temporary]
  cases p.lastName? with
  | none =>
    refine Plain.concat (hp.of_subset ?_) (by decide)
    split
    · exact List.dropLast_subset _
    · exact List.Subset.refl _
  | some n => exact hp.sibling ⟨append_tmp_ne (by decide) n, append_tmp_ne (by decide) n⟩

end FilePath

namespace FileTree

variable {t t' : FileTree} {p : FilePath} {loc l dir : Location} {name : String}

/-! ### Where plain names lead -/

theorem step_plain (h : t.step loc name = .ok l)
    (hname : name ≠ "" ∧ name ≠ ".." ∧ name ≠ topName) :
    l = loc ++ FilePath.onward [name] := by
  unfold step at h
  obtain ⟨-, h⟩ := guard_eq_ok_iff.mp h
  rw [if_neg hname.2.2] at h
  split at h
  · rename_i hdot
    rw [← Except.ok.inj h, hdot]
    simp [FilePath.onward]
  · rename_i hdot
    rw [if_neg hname.2.1] at h
    obtain ⟨-, h⟩ := guard_eq_ok_iff.mp h
    obtain ⟨-, h⟩ := guard_eq_ok_iff.mp h
    rw [FilePath.onward_singleton ⟨hname.1, hdot⟩, Except.ok.inj h]

theorem walk_plain {names : List String} (h : t.walk loc names = .ok l)
    (hnames : ∀ n ∈ names, n ≠ "" ∧ n ≠ ".." ∧ n ≠ topName) :
    l = loc ++ FilePath.onward names := by
  induction names generalizing loc with
  | nil => exact (Except.ok.inj h).symm.trans (List.append_nil _).symm
  | cons n names ih =>
    obtain ⟨m, hstep, hrest⟩ := bind_eq_ok_iff.mp h
    have hm := step_plain hstep (hnames n List.mem_cons_self)
    rw [ih hrest fun x hx => hnames x (List.mem_cons_of_mem _ hx), hm, List.append_assoc,
      ← FilePath.onward_append, List.singleton_append]

theorem step_top (h : t.node? loc = some .directory) : t.step loc topName = .ok [] := by
  unfold step
  rw [if_neg (by simp [h]), if_pos rfl]

/-- The way of a path starts at the top or in the working directory. -/
theorem walk_way {names : List String}
    (h : t.walk loc ((if p.isAbsolute then [topName] else []) ++ names) = .ok l)
    (hnames : ∀ n ∈ names, n ≠ "" ∧ n ≠ ".." ∧ n ≠ topName) :
    l = (if p.isAbsolute then [] else loc) ++ FilePath.onward names := by
  cases habsolute : p.isAbsolute with
  | false =>
    rw [habsolute] at h
    exact walk_plain h hnames
  | true =>
    rw [habsolute] at h
    obtain ⟨m, hstep, hrest⟩ := bind_eq_ok_iff.mp h
    rw [step_top (directory_of_step hstep)] at hstep
    rw [← Except.ok.inj hstep] at hrest
    exact walk_plain hrest hnames

theorem names_plain (hp : p.Plain) :
    ∀ n ∈ p.pieces.filter (· ≠ ""), n ≠ "" ∧ n ≠ ".." ∧ n ≠ topName := by
  intro n hn
  obtain ⟨hmem, hne⟩ := List.mem_filter.mp hn
  exact ⟨by simpa using hne, fun h => hp.1 (h ▸ hmem), fun h => hp.2 (h ▸ hmem)⟩

theorem way_plain (hp : p.Plain) : ∀ n ∈ p.way, n ≠ "" ∧ n ≠ ".." ∧ n ≠ topName := by
  intro n hn
  rcases List.mem_append.mp hn with hn | hn
  · exact names_plain hp n hn
  · split at hn
    · obtain rfl := List.mem_singleton.mp hn
      decide
    · simp at hn

theorem place_of_locate (hp : p.Plain) (h : t.locate p = .ok l) : l = p.place t.here := by
  obtain ⟨-, -, hwalk⟩ := locate_eq_ok_iff.mp h
  rw [FilePath.steps_eq] at hwalk
  rw [walk_way hwalk (way_plain hp), FilePath.onward_way]
  rfl

theorem place_of_entrance (hp : p.Plain) (h : t.entrance p = .ok (dir, name))
    (hstanding : isStanding name = false) : dir ++ [name] = p.place t.here := by
  obtain ⟨-, hlast, hwalk, -, -⟩ := entrance_eq_ok_iff.mp h
  simp only [isStanding, Bool.or_eq_false_iff, decide_eq_false_iff_not] at hstanding
  have hne : p.pieces.filter (· ≠ "") ≠ [] := by
    intro hnil
    rw [FilePath.names, hnil, List.append_nil] at hlast
    split at hlast
    · exact hstanding.2 (Option.some.inj hlast).symm
    · simp at hlast
  rw [FilePath.names, List.dropLast_append_of_ne_nil hne] at hwalk
  rw [FilePath.names, List.getLast?_append_of_ne_nil _ hne] at hlast
  have hnames := names_plain hp
  have hsplit := List.dropLast_append_getLast? name hlast
  have hway := walk_way hwalk fun n hn => hnames n (List.dropLast_subset _ hn)
  have hname := hnames name (List.mem_of_getLast? hlast)
  rw [hway, FilePath.place, ← FilePath.onward_names p.pieces, ← hsplit, List.dropLast_concat,
    FilePath.onward_append, FilePath.onward_singleton ⟨hname.1, hstanding.1.1⟩, List.append_assoc]

/-! ### Other trees -/

/-- Names that lead on lead there in any tree with the same directories on the way. -/
theorem walk_of_plain (hdir : ∀ m, m <+: l → t.node? m = some .directory →
      t'.node? m = some .directory) (hl : t'.node? l ≠ none) {names : List String}
    (h : t.walk loc names = .ok l) (hnames : ∀ n ∈ names, n ≠ "" ∧ n ≠ ".." ∧ n ≠ topName) :
    t'.walk loc names = .ok l := by
  induction names generalizing loc with
  | nil => exact h
  | cons n names ih =>
    have hloc := hdir loc ⟨_, (walk_plain h hnames).symm⟩ (directory_of_walk h (by simp))
    obtain ⟨m, hstep, hrest⟩ := bind_eq_ok_iff.mp h
    have hrestnames : ∀ x ∈ names, _ := fun x hx => hnames x (List.mem_cons_of_mem _ hx)
    have hm : t'.node? m ≠ none := by
      by_cases hnil : names = []
      · subst hnil
        exact Except.ok.inj hrest ▸ hl
      · rw [hdir m ⟨_, (walk_plain hrest hrestnames).symm⟩ (directory_of_walk hrest hnil)]
        nofun
    exact bind_eq_ok_iff.mpr ⟨m, step_of_directory hstep hloc hm, ih hrest hrestnames⟩

end FileTree

end TrafficRouting
