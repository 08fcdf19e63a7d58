import TrafficRouting.Proofs.Toml.Key
import TrafficRouting.Proofs.Toml.Value

/-!
# TrafficRouting.Proofs.Toml.Lines — written documents read back line by line

`Reads t ls`: whatever stands behind the text `t`, its lines are read as `ls`.  This holds for the
line of a header, of a pair, and for an empty one, and `Reads.append` puts texts together.
`read_write` says what becomes of a whole document: the sections of its blocks are assembled.
-/

namespace TrafficRouting.Toml

variable {rest t u : List Char} {ls ms : List Line}

/-- The text has no mark in front, and its lines are read as `ls`, in so many turns at most as it
has characters. -/
structure Reads (t : List Char) (ls : List Line) : Prop where
  unmarked : t.head? ≠ some '\uFEFF'
  turns : ∃ k ≤ t.length, ∀ fuel rest,
    lines (fuel + k) (t ++ rest) = (lines fuel rest).map (ls ++ ·)

theorem Reads.nil : Reads [] [] where
  unmarked := by simp
  turns := ⟨0, Nat.le_refl 0, fun fuel rest => by simp⟩

theorem Reads.append (ht : Reads t ls) (hu : Reads u ms) : Reads (t ++ u) (ls ++ ms) where
  unmarked := by
    rw [List.head?_append]
    cases hh : t.head? with
    | none => exact hu.unmarked
    | some c => exact fun h => ht.unmarked (hh.trans h)
  turns := by
    obtain ⟨k, hk, hturns⟩ := ht.turns
    obtain ⟨m, hm, huturns⟩ := hu.turns
    -- what `t` leaves of the fuel is enough for `u`
    refine ⟨m + k, by simp only [List.length_append]; omega, fun fuel rest => ?_⟩
    rw [List.append_assoc, ← Nat.add_assoc, hturns, huturns, Option.map_map]
    simp only [Function.comp_def, List.append_assoc]

theorem Reads.flatMap {α : Type} {f : α → List Char} {g : α → List Line} {xs : List α}
    (h : ∀ x ∈ xs, Reads (f x) (g x)) : Reads (xs.flatMap f) (xs.flatMap g) := by
  induction xs with
  | nil => exact .nil
  | cons x xs ih =>
    rw [List.flatMap_cons, List.flatMap_cons]
    exact (h x List.mem_cons_self).append (ih fun y hy => h y (List.mem_cons_of_mem x hy))

/-- The whole document. -/
theorem Reads.lines_eq (h : Reads t ls) : lines (t.length + 1) t = some ls := by
  obtain ⟨k, hk, hturns⟩ := h.turns
  have hfuel : t.length + 1 = (t.length - k + 1) + k := by omega
  have ht := hturns (t.length - k + 1) []
  rw [List.append_nil] at ht
  rw [hfuel, ht]
  simp [lines, skipSpace]

/-! ### One line -/

/-- An empty line says nothing. -/
theorem reads_newline : Reads ['\n'] [] where
  unmarked := by decide
  turns := by
    refine ⟨1, Nat.le_refl 1, fun fuel rest => ?_⟩
    have hline : lines (fuel + 1) ('\n' :: rest) = lines fuel rest := rfl
    rw [List.singleton_append, hline]
    simp

/-- A line that says something, up to its end. -/
theorem reads_line {c : Char} {t : List Char} {l : Line}
    (hc : isSpace c = false ∧ c ≠ '\n' ∧ c ≠ '\r' ∧ c ≠ '#' ∧ c ≠ '\uFEFF')
    (hline : ∀ rest, line (c :: (t ++ rest)) = some (l, '\n' :: rest)) : Reads (c :: t) [l] where
  unmarked h := hc.2.2.2.2 (Option.some.inj h)
  turns := by
    refine ⟨1, Nat.le_add_left 1 _, fun fuel rest => ?_⟩
    have hend : endOfLine ('\n' :: rest) = some rest := rfl
    rw [List.cons_append, lines, skipSpace_cons hc.1]
    dsimp only
    rw [if_neg (by simp [hc]), hline]
    simp only [Option.bind_eq_bind, Option.bind_some, hend, Option.pure_def]
    cases lines fuel rest <;> rfl

/-- What stands in front of the value of a pair. -/
theorem skipSpace_write (layout : Layout) (c : Content) (rest : List Char) :
    skipSpace (c.write layout ++ rest) = c.write layout ++ rest := by
  have hhead : ∃ d t, c.write layout = d :: t ∧ isSpace d = false := by
    cases c with
    | text s =>
      obtain ⟨d, t, ht, hd⟩ := writeText_eq_cons s
      exact ⟨d, t, ht, by rcases hd with rfl | rfl <;> rfl⟩
    | texts ss =>
      rw [Content.write]
      split
      · exact ⟨'[', _, rfl, rfl⟩
      · exact ⟨'[', _, rfl, rfl⟩
  obtain ⟨d, t, ht, hd⟩ := hhead
  rw [ht, List.cons_append, skipSpace_cons hd]

theorem line_writePair (layout : Layout) (p : String × Content) (rest : List Char) :
    line (writePair layout p ++ rest) = some (.pair [p.1] p.2.toValue, '\n' :: rest) := by
  obtain ⟨k, c⟩ := p
  have hpath : path (writeKey k ++ (' ' :: '=' :: ' ' :: (c.write layout ++ '\n' :: rest))) =
      some ([k], '=' :: ' ' :: (c.write layout ++ '\n' :: rest)) := by
    have hone : writePath [k] = writeKey k := by simp [writePath]
    rw [← hone]
    refine path_writePath (by simp) (by simp [depthLimit]) (fun d hd => ?_) (fun h => ?_)
    · obtain rfl : ' ' = d := Option.some.inj hd
      rfl
    · exact absurd (Option.some.inj (show some '=' = some '.' from h)) (by decide)
  have hvalue : value depthLimit (c.write layout ++ '\n' :: rest) =
      some (c.toValue, '\n' :: rest) :=
    value_write layout c (unquoted_cons (by decide))
  have hpair : pair (value depthLimit) (writePair layout (k, c) ++ rest) =
      some (([k], c.toValue), '\n' :: rest) := by
    simp only [writePair, List.append_assoc, List.cons_append, List.nil_append]
    rw [pair, hpath]
    simp [char, skipSpace_space, skipSpace_write, hvalue]
  obtain ⟨d, t, ht, -⟩ := writeKey_eq_cons k
  have hline : line (writePair layout (k, c) ++ rest) =
      (pair (value depthLimit) (writePair layout (k, c) ++ rest)).map
        fun r => (.pair r.1.1 r.1.2, r.2) := by
    rw [writePair, ht, List.cons_append, List.cons_append, line]
    -- no key begins with a bracket, so the line is no header
    intro tail heq
    exact absurd (List.cons.inj heq).1 (head_writeKey ht).2.1
  rw [hline, hpair]
  rfl

theorem reads_writePair (layout : Layout) (p : String × Content) :
    Reads (writePair layout p) [.pair [p.1] p.2.toValue] := by
  obtain ⟨c, t, ht, hc⟩ := writeKey_eq_cons p.1
  have hhead := head_writeKey ht
  have hpair : writePair layout p = c :: (t ++ [' ', '=', ' '] ++ p.2.write layout ++ ['\n']) := by
    simp [writePair, ht]
  have hmark : c ≠ '\uFEFF' := by
    rintro rfl
    revert hc
    decide
  rw [hpair]
  refine reads_line ⟨hhead.1, hhead.2.2.1, hhead.2.2.2.1, hhead.2.2.2.2, hmark⟩ fun rest => ?_
  rw [← List.cons_append, ← hpair]
  exact line_writePair layout p rest

theorem path_header {path : List String} (hne : path ≠ []) (hdepth : path.length < depthLimit)
    (rest : List Char) : Toml.path (writePath path ++ ']' :: rest) = some (path, ']' :: rest) := by
  refine path_writePath hne hdepth (fun c hc => ?_) (fun h => ?_)
  · obtain rfl : ']' = c := Option.some.inj hc
    rfl
  · exact absurd (Option.some.inj (show some ']' = some '.' from h)) (by decide)

theorem writePath_eq_cons {path : List String} (hne : path ≠ []) :
    ∃ c t, writePath path = c :: t ∧ c ≠ '[' := by
  obtain ⟨k, ks, rfl⟩ := List.exists_cons_of_ne_nil hne
  obtain ⟨c, t, ht, -⟩ := writeKey_eq_cons k
  have hc : c ≠ '[' := (head_writeKey ht).2.1
  by_cases hks : ks = []
  · subst ks
    exact ⟨c, t, by simp [writePath, ht], hc⟩
  · exact ⟨c, t ++ '.' :: writePath ks, by rw [writePath_cons hks, ht, List.cons_append], hc⟩

theorem line_bracket (r : List Char) : line ('[' :: r) = header ('[' :: r) := rfl

theorem reads_writeHeader {h : HeaderKind × List String} (hne : h.2 ≠ [])
    (hdepth : h.2.length < depthLimit) : Reads (writeHeader h) [.header h.1 h.2] := by
  obtain ⟨kind, path⟩ := h
  cases kind with
  | single =>
    refine reads_line (by decide) fun rest => ?_
    have hpath := path_header hne hdepth ('\n' :: rest)
    obtain ⟨c, t, ht, hc⟩ := writePath_eq_cons hne
    have hheader : header ('[' :: (writePath path ++ ']' :: '\n' :: rest)) =
        (Toml.path (writePath path ++ ']' :: '\n' :: rest)).bind fun r =>
          (char ']' r.2).bind fun s => some (.header .single r.1, s) := by
      rw [ht, List.cons_append, header]
      · rfl
      · intro tail heq
        exact absurd (List.cons.inj heq).1 hc
    have happend : '[' :: (writePath path ++ [']', '\n'] ++ rest) =
        '[' :: (writePath path ++ ']' :: '\n' :: rest) := by simp
    show line ('[' :: (writePath path ++ [']', '\n'] ++ rest)) = _
    rw [happend, line_bracket, hheader, hpath]
    rfl
  | repeated =>
    refine reads_line (by decide) fun rest => ?_
    have hpath := path_header hne hdepth (']' :: '\n' :: rest)
    have happend : '[' :: '[' :: (writePath path ++ [']', ']', '\n'] ++ rest) =
        '[' :: '[' :: (writePath path ++ ']' :: ']' :: '\n' :: rest) := by simp
    show line ('[' :: '[' :: (writePath path ++ [']', ']', '\n'] ++ rest)) = _
    rw [happend, line_bracket, header, hpath]
    rfl

/-! ### Blocks -/

/-- The pairs of a block as they are read. -/
def Block.values (b : Block) : List (List String × Value) :=
  b.pairs.map fun p => ([p.1], p.2.toValue)

/-- The lines of a block as they are read. -/
def Block.lines (b : Block) : List Line :=
  (b.header.map fun h => [.header h.1 h.2]).getD [] ++ b.values.map fun p => .pair p.1 p.2

/-- The header of a block, if any, names a table that is not too deep. -/
def Block.Shallow (b : Block) : Prop :=
  ∀ h, b.header = some h → h.2 ≠ [] ∧ h.2.length < depthLimit

theorem reads_block (layout : Layout) {b : Block} (h : b.Shallow) :
    Reads (b.write layout) b.lines := by
  have hpairs : Reads (b.pairs.flatMap (writePair layout))
      (b.values.map fun p => .pair p.1 p.2) := by
    rw [Block.values, List.map_map, List.map_eq_flatMap]
    exact Reads.flatMap fun p _ => reads_writePair layout p
  unfold Block.write Block.lines
  refine Reads.append ?_ hpairs
  cases hh : b.header with
  | none => exact .nil
  | some header => exact reads_writeHeader (h header hh).1 (h header hh).2

theorem reads_write (layout : Layout) {bs : List Block} (h : ∀ b ∈ bs, b.Shallow) :
    Reads (write layout bs) (bs.flatMap Block.lines) := by
  induction bs with
  | nil => exact .nil
  | cons b bs ih =>
    have hb := reads_block layout (h b List.mem_cons_self)
    have hbs := ih fun c hc => h c (List.mem_cons_of_mem b hc)
    cases bs with
    | nil =>
      have hone : write layout [b] = b.write layout := by simp [write]
      rw [hone, List.flatMap_singleton]
      exact hb
    | cons c bs =>
      have hcons : write layout (b :: c :: bs) =
          b.write layout ++ ['\n'] ++ write layout (c :: bs) := by
        simp [write]
      have hlines : (b :: c :: bs).flatMap Block.lines =
          b.lines ++ [] ++ (c :: bs).flatMap Block.lines := by simp
      rw [hcons, hlines]
      exact (hb.append reads_newline).append hbs

/-- The pairs in front of the first header, and the sections below the headers. -/
def blockSections : List Block → List (List String × Value) × List Section
  | [] => ([], [])
  | b :: rest =>
    let r := blockSections rest
    match b.header with
    | none => (b.values ++ r.1, r.2)
    | some h => ([], ⟨h.1, h.2, b.values ++ r.1⟩ :: r.2)

theorem sections_pairs (ps : List (List String × Value)) (ls : List Line) :
    sections (ps.map (fun p => .pair p.1 p.2) ++ ls) = (ps ++ (sections ls).1, (sections ls).2) := by
  induction ps with
  | nil => rfl
  | cons p ps ih => rw [List.map_cons, List.cons_append, sections, ih, List.cons_append]

theorem sections_flatMap_lines (bs : List Block) :
    sections (bs.flatMap Block.lines) = blockSections bs := by
  induction bs with
  | nil => rfl
  | cons b bs ih =>
    rw [List.flatMap_cons, Block.lines, blockSections]
    cases b.header with
    | none => rw [← ih]; exact sections_pairs b.values _
    | some h =>
      have hpairs := sections_pairs b.values (bs.flatMap Block.lines)
      rw [ih] at hpairs
      rw [Option.map_some, Option.getD_some, List.append_assoc, List.singleton_append, sections,
        hpairs]

/-- **Documents read back**: what was written is assembled from the sections of its blocks. -/
theorem read_write (layout : Layout) {bs : List Block} (h : ∀ b ∈ bs, b.Shallow) :
    read (write layout bs) = assemble (blockSections bs).1 (blockSections bs).2 := by
  have hreads := reads_write layout h
  have hmark : dropMark (write layout bs) = write layout bs := by
    have hunmarked := hreads.unmarked
    unfold dropMark
    split
    · rename_i heq
      rw [heq] at hunmarked
      exact absurd rfl hunmarked
    · rfl
  rw [read, hmark, hreads.lines_eq, Option.bind_eq_bind, Option.bind_some, sections_flatMap_lines]

end TrafficRouting.Toml
