import TrafficRouting.Toml.Printer

/-!
# TrafficRouting.Proofs.Toml.Quoted — written strings read back

`quotedText_writeText`: the reader of strings gives back any text that was written, with the rest
of the document behind it, unless that rest begins with one more quote.  Each of the four ways to
write a string has a lemma about the reader that stands behind its opening quotes.
-/

namespace TrafficRouting.Toml

variable {s rest : List Char} {c : Char}

@[simp] theorem push_some (c : Char) (cs rest : List Char) :
    push c (some (cs, rest)) = some (c :: cs, rest) := rfl

@[simp] theorem pushQuotes_some (q : Char) (n : Nat) (cs rest : List Char) :
    pushQuotes q n (some (cs, rest)) = some (List.replicate n q ++ cs, rest) := rfl

/-! ### One character between double quotes -/

/-- The digits of a control character, by value. -/
theorem digitValue?_hex4 : ∀ n < 128, (hex4 n).map (Text.digitValue? 16) =
    [some 0, some 0, some (n / 16), some (n % 16)] := by
  decide +kernel

theorem hex4_eq {n : Nat} (h : n < 128) : ∃ a b d e, hex4 n = [a, b, d, e] ∧
    Text.digitValue? 16 a = some 0 ∧ Text.digitValue? 16 b = some 0 ∧
    Text.digitValue? 16 d = some (n / 16) ∧ Text.digitValue? 16 e = some (n % 16) := by
  have hmap := digitValue?_hex4 n h
  obtain ⟨a, l, hl, ha, hmap⟩ := List.map_eq_cons_iff.mp hmap
  obtain ⟨b, l, rfl, hb, hmap⟩ := List.map_eq_cons_iff.mp hmap
  obtain ⟨d, l, rfl, hd, hmap⟩ := List.map_eq_cons_iff.mp hmap
  obtain ⟨e, l, rfl, he, hmap⟩ := List.map_eq_cons_iff.mp hmap
  rw [List.map_eq_nil_iff.mp hmap] at hl
  exact ⟨a, b, d, e, hl, ha, hb, hd, he⟩

theorem charOfCode?_toNat (c : Char) : Text.charOfCode? c.toNat = some c := by
  have hv : c.toNat.isValidChar := c.valid
  rw [Text.charOfCode?, if_pos hv, Char.ofNat_toNat]

/-- A reader that collects digits like this reads the number of a control character as the
character. -/
theorem body_code {body : Mode → List Char → Option (List Char × List Char)}
    (hdigit : ∀ left value x d r, Text.digitValue? 16 x = some d → left ≠ 1 →
      body (.code left value) (x :: r) = body (.code (left - 1) (16 * value + d)) r)
    (hlast : ∀ value x d y r, Text.digitValue? 16 x = some d →
      Text.charOfCode? (16 * value + d) = some y →
      body (.code 1 value) (x :: r) = push y (body (.plain 0) r))
    (hc : c.toNat < 128) :
    body (.code 4 0) (hex4 c.toNat ++ rest) = push c (body (.plain 0) rest) := by
  obtain ⟨a, b, d, e, hhex, ha, hb, hd, he⟩ := hex4_eq hc
  -- two zeros in front, then the two digits of a number below 128
  have hn : 16 * (16 * (16 * (16 * 0 + 0) + 0) + c.toNat / 16) + c.toNat % 16 = c.toNat := by omega
  rw [hhex]
  simp only [List.cons_append, List.nil_append]
  rw [hdigit _ _ _ _ _ ha (by decide), hdigit _ _ _ _ _ hb (by decide),
    hdigit _ _ _ _ _ hd (by decide)]
  refine hlast _ _ _ _ _ he ?_
  rw [hn]
  exact charOfCode?_toNat c

/-- A character is written by a letter, by its number, or as it is. -/
theorem escaped_cases (c : Char) :
    (∃ x, escaped c = ['\\', x] ∧ escapeLetter x = some (.inl c) ∧
      isSpace x = false ∧ x ≠ '\n' ∧ x ≠ '\r') ∨
    (escaped c = '\\' :: 'u' :: hex4 c.toNat ∧ c.toNat < 128) ∨
    (escaped c = [c] ∧ textChar c = true ∧ c ≠ '"' ∧ c ≠ '\\' ∧ c ≠ '\n' ∧ c ≠ '\r') := by
  by_cases hletter : c ∈ ['\x08', '\t', '\n', '\x0c', '\r', '"', '\\']
  · refine Or.inl ?_
    simp only [List.mem_cons, List.not_mem_nil, or_false] at hletter
    rcases hletter with rfl | rfl | rfl | rfl | rfl | rfl | rfl
    · exact ⟨'b', by decide⟩
    · exact ⟨'t', by decide⟩
    · exact ⟨'n', by decide⟩
    · exact ⟨'f', by decide⟩
    · exact ⟨'r', by decide⟩
    · exact ⟨'"', by decide⟩
    · exact ⟨'\\', by decide⟩
  · simp only [List.mem_cons, List.not_mem_nil, or_false, not_or] at hletter
    obtain ⟨h1, h2, h3, h4, h5, h6, h7⟩ := hletter
    refine Or.inr ?_
    unfold escaped
    rw [if_neg h1, if_neg h2, if_neg h3, if_neg h4, if_neg h5, if_neg h6, if_neg h7]
    by_cases hcode : c.toNat < 0x20 ∨ c.toNat = 0x7F
    · exact Or.inl ⟨if_pos hcode, by omega⟩
    · refine Or.inr ⟨if_neg hcode, ?_, h6, h7, h3, h5⟩
      simp only [textChar, Bool.or_eq_true, Bool.and_eq_true, decide_eq_true_eq]
      omega

/-- The reader of strings on one line takes what one character was written as for this one. -/
theorem basicBody_escaped (c : Char) (rest : List Char) :
    basicBody (.plain 0) (escaped c ++ rest) = push c (basicBody (.plain 0) rest) := by
  obtain ⟨x, hx, hletter, -⟩ | ⟨hx, hc⟩ | ⟨hx, htext, hquote, hslash, -⟩ := escaped_cases c
  · simp [hx, basicBody, hletter]
  · have hcode : basicBody (.plain 0) ('\\' :: 'u' :: (hex4 c.toNat ++ rest)) =
        basicBody (.code 4 0) (hex4 c.toNat ++ rest) := by
      simp [basicBody, escapeLetter]
    rw [hx, List.cons_append, List.cons_append, hcode]
    refine body_code (fun left value x d r hd hleft => ?_) (fun value x d y r hd hy => ?_) hc
    · simp [basicBody, hd, hleft]
    · simp [basicBody, hd, hy]
  · simp [hx, basicBody, hquote, hslash, htext]

theorem tripleBasicBody_plain (n : Nat) (hn : c ≠ '\n') (hr : c ≠ '\r') :
    tripleBasicBody (.plain n) (c :: rest) =
      if c = '"' then
        if n = 2 then some (closing '"' rest) else tripleBasicBody (.plain (n + 1)) rest
      else pushQuotes '"' n <|
        if c = '\\' then tripleBasicBody .escape rest
        else if textChar c then push c (tripleBasicBody (.plain 0) rest)
        else none := by
  rw [tripleBasicBody.eq_def]
  simp only [if_neg hn, if_neg hr]

theorem tripleBasicBody_escape (hspace : isSpace c = false) (hn : c ≠ '\n') (hr : c ≠ '\r') :
    tripleBasicBody .escape (c :: rest) =
      match escapeLetter c with
      | some (.inl d) => push d (tripleBasicBody (.plain 0) rest)
      | some (.inr n) => tripleBasicBody (.code n 0) rest
      | none => none := by
  rw [tripleBasicBody.eq_def]
  exact (if_neg (by simp [hspace])).trans ((if_neg hn).trans (if_neg hr))

/-- So does the reader between tripled quotes; quotes in front of it belong to the text. -/
theorem tripleBasicBody_escaped (n : Nat) (c : Char) (rest : List Char) :
    tripleBasicBody (.plain n) (escaped c ++ rest) =
      pushQuotes '"' n (push c (tripleBasicBody (.plain 0) rest)) := by
  have hslash (r : List Char) : tripleBasicBody (.plain n) ('\\' :: r) =
      pushQuotes '"' n (tripleBasicBody .escape r) :=
    tripleBasicBody_plain n (by decide) (by decide)
  obtain ⟨x, hx, hletter, hspace, hn, hr⟩ | ⟨hx, hc⟩ | ⟨hx, htext, hquote, hplain, hn, hr⟩ :=
    escaped_cases c
  · rw [hx, List.cons_append, List.cons_append, List.nil_append, hslash,
      tripleBasicBody_escape hspace hn hr, hletter]
  · have hu : tripleBasicBody .escape ('u' :: (hex4 c.toNat ++ rest)) =
        tripleBasicBody (.code 4 0) (hex4 c.toNat ++ rest) :=
      tripleBasicBody_escape (by decide) (by decide) (by decide)
    rw [hx, List.cons_append, List.cons_append, hslash, hu]
    refine congrArg _ (body_code (fun left value x d r hd hleft => ?_)
      (fun value x d y r hd hy => ?_) hc)
    · simp [tripleBasicBody, hd, hleft]
    · simp [tripleBasicBody, hd, hy]
  · rw [hx, List.cons_append, List.nil_append, tripleBasicBody_plain n hn hr, if_neg hquote,
      if_neg hplain, if_pos htext]

/-! ### Whole texts, behind their opening quotes -/

theorem basicBody_flatMap_escaped (s rest : List Char) :
    basicBody (.plain 0) (s.flatMap escaped ++ '"' :: rest) = some (s, rest) := by
  induction s with
  | nil => rfl
  | cons c s ih => rw [List.flatMap_cons, List.append_assoc, basicBody_escaped, ih, push_some]

theorem literalBody_append (hs : ∀ c ∈ s, textChar c = true) (hquote : '\'' ∉ s) :
    literalBody (s ++ '\'' :: rest) = some (s, rest) := by
  induction s with
  | nil => rfl
  | cons c s ih =>
    have hc : c ≠ '\'' := fun h => hquote (h ▸ List.mem_cons_self)
    rw [List.cons_append, literalBody, if_neg hc, if_pos (hs c List.mem_cons_self),
      ih (fun d hd => hs d (List.mem_cons_of_mem c hd)) fun h => hquote (List.mem_cons_of_mem c h),
      push_some]

/-- Up to two quotes in front of three that close a string belong to its text. -/
theorem closing_replicate (q : Char) {n : Nat} (hn : n ≤ 2) (h : rest.head? ≠ some q) :
    closing q (List.replicate n q ++ rest) = (List.replicate n q, rest) := by
  have hnil : closing q rest = ([], rest) := by
    match rest, h with
    | [], _ => rfl
    | [a], h => simp_all [closing]
    | a :: b :: rest, h => simp_all [closing]
  match n, hn with
  | 0, _ => exact hnil
  | 1, _ =>
    match rest, h with
    | [], _ => simp [closing]
    | b :: rest, h => simp_all [closing]
  | 2, _ => simp [closing, List.replicate]

/-- A reader that counts quotes like this stops at three of them; those in front belong to the
text. -/
theorem body_three_quotes {q : Char} {body : Nat → List Char → Option (List Char × List Char)}
    (hquote : ∀ n r, body n (q :: r) = if n = 2 then some (closing q r) else body (n + 1) r)
    {n : Nat} (hn : n ≤ 2) (h : rest.head? ≠ some q) :
    body n (q :: q :: q :: rest) = some (List.replicate n q, rest) := by
  have hclose := closing_replicate q hn h
  match n, hn with
  | 0, _ => simpa [hquote] using hclose
  | 1, _ => simpa [hquote] using hclose
  | 2, _ => simpa [hquote, List.replicate] using hclose

/-- Text between tripled double quotes, with the quotes that stood in front of it. -/
theorem tripleBasicBody_tripleEscaped (s : List Char) {n : Nat} (hn : n ≤ 2)
    (h : rest.head? ≠ some '"') :
    tripleBasicBody (.plain n) (tripleEscaped n s ++ '"' :: '"' :: '"' :: rest) =
      some (List.replicate n '"' ++ s, rest) := by
  have hquote (n : Nat) (r : List Char) : tripleBasicBody (.plain n) ('"' :: r) =
      if n = 2 then some (closing '"' r) else tripleBasicBody (.plain (n + 1)) r :=
    tripleBasicBody_plain n (by decide) (by decide)
  induction s generalizing n with
  | nil =>
    rw [List.append_nil]
    exact body_three_quotes hquote hn h
  | cons c s ih =>
    unfold tripleEscaped
    split
    · subst c
      split
      -- the third quote in a row would end the text, so it is written as an escape
      · subst n
        have hesc := tripleBasicBody_escaped 2 '"' (tripleEscaped 0 s ++ '"' :: '"' :: '"' :: rest)
        rw [ih (by omega)] at hesc
        exact hesc
      · rename_i hne
        rw [List.cons_append, hquote, if_neg hne, ih (by omega), List.replicate_succ',
          List.append_assoc]
        rfl
    · split
      · subst c
        rw [List.cons_append, tripleBasicBody.eq_def]
        simp [ih]
      · rw [List.append_assoc, tripleBasicBody_escaped, ih (by omega)]
        rfl

theorem hasTriple_of_append {q : Char} : ∀ {a b : List Char}, hasTriple q (a ++ b) = false →
    hasTriple q b = false
  | [], _, h => h
  | x :: a, b, h => by
    refine hasTriple_of_append (a := a) ?_
    match hab : a ++ b with
    | [] => rfl
    | [y] => rfl
    | y :: z :: r =>
      rw [List.cons_append, hab, hasTriple, Bool.or_eq_false_iff] at h
      exact h.2

/-- Text between tripled single quotes, with the quotes that stood in front of it. -/
theorem tripleLiteralBody_append {n : Nat} (hn : n ≤ 2) (hs : ∀ c ∈ s, textChar c = true ∨ c = '\n')
    (htriple : hasTriple '\'' (List.replicate n '\'' ++ s) = false) (h : rest.head? ≠ some '\'') :
    tripleLiteralBody n (s ++ '\'' :: '\'' :: '\'' :: rest) =
      some (List.replicate n '\'' ++ s, rest) := by
  have hquote (n : Nat) (r : List Char) : tripleLiteralBody n ('\'' :: r) =
      if n = 2 then some (closing '\'' r) else tripleLiteralBody (n + 1) r := by
    rw [tripleLiteralBody.eq_def]
    rfl
  induction s generalizing n with
  | nil =>
    rw [List.append_nil]
    exact body_three_quotes hquote hn h
  | cons c s ih =>
    have hrest : ∀ d ∈ s, textChar d = true ∨ d = '\n' := fun d hd =>
      hs d (List.mem_cons_of_mem c hd)
    have hpast : hasTriple '\'' (List.replicate 0 '\'' ++ s) = false :=
      hasTriple_of_append (a := List.replicate n '\'' ++ [c]) (by simpa using htriple)
    by_cases hc : c = '\''
    · subst c
      -- nothing can escape a third quote here, but there is none
      have hne : n ≠ 2 := by
        rintro rfl
        simp [List.replicate, hasTriple] at htriple
      rw [List.cons_append, hquote, if_neg hne, ih (by omega) hrest, List.replicate_succ',
        List.append_assoc]
      · rfl
      · rwa [List.replicate_succ', List.append_assoc]
    · have hr : c ≠ '\r' := by
        rintro rfl
        exact absurd (hs _ List.mem_cons_self) (by decide)
      rw [List.cons_append, tripleLiteralBody.eq_def]
      simp only [if_neg hc, if_neg hr, ih (Nat.zero_le 2) hrest hpast]
      by_cases hn : c = '\n'
      · subst c
        rfl
      · rw [if_neg hn, if_pos ((hs c List.mem_cons_self).resolve_right hn)]
        rfl

/-! ### Texts in the way that is chosen for them -/

/-- The texts that a way can write: without escapes, quotes must not end the text. -/
def Quoting.Fits (s : List Char) : Quoting → Prop
  | .basic | .tripleBasic => True
  | .literal => (∀ c ∈ s, textChar c = true) ∧ '\'' ∉ s
  | .tripleLiteral => (∀ c ∈ s, textChar c = true ∨ c = '\n') ∧ hasTriple '\'' s = false

theorem textChar_of_not_isControl (h : isControl c = false) : textChar c = true ∨ c = '\n' := by
  by_cases ht : c = '\t'
  · subst c
    exact Or.inl rfl
  · by_cases hn : c = '\n'
    · exact Or.inr hn
    · simp only [isControl, ht, hn, Bool.or_eq_false_iff, Bool.and_eq_false_iff,
        decide_eq_false_iff_not, ne_eq, not_false_eq_true, decide_true,
        Bool.true_eq_false, or_false] at h
      left
      simp only [textChar, Bool.or_eq_true, Bool.and_eq_true, decide_eq_true_eq]
      omega

theorem textChar_of_quoting (h : s.any isControl = false) :
    ∀ c ∈ s, textChar c = true ∨ c = '\n' := fun c hc =>
  textChar_of_not_isControl (by simpa using List.any_eq_false.mp h c hc)

/-- The chosen way can write the text. -/
theorem fits_quoting (s : List Char) : (quoting s).Fits s := by
  unfold quoting
  dsimp only
  split
  · trivial
  · split
    · rename_i h
      simp only [Bool.and_eq_true, Bool.not_eq_true', List.contains_eq_mem,
        decide_eq_false_iff_not] at h
      obtain ⟨⟨hcontrol, hquote⟩, hline⟩ := h
      refine ⟨fun c hc => (textChar_of_quoting hcontrol c hc).resolve_right ?_, hquote⟩
      rintro rfl
      exact hline hc
    · split
      · trivial
      · split
        · rename_i h
          simp only [Bool.and_eq_true, Bool.not_eq_true'] at h
          exact ⟨textChar_of_quoting h.1, h.2⟩
        · split <;> trivial

/-- What stands behind tripled quotes is read without the line break that was put there. -/
theorem dropBreak_openingBreak {t : List Char}
    (h : '\n' ∉ s → ∀ c, t.head? = some c → c ≠ '\n' ∧ c ≠ '\r') :
    dropBreak (openingBreak s ++ t) = t := by
  unfold openingBreak
  by_cases hs : '\n' ∈ s
  · simp [hs, dropBreak]
  · simp only [List.contains_eq_mem, hs, decide_false, Bool.false_eq_true, if_false,
      List.nil_append]
    have h := h hs
    match t with
    | [] => rfl
    | c :: t =>
      obtain ⟨hn, hr⟩ := h c rfl
      unfold dropBreak
      split <;> simp_all

/-- The first character that a text is written as is no line break, unless the text has one. -/
theorem head?_tripleEscaped {d : Char} (hs : '\n' ∉ s)
    (h : (tripleEscaped 0 s ++ '"' :: '"' :: '"' :: rest).head? = some d) :
    d ≠ '\n' ∧ d ≠ '\r' := by
  cases s with
  | nil =>
    obtain rfl : '"' = d := Option.some.inj h
    decide
  | cons c s =>
    have hc : c ≠ '\n' := fun h => hs (h ▸ List.mem_cons_self)
    unfold tripleEscaped at h
    by_cases hquote : c = '"'
    · rw [if_pos hquote, if_neg (by decide)] at h
      obtain rfl : '"' = d := Option.some.inj h
      decide
    · rw [if_neg hquote, if_neg hc] at h
      obtain ⟨x, hx, -⟩ | ⟨hx, -⟩ | ⟨hx, -, -, -, hn, hr⟩ := escaped_cases c
      · rw [hx] at h
        obtain rfl : '\\' = d := Option.some.inj h
        decide
      · rw [hx] at h
        obtain rfl : '\\' = d := Option.some.inj h
        decide
      · rw [hx] at h
        obtain rfl : c = d := Option.some.inj h
        exact ⟨hn, hr⟩

/-- Double quotes open a string on one line unless two more follow. -/
theorem quotedChars_double (h : rest.take 2 ≠ ['"', '"']) :
    quotedChars ('"' :: rest) = basicBody (.plain 0) rest := by
  unfold quotedChars
  split <;> simp_all

theorem quotedChars_single (h : rest.take 2 ≠ ['\'', '\'']) :
    quotedChars ('\'' :: rest) = literalBody rest := by
  unfold quotedChars
  split <;> simp_all

theorem writeAs_basic (s rest : List Char) :
    writeAs s .basic ++ rest = '"' :: (s.flatMap escaped ++ '"' :: rest) := by
  simp [writeAs]

theorem writeAs_literal (s rest : List Char) :
    writeAs s .literal ++ rest = '\'' :: (s ++ '\'' :: rest) := by
  simp [writeAs]

theorem quotedChars_writeAs {way : Quoting} (hs : way.Fits s) (hdouble : rest.head? ≠ some '"')
    (hsingle : rest.head? ≠ some '\'') : quotedChars (writeAs s way ++ rest) = some (s, rest) := by
  cases way with
  | basic =>
    have htake : (s.flatMap escaped ++ '"' :: rest).take 2 ≠ ['"', '"'] := by
      cases s with
      | nil => cases rest <;> simp_all
      | cons c s =>
        obtain ⟨x, hx, -⟩ | ⟨hx, -⟩ | ⟨hx, -, hquote, -⟩ := escaped_cases c <;>
          simp_all
    rw [writeAs_basic, quotedChars_double htake, basicBody_flatMap_escaped]
  | literal =>
    have htake : (s ++ '\'' :: rest).take 2 ≠ ['\'', '\''] := by
      cases s with
      | nil => cases rest <;> simp_all
      | cons c s =>
        have hc : c ≠ '\'' := fun h => hs.2 (h ▸ List.mem_cons_self)
        simp [hc]
    rw [writeAs_literal, quotedChars_single htake, literalBody_append hs.1 hs.2]
  | tripleBasic =>
    rw [writeAs]
    simp only [List.append_assoc, List.cons_append, List.nil_append]
    rw [quotedChars, dropBreak_openingBreak fun hn d hd => head?_tripleEscaped hn hd,
      tripleBasicBody_tripleEscaped s (Nat.zero_le 2) hdouble]
    rfl
  | tripleLiteral =>
    have hfirst : '\n' ∉ s → ∀ d, (s ++ '\'' :: '\'' :: '\'' :: rest).head? = some d →
        d ≠ '\n' ∧ d ≠ '\r' := by
      intro hn d hd
      cases s with
      | nil =>
        obtain rfl : '\'' = d := Option.some.inj hd
        decide
      | cons c s =>
        obtain rfl : c = d := Option.some.inj hd
        refine ⟨fun h => hn (h ▸ List.mem_cons_self), ?_⟩
        rintro rfl
        exact absurd (hs.1 _ List.mem_cons_self) (by decide)
    rw [writeAs]
    simp only [List.append_assoc, List.cons_append, List.nil_append]
    rw [quotedChars, dropBreak_openingBreak hfirst,
      tripleLiteralBody_append (Nat.zero_le 2) hs.1 hs.2 hsingle]
    rfl

/-- **Strings read back**: any text, behind which no further quote follows. -/
theorem quotedText_writeText (s : String) (hdouble : rest.head? ≠ some '"')
    (hsingle : rest.head? ≠ some '\'') : quotedText (writeText s ++ rest) = some (s, rest) := by
  rw [quotedText, writeText, quotedChars_writeAs (fits_quoting _) hdouble hsingle, Option.map_some,
    String.ofList_toList]

end TrafficRouting.Toml
