import Mathlib.Data.List.Basic
import Mathlib.Data.List.Forall2
import TrafficRouting.Json
import TrafficRouting.Text.Numeral

/-!
# TrafficRouting.Proofs.Json.Reader — the value of a JSON text

`Json.read?` reads a JSON text, blanks and all.  It knows the values that are written here: natural
numbers, strings, arrays and objects.  `read?_pretty`: a value that is written with one member on
each line is read back.
-/

namespace TrafficRouting.Json

namespace Reader

/-! ### Reading -/

/-- What may stand between any two signs. -/
def isBlank (c : Char) : Bool := c = ' ' || c = '\n' || c = '\r' || c = '\t'

def skipBlanks (s : List Char) : List Char := s.dropWhile isBlank

/-- What a letter behind a backslash stands for. -/
def escapeLetter? : Char → Option Char
  | '"' => some '"'
  | '\\' => some '\\'
  | '/' => some '/'
  | 'b' => some '\x08'
  | 'f' => some '\x0c'
  | 'n' => some '\n'
  | 'r' => some '\r'
  | 't' => some '\t'
  | _ => none

/-- The character of a number in hexadecimal digits. -/
def charOfDigits? (ds : List Char) : Option Char := do
  let values ← ds.mapM (Text.digitValue? 16)
  Text.charOfCode? (values.foldl (16 * · + ·) 0)

/-- Puts a character in front of what was read. -/
def push (c : Char) (x : List Char × List Char) : List Char × List Char := (c :: x.1, x.2)

/-- The rest of a string behind its opening quote. -/
def stringBody : List Char → Option (List Char × List Char)
  | [] => none
  | '\\' :: 'u' :: x :: y :: z :: w :: rest =>
    (charOfDigits? [x, y, z, w]).bind fun c => (stringBody rest).map (push c)
  | '\\' :: x :: rest => (escapeLetter? x).bind fun c => (stringBody rest).map (push c)
  | c :: rest =>
    if c = '"' then some ([], rest)
    else if c = '\\' ∨ c.toNat < 0x20 then none
    else (stringBody rest).map (push c)

/-- Digits without needless zeros in front. -/
def number (s : List Char) : Option (Nat × List Char) :=
  let n := Nat.ofDigitChars 10 (s.takeWhile Char.isDigit) 0
  if (toString n).toList = s.takeWhile Char.isDigit then some (n, s.dropWhile Char.isDigit)
  else none

section Sequences

variable {α : Type} (one : List Char → Option (α × List Char)) (closing : Char)

/-- What comes behind an item: the closing sign, or a comma and one more item. -/
def more : Nat → List Char → Option (List α × List Char)
  | 0, _ => none
  | n + 1, s =>
    match skipBlanks s with
    | [] => none
    | c :: rest =>
      if c = closing then some ([], rest)
      else if c = ',' then do
        let (a, rest) ← one rest
        let (as, rest) ← more n rest
        return (a :: as, rest)
      else none

/-- Items up to the closing sign, with commas in between. -/
def items (n : Nat) (s : List Char) : Option (List α × List Char) :=
  if (skipBlanks s).head? = some closing then some ([], (skipBlanks s).tail)
  else do
    let (a, rest) ← one s
    let (as, rest) ← more one closing n rest
    return (a :: as, rest)

end Sequences

/-- A key, a colon and a value. -/
def member (value : List Char → Option (Json × List Char)) (s : List Char) :
    Option ((String × Json) × List Char) :=
  match skipBlanks s with
  | '"' :: rest => do
    let (k, rest) ← stringBody rest
    match skipBlanks rest with
    | ':' :: rest => do
      let (v, rest) ← value rest
      return ((.ofList k, v), rest)
    | _ => none
  | _ => none

/-- A value, nested at most so deep and with at most so many items in a row. -/
def value : Nat → List Char → Option (Json × List Char)
  | 0, _ => none
  | n + 1, s =>
    match skipBlanks s with
    | '"' :: rest => do
      let (k, rest) ← stringBody rest
      return (.string (.ofList k), rest)
    | '[' :: rest => do
      let (vs, rest) ← items (value n) ']' n rest
      return (.array vs, rest)
    | '\x7b' :: rest => do
      let (ms, rest) ← items (member (value n)) '\x7d' n rest
      return (.object ms, rest)
    | rest => do
      let (k, rest) ← number rest
      return (.number k, rest)

end Reader

/-- The value of a text, which is too short for more nesting or more items than its length. -/
def read? (s : String) : Option Json :=
  match Reader.value (s.toList.length + 1) s.toList with
  | some (j, rest) => if Reader.skipBlanks rest = [] then some j else none
  | none => none

namespace Reader

/-! ### Strings and numbers -/

variable {s rest pad : List Char} {c : Char}

theorem charOfDigits?_control : ∀ n < 0x20,
    charOfDigits? ['0', '0', Nat.digitChar (n / 16), Nat.digitChar (n % 16)] =
      some (Char.ofNat n) := by
  decide

/-- A character is written with a letter, with its number, or as it is. -/
theorem stringChar_cases (c : Char) :
    (∃ x, stringChar c = ['\\', x] ∧ escapeLetter? x = some c ∧ x ≠ 'u') ∨
    (stringChar c = ['\\', 'u', '0', '0', Nat.digitChar (c.toNat / 16), Nat.digitChar (c.toNat % 16)]
      ∧ c.toNat < 0x20) ∨
    (stringChar c = [c] ∧ c ≠ '"' ∧ c ≠ '\\' ∧ ¬ c.toNat < 0x20) := by
  unfold stringChar
  split
  · exact Or.inl ⟨'"', rfl, by simp [*, escapeLetter?], by decide⟩
  split
  · exact Or.inl ⟨'\\', rfl, by simp [*, escapeLetter?], by decide⟩
  split
  · exact Or.inl ⟨'b', rfl, by simp [*, escapeLetter?], by decide⟩
  split
  · exact Or.inl ⟨'f', rfl, by simp [*, escapeLetter?], by decide⟩
  split
  · exact Or.inl ⟨'n', rfl, by simp [*, escapeLetter?], by decide⟩
  split
  · exact Or.inl ⟨'r', rfl, by simp [*, escapeLetter?], by decide⟩
  split
  · exact Or.inl ⟨'t', rfl, by simp [*, escapeLetter?], by decide⟩
  split
  · exact Or.inr (Or.inl ⟨rfl, by assumption⟩)
  · exact Or.inr (Or.inr ⟨rfl, by assumption, by assumption, by assumption⟩)

theorem stringBody_stringChar (c : Char) (s : List Char) :
    stringBody (stringChar c ++ s) = (stringBody s).map (push c) := by
  obtain ⟨x, hx, hletter, hu⟩ | ⟨hx, hc⟩ | ⟨hx, hquote, hslash, hc⟩ := stringChar_cases c
  · have hescape : stringBody ('\\' :: x :: s) =
        (escapeLetter? x).bind fun c => (stringBody s).map (push c) := by
      rw [stringBody]
      rintro _ _ _ _ _ rfl
      exact absurd rfl hu
    rw [hx]
    exact hescape.trans (by rw [hletter, Option.bind_some])
  · have hescape : ∀ x y, stringBody ('\\' :: 'u' :: '0' :: '0' :: x :: y :: s) =
        (charOfDigits? ['0', '0', x, y]).bind fun c => (stringBody s).map (push c) := by
      intro x y
      rw [stringBody]
    rw [hx]
    refine (hescape _ _).trans ?_
    rw [charOfDigits?_control c.toNat hc, Option.bind_some, Char.ofNat_toNat]
  · rw [hx]
    show stringBody (c :: s) = _
    rw [stringBody, if_neg hquote, if_neg (not_or.mpr ⟨hslash, hc⟩)]
    · rintro _ _ _ _ _ rfl
      exact absurd rfl hslash
    · rintro _ _ rfl
      exact absurd rfl hslash

theorem stringBody_flatMap (cs : List Char) (rest : List Char) :
    stringBody (cs.flatMap stringChar ++ '"' :: rest) = some (cs, rest) := by
  induction cs with
  | nil =>
    show stringBody ('"' :: rest) = _
    rw [stringBody, if_pos rfl]
    · nofun
    · nofun
  | cons c cs ih =>
    rw [List.flatMap_cons, List.append_assoc, stringBody_stringChar, ih]
    rfl

theorem toList_writeString (s : String) :
    (writeString s).toList = '"' :: (s.toList.flatMap stringChar ++ ['"']) := by
  rw [writeString, String.toList_ofList]
  rfl

/-- The digits of a number end here. -/
def Ends (rest : List Char) : Prop := ∀ c ∈ rest.head?, c.isDigit = false

theorem toList_toString (n : Nat) : (toString n).toList = Nat.toDigits 10 n := Nat.toList_repr

theorem isDigit_toString (n : Nat) : ∀ c ∈ (toString n).toList, c.isDigit = true := by
  intro c hc
  rw [toList_toString] at hc
  exact Nat.isDigit_of_mem_toDigits (by decide) (by decide) hc

theorem number_toString (n : Nat) (h : Ends rest) :
    number ((toString n).toList ++ rest) = some (n, rest) := by
  have hdigits := isDigit_toString n
  have htake : rest.takeWhile Char.isDigit = [] := by
    cases rest with
    | nil => rfl
    | cons c rest => simp [h c rfl]
  have hdrop : rest.dropWhile Char.isDigit = rest := by
    cases rest with
    | nil => rfl
    | cons c rest => simp [h c rfl]
  have hvalue : Nat.ofDigitChars 10 (toString n).toList 0 = n := by
    rw [toList_toString]
    exact Nat.ofDigitChars_toDigits (by decide) (by decide)
  rw [number, List.takeWhile_append_of_pos hdigits, List.dropWhile_append_of_pos hdigits, htake,
    hdrop, List.append_nil, hvalue, if_pos rfl]

/-! ### Blanks and lines -/

/-- Nothing but blanks. -/
def Blank (pad : List Char) : Prop := ∀ c ∈ pad, isBlank c = true

instance : Decidable (Blank pad) := decidable_of_iff (pad.all isBlank = true) List.all_eq_true

theorem skipBlanks_append (h : Blank pad) (s : List Char) :
    skipBlanks (pad ++ s) = skipBlanks s := List.dropWhile_append_of_pos h

theorem skipBlanks_cons (h : isBlank c = false) (s : List Char) :
    skipBlanks (c :: s) = c :: s := by
  rw [skipBlanks, List.dropWhile_cons, h]
  simp

theorem value_append (h : Blank pad) (n : Nat) (s : List Char) :
    value n (pad ++ s) = value n s := by
  cases n with
  | zero => rfl
  | succ n => rw [value, value, skipBlanks_append h]

theorem member_append (h : Blank pad) (one : List Char → Option (Json × List Char))
    (s : List Char) : member one (pad ++ s) = member one s := by
  rw [member, member, skipBlanks_append h]

theorem intercalate_comma (x : List Char) (xs : List (List Char)) :
    [',', '\n'].intercalate (x :: xs) = x ++ xs.flatMap fun y => ',' :: '\n' :: y := by
  induction xs generalizing x with
  | nil => simp
  | cons y ys ih =>
    rw [List.intercalate_cons_cons, ih, List.flatMap_cons]
    simp

/-- Lines behind a first one, up to the closing sign. -/
def lineTail (indent : List Char) (closing : Char) (ls : List String) : List Char :=
  ls.flatMap (fun l => ',' :: '\n' :: (indent ++ [' ', ' '] ++ l.toList)) ++
    '\n' :: (indent ++ [closing])

theorem toList_enclose (opening closing : Char) (indent l : String) (ls : List String) :
    (enclose (.singleton opening) (.singleton closing) indent (l :: ls)).toList =
      opening :: '\n' :: (indent.toList ++ [' ', ' '] ++ l.toList) ++
        lineTail indent.toList closing ls := by
  rw [enclose, if_neg (by simp)]
  simp only [String.toList_append, String.toList_intercalate, List.map_cons, List.map_map]
  have hsep : ",\n".toList = [',', '\n'] := rfl
  have hbreak : "\n".toList = ['\n'] := rfl
  have hpad : "  ".toList = [' ', ' '] := rfl
  rw [hsep, hbreak, intercalate_comma, lineTail, List.flatMap_map]
  simp [hpad]

theorem ends_lineTail (indent : List Char) (closing : Char) (ls : List String) (rest : List Char) :
    Ends (lineTail indent closing ls ++ rest) := by
  intro c hc
  cases ls with
  | nil =>
    obtain rfl : '\n' = c := by simpa [lineTail] using hc
    decide
  | cons l ls =>
    obtain rfl : ',' = c := by simpa [lineTail] using hc
    decide

/-! ### Items -/

section Items

variable {α : Type} {one : List Char → Option (α × List Char)} {closing : Char}
  {ls : List String} {as : List α} {indent : String}

/-- A line is read as an item, whatever comes behind its last digit. -/
def ReadsAs (one : List Char → Option (α × List Char)) (l : String) (a : α) : Prop :=
  (∃ c s, l.toList = c :: s ∧ isBlank c = false ∧ c ≠ ']' ∧ c ≠ '\x7d') ∧
    ∀ rest, Ends rest → one (l.toList ++ rest) = some (a, rest)

theorem blank_break (hindent : Blank indent.toList) {pad : List Char} (hpad : Blank pad) :
    Blank ('\n' :: (indent.toList ++ pad)) := by
  intro c hc
  rcases List.mem_cons.mp hc with rfl | hc
  · decide
  · rcases List.mem_append.mp hc with hc | hc
    · exact hindent c hc
    · exact hpad c hc

theorem more_lineTail (hclosing : closing = ']' ∨ closing = '\x7d') (hindent : Blank indent.toList)
    (hone : ∀ pad s, Blank pad → one (pad ++ s) = one s) (h : List.Forall₂ (ReadsAs one) ls as)
    {n : Nat} (hn : ls.length < n) (rest : List Char) :
    more one closing n (lineTail indent.toList closing ls ++ rest) = some (as, rest) := by
  have hclose : isBlank closing = false := by
    rcases hclosing with rfl | rfl
    · decide
    · decide
  have hcomma : ',' ≠ closing := by
    rcases hclosing with rfl | rfl
    · decide
    · decide
  induction h generalizing n with
  | nil =>
    obtain ⟨n, rfl⟩ := Nat.exists_eq_add_one_of_ne_zero (Nat.ne_zero_of_lt hn)
    have htext : lineTail indent.toList closing [] ++ rest =
        ('\n' :: (indent.toList ++ [])) ++ closing :: rest := by simp [lineTail]
    rw [more, htext, skipBlanks_append (blank_break hindent (by simp [Blank])),
      skipBlanks_cons hclose]
    simp
  | cons hl hls ih =>
    rename_i l a ls as
    obtain ⟨n, rfl⟩ := Nat.exists_eq_add_one_of_ne_zero (Nat.ne_zero_of_lt hn)
    have hpad := blank_break hindent (show Blank [' ', ' '] by decide)
    have htext : lineTail indent.toList closing (l :: ls) ++ rest =
        ',' :: (('\n' :: (indent.toList ++ [' ', ' '])) ++
          (l.toList ++ (lineTail indent.toList closing ls ++ rest))) := by
      simp [lineTail]
    rw [more, htext, skipBlanks_cons (by decide)]
    dsimp only
    rw [if_neg hcomma, if_pos rfl, hone _ _ hpad, hl.2 _ (ends_lineTail _ _ _ _)]
    simp only [Option.bind_eq_bind, Option.bind_some]
    rw [ih (Nat.lt_of_succ_lt_succ hn)]
    rfl

/-- Lines between two signs are read as their items. -/
theorem items_enclose (opening : Char) (hclosing : closing = ']' ∨ closing = '\x7d')
    (hindent : Blank indent.toList) (hone : ∀ pad s, Blank pad → one (pad ++ s) = one s)
    (h : List.Forall₂ (ReadsAs one) ls as) {n : Nat} (hn : ls.length ≤ n) (rest : List Char) :
    ∃ body, (enclose (.singleton opening) (.singleton closing) indent ls).toList ++ rest =
        opening :: body ∧ items one closing n body = some (as, rest) := by
  cases h with
  | nil =>
    have hclose : isBlank closing = false := by
      rcases hclosing with rfl | rfl
      · decide
      · decide
    refine ⟨closing :: rest, by simp [enclose], ?_⟩
    rw [items, skipBlanks_cons hclose]
    simp
  | cons hl hls =>
    rename_i l a ls as
    obtain ⟨⟨c, s, hc, hblank, hbracket, hbrace⟩, hread⟩ := hl
    have hne : c ≠ closing := by
      rcases hclosing with rfl | rfl
      · exact hbracket
      · exact hbrace
    have hpad := blank_break hindent (show Blank [' ', ' '] by decide)
    refine ⟨('\n' :: (indent.toList ++ [' ', ' '])) ++
      (l.toList ++ (lineTail indent.toList closing ls ++ rest)), ?_, ?_⟩
    · rw [toList_enclose]
      simp
    · have hhead : (skipBlanks (('\n' :: (indent.toList ++ [' ', ' '])) ++
          (l.toList ++ (lineTail indent.toList closing ls ++ rest)))).head? = some c := by
        rw [skipBlanks_append hpad, hc, List.cons_append, skipBlanks_cons hblank, List.head?_cons]
      rw [items, hhead, if_neg fun h => hne (Option.some.inj h), hone _ _ hpad,
        hread _ (ends_lineTail _ _ _ _)]
      simp only [Option.bind_eq_bind, Option.bind_some]
      rw [more_lineTail hclosing hindent hone hls hn]
      rfl

end Items

/-! ### Written values -/

theorem length_le_of_mem (indent : List Char) (closing : Char) {ls : List String} {l : String}
    (hl : l ∈ ls) : l.toList.length ≤ (lineTail indent closing ls).length := by
  have hmem := List.mem_map_of_mem (f := fun l : String =>
    ',' :: '\n' :: (indent ++ [' ', ' '] ++ l.toList)) hl
  have hle := (List.sublist_flatten_of_mem hmem).length_le
  rw [← List.flatMap_def, List.length_cons, List.length_cons, List.length_append] at hle
  rw [lineTail, List.length_append]
  omega

theorem length_lt_lineTail (indent : List Char) (closing : Char) (ls : List String) :
    ls.length < (lineTail indent closing ls).length := by
  induction ls with
  | nil => simp [lineTail]
  | cons l ls ih =>
    rw [lineTail, List.length_append] at ih ⊢
    rw [List.flatMap_cons, List.length_append, List.length_cons, List.length_cons, List.length_cons]
    omega

/-- Where the whole fits, its lines fit, and they are no more. -/
theorem fits_enclose (opening closing : Char) {indent : String} {ls : List String} {n : Nat}
    (h : (enclose (.singleton opening) (.singleton closing) indent ls).toList.length ≤ n) :
    ls.length ≤ n ∧ ∀ l ∈ ls, l.toList.length < n := by
  cases ls with
  | nil => simp
  | cons l ls =>
    have hlines := length_lt_lineTail indent.toList closing ls
    rw [toList_enclose, List.length_append] at h
    simp only [List.length_cons, List.length_append] at h ⊢
    refine ⟨by omega, fun m hm => ?_⟩
    rcases List.mem_cons.mp hm with rfl | hm
    · omega
    · have hle := length_le_of_mem indent.toList closing hm
      omega

theorem readsAs_writeString (n : Nat) (s : String) :
    ReadsAs (value (n + 1)) (writeString s) (.string s) := by
  refine ⟨⟨'"', _, toList_writeString s, by decide⟩, fun rest _ => ?_⟩
  rw [toList_writeString, List.cons_append, List.append_assoc, value, skipBlanks_cons (by decide)]
  simp [stringBody_flatMap]

theorem readsAs_toString (n k : Nat) : ReadsAs (value (n + 1)) (toString k) (.number k) := by
  have hdigits := isDigit_toString k
  obtain ⟨c, s, htext⟩ : ∃ c s, (toString k).toList = c :: s := by
    refine List.exists_cons_of_ne_nil ?_
    rw [toList_toString]
    exact List.ne_nil_of_length_pos Nat.length_toDigits_pos
  have hc : c.isDigit = true := hdigits c (by rw [htext]; exact List.mem_cons_self)
  have hdigit : ∀ x : Char, x.isDigit = false → c ≠ x := by
    rintro x hx rfl
    simp [hc] at hx
  have hblank : isBlank c = false := by
    simp [isBlank, hdigit ' ' (by decide), hdigit '\n' (by decide), hdigit '\r' (by decide),
      hdigit '\t' (by decide)]
  refine ⟨⟨c, s, htext, hblank, hdigit ']' (by decide), hdigit '\x7d' (by decide)⟩, ?_⟩
  intro rest hrest
  have hnumber := number_toString k hrest
  rw [htext, List.cons_append] at hnumber ⊢
  rw [value, skipBlanks_cons hblank]
  split
  · rename_i heq
    exact absurd (List.cons.inj heq).1 (hdigit '"' (by decide))
  · rename_i heq
    exact absurd (List.cons.inj heq).1 (hdigit '[' (by decide))
  · rename_i heq
    exact absurd (List.cons.inj heq).1 (hdigit '\x7b' (by decide))
  · rw [hnumber]
    rfl

theorem readsAs_member {n : Nat} {l : String} {j : Json} (h : ReadsAs (value n) l j) (k : String) :
    ReadsAs (member (value n)) (writeString k ++ ": " ++ l) (k, j) := by
  have htext : (writeString k ++ ": " ++ l).toList =
      '"' :: (k.toList.flatMap stringChar ++ '"' :: ':' :: ' ' :: l.toList) := by
    rw [String.toList_append, String.toList_append, toList_writeString]
    have hcolon : ": ".toList = [':', ' '] := rfl
    simp [hcolon]
  refine ⟨⟨'"', _, htext, by decide⟩, fun rest hrest => ?_⟩
  have hvalue := value_append (show Blank [' '] by decide) n (l.toList ++ rest)
  rw [h.2 rest hrest] at hvalue
  have hcolon := skipBlanks_cons (show isBlank ':' = false by decide) (' ' :: (l.toList ++ rest))
  rw [htext, List.cons_append, List.append_assoc, List.cons_append, member,
    skipBlanks_cons (by decide)]
  simp only [List.cons_append, stringBody_flatMap, Option.bind_eq_bind, Option.bind_some, hcolon]
  rw [show ' ' :: (l.toList ++ rest) = [' '] ++ (l.toList ++ rest) from rfl, hvalue]
  simp

theorem blank_deeper {indent : String} (hindent : Blank indent.toList) :
    Blank (indent ++ "  ").toList := by
  rw [String.toList_append]
  intro c hc
  rcases List.mem_append.mp hc with hc | hc
  · exact hindent c hc
  · exact (show Blank "  ".toList by decide) c hc

theorem readsAs_array {n : Nat} {indent : String} {ls : List String} {js : List Json}
    (hindent : Blank indent.toList) (hlines : ls.length ≤ n)
    (h : List.Forall₂ (ReadsAs (value n)) ls js) :
    ReadsAs (value (n + 1)) (enclose "[" "]" indent ls) (.array js) := by
  have hitems := items_enclose '[' (.inl rfl) hindent (fun _ s hpad => value_append hpad n s) h
    hlines
  constructor
  · obtain ⟨body, htext, -⟩ := hitems []
    rw [List.append_nil] at htext
    exact ⟨'[', body, htext, by decide⟩
  · intro rest _
    obtain ⟨body, htext, hbody⟩ := hitems rest
    have hopen := skipBlanks_cons (show isBlank '[' = false by decide) body
    rw [show "[" = String.singleton '[' from rfl, show "]" = String.singleton ']' from rfl, htext]
    simp only [value, hopen, hbody]
    rfl

theorem readsAs_object {n : Nat} {indent : String} {ls : List String} {ms : List (String × Json)}
    (hindent : Blank indent.toList) (hlines : ls.length ≤ n)
    (h : List.Forall₂ (ReadsAs (member (value n))) ls ms) :
    ReadsAs (value (n + 1)) (enclose "\x7b" "\x7d" indent ls) (.object ms) := by
  have hitems := items_enclose '\x7b' (.inr rfl) hindent
    (fun _ s hpad => member_append hpad (value n) s) h hlines
  constructor
  · obtain ⟨body, htext, -⟩ := hitems []
    rw [List.append_nil] at htext
    exact ⟨'\x7b', body, htext, by decide⟩
  · intro rest _
    obtain ⟨body, htext, hbody⟩ := hitems rest
    have hopen := skipBlanks_cons (show isBlank '\x7b' = false by decide) body
    rw [show "\x7b" = String.singleton '\x7b' from rfl,
      show "\x7d" = String.singleton '\x7d' from rfl, htext]
    simp only [value, hopen, hbody]
    rfl

mutual

theorem readsAs_prettyAt (n : Nat) (indent : String) (hindent : Blank indent.toList) :
    ∀ j : Json, (prettyAt indent j).toList.length ≤ n →
      ReadsAs (value (n + 1)) (prettyAt indent j) j
  | .number k => fun _ => readsAs_toString n k
  | .string s => fun _ => readsAs_writeString n s
  | .array js => by
    intro hn
    obtain ⟨hlines, hfits⟩ := fits_enclose '[' ']' hn
    have hitems := readsAs_prettyItems n (indent ++ "  ") (blank_deeper hindent) js hfits
    exact readsAs_array hindent hlines hitems
  | .object ms => by
    intro hn
    obtain ⟨hlines, hfits⟩ := fits_enclose '\x7b' '\x7d' hn
    have hmembers := readsAs_prettyMembers n (indent ++ "  ") (blank_deeper hindent) ms hfits
    exact readsAs_object hindent hlines hmembers

theorem readsAs_prettyItems (n : Nat) (indent : String) (hindent : Blank indent.toList) :
    ∀ js : List Json, (∀ l ∈ prettyItems indent js, l.toList.length < n) →
      List.Forall₂ (ReadsAs (value n)) (prettyItems indent js) js
  | [] => fun _ => .nil
  | j :: js => by
    intro hn
    have hlength := hn _ List.mem_cons_self
    obtain ⟨n, rfl⟩ := Nat.exists_eq_add_one_of_ne_zero (Nat.ne_zero_of_lt hlength)
    have hj := readsAs_prettyAt n indent hindent j (Nat.le_of_lt_succ hlength)
    exact .cons hj (readsAs_prettyItems (n + 1) indent hindent js
      fun l hl => hn l (List.mem_cons_of_mem _ hl))

theorem readsAs_prettyMembers (n : Nat) (indent : String) (hindent : Blank indent.toList) :
    ∀ ms : List (String × Json), (∀ l ∈ prettyMembers indent ms, l.toList.length < n) →
      List.Forall₂ (ReadsAs (member (value n))) (prettyMembers indent ms) ms
  | [] => fun _ => .nil
  | (k, j) :: ms => by
    intro hn
    have hlength := hn _ List.mem_cons_self
    rw [String.toList_append, List.length_append] at hlength
    obtain ⟨n, rfl⟩ := Nat.exists_eq_add_one_of_ne_zero (Nat.ne_zero_of_lt hlength)
    have hj := readsAs_prettyAt n indent hindent j (by omega)
    exact .cons (readsAs_member hj k) (readsAs_prettyMembers (n + 1) indent hindent ms
      fun l hl => hn l (List.mem_cons_of_mem _ hl))

end

end Reader

/-- **Round trip of written values**: they are read as they were. -/
theorem read?_pretty (j : Json) : read? (pretty j ++ "\n") = some j := by
  have hbreak : "\n".toList = ['\n'] := rfl
  have hlength : (pretty j).toList.length ≤ (pretty j ++ "\n").toList.length := by
    rw [String.toList_append, List.length_append]
    omega
  obtain ⟨-, hread⟩ := Reader.readsAs_prettyAt _ "" (by decide) j hlength
  have hends : Reader.Ends ['\n'] := by
    rintro c ⟨⟩
    decide
  have htext := hread _ hends
  rw [← hbreak, ← String.toList_append] at htext
  rw [read?]
  change Reader.value _ (pretty j ++ "\n").toList = _ at htext
  rw [htext]
  rfl

end TrafficRouting.Json
