/-!
# TrafficRouting.FileTree.Path — paths as they are written

A path is a text: names with slashes between them, among them `.` and `..`. It starts from the
working directory, or from the top if a slash comes first. It is held as its pieces between the
slashes, so that nothing of the text is lost: how long a path may be is a matter of the text, and
where it leads is a matter of the names.

* `FilePath.ofText`, `FilePath.text`: the text, which `text_ofText` gives back.
* `names`, `steps`: the names to follow.
* `directories`: the directories on the way to the path.
* `temporary`: the sibling that a document is written to before it takes its place.
-/

namespace TrafficRouting

/-- The pieces of a text between slashes. -/
def splitSlashes : List Char → List (List Char)
  | [] => [[]]
  | c :: rest =>
    if c = '/' then [] :: splitSlashes rest
    else match splitSlashes rest with
    | piece :: pieces => (c :: piece) :: pieces
    | [] => [[c]]

theorem splitSlashes_ne_nil (s : List Char) : splitSlashes s ≠ [] := by
  cases s with
  | nil => simp [splitSlashes]
  | cons c s =>
    unfold splitSlashes
    split
    · simp
    · split <;> simp

theorem intercalate_splitSlashes (s : List Char) : ['/'].intercalate (splitSlashes s) = s := by
  induction s with
  | nil => rfl
  | cons c s ih =>
    unfold splitSlashes
    split
    · subst c
      match h : splitSlashes s with
      | [] => exact absurd h (splitSlashes_ne_nil s)
      | piece :: pieces => rw [h] at ih; simpa using ih
    · match h : splitSlashes s with
      | [] => exact absurd h (splitSlashes_ne_nil s)
      | [piece] => rw [h] at ih; simp_all [List.intercalate]
      | piece :: next :: pieces => rw [h] at ih; simp_all

/-- The name that leads to the top from anywhere. -/
def topName : String := "/"

/-- A path: the pieces of its text between slashes. -/
structure FilePath where
  pieces : List String
deriving DecidableEq, Repr

namespace FilePath

/-- The path that a text is. -/
def ofText (s : String) : FilePath := ⟨(splitSlashes s.toList).map .ofList⟩

variable (p : FilePath)

/-- The text of the path. -/
def text : String := "/".intercalate p.pieces

@[simp] theorem text_ofText (s : String) : (ofText s).text = s := by
  apply String.toList_injective
  simp [text, ofText, String.toList_intercalate, intercalate_splitSlashes, Function.comp_def]

/-- A slash ends the path. -/
def endsInSlash : Bool := 1 < p.pieces.length ∧ p.pieces.getLast? = some ""

/-- The path starts from the top. -/
def isAbsolute : Bool := 1 < p.pieces.length ∧ p.pieces.head? = some ""

/-- The names of the path. A slash in front counts as a first name. -/
def names : List String :=
  (if p.isAbsolute then [topName] else []) ++ p.pieces.filter (· ≠ "")

/-- The names to follow. A slash at the end counts as a last name that stays in place. -/
def steps : List String := p.names ++ if p.endsInSlash then ["."] else []

/-- The starts of a path that end in a piece of their own, from the first; `before` holds the pieces
in front. Nothing between two slashes is no such piece, and neither is a dot behind the first. -/
def starts (before : List String) : List String → List FilePath
  | [] => []
  | piece :: rest =>
    (if piece ≠ "" ∧ (piece ≠ "." ∨ before = []) then [⟨before ++ [piece]⟩] else []) ++
      starts (before ++ [piece]) rest

/-- The path and the directories on the way to it, from the first; the top is not among them. -/
def stages : List FilePath := starts [] p.pieces

/-- The directories on the way to the path. -/
def directories : List FilePath := p.stages.dropLast

/-- The last name, unless it only says where to go from there. -/
def lastName? : Option String :=
  (p.stages.getLast?.bind (·.pieces.getLast?)).filter fun n => n ≠ "." ∧ n ≠ ".."

/-- The path of a name in the directory of the path. -/
def sibling (name : String) : FilePath :=
  match p.directories.getLast? with
  | some d => ⟨d.pieces ++ [name]⟩
  | none => ⟨if p.isAbsolute then ["", name] else [name]⟩

/-- The path of a name below the path. -/
def below (name : String) : FilePath :=
  ⟨(if p.pieces.getLast? = some "" then p.pieces.dropLast else p.pieces) ++ [name]⟩

/-- The sibling that a document is written to before it takes its place. -/
def temporary : FilePath :=
  match p.lastName? with
  | some n => p.sibling (n ++ ".tmp")
  | none => p.below ".tmp"

end FilePath

end TrafficRouting
