import TrafficRouting.NameSet
import TrafficRouting.OrdMap
import TrafficRouting.Text.Quoted
import TrafficRouting.Toml.Reader

/-!
# TrafficRouting.Toml.Decode — from documents to structures

A `Decoder` turns a value into something with a type, or says why it does not fit. `record` decodes
structures: from a table by name, where unknown keys are skipped, or from an array by position.
The first misfit in the order of the document is reported; missing fields come after all others.
-/

namespace TrafficRouting.Toml

/-- How messages name a value. -/
def Value.kind : Value → String
  | .string s => "string " ++ Text.quoted s
  | .integer n => "integer \x60" ++ toString n ++ "\x60"
  | .float x => "floating point \x60" ++ x.text ++ "\x60"
  | .boolean b => "boolean \x60" ++ (if b then "true" else "false") ++ "\x60"
  | .dateTime _ => "map"
  | .array _ => "sequence"
  | .table _ => "map"

/-- Why a value does not fit a structure. -/
inductive Misfit
  | wrongType (found : Value) (expected : String)
  | missingField (name : String)
  | tooShort (length : Nat) (record : String) (size : Nat)
deriving Repr

/-- The wording of a misfit. -/
def Misfit.message : Misfit → String
  | wrongType v e => "invalid type: " ++ v.kind ++ ", expected " ++ e
  | missingField n => "missing field \x60" ++ n ++ "\x60"
  | tooShort n r k =>
    "invalid length " ++ toString n ++ ", expected struct " ++ r ++ " with " ++ toString k ++
      (if k = 1 then " element" else " elements")

/-- Reads a value as an `α`. -/
abbrev Decoder (α : Type) := Value → Except Misfit α

/-- A date-time counts as a table with this one key. -/
def dateTimeKey : String := "$__toml_private_datetime"

/-- The fields of a value that counts as a table. -/
def Value.fields? : Value → Option (List (String × Value))
  | .table fields => some fields
  | .dateTime d => some [(dateTimeKey, .string d.text)]
  | _ => none

def text : Decoder String
  | .string s => .ok s
  | v => .error (.wrongType v "a string")

def flag : Decoder Bool
  | .boolean b => .ok b
  | v => .error (.wrongType v "a boolean")

def list {α : Type} (item : Decoder α) : Decoder (List α)
  | .array vs => vs.mapM item
  | v => .error (.wrongType v "a sequence")

/-- Names in an array; those that repeat are dropped. -/
def names : Decoder NameSet
  | .array vs => (vs.mapM text).map .ofList
  | v => .error (.wrongType v "a set")

/-- A table whose keys are data. -/
def dict {α : Type} (value : Decoder α) : Decoder (Dict α) := fun v =>
  match v.fields? with
  | some fields => (fields.mapM fun e => (value e.2).map (e.1, ·)).map .ofList
  | none => .error (.wrongType v "a map")

/-! ### Records -/

/-- A field of a structure `σ`: how its value changes the structure. -/
structure Slot (σ : Type) where
  name : String
  required : Bool
  decode : Decoder (σ → σ)

/-- A field that must be there. -/
def Slot.need {σ α : Type} (name : String) (d : Decoder α) (set : α → σ → σ) : Slot σ :=
  ⟨name, true, fun v => (d v).map set⟩

/-- A field that keeps its default when it is not there. -/
def Slot.may {σ α : Type} (name : String) (d : Decoder α) (set : α → σ → σ) : Slot σ :=
  ⟨name, false, fun v => (d v).map set⟩

variable {σ : Type}

/-- The changes that the known fields of a table ask for, in its order. -/
def changes (slots : List (Slot σ)) :
    List (String × Value) → Except Misfit (List (String × (σ → σ)))
  | [] => .ok []
  | (k, v) :: rest =>
    match slots.find? (·.name = k) with
    | some slot => do
      let f ← slot.decode v
      let fs ← changes slots rest
      return (k, f) :: fs
    | none => changes slots rest

/-- Applies the changes slot by slot. -/
def fill (fs : List (String × (σ → σ))) : List (Slot σ) → σ → Except Misfit σ
  | [], x => .ok x
  | slot :: rest, x =>
    match fs.lookup slot.name with
    | some f => fill fs rest (f x)
    | none => if slot.required then .error (.missingField slot.name) else fill fs rest x

/-- Fills slots in order with the items of an array. -/
def fillInOrder (record : String) (size : Nat) : Nat → List (Slot σ) → List Value → σ →
    Except Misfit σ
  | _, [], _, x => .ok x
  | i, slot :: rest, v :: vs, x => do
    let f ← slot.decode v
    fillInOrder record size (i + 1) rest vs (f x)
  | i, slot :: rest, [], x =>
    if slot.required then .error (.tooShort i record size)
    else fillInOrder record size (i + 1) rest [] x

/-- A structure with these slots; `start` holds the defaults. -/
def record (name : String) (start : σ) (slots : List (Slot σ)) : Decoder σ := fun v =>
  match v with
  | .array vs => fillInOrder name slots.length 0 slots vs start
  | v => match v.fields? with
    | some fields => do fill (← changes slots fields) slots start
    | none => .error (.wrongType v ("struct " ++ name))

/-! ### Documents -/

/-- Why a text is not the document of a structure. -/
inductive DocumentError
  /-- It is no TOML document. -/
  | malformed
  /-- It does not fit the structure. -/
  | misfit (m : Misfit)
deriving Repr

/-- The wording of a document error. -/
def DocumentError.message : DocumentError → String
  | malformed => "not a TOML document"
  | misfit m => m.message

/-- Reads a whole document. -/
def decodeDocument {α : Type} (d : Decoder α) (s : String) : Except DocumentError α :=
  match read s.toList with
  | some fields => (d (.table fields)).mapError .misfit
  | none => .error .malformed

end TrafficRouting.Toml
