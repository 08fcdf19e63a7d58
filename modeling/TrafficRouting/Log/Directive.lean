import TrafficRouting.Log.Event
import TrafficRouting.Text.Blank
import TrafficRouting.Text.Numeral
import TrafficRouting.Text.Pattern.Machine
import TrafficRouting.Text.Pattern.Notation

/-!
# TrafficRouting.Log.Directive — up to which level a part of the program is shown

A directive is written `origin[scope{field=value}]=LEVEL`; each part may be left out. Without
brackets it is about the events whose origin starts so, with brackets it is about those in scopes of
this name and with this field. Levels are words in any case, or numbers.

* `Directive.read`: the directive that a text is, or why it is none.
* `Condition.coversEvent`: it is about an event wherever that happens.
* `Condition.holdsOf`: it is about everything within a scope.
-/

namespace TrafficRouting.Log

/-- A value that is asked for. -/
inductive Wanted
  | number (n : Nat)
  /-- A constant of a kind that no field has. -/
  | constant (text : String)
  | pattern (text : String) (p : Text.Pattern)
deriving DecidableEq, Repr

/-- The value of a field is the one that is asked for. -/
def Wanted.admits : Wanted → Datum → Bool
  | number n, .number m => n = m
  | pattern _ p, .text s => p.reachesEnd s.toList
  | _, _ => false

/-- A field that is asked for, perhaps with its value. -/
structure FieldTest where
  name : String
  value? : Option Wanted
deriving DecidableEq, Repr

/-- What a directive is about; a part that is left out holds of everything. -/
structure Condition where
  origin? : Option String := none
  scope? : Option String := none
  field? : Option FieldTest := none
deriving DecidableEq, Repr

namespace Condition

variable (c : Condition)

/-- The condition asks for the value of a field. -/
def asksValue : Bool := c.field?.any (·.value?.isSome)

/-- The condition can be decided without looking into a scope. -/
def isStatic : Bool := c.scope?.isNone && !c.asksValue

/-- The condition asks for a scope or a field of one. -/
def isScoped : Bool := c.scope?.isSome || c.field?.isSome

/-- An origin starts as the condition asks. -/
def admitsOrigin (origin : String) : Bool :=
  c.origin?.all (·.toList.isPrefixOf origin.toList)

/-- The condition is about an event, whatever scope it is in. -/
def coversEvent (e : Event) : Bool :=
  c.isStatic && c.admitsOrigin e.origin && c.field?.all fun f => e.hasField f.name

/-- The condition is about the scopes themselves, as if they were events. Fields do not count. -/
def coversScopes : Bool := c.isStatic && c.admitsOrigin Scope.origin

/-- The condition may hold of what is within a scope. -/
def choosesScopes : Bool :=
  c.isScoped && c.admitsOrigin Scope.origin && c.scope?.all (· = Scope.name) &&
    c.field?.all fun f => Scope.fieldNames.contains f.name

/-- The condition holds of what is within this scope. -/
def holdsOf (s : Scope) : Bool :=
  c.choosesScopes && c.field?.all fun f =>
    f.value?.all fun v => (s.fields.lookup f.name).any v.admits

/-- How much of an origin the condition asks for. -/
def reach : Nat := c.origin?.elim 0 String.length

/-- The name of the field that the condition asks for. -/
def fieldName : String := c.field?.elim "" FieldTest.name

/-- The condition is at least as special as another one: it asks for more of the origin, or as much
of it and for a field that is not before the other one. -/
def atLeast (d : Condition) : Bool :=
  d.reach < c.reach || (d.reach = c.reach && d.fieldName ≤ c.fieldName)

end Condition

/-- A directive: what it is about, and the rank up to which it shows events. -/
structure Directive where
  condition : Condition
  rank : Nat
deriving DecidableEq, Repr

/-! ### Reading -/

/-- The highest rank: everything is shown. -/
def fullRank : Nat := Level.trace.rank

/-- The rank that a word or a number stands for. -/
def rank? (s : List Char) : Option Nat :=
  match Text.natural? s with
  | some n => if n ≤ fullRank then some n else none
  | none =>
    match String.ofList (s.map Char.toLower) with
    | "off" => some 0
    | "error" => some 1
    | "warn" => some 2
    | "info" => some 3
    | "debug" => some 4
    | "trace" => some 5
    | _ => none

/-- The value that a text asks for. -/
def Wanted.read? (s : List Char) : Option Wanted :=
  match Text.natural? s with
  | some n => if n < Nat.pow 2 64 then some (.number n) else some (.constant (.ofList s))
  | none =>
    if ["true", "false"].contains (String.ofList s) || Text.isFraction s then
      some (.constant (.ofList s))
    else (Text.Pattern.read? s).map (.pattern (.ofList s))

/-- The field that a text asks for. What stands behind a second equals sign does not count. -/
def FieldTest.read? (s : List Char) : Option FieldTest :=
  let name := String.ofList (s.takeWhile (· ≠ '='))
  match s.dropWhile (· ≠ '=') with
  | [] => if s = [] then none else some ⟨name, none⟩
  | _ :: value => (Wanted.read? (value.takeWhile (· ≠ '='))).map fun v => ⟨name, some v⟩

/-- Why a text is no directive. -/
inductive Defect
  /-- It is not written like one. -/
  | invalid
  /-- A part of it would begin or end within a character. -/
  | torn
deriving DecidableEq, Repr

/-- A character of a text and its distance from the start in bytes. -/
structure Mark where
  offset : Nat
  letter : Char

/-- The characters of a text from a distance on. -/
def marks (offset : Nat) : List Char → List Mark
  | [] => []
  | c :: rest => ⟨offset, c⟩ :: marks (offset + c.utf8Size) rest

/-- What stands up to a distance in bytes, and the rest. -/
def splitBytes (n : Nat) (s : List Char) : Except Defect (List Char × List Char) :=
  if n = 0 then .ok ([], s)
  else match s with
  | [] => .error .torn
  | c :: rest =>
    if n < c.utf8Size then .error .torn
    else (splitBytes (n - c.utf8Size) rest).map fun r => (c :: r.1, r.2)

/-- What stands behind a distance in bytes. -/
def cutFrom (start : Nat) (s : List Char) : Except Defect (List Char) :=
  (·.2) <$> splitBytes start s

/-- What stands between two distances in bytes. -/
def cut (start stop : Nat) (s : List Char) : Except Defect (List Char) := do
  return (← splitBytes (stop - start) (← cutFrom start s)).1

/-- The characters from the first one of these on. -/
def fromFirst (letters : List Char) (ms : List Mark) : List Mark :=
  ms.dropWhile fun m => !letters.contains m.letter

/-- What can be read, else the text is invalid. -/
def orInvalid {α : Type} : Option α → Except Defect α
  | some a => .ok a
  | none => .error .invalid

/-- A level that stands behind a distance in bytes. Without one everything is shown. -/
def rankFrom (s : List Char) (start : Nat) : Except Defect Nat := do
  let word ← cutFrom start s
  if word = [] then return fullRank else orInvalid (rank? word)

/-- Reads on where only an equals sign with a level may follow. -/
def withLevel (s : List Char) (c : Condition) : List Mark → Except Defect Directive
  | [] => .ok ⟨c, fullRank⟩
  | m :: _ => do if m.letter = '=' then return ⟨c, ← rankFrom s (m.offset + 1)⟩ else .error .invalid

/-- Reads on behind an opening bracket. -/
def withScope (s : List Char) (origin? : Option String) (start : Nat) (ms : List Mark) :
    Except Defect Directive :=
  match fromFirst [']', '\x7b'] ms with
  | [] => .error .invalid
  | m :: ms => do
    let name := String.ofList (← cut start m.offset s)
    if m.letter = ']' then withLevel s { origin?, scope? := some name } ms
    else match fromFirst ['\x7d'] ms with
    | [] => .error .invalid
    | n :: ms => do
      let field ← orInvalid (FieldTest.read? (← cut (m.offset + 1) n.offset s))
      match ms with
      | [] => .error .invalid
      | e :: ms =>
        let scope? := if name = "" then none else some name
        if e.letter = ']' then withLevel s { origin?, scope?, field? := some field } ms
        else .error .invalid

/-- A word alone: a level for everything, else an origin. -/
def ofWord (s : List Char) : Directive :=
  match rank? s with
  | some n => ⟨{}, n⟩
  | none => ⟨{ origin? := some (.ofList s) }, fullRank⟩

/-- A directive may start with this character. -/
def startsWord (c : Char) : Bool := ['-', ':', '_'].contains c || Text.isAlphanumeric c

/-- Reads a directive. Marks such as brackets are looked for in the text without the blanks around
it; what stands between them is taken from the whole text, at the same distances from its start. -/
def Directive.read (s : List Char) : Except Defect Directive :=
  match marks 0 (Text.trimChars s) with
  | [] => .error .invalid
  | first :: rest =>
    if first.letter = '[' then withScope s none 1 rest
    else if startsWord first.letter then
      match fromFirst ['=', '['] rest with
      | [] => .ok (ofWord s)
      | m :: ms => do
        let origin := String.ofList (← cut 0 m.offset s)
        if m.letter = '[' then withScope s (some origin) (m.offset + 1) ms
        else withLevel s { origin? := some origin } (m :: ms)
    else .error .invalid

end TrafficRouting.Log
