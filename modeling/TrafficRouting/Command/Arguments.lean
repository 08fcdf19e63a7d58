import TrafficRouting.OrdMap

/-!
# TrafficRouting.Command.Arguments — switches on a command line

A switch has a long name, perhaps a letter, and perhaps a value: `--config x`, `--config=x`, `-c x`,
`-cx`, `-c=x`. `readSwitches` reads switches up to the first argument that is none. A value that is
an argument of its own is checked when the next switch is read, or at the end.
-/

namespace TrafficRouting

/-- Why a command line is not understood. -/
inductive Misuse
  | unexpected (argument : String)
  | unexpectedValue (switch : String)
  | missingValue (switch : String)
  | repeated (switch : String)
  | missing (what : String)
deriving DecidableEq, Repr

/-- The wording of a misuse. -/
def Misuse.message : Misuse → String
  | unexpected a => "unexpected argument '" ++ a ++ "' found"
  | unexpectedValue s => "unexpected value for '--" ++ s ++ "' found"
  | missingValue s => "a value is required for '--" ++ s ++ "' but none was supplied"
  | repeated s => "the argument '--" ++ s ++ "' cannot be used multiple times"
  | missing w => w ++ " is required but was not given"

/-- A switch. -/
structure Switch where
  long : String
  letter : Option Char := none
  takesValue : Bool := true
deriving DecidableEq, Repr

/-- Asks for help. -/
def Switch.help : Switch := { long := "help", letter := some 'h', takesValue := false }

/-- What an argument is by its form. -/
inductive Word
  /-- A switch by its long name, perhaps with a value. -/
  | long (name : String) (value : Option String)
  /-- A switch by its letter, perhaps with a value. -/
  | letter (c : Char) (value : Option String)
  /-- Two dashes: no switch comes after them. -/
  | dashes
  /-- Not a switch. -/
  | plain
deriving DecidableEq, Repr

/-- The value behind a letter; an equals sign may stand in between. -/
def letterValue : List Char → Option String
  | [] => none
  | '=' :: rest => some (.ofList rest)
  | rest => some (.ofList rest)

/-- The form of an argument. -/
def Word.ofArgument (s : String) : Word :=
  match s.toList with
  | ['-', '-'] => .dashes
  | '-' :: '-' :: rest =>
    .long (.ofList (rest.takeWhile (· ≠ '='))) <|
      match rest.dropWhile (· ≠ '=') with
      | _ :: value => some (.ofList value)
      | [] => none
  | '-' :: c :: rest => .letter c (letterValue rest)
  | _ => .plain

/-- What switches gave. -/
structure Given where
  /-- Values by long name, and an empty text for a switch without one. -/
  values : Dict String := {}
  /-- A value that has not been checked yet. -/
  waiting? : Option (Switch × String) := none

/-- How reading a command line ends early. -/
inductive Stop (α : Type)
  | help (topic : α)
  | misuse (m : Misuse)
deriving DecidableEq, Repr

variable {α : Type}

namespace Given

variable (g : Given)

/-- Notes the value of a switch, which must not be empty and may be given once. -/
def note (s : Switch) (value : String) : Except (Stop α) Given :=
  if s.takesValue ∧ value = "" then .error (.misuse (.missingValue s.long))
  else if g.values.contains s.long then .error (.misuse (.repeated s.long))
  else .ok { values := g.values.insert s.long value }

/-- Notes the value that waits. -/
def settle : Except (Stop α) Given :=
  match g.waiting? with
  | some (s, value) => g.note s value
  | none => .ok g

/-- Lets a value wait. -/
def await (s : Switch) (value : String) : Except (Stop α) Given := do
  return { ← g.settle with waiting? := some (s, value) }

end Given

/-- Reads the given switches up to the first argument that is none. Yields what they gave and the
rest. -/
def readSwitches (topic : α) (switches : List Switch) (g : Given) :
    List String → Except (Stop α) (Given × List String)
  | [] => .ok (g, [])
  | a :: rest =>
    let one (s : Option Switch) (value : Option String) : Except (Stop α) (Given × List String) :=
      match s, value with
      | none, _ => .error (.misuse (.unexpected a))
      | some ⟨name, letter, true⟩, some v => do
        readSwitches topic switches (← (← g.settle).note ⟨name, letter, true⟩ v) rest
      | some ⟨name, letter, true⟩, none =>
        match rest with
        | v :: rest =>
          if Word.ofArgument v = .plain then do
            readSwitches topic switches (← g.await ⟨name, letter, true⟩ v) rest
          else .error (.misuse (.missingValue name))
        | [] => .error (.misuse (.missingValue name))
      | some s, none => do
        let g ← g.settle
        if s = .help then .error (.help topic)
        else readSwitches topic switches (← g.note s "") rest
      | some s, some _ => .error (.misuse (.unexpectedValue s.long))
    match Word.ofArgument a with
    | .plain => .ok (g, a :: rest)
    | .dashes =>
      match rest with
      | [] => .ok (g, [])
      | b :: _ => .error (.misuse (.unexpected b))
    | .long name value => one (switches.find? (·.long = name)) value
    | .letter c value =>
      -- The one letter without a value asks for help: what stands behind it is not looked at.
      let s := switches.find? (·.letter = some c)
      one s (value.filter fun _ => s ≠ some .help)

end TrafficRouting
