import TrafficRouting.Log.Directive
import TrafficRouting.OrdMap

/-!
# TrafficRouting.Log.Filter — which events a log shows

A filter is written as directives with commas between them. Of those that are about an event the
most special one decides; within an alteration, one that holds of it may show more.

* `Filter.shows`: an entry is shown.
* `Filter.opens`: alterations are named in front of their entries.
* `Filter.choose?`: the filter of a run.
-/

namespace TrafficRouting.Log

/-- A filter. -/
structure Filter where
  directives : List Directive
deriving DecidableEq, Repr

/-- The name by which filters call this program. -/
def target : String := "traffic_rule"

/-- The text of a filter for this program alone. -/
def defaultFilter (level : String) : String := target ++ "=" ++ level

namespace Filter

/-- Shows nothing. -/
def silent : Filter := ⟨[]⟩

/-- Shows events that report errors. -/
def errorsOnly : Filter := ⟨[⟨{}, Level.error.rank⟩]⟩

variable (f : Filter)

/-- The ranks by condition. Of two directives about the same the later one counts. -/
def ranks : OrdMap Condition Nat := .ofList (f.directives.map fun d => (d.condition, d.rank))

/-- The more special of two directives. -/
def moreSpecial (best : Option (Condition × Nat)) (e : Condition × Nat) :
    Option (Condition × Nat) :=
  if best.all fun b => e.1.atLeast b.1 then some e else best

/-- The rank of the most special directive among those with a condition that passes; rank zero if
there is none. -/
def rankOf (passes : Condition → Bool) : Nat :=
  ((f.ranks.entries.filter fun e => passes e.1).foldl moreSpecial none).elim 0 (·.2)

/-- The rank beyond which nothing is looked at. Values can be asked for only where everything is. -/
def ceiling : Nat :=
  if f.ranks.keys.any (·.asksValue) then fullRank
  else (f.directives.map (·.rank)).foldl max 0

/-- Alterations open scopes. -/
def opens : Bool :=
  Scope.level.rank ≤ f.ceiling &&
    (f.ranks.keys.any (·.choosesScopes) || Scope.level.rank ≤ f.rankOf (·.coversScopes))

/-- The rank up to which a scope shows what is within it. -/
def rankWithin (s : Scope) : Nat :=
  if f.opens then ((f.ranks.entries.filter (·.1.holdsOf s)).map (·.2)).foldl max 0 else 0

/-- The entry is shown. -/
def shows (e : Entry) : Bool :=
  e.event.level.rank ≤ max (f.rankOf (·.coversEvent e.event)) (e.scope.elim 0 f.rankWithin)

end Filter

/-! ### Reading -/

/-- The pieces of a text between commas. -/
def splitCommas : List Char → List (List Char)
  | [] => [[]]
  | c :: rest =>
    if c = ',' then [] :: splitCommas rest
    else match splitCommas rest with
    | piece :: pieces => (c :: piece) :: pieces
    | [] => [[c]]

/-- The directives of a text, without empty ones. -/
def pieces (s : String) : List (List Char) := (splitCommas s.toList).filter (· ≠ [])

namespace Filter

/-- The filter that a text asks for. One defect spoils it. Without directives nothing is shown. -/
def read (s : String) : Except Defect Filter := Filter.mk <$> (pieces s).mapM Directive.read

/-- The directive of a piece, if it is one; a piece may be invalid. -/
def readPiece (piece : List Char) : Except Defect (List Directive) :=
  match Directive.read piece with
  | .ok d => .ok [d]
  | .error .invalid => .ok []
  | .error .torn => .error .torn

/-- The filter that a text asks for as far as it can be read. Without directives only errors are
shown. -/
def readLoosely (s : String) : Except Defect Filter := do
  let ds ← (pieces s).flatMapM readPiece
  return if ds = [] then errorsOnly else ⟨ds⟩

/-- The filter of a run: the one of the environment if it is valid, else the level of the settings.
There is none if the text is torn. -/
def choose? (environment : Option String) (level : String) : Option Filter :=
  match environment.map read with
  | some (.ok f) => some f
  | some (.error .torn) => none
  | _ => (readLoosely (defaultFilter level)).toOption

end Filter

/-! ### Lines -/

/-- The line of an entry behind a time stamp. -/
def Entry.line (f : Filter) (stamp : String) (e : Entry) : String :=
  stamp ++ " " ++ e.event.level.column ++ " " ++
    (if f.opens then e.scope.elim "" Scope.text else "") ++
    e.event.message ++ String.join (e.event.fields.map fun x => " " ++ x.1 ++ "=" ++ x.2)

/-- The lines of the entries that are shown. -/
def shown (f : Filter) (stamp : String) (es : List Entry) : List String :=
  (es.filter f.shows).map (Entry.line f stamp)

end TrafficRouting.Log
