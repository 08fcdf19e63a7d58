import TrafficRouting.Toml.Value

/-!
# TrafficRouting.Toml.Table — tables under construction

A document names its tables piece by piece. While that goes on, a table remembers how it came
about, because that decides who may still add to it:

* `implied`: only named as part of the path of a header;
* `dotted`: named by a path of keys in front of a value;
* `stated`: it has its own header.

`assemble` builds the whole document from its sections, or refuses it.
-/

namespace TrafficRouting.Toml

/-- How a table came about. -/
inductive Origin
  | implied
  | dotted
  | stated
deriving DecidableEq, Repr

/-- What stands under a key of a table under construction. -/
inductive Item
  /-- A finished value. -/
  | value (v : Value)
  /-- A table that may grow. -/
  | table (origin : Origin) (fields : List (String × Item))
  /-- Tables in a row, each with a header; the last one may grow. -/
  | tables (done : List (List (String × Item))) (last : List (String × Item))

/-- The entries of a table under construction. -/
abbrev Fields := List (String × Item)

mutual
/-- The finished value of an item. -/
def Item.toValue : Item → Value
  | .value v => v
  | .table _ fields => .table (fieldValues fields)
  | .tables done last => .array (tableValues done ++ [.table (fieldValues last)])

/-- The finished values of fields. -/
def fieldValues : List (String × Item) → List (String × Value)
  | [] => []
  | (k, i) :: rest => (k, i.toValue) :: fieldValues rest

/-- The finished values of tables. -/
def tableValues : List (List (String × Item)) → List Value
  | [] => []
  | t :: rest => .table (fieldValues t) :: tableValues rest
end

/-- Changes the item of a key in place. -/
def setField (k : String) (i : Item) : Fields → Fields
  | [] => []
  | e :: rest => if e.1 = k then (k, i) :: rest else e :: setField k i rest

/-- Changes the table at the end of a path. Tables that the path lacks are made on the way, as
`made`; the path leads into the last of several tables. A dotted path does not lead into a stated
table. -/
def alter (made : Origin) (edit : Origin → Fields → Option Fields) :
    List String → Origin → Fields → Option Fields
  | [], origin, fields => edit origin fields
  | k :: path, _, fields =>
    match fields.lookup k with
    | none => (alter made edit path made []).map fun t => fields ++ [(k, .table made t)]
    | some (.value _) => none
    | some (.table o t) =>
      if made = .dotted ∧ o = .stated then none
      else (alter made edit path o t).map fun t => setField k (.table o t) fields
    | some (.tables done t) =>
      (alter made edit path .stated t).map fun t => setField k (.tables done t) fields

/-- Adds a value under a new key. Behind a dotted path the table must be a dotted one. -/
def addValue (nested : Bool) (k : String) (v : Value) (origin : Origin) (fields : Fields) :
    Option Fields :=
  if nested ∧ origin ≠ .dotted then none
  else if (fields.lookup k).isSome then none
  else some (fields ++ [(k, .value v)])

/-- Adds a value under a path of keys. -/
def assign (path : List String) (v : Value) (fields : Fields) : Option Fields :=
  match path.getLast? with
  | some k =>
    alter .dotted (addValue (path.dropLast ≠ []) k v) path.dropLast .stated fields
  | none => none

/-- Adds several values. -/
def assignAll (pairs : List (List String × Value)) (fields : Fields) : Option Fields :=
  pairs.foldlM (fun fields p => assign p.1 p.2 fields) fields

/-- The table that stands between braces. -/
def inlineTable (pairs : List (List String × Value)) : Option Value :=
  (assignAll pairs []).map fun fields => .table (fieldValues fields)

/-- Whether a header opens a table or one more of several. -/
inductive HeaderKind
  | single
  | repeated
deriving DecidableEq, Repr

/-- A header and the pairs below it. -/
structure Section where
  kind : HeaderKind
  path : List String
  pairs : List (List String × Value)

/-- Opens the table `k` and fills it. An implied table may still be stated; it then takes its place
at the end. -/
def stateTable (pairs : List (List String × Value)) (k : String) (_ : Origin) (fields : Fields) :
    Option Fields :=
  match fields.lookup k with
  | none => (assignAll pairs []).map fun t => fields ++ [(k, .table .stated t)]
  | some (.table .implied t) => (assignAll pairs t).map fun t =>
      fields.filter (·.1 ≠ k) ++ [(k, .table .stated t)]
  | some _ => none

/-- Opens one more table under `k` and fills it. -/
def addTable (pairs : List (List String × Value)) (k : String) (_ : Origin) (fields : Fields) :
    Option Fields :=
  match fields.lookup k with
  | none => (assignAll pairs []).map fun t => fields ++ [(k, .tables [] t)]
  | some (.tables done last) =>
    (assignAll pairs []).map fun t => setField k (.tables (done ++ [last]) t) fields
  | some _ => none

/-- Adds a section to a document. -/
def addSection (fields : Fields) (sec : Section) : Option Fields :=
  match sec.path.getLast? with
  | some k =>
    let edit := match sec.kind with
      | .single => stateTable sec.pairs k
      | .repeated => addTable sec.pairs k
    alter .implied edit sec.path.dropLast .stated fields
  | none => none

/-- The document with these pairs in front and these sections. -/
def assemble (pairs : List (List String × Value)) (sections : List Section) :
    Option (List (String × Value)) := do
  let root ← assignAll pairs []
  let fields ← sections.foldlM addSection root
  return fieldValues fields

end TrafficRouting.Toml
