import TrafficRouting.FileTree.Plan
import TrafficRouting.Rulebook.Document

/-!
# TrafficRouting.Store — where rulebooks are kept

A store keeps a rulebook as a document in a file. It is written to a sibling first, which then takes
the place of the document, so that a reader never sees half of one.

* `Store.load`, `Store.persist`: the file store.
* `Sink`: anything that alterations can be written to.
-/

namespace TrafficRouting

/-- Why a store does not do what is asked. -/
inductive StoreError
  | io (e : FileError)
  | alreadyExists (path : String)
  | decode (e : Toml.DocumentError)

/-- The wording of a store error. -/
def StoreError.message : StoreError → String
  | io e => "IO error: " ++ e.message
  | alreadyExists p => "Metadata already exists at " ++ p
  | decode e => "Decode error: " ++ e.message

namespace Store

/-- The document of a store has the rulebook under this key. -/
def rootKey : String := "traffic"

/-- Reads the document of a store. -/
def decode : Toml.Decoder Rulebook :=
  Toml.record "MetadataDocument" {} [.may rootKey Rulebook.decode fun r _ => r]

/-- The document of a store. -/
def document (r : Rulebook) : String := r.toToml .tall [rootKey]

/-- The rulebook that the store holds; none if nothing was ever written. -/
def load (path : FilePath) (t : FileTree) : Except StoreError (Option Rulebook) :=
  if t.exists? path then do
    let s ← (t.readText path).mapError .io
    some <$> (Toml.decodeDocument decode s).mapError .decode
  else .ok none

/-- Writes a rulebook step by step. Without `overwrite` nothing may be there yet. -/
def persist (path : FilePath) (r : Rulebook) (overwrite : Bool) : Plan (Except StoreError Unit) :=
  .look fun t =>
    if !overwrite && t.exists? path then .done (.error (.alreadyExists path.text))
    else (Plan.makeDirs path.directories.reverse).bind fun
      | some e => .done (.error (.io e))
      | none => .act (.write path.temporary (document r).toUTF8) fun
        | some e => .done (.error (.io e))
        | none => .act (.rename path.temporary path) fun
          | some e => .done (.error (.io e))
          | none => .done (.ok ())

end Store

/-- Something that rulebooks can be written to, with contents in `σ`. -/
structure Sink (σ : Type) where
  /-- Writes a rulebook, perhaps over an older one. -/
  write : Rulebook → Bool → σ → Except StoreError Unit × σ
  /-- The path of a file store. -/
  path? : Option FilePath := none

namespace Sink

/-- A file store. -/
def file (path : FilePath) : Sink FileTree where
  write r overwrite t := (Store.persist path r overwrite).run t
  path? := some path

/-- Keeps every write. -/
def recorder : Sink (List (Rulebook × Bool)) where
  write r overwrite ws := (.ok (), ws ++ [(r, overwrite)])

/-- Refuses every write. -/
def refusing (σ : Type) : Sink σ where
  write _ _ x := (.error (.io .unavailable), x)

/-- A sink into a part of something larger. -/
def within {σ τ : Type} (get : τ → σ) (set : σ → τ → τ) (k : Sink σ) : Sink τ where
  write r overwrite x :=
    let w := k.write r overwrite (get x)
    (w.1, set w.2 x)
  path? := k.path?

end Sink

end TrafficRouting
