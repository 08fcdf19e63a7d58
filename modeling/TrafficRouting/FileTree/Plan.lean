import TrafficRouting.FileTree.Basic

/-!
# TrafficRouting.FileTree.Plan — file operations step by step

A `Plan` says which changes a program makes to a file tree, one after the other, depending on what
it sees there and on which changes were refused. `run` carries a plan out; `cutoffs` lists the trees
that are left if it is cut off on the way, where a file may have been written in part.
-/

namespace TrafficRouting

/-- One change of a file tree. -/
inductive Change
  | makeDir (path : FilePath)
  | write (path : FilePath) (content : ByteArray)
  | rename (source target : FilePath)

namespace Change

/-- Carries out a change. -/
def apply (t : FileTree) : Change → Except FileError FileTree
  | makeDir path => t.makeDir path
  | write path content => t.write path content
  | rename source target => t.rename source target

/-- The trees that a change leaves if it is cut off after it has begun: a file holds the first bytes
of what was to be written. -/
def partials (t : FileTree) : Change → List FileTree
  | write path content =>
    (List.range content.size).filterMap fun n => (t.write path (content.extract 0 n)).toOption
  | _ => []

end Change

/-- A program over file trees with results in `α`. -/
inductive Plan (α : Type)
  | done (a : α)
  | look (next : FileTree → Plan α)
  | act (change : Change) (next : Option FileError → Plan α)

namespace Plan

variable {α β : Type}

/-- Goes on with the result of a plan. -/
def bind (p : Plan α) (f : α → Plan β) : Plan β :=
  match p with
  | done a => f a
  | look next => look fun t => (next t).bind f
  | act change next => act change fun e => (next e).bind f

/-- The result of a plan and the tree that it leaves. -/
def run : Plan α → FileTree → α × FileTree
  | done a, t => (a, t)
  | look next, t => (next t).run t
  | act change next, t =>
    match change.apply t with
    | .ok t' => (next none).run t'
    | .error e => (next (some e)).run t

/-- The trees that can be left if the plan is cut off, from the first to the last. -/
def cutoffs : Plan α → FileTree → List FileTree
  | done _, t => [t]
  | look next, t => (next t).cutoffs t
  | act change next, t =>
    match change.apply t with
    | .ok t' => t :: change.partials t ++ (next none).cutoffs t'
    | .error e => t :: (next (some e)).cutoffs t

/-- Makes a directory where there is none; `up` holds those on the way to it, from the last one. -/
def makeDirs : List FilePath → Plan (Option FileError)
  | [] => done none
  | path :: up =>
    let accept (e : FileError) : Plan (Option FileError) :=
      look fun t => done (if t.isDirectory path then none else some e)
    act (.makeDir path) fun
      | none => done none
      | some .notFound => (makeDirs up).bind fun
        | some e => done (some e)
        | none => act (.makeDir path) fun
          | none => done none
          | some e => accept e
      | some e => accept e

end Plan

end TrafficRouting
