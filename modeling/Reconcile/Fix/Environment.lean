import Reconcile.Files.Containment
import Reconcile.Resolution.Chain
import Reconcile.Suggestion.Store

/-!
What applying a suggestion works on, and its steps. Every step on a file or on the store may fail
by itself. Each that succeeds leaves a mark in a trail, so that what holds between two steps can be
said, and each that fails is noted.
-/

namespace Reconcile

inductive FixError where
  | notFound (id : String)
  | refused (refusal : Path.Refusal)
  /-- The new text was wrong once it had been written. -/
  | violation (path detail : String) (isRestored : Bool)
  | stale (id reason : String)
  | failed (strategy detail : String)
  | aborted (strategy : String)
  | store (error : StoreError)
  | file (cause : FileError)
  deriving DecidableEq, Repr

def FixError.message : FixError → String
  | notFound id => "suggestion not found: " ++ id
  | refused refusal => refusal.message
  | violation path detail isRestored =>
    "safety violation on '" ++ path ++ "': " ++ detail ++ " (restored: " ++ toString isRestored ++ ")"
  | stale id reason => "suggestion " ++ id ++ " is stale: " ++ reason
  | failed strategy detail => failedMessage strategy detail
  | aborted strategy => failedMessage strategy "panic"
  | store error => "auto-fix database error: " ++ error.message
  | file cause => "auto-fix I/O error: " ++ cause.message

/-- The parts of writing a file in one go: a draft is made beside the file, filled, given the permissions
of the file, if these can be looked at, and put in place of the file. Where it is not put in place it is
discarded. -/
inductive WriteStep where
  | draft
  | fill
  | sync
  | look
  | permit
  | swap
  | discard
  deriving DecidableEq, Repr

inductive Stage where
  | load
  | read
  | backUp (step : WriteStep)
  | overwrite (step : WriteStep)
  | reread
  | mark
  | readBackup
  | restore (step : WriteStep)
  | markBack
  | create
  | record
  deriving DecidableEq, Repr

/-- What held after a step, and the entries of the tree that it was about. -/
structure Moment (ν : Type) where
  stage : Stage
  touched : List Place
  disk : Disk
  store : Store ν

structure Environment (ν : Type) where
  disk : Disk
  store : Store ν
  clock : Nat → Timestamp
  readings : Nat
  ids : Nat → String
  issued : Nat
  /-- The errors with which steps fail by themselves. -/
  faults : Stage → Option FixError
  /-- What held after each step, the latest first. -/
  trail : List (Moment ν)
  /-- The steps that failed, the latest first. -/
  failures : List Stage := []

def Environment.fail {ν : Type} (env : Environment ν) (stage : Stage) : Environment ν :=
  { env with failures := stage :: env.failures }

abbrev Course (ν α : Type) := ExceptT FixError (StateM (Environment ν)) α

namespace Course

variable {ν : Type} {α : Type}

def onFiles (stage : Stage) (touched : Disk → List Place) (act : Disk → Except FileError (α × Disk)) :
    Course ν α := fun env =>
  match env.faults stage with
  | some error => (.error error, env.fail stage)
  | none =>
    match act env.disk with
    | .error cause => (.error (.file cause), env.fail stage)
    | .ok (a, disk) => (.ok a, { env with
        disk, trail := ⟨stage, touched env.disk, disk, env.store⟩ :: env.trail })

def onStore (stage : Stage) (act : Store ν → Except StoreError (α × Store ν)) : Course ν α :=
  fun env =>
    match env.faults stage with
    | some error => (.error error, env.fail stage)
    | none =>
      match act env.store with
      | .error error => (.error (.store error), env.fail stage)
      | .ok (a, store) => (.ok a, { env with
          store, trail := ⟨stage, [], env.disk, store⟩ :: env.trail })

def now : Course ν Timestamp := fun env =>
  (.ok (env.clock env.readings), { env with readings := env.readings + 1 })

def freshId : Course ν String := fun env =>
  (.ok (env.ids env.issued), { env with issued := env.issued + 1 })

def disk : Course ν Disk := fun env => (.ok env.disk, env)

/-- What a course gives instead of failing, with what it did before it failed. -/
def attempt (course : Course ν α) : Course ν (Except FixError α) := fun env =>
  let (result, env) := course env
  (.ok result, env)

def entryOf (path : String) (disk : Disk) : List Place :=
  match disk.locate path with
  | .ok (directory, name) => [directory ++ [name]]
  | .error _ => []

def readText (stage : Stage) (path : String) : Course ν String :=
  onFiles stage (entryOf path) fun disk => (disk.readText path).map (·, disk)

def draftMode : Nat := 0o600

/-- Gives a draft the permissions of the file it is for. Where these cannot be looked at, or there is no
file, the draft keeps its own. -/
def permitDraft (stage : WriteStep → Stage) (draft : Place) (path text : String) :
    Course ν Unit := do
  let found ← attempt (onFiles (stage .look) (entryOf path) fun disk =>
    .ok ((disk.mode path).toOption, disk))
  match found with
  | .ok (some mode) =>
    onFiles (stage .permit) (fun _ => [draft]) fun disk =>
      .ok ((), disk.put draft (.file (.text text) mode))
  | _ => pure ()

def finishDraft (stage : WriteStep → Stage) (draft : Place) (path text : String) :
    Course ν Unit := do
  onFiles (stage .fill) (fun _ => [draft]) fun disk =>
    .ok ((), disk.put draft (.file (.text text) draftMode))
  onFiles (stage .sync) (fun _ => [draft]) fun disk => .ok ((), disk)
  permitDraft stage draft path text
  onFiles (stage .swap) (fun disk => draft :: entryOf path disk) fun disk => do
    let (directory, name) ← disk.locate path
    (disk.rename draft (directory ++ [name])).map ((), ·)

/-- Removes a draft. Where that fails the draft stays, and no more is made of it. -/
def dropDraft (stage : Stage) (draft : Place) : Course ν Unit := do
  let _ ← attempt (onFiles stage (fun _ => [draft]) fun disk => .ok ((), disk.remove draft))

/-- Writes a file in one go: the path leads to the old contents until it leads to the new ones. -/
def writeText (stage : WriteStep → Stage) (path text : String) : Course ν Unit := do
  let draft ← onFiles (stage .draft) (fun disk => match disk.locate path with
      | .ok (directory, _) => [directory ++ [disk.draftName directory]]
      | .error _ => []) fun disk => do
    let (directory, _) ← disk.locate path
    let draft := directory ++ [disk.draftName directory]
    .ok (draft, disk.put draft (.file (.text "") draftMode))
  match ← attempt (finishDraft stage draft path text) with
  | .ok () => pure ()
  | .error error => do
    dropDraft (stage .discard) draft
    throw error

end Course

end Reconcile
