import Reconcile.Fix.Backup
import Reconcile.Fix.Verification
import Reconcile.Resolution.Chain
import Reconcile.Score.Scorer

/-!
Generating suggestions for a conflict, and applying them. A suggestion is applied only while its
file still has marker lines; the new text is checked once it has been written, and where the check
fails the old text is put back.
-/

namespace Reconcile

structure Validity where
  id : String
  isValid : Bool
  markersPresent : Nat
  reason : Option String
  deriving DecidableEq, Repr

/-- A suggestion can be applied while its file exists and has marker lines. -/
def Validity.of (id : String) : Option String → Validity
  | none => ⟨id, false, 0, some "target file no longer exists"⟩
  | some text =>
    let present := Text.countMarkers text
    if present = 0 then ⟨id, false, 0, some "target file no longer contains conflict markers"⟩
    else ⟨id, true, present, none⟩

structure ApplyOptions where
  isDryRun : Bool
  keepsBackup : Bool
  deriving DecidableEq, Repr

def ApplyOptions.standard : ApplyOptions := ⟨false, true⟩

def ApplyOptions.ofSettings (settings : Settings.Fixing) : ApplyOptions :=
  ⟨false, settings.keepsBackup⟩

structure Provenance (ν : Type) where
  id : String
  confidence : ν
  strategy : String
  appliedAt : Option Timestamp

def Suggestion.provenance {ν : Type} (suggestion : Suggestion ν) (appliedAt : Option Timestamp) :
    Provenance ν :=
  ⟨suggestion.id, suggestion.confidence, suggestion.strategy, appliedAt⟩

structure Application (ν : Type) where
  succeeded : Bool
  applied : Bool
  path : String
  backup : Option String
  command : Option String
  verification : Verification
  provenance : Provenance ν
  error : Option String

structure Engine (κ ν : Type) where
  settings : Settings ν
  chain : Chain
  scorer : Scorer κ ν
  reader : Outline.Reader κ

namespace Engine

open Course

variable {κ ν : Type} [Scalar ν]

def start (settings : Settings ν) (chain : Chain) (reader : Outline.Reader κ) (store : Store ν) :
    Except StoreError (Engine κ ν) := do
  let outcomes ← store.history
  let scorer := outcomes.foldl (fun scorer outcome => scorer.record outcome.strategy outcome.succeeded)
    (Scorer.ofSettings settings reader)
  .ok ⟨settings, chain, scorer, reader⟩

def metadata (conflict : Conflict) (strategy : Strategy) (factors : Json) : Json := .obj [
  ("severity", .str conflict.severity.name), ("markerCount", .nat conflict.blocks.length),
  ("risks", .list .str (strategy.risks conflict)), ("factors", factors)]

def draft (engine : Engine κ ν) (factors : Factors ν → Json) (repository : String)
    (conflict : Conflict) (strategy : Strategy) (resolution : Resolution) : Draft ν where
  repository
  path := conflict.path
  kind := conflict.kind
  resolution := resolution.content
  confidence := engine.scorer.score conflict resolution.content strategy.name
  explanation := resolution.explanation
  strategy := strategy.name
  base := conflict.base
  source := conflict.ours
  target := conflict.theirs
  metadata := metadata conflict strategy
    (factors (engine.scorer.factors conflict resolution.content strategy.name))

def keep (draft : Draft ν) : Course ν (Suggestion ν) := do
  let id ← freshId
  let time ← now
  onStore .create fun store => store.create draft id time

/-- Tries strategies in their order until `room` of them have given a suggestion. -/
def collect (engine : Engine κ ν) (factors : Factors ν → Json) (repository : String)
    (conflict : Conflict) : Nat → List Strategy → Course ν (List (Suggestion ν))
  | 0, _ => return []
  | _, [] => return []
  | room + 1, strategy :: rest =>
    match strategy.attempt conflict with
    | .declined _ | .late _ => engine.collect factors repository conflict (room + 1) rest
    | .failed detail => throw (.failed (strategy.label conflict) detail)
    | .aborted => throw (.aborted strategy.name)
    | .resolved resolution => do
      let first ← keep (engine.draft factors repository conflict strategy resolution)
      return first :: (← engine.collect factors repository conflict room rest)

/-- Keeps the suggestions that the strategies give for a conflict, at most `most` of them, and
gives them with the highest confidence first. -/
def generate (engine : Engine κ ν) (factors : Factors ν → Json) (repository : String)
    (conflict : Conflict) (most : Nat) : Course ν (List (Suggestion ν)) := do
  let found ← engine.collect factors repository conflict most (engine.chain.candidates conflict)
  return found.mergeSort fun a b => Scalar.isAtMost b.confidence a.confidence

def load (id : String) : Course ν (Suggestion ν) := do
  match ← onStore .load fun store => (store.get id).map (·, store) with
  | some suggestion => return suggestion
  | none => throw (.notFound id)

def target (suggestion : Suggestion ν) : Course ν String := do
  match (← disk).resolveIn suggestion.repository suggestion.path with
  | .ok path => return path
  | .error refusal => throw (.refused refusal)

def current (path : String) : Course ν (Option String) :=
  onFiles .read (entryOf path) fun disk =>
    match disk.readText path with
    | .ok text => .ok (some text, disk)
    | .error .missing => .ok (none, disk)
    | .error error => .error error

def validate (id : String) : Course ν Validity := do
  let suggestion ← load id
  return .of id (← current (← target suggestion))

def verify (engine : Engine κ ν) (suggestion : Suggestion ν) (before after : String) :
    Verification := .of engine.reader suggestion.path before after

def unwritten (suggestion : Suggestion ν) (verification : Verification) (succeeded : Bool)
    (appliedAt : Option Timestamp) (error : Option String) : Application ν where
  succeeded
  applied := false
  path := suggestion.path
  backup := none
  command := none
  verification
  provenance := suggestion.provenance appliedAt
  error

def mark (stage : Stage) (id : String) (isRollback : Bool) : Course ν Unit := do
  let time ← now
  onStore stage fun store => (store.mark id isRollback time).map ((), ·)

/-- Puts the old text back and says so in the store; gives whether the text was put back. -/
def rollBack (suggestion : Suggestion ν) (guard : Guard) : Course ν Bool := do
  let restored ← attempt guard.restore
  let _ ← attempt (mark .markBack suggestion.id true)
  return restored.isOk

/-- Does something that must not fail; if it fails the old text is put back first. -/
def orRollBack (suggestion : Suggestion ν) (guard : Guard) (course : Course ν α) : Course ν α := do
  match ← attempt course with
  | .ok a => return a
  | .error error => do
    let _ ← rollBack suggestion guard
    throw error

def overwrite (engine : Engine κ ν) (suggestion : Suggestion ν) (guard : Guard) :
    Course ν Verification := do
  orRollBack suggestion guard (writeText .overwrite guard.target suggestion.resolution)
  let written ← orRollBack suggestion guard (readText .reread guard.target)
  let verification := engine.verify suggestion guard.former written
  if verification.passed then return verification
  else do
    let restored ← rollBack suggestion guard
    throw (.violation suggestion.path verification.detail restored)

def applyTo (engine : Engine κ ν) (suggestion : Suggestion ν) (path text : String)
    (keepsBackup : Bool) : Course ν (Application ν) := do
  let guard ← Guard.create path text keepsBackup
  let verification ← engine.overwrite suggestion guard
  orRollBack suggestion guard (mark .mark suggestion.id false)
  let time ← now
  return { succeeded := true, applied := true, path := suggestion.path, backup := guard.backup
           command := guard.command?, verification, provenance := suggestion.provenance (some time)
           error := none }

/-- Writes the resolution of a suggestion to its file, or on a dry run only checks it. -/
def apply (engine : Engine κ ν) (id : String) (options : ApplyOptions) :
    Course ν (Application ν) := do
  let suggestion ← load id
  if suggestion.isApplied then
    let text := suggestion.resolution
    return unwritten suggestion (engine.verify suggestion text text) true suggestion.appliedAt none
  let path ← target suggestion
  let found ← current path
  match (Validity.of id found).reason, found with
  | none, some text =>
    if options.isDryRun then
      let verification := engine.verify suggestion text suggestion.resolution
      return unwritten suggestion verification verification.passed none
        (if verification.passed then none else some verification.detail)
    else engine.applyTo suggestion path text options.keepsBackup
  | reason, _ => throw (.stale id (reason.getD ""))

def report (engine : Engine κ ν) (strategy : String) (succeeded : Bool) :
    Course ν (ν × Engine κ ν) := do
  onStore .record fun store => (store.record ⟨strategy, succeeded⟩).map ((), ·)
  let scorer := engine.scorer.record strategy succeeded
  return (scorer.rates.rate strategy, { engine with scorer })

end Engine

end Reconcile
