import Reconcile.Command.Invocation
import Reconcile.Command.Table
import Reconcile.Command.Workspace
import Reconcile.Conflict.Codec
import Reconcile.Fix.Codec
import Reconcile.Json.Writer
import Reconcile.Settings.Codec

/-!
Running commands in a workspace: what they print, and how they end. A failure is a chain of
messages, each one the cause of the one before it.
-/

namespace Reconcile

def StoreError.causes : StoreError → List String
  | unreachable cause => [(unreachable cause).message, cause.message]
  | error => [error.message]

def FixError.causes : FixError → List String
  | store error => (store error).message :: error.causes
  | file cause => [(file cause).message, cause.message]
  | error => [error.message]

def Settings.LoadError.causes : Settings.LoadError → List String
  | unreadable cause => [(unreadable cause).message, cause.message]
  | error => [error.message]

structure Terminal where
  workspace : Workspace
  lines : List String

/-- A command that runs; it fails with a chain of messages. -/
abbrev Job (α : Type) := ExceptT (List String) (StateM Terminal) α

namespace Job

def print (lines : List String) : Job Unit :=
  modify fun t => { t with lines := t.lines ++ lines }

def workspace : Job Workspace := return (← get).workspace

def setWorkspace (workspace : Workspace) : Job Unit := modify fun t => { t with workspace }

/-- What a result holds; its error fails under a heading. -/
def require (heading : String) (causes : ε → List String) : Except ε α → Job α
  | .ok a => return a
  | .error e => throw (heading :: causes e)

def take (heading : String) (course : Course Float α) : Job α := do
  let w ← workspace
  let (result, env) := course w.env
  setWorkspace { w with env }
  require heading FixError.causes result

def succeeded (text : String) : String := "✓ " ++ text

def failed (text : String) : String := "✗ " ++ text

def warned (text : String) : String := "⚠ " ++ text

def settingsName : String := "mergeguard.toml"

def storeName : String := "mergeguard.db"

def settings (invocation : Invocation) : Job (Settings Float) := do
  let path := invocation.settings.getD (Path.join invocation.repository settingsName)
  require ("failed to load configuration from " ++ path) Settings.LoadError.causes
    (Settings.loadValid path ((← workspace).disk.contents path))

def engine (repository : String) (settings : Settings Float) : Job (Engine String Float) := do
  let directory := Path.join repository settings.logging.dataDirectory
  setWorkspace (← require "failed to open database" StoreError.causes
    ((← workspace).openStore (Path.join directory storeName)))
  let w ← workspace
  let (result, store) := w.env.store.prepare
  setWorkspace { w with env := { w.env with store } }
  require "failed to initialize database" StoreError.causes result
  require "failed to start auto-fix engine" (fun e => (FixError.store e).causes)
    (Engine.start settings .standard settings.reader store)

def report (repository : String) (settings : Settings Float) (current target : String)
    (usesOutlines : Bool) : Job Report := do
  let w ← workspace
  let found ← require "failed to open Git repository" (fun e => [RepositoryError.message e])
    (Repository.find w.repositories w.disk repository)
  let snapshots ← require "conflict detection failed"
    (fun e => ["failed to obtain conflict snapshots: " ++ RepositoryError.message e, e.message])
    (found.snapshots current target)
  return (Id.run ((settings.detector.report (Snapshot.served snapshots usesOutlines)
    usesOutlines).run .empty)).1

def conflictTable (conflicts : List Conflict) : Table where
  header := ["File", "Type", "Severity", "Blocks", "Lines"]
  rows := conflicts.map fun c =>
    [c.path, c.kind.name, c.severity.name, toString c.blocks.length, toString c.changedLines]

def detect (invocation : Invocation) (current target : String) (usesOutlines isData : Bool) :
    Job Unit := do
  let settings ← settings invocation
  let report ← report invocation.repository settings current target
    (usesOutlines && settings.detection.comparesOutlines)
  if isData then print [report.toJson.layOut 0]
  else if !report.hasConflicts then
    print [succeeded (target ++ " merges cleanly into " ++ current)]
  else
    print (["Conflicts: " ++ current ++ " <- " ++ target] ++ (conflictTable report.conflicts).lines ++
      [toString report.summary.total ++ " conflict(s), " ++ toString report.summary.autoFixable ++
        " auto-fixable"])

def shorten (length : Nat) (text : String) : String :=
  if text.length ≤ length then text
  else String.ofList (text.toList.take (length - 3)) ++ "..."

def percentage (places : Nat) (share : Float) : String := Decimal.fixed places (share * 100) ++ "%"

def stateName (s : Suggestion Float) : String :=
  if s.isApplied then "applied" else if s.rolledBackAt.isSome then "rolled back" else "pending"

def suggestionTable (suggestions : List (Suggestion Float)) : Table where
  header := ["ID", "File", "Type", "Strategy", "Confidence", "Status"]
  rows := suggestions.map fun s =>
    [s.id, shorten 48 s.path, s.kind.name, s.strategy, percentage 0 s.confidence, stateName s]

def generateAll (engine : Engine String Float) (repository : String) (most : Nat) :
    List Conflict → Job (List (Suggestion Float))
  | [] => return []
  | conflict :: rest => do
    let found ← take ("failed to generate suggestions for " ++ conflict.path)
      (engine.generate Factors.toJson repository conflict most)
    return found ++ (← generateAll engine repository most rest)

def suggest (invocation : Invocation) (current target : String) (most : Option Nat)
    (isData : Bool) : Job Unit := do
  let settings ← settings invocation
  let report ← report invocation.repository settings current target
    settings.detection.comparesOutlines
  let engine ← engine invocation.repository settings
  let found ← generateAll engine invocation.repository
    (most.getD settings.fixing.maxSuggestions) report.conflicts
  if isData then print [(Json.list Suggestion.toJson found).layOut 0]
  else if found.isEmpty then print ["No conflicts to resolve."]
  else print ((suggestionTable found).lines ++
    ["", "Apply with: mergeguard apply <id> (add --dry-run to verify first)"])

def applicationLine (a : Application Float) (isDryRun : Bool) : String :=
  let v := a.verification
  let summary := a.path ++ " (" ++ toString v.markersLeft ++ " markers remaining, syntax " ++
    (if v.isWellFormed then "ok" else "INVALID") ++ ", " ++ toString v.extent.changedLines ++
    " lines in " ++ toString v.extent.hunks ++ " hunks)"
  if a.applied then succeeded ("Applied " ++ summary)
  else if isDryRun && a.succeeded then succeeded ("Dry run passed: " ++ summary)
  else if a.succeeded then warned ("Already applied: " ++ a.path)
  else failed ("Dry run failed: " ++ summary)

def applyFix (invocation : Invocation) (id : String) (isDryRun keepsBackup isData : Bool) :
    Job Unit := do
  let settings ← settings invocation
  let engine ← engine invocation.repository settings
  let a ← take ("failed to apply suggestion " ++ id)
    (engine.apply id ⟨isDryRun, keepsBackup && settings.fixing.keepsBackup⟩)
  if isData then print [a.toJson.layOut 0]
  else print ([applicationLine a isDryRun] ++ a.backup.toList.map ("  Backup  : " ++ ·) ++
    a.command.toList.map ("  Rollback: " ++ ·))
  if !a.succeeded then throw ["verification failed: " ++ a.error.getD "unknown reason"]

def validate (invocation : Invocation) (id : String) : Job Unit := do
  let _ ← engine invocation.repository (← settings invocation)
  let v ← take ("failed to validate suggestion " ++ id) (Engine.validate id)
  if v.isValid then
    print [succeeded ("Suggestion " ++ id ++ " is current (" ++ toString v.markersPresent ++
      " marker lines in target)")]
  else throw ["suggestion " ++ id ++ " is stale: " ++ v.reason.getD "unknown reason"]

def list (invocation : Invocation) (filter : SuggestionFilter) : Job Unit := do
  let _ ← engine invocation.repository (← settings invocation)
  let found ← require "failed to list suggestions" (fun e => (FixError.store e).causes)
    ((← workspace).env.store.list filter)
  if found.isEmpty then print ["No suggestions found."]
  else print ((suggestionTable found).lines ++
    ["", toString found.length ++ " suggestion(s) shown"])

def outcome (invocation : Invocation) (strategy : String) (isSuccess : Bool) : Job Unit := do
  let engine ← engine invocation.repository (← settings invocation)
  let (rate, _) ← take "failed to record outcome" (engine.report strategy isSuccess)
  print [succeeded (strategy ++ " success rate is now " ++ percentage 1 rate)]

def writeSettings (path : String) : Job Unit := do
  let w ← workspace
  if w.disk.hasPath path then
    throw ["file already exists: " ++ path ++
      ". Use a different path or remove the existing file."]
  let disk ← require "failed to write config file" (fun cause => [FileError.message cause])
    (w.disk.write path (.text Settings.standardDocument))
  setWorkspace (w.withDisk disk)
  print [succeeded ("Default configuration written to " ++ path), "", "Next steps:",
    "  1. Adjust thresholds and penalties if needed",
    "  2. Run: mergeguard detect <current-branch> <target-branch>"]

def run (invocation : Invocation) : Job Unit :=
  match invocation.task with
  | .detect current target usesOutlines isData =>
    detect invocation current target usesOutlines isData
  | .suggest current target most isData => suggest invocation current target most isData
  | .applyFix id isDryRun keepsBackup isData =>
    applyFix invocation id isDryRun keepsBackup isData
  | .validate id => validate invocation id
  | .list path isUnapplied limit => list invocation ⟨none, path, none, isUnapplied, some limit⟩
  | .outcome strategy isSuccess => outcome invocation strategy isSuccess
  | .writeSettings path =>
    writeSettings (path.getD (Path.join invocation.repository settingsName))

end Job

structure Ending where
  code : Nat
  out : String
  err : String
  deriving DecidableEq, Repr

def linesText (lines : List String) : String := String.join (lines.map (· ++ "\n"))

def Workspace.run (workspace : Workspace) (words : List String) : Ending × Workspace :=
  match Invocation.ofWords words with
  | .error .misuse => (⟨2, "", "error: the command line is not understood\n"⟩, workspace)
  | .error .help => (⟨0, "Usage: mergeguard [OPTIONS] <COMMAND>\n", ""⟩, workspace)
  | .error .version => (⟨0, "mergeguard 0.1.0\n", ""⟩, workspace)
  | .ok invocation =>
    let (result, terminal) := (Job.run invocation) ⟨workspace, []⟩
    let out := linesText terminal.lines
    let workspace := terminal.workspace.closeStore
    match result with
    | .ok () => (⟨0, out, ""⟩, workspace)
    | .error causes => (⟨1, out, linesText [Job.failed (": ".intercalate causes)]⟩, workspace)

end Reconcile
