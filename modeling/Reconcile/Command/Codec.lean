import Reconcile.Command.Workspace
import Reconcile.History.Codec

/-!
Workspaces as values of the interchange format.
-/

namespace Reconcile.Workspace

def directory : Place := ["work"]

/-- The readings of a clock that starts with the year 2026 and goes on by milliseconds. -/
def clock (n : Nat) : Timestamp :=
  ⟨⟨2026, 1, n / 86400000 % 31 + 1⟩, n / 3600000 % 24, n / 60000 % 60, n / 1000 % 60,
    n % 1000 * 1000000⟩

def idOfNumber (n : Nat) : String := "00000000-0000-4000-8000-" ++ Timestamp.padded 12 (n + 1)

def ofParts (files : FileTree) (history : Option History) : Except FileError Workspace := do
  let disk ← Disk.empty.makeDirectories (if history.isSome then "/work/.git" else "/work")
  let disk ← files.foldlM (fun disk (path, contents) => do
    (← disk.makeParents path).write path contents) { disk with home := directory }
  .ok {
    env := {
      disk, store := .blank, clock, readings := 0, ids := idOfNumber, issued := 0
      faults := fun _ => none, trail := [] }
    repositories := history.toList.map fun history => ⟨directory, false, history⟩
    stores := []
    opened := none }

def ofJson? (value : Json) : Option (Workspace × List (List String)) := do
  let r ← value.toRecord? 3
  let files ← r.default "files" 0 FileTree.ofJson? []
  let history ← r.optional "history" 1 History.ofJson?
  let commands ← r.default "commands" 2 (Json.toList? (Json.toList? Json.toText?)) []
  some (← (ofParts files history).toOption, commands)

end Reconcile.Workspace
