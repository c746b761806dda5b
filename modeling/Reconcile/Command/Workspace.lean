import Reconcile.Files.Editing
import Reconcile.Fix.Engine
import Reconcile.History.Repository
import Reconcile.Source.Reading

/-!
What a command works on: a tree of files, the repositories in it, and the stores in files.
-/

namespace Reconcile

structure Workspace where
  env : Environment Float
  repositories : List Repository
  stores : List (Place × Store Float)
  opened : Option Place

namespace Workspace

def disk (workspace : Workspace) : Disk := workspace.env.disk

def withDisk (workspace : Workspace) (disk : Disk) : Workspace :=
  { workspace with env := { workspace.env with disk } }

/-- What the file of a store holds is not looked at as a file. -/
def storeContents : Contents := .raw []

/-- The place of the file of a store, which is made if it is missing. -/
def storeFile (disk : Disk) (path : String) : Except StoreError (Place × Disk) := do
  let disk ← match disk.makeParents path with
    | .ok disk => .ok disk
    | .error cause => .error (.unreachable cause)
  match disk.destination Disk.linkLimit (disk.start path) (Step.ofPath path) with
  | .error _ => .error .refused
  | .ok place =>
    match disk.at? place with
    | none => .ok (place, disk.put place (.file storeContents Disk.plainMode))
    | some (.file _ _) => .ok (place, disk)
    | some _ => .error .refused

def openStore (workspace : Workspace) (path : String) : Except StoreError Workspace := do
  let (place, disk) ← storeFile workspace.disk path
  let isNew := (workspace.disk.at? place).isNone
  let store := if isNew then .blank else (workspace.stores.lookup place).getD .blank
  .ok { workspace.withDisk disk with
    env := { workspace.env with disk, store }, opened := some place }

def closeStore (workspace : Workspace) : Workspace :=
  match workspace.opened with
  | none => workspace
  | some place => { workspace with
      opened := none
      stores := (place, workspace.env.store) :: workspace.stores.filter (·.1 ≠ place) }

end Workspace

end Reconcile
