import Reconcile.Merge.Tree

/-!
Repositories: where a history is kept, and the conflicts that merging two of its commits has.
-/

namespace Reconcile

inductive RepositoryError where
  | notFound (path : String)
  | unknownRevision (name : String)
  deriving DecidableEq, Repr

def RepositoryError.message : RepositoryError → String
  | notFound path => "git repository not found at '" ++ path ++ "'"
  | unknownRevision name => "git ref not found: " ++ name

/-- A history and where it is kept. A bare repository has no files beside its history. -/
structure Repository where
  place : Place
  isBare : Bool
  history : History

namespace Repository

def store (repository : Repository) : Place :=
  if repository.isBare then repository.place else repository.place ++ [".git"]

def isAt (repository : Repository) (place : Place) : Bool :=
  place = repository.place || place = repository.store

def find (repositories : List Repository) (disk : Disk) (path : String) :
    Except RepositoryError Repository :=
  match disk.canonical path with
  | .error _ => .error (.notFound path)
  | .ok place => (repositories.find? (·.isAt place)).elim (.error (.notFound path)) .ok

def shownPath (repository : Repository) (path : String) : String :=
  if repository.isBare then path
  else "/" ++ String.join (repository.place.map (· ++ "/"))

def commit (repository : Repository) (name : String) : Except RepositoryError Nat :=
  (repository.history.resolve? name).elim (.error (.unknownRevision name)) .ok

def snapshots (repository : Repository) (current target : String) :
    Except RepositoryError (List Snapshot) := do
  let ours ← repository.commit current
  let theirs ← repository.commit target
  let history := repository.history
  let base := ((history.mergeBase? ours theirs).map history.files).getD []
  .ok ((Merge.clashes base (history.files ours) (history.files theirs)).filterMap
    Merge.Clash.snapshot?)

end Repository

end Reconcile
