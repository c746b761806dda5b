import Reconcile.Files.Disk

/-!
Paths below a root: a path is taken relative to the root, and refused where what exists of it lies
outside the root once links are followed.
-/

namespace Reconcile.Disk

def ancestors (path : String) : List (List Path.Component) :=
  let components := Path.components path
  ((List.range components.length).tail.map components.take).reverse

/-- The place of what exists of a path: of the path itself, or of its nearest ancestor. -/
def nearest? (disk : Disk) (path : String) : Option Place :=
  match disk.canonical path with
  | .ok place => some place
  | .error _ => (ancestors path).findSome? fun components =>
    (disk.walk linkLimit (disk.start path) (components.filterMap Step.ofComponent?)).toOption

/-- A path taken relative to a root, if what exists of it lies in the root. -/
def resolveIn (disk : Disk) (root path : String) : Except Path.Refusal String := do
  Path.validate path
  let joined := Path.join root path
  match disk.canonical root with
  | .error _ => .ok joined
  | .ok top =>
    match disk.nearest? joined with
    | some place => if top.isPrefixOf place then .ok joined else .error ⟨path, .escapes⟩
    | none => .ok joined

end Reconcile.Disk
