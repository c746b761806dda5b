import Reconcile.Diff.Basic
import Reconcile.Total

/-!
Hunks: edits gathered with the lines around them. Edits that stand close together share a hunk.
-/

namespace Reconcile.Diff

structure Edit where
  oldStart : Nat
  oldLength : Nat
  newStart : Nat
  newLength : Nat
  deriving DecidableEq, Repr

namespace Edit

def oldStop (edit : Edit) : Nat := edit.oldStart + edit.oldLength

def newStop (edit : Edit) : Nat := edit.newStart + edit.newLength

def size (edit : Edit) : Nat := edit.oldLength + edit.newLength

end Edit

/-- The edits that runs make, from two places on; runs without a kept one between them are one
edit, the one in `pending`. -/
def editsFrom {α : Type} : Nat → Nat → Option Edit → List (Run α) → List Edit
  | _, _, pending, [] => pending.toList
  | old, new, pending, ⟨.keep, items⟩ :: rest =>
    pending.toList ++ editsFrom (old + items.length) (new + items.length) none rest
  | old, new, pending, ⟨.delete, items⟩ :: rest =>
    let edit := pending.getD ⟨old, 0, new, 0⟩
    editsFrom (old + items.length) new
      (some { edit with oldLength := edit.oldLength + items.length }) rest
  | old, new, pending, ⟨.insert, items⟩ :: rest =>
    let edit := pending.getD ⟨old, 0, new, 0⟩
    editsFrom old (new + items.length)
      (some { edit with newLength := edit.newLength + items.length }) rest

def contextLength : Nat := 3

def contextStop (oldSize newSize : Nat) (edit : Edit) : Nat :=
  edit.oldStop + min contextLength (min (oldSize - edit.oldStop) (newSize - edit.newStop))

/-- How many hunks edits make, each edit after the first given where the context before it ends. -/
def countHunks (oldSize newSize : Nat) : Nat → List Edit → Nat
  | _, [] => 0
  | stop, edit :: rest =>
    let joins := min edit.oldStart (oldSize - 1) - contextLength < stop
    countHunks oldSize newSize (contextStop oldSize newSize edit) rest + if joins then 0 else 1

structure Extent where
  changedLines : Nat
  hunks : Nat
  deriving DecidableEq, Repr

def Extent.between (before after : String) : Extent :=
  let old := Text.pieces before.toList
  let new := Text.pieces after.toList
  let edits := editsFrom 0 0 none (runs old new)
  { changedLines := total (edits.map Edit.size)
    hunks := match edits with
      | [] => 0
      | first :: rest =>
        countHunks old.length new.length (contextStop old.length new.length first) rest + 1 }

end Reconcile.Diff
