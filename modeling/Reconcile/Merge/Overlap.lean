import Reconcile.Merge.Alignment

/-!
Whether two versions of a text can be merged without a conflict: edits of the two that touch are
gathered into regions, and a region that both edited has to come out the same.
-/

namespace Reconcile.Merge

open Diff (Edit)

variable {α : Type} [DecidableEq α]

inductive Editor where
  | ours
  | theirs
  | both
  deriving DecidableEq, Repr

structure Stretch where
  start : Int
  length : Int
  deriving DecidableEq, Repr

namespace Stretch

def stop (s : Stretch) : Int := s.start + s.length

def upTo (s later : Stretch) : Stretch := { s with length := later.stop - s.start }

def slice (lines : List α) (s : Stretch) : List α :=
  (lines.drop s.start.toNat).take s.length.toNat

end Stretch

/-- A stretch that one version edited, or both: where it lies in each version. -/
structure Region where
  editor : Editor
  ours : Stretch
  theirs : Stretch
  deriving DecidableEq, Repr

namespace Region

/-- Whether a region begins no later than another ends, in one of the versions. -/
def touches (region earlier : Region) : Bool :=
  region.ours.start ≤ earlier.ours.stop || region.theirs.start ≤ earlier.theirs.stop

def join (earlier region : Region) : Region where
  editor := if earlier.editor = region.editor then earlier.editor else .both
  ours := earlier.ours.upTo region.ours
  theirs := earlier.theirs.upTo region.theirs

def add (regions : List Region) (region : Region) : List Region :=
  match regions with
  | [] => [region]
  | latest :: rest =>
    if region.touches latest then latest.join region :: rest else region :: latest :: rest

/-- The region of an edit of ours; `shift` leads from places in the base to places in theirs. -/
def ofOurs (edit : Edit) (shift : Int) : Region :=
  ⟨.ours, ⟨edit.newStart, edit.newLength⟩, ⟨edit.oldStart + shift, edit.oldLength⟩⟩

def ofTheirs (edit : Edit) (shift : Int) : Region :=
  ⟨.theirs, ⟨edit.oldStart + shift, edit.oldLength⟩, ⟨edit.newStart, edit.newLength⟩⟩

/-- The region of two edits that touch: what they cover together in the base, in each version. -/
def ofBoth (x y : Edit) : Region :=
  let lead : Int := (x.oldStart : Int) - y.oldStart
  let trail : Int := (x.oldStop : Int) - y.oldStop
  let ours : Stretch := ⟨x.newStart - max lead 0, x.newLength + max lead 0 + max (-trail) 0⟩
  let theirs : Stretch := ⟨y.newStart - max (-lead) 0, y.newLength + max (-lead) 0 + max trail 0⟩
  ⟨.both, ours, theirs⟩

/-- Whether a region cannot be merged. Where one version has no lines left it always counts. -/
def isConflict (ours theirs : List α) (region : Region) : Bool :=
  region.editor = .both &&
    (region.ours.length = 0 || region.theirs.length = 0 ||
      region.ours.slice ours ≠ region.theirs.slice theirs)

end Region

def shiftBefore (edit : Edit) : Int := (edit.newStart : Int) - edit.oldStart

def sameEdit (ours theirs : List α) (x y : Edit) : Bool :=
  x.oldStart = y.oldStart && x.oldLength = y.oldLength && x.newLength = y.newLength &&
    (ours.drop x.newStart).take x.newLength = (theirs.drop y.newStart).take y.newLength

/-- The regions of the edits of two versions, the latest first; `oursShift` and `theirsShift` are
the shifts after all edits. -/
def regions (ours theirs : List α) (oursShift theirsShift : Int) :
    List Region → List Edit → List Edit → List Region
  | found, [], [] => found
  | found, x :: xs, [] =>
    regions ours theirs oursShift theirsShift (Region.add found (.ofOurs x theirsShift)) xs []
  | found, [], y :: ys =>
    regions ours theirs oursShift theirsShift (Region.add found (.ofTheirs y oursShift)) [] ys
  | found, x :: xs, y :: ys =>
    if x.oldStop < y.oldStart then
      regions ours theirs oursShift theirsShift (Region.add found (.ofOurs x (shiftBefore y))) xs
        (y :: ys)
    else if y.oldStop < x.oldStart then
      regions ours theirs oursShift theirsShift (Region.add found (.ofTheirs y (shiftBefore x)))
        (x :: xs) ys
    else
      let found := if sameEdit ours theirs x y then found else Region.add found (.ofBoth x y)
      if x.oldStop < y.oldStop then
        regions ours theirs oursShift theirsShift found xs (y :: ys)
      else if y.oldStop < x.oldStop then
        regions ours theirs oursShift theirsShift found (x :: xs) ys
      else regions ours theirs oursShift theirsShift found xs ys
  termination_by _ xs ys => xs.length + ys.length

def mergesCleanly (base ours theirs : List α) : Bool :=
  let xs := (Alignment.of base ours).edits
  let ys := (Alignment.of base theirs).edits
  xs.isEmpty || ys.isEmpty ||
    !(regions ours theirs ((ours.length : Int) - base.length)
      ((theirs.length : Int) - base.length) [] xs ys).any (·.isConflict ours theirs)

end Reconcile.Merge
