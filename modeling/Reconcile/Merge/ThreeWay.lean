import Reconcile.Diff.Basic
import Reconcile.Total

/-!
Merging two versions of a text by the base they have in common. What one version alone changed is
taken from it; where both changed the same lines in different ways, the merged text has a conflict
block.
-/

namespace Reconcile.Merge

open Diff (Run)

variable {α : Type} [DecidableEq α]

/-- A stretch that both versions keep, or one that some version changes. -/
inductive Section (α : Type) where
  | kept (items : List α)
  | changed (base ours theirs : List α)
  deriving DecidableEq, Repr

structure Gathered (α : Type) where
  base : List α
  ours : List α
  theirs : List α

namespace Gathered

def empty : Gathered α := ⟨[], [], []⟩

def add (g : Gathered α) (base ours theirs : List α) : Gathered α :=
  ⟨g.base ++ base, g.ours ++ ours, g.theirs ++ theirs⟩

def close (g : Gathered α) : List (Section α) :=
  if g.base.isEmpty && g.ours.isEmpty && g.theirs.isEmpty then []
  else [.changed g.base g.ours g.theirs]

end Gathered

def restOf (run : Run α) (n : Nat) (rest : List (Run α)) : List (Run α) :=
  if run.items.length ≤ n then rest else ⟨run.action, run.items.drop n⟩ :: rest

/-- The sections that the runs from a base to two versions make. -/
def sections : Nat → Gathered α → List (Run α) → List (Run α) → List (Section α)
  | 0, gathered, _, _ => gathered.close
  | fuel + 1, gathered, ⟨.insert, items⟩ :: ours, theirs =>
    sections fuel (gathered.add [] items []) ours theirs
  | fuel + 1, gathered, ours, ⟨.insert, items⟩ :: theirs =>
    sections fuel (gathered.add [] [] items) ours theirs
  | fuel + 1, gathered, our :: ours, their :: theirs =>
    let n := min our.items.length their.items.length
    let items := our.items.take n
    let ours := restOf our n ours
    let theirs := restOf their n theirs
    match our.action, their.action with
    | .keep, .keep => gathered.close ++ .kept items :: sections fuel .empty ours theirs
    | .keep, _ => sections fuel (gathered.add items items []) ours theirs
    | _, .keep => sections fuel (gathered.add items [] items) ours theirs
    | _, _ => sections fuel (gathered.add items [] []) ours theirs
  | _ + 1, gathered, _, _ => gathered.close

/-- The items that a changed stretch merges to, if its versions agree or one of them kept the base. -/
def settled? (base ours theirs : List α) : Option (List α) :=
  if ours = theirs then some ours
  else if base = ours then some theirs
  else if base = theirs then some ours
  else none

def markerLine (sign : Char) (label : String) : List Char :=
  List.replicate 7 sign ++ label.toList ++ ['\n']

def block (base ours theirs : List (List Char)) : List Char :=
  markerLine '<' " ours" ++ ours.flatten ++ markerLine '|' " original" ++ base.flatten ++
    markerLine '=' "" ++ theirs.flatten ++ markerLine '>' " theirs"

def Section.text : Section (List Char) → List Char
  | kept items => items.flatten
  | changed base ours theirs =>
    match settled? base ours theirs with
    | some items => items.flatten
    | none => block base ours theirs

def Section.isConflict : Section (List Char) → Bool
  | kept _ => false
  | changed base ours theirs => (settled? base ours theirs).isNone

/-- The text with conflict blocks that two versions merge to, if there has to be a block. -/
def conflictText? (base ours theirs : String) : Option String :=
  let base := Text.pieces base.toList
  let ours := Diff.runs base (Text.pieces ours.toList)
  let theirs := Diff.runs base (Text.pieces theirs.toList)
  let bound := total ((ours ++ theirs).map fun run => run.items.length + 1) + 1
  let parts := sections bound .empty ours theirs
  if parts.any Section.isConflict then some (String.ofList (parts.flatMap Section.text)) else none

end Reconcile.Merge
