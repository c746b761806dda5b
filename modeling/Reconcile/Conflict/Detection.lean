import Reconcile.Conflict.Basic
import Reconcile.Outline.Cache
import Reconcile.Settings.Basic
import Reconcile.Text.Significant

/-!
Telling the kind of a conflict: from its blocks, and from the outlines of the versions of its file
where those can be read.
-/

namespace Reconcile

def Block.isLayoutOnly (block : Block) : Bool := Text.sameSignificance block.ours block.theirs

def Block.hasBothSides (block : Block) : Bool :=
  !Text.isAllBlank block.ours && !Text.isAllBlank block.theirs

/-- The kind of a conflict with some blocks, given what its branches changed if that is known. -/
def ConflictKind.classify (blocks : List Block) (changes : Option Changes)
    (usesOutlines : Bool) : ConflictKind :=
  if blocks.all Block.isLayoutOnly then .trivial
  else if changes.any fun c => usesOutlines && !c.isEmpty && c.isAdditive then .structural
  else if changes.any fun c => !c.modified.isEmpty then .semantic
  else if blocks.all Block.hasBothSides then .concurrentEdit
  else .unknown

def Severity.of (kind : ConflictKind) (lines threshold : Nat) : Severity :=
  if kind.isAutoFixable then .low else if threshold ≤ lines then .high else .medium

def Changes.account (changes : Changes) : String :=
  let notes := (if changes.touchesImports then ["imports changed"] else []) ++
    (if changes.touchesExports then ["exports changed"] else [])
  toString changes.added.length ++ " added, " ++ toString changes.removed.length ++ " removed, " ++
    toString changes.modified.length ++ " modified top-level declarations" ++
    (if notes.isEmpty then "" else " (" ++ ", ".intercalate notes ++ ")") ++
    (if changes.modified.isEmpty then ""
     else "; both sides changed: " ++
      ", ".intercalate (changes.modified.map fun node => node.kind.name ++ " " ++ node.key.name))

/-- A detector: how it reads outlines, and from how many lines on a conflict is severe. -/
structure Detector (κ : Type) where
  reader : Outline.Reader κ
  threshold : Nat

namespace Detector

variable {κ : Type} [DecidableEq κ]

def changes? (detector : Detector κ) (path ours theirs : String) (base : Option String) :
    StateM (Outline.Cache κ) (Option Changes) := do
  let some ours ← detector.reader.cached? path ours | return none
  let some theirs ← detector.reader.cached? path theirs | return none
  match base with
  | none => return some (.ofBranches none ours theirs)
  | some base =>
    let some base ← detector.reader.cached? path base | return none
    return some (.ofBranches (some base) ours theirs)

def classify (detector : Detector κ) (conflict : Conflict) (changes : Option Changes)
    (usesOutlines : Bool) : Conflict :=
  let kind := ConflictKind.classify conflict.blocks changes usesOutlines
  { conflict with
    kind
    severity := .of kind conflict.changedLines detector.threshold
    analysis := changes.map fun c => ⟨some c, some c.account⟩ }

/-- The conflict in a file, if its path is allowed; there may be none. -/
def analyze (detector : Detector κ) (snapshot : Snapshot) (usesOutlines : Bool) :
    StateM (Outline.Cache κ) (Except Path.Refusal (Option Conflict)) := do
  if let some fault := Path.fault? snapshot.path then return .error ⟨snapshot.path, fault⟩
  let some conflict := Conflict.ofBlocks? snapshot.path snapshot.text (Block.ofText snapshot.text)
    | return .ok none
  let conflict := { conflict with
    ours := snapshot.ours, theirs := snapshot.theirs, base := snapshot.base }
  let changes ← match usesOutlines, snapshot.ours, snapshot.theirs with
    | true, some ours, some theirs => detector.changes? snapshot.path ours theirs snapshot.base
    | _, _, _ => pure none
  return .ok (some (detector.classify conflict changes usesOutlines))

/-- The conflicts in files, in their order; a file whose path is not allowed is passed over. -/
def conflicts (detector : Detector κ) (usesOutlines : Bool) :
    List Snapshot → StateM (Outline.Cache κ) (List Conflict)
  | [] => pure []
  | snapshot :: rest => do
    let found ← detector.analyze snapshot usesOutlines
    let others ← detector.conflicts usesOutlines rest
    return match found with
      | .ok (some conflict) => conflict :: others
      | _ => others

def report (detector : Detector κ) (snapshots : List Snapshot) (usesOutlines : Bool) :
    StateM (Outline.Cache κ) Report := do
  return .ofConflicts (← detector.conflicts usesOutlines snapshots)

end Detector

def Snapshot.bare (snapshot : Snapshot) : Snapshot :=
  { snapshot with base := none, ours := none, theirs := none }

def Snapshot.served (snapshots : List Snapshot) (withVersions : Bool) : List Snapshot :=
  if withVersions then snapshots else snapshots.map Snapshot.bare

end Reconcile
