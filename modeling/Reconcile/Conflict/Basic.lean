import Reconcile.Block.Basic
import Reconcile.Outline.Basic
import Reconcile.Total

/-!
Conflicted files: what kind of conflict they hold, how urgent it is, and a summary over files.
-/

namespace Reconcile

/-- What sets the two sides of a conflict apart: layout or comment lines only, added declarations or imports
and exports only, declarations that were changed, or edits of the same lines. -/
inductive ConflictKind where
  | trivial
  | structural
  | semantic
  | concurrentEdit
  | unknown
  deriving DecidableEq, Repr

inductive Severity where
  | low
  | medium
  | high
  deriving DecidableEq, Repr

/-- A name that stands for no value of a field. -/
structure UnknownName where
  field : String
  value : String
  deriving DecidableEq, Repr

def UnknownName.message (unknown : UnknownName) : String :=
  "invalid value '" ++ unknown.value ++ "' for " ++ unknown.field

def capitals (name : String) : String := String.ofList (name.toList.map Char.toUpper)

namespace ConflictKind

def all : List ConflictKind := [trivial, structural, semantic, concurrentEdit, unknown]

def name : ConflictKind → String
  | trivial => "TRIVIAL"
  | structural => "STRUCTURAL"
  | semantic => "SEMANTIC"
  | concurrentEdit => "CONCURRENT_EDIT"
  | unknown => "UNKNOWN"

def ofName? (name : String) : Option ConflictKind := all.find? (·.name = name)

def ofAnyCase (name : String) : Except UnknownName ConflictKind :=
  (ofName? (capitals name)).elim (.error ⟨"conflict_type", name⟩) .ok

/-- Kinds that are safe to resolve without a person. -/
def isAutoFixable (kind : ConflictKind) : Bool := kind = trivial || kind = structural

end ConflictKind

namespace Severity

def all : List Severity := [low, medium, high]

def name : Severity → String
  | low => "LOW"
  | medium => "MEDIUM"
  | high => "HIGH"

def ofName? (name : String) : Option Severity := all.find? (·.name = name)

def ofAnyCase (name : String) : Except UnknownName Severity :=
  (ofName? (capitals name)).elim (.error ⟨"severity", name⟩) .ok

end Severity

structure Analysis where
  changes : Option Changes
  account : Option String
  deriving DecidableEq, Repr

structure Conflict where
  path : String
  kind : ConflictKind
  severity : Severity
  blocks : List Block
  analysis : Option Analysis
  text : String
  ours : Option String
  theirs : Option String
  base : Option String
  deriving DecidableEq, Repr

namespace Conflict

/-- A conflict that has not been classified; there is none without a block. -/
def ofBlocks? (path text : String) (blocks : List Block) : Option Conflict :=
  if blocks.isEmpty then none
  else some { path, kind := .unknown, severity := .medium, blocks, analysis := none, text
              ours := none, theirs := none, base := none }

def changedLines (conflict : Conflict) : Nat := total (conflict.blocks.map Block.changedLines)

def changes? (conflict : Conflict) : Option Changes := conflict.analysis.bind (·.changes)

end Conflict

/-- A conflicted file as it was found: the text with markers, and the versions that are known. -/
structure Snapshot where
  path : String
  text : String
  base : Option String
  ours : Option String
  theirs : Option String
  deriving DecidableEq, Repr

/-- Counts over conflicts; a kind that does not occur has no count. -/
structure Summary where
  total : Nat
  byKind : ConflictKind → Option Nat
  bySeverity : Severity → Option Nat
  autoFixable : Nat

namespace Summary

def nonzero (n : Nat) : Option Nat := if n = 0 then none else some n

def ofConflicts (conflicts : List Conflict) : Summary where
  total := conflicts.length
  byKind kind := nonzero (conflicts.countP (·.kind = kind))
  bySeverity severity := nonzero (conflicts.countP (·.severity = severity))
  autoFixable := conflicts.countP (·.kind.isAutoFixable)

end Summary

structure Report where
  hasConflicts : Bool
  conflicts : List Conflict
  summary : Summary

def Report.ofConflicts (conflicts : List Conflict) : Report :=
  ⟨!conflicts.isEmpty, conflicts, .ofConflicts conflicts⟩

end Reconcile
