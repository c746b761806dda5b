import Reconcile.Conflict.Basic
import Reconcile.Outline.Codec

/-!
Conflicts and reports as values of the interchange format.
-/

namespace Reconcile

open Json (Record optionalField)

def ConflictKind.toJson (kind : ConflictKind) : Json := .str kind.name

def ConflictKind.ofJson? : Json → Option ConflictKind := Json.toCase? ofName?

def Severity.toJson (severity : Severity) : Json := .str severity.name

def Severity.ofJson? : Json → Option Severity := Json.toCase? ofName?

namespace Block

def toJson (block : Block) : Json := .obj (
  [("startLine", .nat block.startLine), ("dividerLine", .nat block.dividerLine),
    ("endLine", .nat block.endLine), ("oursContent", .str block.ours),
    ("theirsContent", .str block.theirs)] ++ optionalField "baseContent" .str block.base)

def ofJson? (value : Json) : Option Block := do
  let r ← value.toRecord? 6
  some {
    startLine := ← r.required "startLine" 0 Json.toCount?
    dividerLine := ← r.required "dividerLine" 1 Json.toCount?
    endLine := ← r.required "endLine" 2 Json.toCount?
    ours := ← r.required "oursContent" 3 Json.toText?
    theirs := ← r.required "theirsContent" 4 Json.toText?
    base := ← r.optional "baseContent" 5 Json.toText? }

end Block

namespace Analysis

def toJson (analysis : Analysis) : Json := .obj (
  optionalField "astDiff" Changes.toJson analysis.changes ++
    optionalField "semanticContext" .str analysis.account)

def ofJson? (value : Json) : Option Analysis := do
  let r ← value.toRecord? 2
  some {
    changes := ← r.optional "astDiff" 0 Changes.ofJson?
    account := ← r.optional "semanticContext" 1 Json.toText? }

end Analysis

namespace Conflict

def toJson (conflict : Conflict) : Json := .obj (
  [("filePath", .str conflict.path), ("conflictType", conflict.kind.toJson),
    ("severity", conflict.severity.toJson), ("markers", .list Block.toJson conflict.blocks)] ++
    optionalField "analysis" Analysis.toJson conflict.analysis ++
    [("conflictedText", .str conflict.text)] ++
    optionalField "oursContent" .str conflict.ours ++
    optionalField "theirsContent" .str conflict.theirs ++
    optionalField "baseContent" .str conflict.base)

def ofJson? (value : Json) : Option Conflict := do
  let r ← value.toRecord? 9
  some {
    path := ← r.required "filePath" 0 Json.toText?
    kind := ← r.required "conflictType" 1 ConflictKind.ofJson?
    severity := ← r.required "severity" 2 Severity.ofJson?
    blocks := ← r.required "markers" 3 (Json.toList? Block.ofJson?)
    analysis := ← r.optional "analysis" 4 Analysis.ofJson?
    text := ← r.required "conflictedText" 5 Json.toText?
    ours := ← r.optional "oursContent" 6 Json.toText?
    theirs := ← r.optional "theirsContent" 7 Json.toText?
    base := ← r.optional "baseContent" 8 Json.toText? }

end Conflict

namespace Snapshot

def toJson (snapshot : Snapshot) : Json := .obj [
  ("filePath", .str snapshot.path), ("conflictedText", .str snapshot.text),
  ("ours", .ofOption .str snapshot.ours), ("theirs", .ofOption .str snapshot.theirs),
  ("base", .ofOption .str snapshot.base)]

def ofJson? (value : Json) : Option Snapshot := do
  let r ← value.toRecord? 5
  some {
    path := ← r.required "filePath" 0 Json.toText?
    text := ← r.required "conflictedText" 1 Json.toText?
    ours := ← r.nullable "ours" 2 Json.toText?
    theirs := ← r.nullable "theirs" 3 Json.toText?
    base := ← r.nullable "base" 4 Json.toText? }

end Snapshot

def countsToJson (keys : List κ) (name : κ → String) (count? : κ → Option Nat) : Json :=
  .obj (keys.flatMap fun key => optionalField (name key) .nat (count? key))

/-- Counts under the names of keys; every name has to be that of a key. -/
def countsOfJson? (ofName? : String → Option κ) (name : κ → String) (value : Json) :
    Option (κ → Option Nat) := do
  let entries ← value.toEntries? Json.toCount?
  if entries.all fun entry => (ofName? entry.1).isSome then
    some fun key => entries.lookup (name key)
  else none

namespace Summary

def toJson (summary : Summary) : Json := .obj [
  ("totalConflicts", .nat summary.total),
  ("byType", countsToJson ConflictKind.all ConflictKind.name summary.byKind),
  ("bySeverity", countsToJson Severity.all Severity.name summary.bySeverity),
  ("autoFixableCount", .nat summary.autoFixable)]

def ofJson? (value : Json) : Option Summary := do
  let r ← value.toRecord? 4
  some {
    total := ← r.required "totalConflicts" 0 Json.toCount?
    byKind := ← r.required "byType" 1 (countsOfJson? ConflictKind.ofName? ConflictKind.name)
    bySeverity := ← r.required "bySeverity" 2 (countsOfJson? Severity.ofName? Severity.name)
    autoFixable := ← r.required "autoFixableCount" 3 Json.toCount? }

end Summary

namespace Report

def toJson (report : Report) : Json := .obj [
  ("hasConflicts", .bool report.hasConflicts),
  ("conflicts", .list Conflict.toJson report.conflicts), ("summary", report.summary.toJson)]

def ofJson? (value : Json) : Option Report := do
  let r ← value.toRecord? 3
  some {
    hasConflicts := ← r.required "hasConflicts" 0 Json.toBool?
    conflicts := ← r.required "conflicts" 1 (Json.toList? Conflict.ofJson?)
    summary := ← r.required "summary" 2 Summary.ofJson? }

end Report

end Reconcile
