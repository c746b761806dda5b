import Reconcile.Fix.Engine
import Reconcile.Suggestion.Codec

/-!
Verifications, and what comes of validating and applying suggestions, as values of the interchange
format.
-/

namespace Reconcile

namespace Diff.Extent

def toJson (extent : Extent) : Json := .obj [
  ("linesChanged", .nat extent.changedLines), ("hunksApplied", .nat extent.hunks)]

def ofJson? (value : Json) : Option Extent := do
  let r ← value.toRecord? 2
  some {
    changedLines := ← r.required "linesChanged" 0 Json.toCount?
    hunks := ← r.required "hunksApplied" 1 Json.toCount? }

end Diff.Extent

namespace Verification

def toJson (v : Verification) : Json := .obj [
  ("conflictMarkersRemaining", .nat v.markersLeft), ("syntaxValid", .bool v.isWellFormed),
  ("diffStats", v.extent.toJson)]

def ofJson? (value : Json) : Option Verification := do
  let r ← value.toRecord? 3
  some {
    markersLeft := ← r.required "conflictMarkersRemaining" 0 Json.toCount?
    isWellFormed := ← r.required "syntaxValid" 1 Json.toBool?
    extent := ← r.required "diffStats" 2 Diff.Extent.ofJson? }

end Verification

open Json (optionalField)

namespace Validity

def toJson (v : Validity) : Json := .obj (
  [("suggestionId", .str v.id), ("valid", .bool v.isValid), ("markersPresent", .nat v.markersPresent)]
    ++ optionalField "reason" .str v.reason)

def ofJson? (value : Json) : Option Validity := do
  let r ← value.toRecord? 4
  some {
    id := ← r.required "suggestionId" 0 Json.toText?
    isValid := ← r.required "valid" 1 Json.toBool?
    markersPresent := ← r.required "markersPresent" 2 Json.toCount?
    reason := ← r.optional "reason" 3 Json.toText? }

end Validity

namespace Provenance

def toJson (p : Provenance Float) : Json := .obj [
  ("suggestionId", .str p.id), ("confidence", .ofFloat p.confidence), ("strategy", .str p.strategy),
  ("appliedAt", .ofOption Timestamp.toJson p.appliedAt)]

def ofJson? (value : Json) : Option (Provenance Float) := do
  let r ← value.toRecord? 4
  some {
    id := ← r.required "suggestionId" 0 Json.toText?
    confidence := ← r.required "confidence" 1 Json.toFloat?
    strategy := ← r.required "strategy" 2 Json.toText?
    appliedAt := ← r.nullable "appliedAt" 3 Timestamp.ofJson? }

end Provenance

namespace Application

def toJson (a : Application Float) : Json := .obj (
  [("success", .bool a.succeeded), ("applied", .bool a.applied), ("filePath", .str a.path)] ++
    optionalField "backupPath" .str a.backup ++ optionalField "rollbackCommand" .str a.command ++
    [("verification", a.verification.toJson), ("metadata", a.provenance.toJson)] ++
    optionalField "error" .str a.error)

def ofJson? (value : Json) : Option (Application Float) := do
  let r ← value.toRecord? 8
  some {
    succeeded := ← r.required "success" 0 Json.toBool?
    applied := ← r.required "applied" 1 Json.toBool?
    path := ← r.required "filePath" 2 Json.toText?
    backup := ← r.optional "backupPath" 3 Json.toText?
    command := ← r.optional "rollbackCommand" 4 Json.toText?
    verification := ← r.required "verification" 5 Verification.ofJson?
    provenance := ← r.required "metadata" 6 Provenance.ofJson?
    error := ← r.optional "error" 7 Json.toText? }

end Application

end Reconcile
