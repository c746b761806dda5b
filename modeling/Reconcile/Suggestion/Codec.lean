import Reconcile.Conflict.Codec
import Reconcile.Resolution.Strategy
import Reconcile.Score.Factors
import Reconcile.Suggestion.Basic

/-!
Resolutions, factors and suggestions as values of the interchange format.
-/

namespace Reconcile

namespace Resolution

def toJson (resolution : Resolution) : Json := .obj [
  ("content", .str resolution.content), ("strategyName", .str resolution.strategy),
  ("explanation", .str resolution.explanation)]

def ofJson? (value : Json) : Option Resolution := do
  let r ← value.toRecord? 3
  some {
    content := ← r.required "content" 0 Json.toText?
    strategy := ← r.required "strategyName" 1 Json.toText?
    explanation := ← r.required "explanation" 2 Json.toText? }

end Resolution

namespace Factors

def toJson (factors : Factors Float) : Json := .obj [
  ("complexity", .ofFloat factors.ease), ("similarity", .ofFloat factors.similarity),
  ("astValidity", .ofFloat factors.validity), ("strategySuccess", .ofFloat factors.success)]

def ofJson? (value : Json) : Option (Factors Float) := do
  let r ← value.toRecord? 4
  some {
    ease := ← r.required "complexity" 0 Json.toFloat?
    similarity := ← r.required "similarity" 1 Json.toFloat?
    validity := ← r.required "astValidity" 2 Json.toFloat?
    success := ← r.required "strategySuccess" 3 Json.toFloat? }

end Factors

def Timestamp.toJson (t : Timestamp) : Json := .str t.shown

def Timestamp.ofJson? (value : Json) : Option Timestamp := value.toText?.bind ofShown?

namespace Suggestion

def toJson (s : Suggestion Float) : Json := .obj [
  ("id", .str s.id), ("repoPath", .str s.repository), ("filePath", .str s.path),
  ("conflictType", s.kind.toJson), ("suggestedResolution", .str s.resolution),
  ("confidenceScore", .ofFloat s.confidence), ("explanation", .str s.explanation),
  ("strategyUsed", .str s.strategy), ("baseContent", .ofOption .str s.base),
  ("sourceContent", .ofOption .str s.source), ("targetContent", .ofOption .str s.target),
  ("metadata", s.metadata), ("createdAt", s.createdAt.toJson),
  ("appliedAt", .ofOption Timestamp.toJson s.appliedAt),
  ("rolledBackAt", .ofOption Timestamp.toJson s.rolledBackAt)]

def ofJson? (value : Json) : Option (Suggestion Float) := do
  let r ← value.toRecord? 15
  some {
    id := ← r.required "id" 0 Json.toText?
    repository := ← r.required "repoPath" 1 Json.toText?
    path := ← r.required "filePath" 2 Json.toText?
    kind := ← r.required "conflictType" 3 ConflictKind.ofJson?
    resolution := ← r.required "suggestedResolution" 4 Json.toText?
    confidence := ← r.required "confidenceScore" 5 Json.toFloat?
    explanation := ← r.required "explanation" 6 Json.toText?
    strategy := ← r.required "strategyUsed" 7 Json.toText?
    base := ← r.nullable "baseContent" 8 Json.toText?
    source := ← r.nullable "sourceContent" 9 Json.toText?
    target := ← r.nullable "targetContent" 10 Json.toText?
    metadata := ← r.required "metadata" 11 some
    createdAt := ← r.required "createdAt" 12 Timestamp.ofJson?
    appliedAt := ← r.nullable "appliedAt" 13 Timestamp.ofJson?
    rolledBackAt := ← r.nullable "rolledBackAt" 14 Timestamp.ofJson? }

end Suggestion

end Reconcile
