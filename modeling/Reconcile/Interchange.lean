import Reconcile.Conflict.Codec
import Reconcile.Fix.Codec
import Reconcile.Settings.Codec

/-!
The kinds of data that have a form in the interchange format, by their names there.
-/

namespace Reconcile.Interchange

/-- A value read as data and written again. -/
def normalForm (decode : Json → Option α) (encode : α → Json) (value : Json) : Option Json :=
  (decode value).map encode

def kinds : List (String × (Json → Option Json)) := [
  ("ConflictType", normalForm ConflictKind.ofJson? ConflictKind.toJson),
  ("Severity", normalForm Severity.ofJson? Severity.toJson),
  ("DeclarationKind", normalForm DeclarationKind.ofJson? DeclarationKind.toJson),
  ("LineSpan", normalForm LineSpan.ofJson? LineSpan.toJson),
  ("ConflictMarker", normalForm Block.ofJson? Block.toJson),
  ("ConflictAnalysis", normalForm Analysis.ofJson? Analysis.toJson),
  ("Conflict", normalForm Conflict.ofJson? Conflict.toJson),
  ("NodeDescriptor", normalForm ChangedNode.ofJson? ChangedNode.toJson),
  ("StructuralDiff", normalForm Changes.ofJson? Changes.toJson),
  ("Resolution", normalForm Resolution.ofJson? Resolution.toJson),
  ("AutoFixSuggestion", normalForm Suggestion.ofJson? Suggestion.toJson),
  ("ConfidenceFactors", normalForm Factors.ofJson? Factors.toJson),
  ("ConflictReport", normalForm Report.ofJson? Report.toJson),
  ("ReportSummary", normalForm Summary.ofJson? Summary.toJson),
  ("FileSnapshot", normalForm Snapshot.ofJson? Snapshot.toJson),
  ("DiffStats", normalForm Diff.Extent.ofJson? Diff.Extent.toJson),
  ("Verification", normalForm Verification.ofJson? Verification.toJson),
  ("SuggestionValidation", normalForm Validity.ofJson? Validity.toJson),
  ("ApplyMetadata", normalForm Provenance.ofJson? Provenance.toJson),
  ("ApplyResult", normalForm Application.ofJson? Application.toJson),
  ("EngineConfig", normalForm Settings.ofJson? Settings.toJson)]

def normalize? (kind : String) (value : Json) : Option Json :=
  (kinds.lookup kind).bind (· value)

end Reconcile.Interchange
