import Reconcile.Files.Disk
import Reconcile.Json.Codec
import Reconcile.Settings.Basic
import Reconcile.Toml.Reader

/-!
Settings as values, and as documents. A section that is missing, or a setting that is missing from
its section, has its standard value.
-/

namespace Reconcile.Settings

open Json (Record)

/-- How the record in a section's value is found, given the number of the section's settings. -/
abbrev SectionReader := Nat → Json → Option Record

def Logging.read? (section? : SectionReader) (value : Json) : Option Logging := do
  let r ← section? 2 value
  some {
    level := ← r.default "level" 0 Json.toText? Logging.standard.level
    dataDirectory := ← r.default "data_dir" 1 Json.toText? Logging.standard.dataDirectory }

def Detection.read? (section? : SectionReader) (value : Json) : Option Detection := do
  let r ← section? 2 value
  let std := Detection.standard
  some {
    comparesOutlines := ← r.default "analyze_semantics" 0 Json.toBool? std.comparesOutlines
    highSeverityLines := ←
      r.default "high_severity_line_threshold" 1 Json.toCount? std.highSeverityLines }

def Reading.read? (section? : SectionReader) (value : Json) : Option Reading := do
  let r ← section? 2 value
  some {
    isEnabled := ← r.default "enabled" 0 Json.toBool? Reading.standard.isEnabled
    timeout := ← r.default "parse_timeout_ms" 1 Json.toCount? Reading.standard.timeout }

def Fixing.read? (section? : SectionReader) (value : Json) : Option Fixing := do
  let r ← section? 3 value
  let std := Fixing.standard
  some {
    timeout := ← r.default "strategy_timeout_ms" 0 Json.toCount? std.timeout
    maxSuggestions := ← r.default "max_suggestions" 1 Json.toCount? std.maxSuggestions
    keepsBackup := ← r.default "create_backup" 2 Json.toBool? std.keepsBackup }

def Scoring.read? (section? : SectionReader) (value : Json) : Option (Scoring Float) := do
  let r ← section? 4 value
  let std : Scoring Float := .standard
  some {
    largeResolutionLines := ←
      r.default "large_resolution_lines" 0 Json.toCount? std.largeResolutionLines
    semanticPenalty := ← r.default "semantic_penalty" 1 Json.toFloat? std.semanticPenalty
    sizePenalty := ← r.default "size_penalty" 2 Json.toFloat? std.sizePenalty
    successRates := ← r.default "success_rates" 3 (Json.toEntries? Json.toFloat?) [] }

def read? (section? : SectionReader) (value : Json) : Option (Settings Float) := do
  let r ← section? 5 value
  some {
    logging := ← r.default "logging" 0 (Logging.read? section?) .standard
    detection := ← r.default "detector" 1 (Detection.read? section?) .standard
    reading := ← r.default "ast" 2 (Reading.read? section?) .standard
    fixing := ← r.default "autofix" 3 (Fixing.read? section?) .standard
    scoring := ← r.default "scoring" 4 (Scoring.read? section?) .standard }

def ofJson? : Json → Option (Settings Float) := read? fun size => Json.toRecord? size

def ofDocument? (text : String) : Option (Settings Float) := do
  read? (fun _ => Json.toLongRecord?) (← Toml.parse? text)

def toJson (settings : Settings Float) : Json := .obj [
  ("logging", .obj [
    ("level", .str settings.logging.level), ("data_dir", .str settings.logging.dataDirectory)]),
  ("detector", .obj [
    ("analyze_semantics", .bool settings.detection.comparesOutlines),
    ("high_severity_line_threshold", .nat settings.detection.highSeverityLines)]),
  ("ast", .obj [
    ("enabled", .bool settings.reading.isEnabled),
    ("parse_timeout_ms", .nat settings.reading.timeout)]),
  ("autofix", .obj [
    ("strategy_timeout_ms", .nat settings.fixing.timeout),
    ("max_suggestions", .nat settings.fixing.maxSuggestions),
    ("create_backup", .bool settings.fixing.keepsBackup)]),
  ("scoring", .obj [
    ("large_resolution_lines", .nat settings.scoring.largeResolutionLines),
    ("semantic_penalty", .ofFloat settings.scoring.semanticPenalty),
    ("size_penalty", .ofFloat settings.scoring.sizePenalty),
    ("success_rates", .obj (settings.scoring.successRates.map fun (name, rate) =>
      (name, .ofFloat rate)))])]

inductive LoadError where
  | notFound (path : String)
  | unreadable (cause : FileError)
  | malformed
  | invalid (problem : Problem)
  deriving DecidableEq, Repr

def LoadError.message : LoadError → String
  | notFound path => "configuration file not found: " ++ path
  | unreadable cause => "configuration I/O error: " ++ cause.message
  | malformed => "configuration parse error"
  | invalid problem => problem.message

def load (path : String) : Except FileError Contents → Except LoadError (Settings Float)
  | .error .isDirectory => .error (.unreadable .isDirectory)
  | .error _ => .error (.notFound path)
  | .ok (.raw _) => .error (.unreadable .notText)
  | .ok (.text text) => (ofDocument? text).elim (.error .malformed) .ok

/-- The settings in what is found at a path, or the standard ones where there is nothing. -/
def loadOrStandard (path : String) (found : Except FileError Contents) : Except LoadError (Settings Float) :=
  match load path found with
  | .error (.notFound _) => .ok standard
  | result => result

/-- The settings in what is found at a path, or the standard ones, provided they make sense. -/
def loadValid (path : String) (found : Except FileError Contents) : Except LoadError (Settings Float) := do
  let settings ← loadOrStandard path found
  match settings.validate with
  | .ok () => .ok settings
  | .error problem => .error (.invalid problem)

end Reconcile.Settings
