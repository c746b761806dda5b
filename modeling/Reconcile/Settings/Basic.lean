import Reconcile.Scalar

/-!
Settings, their defaults, and which of their values make sense.
-/

namespace Reconcile

namespace Settings

structure Logging where
  level : String
  dataDirectory : String
  deriving DecidableEq, Repr

structure Detection where
  comparesOutlines : Bool
  /-- Conflicts of at least so many changed lines are of high severity. -/
  highSeverityLines : Nat
  deriving DecidableEq, Repr

structure Reading where
  isEnabled : Bool
  timeout : Nat
  deriving DecidableEq, Repr

structure Fixing where
  timeout : Nat
  maxSuggestions : Nat
  keepsBackup : Bool
  deriving DecidableEq, Repr

structure Scoring (ν : Type) where
  /-- A resolution of more lines counts as large. -/
  largeResolutionLines : Nat
  semanticPenalty : ν
  sizePenalty : ν
  successRates : List (String × ν)

end Settings

open Settings in
structure Settings (ν : Type) where
  logging : Logging
  detection : Detection
  reading : Reading
  fixing : Fixing
  scoring : Scoring ν

namespace Settings

variable {ν : Type} [Scalar ν]

def Logging.standard : Logging := ⟨"info", ".mergeguard"⟩

def Detection.standard : Detection := ⟨true, 5⟩

def Reading.standard : Reading := ⟨true, 5000⟩

def Fixing.standard : Fixing := ⟨10000, 5, true⟩

def Scoring.standard : Scoring ν := ⟨50, 0.7, 0.8, []⟩

def standard : Settings ν := ⟨.standard, .standard, .standard, .standard, .standard⟩

structure Problem where
  field : String
  detail : String
  deriving DecidableEq, Repr

def Problem.message (problem : Problem) : String :=
  "invalid configuration value for '" ++ problem.field ++ "': " ++ problem.detail

def isPenalty (x : ν) : Bool := 0.0 < x && x ≤ 1.0

def problems (settings : Settings ν) : List Problem :=
  let demand (ok : Bool) (field detail : String) : List Problem :=
    if ok then [] else [⟨field, detail⟩]
  demand (settings.reading.timeout ≠ 0) "ast.parse_timeout_ms" "parse timeout must be > 0" ++
  demand (settings.fixing.timeout ≠ 0) "autofix.strategy_timeout_ms" "strategy timeout must be > 0" ++
  demand (settings.fixing.maxSuggestions ≠ 0) "autofix.max_suggestions"
    "must allow at least one suggestion" ++
  demand (settings.detection.highSeverityLines ≠ 0) "detector.high_severity_line_threshold"
    "threshold must be > 0" ++
  demand (settings.scoring.largeResolutionLines ≠ 0) "scoring.large_resolution_lines"
    "threshold must be > 0" ++
  demand (isPenalty settings.scoring.semanticPenalty) "scoring.semantic_penalty"
    "penalty must be in (0, 1]" ++
  demand (isPenalty settings.scoring.sizePenalty) "scoring.size_penalty" "penalty must be in (0, 1]" ++
  settings.scoring.successRates.flatMap fun (name, rate) =>
    demand (Scalar.isUnit rate) ("scoring.success_rates." ++ name) "success rate must be in [0, 1]"

def validate (settings : Settings ν) : Except Problem Unit :=
  match settings.problems with
  | [] => .ok ()
  | problem :: _ => .error problem

def documentLines : List String := [
  "# mergeguard configuration",
  "",
  "[logging]",
  "level = \"info\"",
  "data_dir = \".mergeguard\"",
  "",
  "[detector]",
  "analyze_semantics = true",
  "high_severity_line_threshold = 5",
  "",
  "[ast]",
  "enabled = true",
  "parse_timeout_ms = 5000",
  "",
  "[autofix]",
  "strategy_timeout_ms = 10000",
  "max_suggestions = 5",
  "create_backup = true",
  "",
  "[scoring]",
  "large_resolution_lines = 50",
  "semantic_penalty = 0.7",
  "size_penalty = 0.8",
  "",
  "# [scoring.success_rates]",
  "# TrivialMerge = 0.98"]

def standardDocument : String := String.join (documentLines.map (· ++ "\n"))

end Settings

end Reconcile
