import Reconcile.Resolution.Strategy
import Reconcile.Score.Factors
import Reconcile.Settings.Basic

/-!
Scores of resolutions: a weighted sum of factors, lowered for semantic conflicts and for large
resolutions. The success rate of a strategy is a moving average over its outcomes.
-/

namespace Reconcile

variable {ν : Type} [Scalar ν]

/-- The success rates of strategies, the latest rate of a strategy first. -/
abbrev Rates (ν : Type) := List (String × ν)

namespace Rates

/-- The rate of a strategy of which nothing is known is one half. -/
def rate (rates : Rates ν) (strategy : String) : ν := (rates.lookup strategy).getD 0.5

def put (rates : Rates ν) (strategy : String) (rate : ν) : Rates ν :=
  (strategy, rate) :: rates.filter (·.1 ≠ strategy)

def initial : Rates ν :=
  [("TrivialMerge", 0.98), ("StructuralMerge", 0.85), ("ConcurrentEdit", 0.60), ("Fallback", 0.40)]

def retained : ν := 0.9

def next (old : ν) (succeeded : Bool) : ν :=
  retained * old + ((1.0 : ν) - retained) * unitOf succeeded

def record (rates : Rates ν) (strategy : String) (succeeded : Bool) : Rates ν :=
  rates.put strategy (next (rates.rate strategy) succeeded)

/-- The rates of a list, each cut to the range from zero to one, over the initial ones. -/
def configured (overrides : List (String × ν)) : Rates ν :=
  overrides.foldl (fun rates (name, rate) => rates.put name (Scalar.clampUnit rate)) initial

end Rates

def Factors.weighted (factors : Factors ν) : ν :=
  0.30 * factors.ease + 0.25 * factors.similarity + 0.25 * factors.validity + 0.20 * factors.success

namespace Settings.Scoring

def penalized (scoring : Scoring ν) (kind : ConflictKind) (sum : ν) (lines : Nat) : ν :=
  let sum := if kind = .semantic then sum * scoring.semanticPenalty else sum
  if scoring.largeResolutionLines < lines then sum * scoring.sizePenalty else sum

/-- The score of a resolution of some lines; a sum that is no number counts as zero. -/
def combine (scoring : Scoring ν) (kind : ConflictKind) (factors : Factors ν) (lines : Nat) : ν :=
  let sum := scoring.penalized kind factors.weighted lines
  if Scalar.isOrdered sum then Scalar.clampUnit sum else 0.0

end Settings.Scoring

structure Scorer (κ ν : Type) where
  scoring : Settings.Scoring ν
  reader : Outline.Reader κ
  rates : Rates ν

namespace Scorer

variable {κ : Type}

def ofSettings (settings : Settings ν) (reader : Outline.Reader κ) : Scorer κ ν :=
  ⟨settings.scoring, reader, .configured settings.scoring.successRates⟩

def record (scorer : Scorer κ ν) (strategy : String) (succeeded : Bool) : Scorer κ ν :=
  { scorer with rates := scorer.rates.record strategy succeeded }

def factorsFor (scorer : Scorer κ ν) (conflict : Conflict) (strategy : String) (isValid : Bool) :
    Factors ν :=
  ⟨conflict.ease, similarity conflict.blocks, unitOf isValid, scorer.rates.rate strategy⟩

def isValid (scorer : Scorer κ ν) (path content : String) : Bool :=
  (scorer.reader.isWellFormed? path content).getD (isQuicklyValid path content)

def factors (scorer : Scorer κ ν) (conflict : Conflict) (content strategy : String) : Factors ν :=
  scorer.factorsFor conflict strategy (scorer.isValid conflict.path content)

def score (scorer : Scorer κ ν) (conflict : Conflict) (content strategy : String) : ν :=
  scorer.scoring.combine conflict.kind (scorer.factors conflict content strategy)
    (countFilledLines content)

/-- The score with the resolved text not read. -/
def quickScore (scorer : Scorer κ ν) (conflict : Conflict) (content strategy : String) : ν :=
  scorer.scoring.combine conflict.kind
    (scorer.factorsFor conflict strategy (isQuicklyValid conflict.path content))
    (countFilledLines content)

end Scorer

end Reconcile
