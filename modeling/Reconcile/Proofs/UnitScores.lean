import Mathlib
import Reconcile.Proofs.Exchange
import Reconcile.Proofs.Learning
import Reconcile.Proofs.RoundTrip

/-!
# Scores in the unit interval

In exact fractions a score is a product: the weighted sum of four factors, by the penalties that apply.
Every factor is a share. A similarity is a mean of shares of matched lines, and a success rate stays in
the unit interval since each outcome moves it a tenth of the way to one of the ends. Settings that make
sense have penalties of at most one. So no score is ever cut at an end of the range, where it would lose
its place among others.
-/

namespace Reconcile

open Set

variable {κ : Type}

/-! ### Factors -/

theorem Conflict.ease_mem (conflict : Conflict) : (conflict.ease : Rat) ∈ Icc 0 1 := by
  unfold ease
  cases conflict.kind <;> dsimp only <;> try split_ifs
  all_goals norm_num

theorem unitOf_mem (holds : Bool) : (unitOf holds : Rat) ∈ Icc 0 1 := by
  cases holds <;> norm_num [unitOf]

theorem Scalar.clampUnit_mem (x : Rat) : clampUnit x ∈ Icc 0 1 := by
  unfold clampUnit
  split_ifs with hlow hhigh <;> norm_num at *
  exact ⟨hlow, hhigh⟩

namespace Rates

/-- Every strategy, known or not, has a rate in the unit interval. -/
def IsUnit (rates : Rates Rat) : Prop := ∀ strategy, rates.rate strategy ∈ Icc 0 1

theorem isUnit_put {rates : Rates Rat} (h : rates.IsUnit) (strategy : String) {rate : Rat}
    (hrate : rate ∈ Icc 0 1) : (rates.put strategy rate).IsUnit := by
  intro other
  rw [rate_put]
  split_ifs
  · exact hrate
  · exact h other

theorem isUnit_initial : (initial : Rates Rat).IsUnit := by
  have hentries : ∀ entry ∈ (initial : Rates Rat), entry.2 ∈ Icc 0 1 := by
    norm_num [initial]
  intro strategy
  unfold rate
  cases hlookup : (initial : Rates Rat).lookup strategy with
  | none => norm_num
  | some rate =>
      obtain ⟨before, after, hsplit, -⟩ := List.lookup_eq_some_iff.mp hlookup
      exact hentries (strategy, rate) (by simp [hsplit])

theorem isUnit_configured (overrides : List (String × Rat)) : (configured overrides).IsUnit := by
  unfold configured
  refine List.foldlRecOn overrides _ isUnit_initial ?_
  intro rates hrates entry _
  exact isUnit_put hrates entry.1 (Scalar.clampUnit_mem entry.2)

/-- An outcome moves a rate a tenth of the way to one of the ends. -/
theorem next_mem {old : Rat} (h : old ∈ Icc 0 1) (succeeded : Bool) : next old succeeded ∈ Icc 0 1 := by
  have hunit := unitOf_mem succeeded
  unfold next retained
  constructor
  · linarith [h.1, hunit.1]
  · linarith [h.2, hunit.2]

theorem isUnit_record {rates : Rates Rat} (h : rates.IsUnit) (strategy : String) (succeeded : Bool) :
    (rates.record strategy succeeded).IsUnit :=
  isUnit_put h strategy (next_mem (h strategy) succeeded)

theorem isUnit_learn {rates : Rates Rat} (h : rates.IsUnit) (outcomes : List Outcome) :
    (rates.learn outcomes).IsUnit := by
  induction outcomes generalizing rates with
  | nil => exact h
  | cons outcome rest ih => exact ih (isUnit_record h outcome.strategy outcome.succeeded)

end Rates

/-- The factors of a score are shares. -/
structure Factors.IsUnit (factors : Factors Rat) : Prop where
  ease : factors.ease ∈ Icc 0 1
  similarity : factors.similarity ∈ Icc 0 1
  validity : factors.validity ∈ Icc 0 1
  success : factors.success ∈ Icc 0 1

/-- Factors none of which is larger than the one of others. -/
structure Factors.AtMost (factors others : Factors Rat) : Prop where
  ease : factors.ease ≤ others.ease
  similarity : factors.similarity ≤ others.similarity
  validity : factors.validity ≤ others.validity
  success : factors.success ≤ others.success

namespace Factors

variable {factors others : Factors Rat}

/-- The weights are those of a mean. -/
theorem IsUnit.weighted_mem (h : factors.IsUnit) : factors.weighted ∈ Icc 0 1 := by
  unfold weighted
  constructor
  · linarith [h.ease.1, h.similarity.1, h.validity.1, h.success.1]
  · linarith [h.ease.2, h.similarity.2, h.validity.2, h.success.2]

theorem AtMost.weighted_le (h : factors.AtMost others) : factors.weighted ≤ others.weighted := by
  unfold weighted
  linarith [h.ease, h.similarity, h.validity, h.success]

end Factors

/-! ### Penalties -/

namespace Scalar

theorem clampUnit_eq (x : Rat) : clampUnit x = max 0 (min x 1) := by
  unfold clampUnit
  norm_num
  split_ifs with hlow hhigh
  · rw [min_eq_left (by linarith), max_eq_left hlow.le]
  · rw [min_eq_right hhigh.le, max_eq_right zero_le_one]
  · rw [min_eq_left (not_lt.mp hhigh), max_eq_right (not_lt.mp hlow)]

theorem clampUnit_mono {x y : Rat} (h : x ≤ y) : clampUnit x ≤ clampUnit y := by
  rw [clampUnit_eq, clampUnit_eq]
  gcongr

/-- A smaller penalty of a negative sum makes no difference, since the sum counts as zero anyway. -/
theorem clampUnit_mul_le {x p q : Rat} (hp : 0 ≤ p) (hpq : p ≤ q) :
    clampUnit (x * p) ≤ clampUnit (x * q) := by
  rcases le_total 0 x with hx | hx
  · exact clampUnit_mono (mul_le_mul_of_nonneg_left hpq hx)
  · rw [clampUnit_eq, clampUnit_eq]
    refine max_le (le_max_left _ _) ((min_le_left _ _).trans ?_)
    exact (mul_nonpos_of_nonpos_of_nonneg hx hp).trans (le_max_left _ _)

end Scalar

namespace Settings

variable {settings : Settings Rat}

/-- A penalty lowers a sum, yet leaves something of it. -/
structure Scoring.IsSensible (scoring : Scoring Rat) : Prop where
  semantic : scoring.semanticPenalty ∈ Ioc 0 1
  size : scoring.sizePenalty ∈ Ioc 0 1

theorem mem_of_isPenalty {x : Rat} (h : isPenalty x) : x ∈ Ioc 0 1 := by
  unfold isPenalty at h
  norm_num at h
  exact h

theorem isSensible_of_validate (h : settings.validate = .ok ()) : settings.scoring.IsSensible := by
  have hnone : settings.problems = [] := by
    unfold validate at h
    split at h
    · assumption
    · cases h
  simp only [problems, List.append_eq_nil_iff, ite_eq_left_iff, reduceCtorEq, imp_false, not_not] at hnone
  obtain ⟨⟨⟨_, hsemantic⟩, hsize⟩, -⟩ := hnone
  exact ⟨mem_of_isPenalty hsemantic, mem_of_isPenalty hsize⟩

namespace Scoring

variable {scoring : Scoring Rat} {factors others : Factors Rat} {kind : ConflictKind} {lines : Nat}

/-- What is left of a whole after the penalties that apply. -/
def remainder (scoring : Scoring Rat) (kind : ConflictKind) (lines : Nat) : Rat :=
  (if kind = .semantic then scoring.semanticPenalty else 1) *
    if scoring.largeResolutionLines < lines then scoring.sizePenalty else 1

/-- Scoring with some of its penalties waived. -/
def waiving (scoring : Scoring Rat) (semantic size : Bool) : Scoring Rat where
  __ := scoring
  semanticPenalty := if semantic then 1 else scoring.semanticPenalty
  sizePenalty := if size then 1 else scoring.sizePenalty

theorem penalized_eq (scoring : Scoring Rat) (kind : ConflictKind) (sum : Rat) (lines : Nat) :
    scoring.penalized kind sum lines = sum * scoring.remainder kind lines := by
  unfold penalized remainder
  split_ifs <;> ring

theorem combine_eq (scoring : Scoring Rat) (kind : ConflictKind) (factors : Factors Rat) (lines : Nat) :
    scoring.combine kind factors lines =
      Scalar.clampUnit (factors.weighted * scoring.remainder kind lines) := by
  rw [combine, if_pos (Scalar.isOrdered_rat _), penalized_eq]

namespace IsSensible

theorem remainder_mem (h : scoring.IsSensible) (kind : ConflictKind) (lines : Nat) :
    scoring.remainder kind lines ∈ Ioc 0 1 := by
  have hparts : ∀ p q : Rat, p ∈ Ioc 0 1 → q ∈ Ioc 0 1 → p * q ∈ Ioc 0 1 := fun p q hp hq =>
    ⟨mul_pos hp.1 hq.1, mul_le_one₀ hp.2 hq.1.le hq.2⟩
  have hone : (1 : Rat) ∈ Ioc 0 1 := ⟨one_pos, le_rfl⟩
  unfold remainder
  apply hparts
  · split_ifs
    exacts [h.semantic, hone]
  · split_ifs
    exacts [h.size, hone]

theorem remainder_le_waiving (h : scoring.IsSensible) (semantic size : Bool) (kind : ConflictKind)
    (lines : Nat) :
    scoring.remainder kind lines ≤ (scoring.waiving semantic size).remainder kind lines := by
  have hsemantic : 0 ≤ scoring.semanticPenalty ∧ scoring.semanticPenalty ≤ 1 :=
    ⟨h.semantic.1.le, h.semantic.2⟩
  have hsize : 0 ≤ scoring.sizePenalty ∧ scoring.sizePenalty ≤ 1 := ⟨h.size.1.le, h.size.2⟩
  unfold remainder waiving
  apply mul_le_mul
  · cases semantic <;> split_ifs <;> simp [hsemantic]
  · cases size <;> split_ifs <;> simp_all
  · split_ifs <;> simp [hsize]
  · cases semantic <;> split_ifs <;> simp [hsemantic]

theorem penalized_mem (h : scoring.IsSensible) (hfactors : factors.IsUnit) :
    scoring.penalized kind factors.weighted lines ∈ Icc 0 1 := by
  have hweighted := hfactors.weighted_mem
  have hremainder := h.remainder_mem kind lines
  rw [penalized_eq]
  exact ⟨mul_nonneg hweighted.1 hremainder.1.le, mul_le_one₀ hweighted.2 hremainder.1.le hremainder.2⟩

theorem combine_eq_penalized (h : scoring.IsSensible) (hfactors : factors.IsUnit) :
    scoring.combine kind factors lines = scoring.penalized kind factors.weighted lines := by
  have hmem : scoring.penalized kind factors.weighted lines ∈ Icc 0 1 := h.penalized_mem hfactors
  rw [combine_eq, ← penalized_eq]
  exact Scalar.clampUnit_eq_self hmem.1 hmem.2

theorem combine_mono (h : scoring.IsSensible) (hfactors : factors.AtMost others) :
    scoring.combine kind factors lines ≤ scoring.combine kind others lines := by
  rw [combine_eq, combine_eq]
  exact Scalar.clampUnit_mono
    (mul_le_mul_of_nonneg_right hfactors.weighted_le (h.remainder_mem kind lines).1.le)

theorem combine_le_waiving (h : scoring.IsSensible) (semantic size : Bool) (kind : ConflictKind)
    (factors : Factors Rat) (lines : Nat) :
    scoring.combine kind factors lines ≤ (scoring.waiving semantic size).combine kind factors lines := by
  rw [combine_eq, combine_eq]
  exact Scalar.clampUnit_mul_le (h.remainder_mem kind lines).1.le (h.remainder_le_waiving ..)

end IsSensible

end Scoring

end Settings

/-! ### Scores -/

namespace Scorer

variable {settings : Settings Rat} {scorer : Scorer κ Rat}

/-- The scorers of some settings, whatever outcomes were recorded. -/
def IsOf (scorer : Scorer κ Rat) (settings : Settings Rat) : Prop :=
  ∃ (reader : Outline.Reader κ) (outcomes : List Outcome), scorer = outcomes.foldl
    (fun scorer outcome => scorer.record outcome.strategy outcome.succeeded) (ofSettings settings reader)

/-- A scorer with some of its penalties waived. -/
def waiving (scorer : Scorer κ Rat) (semantic size : Bool) : Scorer κ Rat :=
  { scorer with scoring := scorer.scoring.waiving semantic size }

theorem scoring_foldl_record (scorer : Scorer κ Rat) (outcomes : List Outcome) :
    (outcomes.foldl (fun scorer outcome => scorer.record outcome.strategy outcome.succeeded)
      scorer).scoring = scorer.scoring := by
  induction outcomes generalizing scorer with
  | nil => rfl
  | cons outcome rest ih => exact ih (scorer.record outcome.strategy outcome.succeeded)

namespace IsOf

theorem scoring_eq (h : scorer.IsOf settings) : scorer.scoring = settings.scoring := by
  obtain ⟨reader, outcomes, rfl⟩ := h
  exact scoring_foldl_record _ outcomes

theorem isUnit_rates (h : scorer.IsOf settings) : scorer.rates.IsUnit := by
  obtain ⟨reader, outcomes, rfl⟩ := h
  rw [Engine.rates_foldl_record]
  exact Rates.isUnit_learn (Rates.isUnit_configured _) outcomes

theorem isUnit_factorsFor (h : scorer.IsOf settings) (conflict : Conflict) (strategy : String)
    (isValid : Bool) : (scorer.factorsFor conflict strategy isValid).IsUnit :=
  ⟨conflict.ease_mem, similarity_mem conflict.blocks, unitOf_mem isValid, h.isUnit_rates strategy⟩

end IsOf

/-- Under settings that make sense a score is the penalized sum of shares, which lies in the unit interval
as it is. No factor lowers a score by growing, and no penalty raises one. -/
theorem score_is_penalized (hvalid : settings.validate = .ok ()) (hscorer : scorer.IsOf settings)
    (conflict : Conflict) (content strategy : String) :
    (scorer.factors conflict content strategy).IsUnit ∧
    (∀ isValid, (scorer.factorsFor conflict strategy isValid).IsUnit) ∧
    scorer.scoring.penalized conflict.kind (scorer.factors conflict content strategy).weighted
      (countFilledLines content) ∈ Icc 0 1 ∧
    scorer.score conflict content strategy = scorer.scoring.penalized conflict.kind
      (scorer.factors conflict content strategy).weighted (countFilledLines content) ∧
    scorer.quickScore conflict content strategy = scorer.scoring.penalized conflict.kind
      (scorer.factorsFor conflict strategy (isQuicklyValid conflict.path content)).weighted
      (countFilledLines content) ∧
    scorer.quickScore conflict content strategy ∈ Icc 0 1 ∧
    (∀ (kind : ConflictKind) (lines : Nat) (factors others : Factors Rat), factors.AtMost others →
      scorer.scoring.combine kind factors lines ≤ scorer.scoring.combine kind others lines) ∧
    ∀ semantic size,
      scorer.score conflict content strategy ≤
        (scorer.waiving semantic size).score conflict content strategy ∧
      scorer.quickScore conflict content strategy ≤
        (scorer.waiving semantic size).quickScore conflict content strategy := by
  have hsensible : scorer.scoring.IsSensible := by
    rw [hscorer.scoring_eq]
    exact Settings.isSensible_of_validate hvalid
  have hfactors := hscorer.isUnit_factorsFor conflict strategy
  refine ⟨hfactors _, hfactors, hsensible.penalized_mem (hfactors _),
    hsensible.combine_eq_penalized (hfactors _), hsensible.combine_eq_penalized (hfactors _), ?_,
    fun _ _ _ _ hle => hsensible.combine_mono hle, ?_⟩
  · rw [quickScore, hsensible.combine_eq_penalized (hfactors _)]
    exact hsensible.penalized_mem (hfactors _)
  · intro semantic size
    exact ⟨hsensible.combine_le_waiving semantic size .., hsensible.combine_le_waiving semantic size ..⟩

/-- Settings with a heavy penalty, none for size, and a strategy that has always succeeded. -/
def strict : Settings Rat where
  __ := (Settings.standard : Settings Rat)
  scoring := ⟨1, 0.01, 1, [("Custom", 1)]⟩

/-- After failures of that strategy and of an unknown one. -/
def disappointed : Scorer String Rat :=
  ((ofSettings strict Engine.silentReader).record "Custom" false).record "Other" false

/-- The conflict counts as semantic, so that the penalty applies. -/
def semanticConflict : Conflict := { Engine.formerConflict with kind := .semantic }

theorem score_is_penalized_disappointed :
    strict.validate = .ok () ∧ disappointed.IsOf strict ∧
    disappointed.rates.rate "Custom" = 0.9 ∧ disappointed.rates.rate "Other" = 0.45 ∧
    disappointed.score semanticConflict "a\nb\n" "Other" = disappointed.scoring.penalized .semantic
      (disappointed.factors semanticConflict "a\nb\n" "Other").weighted 2 := by
  have hvalid : strict.validate = .ok () := by decide +kernel
  have hscorer : disappointed.IsOf strict :=
    ⟨Engine.silentReader, [⟨"Custom", false⟩, ⟨"Other", false⟩], rfl⟩
  have hlines : countFilledLines "a\nb\n" = 2 := by decide +kernel
  obtain ⟨-, -, -, hscore, -⟩ := score_is_penalized hvalid hscorer semanticConflict "a\nb\n" "Other"
  rw [hlines] at hscore
  exact ⟨hvalid, hscorer, by decide +kernel, by decide +kernel, hscore⟩

end Scorer

end Reconcile
