import Mathlib
import Reconcile.Proofs.Matching
import Reconcile.Resolution.Strategy
import Reconcile.Score.Scorer

/-!
# Conflicts of layout alone

Where the sides of every block differ in layout only, they match line for line, so of the factors of the
score only the success rate falls short of one. What is left of the score is a little less than one, and
the penalty for many lines takes it below four fifths.
-/

namespace Reconcile

variable {κ κ' : Type}

/-! ### Factors of one -/

theorem Block.perm_lines_of_isLayoutOnly {block : Block} (h : block.isLayoutOnly) :
    block.ourLines.Perm block.theirLines :=
  .of_eq (of_decide_eq_true h)

theorem similarity_of_isLayoutOnly {blocks : List Block}
    (h : ∀ block ∈ blocks, block.isLayoutOnly) : (similarity blocks : Rat) = 1 :=
  similarity_eq_one_iff.mpr fun block hblock => Block.perm_lines_of_isLayoutOnly (h block hblock)

/-! ### The score -/

variable {conflict : Conflict} {detector : Detector κ} {reader : Outline.Reader κ'}
  {snapshot : Snapshot}

theorem Rates.rate_configured_trivialMerge :
    Rates.rate (.configured []) "TrivialMerge" = (0.98 : Rat) := by
  rfl

theorem Scorer.isValid_of_parses {path content : String} {scorer : Scorer κ' Rat}
    (h : Language.ofPath? path = none ∨ (scorer.reader.fresh? path content).isSome) :
    scorer.isValid path content := by
  unfold isValid Outline.Reader.isWellFormed? isQuicklyValid
  obtain hnone | hparses := h
  · simp [hnone]
  · -- A reader that is switched off parses nothing.
    have henabled : scorer.reader.isEnabled := by
      by_contra hdisabled
      simp [Outline.Reader.fresh?, hdisabled] at hparses
    cases hlanguage : Language.ofPath? path with
    | none => simp [henabled]
    | some language => simp [henabled, hparses]

theorem Scorer.factors_of_isLayoutOnly {content : String} (hkind : conflict.kind = .trivial)
    (hlayout : ∀ block ∈ conflict.blocks, block.isLayoutOnly)
    (hvalid : (ofSettings (.standard : Settings Rat) reader).isValid conflict.path content) :
    (ofSettings (.standard : Settings Rat) reader).factors conflict content "TrivialMerge" =
      ⟨1, 1, 1, 0.98⟩ := by
  have hease : (conflict.ease : Rat) = 1 := by
    rw [Conflict.ease, hkind]
    norm_num
  have hunit : (unitOf true : Rat) = 1 := by
    rw [unitOf, if_pos rfl]
    norm_num
  rw [factors, factorsFor, hease, similarity_of_isLayoutOnly hlayout, hvalid, hunit]
  exact congrArg (Factors.mk 1 1 1) Rates.rate_configured_trivialMerge

theorem Scalar.isOrdered_rat (x : Rat) : isOrdered x := decide_eq_true (le_refl x)

theorem Scalar.clampUnit_eq_self {x : Rat} (hzero : 0 ≤ x) (hone : x ≤ 1) : clampUnit x = x := by
  have hlow : ¬x < 0.0 := by norm_num [hzero]
  have hhigh : ¬(1.0 : Rat) < x := by norm_num [hone]
  rw [clampUnit, if_neg hlow, if_neg hhigh]

theorem Scorer.score_of_isLayoutOnly {content : String} (hkind : conflict.kind = .trivial)
    (hlayout : ∀ block ∈ conflict.blocks, block.isLayoutOnly)
    (hvalid : (ofSettings (.standard : Settings Rat) reader).isValid conflict.path content) :
    (ofSettings (.standard : Settings Rat) reader).score conflict content "TrivialMerge" =
      if 50 < countFilledLines content then 0.7968 else 0.996 := by
  have hweighted : (⟨1, 1, 1, 0.98⟩ : Factors Rat).weighted = 0.996 := by
    rw [Factors.weighted]
    norm_num
  have hpenalized (lines : Nat) : (Settings.Scoring.standard : Settings.Scoring Rat).penalized .trivial
      0.996 lines = if 50 < lines then 0.7968 else 0.996 := by
    have hsize : (0.996 : Rat) * 0.8 = 0.7968 := by norm_num
    have hkind : ConflictKind.trivial ≠ .semantic := by decide
    rw [Settings.Scoring.penalized, if_neg hkind, ← hsize]
    rfl
  rw [score, Settings.Scoring.combine, factors_of_isLayoutOnly hkind hlayout hvalid, hweighted, hkind]
  rw [show (ofSettings (.standard : Settings Rat) reader).scoring = .standard from rfl, hpenalized,
    if_pos (Scalar.isOrdered_rat _)]
  split
  · exact Scalar.clampUnit_eq_self (by norm_num) (by norm_num)
  · exact Scalar.clampUnit_eq_self (by norm_num) (by norm_num)

/-! ### From a snapshot to a score -/

/-- In a file with blocks a conflict is found, of the kind that what its branches changed makes it. -/
theorem Detector.analyze_of_blocks [DecidableEq κ] (hpath : Path.fault? snapshot.path = none)
    (hblocks : Block.ofText snapshot.text ≠ []) (usesOutlines : Bool) (cache : Outline.Cache κ) :
    ∃ conflict changes, (detector.analyze snapshot usesOutlines cache).1 =
        .ok (some (detector.classify conflict changes usesOutlines)) ∧
      conflict.path = snapshot.path ∧ conflict.text = snapshot.text ∧
        conflict.blocks = Block.ofText snapshot.text := by
  unfold analyze
  simp only [hpath, Conflict.ofBlocks?, List.isEmpty_iff, hblocks, if_false]
  cases usesOutlines with
  | false => exact ⟨_, _, rfl, rfl, rfl, rfl⟩
  | true => cases snapshot.ours <;> cases snapshot.theirs <;> exact ⟨_, _, rfl, rfl, rfl, rfl⟩

theorem Detector.analyze_of_isLayoutOnly [DecidableEq κ] (hpath : Path.fault? snapshot.path = none)
    (hblocks : Block.ofText snapshot.text ≠ [])
    (hlayout : ∀ block ∈ Block.ofText snapshot.text, block.isLayoutOnly) (usesOutlines : Bool)
    (cache : Outline.Cache κ) :
    ∃ conflict, (detector.analyze snapshot usesOutlines cache).1 = .ok (some conflict) ∧
      conflict.kind = .trivial ∧ conflict.path = snapshot.path ∧ conflict.text = snapshot.text ∧
        conflict.blocks = Block.ofText snapshot.text := by
  obtain ⟨conflict, changes, hanalyze, hsame, htext, hread⟩ :=
    detector.analyze_of_blocks hpath hblocks usesOutlines cache
  have hkind : ConflictKind.classify conflict.blocks changes usesOutlines = .trivial :=
    if_pos (List.all_eq_true.mpr (hread ▸ hlayout))
  exact ⟨_, hanalyze, hkind, hsame, htext, hread⟩

theorem Strategy.attempt_trivialMerge (hlayout : ∀ block ∈ conflict.blocks, block.isLayoutOnly) :
    ∃ explanation, trivialMerge.attempt conflict =
      .resolved ⟨Resolution.keepOurs conflict, "TrivialMerge", explanation⟩ := by
  have hnone : conflict.blocks.find? (fun b => !Text.sameSignificance b.ours b.theirs) = none := by
    refine List.find?_eq_none.mpr fun block hblock => ?_
    have hsame : Text.sameSignificance block.ours block.theirs = true := hlayout block hblock
    simp [hsame]
  simp only [trivialMerge, hnone]
  exact ⟨_, rfl⟩

namespace Snapshot

/-- The text of a snapshot with our side of every block. -/
def keepOurs (snapshot : Snapshot) : String :=
  Block.replaceAll snapshot.text (Block.ofText snapshot.text) (·.ours)

/-- A conflict of layout alone, from a file that can be read once it is resolved. -/
structure IsLayoutOnly (snapshot : Snapshot) (reader : Outline.Reader κ') : Prop where
  path : Path.fault? snapshot.path = none
  blocks : Block.ofText snapshot.text ≠ []
  layout : ∀ block ∈ Block.ofText snapshot.text, block.isLayoutOnly
  parses : Language.ofPath? snapshot.path = none ∨
    (reader.fresh? snapshot.path snapshot.keepOurs).isSome

/-- What becomes of a snapshot: it is found to be a trivial conflict, the sides of which are merged, and
the merged text gets a score by the standard settings. -/
def Merges [DecidableEq κ] (snapshot : Snapshot) (detector : Detector κ) (reader : Outline.Reader κ')
    (usesOutlines : Bool) (cache : Outline.Cache κ) (score : Rat) : Prop :=
  ∃ conflict explanation, (detector.analyze snapshot usesOutlines cache).1 = .ok (some conflict) ∧
    conflict.kind = .trivial ∧ Strategy.trivialMerge.accepts conflict ∧
    Strategy.trivialMerge.attempt conflict =
      .resolved ⟨snapshot.keepOurs, "TrivialMerge", explanation⟩ ∧
    (Scorer.ofSettings (.standard : Settings Rat) reader).score conflict snapshot.keepOurs
      "TrivialMerge" = score

variable [DecidableEq κ]

theorem IsLayoutOnly.merges (h : snapshot.IsLayoutOnly reader) (detector : Detector κ)
    (usesOutlines : Bool) (cache : Outline.Cache κ) :
    snapshot.Merges detector reader usesOutlines cache
      (if 50 < countFilledLines snapshot.keepOurs then 0.7968 else 0.996) := by
  obtain ⟨conflict, hanalyze, hkind, hpath, htext, hread⟩ :=
    detector.analyze_of_isLayoutOnly h.path h.blocks h.layout usesOutlines cache
  have hlayout := h.layout
  have hparses := h.parses
  rw [← hread] at hlayout
  rw [← hpath] at hparses
  have hkeeps : Resolution.keepOurs conflict = snapshot.keepOurs := by
    rw [Resolution.keepOurs, htext, hread]
    rfl
  obtain ⟨explanation, hattempt⟩ := Strategy.attempt_trivialMerge hlayout
  rw [hkeeps] at hattempt
  refine ⟨conflict, explanation, hanalyze, hkind, decide_eq_true hkind, hattempt, ?_⟩
  exact Scorer.score_of_isLayoutOnly hkind hlayout (Scorer.isValid_of_parses hparses)

/-- The score of a conflict of layout alone is at least four fifths just if the merged text has no more
than fifty lines that are not blank. -/
theorem merges_of_isLayoutOnly (h : snapshot.IsLayoutOnly reader) (detector : Detector κ)
    (usesOutlines : Bool) (cache : Outline.Cache κ) :
    ∃ score, snapshot.Merges detector reader usesOutlines cache score ∧
      score = (if 50 < countFilledLines snapshot.keepOurs then 0.7968 else 0.996) ∧
        (0.8 ≤ score ↔ countFilledLines snapshot.keepOurs ≤ 50) := by
  refine ⟨_, h.merges detector usesOutlines cache, rfl, ?_⟩
  split
  · rename_i hmany
    norm_num
    exact hmany
  · rename_i hfew
    norm_num
    exact not_lt.mp hfew

def lineReader : Outline.Reader String := ⟨id, fun _ _ => none, true⟩

/-- A line that one side has with a blank after it. -/
def spaced : Snapshot := ⟨"f", "<<<<<<<\na\n=======\na \n>>>>>>>\n", none, none, none⟩

theorem merges_of_isLayoutOnly_spaced : spaced.IsLayoutOnly lineReader ∧
    ∃ score, spaced.Merges ⟨lineReader, 5⟩ lineReader true .empty score ∧
      score = (if 50 < countFilledLines spaced.keepOurs then 0.7968 else 0.996) ∧
        (0.8 ≤ score ↔ countFilledLines spaced.keepOurs ≤ 50) := by
  have h : spaced.IsLayoutOnly lineReader := by
    have hread : Block.ofText spaced.text = [⟨1, 3, 5, "a\n", "a \n", none⟩] := by cbv
    refine ⟨by cbv, by simp [hread], ?_, .inl (by cbv)⟩
    rw [hread, List.forall_mem_singleton]
    cbv
  exact ⟨h, merges_of_isLayoutOnly h ⟨lineReader, 5⟩ true .empty⟩

/-- Fifty-one lines above a block without lines. -/
def lengthy : Snapshot where
  path := "f"
  text := String.ofList ((List.replicate 51 ['a', '\n']).flatten ++
    "<<<<<<<\n=======\n>>>>>>>\n".toList)
  base := none
  ours := none
  theirs := none

theorem ofText_lengthy : Block.ofText lengthy.text = [⟨52, 53, 54, "", "", none⟩] := by cbv

theorem countFilledLines_lengthy : countFilledLines lengthy.keepOurs = 51 := by
  rw [keepOurs, ofText_lengthy]
  cbv

theorem lengthy_scores_less : lengthy.IsLayoutOnly lineReader ∧
    lengthy.Merges ⟨lineReader, 5⟩ lineReader true .empty 0.7968 ∧ (0.7968 : Rat) < 0.8 := by
  have h : lengthy.IsLayoutOnly lineReader := by
    refine ⟨by cbv, by simp [ofText_lengthy], ?_, .inl (by cbv)⟩
    rw [ofText_lengthy, List.forall_mem_singleton]
    cbv
  have hmerges := h.merges ⟨lineReader, 5⟩ true .empty
  rw [countFilledLines_lengthy, if_pos (by decide)] at hmerges
  exact ⟨h, hmerges, by norm_num⟩

end Snapshot

end Reconcile
