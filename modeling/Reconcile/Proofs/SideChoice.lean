import Mathlib.Tactic.Common
import Reconcile.Proofs.MarkerLines
import Reconcile.Proofs.RoundTrip

/-!
# Either side of a block

The sections of a block end with their lines, and so do the lines before a block. What is put in the place
of a block therefore joins no two lines, and the significant lines of the resolved text are those of the
lines outside the blocks together with those of each section that is kept. Where the sides of every block
differ in layout only, it does not matter which of them is kept.
-/

namespace Reconcile

open Text

namespace Block

variable {text : String} {block : Block} {pick other : Block → String}

/-- One of its sides for each block of a text. -/
def ChoosesSides (text : String) (pick : Block → String) : Prop :=
  ∀ block ∈ ofText text, pick block = block.ours ∨ pick block = block.theirs

theorem isFed_theirs (hblock : block ∈ ofText text) : IsFed block.theirs.toList := by
  have h := mem_ofText_iff.mp hblock
  rw [h.lower]
  exact isFed_between (isCut_pieces text.toList) (by simp [h.ends.isFinish])

theorem ChoosesSides.isFed (h : ChoosesSides text pick) (hblock : block ∈ ofText text) :
    IsFed (pick block).toList := by
  obtain hours | htheirs := h block hblock
  · rw [hours]
    exact (isClean_ours hblock).isFed
  · rw [htheirs]
    exact isFed_theirs hblock

/-- The significant lines of pieces. -/
def significantOf (pieces : List (List Char)) : List (List Char) :=
  (pieces.map unterminated).filterMap significantLine?

theorem significantLines_replaceAll (hpick : ∀ block ∈ ofText text, IsFed (pick block).toList) :
    significantLines (replaceAll text (ofText text) pick).toList =
      ((Text.pieces text.toList).zipIdx 1).flatMap fun numbered =>
        partAt (fun piece => significantOf [piece])
          (fun block => significantLines (pick block).toList) (ofText text) numbered.2 numbered.1 := by
  rw [significantLines, lines, pieces_replaceAll hpick, List.map_flatMap, List.filterMap_flatMap]
  exact List.flatMap_congr fun numbered _ =>
    apply_partAt (f := significantOf) rfl (ofText text) numbered.2 numbered.1

/-- Texts put in the place of blocks may be changed in their layout. -/
theorem sameSignificance_replaceAll (hpick : ∀ block ∈ ofText text, IsFed (pick block).toList)
    (hother : ∀ block ∈ ofText text, IsFed (other block).toList)
    (hsame : ∀ block ∈ ofText text, sameSignificance (pick block) (other block)) :
    sameSignificance (replaceAll text (ofText text) pick) (replaceAll text (ofText text) other) := by
  have hlines (block : Block) (hblock : block ∈ ofText text) :
      significantLines (pick block).toList = significantLines (other block).toList :=
    of_decide_eq_true (hsame block hblock)
  rw [sameSignificance, decide_eq_true_iff, significantLines_replaceAll hpick,
    significantLines_replaceAll hother]
  exact List.flatMap_congr fun numbered _ => partAt_congr rfl hlines numbered.2

theorem ChoosesSides.sameSignificance (hpick : ChoosesSides text pick) (hother : ChoosesSides text other)
    (hlayout : ∀ block ∈ ofText text, block.isLayoutOnly) :
    sameSignificance (replaceAll text (ofText text) pick) (replaceAll text (ofText text) other) := by
  refine sameSignificance_replaceAll (fun _ => hpick.isFed) (fun _ => hother.isFed) fun block hblock => ?_
  have hsame : significantLines block.ours.toList = significantLines block.theirs.toList :=
    of_decide_eq_true (hlayout block hblock)
  rw [Text.sameSignificance, decide_eq_true_iff]
  obtain hfirst | hfirst := hpick block hblock <;> obtain hsecond | hsecond := hother block hblock <;>
    simp [hfirst, hsecond, hsame]

end Block

namespace Strategy

open Block

variable {conflict : Conflict}

/-- Where the sides of every block differ in layout only, texts that keep one side of each block differ in
layout only, whichever sides they keep; the merged text is one of them. -/
theorem trivialMerge_keeps_either (hblocks : conflict.blocks = ofText conflict.text)
    (hlayout : ∀ block ∈ conflict.blocks, block.isLayoutOnly) :
    (∀ pick other, ChoosesSides conflict.text pick → ChoosesSides conflict.text other →
      sameSignificance (replaceAll conflict.text conflict.blocks pick)
        (replaceAll conflict.text conflict.blocks other)) ∧
    ∃ resolution, trivialMerge.attempt conflict = .resolved resolution ∧
      resolution.content = replaceAll conflict.text conflict.blocks Block.ours ∧
      ∀ pick, ChoosesSides conflict.text pick →
        sameSignificance resolution.content (replaceAll conflict.text conflict.blocks pick) := by
  obtain ⟨explanation, hattempt⟩ := attempt_trivialMerge hlayout
  rw [hblocks] at hlayout
  have hours : ChoosesSides conflict.text Block.ours := fun block _ => .inl rfl
  have hkeeps : Resolution.keepOurs conflict =
      replaceAll conflict.text conflict.blocks Block.ours := rfl
  rw [hblocks] at hkeeps
  rw [hblocks]
  exact ⟨fun _ _ hpick hother => hpick.sameSignificance hother hlayout, _, hattempt, hkeeps,
    fun _ hpick => hkeeps ▸ hours.sameSignificance hpick hlayout⟩

/-- Two blocks, one after the other, with line ends of both kinds; the last line has none. -/
def respaced : String :=
  "x\n<<<<<<<\r\na;\r\n=======\n// note\n a ;\n>>>>>>>\n" ++
    "<<<<<<<\n\nb c\n=======\nb  c\n>>>>>>>\ny"

def respacedConflict : Conflict where
  path := "f.js"
  kind := .trivial
  severity := .low
  blocks := ofText respaced
  analysis := none
  text := respaced
  ours := none
  theirs := none
  base := none

/-- The other side of the first block, and ours of the second. -/
def pickCrossed (block : Block) : String := if block.startLine = 2 then block.theirs else block.ours

theorem trivialMerge_keeps_either_respaced :
    respacedConflict.blocks = ofText respacedConflict.text ∧
    (∀ block ∈ respacedConflict.blocks, block.isLayoutOnly) ∧
    replaceAll respacedConflict.text respacedConflict.blocks pickCrossed =
      "x\n// note\n a ;\n\nb c\ny" ∧
    ∃ resolution, trivialMerge.attempt respacedConflict = .resolved resolution ∧
      resolution.content = "x\na;\r\n\nb c\ny" ∧
      sameSignificance resolution.content "x\n// note\n a ;\n\nb c\ny" := by
  have hblocks : respacedConflict.blocks = ofText respacedConflict.text := by
    simp only [respacedConflict]
  have hread : respacedConflict.blocks =
      [⟨2, 4, 7, "a;\r\n", "// note\n a ;\n", none⟩, ⟨8, 11, 13, "\nb c\n", "b  c\n", none⟩] := by cbv
  have hlayout : ∀ block ∈ respacedConflict.blocks, block.isLayoutOnly := by
    rw [hread]
    decide
  have hcrossed : replaceAll respacedConflict.text respacedConflict.blocks pickCrossed =
      "x\n// note\n a ;\n\nb c\ny" := by
    rw [hread]
    cbv
  have hours : replaceAll respacedConflict.text respacedConflict.blocks Block.ours =
      "x\na;\r\n\nb c\ny" := by
    rw [hread]
    cbv
  have hchooses : ChoosesSides respacedConflict.text pickCrossed := by
    intro block _
    unfold pickCrossed
    split_ifs
    · exact .inr rfl
    · exact .inl rfl
  obtain ⟨-, resolution, hattempt, hcontent, hsame⟩ := trivialMerge_keeps_either hblocks hlayout
  exact ⟨hblocks, hlayout, hcrossed, resolution, hattempt, hcontent.trans hours,
    hcrossed ▸ hsame pickCrossed hchooses⟩

end Strategy

end Reconcile
