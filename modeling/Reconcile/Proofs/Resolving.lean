import Mathlib
import Reconcile.Proofs.MarkerLines
import Reconcile.Resolution.Strategy

/-!
# Resolutions make no marker lines

A marker line begins with two equal signs, and no comment does. So lines of the other side are no marker
lines any more once they are written as comments, and neither are the lines that are put around them.
-/

namespace Reconcile

open Text

namespace Marker

variable {line rest : List Char} {sign : Char}

theorem prefix_dropReturn (line : List Char) : dropReturn line <+: line := by
  unfold dropReturn
  split_ifs
  · exact List.dropLast_prefix line
  · exact List.prefix_rfl

theorem exists_of_afterSigns? (h : afterSigns? sign (dropReturn line) = some rest) :
    ∃ more, line = sign :: sign :: more := by
  unfold afterSigns? at h
  split_ifs at h with hsigns
  obtain ⟨more, hmore⟩ := (List.take_prefix signCount (dropReturn line)).trans (prefix_dropReturn line)
  rw [hsigns] at hmore
  exact ⟨List.replicate 5 sign ++ more, hmore.symm⟩

theorem exists_of_ofLine? (h : ofLine? line ≠ none) :
    ∃ sign ∈ ['<', '|', '>', '='], ∃ more, line = sign :: sign :: more := by
  by_contra hnone
  push Not at hnone
  have hsign {sign : Char} (hmem : sign ∈ ['<', '|', '>', '=']) :
      afterSigns? sign (dropReturn line) = none := by
    cases hsigns : afterSigns? sign (dropReturn line) with
    | none => rfl
    | some rest =>
        obtain ⟨more, hmore⟩ := exists_of_afterSigns? hsigns
        exact absurd hmore (hnone sign hmem more)
  apply h
  simp [ofLine?, hsign]

end Marker

namespace CommentStyle

variable {style : CommentStyle} {text : String} {lines : List String}

/-- What opens and closes comments ends no line, and no marker line begins as a comment does. -/
structure IsPlain (style : CommentStyle) : Prop where
  opener : ∀ rest, ∀ sign ∈ ['<', '|', '>', '='], ∀ more,
    style.opener.toList ++ rest ≠ sign :: sign :: more
  openerLine : '\n' ∉ style.opener.toList
  closerLine : ∀ start last, style.closer = some (start, last) → '\n' ∉ start ∧ last ≠ '\n'

theorem isPlain_line {opener : String} (hmem : opener ∈ ["//", "#", "--"]) :
    (line opener).IsPlain where
  opener rest sign hsign more := by
    simp only [List.mem_cons, List.not_mem_nil, or_false] at hmem hsign
    obtain rfl | rfl | rfl := hmem <;> obtain rfl | rfl | rfl | rfl := hsign <;> simp [line]
  openerLine := by
    simp only [List.mem_cons, List.not_mem_nil, or_false] at hmem
    obtain rfl | rfl | rfl := hmem <;> simp [line]
  closerLine _ _ h := by cases h

theorem isPlain_starBlock : starBlock.IsPlain where
  opener rest sign hsign more := by
    simp only [List.mem_cons, List.not_mem_nil, or_false] at hsign
    obtain rfl | rfl | rfl | rfl := hsign <;> simp [starBlock]
  openerLine := by simp [starBlock]
  closerLine _ _ h := by
    cases h
    decide

theorem isPlain_markupBlock : markupBlock.IsPlain where
  opener rest sign hsign more := by
    simp only [List.mem_cons, List.not_mem_nil, or_false] at hsign
    obtain rfl | rfl | rfl | rfl := hsign <;> simp [markupBlock]
  openerLine := by simp [markupBlock]
  closerLine _ _ h := by
    cases h
    decide

theorem isPlain_of_ofExtension? {extension : String} (h : ofExtension? extension = some style) :
    style.IsPlain := by
  unfold ofExtension? at h
  split_ifs at h
  · cases h
    exact isPlain_line (by simp)
  · cases h
    exact isPlain_line (by simp)
  · cases h
    exact isPlain_line (by simp)
  · cases h
    exact isPlain_starBlock
  · cases h
    exact isPlain_markupBlock

theorem isPlain_of_ofPath? {path : String} (h : ofPath? path = some style) : style.IsPlain := by
  unfold ofPath? at h
  split at h
  · rename_i language _
    cases h
    cases language <;> exact isPlain_line (by simp [Language.lineComment])
  · split_ifs at h
    · cases h
      exact isPlain_line (by simp)
    · obtain ⟨extension, -, hextension⟩ := Option.bind_eq_some_iff.mp h
      exact isPlain_of_ofExtension? hextension

theorem newline_not_mem_loosen {start chars : List Char} {last : Char} (hstart : '\n' ∉ start)
    (hlast : last ≠ '\n') (h : '\n' ∉ chars) : '\n' ∉ loosen start last chars := by
  fun_induction loosen start last chars with
  | case1 => exact h
  | case2 c rest hprefix ih =>
      have hrest : '\n' ∉ rest.drop start.length := by
        intro hmem
        exact h (List.mem_cons_of_mem c (List.mem_of_mem_drop hmem))
      simp [hstart, hlast.symm, ih hrest]
  | case3 c rest hprefix ih =>
      rw [List.mem_cons, not_or] at h ⊢
      exact ⟨h.1, ih h.2⟩

theorem toList_comment (hstyle : style.IsPlain) (h : '\n' ∉ text.toList) :
    ∃ rest, (style.comment text).toList = style.opener.toList ++ rest ∧ '\n' ∉ rest := by
  unfold comment
  cases hcloser : style.closer with
  | none =>
      dsimp only
      split_ifs
      · exact ⟨[], by simp, by simp⟩
      · exact ⟨' ' :: text.toList, by simp, by simpa using h⟩
  | some closer =>
      obtain ⟨start, last⟩ := closer
      obtain ⟨hstart, hlast⟩ := hstyle.closerLine start last hcloser
      have hinner := newline_not_mem_loosen hstart hlast h
      dsimp only
      split_ifs
      · exact ⟨' ' :: (start ++ [last]), by simp, by simp [hstart, hlast.symm]⟩
      · exact ⟨' ' :: loosen start last text.toList ++ ' ' :: (start ++ [last]), by simp,
          by simp [hstart, hlast.symm, hinner]⟩

/-- A line that is written as a comment is no marker line. -/
theorem isClean_comment (hstyle : style.IsPlain) (h : '\n' ∉ text.toList) :
    IsClean ((style.comment text).toList ++ ['\n']) := by
  obtain ⟨rest, hcomment, hrest⟩ := toList_comment hstyle h
  rw [hcomment]
  apply isClean_line
  · rw [List.mem_append, not_or]
    exact ⟨hstyle.openerLine, hrest⟩
  · by_contra hmarker
    obtain ⟨sign, hsign, more, hmore⟩ := Marker.exists_of_ofLine? hmarker
    exact hstyle.opener rest sign hsign more hmore

end CommentStyle

namespace Strategy

open Resolution

variable {style : CommentStyle} {lines : List String} {block : Block} {text : String}
  {conflict : Conflict}

theorem toList_commentLines_cons (style : CommentStyle) (line : String) (lines : List String) :
    (commentLines style (line :: lines)).toList =
      (style.comment line).toList ++ ['\n'] ++ (commentLines style lines).toList := by
  simp [commentLines]

theorem isFed_commentLines (style : CommentStyle) (lines : List String) :
    IsFed (commentLines style lines).toList := by
  induction lines with
  | nil => exact .inl rfl
  | cons line lines ih =>
      rw [toList_commentLines_cons]
      exact (isFed_line _).append ih

theorem isClean_commentLines (hstyle : style.IsPlain) (hlines : ∀ line ∈ lines, '\n' ∉ line.toList) :
    IsClean (commentLines style lines).toList := by
  induction lines with
  | nil => exact isClean_nil
  | cons line lines ih =>
      have hline := CommentStyle.isClean_comment hstyle (hlines line List.mem_cons_self)
      have hrest := ih fun other hother => hlines other (List.mem_cons_of_mem line hother)
      rw [toList_commentLines_cons]
      exact hline.append hrest

theorem newline_not_mem_append {first second : String} (h : '\n' ∉ first.toList)
    (h' : '\n' ∉ second.toList) : '\n' ∉ (first ++ second).toList := by
  rw [String.toList_append, List.mem_append, not_or]
  exact ⟨h, h'⟩

theorem newline_not_mem_banner (block : Block) : '\n' ∉ (banner block).toList := by
  have hwords : '\n' ∉ "mergeguard: manual review required (concurrent edit, lines ".toList := by
    decide +kernel
  have hdash : '\n' ∉ "-".toList := by decide
  have hstart := not_mem_toString (c := '\n') (by decide) block.startLine
  have hend := not_mem_toString (c := '\n') (by decide) block.endLine
  have hlines := newline_not_mem_append (newline_not_mem_append hwords hstart) hdash
  exact newline_not_mem_append (newline_not_mem_append hlines hend) (by decide)

theorem endLine_of_isFed (h : IsFed text.toList) : endLine text = text := by
  unfold endLine
  apply if_pos
  obtain hnil | hlast := h
  · simp [String.toList_eq_nil_iff.mp hnil]
  · simp [hlast]

/-- Where our side ends with its line, no line has to be ended before the comments. -/
theorem toList_annotate (h : IsFed block.ours.toList) (style : CommentStyle) :
    (annotate style block).toList = (commentLines style [banner block]).toList ++ block.ours.toList ++
      (commentLines style ["---- incoming version (not applied) ----"]).toList ++
        (commentLines style (stringLines block.theirs)).toList ++
          (commentLines style ["---- end incoming version ----"]).toList := by
  have hours : IsFed (commentLines style [banner block] ++ block.ours).toList := by
    rw [String.toList_append]
    exact (isFed_commentLines style [banner block]).append h
  rw [annotate, endLine_of_isFed hours]
  simp only [String.toList_append]

theorem isClean_annotate (hstyle : style.IsPlain) (hblock : block ∈ Block.ofText text) :
    IsClean (annotate style block).toList := by
  have hbanner : IsClean (commentLines style [banner block]).toList :=
    isClean_commentLines hstyle (by simpa using newline_not_mem_banner block)
  have hours := Block.isClean_ours hblock
  have htheirs : IsClean (commentLines style (stringLines block.theirs)).toList :=
    isClean_commentLines hstyle fun line hline => newline_not_mem_of_mem_stringLines hline
  rw [toList_annotate hours.isFed]
  refine (((hbanner.append hours).append ?_).append htheirs).append ?_
  · exact isClean_commentLines hstyle (by decide)
  · exact isClean_commentLines hstyle (by decide)

/-- The ways of resolving that replace blocks leave the marker lines outside the blocks, and no others. -/
theorem clears_attempt (conflict : Conflict) (hblocks : conflict.blocks = Block.ofText conflict.text) :
    (∃ resolution, fallback.attempt conflict = .resolved resolution ∧
      Block.Clears conflict.text resolution.content) ∧
    ((∃ reason, trivialMerge.attempt conflict = .declined reason) ∨
      ∃ resolution, trivialMerge.attempt conflict = .resolved resolution ∧
        Block.Clears conflict.text resolution.content) ∧
    ∀ style, CommentStyle.ofPath? conflict.path = some style →
      ∃ resolution, concurrentEdit.attempt conflict = .resolved resolution ∧
        Block.Clears conflict.text resolution.content := by
  have hours : Block.Clears conflict.text (keepOurs conflict) := by
    rw [keepOurs, hblocks]
    exact Block.clears_replaceAll fun block hblock => Block.isClean_ours hblock
  refine ⟨⟨_, rfl, hours⟩, ?_, fun style hstyle => ?_⟩
  · unfold trivialMerge
    dsimp only
    split
    · exact .inl ⟨_, rfl⟩
    · exact .inr ⟨_, rfl, hours⟩
  · unfold concurrentEdit
    dsimp only
    rw [hstyle, hblocks]
    refine ⟨_, rfl, Block.clears_replaceAll fun block hblock => ?_⟩
    exact isClean_annotate (CommentStyle.isPlain_of_ofPath? hstyle) hblock

/-- A divider above a block, and one too many within it. -/
def strayConflict : Conflict where
  path := "f.py"
  kind := .concurrentEdit
  severity := .medium
  blocks := Block.ofText "=======\n<<<<<<<\na\n=======\n=======\nb\n>>>>>>>\n"
  analysis := none
  text := "=======\n<<<<<<<\na\n=======\n=======\nb\n>>>>>>>\n"
  ours := none
  theirs := none
  base := none

theorem clears_attempt_stray : strayConflict.blocks = Block.ofText strayConflict.text ∧
    ∃ resolution, concurrentEdit.attempt strayConflict = .resolved resolution ∧
      markerLines resolution.content.toList = ["=======\n".toList] := by
  have hblocks : strayConflict.blocks = Block.ofText strayConflict.text := rfl
  have houter : (Block.outerLines strayConflict.text).filter isMarkerLine = ["=======\n".toList] := by
    cbv
  obtain ⟨-, -, hcomments⟩ := clears_attempt strayConflict hblocks
  obtain ⟨resolution, hresolved, hclears⟩ := hcomments (.line "#") (by cbv)
  exact ⟨hblocks, resolution, hresolved, hclears.kept.trans houter⟩

end Strategy

end Reconcile
