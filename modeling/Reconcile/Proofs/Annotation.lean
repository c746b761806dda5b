import Mathlib.Tactic.Common
import Reconcile.Proofs.Incoming
import Reconcile.Proofs.Resolving

/-!
# Lines that are added for a review

Where both sides of a block were edited, our side is kept and comments are put around it: a banner before it,
and after it the other side between two more lines. Nothing else is changed, so without the lines that were
added the text is the one that keeps our side. A comment that runs to the end of its line says what was
commented; one with a closing token need not, since such a token within the line is loosened.
-/

namespace Reconcile

open Text

namespace CommentStyle

variable {style : CommentStyle}

/-- What a line that is a comment to its end was before it was one. -/
def uncomment (opener line : List Char) : List Char :=
  if line = opener then [] else line.drop (opener.length + 1)

theorem uncomment_comment (hcloser : style.closer = none) (line : String) :
    uncomment style.opener.toList (style.comment line).toList = line.toList := by
  unfold comment
  rw [hcloser]
  dsimp only
  by_cases hempty : line.isEmpty
  · rw [if_pos hempty, uncomment, if_pos rfl, String.isEmpty_iff.mp hempty]
    rfl
  · have hcomment : (style.opener ++ " " ++ line).toList = style.opener.toList ++ ' ' :: line.toList := by
      simp
    have hlonger : style.opener.toList ++ ' ' :: line.toList ≠ style.opener.toList := by
      intro h
      have hlength := congrArg List.length h
      rw [List.length_append, List.length_cons] at hlength
      omega
    rw [if_neg hempty, hcomment, uncomment, if_neg hlonger, List.drop_append]
    simp

theorem opener_isPrefix_comment (style : CommentStyle) (line : String) :
    style.opener.toList <+: (style.comment line).toList := by
  unfold comment
  split
  · split_ifs
    · exact List.prefix_rfl
    · simp [List.append_assoc]
  · dsimp only
    split_ifs <;> simp [List.append_assoc]

end CommentStyle

namespace Strategy

open Resolution

variable {style : CommentStyle} {block other : Block} {text : String}

/-! ### One block -/

/-- A line of a text that is edited, as it stands, and the block that it was added for. -/
structure EditLine where
  text : List Char
  addedFor : Option Block

def EditLine.kept (piece : List Char) : EditLine := ⟨piece, none⟩

def EditLine.added (style : CommentStyle) (block : Block) (line : String) : EditLine :=
  ⟨(style.comment line).toList ++ ['\n'], some block⟩

def incomingNotes (block : Block) : List String :=
  "---- incoming version (not applied) ----" ::
    (stringLines block.theirs ++ ["---- end incoming version ----"])

/-- What is said in comments about a block. -/
def notes (block : Block) : List String := banner block :: incomingNotes block

def annotatedLines (style : CommentStyle) (block : Block) : List EditLine :=
  .added style block (banner block) ::
    ((pieces block.ours.toList).map .kept ++ (incomingNotes block).map (.added style block))

theorem newline_not_mem_of_mem_incomingNotes {line : String} (h : line ∈ incomingNotes block) :
    '\n' ∉ line.toList := by
  rw [incomingNotes, List.mem_cons, List.mem_append, List.mem_singleton] at h
  obtain rfl | hmem | rfl := h
  · decide
  · exact newline_not_mem_of_mem_stringLines hmem
  · decide

theorem pieces_comment (hstyle : style.IsPlain) {line : String} (hline : '\n' ∉ line.toList) :
    pieces ((style.comment line).toList ++ ['\n']) = [(style.comment line).toList ++ ['\n']] := by
  obtain ⟨rest, hcomment, hrest⟩ := CommentStyle.toList_comment hstyle hline
  apply pieces_of_not_mem
  rw [hcomment, List.mem_append, not_or]
  exact ⟨hstyle.openerLine, hrest⟩

theorem pieces_commentLines (hstyle : style.IsPlain) (block : Block) {lines : List String}
    (hlines : ∀ line ∈ lines, '\n' ∉ line.toList) :
    pieces (commentLines style lines).toList = (lines.map (.added style block)).map EditLine.text := by
  induction lines with
  | nil => rfl
  | cons line lines ih =>
      rw [toList_commentLines_cons, pieces_append (isFed_line _),
        pieces_comment hstyle (hlines line List.mem_cons_self),
        ih fun other hother => hlines other (List.mem_cons_of_mem line hother)]
      rfl

theorem text_annotatedLines (hstyle : style.IsPlain) (hblock : block ∈ Block.ofText text) :
    (annotatedLines style block).map EditLine.text = pieces (annotate style block).toList := by
  have hours := (Block.isClean_ours hblock).isFed
  have hnotes : (commentLines style ["---- incoming version (not applied) ----"]).toList ++
      ((commentLines style (stringLines block.theirs)).toList ++
        (commentLines style ["---- end incoming version ----"]).toList) =
      (commentLines style (incomingNotes block)).toList := by
    simp only [toList_commentLines, incomingNotes, List.flatMap_cons, List.flatMap_append,
      List.flatMap_nil, List.append_nil]
  have hbanner : IsFed ((commentLines style [banner block]).toList ++ block.ours.toList) :=
    (isFed_commentLines style [banner block]).append hours
  rw [toList_annotate hours, List.append_assoc, List.append_assoc, List.append_assoc, hnotes,
    ← List.append_assoc, pieces_append hbanner, pieces_append (isFed_commentLines style _),
    pieces_commentLines hstyle block (by simpa using newline_not_mem_banner block),
    pieces_commentLines hstyle block fun _ => newline_not_mem_of_mem_incomingNotes]
  simp [annotatedLines, EditLine.kept, Function.comp_def]

theorem kept_annotatedLines (style : CommentStyle) (block : Block) :
    (annotatedLines style block).filter (·.addedFor = none) =
      (pieces block.ours.toList).map EditLine.kept := by
  simp [annotatedLines, EditLine.kept, EditLine.added, List.filter_map, Function.comp_def]

theorem added_annotatedLines_self (style : CommentStyle) (block : Block) :
    (annotatedLines style block).filter (·.addedFor = some block) =
      (notes block).map (.added style block) := by
  simp [annotatedLines, notes, EditLine.kept, EditLine.added, List.filter_map, Function.comp_def]

theorem added_annotatedLines_of_ne (style : CommentStyle) (h : other ≠ block) :
    (annotatedLines style other).filter (·.addedFor = some block) = [] := by
  simp [annotatedLines, EditLine.kept, EditLine.added, List.filter_map, Function.comp_def, h]

/-- The lines that were commented, of those that were added for a block. -/
def readBack (opener : List Char) (lines : List EditLine) : List (List Char) :=
  (lines.drop 2).dropLast.map fun line => CommentStyle.uncomment opener (unfed line.text)

theorem readBack_added (hcloser : style.closer = none) (block : Block) :
    readBack style.opener.toList ((notes block).map (.added style block)) =
      lines block.theirs.toList := by
  have hline (line : String) : CommentStyle.uncomment style.opener.toList
      (unfed (EditLine.added style block line).text) = line.toList := by
    rw [EditLine.added, unfed_line, CommentStyle.uncomment_comment hcloser]
  simp [readBack, notes, incomingNotes, hline, stringLines, Function.comp_def]

/-! ### A whole text -/

def editLines (style : CommentStyle) (text : String) : List EditLine :=
  ((pieces text.toList).zipIdx 1).flatMap fun numbered =>
    Block.partAt (fun piece => [.kept piece]) (annotatedLines style) (Block.ofText text) numbered.2 numbered.1

theorem text_editLines (hstyle : style.IsPlain) (text : String) : (editLines style text).map EditLine.text =
    pieces (Block.replaceAll text (Block.ofText text) (annotate style)).toList := by
  rw [Block.pieces_replaceAll fun _ hblock => (isClean_annotate hstyle hblock).isFed, editLines,
    List.map_flatMap]
  refine List.flatMap_congr fun numbered _ => ?_
  rw [Block.apply_partAt (f := List.map EditLine.text) rfl]
  exact Block.partAt_congr rfl (fun _ => text_annotatedLines hstyle) numbered.2

theorem kept_editLines (style : CommentStyle) (text : String) :
    ((editLines style text).filter (·.addedFor = none)).map EditLine.text =
      pieces (Block.replaceAll text (Block.ofText text) Block.ours).toList := by
  rw [Block.pieces_replaceAll fun _ hblock => (Block.isClean_ours hblock).isFed, editLines,
    List.filter_flatMap, List.map_flatMap]
  refine List.flatMap_congr fun numbered _ => ?_
  rw [Block.apply_partAt (f := List.filter _) rfl, Block.apply_partAt (f := List.map EditLine.text) rfl]
  refine Block.partAt_congr rfl (fun block _ => ?_) numbered.2
  rw [kept_annotatedLines, List.map_map]
  exact List.map_id _

theorem added_editLines (style : CommentStyle) (hblock : block ∈ Block.ofText text) :
    (editLines style text).filter (·.addedFor = some block) = (notes block).map (.added style block) := by
  have hblocks : (editLines style text).filter (·.addedFor = some block) =
      (Block.ofText text).flatMap fun other =>
        (annotatedLines style other).filter (·.addedFor = some block) := by
    rw [editLines, List.filter_flatMap, ← Block.flatMap_partAt_ofText]
    exact List.flatMap_congr fun numbered _ =>
      Block.apply_partAt (f := List.filter _) rfl (Block.ofText text) numbered.2 numbered.1
  rw [hblocks, Block.flatMap_ofText_of_ne hblock fun _ => added_annotatedLines_of_ne style,
    added_annotatedLines_self]

theorem addedFor_editLines {line : EditLine} (hline : line ∈ editLines style text)
    (hadded : line.addedFor = some block) : block ∈ Block.ofText text := by
  obtain ⟨numbered, -, hmem⟩ := List.mem_flatMap.mp hline
  obtain hkept | ⟨other, hother, hlines⟩ | hnil := Block.partAt_cases (fun piece => [EditLine.kept piece])
    (annotatedLines style) (Block.ofText text) numbered.2 numbered.1
  · rw [hkept, List.mem_singleton] at hmem
    rw [hmem] at hadded
    cases hadded
  · rw [hlines] at hmem
    by_cases hsame : other = block
    · rwa [← hsame]
    · have hnone := added_annotatedLines_of_ne style hsame
      rw [List.filter_eq_nil_iff] at hnone
      exact absurd (decide_eq_true hadded) (hnone line hmem)
  · rw [hnil] at hmem
    cases hmem

/-- Lines are those of a text that is edited: without what was added for the blocks of a text they are
another text, and every line that was added is a comment. -/
structure Annotates (style : CommentStyle) (text edited kept : String) (lines : List EditLine) : Prop where
  edited : lines.map EditLine.text = pieces edited.toList
  kept : (lines.filter (·.addedFor = none)).map EditLine.text = pieces kept.toList
  comments : ∀ line ∈ lines, ∀ block, line.addedFor = some block →
    block ∈ Block.ofText text ∧ style.opener.toList <+: line.text
  notes : ∀ block ∈ Block.ofText text,
    lines.filter (·.addedFor = some block) = (notes block).map (.added style block)
  read : style.closer = none → ∀ block ∈ Block.ofText text,
    readBack style.opener.toList (lines.filter (·.addedFor = some block)) =
      Text.lines block.theirs.toList

theorem annotates_editLines (hstyle : style.IsPlain) (text : String) :
    Annotates style text (Block.replaceAll text (Block.ofText text) (annotate style))
      (Block.replaceAll text (Block.ofText text) Block.ours) (editLines style text) where
  edited := text_editLines hstyle text
  kept := kept_editLines style text
  comments line hline block hadded := by
    have hblock := addedFor_editLines hline hadded
    have hmem : line ∈ (editLines style text).filter (·.addedFor = some block) :=
      List.mem_filter.mpr ⟨hline, decide_eq_true hadded⟩
    rw [added_editLines style hblock] at hmem
    obtain ⟨note, -, rfl⟩ := List.mem_map.mp hmem
    exact ⟨hblock, (CommentStyle.opener_isPrefix_comment style note).trans (List.prefix_append _ _)⟩
  notes _ := added_editLines style
  read hcloser block hblock := by rw [added_editLines style hblock, readBack_added hcloser]

variable {conflict : Conflict}

/-- Without the lines that are added for its blocks, the edited text is the one that keeps our side, and all of
these lines are comments. Where a comment runs to the end of its line, the lines of the other side of
each block can be read back from them. -/
theorem concurrentEdit_annotates (hblocks : conflict.blocks = Block.ofText conflict.text)
    (hstyle : CommentStyle.ofPath? conflict.path = some style) :
    ∃ edit kept lines, concurrentEdit.attempt conflict = .resolved edit ∧
      fallback.attempt conflict = .resolved kept ∧
      Annotates style conflict.text edit.content kept.content lines := by
  have hannotates := annotates_editLines (CommentStyle.isPlain_of_ofPath? hstyle) conflict.text
  obtain ⟨explanation, hattempt⟩ := attempt_concurrentEdit hstyle
  rw [← hblocks] at hannotates
  exact ⟨_, _, _, hattempt, rfl, hannotates⟩

/-- Two blocks with no line between them. The other side of the first has an empty line and one that begins
with blanks, and our side of the second is empty. -/
def reviewed : String :=
  "a\n<<<<<<<\nb\n=======\n\n  c\n>>>>>>>\n<<<<<<<\n=======\n# d\n>>>>>>>\ne"

def reviewedConflict : Conflict where
  path := "f.py"
  kind := .concurrentEdit
  severity := .medium
  blocks := Block.ofText reviewed
  analysis := none
  text := reviewed
  ours := none
  theirs := none
  base := none

theorem concurrentEdit_annotates_reviewed :
    reviewedConflict.blocks = Block.ofText reviewedConflict.text ∧
    CommentStyle.ofPath? reviewedConflict.path = some (.line "#") ∧
    ∃ edit kept lines, concurrentEdit.attempt reviewedConflict = .resolved edit ∧
      fallback.attempt reviewedConflict = .resolved kept ∧ kept.content = "a\nb\ne" ∧
      Annotates (.line "#") reviewedConflict.text edit.content kept.content lines ∧
      reviewedConflict.blocks.map (fun block =>
          readBack ['#'] (lines.filter (·.addedFor = some block))) =
        [[[], [' ', ' ', 'c']], [['#', ' ', 'd']]] := by
  have hblocks : reviewedConflict.blocks = Block.ofText reviewedConflict.text := by
    simp only [reviewedConflict]
  have hstyle : CommentStyle.ofPath? reviewedConflict.path = some (.line "#") := by decide +kernel
  have hread : reviewedConflict.blocks =
      [⟨2, 4, 7, "b\n", "\n  c\n", none⟩, ⟨8, 9, 11, "", "# d\n", none⟩] := by cbv
  obtain ⟨edit, kept, lines, hedit, hkept, hannotates⟩ := concurrentEdit_annotates hblocks hstyle
  have hcontent : kept.content = "a\nb\ne" := by
    have hours : Block.replaceAll reviewedConflict.text reviewedConflict.blocks Block.ours =
        "a\nb\ne" := by
      rw [hread]
      cbv
    cases hkept
    exact hours
  have htheirs : reviewedConflict.blocks.map (fun block =>
      readBack ['#'] (lines.filter (·.addedFor = some block))) =
        reviewedConflict.blocks.map fun block => Text.lines block.theirs.toList :=
    List.map_congr_left fun block hblock => hannotates.read rfl block (hblocks ▸ hblock)
  refine ⟨hblocks, hstyle, edit, kept, lines, hedit, hkept, hcontent, hannotates, htheirs.trans ?_⟩
  rw [hread]
  decide

end Strategy

end Reconcile
