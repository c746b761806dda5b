import Mathlib
import Reconcile.Proofs.MarkerCount
import Reconcile.Proofs.Resolving

/-!
# Counted lines of blocks and of resolutions

Every block has three marker lines that no other block has, and all of them are counted. A resolution may
have lines that are counted without being marker lines, but only where two carriage returns stand before a
line feed, and only from the text itself: comments do not begin with equal signs. So where a text has at
most one carriage return at the end of its lines, and no marker line outside its blocks, no line of a
resolution is counted.
-/

namespace Reconcile

namespace Text

open Marker

variable {first second line : List Char} {ps : List (List Char)}

/-- No line is signs that two carriage returns follow. -/
def IsOnceReturned (text : List Char) : Prop := ∀ piece ∈ pieces text, ¬isTwiceReturned piece

theorem isOnceReturned_nil : IsOnceReturned [] := by simp [IsOnceReturned, pieces]

theorem IsOnceReturned.append (h : IsOnceReturned first) (hfed : IsFed first)
    (h' : IsOnceReturned second) : IsOnceReturned (first ++ second) := by
  intro piece hpiece
  rw [pieces_append hfed, List.mem_append] at hpiece
  exact hpiece.elim (h piece) (h' piece)

theorem isOnceReturned_line (hline : '\n' ∉ line)
    (hsigns : ∀ sign ∈ signs, ∀ more, line ≠ sign :: sign :: more) :
    IsOnceReturned (line ++ ['\n']) := by
  intro piece hpiece htwice
  rw [pieces_of_not_mem hline, List.mem_singleton] at hpiece
  subst hpiece
  obtain ⟨bare, hbare, rfl⟩ := isTwiceReturned_line.mp htwice
  obtain ⟨sign, hsign, rfl⟩ := isBare_iff.mp hbare
  exact hsigns sign hsign (List.replicate 5 sign ++ ['\r', '\r']) rfl

theorem isOnceReturned_flatten (hcut : IsCut ps) (h : ∀ piece ∈ ps, ¬isTwiceReturned piece) :
    IsOnceReturned ps.flatten := by
  intro piece hpiece
  rw [hcut] at hpiece
  exact h piece hpiece

theorem isOnceReturned_flatMap {part : Nat → List Char → List Char}
    (hpart : ∀ line piece, part line piece = piece ∨
      IsFed (part line piece) ∧ IsOnceReturned (part line piece))
    (hcut : IsCut ps) (h : ∀ piece ∈ ps, ¬isTwiceReturned piece) (n : Nat) :
    IsOnceReturned ((ps.zipIdx n).flatMap fun numbered => part numbered.2 numbered.1) := by
  intro piece hpiece
  rw [pieces_flatMap hcut fun line piece => (hpart line piece).imp_right And.left,
    List.mem_flatMap] at hpiece
  obtain ⟨⟨kept, line⟩, hnumbered, hmem⟩ := hpiece
  obtain hsame | ⟨-, honce⟩ := hpart line kept
  · have hkept := List.fst_mem_of_mem_zipIdx hnumbered
    rw [hsame, hcut.pieces_of_mem hkept, List.mem_singleton] at hmem
    exact hmem ▸ h kept hkept
  · exact honce piece hmem

/-- The lines of a text end with a line feed, or with one carriage return and a line feed. -/
def EndsPlainly (text : String) : Prop :=
  ∀ piece ∈ pieces text.toList, ¬['\r', '\r', '\n'] <:+ piece

theorem EndsPlainly.isOnceReturned {text : String} (h : EndsPlainly text) :
    IsOnceReturned text.toList := by
  intro piece hpiece htwice
  obtain ⟨bare, -, rfl⟩ := isTwiceReturned_iff.mp htwice
  exact h _ hpiece (List.suffix_append bare ['\r', '\r', '\n'])

end Text

open Text

namespace Block

variable {pieces : List (List Char)} {block : Block} {text : String} {pick : Block → String}

/-! ### The marker lines of blocks -/

/-- The lines that begin, divide and end a block. -/
def markers (block : Block) : List Nat := [block.startLine, block.dividerLine, block.endLine]

theorem markerAt_of_mem_markers (hblock : block ∈ ofText text) {line : Nat}
    (hline : line ∈ block.markers) : markerAt (Text.pieces text.toList) line ≠ none := by
  have h := mem_ofText_iff.mp hblock
  simp only [markers, List.mem_cons, List.not_mem_nil, or_false] at hline
  obtain rfl | rfl | rfl := hline
  · simp [h.isStart]
  · simp [h.divider.isMarker]
  · simp [h.ends.isFinish]

/-- The marker lines of the blocks of a text come one after another. -/
theorem pairwise_markers (text : String) :
    ((ofText text).flatMap markers).Pairwise (· < ·) := by
  obtain ⟨-, -, hsorted, hinside⟩ := ofText_delimits text
  refine List.pairwise_flatMap.mpr ⟨fun block hblock => ?_, ?_⟩
  · have hlines := hinside block hblock
    simp only [markers, List.pairwise_cons, List.mem_cons, List.not_mem_nil, or_false]
    grind
  · refine hsorted.imp_of_mem fun {first second} hfirst hsecond hlt line hline other hother => ?_
    have hbefore := hinside first hfirst
    have hafter := hinside second hsecond
    simp only [markers, List.mem_cons, List.not_mem_nil, or_false] at hline hother
    omega

/-- The numbers of the marker lines of a text. -/
def markerNumbers (text : String) : List Nat :=
  (((Text.pieces text.toList).zipIdx 1).filter fun numbered => isMarkerLine numbered.1).map Prod.snd

theorem length_markerNumbers (text : String) :
    (markerNumbers text).length = (markerLines text.toList).length := by
  have hfirst : markerLines text.toList =
      (((Text.pieces text.toList).zipIdx 1).filter fun numbered => isMarkerLine numbered.1).map
        Prod.fst := by
    conv_lhs => rw [markerLines, ← List.zipIdx_map_fst 1 (Text.pieces text.toList)]
    rw [List.filter_map]
    rfl
  rw [hfirst, markerNumbers, List.length_map, List.length_map]

theorem mem_markerNumbers {line : Nat} (h : markerAt (Text.pieces text.toList) line ≠ none) :
    line ∈ markerNumbers text := by
  cases line with
  | zero => exact absurd rfl h
  | succ line =>
      obtain ⟨marker, hmarker⟩ := Option.ne_none_iff_exists'.mp h
      obtain ⟨piece, hpiece, hkind⟩ := Option.bind_eq_some_iff.mp hmarker
      have hnumbered : (piece, line + 1) ∈ (Text.pieces text.toList).zipIdx 1 :=
        List.mk_mem_zipIdx_iff_le_and_getElem?_sub.mpr ⟨by omega, by simpa using hpiece⟩
      refine List.mem_map.mpr ⟨(piece, line + 1), List.mem_filter.mpr ⟨hnumbered, ?_⟩, rfl⟩
      rw [isMarkerLine, hkind]
      rfl

theorem three_mul_length_le_countMarkers (text : String) :
    3 * (ofText text).length ≤ countMarkers text := by
  have hnodup : ((ofText text).flatMap markers).Nodup := (pairwise_markers text).imp Nat.ne_of_lt
  have hsubset : (ofText text).flatMap markers ⊆ markerNumbers text := by
    intro line hline
    obtain ⟨block, hblock, hmem⟩ := List.mem_flatMap.mp hline
    exact mem_markerNumbers (markerAt_of_mem_markers hblock hmem)
  have hlength : ((ofText text).flatMap markers).length = 3 * (ofText text).length := by
    rw [List.length_flatMap]
    simp [markers, Nat.mul_comm]
  calc 3 * (ofText text).length = ((ofText text).flatMap markers).length := hlength.symm
    _ ≤ (markerNumbers text).length := (hnodup.subperm hsubset).length_le
    _ = (markerLines text.toList).length := length_markerNumbers text
    _ ≤ countMarkers text := by
        rw [countMarkers_eq_add]
        exact Nat.le_add_right _ _

/-! ### The lines of resolutions -/

theorem isOnceReturned_between (hcut : IsCut pieces) (h : ∀ piece ∈ pieces, ¬isTwiceReturned piece)
    (first last : Nat) : IsOnceReturned (between pieces first last) := by
  refine isOnceReturned_flatten (isCut_between hcut first last) fun piece hpiece => h piece ?_
  exact List.mem_of_mem_take (List.mem_of_mem_drop hpiece)

theorem isOnceReturned_ours (htext : IsOnceReturned text.toList) (hblock : block ∈ ofText text) :
    IsOnceReturned block.ours.toList := by
  have hupper := (mem_ofText_iff.mp hblock).upper
  have hbetween (first last : Nat) : IsOnceReturned (between (Text.pieces text.toList) first last) :=
    isOnceReturned_between (isCut_pieces text.toList) htext first last
  cases hbase : block.base with
  | none =>
      rw [hbase] at hupper
      exact hupper.2 ▸ hbetween _ _
  | some base =>
      rw [hbase] at hupper
      obtain ⟨line, -, hours, -⟩ := hupper
      exact hours ▸ hbetween _ _

theorem isOnceReturned_replaceAll (htext : IsOnceReturned text.toList)
    (hpick : ∀ block ∈ ofText text,
      IsFed (pick block).toList ∧ IsOnceReturned (pick block).toList) :
    IsOnceReturned (replaceAll text (ofText text) pick).toList := by
  rw [toList_replaceAll]
  refine isOnceReturned_flatMap (fun line piece => ?_) (isCut_pieces text.toList) htext 1
  obtain hkept | ⟨block, hblock, hpicked⟩ | hnil := standIn_cases pick (ofText text) line piece
  · exact .inl hkept
  · rw [hpicked]
    exact .inr (hpick block hblock)
  · rw [hnil]
    exact .inr ⟨.inl rfl, isOnceReturned_nil⟩

/-- No line is counted of a text whose blocks are replaced by stretches without counted lines, if it has
no marker line outside its blocks. -/
theorem countMarkers_replaceAll (htext : IsOnceReturned text.toList)
    (hinside : ∀ line, markerAt (Text.pieces text.toList) line ≠ none →
      ∃ block ∈ ofText text, block.covers line)
    (hpick : ∀ block ∈ ofText text,
      IsClean (pick block).toList ∧ IsOnceReturned (pick block).toList) :
    countMarkers (replaceAll text (ofText text) pick) = 0 := by
  have hclears := clears_replaceAll fun block hblock => (hpick block hblock).1
  have honce : IsOnceReturned (replaceAll text (ofText text) pick).toList :=
    isOnceReturned_replaceAll htext fun block hblock =>
      ⟨(hpick block hblock).1.isFed, (hpick block hblock).2⟩
  rw [countMarkers_eq_add, hclears.none hinside, List.countP_eq_zero.mpr honce]
  rfl

end Block

namespace Strategy

open Resolution

variable {style : CommentStyle} {lines : List String} {block : Block} {text : String}
  {conflict : Conflict} {strategy : Strategy} {resolution : Resolution}

theorem isOnceReturned_commentLines (hstyle : style.IsPlain)
    (hlines : ∀ line ∈ lines, '\n' ∉ line.toList) :
    IsOnceReturned (commentLines style lines).toList := by
  induction lines with
  | nil => exact isOnceReturned_nil
  | cons line lines ih =>
      have hrest := ih fun other hother => hlines other (List.mem_cons_of_mem line hother)
      obtain ⟨rest, hcomment, hnewline⟩ :=
        CommentStyle.toList_comment hstyle (hlines line List.mem_cons_self)
      have hline : IsOnceReturned ((style.comment line).toList ++ ['\n']) := by
        rw [hcomment]
        refine isOnceReturned_line ?_ (hstyle.opener rest)
        rw [List.mem_append, not_or]
        exact ⟨hstyle.openerLine, hnewline⟩
      rw [toList_commentLines_cons]
      exact hline.append (isFed_line _) hrest

theorem isOnceReturned_annotate (hstyle : style.IsPlain) (htext : IsOnceReturned text.toList)
    (hblock : block ∈ Block.ofText text) : IsOnceReturned (annotate style block).toList := by
  have hfed := (Block.isClean_ours hblock).isFed
  have hours := Block.isOnceReturned_ours htext hblock
  have hbanner : IsOnceReturned (commentLines style [banner block]).toList :=
    isOnceReturned_commentLines hstyle (by simpa using newline_not_mem_banner block)
  have htheirs : IsOnceReturned (commentLines style (stringLines block.theirs)).toList :=
    isOnceReturned_commentLines hstyle fun line hline => newline_not_mem_of_mem_stringLines hline
  have hopening : IsOnceReturned
      (commentLines style ["---- incoming version (not applied) ----"]).toList :=
    isOnceReturned_commentLines hstyle (by decide)
  have hclosing : IsOnceReturned (commentLines style ["---- end incoming version ----"]).toList :=
    isOnceReturned_commentLines hstyle (by decide)
  rw [toList_annotate hfed]
  simp only [List.append_assoc]
  refine hbanner.append (isFed_commentLines style _) (hours.append hfed ?_)
  refine hopening.append (isFed_commentLines style _) ?_
  exact htheirs.append (isFed_commentLines style _) hclosing

/-- What the strategies that replace blocks put in place of them. -/
theorem exists_pick_of_attempt (hstrategy : strategy ∈ standard) (hkind : conflict.kind ≠ .structural)
    (haccepts : strategy.accepts conflict) (hattempt : strategy.attempt conflict = .resolved resolution) :
    ∃ pick, resolution.content = Block.replaceAll conflict.text conflict.blocks pick ∧
      (pick = Block.ours ∨
        ∃ style, CommentStyle.ofPath? conflict.path = some style ∧ pick = annotate style) := by
  simp only [standard, List.mem_cons, List.not_mem_nil, or_false] at hstrategy
  obtain rfl | rfl | rfl | rfl := hstrategy
  · refine ⟨Block.ours, ?_, .inl rfl⟩
    unfold trivialMerge at hattempt
    dsimp only at hattempt
    split at hattempt
    · cases hattempt
    · cases hattempt
      rfl
  · simp [structuralMerge, hkind] at haccepts
  · unfold concurrentEdit at hattempt
    dsimp only at hattempt
    split at hattempt
    · cases hattempt
    · rename_i style hstyle
      cases hattempt
      exact ⟨annotate style, rfl, .inr ⟨style, hstyle, rfl⟩⟩
  · refine ⟨Block.ours, ?_, .inl rfl⟩
    cases hattempt
    rfl

/-- A resolution of a text with its marker lines in blocks has no line that is counted. -/
theorem countMarkers_of_attempt (hblocks : conflict.blocks = Block.ofText conflict.text)
    (htext : EndsPlainly conflict.text)
    (hinside : ∀ line, Block.markerAt (Text.pieces conflict.text.toList) line ≠ none →
      ∃ block ∈ Block.ofText conflict.text, block.covers line)
    (hstrategy : strategy ∈ standard) (hkind : conflict.kind ≠ .structural)
    (haccepts : strategy.accepts conflict) (hattempt : strategy.attempt conflict = .resolved resolution) :
    countMarkers resolution.content = 0 := by
  have honce := htext.isOnceReturned
  obtain ⟨pick, hcontent, hpick⟩ := exists_pick_of_attempt hstrategy hkind haccepts hattempt
  rw [hcontent, hblocks]
  refine Block.countMarkers_replaceAll honce hinside fun block hblock => ?_
  obtain rfl | ⟨style, hstyle, rfl⟩ := hpick
  · exact ⟨Block.isClean_ours hblock, Block.isOnceReturned_ours honce hblock⟩
  · have hplain := CommentStyle.isPlain_of_ofPath? hstyle
    exact ⟨isClean_annotate hplain hblock, isOnceReturned_annotate hplain honce hblock⟩

end Strategy

end Reconcile
