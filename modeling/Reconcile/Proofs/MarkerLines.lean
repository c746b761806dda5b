import Reconcile.Proofs.Partition
import Reconcile.Proofs.Pieces

/-!
# Marker lines of a text with its blocks replaced

A stretch of text is clean if what follows it begins a new line and none of its own lines is a marker
line. Our side of a block is clean, since the first marker line after the start of a block ends it.
Where every block is replaced by a clean stretch, no two lines are joined, and the marker lines that are
left are those outside the blocks.
-/

namespace Reconcile

namespace Text

variable {first second line : List Char} {ps : List (List Char)}

def isMarkerLine (piece : List Char) : Bool := (Marker.ofLine? (unfed piece)).isSome

/-- The marker lines of a text, as they stand. -/
def markerLines (text : List Char) : List (List Char) := (pieces text).filter isMarkerLine

structure IsClean (text : List Char) : Prop where
  isFed : IsFed text
  hasNoMarkers : markerLines text = []

theorem markerLines_append (h : IsFed first) :
    markerLines (first ++ second) = markerLines first ++ markerLines second := by
  rw [markerLines, pieces_append h, List.filter_append]
  rfl

theorem isClean_nil : IsClean [] := ⟨.inl rfl, rfl⟩

theorem IsClean.append (h : IsClean first) (h' : IsClean second) : IsClean (first ++ second) where
  isFed := h.isFed.append h'.isFed
  hasNoMarkers := by rw [markerLines_append h.isFed, h.hasNoMarkers, h'.hasNoMarkers, List.nil_append]

theorem isClean_line (hline : '\n' ∉ line) (hmarker : Marker.ofLine? line = none) :
    IsClean (line ++ ['\n']) where
  isFed := isFed_line line
  hasNoMarkers := by simp [markerLines, pieces_of_not_mem hline, isMarkerLine, unfed_line, hmarker]

theorem isClean_flatten (hcut : IsCut ps) (hfed : ∀ piece ∈ ps, IsFed piece)
    (hmarkers : ∀ piece ∈ ps, Marker.ofLine? (unfed piece) = none) : IsClean ps.flatten where
  isFed := isFed_flatten hfed
  hasNoMarkers := by
    rw [markerLines, hcut, List.filter_eq_nil_iff]
    intro piece hpiece
    simp [isMarkerLine, hmarkers piece hpiece]

/-- Where the lines of a text are kept as they are or become clean stretches, the marker lines that are
left are those of the lines that are kept. -/
theorem markerLines_flatMap {part : Nat → List Char → List Char} {keeps : Nat → Bool}
    (hkept : ∀ line piece, keeps line → part line piece = piece)
    (hclean : ∀ line piece, ¬keeps line → IsClean (part line piece)) (hcut : IsCut ps) (n : Nat) :
    markerLines ((ps.zipIdx n).flatMap fun numbered => part numbered.2 numbered.1) =
      (((ps.zipIdx n).filter fun numbered => keeps numbered.2).map Prod.fst).filter isMarkerLine := by
  have hpart (line : Nat) (piece : List Char) : part line piece = piece ∨ IsFed (part line piece) := by
    by_cases hkeep : keeps line
    · exact .inl (hkept line piece hkeep)
    · exact .inr (hclean line piece hkeep).isFed
  have hlines (numbered : List Char × Nat) (hnumbered : numbered ∈ ps.zipIdx n) :
      (pieces (part numbered.2 numbered.1)).filter isMarkerLine =
        if keeps numbered.2 then [numbered.1].filter isMarkerLine else [] := by
    split_ifs with hkeep
    · rw [hkept _ _ hkeep, hcut.pieces_of_mem (List.fst_mem_of_mem_zipIdx hnumbered)]
    · exact (hclean _ _ hkeep).hasNoMarkers
  rw [markerLines, pieces_flatMap hcut hpart, List.filter_flatMap, List.flatMap_congr hlines]
  induction ps.zipIdx n with
  | nil => rfl
  | cons numbered rest ih =>
      rw [List.flatMap_cons, ih]
      by_cases hkeep : keeps numbered.2 <;> by_cases hmarker : isMarkerLine numbered.1 <;>
        simp [hkeep, hmarker]

end Text

namespace Block

open Text

variable {pieces : List (List Char)} {block : Block} {first last : Nat} {text : String}
  {pick : Block → String}

theorem isFed_of_mem_between (hcut : IsCut pieces) (hlast : markerAt pieces last ≠ none)
    {piece : List Char} (hpiece : piece ∈ (pieces.take (last - 1)).drop first) : IsFed piece := by
  have hpositive : last ≠ 0 := by
    rintro rfl
    exact hlast rfl
  have hlimit : last ≤ pieces.length := by
    by_contra hlong
    exact hlast (markerAt_of_length_lt (Nat.not_le.mp hlong))
  have hrest : pieces.drop (last - 1) ≠ [] := by
    rw [Ne, List.drop_eq_nil_iff]
    omega
  rw [← List.take_append_drop (last - 1) pieces] at hcut
  exact hcut.of_append.2.2 hrest piece (List.mem_of_mem_drop hpiece)

theorem isCut_between (hcut : IsCut pieces) (first last : Nat) :
    IsCut ((pieces.take (last - 1)).drop first) := by
  rw [← List.take_append_drop (last - 1) pieces] at hcut
  have htake := hcut.of_append.1
  rw [← List.take_append_drop first (pieces.take (last - 1))] at htake
  exact htake.of_append.2.1

/-- What stands before a marker line ends its last line. -/
theorem isFed_between (hcut : IsCut pieces) (hlast : markerAt pieces last ≠ none) :
    IsFed (between pieces first last) :=
  isFed_flatten fun _ => isFed_of_mem_between hcut hlast

theorem isClean_between (hcut : IsCut pieces) (hlast : markerAt pieces last ≠ none)
    (hnone : ∀ line, first < line → line < last → markerAt pieces line = none) :
    IsClean (between pieces first last) := by
  refine isClean_flatten (isCut_between hcut first last) (fun _ => isFed_of_mem_between hcut hlast)
    fun piece hpiece => ?_
  obtain ⟨n, hn⟩ := List.mem_iff_getElem?.mp hpiece
  rw [List.getElem?_drop, List.getElem?_take] at hn
  split_ifs at hn with hbefore
  have hmarker := markerAt_of_getElem? (Nat.succ_pos (first + n)) hn
  exact hmarker.symm.trans (hnone (first + n + 1) (by omega) (by omega))

theorem isClean_ours (hblock : block ∈ ofText text) : IsClean block.ours.toList := by
  have h := mem_ofText_iff.mp hblock
  have hcut := isCut_pieces text.toList
  have hdivider := h.divider
  -- No line that is read before the divider or the base marker is a marker of any kind.
  have hnone {last : Nat} (hlast : last ≤ block.dividerLine)
      (hbase : Lacks (Text.pieces text.toList) .base block.startLine last) (line : Nat)
      (hafter : block.startLine < line) (hbefore : line < last) :
      markerAt (Text.pieces text.toList) line = none := by
    have hend : line < block.endLine := by
      have hinside := hdivider.before
      omega
    cases hmarker : markerAt (Text.pieces text.toList) line with
    | none => rfl
    | some marker =>
        cases marker with
        | start => exact absurd hmarker (h.ends.noStart line hafter hend)
        | base => exact absurd hmarker (hbase line hafter hbefore)
        | divider => exact absurd hmarker (hdivider.least line hafter (by omega))
        | finish => exact absurd hmarker (h.ends.noFinish line hafter hend)
  have hupper := h.upper
  cases hbase : block.base with
  | none =>
      rw [hbase] at hupper
      rw [hupper.2]
      exact isClean_between hcut (by simp [hdivider.isMarker]) (hnone le_rfl hupper.1)
  | some base =>
      rw [hbase] at hupper
      obtain ⟨line, hfirst, hours, -⟩ := hupper
      rw [hours]
      exact isClean_between hcut (by simp [hfirst.isMarker]) (hnone hfirst.before.le hfirst.least)

/-! ### What is left of the marker lines of a text -/

/-- A line of a text is in none of its blocks. -/
def isOuter (text : String) (line : Nat) : Bool := (ofText text).all (!·.covers line)

/-- The lines of a text that are in none of its blocks, as they stand. -/
def outerLines (text : String) : List (List Char) :=
  (((Text.pieces text.toList).zipIdx 1).filter fun numbered => isOuter text numbered.2).map Prod.fst

theorem isOuter_iff {line : Nat} : isOuter text line ↔ ∀ block ∈ ofText text, ¬block.covers line := by
  simp [isOuter]

/-- A resolved text has the marker lines of a text that are outside its blocks, and no others. -/
structure Clears (text resolved : String) : Prop where
  kept : markerLines resolved.toList = (outerLines text).filter isMarkerLine
  none : (∀ line, markerAt (Text.pieces text.toList) line ≠ none →
    ∃ block ∈ ofText text, block.covers line) → markerLines resolved.toList = []

theorem outerLines_eq_nil (h : ∀ line, markerAt (Text.pieces text.toList) line ≠ none →
    ∃ block ∈ ofText text, block.covers line) : (outerLines text).filter isMarkerLine = [] := by
  rw [List.filter_eq_nil_iff]
  intro piece hpiece hmarker
  obtain ⟨⟨other, line⟩, hnumbered, rfl⟩ := List.mem_map.mp hpiece
  obtain ⟨hmem, houter⟩ := List.mem_filter.mp hnumbered
  obtain ⟨hline, hpiece⟩ := List.mk_mem_zipIdx_iff_le_and_getElem?_sub.mp hmem
  have hmarked : markerAt (Text.pieces text.toList) line ≠ none := by
    rw [markerAt_of_getElem? hline hpiece]
    exact Option.isSome_iff_ne_none.mp hmarker
  obtain ⟨block, hblock, hcovers⟩ := h line hmarked
  exact isOuter_iff.mp houter block hblock hcovers

theorem isClean_standIn {line : Nat} {piece : List Char} (hline : ¬isOuter text line)
    (hpick : ∀ block ∈ ofText text, IsClean (pick block).toList) :
    IsClean (standIn pick (ofText text) line piece) := by
  unfold standIn
  cases hfind : (ofText text).find? (·.covers line) with
  | none =>
      rw [isOuter_iff] at hline
      exact absurd (List.find?_eq_none.mp hfind) hline
  | some block =>
      dsimp only
      split_ifs
      · exact hpick block (List.mem_of_find?_eq_some hfind)
      · exact isClean_nil

theorem clears_replaceAll (hpick : ∀ block ∈ ofText text, IsClean (pick block).toList) :
    Clears text (replaceAll text (ofText text) pick) := by
  have houter (line : Nat) (piece : List Char) (hline : isOuter text line) :
      standIn pick (ofText text) line piece = piece :=
    standIn_of_forall_not_covers (isOuter_iff.mp hline)
  have hinner (line : Nat) (piece : List Char) (hline : ¬isOuter text line) :
      IsClean (standIn pick (ofText text) line piece) := isClean_standIn hline hpick
  have hkept : markerLines (replaceAll text (ofText text) pick).toList =
      (outerLines text).filter isMarkerLine := by
    rw [toList_replaceAll]
    exact markerLines_flatMap houter hinner (isCut_pieces text.toList) 1
  exact ⟨hkept, fun hinside => hkept.trans (outerLines_eq_nil hinside)⟩

end Block

end Reconcile
