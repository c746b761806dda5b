import Mathlib.Tactic.Common
import Reconcile.Proofs.MarkerLines

/-!
# Counting marker lines

Blocks are read from pieces, of which a line feed and one carriage return are taken off; marker lines are
counted among lines, which have lost a carriage return with the line feed already and then lose another
one. So where two carriage returns stand before a line feed, the count goes by a shorter line than the
reading does. A label takes in the carriage return that is left over. Seven signs without a label do not,
and these are the lines that are counted but are not read as marker lines.
-/

namespace Reconcile

namespace Marker

variable {line label : List Char} {sign : Char}

def signs : List Char := ['<', '|', '>', '=']

/-- A line without the carriage returns at its end is a marker line: signs and a label, which a divider
does not have. -/
def Marks (line : List Char) : Prop :=
  ∃ sign ∈ signs, ∃ label, line = List.replicate signCount sign ++ label ∧ isLabel label ∧
    (sign = '=' → label = [])

def isBare (line : List Char) : Bool := signs.any fun sign => line = List.replicate signCount sign

theorem isBare_iff : isBare line ↔ ∃ sign ∈ signs, line = List.replicate signCount sign := by
  simp [isBare]

theorem afterSigns?_eq_some_iff :
    afterSigns? sign line = some label ↔ line = List.replicate signCount sign ++ label := by
  unfold afterSigns?
  constructor
  · intro h
    split_ifs at h with hsigns
    rw [← hsigns, ← Option.some_inj.mp h, List.take_append_drop]
  · rintro rfl
    simp

theorem isSome_ofLine?_iff : (ofLine? line).isSome ↔ Marks (dropReturn line) := by
  have hkinds : (ofLine? line).isSome ↔
      (afterSigns? '<' (dropReturn line)).any isLabel ∨ (afterSigns? '|' (dropReturn line)).any isLabel ∨
        (afterSigns? '>' (dropReturn line)).any isLabel ∨
          afterSigns? '=' (dropReturn line) = some [] := by
    unfold ofLine?
    dsimp only
    split_ifs <;> simp_all
  have hdivider : (∃ label, dropReturn line = List.replicate signCount '=' ++ label ∧ isLabel label ∧
      label = []) ↔ dropReturn line = List.replicate signCount '=' ++ [] := by
    constructor
    · rintro ⟨label, hline, -, rfl⟩
      exact hline
    · intro hline
      exact ⟨[], hline, rfl, rfl⟩
  simp only [hkinds, Option.any_eq_true, afterSigns?_eq_some_iff, Marks, signs, List.mem_cons,
    List.not_mem_nil, or_false, exists_eq_or_imp, exists_eq_left]
  simp [hdivider]

theorem isLabel_of_append {more : List Char} (h : isLabel (label ++ more)) : isLabel label := by
  cases label with
  | nil => rfl
  | cons c label =>
      rw [List.cons_append, isLabel] at h
      rw [isLabel]
      simp_all

theorem dropReturn_append_return (line : List Char) : dropReturn (line ++ ['\r']) = line := by
  simp [dropReturn]

theorem dropReturn_of_getLast?_ne (h : line.getLast? ≠ some '\r') : dropReturn line = line :=
  if_neg h

/-- A label takes in a carriage return after it, but there has to be one. -/
theorem marks_iff : Marks line ↔ Marks (line ++ ['\r']) ∨ isBare line := by
  have hreturn : '\r' ∉ signs := by decide
  rw [isBare_iff]
  constructor
  · rintro ⟨sign, hsign, label, rfl, hlabel, hdivider⟩
    cases label with
    | nil => exact .inr ⟨sign, hsign, List.append_nil _⟩
    | cons c label =>
        left
        refine ⟨sign, hsign, c :: (label ++ ['\r']), by simp, ?_, ?_⟩
        · simpa [isLabel] using hlabel
        · exact fun heq => absurd (hdivider heq) (List.cons_ne_nil c label)
  · rintro (⟨sign, hsign, label, hline, hlabel, hdivider⟩ | ⟨sign, hsign, rfl⟩)
    · obtain rfl | ⟨label, last, rfl⟩ := List.eq_nil_or_concat' label
      · have hmem : '\r' ∈ List.replicate signCount sign := by
          rw [← List.append_nil (List.replicate signCount sign), ← hline]
          simp
        rw [List.eq_of_mem_replicate hmem] at hreturn
        exact absurd hsign hreturn
      · rw [← List.append_assoc] at hline
        obtain ⟨rfl, -⟩ := List.append_inj' hline rfl
        refine ⟨sign, hsign, label, rfl, isLabel_of_append hlabel, fun heq => ?_⟩
        exact absurd (hdivider heq) (by simp)
    · exact ⟨sign, hsign, [], (List.append_nil _).symm, rfl, fun _ => rfl⟩

/-- Signs with nothing but a carriage return after them are no marker line. -/
theorem not_marks_of_isBare (h : isBare line) : ¬Marks (line ++ ['\r']) := by
  obtain ⟨sign, -, rfl⟩ := isBare_iff.mp h
  rintro ⟨other, -, label, hline, hlabel, -⟩
  obtain ⟨-, rfl⟩ := List.append_inj hline (by simp)
  cases hlabel

theorem eq_append_of_getLast?_dropReturn (h : (dropReturn line).getLast? = some '\r') :
    ∃ first, line = first ++ ['\r', '\r'] := by
  by_cases hreturn : line.getLast? = some '\r'
  · obtain ⟨rest, rfl⟩ := List.getLast?_eq_some_iff.mp hreturn
    rw [dropReturn_append_return] at h
    obtain ⟨first, rfl⟩ := List.getLast?_eq_some_iff.mp h
    exact ⟨first, by simp⟩
  · rw [dropReturn_of_getLast?_ne hreturn] at h
    exact absurd h hreturn

/-- Taking off one carriage return more makes a marker line of signs with two of them, and of nothing
else. -/
theorem isSome_ofLine?_dropReturn_iff : (ofLine? (dropReturn line)).isSome ↔
    (ofLine? line).isSome ∨ ∃ bare, isBare bare ∧ line = bare ++ ['\r', '\r'] := by
  rw [isSome_ofLine?_iff, isSome_ofLine?_iff]
  by_cases hreturn : (dropReturn line).getLast? = some '\r'
  · obtain ⟨first, rfl⟩ := eq_append_of_getLast?_dropReturn hreturn
    have honce : dropReturn (first ++ ['\r', '\r']) = first ++ ['\r'] := by simp [dropReturn]
    rw [honce, dropReturn_append_return, marks_iff]
    simp
  · rw [dropReturn_of_getLast?_ne hreturn]
    constructor
    · exact .inl
    · rintro (hmarks | ⟨bare, -, rfl⟩)
      · exact hmarks
      · exact absurd (by simp [dropReturn]) hreturn

end Marker

namespace Text

open Marker

variable {line piece : List Char}

/-- Seven signs and nothing after them but two carriage returns and the line feed. -/
def isTwiceReturned (piece : List Char) : Bool :=
  signs.any fun sign => piece = List.replicate signCount sign ++ ['\r', '\r', '\n']

theorem isTwiceReturned_iff :
    isTwiceReturned piece ↔ ∃ bare, isBare bare ∧ piece = bare ++ ['\r', '\r', '\n'] := by
  simp [isTwiceReturned, isBare_iff]

theorem isTwiceReturned_line :
    isTwiceReturned (line ++ ['\n']) ↔ ∃ bare, isBare bare ∧ line = bare ++ ['\r', '\r'] := by
  have hsplit (bare : List Char) : bare ++ ['\r', '\r', '\n'] = bare ++ ['\r', '\r'] ++ ['\n'] := by simp
  simp only [isTwiceReturned_iff, hsplit, List.append_left_inj]

theorem unterminated_line (line : List Char) : unterminated (line ++ ['\n']) = dropReturn line := by
  simp [unterminated, dropReturn]

theorem isSome_ofLine?_unterminated_iff :
    (ofLine? (unterminated piece)).isSome ↔ isMarkerLine piece ∨ isTwiceReturned piece := by
  by_cases hfed : piece.getLast? = some '\n'
  · obtain ⟨line, rfl⟩ := List.getLast?_eq_some_iff.mp hfed
    rw [unterminated_line, isSome_ofLine?_dropReturn_iff, isTwiceReturned_line, isMarkerLine, unfed_line]
  · have hnone : ¬isTwiceReturned piece := by
      rw [isTwiceReturned_iff]
      rintro ⟨bare, -, rfl⟩
      exact hfed (by simp)
    rw [unterminated, if_neg hfed, isMarkerLine, unfed, if_neg hfed, or_iff_left hnone]

theorem not_isMarkerLine_of_isTwiceReturned (h : isTwiceReturned piece) : ¬isMarkerLine piece := by
  obtain ⟨bare, hbare, rfl⟩ := isTwiceReturned_iff.mp h
  have hunfed : unfed (bare ++ ['\r', '\r', '\n']) = bare ++ ['\r'] ++ ['\r'] := by simp [unfed]
  rw [isMarkerLine, hunfed, isSome_ofLine?_iff, dropReturn_append_return]
  exact not_marks_of_isBare hbare

theorem countP_lines (pieces : List (List Char)) :
    (pieces.map unterminated).countP (fun line => (ofLine? line).isSome) =
      pieces.countP isMarkerLine + pieces.countP isTwiceReturned := by
  induction pieces with
  | nil => rfl
  | cons piece rest ih =>
      have hcounts : (ofLine? (unterminated piece)).isSome ↔ isMarkerLine piece ∨ isTwiceReturned piece :=
        isSome_ofLine?_unterminated_iff
      have honce : isTwiceReturned piece → ¬isMarkerLine piece := not_isMarkerLine_of_isTwiceReturned
      rw [List.map_cons, List.countP_cons, List.countP_cons, List.countP_cons, ih]
      by_cases hmarker : isMarkerLine piece <;> by_cases htwice : isTwiceReturned piece <;>
        simp_all <;> omega

theorem countMarkers_eq_add (text : String) : countMarkers text =
    (markerLines text.toList).length + (pieces text.toList).countP isTwiceReturned := by
  rw [countMarkers, lines, countP_lines, markerLines, List.countP_eq_length_filter]

/-- The lines that are counted are the marker lines, and besides them the signs without a label that two
carriage returns follow. -/
theorem countMarkers_eq_iff (text : String) :
    countMarkers text =
      (markerLines text.toList).length + (pieces text.toList).countP isTwiceReturned ∧
    (countMarkers text = (markerLines text.toList).length ↔
      ∀ piece ∈ pieces text.toList, ¬isTwiceReturned piece) := by
  refine ⟨countMarkers_eq_add text, ?_⟩
  rw [countMarkers_eq_add, Nat.add_eq_left, List.countP_eq_zero]

/-- A divider with two carriage returns is counted, but where blocks are read it is no marker line. -/
theorem twiceReturned_is_counted :
    countMarkers "=======\r\r\n" = 1 ∧ markerLines "=======\r\r\n".toList = [] := by
  decide

end Text

end Reconcile
