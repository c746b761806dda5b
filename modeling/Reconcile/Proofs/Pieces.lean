import Mathlib.Data.List.Infix
import Mathlib.Tactic.Common
import Reconcile.Text.Lines

/-!
# Pieces of joined texts

Where a text is empty or ends with a line feed, what is joined to it begins a new line, so the pieces of
the two are the pieces of both. A list of texts is a cut if joining them and cutting again gives the list
back; every run of the pieces of a text is one.
-/

namespace Reconcile.Text

variable {first second text piece line : List Char} {ps others : List (List Char)}

/-- What follows a text begins a new line. -/
def IsFed (text : List Char) : Prop := text = [] ∨ text.getLast? = some '\n'

theorem isFed_line (line : List Char) : IsFed (line ++ ['\n']) := .inr (by simp)

theorem IsFed.append (h : IsFed first) (h' : IsFed second) : IsFed (first ++ second) := by
  obtain rfl | hsecond := h'
  · simpa using h
  · right
    have hne : second ≠ [] := by
      rintro rfl
      cases hsecond
    rw [List.getLast?_append_of_ne_nil _ hne, hsecond]

theorem isFed_flatten (h : ∀ piece ∈ ps, IsFed piece) : IsFed ps.flatten := by
  induction ps with
  | nil => exact .inl rfl
  | cons piece ps ih =>
      rw [List.flatten_cons]
      have hpiece := h piece List.mem_cons_self
      exact hpiece.append (ih fun other hother => h other (List.mem_cons_of_mem piece hother))

theorem pieces_eq_nil_iff : pieces text = [] ↔ text = [] := by
  constructor
  · intro h
    rw [← flatten_pieces text, h, List.flatten_nil]
  · rintro rfl
    rfl

theorem pieces_append (h : IsFed first) : pieces (first ++ second) = pieces first ++ pieces second := by
  induction first with
  | nil => rfl
  | cons c first ih =>
      have hrest : first ≠ [] → IsFed first := by
        intro hne
        obtain hnil | hlast := h
        · cases hnil
        · rw [List.getLast?_cons_of_ne_nil hne] at hlast
          exact .inr hlast
      by_cases hfirst : first = []
      · subst hfirst
        obtain hnil | hlast := h
        · cases hnil
        · obtain rfl : c = '\n' := by simpa using hlast
          simp [pieces]
      · obtain ⟨piece, ps, hps⟩ := List.exists_cons_of_ne_nil (mt pieces_eq_nil_iff.mp hfirst)
        by_cases hc : c = '\n'
        · simp [pieces, hc, ih (hrest hfirst)]
        · simp [pieces, hc, ih (hrest hfirst), hps]

/-! ### Cuts -/

/-- Texts that are the pieces of what they join to. -/
def IsCut (ps : List (List Char)) : Prop := pieces ps.flatten = ps

theorem isCut_pieces (text : List Char) : IsCut (pieces text) := by
  rw [IsCut, flatten_pieces]

theorem of_pieces_eq_cons (h : pieces text = piece :: ps) :
    '\n' ∉ piece.dropLast ∧ (IsFed piece ∨ ps = []) ∧ IsCut ps := by
  fun_induction pieces text generalizing piece ps with
  | case1 => cases h
  | case2 rest ih =>
      obtain ⟨rfl, rfl⟩ := List.cons_eq_cons.mp h
      exact ⟨by simp, .inl (.inr rfl), isCut_pieces rest⟩
  | case3 c rest hc hnone ih =>
      obtain ⟨rfl, rfl⟩ := List.cons_eq_cons.mp h
      exact ⟨by simp, .inr rfl, rfl⟩
  | case4 c rest hc next more hnext ih =>
      obtain ⟨rfl, rfl⟩ := List.cons_eq_cons.mp h
      obtain ⟨hinside, hfed, hcut⟩ := ih hnext
      have hmem : next ∈ pieces rest := by simp [hnext]
      have hne := ne_nil_of_mem_pieces hmem
      refine ⟨?_, hfed.imp_left fun hnextFed => ?_, hcut⟩
      · rw [List.dropLast_cons_of_ne_nil hne, List.mem_cons, not_or]
        exact ⟨Ne.symm hc, hinside⟩
      · right
        rw [List.getLast?_cons_of_ne_nil hne]
        exact hnextFed.resolve_left hne

namespace IsCut

theorem tail (h : IsCut (piece :: ps)) : IsCut ps := (of_pieces_eq_cons h).2.2

theorem isFed_or (h : IsCut (piece :: ps)) : IsFed piece ∨ ps = [] := (of_pieces_eq_cons h).2.1

theorem pieces_head (h : IsCut (piece :: ps)) : pieces piece = [piece] := by
  obtain hfed | rfl := h.isFed_or
  · have hboth : pieces piece ++ ps = [piece] ++ ps := by
      have hall : pieces (piece ++ ps.flatten) = piece :: ps := h
      rwa [pieces_append hfed, h.tail] at hall
    exact List.append_cancel_right hboth
  · simpa [IsCut] using h

theorem pieces_of_mem (h : IsCut ps) (hpiece : piece ∈ ps) : pieces piece = [piece] := by
  induction ps with
  | nil => cases hpiece
  | cons other ps ih =>
      obtain rfl | hmem := List.mem_cons.mp hpiece
      · exact h.pieces_head
      · exact ih h.tail hmem

theorem newline_not_mem (h : IsCut ps) (hpiece : piece ∈ ps) : '\n' ∉ piece.dropLast := by
  induction ps with
  | nil => cases hpiece
  | cons other ps ih =>
      obtain rfl | hmem := List.mem_cons.mp hpiece
      · exact (of_pieces_eq_cons h).1
      · exact ih h.tail hmem

theorem cons (hpiece : pieces piece = [piece]) (hfed : IsFed piece ∨ ps = []) (h : IsCut ps) :
    IsCut (piece :: ps) := by
  rw [IsCut, List.flatten_cons]
  obtain hfed | rfl := hfed
  · rw [pieces_append hfed, hpiece, h]
    rfl
  · simpa using hpiece

/-- A cut falls into two cuts, and whatever has something after it ends with a line feed. -/
theorem of_append (h : IsCut (ps ++ others)) :
    IsCut ps ∧ IsCut others ∧ (others ≠ [] → ∀ piece ∈ ps, IsFed piece) := by
  induction ps with
  | nil => exact ⟨rfl, h, by simp⟩
  | cons piece ps ih =>
      have hcut : IsCut (piece :: (ps ++ others)) := h
      obtain ⟨hfirst, hsecond, hfed⟩ := ih hcut.tail
      refine ⟨hfirst.cons hcut.pieces_head ?_, hsecond, fun hne other hother => ?_⟩
      · exact hcut.isFed_or.imp_right fun hnil => (List.append_eq_nil_iff.mp hnil).1
      · obtain rfl | hmem := List.mem_cons.mp hother
        · exact hcut.isFed_or.resolve_right fun hnil => hne (List.append_eq_nil_iff.mp hnil).2
        · exact hfed hne other hmem

end IsCut

/-- Where each piece of a cut is kept as it is, or becomes text after which a new line begins, the pieces of
the whole are those of its parts. -/
theorem pieces_flatMap {part : Nat → List Char → List Char} (hcut : IsCut ps)
    (hpart : ∀ line piece, part line piece = piece ∨ IsFed (part line piece)) (n : Nat) :
    pieces ((ps.zipIdx n).flatMap fun numbered => part numbered.2 numbered.1) =
      (ps.zipIdx n).flatMap fun numbered => pieces (part numbered.2 numbered.1) := by
  induction ps generalizing n with
  | nil => rfl
  | cons piece ps ih =>
      rw [List.zipIdx_cons, List.flatMap_cons, List.flatMap_cons]
      dsimp only
      -- A piece that is kept and does not end with a line feed has nothing after it.
      obtain hfed | rfl := hcut.isFed_or
      · have hfirst : IsFed (part n piece) := by
          obtain hsame | hfed' := hpart n piece
          · rwa [hsame]
          · exact hfed'
        rw [pieces_append hfirst, ih hcut.tail]
      · simp

/-! ### Lines -/

theorem pieces_of_not_mem (h : '\n' ∉ line) : pieces (line ++ ['\n']) = [line ++ ['\n']] := by
  induction line with
  | nil => rfl
  | cons c line ih =>
      rw [List.mem_cons, not_or] at h
      simp [pieces, Ne.symm h.1, ih h.2]

theorem unfed_line (line : List Char) : unfed (line ++ ['\n']) = line := by
  simp [unfed]

theorem newline_not_mem_unterminated (h : '\n' ∉ piece.dropLast) : '\n' ∉ unterminated piece := by
  unfold unterminated
  dsimp only
  split_ifs with hfed hreturn
  · exact fun hmem => h (List.mem_of_mem_dropLast hmem)
  · exact h
  · intro hmem
    have hne : piece ≠ [] := List.ne_nil_of_mem hmem
    rw [← List.dropLast_concat_getLast hne, List.mem_append, List.mem_singleton] at hmem
    obtain hinside | hlast := hmem
    · exact h hinside
    · exact hfed (by rw [List.getLast?_eq_some_getLast hne, ← hlast])

theorem newline_not_mem_of_mem_stringLines {text line : String} (h : line ∈ stringLines text) :
    '\n' ∉ line.toList := by
  obtain ⟨chars, hchars, rfl⟩ := List.mem_map.mp h
  obtain ⟨piece, hpiece, rfl⟩ := List.mem_map.mp hchars
  rw [String.toList_ofList]
  exact newline_not_mem_unterminated ((isCut_pieces text.toList).newline_not_mem hpiece)

theorem not_mem_toString {c : Char} (hc : c.isDigit = false) (n : Nat) : c ∉ (toString n).toList := by
  intro h
  have hdigit : c ∈ Nat.toDigits 10 n := by simpa using h
  have hisDigit := Nat.isDigit_of_mem_toDigits (by decide) (by decide) hdigit
  cases hc.symm.trans hisDigit

end Reconcile.Text
