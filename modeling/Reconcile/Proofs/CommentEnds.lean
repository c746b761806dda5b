import Mathlib
import Reconcile.Proofs.Annotation

/-!
# Where comments end

A comment with a closing token ends where that token first occurs. Within the text the token is loosened:
a space is put before its last character, wherever the token stands. That makes no new one, since what is
put in is a space, which no closing token has, and since such a token has its last character only once. So
the token is found at the end of the comment and nowhere before.
-/

namespace Reconcile

namespace CommentStyle

variable {start ending token text first second : List Char} {last c : Char} {n : Nat}

def OccursAt (token text : List Char) (n : Nat) : Prop := token <+: text.drop n

/-- A token that is made no more by putting spaces before its last character. -/
structure IsTight (start : List Char) (last : Char) : Prop where
  nonempty : start ≠ []
  once : last ∉ start
  unspaced : ' ' ∉ start ++ [last]

/-! ### Tokens between spaces -/

theorem prefix_of_prefix_append_cons (hc : c ∉ token) (h : token <+: first ++ c :: second) :
    token <+: first := by
  obtain hprefix | ⟨rest, rfl⟩ := List.prefix_or_prefix_of_prefix h (List.prefix_append first _)
  · exact hprefix
  · rw [List.prefix_append_right_inj, List.prefix_cons_iff] at h
    obtain rfl | ⟨more, rfl, -⟩ := h
    · simp
    · simp at hc

/-- A token that occurs in two texts with a character between them that it has not occurs in one of them. -/
theorem occursAt_of_append_cons (hc : c ∉ token) (h : OccursAt token (first ++ c :: second) n) :
    OccursAt token first n ∨ ∃ k, n = first.length + 1 + k ∧ OccursAt token second k := by
  unfold OccursAt at h ⊢
  obtain hle | hlt := le_or_gt n first.length
  · rw [List.drop_append_of_le_length hle] at h
    exact .inl (prefix_of_prefix_append_cons hc h)
  · obtain ⟨k, rfl⟩ := Nat.exists_eq_add_of_le (Nat.succ_le_of_lt hlt)
    have hdrop : (first ++ c :: second).drop (first.length + 1 + k) = second.drop k := by
      rw [Nat.add_assoc, List.drop_length_add_append, Nat.add_comm, List.drop_succ_cons]
    rw [hdrop] at h
    exact .inr ⟨k, rfl, h⟩

theorem not_occursAt_of_length_lt (h : text.length < token.length) : ¬OccursAt token text n := by
  intro hoccurs
  have hlength := hoccurs.length_le
  rw [List.length_drop] at hlength
  omega

/-! ### Loosened texts -/

/-- The end of a token that stands at the beginning of a loosened text stood there before. -/
theorem prefix_of_prefix_loosen (htight : IsTight start last) (hend : ' ' ∉ ending ++ [last])
    (h : ending ++ [last] <+: loosen start last text) : ending ++ [last] <+: text := by
  fun_induction loosen start last text generalizing ending with
  | case1 => exact h
  | case2 c rest hprefix ih =>
      have hstart := prefix_of_prefix_append_cons hend h
      exact absurd (hstart.subset (by simp)) htight.once
  | case3 c rest hprefix ih =>
      cases ending with
      | nil => simpa [List.cons_prefix_cons] using h
      | cons d ending =>
          rw [List.cons_append, List.cons_prefix_cons] at h ⊢
          exact ⟨h.1, ih (fun hmem => hend (List.mem_cons_of_mem d hmem)) h.2⟩

/-- Loosening takes every occurrence of the token away and makes none. -/
theorem not_occursAt_loosen (htight : IsTight start last) (text : List Char) (n : Nat) :
    ¬OccursAt (start ++ [last]) (loosen start last text) n := by
  obtain ⟨d, ending, rfl⟩ := List.exists_cons_of_ne_nil htight.nonempty
  fun_induction loosen (d :: ending) last text generalizing n with
  | case1 => exact not_occursAt_of_length_lt (by simp)
  | case2 c rest hprefix ih =>
      intro h
      obtain hstart | ⟨k, -, hrest⟩ := occursAt_of_append_cons htight.unspaced h
      · exact not_occursAt_of_length_lt (by simp) hstart
      · cases k with
        | zero =>
            -- The character that was moved away is the last one of the token and not its first.
            have hfirst : d = last := (List.cons_prefix_cons.mp hrest).1
            exact htight.once (by simp [hfirst])
        | succ k => exact ih k hrest
  | case3 c rest hprefix ih =>
      intro h
      cases n with
      | zero =>
          obtain ⟨rfl, hending⟩ := List.cons_prefix_cons.mp h
          have hend : ' ' ∉ ending ++ [last] := fun hmem =>
            htight.unspaced (List.mem_cons_of_mem d hmem)
          rw [List.isPrefixOf_iff_prefix] at hprefix
          exact hprefix (List.cons_prefix_cons.mpr ⟨rfl, prefix_of_prefix_loosen htight hend hending⟩)
      | succ n => exact ih n h

def unspaced (text : List Char) : List Char := text.filter (· ≠ ' ')

theorem unspaced_append (first second : List Char) :
    unspaced (first ++ second) = unspaced first ++ unspaced second :=
  List.filter_append ..

theorem unspaced_append_cons (first second : List Char) :
    unspaced (first ++ ' ' :: second) = unspaced (first ++ second) := by
  simp [unspaced]

/-- Loosening puts in nothing but spaces. -/
theorem unspaced_loosen (start : List Char) (last : Char) (text : List Char) :
    unspaced (loosen start last text) = unspaced text := by
  fun_induction loosen start last text with
  | case1 => rfl
  | case2 c rest hprefix ih =>
      obtain ⟨more, hmore⟩ := List.isPrefixOf_iff_prefix.mp hprefix
      have hrest : rest.drop start.length = more := by
        have hdrop := congrArg (List.drop (start.length + 1)) hmore
        simpa using hdrop.symm
      rw [← hmore, unspaced_append_cons, List.append_cons, unspaced_append, ih, hrest, ← unspaced_append]
  | case3 c rest hprefix ih =>
      rw [← List.singleton_append, unspaced_append, ih, ← unspaced_append, List.singleton_append]

/-! ### Comments with a closing token -/

variable {style : CommentStyle} {path : String}

/-- The closing token is tight, and what opens the comment does not close it. -/
structure IsEnclosing (style : CommentStyle) (start : List Char) (last : Char) : Prop where
  closer : style.closer = some (start, last)
  isTight : IsTight start last
  opener : ¬start ++ [last] <:+: style.opener.toList

theorem isEnclosing_starBlock : IsEnclosing starBlock ['*'] '/' where
  closer := rfl
  isTight := ⟨by decide, by decide, by decide⟩
  opener := by decide

theorem isEnclosing_markupBlock : IsEnclosing markupBlock ['-', '-'] '>' where
  closer := rfl
  isTight := ⟨by decide, by decide, by decide⟩
  opener := by decide

/-- The comments that files are known to have. -/
def standard : List CommentStyle := [line "//", line "#", line "--", starBlock, markupBlock]

theorem mem_standard_of_ofPath? (h : ofPath? path = some style) : style ∈ standard := by
  unfold ofPath? at h
  split at h
  · rename_i language _
    cases h
    cases language <;> simp [standard, Language.lineComment]
  · split_ifs at h
    · cases h
      simp [standard]
    · obtain ⟨extension, -, hextension⟩ := Option.bind_eq_some_iff.mp h
      unfold ofExtension? at hextension
      split_ifs at hextension <;> cases hextension <;> simp [standard]

theorem isEnclosing_of_ofPath? (h : ofPath? path = some style)
    (hcloser : style.closer = some (start, last)) : IsEnclosing style start last := by
  have hmem := mem_standard_of_ofPath? h
  simp only [standard, List.mem_cons, List.not_mem_nil, or_false] at hmem
  obtain rfl | rfl | rfl | rfl | rfl := hmem <;> cases hcloser
  · exact isEnclosing_starBlock
  · exact isEnclosing_markupBlock

/-- What stands in a comment before its closing token and the space before that. -/
def commented (opener start : List Char) (last : Char) (text : List Char) : List Char :=
  if loosen start last text = [] then opener else opener ++ ' ' :: loosen start last text

theorem toList_comment_of_closer (hcloser : style.closer = some (start, last)) (text : String) :
    (style.comment text).toList =
      commented style.opener.toList start last text.toList ++ ' ' :: (start ++ [last]) := by
  unfold comment commented
  rw [hcloser]
  by_cases hempty : loosen start last text.toList = [] <;> simp [hempty]

theorem unspaced_commented (opener start : List Char) (last : Char) (text : List Char) :
    unspaced (commented opener start last text) = unspaced (opener ++ text) := by
  rw [unspaced_append, ← unspaced_loosen start last text]
  unfold commented
  split_ifs with hempty
  · simp [hempty, unspaced]
  · rw [unspaced_append_cons, unspaced_append]

namespace IsEnclosing

theorem not_occursAt_opener (h : IsEnclosing style start last) (n : Nat) :
    ¬OccursAt (start ++ [last]) style.opener.toList n := fun hoccurs =>
  h.opener (hoccurs.isInfix.trans (List.drop_suffix n _).isInfix)

theorem not_occursAt_commented (h : IsEnclosing style start last) (text : List Char) (n : Nat) :
    ¬OccursAt (start ++ [last]) (commented style.opener.toList start last text) n := by
  unfold commented
  split_ifs
  · exact h.not_occursAt_opener n
  · intro hoccurs
    obtain hopener | ⟨k, -, htext⟩ := occursAt_of_append_cons h.isTight.unspaced hoccurs
    · exact h.not_occursAt_opener n hopener
    · exact not_occursAt_loosen h.isTight text k htext

theorem occursAt_comment_iff (h : IsEnclosing style start last) (text : String) :
    OccursAt (start ++ [last]) (style.comment text).toList n ↔
      n + (start ++ [last]).length = (style.comment text).toList.length := by
  rw [toList_comment_of_closer h.closer]
  constructor
  · intro hoccurs
    obtain hbefore | ⟨k, rfl, hclose⟩ := occursAt_of_append_cons h.isTight.unspaced hoccurs
    · exact absurd hbefore (h.not_occursAt_commented text.toList n)
    · have hlength := hclose.length_le
      simp only [List.length_drop, List.length_append, List.length_cons, List.length_nil] at hlength ⊢
      omega
  · intro hlength
    have hplace : n = (commented style.opener.toList start last text.toList ++ [' ']).length := by
      simp only [List.length_append, List.length_cons, List.length_nil] at hlength ⊢
      omega
    have hcomment := List.append_cons (commented style.opener.toList start last text.toList) ' '
      (start ++ [last])
    rw [OccursAt, hplace, hcomment, List.drop_left]

theorem unspaced_comment (h : IsEnclosing style start last) (text : String) :
    unspaced (style.comment text).toList =
      unspaced (style.opener.toList ++ text.toList ++ (start ++ [last])) := by
  rw [toList_comment_of_closer h.closer, unspaced_append_cons, unspaced_append, unspaced_commented,
    ← unspaced_append]

end IsEnclosing

/-! ### Comments as lines -/

theorem ofLine?_comment (hstyle : style.IsPlain) (text : String) :
    Marker.ofLine? (style.comment text).toList = none := by
  obtain ⟨rest, hcomment⟩ := opener_isPrefix_comment style text
  by_contra hmarker
  obtain ⟨sign, hsign, more, hmore⟩ := Marker.exists_of_ofLine? hmarker
  exact hstyle.opener rest sign hsign more (hcomment.trans hmore)

theorem lines_of_not_mem {line : List Char} (hne : line ≠ []) (hline : '\n' ∉ line) :
    Text.lines line = [line] := by
  have hpieces : Text.pieces line = [line] := by
    induction line with
    | nil => exact absurd rfl hne
    | cons c rest ih =>
        rw [List.mem_cons, not_or] at hline
        rw [Text.pieces, if_neg (Ne.symm hline.1)]
        cases rest with
        | nil => rfl
        | cons d rest => rw [ih (List.cons_ne_nil d rest) hline.2]
  have hlast : line.getLast? ≠ some '\n' := fun h => hline (List.mem_of_getLast? h)
  rw [Text.lines, hpieces, List.map_singleton, Text.unterminated, if_neg hlast]

theorem lines_comment (hstyle : ofPath? path = some style) {text : String} (htext : '\n' ∉ text.toList) :
    Text.lines (style.comment text).toList = [(style.comment text).toList] := by
  have hplain := isPlain_of_ofPath? hstyle
  have hopener : ∀ style ∈ standard, style.opener ≠ "" := by decide
  obtain ⟨rest, hcomment, hrest⟩ := toList_comment hplain htext
  apply lines_of_not_mem
  · simp [hcomment, hopener style (mem_standard_of_ofPath? hstyle)]
  · rw [hcomment, List.mem_append, not_or]
    exact ⟨hplain.openerLine, hrest⟩

/-- A comment with a closing token has that token at its end and nowhere else, and says the text but for
spaces. A comment on one line is one line, which begins as comments do and is no marker line. -/
theorem comment_ends_once (hstyle : ofPath? path = some style) (text : String) :
    (∀ start last, style.closer = some (start, last) →
      (∀ n, OccursAt (start ++ [last]) (style.comment text).toList n ↔
        n + (start ++ [last]).length = (style.comment text).toList.length) ∧
      unspaced (style.comment text).toList =
        unspaced (style.opener.toList ++ text.toList ++ (start ++ [last]))) ∧
    ('\n' ∉ text.toList →
      Text.lines (style.comment text).toList = [(style.comment text).toList] ∧
      style.opener.toList <+: (style.comment text).toList ∧
      Marker.ofLine? (style.comment text).toList = none) := by
  refine ⟨fun start last hcloser => ?_, fun htext => ?_⟩
  · have henclosing := isEnclosing_of_ofPath? hstyle hcloser
    exact ⟨fun n => henclosing.occursAt_comment_iff text, henclosing.unspaced_comment text⟩
  · exact ⟨lines_comment hstyle htext, opener_isPrefix_comment style text,
      ofLine?_comment (isPlain_of_ofPath? hstyle) text⟩

/-- Tokens that touch, with a star before them, and dashes before a token. -/
theorem comment_ends_once_seams :
    ofPath? "a.css" = some starBlock ∧ ofPath? "a.md" = some markupBlock ∧
    starBlock.comment "**/*/" = "/* ** /* / */" ∧ markupBlock.comment "---->>" = "<!-- ---- >> -->" ∧
    (∀ n, OccursAt ['*', '/'] (starBlock.comment "**/*/").toList n ↔ n = 11) ∧
    (∀ n, OccursAt ['-', '-', '>'] (markupBlock.comment "---->>").toList n ↔ n = 13) ∧
    Marker.ofLine? (markupBlock.comment "---->>").toList = none := by
  have hstar : ofPath? "a.css" = some starBlock := by decide +kernel
  have hmarkup : ofPath? "a.md" = some markupBlock := by decide +kernel
  have hstars : starBlock.comment "**/*/" = "/* ** /* / */" := by cbv
  have hdashes : markupBlock.comment "---->>" = "<!-- ---- >> -->" := by cbv
  obtain ⟨hstarEnd, -⟩ := comment_ends_once hstar "**/*/"
  obtain ⟨hmarkupEnd, hmarkupLine⟩ := comment_ends_once hmarkup "---->>"
  obtain ⟨-, -, hline⟩ := hmarkupLine (by decide)
  refine ⟨hstar, hmarkup, hstars, hdashes, fun n => ?_, fun n => ?_, hline⟩
  · refine ((hstarEnd ['*'] '/' rfl).1 n).trans ?_
    rw [hstars]
    exact Nat.add_right_cancel_iff (m := n) (k := 11)
  · refine ((hmarkupEnd ['-', '-'] '>' rfl).1 n).trans ?_
    rw [hdashes]
    exact Nat.add_right_cancel_iff (m := n) (k := 13)

end CommentStyle

end Reconcile
