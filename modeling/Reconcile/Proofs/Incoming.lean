import Mathlib
import Reconcile.Proofs.Partition
import Reconcile.Proofs.Pieces
import Reconcile.Resolution.Strategy

/-!
# Incoming text in comments

The other side of a block is written as comments line by line, where a line ends at a line feed. In
JavaScript, TypeScript and Python a carriage return ends a line as well, and a comment with it. So of an
incoming line the part up to its first carriage return is sure to be in the comment, and what follows is
in a comment only where it begins one of its own.
-/

namespace Reconcile

open Text

/-- A character of a resolved text, and whether it comes from the other side of a block. -/
structure Traced where
  char : Char
  isTheirs : Bool

namespace Traced

variable {first second line : List Traced} {opener text : List Char} {c : Traced}

def own (text : List Char) : List Traced := text.map (⟨·, false⟩)

def theirs (text : List Char) : List Traced := text.map (⟨·, true⟩)

def plain (chars : List Traced) : List Char := chars.map Traced.char

/-- What ends a line of a program, and a comment on it. -/
def isLineEnd (c : Char) : Bool := c = '\n' || c = '\r'

/-- What a line says before its first comment. -/
def beforeComment (opener : List Char) : List Traced → List Traced
  | [] => []
  | c :: rest => if opener <+: plain (c :: rest) then [] else c :: beforeComment opener rest

/-- The characters outside comments, line ends apart. -/
def outsideComments (opener : List Char) (chars : List Traced) : List Traced :=
  (chars.splitOnP fun c => isLineEnd c.char).flatMap (beforeComment opener)

/-- No character of the other side is outside comments. -/
def IsCommented (opener : List Char) (chars : List Traced) : Prop :=
  ∀ c ∈ outsideComments opener chars, c.isTheirs = false

@[simp]
theorem plain_append (first second : List Traced) :
    plain (first ++ second) = plain first ++ plain second :=
  List.map_append

@[simp]
theorem plain_own (text : List Char) : plain (own text) = text := by
  simp [plain, own, Function.comp_def]

@[simp]
theorem plain_theirs (text : List Char) : plain (theirs text) = text := by
  simp [plain, theirs, Function.comp_def]

/-- The characters that come from the other side. -/
def incoming (chars : List Traced) : List Char := plain (chars.filter (·.isTheirs))

@[simp]
theorem incoming_append (first second : List Traced) :
    incoming (first ++ second) = incoming first ++ incoming second := by
  simp [incoming]

@[simp]
theorem incoming_own (text : List Char) : incoming (own text) = [] := by
  simp [incoming, own, plain]

@[simp]
theorem incoming_theirs (text : List Char) : incoming (theirs text) = text := by
  have hall : (theirs text).filter (·.isTheirs) = theirs text := by simp [theirs]
  rw [incoming, hall, plain_theirs]

theorem plain_flatMap {α : Type} (part : α → List Traced) (xs : List α) :
    plain (xs.flatMap part) = xs.flatMap fun x => plain (part x) :=
  List.map_flatMap

theorem incoming_flatMap {α : Type} (part : α → List Traced) (xs : List α) :
    incoming (xs.flatMap part) = xs.flatMap fun x => incoming (part x) := by
  rw [incoming, List.filter_flatMap, plain_flatMap]
  rfl

/-! ### Comments of joined texts -/

theorem beforeComment_eq_nil_iff :
    beforeComment opener line = [] ↔ line = [] ∨ opener <+: plain line := by
  cases line with
  | nil => simp [beforeComment]
  | cons c rest =>
      rw [beforeComment]
      split_ifs with hopens <;> simp [hopens]

theorem beforeComment_sublist (opener : List Char) (line : List Traced) :
    (beforeComment opener line).Sublist line := by
  induction line with
  | nil => exact List.Sublist.slnil
  | cons c rest ih =>
      rw [beforeComment]
      split_ifs
      · exact List.nil_sublist _
      · exact ih.cons_cons c

theorem outsideComments_nil (opener : List Char) : outsideComments opener [] = [] := by
  simp [outsideComments, beforeComment]

/-- A line end ends the comment that it stands behind. -/
theorem outsideComments_append_cons (hend : isLineEnd c.char) :
    outsideComments opener (first ++ c :: second) =
      outsideComments opener first ++ outsideComments opener second := by
  simp only [outsideComments]
  rw [List.splitOnP_append_cons first second hend, List.flatMap_append]

theorem outsideComments_append (h : IsFed (plain first)) : outsideComments opener (first ++ second) =
    outsideComments opener first ++ outsideComments opener second := by
  obtain rfl | ⟨front, last, rfl⟩ := List.eq_nil_or_concat' first
  · simp [outsideComments_nil]
  · have hend : isLineEnd last.char := by
      obtain hnil | hlast := h
      · simp [plain] at hnil
      · have hfeed : last.char = '\n' := by simpa [plain] using hlast
        simp [isLineEnd, hfeed]
    rw [List.append_assoc, List.singleton_append, outsideComments_append_cons hend,
      outsideComments_append_cons hend, outsideComments_nil, List.append_nil]

theorem isCommented_nil (opener : List Char) : IsCommented opener [] := by
  simp [IsCommented, outsideComments_nil]

theorem isCommented_append_iff (h : IsFed (plain first)) : IsCommented opener (first ++ second) ↔
    IsCommented opener first ∧ IsCommented opener second := by
  rw [IsCommented, outsideComments_append h, List.forall_mem_append]
  rfl

theorem isCommented_flatMap_iff {α : Type} {xs : List α} {part : α → List Traced}
    (h : ∀ x ∈ xs, IsFed (plain (part x))) :
    IsCommented opener (xs.flatMap part) ↔ ∀ x ∈ xs, IsCommented opener (part x) := by
  induction xs with
  | nil => simp [isCommented_nil]
  | cons x xs ih =>
      rw [List.forall_mem_cons] at h ⊢
      rw [List.flatMap_cons, isCommented_append_iff h.1, ih h.2]

/-! ### Lines as comments -/

theorem splitOnP_map {α β : Type} (p : β → Bool) (f : α → β) (xs : List α) :
    (xs.map f).splitOnP p = (xs.splitOnP (p ∘ f)).map (List.map f) := by
  induction xs with
  | nil => simp
  | cons x xs ih =>
      rw [List.map_cons, List.splitOnP_cons_eq_if_modifyHead, List.splitOnP_cons_eq_if_modifyHead, ih]
      obtain ⟨part, parts, hparts⟩ := List.exists_cons_of_ne_nil (List.splitOnP_ne_nil (p ∘ f) xs)
      rw [hparts]
      split_ifs <;> simp_all

theorem splitOnP_append {α : Type} {p : α → Bool} {head xs part : List α} {parts : List (List α)}
    (hhead : ∀ x ∈ head, p x = false) (h : xs.splitOnP p = part :: parts) :
    (head ++ xs).splitOnP p = (head ++ part) :: parts := by
  induction head with
  | nil => exact h
  | cons x head ih =>
      rw [List.forall_mem_cons] at hhead
      rw [List.cons_append, List.splitOnP_cons_eq_if_modifyHead, ih hhead.2, if_neg (by simp [hhead.1])]
      rfl

theorem splitOnP_traced (isTheirs : Bool) (text : List Char) :
    (text.map (Traced.mk · isTheirs)).splitOnP (fun c => isLineEnd c.char) =
      (text.splitOnP isLineEnd).map (List.map (Traced.mk · isTheirs)) := by
  rw [splitOnP_map]
  rfl

theorem isCommented_own (opener text : List Char) : IsCommented opener (own text) := by
  intro c hc
  obtain ⟨part, hpart, hmem⟩ := List.mem_flatMap.mp hc
  rw [own, splitOnP_traced] at hpart
  obtain ⟨stretch, -, rfl⟩ := List.mem_map.mp hpart
  obtain ⟨char, -, rfl⟩ := List.mem_map.mp ((beforeComment_sublist opener _).subset hmem)
  rfl

theorem isTheirs_beforeComment_theirs (h : c ∈ beforeComment opener (theirs text)) : c.isTheirs = true := by
  obtain ⟨char, -, rfl⟩ := List.mem_map.mp ((beforeComment_sublist opener _).subset h)
  rfl

/-- Text of the other side is in a comment just if it begins one. -/
theorem forall_beforeComment_theirs_iff :
    (∀ c ∈ beforeComment opener (theirs text), c.isTheirs = false) ↔ text = [] ∨ opener <+: text := by
  have hnil : theirs text = [] ↔ text = [] := List.map_eq_nil_iff
  have hempty : beforeComment opener (theirs text) = [] ↔ text = [] ∨ opener <+: text := by
    rw [beforeComment_eq_nil_iff, plain_theirs, hnil]
  rw [← hempty, List.eq_nil_iff_forall_not_mem]
  refine forall₂_congr fun c hc => ?_
  simp [isTheirs_beforeComment_theirs hc]

/-- A line of the other side as a comment, with a line feed. -/
def commented (opener line : String) : List Traced :=
  own (if line.isEmpty then opener else opener ++ " ").toList ++ theirs line.toList ++ own ['\n']

/-- What follows a line end within a line begins a comment of its own, or nothing follows. -/
def StaysCommented (opener line : List Char) : Prop :=
  ∀ part ∈ (line.splitOnP isLineEnd).tail, part = [] ∨ opener <+: part

theorem outsideComments_commented {opener line : String} {part : List Char} {parts : List (List Char)}
    (hopener : ∀ c ∈ opener.toList, isLineEnd c = false)
    (hparts : line.toList.splitOnP isLineEnd = part :: parts) :
    outsideComments opener.toList (commented opener line) =
      parts.flatMap fun part => beforeComment opener.toList (theirs part) := by
  obtain ⟨head, hhead, hprefix, hplain⟩ : ∃ head : List Char,
      commented opener line = own head ++ theirs line.toList ++ ⟨'\n', false⟩ :: [] ∧
        opener.toList <+: head ∧ ∀ c ∈ head, isLineEnd c = false := by
    refine ⟨_, rfl, ?_, ?_⟩
    · split_ifs <;> simp
    · split_ifs
      · exact hopener
      · rw [String.toList_append, List.forall_mem_append]
        exact ⟨hopener, by simp [isLineEnd]⟩
  have htheirs : (theirs line.toList).splitOnP (fun c => isLineEnd c.char) =
      theirs part :: parts.map theirs := by
    rw [theirs, splitOnP_traced, hparts]
    rfl
  have hown : ∀ c ∈ own head, isLineEnd c.char = false := by
    intro c hc
    obtain ⟨char, hchar, rfl⟩ := List.mem_map.mp hc
    exact hplain char hchar
  have hfirst : beforeComment opener.toList (own head ++ theirs part) = [] := by
    rw [beforeComment_eq_nil_iff, plain_append, plain_own]
    exact .inr (List.IsPrefix.trans hprefix (List.prefix_append head _))
  rw [hhead, outsideComments_append_cons (by decide), outsideComments_nil, List.append_nil,
    outsideComments, splitOnP_append hown htheirs, List.flatMap_cons, hfirst, List.nil_append,
    List.flatMap_map]

theorem isCommented_commented_iff {opener line : String}
    (hopener : ∀ c ∈ opener.toList, isLineEnd c = false) :
    IsCommented opener.toList (commented opener line) ↔ StaysCommented opener.toList line.toList := by
  obtain ⟨part, parts, hparts⟩ :=
    List.exists_cons_of_ne_nil (List.splitOnP_ne_nil isLineEnd line.toList)
  rw [IsCommented, outsideComments_commented hopener hparts, StaysCommented, hparts, List.tail_cons]
  simp only [List.forall_mem_flatMap, forall_beforeComment_theirs_iff]

/-! ### The resolved text -/

theorem plain_commented (opener line : String) : plain (commented opener line) =
    ((CommentStyle.line opener).comment line).toList ++ ['\n'] := by
  rw [commented, plain_append, plain_append, plain_own, plain_theirs, plain_own]
  simp only [CommentStyle.comment, CommentStyle.line]
  split_ifs with hempty
  · simp [String.isEmpty_iff.mp hempty]
  · simp

end Traced

namespace Strategy

open Resolution Traced

variable {opener : String} {block : Block} {conflict : Conflict}

theorem toList_commentLines (style : CommentStyle) (lines : List String) :
    (commentLines style lines).toList = lines.flatMap fun line => (style.comment line).toList ++ ['\n'] := by
  induction lines with
  | nil => rfl
  | cons line lines ih =>
      rw [List.flatMap_cons, ← ih]
      simp [commentLines]

/-- Our side of a block with the other side as comments below it. -/
def tracedNote (opener : String) (block : Block) : List Traced :=
  own (endLine (commentLines (.line opener) [banner block] ++ block.ours) ++
    commentLines (.line opener) ["---- incoming version (not applied) ----"]).toList ++
  (stringLines block.theirs).flatMap (commented opener) ++
  own (commentLines (.line opener) ["---- end incoming version ----"]).toList

/-- A text with a note in the place of each block. -/
def tracedEdit (opener text : String) : List Traced :=
  ((pieces text.toList).zipIdx 1).flatMap fun numbered =>
    Block.partAt own (tracedNote opener) (Block.ofText text) numbered.2 numbered.1

theorem plain_tracedNote (opener : String) (block : Block) :
    plain (tracedNote opener block) = (annotate (.line opener) block).toList := by
  simp only [tracedNote, annotate, plain_append, plain_own, plain_flatMap, plain_commented,
    ← toList_commentLines, String.toList_append, List.append_assoc]

theorem plain_tracedEdit (opener text : String) : plain (tracedEdit opener text) =
    (Block.replaceAll text (Block.ofText text) (annotate (.line opener))).toList := by
  have hnote : (fun block => plain (tracedNote opener block)) =
      fun block => (annotate (.line opener) block).toList := funext (plain_tracedNote opener)
  rw [Block.toList_replaceAll, tracedEdit, plain_flatMap]
  refine List.flatMap_congr fun numbered _ => ?_
  rw [Block.apply_partAt (f := plain) rfl, hnote, Block.standIn_eq_partAt, funext plain_own]
  rfl

theorem incoming_tracedNote (opener : String) (block : Block) :
    incoming (tracedNote opener block) = (stringLines block.theirs).flatMap String.toList := by
  simp [tracedNote, incoming_flatMap, commented]

/-- The lines of the other side are there, block by block, and nothing else is from it. -/
theorem incoming_tracedEdit (opener text : String) : incoming (tracedEdit opener text) =
    (Block.ofText text).flatMap fun block => (stringLines block.theirs).flatMap String.toList := by
  have hnote : (fun block => incoming (tracedNote opener block)) =
      fun block => (stringLines block.theirs).flatMap String.toList := funext (incoming_tracedNote opener)
  rw [tracedEdit, incoming_flatMap, ← Block.flatMap_partAt_ofText]
  refine List.flatMap_congr fun numbered _ => ?_
  rw [Block.apply_partAt (f := incoming) rfl, hnote, funext incoming_own]

/-! ### What is in comments -/

theorem isFed_append_commentLines (text : String) (style : CommentStyle) (line : String) :
    IsFed (text ++ commentLines style [line]).toList := by
  have hends : (text ++ commentLines style [line]).toList =
      text.toList ++ (style.comment line).toList ++ ['\n'] := by
    simp [toList_commentLines]
  rw [hends]
  exact isFed_line _

theorem isFed_tracedNote (opener : String) (block : Block) : IsFed (plain (tracedNote opener block)) := by
  rw [plain_tracedNote]
  exact isFed_append_commentLines _ _ _

theorem isCommented_tracedNote_iff (hopener : ∀ c ∈ opener.toList, isLineEnd c = false) :
    IsCommented opener.toList (tracedNote opener block) ↔
      ∀ line ∈ stringLines block.theirs, StaysCommented opener.toList line.toList := by
  have hlines : ∀ line ∈ stringLines block.theirs, IsFed (plain (commented opener line)) := by
    intro line _
    rw [plain_commented]
    exact isFed_line _
  have hfed : IsFed (plain ((stringLines block.theirs).flatMap (commented opener))) := by
    rw [plain_flatMap, List.flatMap_def]
    exact isFed_flatten (List.forall_mem_map.mpr hlines)
  have hours : IsFed (plain (own (endLine (commentLines (.line opener) [banner block] ++ block.ours) ++
      commentLines (.line opener) ["---- incoming version (not applied) ----"]).toList)) := by
    rw [plain_own]
    exact isFed_append_commentLines _ _ _
  rw [tracedNote, isCommented_append_iff (by rw [plain_append]; exact hours.append hfed),
    isCommented_append_iff hours, isCommented_flatMap_iff hlines]
  simp only [isCommented_own, isCommented_commented_iff hopener, true_and, and_true]

/-- Where each part of a text begins a new line, the parts are told apart. -/
theorem isCommented_parts_iff {ps : List (List Char)} {part : Nat → List Char → List Traced}
    (hcut : IsCut ps) (hpart : ∀ line piece, IsFed (plain (part line piece)) ∨ part line piece = own piece)
    (n : Nat) :
    IsCommented opener.toList ((ps.zipIdx n).flatMap fun numbered => part numbered.2 numbered.1) ↔
      ∀ numbered ∈ ps.zipIdx n, IsCommented opener.toList (part numbered.2 numbered.1) := by
  -- On the pieces; only the last one may lack a line feed, and nothing comes after it.
  induction ps generalizing n with
  | nil => simp [isCommented_nil]
  | cons piece ps ih =>
      rw [List.zipIdx_cons, List.flatMap_cons, List.forall_mem_cons]
      obtain hfed | rfl := hcut.isFed_or
      · have hfirst : IsFed (plain (part n piece)) := by
          obtain hfed' | heq := hpart n piece
          · exact hfed'
          · rw [heq, plain_own]
            exact hfed
        rw [isCommented_append_iff hfirst, ih hcut.tail]
      · simp

theorem isCommented_tracedEdit_iff (hopener : ∀ c ∈ opener.toList, isLineEnd c = false) (text : String) :
    IsCommented opener.toList (tracedEdit opener text) ↔ ∀ block ∈ Block.ofText text,
      ∀ line ∈ stringLines block.theirs, StaysCommented opener.toList line.toList := by
  have hcases := Block.partAt_cases own (tracedNote opener) (Block.ofText text)
  have hpart (line : Nat) (piece : List Char) :
      let part := Block.partAt own (tracedNote opener) (Block.ofText text) line piece
      IsFed (plain part) ∨ part = own piece := by
    obtain hown | ⟨block, -, hnote⟩ | hnil := hcases line piece
    · exact .inr hown
    · exact .inl (hnote ▸ isFed_tracedNote opener block)
    · exact .inl (hnil ▸ .inl rfl)
  rw [tracedEdit, isCommented_parts_iff (isCut_pieces text.toList) hpart]
  constructor
  · intro hall block hblock
    obtain ⟨piece, hpiece⟩ := Block.exists_piece_startLine hblock
    have hnote := hall _ hpiece
    rw [Block.partAt_startLine hblock] at hnote
    exact (isCommented_tracedNote_iff hopener).mp hnote
  · rintro hall ⟨piece, line⟩ -
    obtain hown | ⟨block, hblock, hnote⟩ | hnil := hcases line piece
    · exact hown ▸ isCommented_own _ _
    · exact hnote ▸ (isCommented_tracedNote_iff hopener).mpr (hall block hblock)
    · exact hnil ▸ isCommented_nil _

theorem isLineEnd_lineComment (language : Language) :
    ∀ c ∈ language.lineComment.toList, isLineEnd c = false := by
  cases language <;> simp [Language.lineComment, isLineEnd]

theorem attempt_concurrentEdit {style : CommentStyle}
    (hstyle : CommentStyle.ofPath? conflict.path = some style) :
    ∃ explanation, concurrentEdit.attempt conflict =
      .resolved ⟨Block.replaceAll conflict.text conflict.blocks (annotate style), "ConcurrentEdit",
        explanation⟩ := by
  simp only [concurrentEdit, hstyle]
  exact ⟨_, rfl⟩

/-- Our side is kept and every line of the other side is there, and all of that is in comments just if
what follows a carriage return within a line begins a comment of its own. -/
theorem incoming_isCommented_iff (conflict : Conflict) (language : Language)
    (hblocks : conflict.blocks = Block.ofText conflict.text)
    (hlanguage : Language.ofPath? conflict.path = some language) :
    ∃ resolution, concurrentEdit.attempt conflict = .resolved resolution ∧
      plain (tracedEdit language.lineComment conflict.text) = resolution.content.toList ∧
      incoming (tracedEdit language.lineComment conflict.text) =
        conflict.blocks.flatMap (fun block => (stringLines block.theirs).flatMap String.toList) ∧
      (IsCommented language.lineComment.toList (tracedEdit language.lineComment conflict.text) ↔
        ∀ block ∈ conflict.blocks, ∀ line ∈ stringLines block.theirs,
          StaysCommented language.lineComment.toList line.toList) := by
  have hstyle : CommentStyle.ofPath? conflict.path = some (.line language.lineComment) := by
    simp only [CommentStyle.ofPath?, hlanguage]
  obtain ⟨explanation, hattempt⟩ := attempt_concurrentEdit hstyle
  rw [hblocks] at hattempt ⊢
  exact ⟨_, hattempt, plain_tracedEdit _ _, incoming_tracedEdit _ _,
    isCommented_tracedEdit_iff (isLineEnd_lineComment language) _⟩

/-- One line of the other side holds two statements with a carriage return between them. -/
def returnConflict : Conflict where
  path := "f.js"
  kind := .concurrentEdit
  severity := .medium
  blocks := Block.ofText "<<<<<<<\na();\n=======\nb();\rc();\n>>>>>>>\n"
  analysis := none
  text := "<<<<<<<\na();\n=======\nb();\rc();\n>>>>>>>\n"
  ours := none
  theirs := none
  base := none

theorem incoming_isCommented_iff_return : returnConflict.blocks = Block.ofText returnConflict.text ∧
    Language.ofPath? returnConflict.path = some .javascript ∧
    ∃ resolution, concurrentEdit.attempt returnConflict = .resolved resolution ∧
      (IsCommented "//".toList (tracedEdit "//" returnConflict.text) ↔
        ∀ block ∈ returnConflict.blocks, ∀ line ∈ stringLines block.theirs,
          StaysCommented "//".toList line.toList) := by
  have hlanguage : Language.ofPath? returnConflict.path = some .javascript := by cbv
  obtain ⟨resolution, hresolved, -, -, hcommented⟩ :=
    incoming_isCommented_iff returnConflict .javascript rfl hlanguage
  exact ⟨rfl, hlanguage, resolution, hresolved, hcommented⟩

/-- The second statement is outside comments, where the file takes it for its own. -/
theorem returned_is_uncommented : ∃ resolution,
    concurrentEdit.attempt returnConflict = .resolved resolution ∧
      plain (tracedEdit "//" returnConflict.text) = resolution.content.toList ∧
      incoming (outsideComments "//".toList (tracedEdit "//" returnConflict.text)) = "c();".toList ∧
      ¬IsCommented "//".toList (tracedEdit "//" returnConflict.text) := by
  have hstyle : CommentStyle.ofPath? returnConflict.path = some (.line "//") := by cbv
  have hlive : incoming (outsideComments "//".toList (tracedEdit "//" returnConflict.text)) =
      "c();".toList := by
    decide +kernel
  have hblocks : returnConflict.blocks = Block.ofText returnConflict.text := rfl
  obtain ⟨explanation, hattempt⟩ := attempt_concurrentEdit hstyle
  rw [hblocks] at hattempt
  refine ⟨_, hattempt, plain_tracedEdit _ _, hlive, fun hcommented => ?_⟩
  have hnone : (outsideComments "//".toList (tracedEdit "//" returnConflict.text)).filter
      (·.isTheirs) = [] := by
    rw [List.filter_eq_nil_iff]
    exact fun c hc => by simp [hcommented c hc]
  rw [incoming, hnone] at hlive
  cases hlive

end Strategy

end Reconcile
