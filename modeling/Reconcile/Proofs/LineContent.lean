import Mathlib.Data.List.DropRight
import Mathlib.Data.List.Forall2
import Mathlib.Tactic.Common
import Reconcile.Text.Significant

/-!
# What of a line counts

Of the blanks in a line only those count that stand between two word characters, and of those only that
they are there. So the significant part of a line says which visible characters the line has and after
which of them a word is parted from the next, and nothing else: two lines have the same significant part
just if they agree in both.
-/

namespace Reconcile.Text

variable {line rest : List Char} {c : Char} {n : Nat}

def visible (line : List Char) : List Char := line.filter fun c => !isBlank c

/-- Blanks stand between two word characters, the first of which comes after `n` visible characters. -/
def IsParted (line : List Char) (n : Nat) : Prop :=
  ∃ before c blanks d after, line = before ++ c :: (blanks ++ d :: after) ∧
    (blanks ≠ [] ∧ ∀ b ∈ blanks, isBlank b) ∧ isWordChar c ∧ isWordChar d ∧
      (visible before).length = n

/-- Lines with the same visible characters, and words parted at the same places among them. -/
structure SameContent (a b : List Char) : Prop where
  visible : visible a = visible b
  parted : ∀ n, IsParted a n ↔ IsParted b n

/-- After blanks a line begins with two slashes, or with a number sign that a blank or nothing follows. -/
def IsComment (line : List Char) : Prop :=
  ∃ blanks rest, line = blanks ++ rest ∧ (∀ b ∈ blanks, isBlank b) ∧
    (['/', '/'] <+: rest ∨ rest = ['#'] ∨ ∃ b more, rest = '#' :: b :: more ∧ isBlank b)

/-! ### Visible characters -/

/-- The ranges of blanks beyond ASCII. -/
def wideBlanks : List (Nat × Nat) :=
  [(0x85, 0x85), (0xa0, 0xa0), (0x1680, 0x1680), (0x2000, 0x200a), (0x2028, 0x2029), (0x202f, 0x202f),
    (0x205f, 0x205f), (0x3000, 0x3000)]

theorem apart_wideBlanks : ∀ table ∈ [Category.letter, Category.letterNumber, Category.decimalDigit,
    Category.otherNumber, Category.otherAlphabetic], ∀ blanks ∈ wideBlanks,
      table.toList.all fun range => range.2 < blanks.1 || blanks.2 < range.1 := by
  decide +kernel

theorem not_isAlphanumeric_of_isBlank (h : isBlank c) : isAlphanumeric c = false := by
  simp only [isBlank, Bool.or_eq_true, Bool.and_eq_true, decide_eq_true_eq] at h
  unfold isAlphanumeric
  split_ifs with hascii
  · have hcode : c.toNat ∈ [9, 10, 11, 12, 13, 32] := by
      simp only [List.mem_cons, List.not_mem_nil, or_false]
      omega
    have hall : ∀ code ∈ [9, 10, 11, 12, 13, 32], isAsciiAlphanumeric (Char.ofNat code) = false := by
      decide
    rw [← Char.ofNat_toNat c]
    exact hall c.toNat hcode
  · obtain ⟨blanks, hblanks, hlow, hhigh⟩ :
        ∃ blanks ∈ wideBlanks, blanks.1 ≤ c.toNat ∧ c.toNat ≤ blanks.2 := by
      simp only [wideBlanks, List.exists_mem_cons_iff, List.not_mem_nil, false_and, exists_false]
      omega
    rw [List.any_eq_false]
    intro table htable hin
    rw [inRanges, ← Array.any_toList, List.any_eq_true] at hin
    obtain ⟨range, hrange, hmem⟩ := hin
    have hapart := List.all_eq_true.mp (apart_wideBlanks table htable blanks hblanks) range hrange
    simp only [Bool.or_eq_true, Bool.and_eq_true, decide_eq_true_eq] at hapart hmem
    omega

theorem not_isWordChar_of_isBlank (h : isBlank c) : isWordChar c = false := by
  have hunderscore : c ≠ '_' := by
    rintro rfl
    cases h
  simp [isWordChar, not_isAlphanumeric_of_isBlank h, hunderscore]

theorem visible_cons_of_isBlank (h : isBlank c) (line : List Char) : visible (c :: line) = visible line := by
  simp [visible, h]

theorem visible_cons_of_not_isBlank (h : isBlank c = false) (line : List Char) :
    visible (c :: line) = c :: visible line := by
  simp [visible, h]

theorem visible_append (first second : List Char) :
    visible (first ++ second) = visible first ++ visible second :=
  List.filter_append ..

theorem visible_eq_nil_iff : visible line = [] ↔ ∀ c ∈ line, isBlank c := by
  simp [visible]

theorem flatten_words (line : List Char) : (words line).flatten = visible line := by
  fun_induction words line with
  | case1 => rfl
  | case2 c rest hblank ih => rw [ih, visible_cons_of_isBlank hblank]
  | case3 c hblank => simp [visible, hblank]
  | case4 c hblank d rest hnext ih =>
      rw [visible_cons_of_not_isBlank (Bool.not_eq_true _ ▸ hblank), ← ih]
      rfl
  | case5 c hblank d rest hnext hnone ih =>
      rw [visible_cons_of_not_isBlank (Bool.not_eq_true _ ▸ hblank), ← ih, hnone]
      rfl
  | case6 c hblank d rest hnext word more hmore ih =>
      rw [visible_cons_of_not_isBlank (Bool.not_eq_true _ ▸ hblank), ← ih, hmore]
      rfl

theorem ne_nil_of_mem_words {word : List Char} (h : word ∈ words line) : word ≠ [] := by
  fun_induction words line generalizing word with
  | case1 => cases h
  | case2 c rest hblank ih => exact ih h
  | case3 => simp_all
  | case4 c hblank d rest hnext ih =>
      obtain rfl | hmem := List.mem_cons.mp h
      · exact List.cons_ne_nil c []
      · exact ih hmem
  | case5 => simp_all
  | case6 c hblank d rest hnext first more hmore ih =>
      simp only [hmore] at h ih
      obtain rfl | hmem := List.mem_cons.mp h
      · exact List.cons_ne_nil c first
      · exact ih (List.mem_cons_of_mem first hmem)

/-! ### Words that are parted -/

/-- A blank follows a word character, and after the blanks another word character. -/
def parts (c : Char) (rest : List Char) : Bool :=
  isWordChar c && rest.head?.any isBlank && (visible rest).head?.any isWordChar

/-- The visible characters of a line, each with whether a word is parted from the next after it. -/
def trace : List Char → List (Char × Bool)
  | [] => []
  | c :: rest => if isBlank c then trace rest else (c, parts c rest) :: trace rest

theorem trace_cons_of_isBlank (h : isBlank c) (rest : List Char) : trace (c :: rest) = trace rest := by
  rw [trace, if_pos h]

theorem trace_cons_of_not_isBlank (h : isBlank c = false) (rest : List Char) :
    trace (c :: rest) = (c, parts c rest) :: trace rest := by
  rw [trace, if_neg (by simp [h])]

theorem map_fst_trace (line : List Char) : (trace line).map Prod.fst = visible line := by
  induction line with
  | nil => rfl
  | cons c rest ih =>
      cases hblank : isBlank c with
      | true => rw [trace_cons_of_isBlank hblank, visible_cons_of_isBlank hblank, ih]
      | false =>
          rw [trace_cons_of_not_isBlank hblank, visible_cons_of_not_isBlank hblank, List.map_cons, ih]

theorem parts_iff : parts c rest ↔ ∃ blanks d after, rest = blanks ++ d :: after ∧
    (blanks ≠ [] ∧ ∀ b ∈ blanks, isBlank b) ∧ isWordChar c ∧ isWordChar d := by
  simp only [parts, Bool.and_eq_true, Option.any_eq_true, List.head?_eq_some_iff]
  constructor
  · rintro ⟨⟨hc, b, ⟨more, hrest⟩, hb⟩, d, ⟨others, hvisible⟩, hd⟩
    obtain ⟨blanks, after, rfl, hblanks, -⟩ := List.filter_eq_cons_iff.mp hvisible
    have hblank : ∀ b ∈ blanks, isBlank b := fun b hmem => by simpa using hblanks b hmem
    refine ⟨blanks, d, after, rfl, ⟨?_, hblank⟩, hc, hd⟩
    rintro rfl
    obtain ⟨rfl, -⟩ := List.cons_eq_cons.mp hrest
    cases (not_isWordChar_of_isBlank hb).symm.trans hd
  · rintro ⟨blanks, d, after, rfl, ⟨hne, hblanks⟩, hc, hd⟩
    obtain ⟨b, more, rfl⟩ := List.exists_cons_of_ne_nil hne
    have hvisible : isBlank d = false := by
      by_contra hblank
      cases (not_isWordChar_of_isBlank (by simpa using hblank)).symm.trans hd
    refine ⟨⟨hc, b, ⟨more ++ d :: after, rfl⟩, hblanks b List.mem_cons_self⟩, d, ?_, hd⟩
    rw [visible_append, visible_eq_nil_iff.mpr hblanks, visible_cons_of_not_isBlank hvisible]
    exact ⟨visible after, rfl⟩

theorem isParted_cons_of_isBlank (h : isBlank c) : IsParted (c :: rest) n ↔ IsParted rest n := by
  constructor
  · rintro ⟨before, first, blanks, d, after, hline, hblanks, hfirst, hd, rfl⟩
    cases before with
    | nil =>
        obtain ⟨rfl, -⟩ := List.cons_eq_cons.mp hline
        cases (not_isWordChar_of_isBlank h).symm.trans hfirst
    | cons b before =>
        obtain ⟨rfl, rfl⟩ := List.cons_eq_cons.mp hline
        rw [visible_cons_of_isBlank h]
        exact ⟨before, first, blanks, d, after, rfl, hblanks, hfirst, hd, rfl⟩
  · rintro ⟨before, first, blanks, d, after, rfl, hblanks, hfirst, hd, rfl⟩
    rw [← visible_cons_of_isBlank h]
    exact ⟨c :: before, first, blanks, d, after, rfl, hblanks, hfirst, hd, rfl⟩

theorem isParted_cons_zero_iff (h : isBlank c = false) : IsParted (c :: rest) 0 ↔ parts c rest := by
  rw [parts_iff]
  constructor
  · rintro ⟨before, first, blanks, d, after, hline, hblanks, hfirst, hd, hzero⟩
    cases before with
    | nil =>
        obtain ⟨rfl, rfl⟩ := List.cons_eq_cons.mp hline
        exact ⟨blanks, d, after, rfl, hblanks, hfirst, hd⟩
    | cons b before =>
        obtain ⟨rfl, rfl⟩ := List.cons_eq_cons.mp hline
        rw [visible_cons_of_not_isBlank h] at hzero
        cases hzero
  · rintro ⟨blanks, d, after, rfl, hblanks, hc, hd⟩
    exact ⟨[], c, blanks, d, after, rfl, hblanks, hc, hd, rfl⟩

theorem isParted_cons_succ_iff (h : isBlank c = false) :
    IsParted (c :: rest) (n + 1) ↔ IsParted rest n := by
  constructor
  · rintro ⟨before, first, blanks, d, after, hline, hblanks, hfirst, hd, hcount⟩
    cases before with
    | nil => cases hcount
    | cons b before =>
        obtain ⟨rfl, rfl⟩ := List.cons_eq_cons.mp hline
        rw [visible_cons_of_not_isBlank h, List.length_cons, Nat.succ_inj] at hcount
        exact ⟨before, first, blanks, d, after, rfl, hblanks, hfirst, hd, hcount⟩
  · rintro ⟨before, first, blanks, d, after, rfl, hblanks, hfirst, hd, rfl⟩
    refine ⟨c :: before, first, blanks, d, after, rfl, hblanks, hfirst, hd, ?_⟩
    rw [visible_cons_of_not_isBlank h, List.length_cons]

theorem isParted_iff : IsParted line n ↔ (trace line)[n]?.any Prod.snd := by
  induction line generalizing n with
  | nil => simp [IsParted, trace]
  | cons c rest ih =>
      cases hblank : isBlank c with
      | true => rw [isParted_cons_of_isBlank hblank, trace_cons_of_isBlank hblank, ih]
      | false =>
          rw [trace_cons_of_not_isBlank hblank]
          cases n with
          | zero => simp [isParted_cons_zero_iff hblank]
          | succ n => rw [isParted_cons_succ_iff hblank, List.getElem?_cons_succ, ih]

theorem trace_eq_iff {a b : List Char} : trace a = trace b ↔ SameContent a b := by
  constructor
  · intro h
    refine ⟨?_, fun n => ?_⟩
    · rw [← map_fst_trace, ← map_fst_trace, h]
    · rw [isParted_iff, isParted_iff, h]
  · rintro ⟨hvisible, hparted⟩
    rw [← map_fst_trace, ← map_fst_trace] at hvisible
    refine List.ext_getElem? fun n => ?_
    have hchar : (trace a)[n]?.map Prod.fst = (trace b)[n]?.map Prod.fst := by
      rw [← List.getElem?_map, ← List.getElem?_map, hvisible]
    have hparts := hparted n
    rw [isParted_iff, isParted_iff] at hparts
    cases ha : (trace a)[n]? with
    | none =>
        rw [ha, Option.map_none] at hchar
        exact (Option.map_eq_none_iff.mp hchar.symm).symm
    | some first =>
        cases hb : (trace b)[n]? with
        | none => simp [ha, hb] at hchar
        | some second =>
            rw [ha, hb] at hchar hparts
            exact congrArg some (Prod.ext (Option.some_inj.mp hchar) (Bool.eq_iff_iff.mpr hparts))

/-! ### The significant part of a line -/

/-- A visible character, with a space after it where a word is parted from the next. -/
def written : Char × Bool → List Char
  | (c, true) => [c, ' ']
  | (c, false) => [c]

theorem joinWords_cons_cons {word : List Char} (hne : word ≠ []) (c : Char)
    (more : List (List Char)) : joinWords ((c :: word) :: more) = c :: joinWords (word :: more) := by
  cases more with
  | nil => rfl
  | cons next more =>
      have hlast : separates (c :: word) next = separates word next := by
        rw [separates, List.getLast?_cons_of_ne_nil hne, separates]
      rw [joinWords, joinWords, hlast]
      split_ifs <;> rfl

theorem joinWords_singleton_cons (c : Char) (rest : List Char) (hnext : rest.head?.any isBlank) :
    joinWords ([c] :: words rest) = written (c, parts c rest) ++ joinWords (words rest) := by
  have hparts : parts c rest = (isWordChar c && (visible rest).head?.any isWordChar) := by
    simp [parts, hnext]
  rw [hparts, ← flatten_words]
  cases hwords : words rest with
  | nil => simp [joinWords, written]
  | cons word more =>
      have hmem : word ∈ words rest := by simp [hwords]
      have hne := ne_nil_of_mem_words hmem
      have hhead : (word :: more).flatten.head? = word.head? := by
        rw [List.flatten_cons, List.head?_append_of_ne_nil _ hne]
      rw [joinWords, hhead, separates]
      cases hsep : isWordChar c && word.head?.any isWordChar <;> simp_all [written]

/-- The significant part of a line has a space wherever a word is parted from the next, and no others. -/
theorem joinWords_words (line : List Char) : joinWords (words line) = (trace line).flatMap written := by
  fun_induction words line with
  | case1 => rfl
  | case2 c rest hblank ih => rw [ih, trace_cons_of_isBlank hblank]
  | case3 c hblank => simp [trace, hblank, joinWords, parts, written]
  | case4 c hblank d rest hnext ih =>
      rw [trace_cons_of_not_isBlank (Bool.not_eq_true _ ▸ hblank), List.flatMap_cons, ← ih]
      exact joinWords_singleton_cons c (d :: rest) hnext
  | case5 c hblank d rest hnext hnone ih =>
      have hnil := flatten_words (d :: rest)
      rw [hnone, visible_cons_of_not_isBlank (Bool.not_eq_true _ ▸ hnext)] at hnil
      cases hnil
  | case6 c hblank d rest hnext word more hmore ih =>
      have hmem : word ∈ words (d :: rest) := by simp [hmore]
      have hne := ne_nil_of_mem_words hmem
      have hparts : parts c (d :: rest) = false := by simp [parts, hnext]
      rw [trace_cons_of_not_isBlank (Bool.not_eq_true _ ▸ hblank), List.flatMap_cons, ← ih, hmore,
        joinWords_cons_cons hne, hparts]
      rfl

theorem isBlank_of_mem_trace {marked : Char × Bool} (h : marked ∈ trace line) :
    isBlank marked.1 = false := by
  have hmem : marked.1 ∈ visible line := by
    rw [← map_fst_trace]
    exact List.mem_map_of_mem h
  simpa using (List.mem_filter.mp hmem).2

theorem head?_written_trace (line : List Char) :
    ((trace line).flatMap written).head?.any isBlank = false := by
  cases htrace : trace line with
  | nil => rfl
  | cons marked more =>
      have hmem : marked ∈ trace line := by simp [htrace]
      have hvisible := isBlank_of_mem_trace hmem
      obtain ⟨c, _ | _⟩ := marked <;> simpa [written] using hvisible

/-- Nothing of what counts is lost. -/
theorem trace_joinWords_words (line : List Char) : trace (joinWords (words line)) = trace line := by
  rw [joinWords_words]
  induction line with
  | nil => rfl
  | cons c rest ih =>
      cases hblank : isBlank c with
      | true => rw [trace_cons_of_isBlank hblank, ih]
      | false =>
          rw [trace_cons_of_not_isBlank hblank, List.flatMap_cons]
          have hvisible : visible ((trace rest).flatMap written) = visible rest := by
            rw [← map_fst_trace, ih, map_fst_trace]
          cases hparts : parts c rest with
          | false =>
              have hnone : parts c ((trace rest).flatMap written) = false := by
                simp [parts, head?_written_trace]
              rw [written, List.singleton_append, trace_cons_of_not_isBlank hblank, hnone, ih]
          | true =>
              have hspace : isBlank ' ' = true := by decide
              have hkept : parts c (' ' :: (trace rest).flatMap written) = true := by
                simp only [parts, Bool.and_eq_true] at hparts ⊢
                rw [visible_cons_of_isBlank hspace, hvisible]
                exact ⟨⟨hparts.1.1, hspace⟩, hparts.2⟩
              rw [written, List.cons_append, List.singleton_append, trace_cons_of_not_isBlank hblank,
                hkept, trace_cons_of_isBlank hspace, ih]

theorem joinWords_eq_iff {a b : List Char} :
    joinWords (words a) = joinWords (words b) ↔ SameContent a b := by
  rw [← trace_eq_iff]
  constructor
  · intro h
    rw [← trace_joinWords_words a, h, trace_joinWords_words]
  · intro h
    rw [joinWords_words, joinWords_words, h]

/-! ### Lines that are left out -/

theorem rdropWhile_cons {α : Type} (p : α → Bool) (x : α) (xs : List α) :
    (x :: xs).rdropWhile p = if xs.rdropWhile p = [] ∧ p x then [] else x :: xs.rdropWhile p := by
  simp only [List.rdropWhile, List.reverse_cons, List.dropWhile_append, List.reverse_eq_nil_iff,
    List.isEmpty_iff]
  by_cases hnil : xs.reverse.dropWhile p = [] <;> by_cases hx : p x <;> simp [hnil, hx]

theorem dropWhile_append {blanks : List Char} (hblanks : ∀ b ∈ blanks, isBlank b)
    (hc : isBlank c = false) (rest : List Char) :
    (blanks ++ c :: rest).dropWhile isBlank = c :: rest := by
  rw [List.dropWhile_append_of_pos hblanks, List.dropWhile_cons_of_neg (by simp [hc])]

theorem trim_append {blanks : List Char} (hblanks : ∀ b ∈ blanks, isBlank b)
    (hc : isBlank c = false) (rest : List Char) :
    trim (blanks ++ c :: rest) = c :: rest.rdropWhile isBlank := by
  have hright : (c :: rest).rdropWhile isBlank = c :: rest.rdropWhile isBlank := by
    rw [rdropWhile_cons, if_neg (by simp [hc])]
  rw [trim, dropWhile_append hblanks hc, ← hright, List.rdropWhile]

theorem isCommentOnly_cons_cons (c d : Char) (rest : List Char) :
    isCommentOnly (c :: d :: rest) = (decide (c = '/' ∧ d = '/') || decide (c = '#') && isBlank d) := by
  by_cases hslash : c = '/'
  · subst hslash
    by_cases hnext : d = '/' <;> simp [isCommentOnly, hnext]
  · by_cases hsign : c = '#' <;> simp [isCommentOnly, hslash, hsign]

theorem isCommentOnly_iff : isCommentOnly line ↔ ['/', '/'] <+: line ∨ line = ['#'] ∨
    ∃ b more, line = '#' :: b :: more ∧ isBlank b := by
  match line with
  | [] => simp [isCommentOnly]
  | [c] => by_cases hsign : c = '#' <;> simp [isCommentOnly, hsign]
  | c :: d :: rest =>
      rw [isCommentOnly_cons_cons]
      simp only [Bool.or_eq_true, Bool.and_eq_true, decide_eq_true_eq, List.cons_prefix_cons,
        List.nil_prefix, List.cons.injEq]
      grind

/-- Blanks at the end of a line make no comment of it, and undo none. -/
theorem isCommentOnly_cons_rdropWhile (c : Char) (rest : List Char) :
    isCommentOnly (c :: rest.rdropWhile isBlank) = isCommentOnly (c :: rest) := by
  cases rest with
  | nil => rfl
  | cons d rest =>
      rw [rdropWhile_cons]
      split_ifs with hblank
      · have hslash : d ≠ '/' := by
          rintro rfl
          cases hblank.2
        rw [isCommentOnly_cons_cons]
        by_cases hsign : c = '#' <;> simp [isCommentOnly, hsign, hslash, hblank.2]
      · rw [isCommentOnly_cons_cons, isCommentOnly_cons_cons]

theorem exists_cons_of_isCommentOnly (h : isCommentOnly line) :
    ∃ c rest, line = c :: rest ∧ isBlank c = false := by
  obtain ⟨more, rfl⟩ | rfl | ⟨b, more, rfl, -⟩ := isCommentOnly_iff.mp h
  · exact ⟨'/', '/' :: more, rfl, by decide⟩
  · exact ⟨'#', [], rfl, by decide⟩
  · exact ⟨'#', b :: more, rfl, by decide⟩

theorem isComment_append_iff {blanks : List Char} (hblanks : ∀ b ∈ blanks, isBlank b)
    (hc : isBlank c = false) : IsComment (blanks ++ c :: rest) ↔ isCommentOnly (c :: rest) := by
  constructor
  · rintro ⟨others, more, hline, hothers, hopens⟩
    have hcomment := isCommentOnly_iff.mpr hopens
    obtain ⟨d, after, rfl, hd⟩ := exists_cons_of_isCommentOnly hcomment
    rwa [← dropWhile_append hblanks hc, hline, dropWhile_append hothers hd]
  · intro h
    exact ⟨blanks, c :: rest, rfl, hblanks, isCommentOnly_iff.mp h⟩

theorem isSignificant_iff : isSignificant line ↔ visible line ≠ [] ∧ ¬IsComment line := by
  have hblanks : ∀ b ∈ line.takeWhile isBlank, isBlank b := fun b => List.mem_takeWhile_imp
  cases hrest : line.dropWhile isBlank with
  | nil =>
      have hvisible : visible line = [] := visible_eq_nil_iff.mpr (List.dropWhile_eq_nil_iff.mp hrest)
      simp [isSignificant, trim, hrest, hvisible]
  | cons c rest =>
      have hc : isBlank c = false := by
        have hne : line.dropWhile isBlank ≠ [] := by simp [hrest]
        have hfirst := List.head_dropWhile_not isBlank hne
        simpa [hrest] using hfirst
      have hline : line = line.takeWhile isBlank ++ c :: rest := by
        rw [← hrest, List.takeWhile_append_dropWhile]
      rw [hline, isComment_append_iff hblanks hc, visible_append, visible_cons_of_not_isBlank hc,
        isSignificant, trim_append hblanks hc, isCommentOnly_cons_rdropWhile]
      simp

theorem significantLines_eq (text : List Char) : significantLines text =
    ((lines text).filter isSignificant).map fun line => joinWords (words line) := by
  rw [significantLines, ← List.filterMap_eq_map, List.filterMap_filter]
  rfl

/-- Lines are left out that are blank or a comment, and of two others the significant parts are the same
just if they have the same content. So texts differ in layout only just if the lines of the one that are
not left out have one by one the same content as those of the other. -/
theorem sameSignificance_iff :
    (∀ line, isSignificant line ↔ visible line ≠ [] ∧ ¬IsComment line) ∧
    (∀ a b, isSignificant a → isSignificant b →
      (significantLine? a = significantLine? b ↔ SameContent a b)) ∧
    ∀ a b : String, sameSignificance a b ↔ List.Forall₂ SameContent
      ((lines a.toList).filter isSignificant) ((lines b.toList).filter isSignificant) := by
  refine ⟨fun line => isSignificant_iff, fun a b ha hb => ?_, fun a b => ?_⟩
  · rw [significantLine?, significantLine?, if_pos ha, if_pos hb, Option.some_inj, joinWords_eq_iff]
  · rw [sameSignificance, decide_eq_true_iff, significantLines_eq, significantLines_eq,
      ← List.forall₂_eq_eq_eq, List.forall₂_map_left_iff, List.forall₂_map_right_iff]
    simp only [joinWords_eq_iff]

/-- A blank more or less between words does not count, but whether there is one does. -/
theorem sameSignificance_iff_spaced :
    (isSignificant "let  x = 1;".toList ∧ isSignificant "\tlet x=1;".toList ∧
      isSignificant "letx=1;".toList) ∧
    SameContent "let  x = 1;".toList "\tlet x=1;".toList ∧
      ¬SameContent "\tlet x=1;".toList "letx=1;".toList := by
  have hwide : isSignificant "let  x = 1;".toList := by decide
  have hnarrow : isSignificant "\tlet x=1;".toList := by decide
  have hjoined : isSignificant "letx=1;".toList := by decide
  obtain ⟨-, hlines, -⟩ := sameSignificance_iff
  have hsame : significantLine? "let  x = 1;".toList = significantLine? "\tlet x=1;".toList := by decide
  have hother : significantLine? "\tlet x=1;".toList ≠ significantLine? "letx=1;".toList := by decide
  refine ⟨⟨hwide, hnarrow, hjoined⟩, (hlines _ _ hwide hnarrow).mp hsame, fun hcontent => ?_⟩
  exact hother ((hlines _ _ hnarrow hjoined).mpr hcontent)

end Reconcile.Text
