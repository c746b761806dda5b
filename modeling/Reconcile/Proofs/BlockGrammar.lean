import Mathlib.Data.Nat.Find
import Mathlib.Tactic.Common
import Reconcile.Block.Basic

/-!
# The grammar of blocks

A block runs from a start marker to the next start or finish marker, which has to be a finish marker
with a divider before it. `Block.Delimited` says so of the numbered lines of a text, without a scan.
The scan finds these blocks and no others: what it has read of an open block is what stands between
the lines it has passed, and a line that opens, divides or closes a block decides which one.
-/

namespace Reconcile.Block

variable {pieces rest : List (List Char)} {piece ours ours' : List Char}
  {first last line other : Nat} {marker : Marker} {block second : Block}

/-! ### Blocks by their lines -/

/-- The marker that a line is, if it is one; lines are numbered from one. -/
def markerAt (pieces : List (List Char)) : Nat → Option Marker
  | 0 => none
  | line + 1 => pieces[line]?.bind fun piece => Marker.ofLine? (Text.unfed piece)

/-- The lines strictly between two lines, as they stand. -/
def between (pieces : List (List Char)) (first last : Nat) : List Char :=
  ((pieces.take (last - 1)).drop first).flatten

/-- No line strictly between two lines is a certain marker. -/
def Lacks (pieces : List (List Char)) (marker : Marker) (first last : Nat) : Prop :=
  ∀ line, first < line → line < last → markerAt pieces line ≠ some marker

/-- A line is the first one strictly between two lines that is a certain marker. -/
structure First (pieces : List (List Char)) (marker : Marker) (first last line : Nat) : Prop where
  after : first < line
  before : line < last
  isMarker : markerAt pieces line = some marker
  least : Lacks pieces marker first line

/-- The next start or finish marker after a line is a finish marker, at the last line. -/
structure Ends (pieces : List (List Char)) (first last : Nat) : Prop where
  after : first < last
  isFinish : markerAt pieces last = some .finish
  noStart : Lacks pieces .start first last
  noFinish : Lacks pieces .finish first last

/-- What stands between two lines, cut at the first base marker if there is one. -/
def Upper (pieces : List (List Char)) (first last : Nat) (ours : List Char) :
    Option (List Char) → Prop
  | none => Lacks pieces .base first last ∧ ours = between pieces first last
  | some base => ∃ line, First pieces .base first last line ∧
      ours = between pieces first line ∧ base = between pieces line last

/-- A block of a text, by the lines of the text. -/
structure Delimited (pieces : List (List Char)) (block : Block) : Prop where
  isStart : markerAt pieces block.startLine = some .start
  ends : Ends pieces block.startLine block.endLine
  divider : First pieces .divider block.startLine block.endLine block.dividerLine
  upper : Upper pieces block.startLine block.dividerLine block.ours.toList
    (block.base.map String.toList)
  lower : block.theirs.toList = between pieces block.dividerLine block.endLine

/-- A line begins a block: it is a start marker, the next start or finish marker is a finish marker,
and a divider stands between them. -/
def Opens (pieces : List (List Char)) (line : Nat) : Prop :=
  markerAt pieces line = some .start ∧ ∃ last, Ends pieces line last ∧
    ∃ divider, line < divider ∧ divider < last ∧ markerAt pieces divider = some .divider

/-! ### At most one block begins at a line -/

theorem First.unique (h : First pieces marker first last line)
    (h' : First pieces marker first last other) : line = other := by
  obtain hlt | heq | hgt := Nat.lt_trichotomy line other
  · exact absurd h.isMarker (h'.least line h.after hlt)
  · exact heq
  · exact absurd h'.isMarker (h.least other h'.after hgt)

theorem Ends.unique (h : Ends pieces first last) (h' : Ends pieces first other) : last = other := by
  obtain hlt | heq | hgt := Nat.lt_trichotomy last other
  · exact absurd h.isFinish (h'.noFinish last h.after hlt)
  · exact heq
  · exact absurd h'.isFinish (h.noFinish other h'.after hgt)

theorem Upper.unique {base base' : Option (List Char)} (h : Upper pieces first last ours base)
    (h' : Upper pieces first last ours' base') : ours = ours' ∧ base = base' := by
  cases base with
  | none =>
      cases base' with
      | none => exact ⟨h.2.trans h'.2.symm, rfl⟩
      | some base' =>
          obtain ⟨line, hfirst, -⟩ := h'
          exact absurd hfirst.isMarker (h.1 line hfirst.after hfirst.before)
  | some base =>
      obtain ⟨line, hfirst, hours, hbase⟩ := h
      cases base' with
      | none => exact absurd hfirst.isMarker (h'.1 line hfirst.after hfirst.before)
      | some base' =>
          obtain ⟨line', hfirst', hours', hbase'⟩ := h'
          obtain rfl := hfirst.unique hfirst'
          exact ⟨hours.trans hours'.symm, by rw [hbase, hbase']⟩

theorem Delimited.unique (h : block.Delimited pieces) (h' : second.Delimited pieces)
    (hstart : block.startLine = second.startLine) : block = second := by
  obtain ⟨startLine, dividerLine, endLine, ours, theirs, base⟩ := block
  obtain ⟨startLine', dividerLine', endLine', ours', theirs', base'⟩ := second
  obtain rfl : startLine = startLine' := hstart
  obtain rfl : endLine = endLine' := h.ends.unique h'.ends
  obtain rfl : dividerLine = dividerLine' := h.divider.unique h'.divider
  obtain ⟨hours, hbase⟩ := h.upper.unique h'.upper
  obtain rfl : ours = ours' := String.toList_injective hours
  obtain rfl : base = base' := Option.map_injective (fun _ _ => String.toList_injective) hbase
  obtain rfl : theirs = theirs' := String.toList_injective (h.lower.trans h'.lower.symm)
  rfl

theorem exists_first (hafter : first < line) (hbefore : line < last)
    (hmarker : markerAt pieces line = some marker) :
    ∃ least, First pieces marker first last least := by
  classical
  have hexists : ∃ n, first < n ∧ n < last ∧ markerAt pieces n = some marker :=
    ⟨line, hafter, hbefore, hmarker⟩
  obtain ⟨hfirst, hlast, hfound⟩ := Nat.find_spec hexists
  refine ⟨Nat.find hexists, hfirst, hlast, hfound, fun earlier hearlier hlt hmarked => ?_⟩
  exact Nat.find_min hexists hlt ⟨hearlier, Nat.lt_trans hlt hlast, hmarked⟩

theorem exists_delimited_iff :
    (∃ block : Block, block.Delimited pieces ∧ block.startLine = line) ↔ Opens pieces line := by
  constructor
  · rintro ⟨block, h, rfl⟩
    exact ⟨h.isStart, block.endLine, h.ends, block.dividerLine, h.divider.after, h.divider.before,
      h.divider.isMarker⟩
  · rintro ⟨hstart, last, hends, divider, hafter, hbefore, hdivider⟩
    obtain ⟨divider, hfirst⟩ := exists_first hafter hbefore hdivider
    have hupper : ∃ ours base, Upper pieces line divider ours base := by
      by_cases hbase : Lacks pieces .base line divider
      · exact ⟨_, none, hbase, rfl⟩
      · simp only [Lacks, not_forall, not_not] at hbase
        obtain ⟨middle, hmiddle, hlt, hmarked⟩ := hbase
        obtain ⟨cut, hcut⟩ := exists_first hmiddle hlt hmarked
        exact ⟨_, some _, cut, hcut, rfl, rfl⟩
    obtain ⟨ours, base, hupper⟩ := hupper
    refine ⟨⟨line, divider, last, String.ofList ours,
      String.ofList (between pieces divider last), base.map String.ofList⟩, ?_, rfl⟩
    refine ⟨hstart, hends, hfirst, ?_, String.toList_ofList⟩
    have hbase : (base.map String.ofList).map String.toList = base := by
      cases base <;> simp
    simpa only [hbase, String.toList_ofList] using hupper

/-! ### Lines one after another -/

theorem getElem?_of_drop_eq_cons (h : pieces.drop (line - 1) = piece :: rest) :
    pieces[line - 1]? = some piece := by
  rw [← List.head?_drop, h, List.head?_cons]

theorem drop_of_drop_eq_cons (hline : 0 < line) (h : pieces.drop (line - 1) = piece :: rest) :
    pieces.drop (line + 1 - 1) = rest := by
  have htail : (pieces.drop (line - 1)).drop 1 = rest := by rw [h, List.drop_one, List.tail_cons]
  rwa [List.drop_drop, Nat.sub_add_cancel hline] at htail

theorem markerAt_of_getElem? (hline : 0 < line) (hpiece : pieces[line - 1]? = some piece) :
    markerAt pieces line = Marker.ofLine? (Text.unfed piece) := by
  cases line with
  | zero => omega
  | succ line =>
      rw [Nat.add_sub_cancel] at hpiece
      simp [markerAt, hpiece]

theorem markerAt_of_length_lt (h : pieces.length < line) : markerAt pieces line = none := by
  cases line with
  | zero => rfl
  | succ line =>
      have hnone : pieces[line]? = none := List.getElem?_eq_none (by omega)
      simp [markerAt, hnone]

theorem between_self_succ (pieces : List (List Char)) (line : Nat) :
    between pieces line (line + 1) = [] := by
  have hdrop : (pieces.take line).drop line = [] :=
    List.drop_eq_nil_of_le (List.length_take_le line pieces)
  simp [between, hdrop]

theorem between_succ (hfirst : first < line) (hpiece : pieces[line - 1]? = some piece) :
    between pieces first (line + 1) = between pieces first line ++ piece := by
  have hlength : line - 1 < pieces.length := (List.getElem?_eq_some_iff.mp hpiece).1
  have htake : pieces.take line = pieces.take (line - 1) ++ [piece] := by
    have hsucc := List.take_add_one (l := pieces) (i := line - 1)
    rw [hpiece] at hsucc
    rwa [Nat.sub_add_cancel (by omega)] at hsucc
  have hle : first ≤ (pieces.take (line - 1)).length := by
    rw [List.length_take]
    omega
  rw [between, Nat.add_sub_cancel, htake, List.drop_append_of_le_length hle, List.flatten_append,
    List.flatten_singleton, between]

theorem lacks_self_succ (pieces : List (List Char)) (marker : Marker) (line : Nat) :
    Lacks pieces marker line (line + 1) := by
  intro other hafter hbefore
  omega

theorem Lacks.succ (h : Lacks pieces marker first line)
    (hline : markerAt pieces line ≠ some marker) : Lacks pieces marker first (line + 1) := by
  intro other hafter hbefore
  obtain hlt | rfl := Nat.lt_succ_iff_lt_or_eq.mp hbefore
  · exact h other hafter hlt
  · exact hline

theorem First.succ (h : First pieces marker first last line) :
    First pieces marker first (last + 1) line :=
  ⟨h.after, Nat.lt_succ_of_lt h.before, h.isMarker, h.least⟩

/-! ### What has been read of an open block -/

/-- What stands below the divider, if there is a divider between two lines. -/
def Lower (pieces : List (List Char)) (first last : Nat) (theirs : List Char) : Option Nat → Prop
  | none => Lacks pieces .divider first last ∧ theirs = []
  | some divider => First pieces .divider first last divider ∧ theirs = between pieces divider last

/-- What has been read of an open block is what stands between its start and a line. -/
structure Opening.Reads (pieces : List (List Char)) (opening : Opening) (line : Nat) : Prop where
  before : opening.startLine < line
  isStart : markerAt pieces opening.startLine = some .start
  noStart : Lacks pieces .start opening.startLine line
  noFinish : Lacks pieces .finish opening.startLine line
  upper : Upper pieces opening.startLine (opening.dividerLine.getD line) opening.ours
    (if opening.hasBase then some opening.base else none)
  lower : Lower pieces opening.startLine line opening.theirs opening.dividerLine
  noBase : opening.hasBase = false → opening.base = []

namespace Opening.Reads

variable {opening : Opening}

theorem fresh (hstart : markerAt pieces line = some .start) :
    (Opening.fresh line).Reads pieces (line + 1) where
  before := Nat.lt_succ_self line
  isStart := hstart
  noStart := lacks_self_succ pieces .start line
  noFinish := lacks_self_succ pieces .finish line
  upper := ⟨lacks_self_succ pieces .base line, (between_self_succ pieces line).symm⟩
  lower := ⟨lacks_self_succ pieces .divider line, rfl⟩
  noBase _ := rfl

section Step

variable (h : opening.Reads pieces line)

include h

theorem push (hpiece : pieces[line - 1]? = some piece)
    (hstart : markerAt pieces line ≠ some .start) (hfinish : markerAt pieces line ≠ some .finish)
    (hbase : markerAt pieces line = some .base → opening.hasBase ∨ opening.dividerLine.isSome)
    (hdivider : markerAt pieces line = some .divider → opening.dividerLine.isSome) :
    (opening.push piece).Reads pieces (line + 1) := by
  obtain ⟨startLine, hasBase, dividerLine, ours, base, theirs⟩ := opening
  obtain ⟨hbefore, hisStart, hnoStart, hnoFinish, hupper, hlower, hnoBase⟩ := h
  dsimp only at hbefore hisStart hnoStart hnoFinish hupper hlower hnoBase hbase hdivider
  have hafter : startLine < line + 1 := Nat.lt_succ_of_lt hbefore
  have hnoStart' := hnoStart.succ hstart
  have hnoFinish' := hnoFinish.succ hfinish
  cases dividerLine with
  | some divider =>
      have htheirs : theirs ++ piece = between pieces divider (line + 1) := by
        rw [between_succ hlower.1.before hpiece, ← hlower.2]
      exact ⟨hafter, hisStart, hnoStart', hnoFinish', hupper, ⟨hlower.1.succ, htheirs⟩, hnoBase⟩
  | none =>
      have hlower' := hlower.1.succ fun heq => by simpa using hdivider heq
      cases hasBase with
      | true =>
          obtain ⟨cut, hcut, hours, hread⟩ := hupper
          rw [Option.getD_none] at hcut hread
          have hmore : base ++ piece = between pieces cut (line + 1) := by
            rw [between_succ hcut.before hpiece, ← hread]
          exact ⟨hafter, hisStart, hnoStart', hnoFinish', ⟨cut, hcut.succ, hours, hmore⟩,
            ⟨hlower', hlower.2⟩, fun hfalse => nomatch hfalse⟩
      | false =>
          have hupper' := hupper.1.succ fun heq => by simpa using hbase heq
          have hours : ours ++ piece = between pieces startLine (line + 1) := by
            rw [between_succ hbefore hpiece]
            exact congrArg (· ++ piece) hupper.2
          exact ⟨hafter, hisStart, hnoStart', hnoFinish', ⟨hupper', hours⟩, ⟨hlower', hlower.2⟩,
            hnoBase⟩

theorem cut (hmarker : markerAt pieces line = some .base) (hnone : opening.hasBase = false)
    (hdivider : opening.dividerLine = none) :
    ({ opening with hasBase := true } : Opening).Reads pieces (line + 1) where
  before := Nat.lt_succ_of_lt h.before
  isStart := h.isStart
  noStart := h.noStart.succ (by simp [hmarker])
  noFinish := h.noFinish.succ (by simp [hmarker])
  upper := by
    have hupper := h.upper
    rw [hdivider, hnone] at hupper
    simp only [hdivider, Option.getD_none, if_true]
    refine ⟨line, ⟨h.before, Nat.lt_succ_self line, hmarker, hupper.1⟩, hupper.2, ?_⟩
    rw [h.noBase hnone, between_self_succ]
  lower := by
    have hlower := h.lower
    rw [hdivider] at hlower
    simp only [hdivider]
    exact ⟨hlower.1.succ (by simp [hmarker]), hlower.2⟩
  noBase hfalse := by cases hfalse

theorem divide (hmarker : markerAt pieces line = some .divider)
    (hdivider : opening.dividerLine = none) :
    ({ opening with dividerLine := some line } : Opening).Reads pieces (line + 1) where
  before := Nat.lt_succ_of_lt h.before
  isStart := h.isStart
  noStart := h.noStart.succ (by simp [hmarker])
  noFinish := h.noFinish.succ (by simp [hmarker])
  upper := by
    have hupper := h.upper
    rwa [hdivider] at hupper
  lower := by
    have hlower := h.lower
    rw [hdivider] at hlower
    refine ⟨⟨h.before, Nat.lt_succ_self line, hmarker, hlower.1⟩, ?_⟩
    rw [between_self_succ]
    exact hlower.2
  noBase := h.noBase

theorem le_endLine (hblock : block.Delimited pieces) (hsame : block.startLine = opening.startLine) :
    line ≤ block.endLine := by
  by_contra hlt
  have hafter := hblock.ends.after
  rw [hsame] at hafter
  exact h.noFinish block.endLine hafter (Nat.not_le.mp hlt) hblock.ends.isFinish

/-- A finish marker closes the block that began where the open block did, if there is one. -/
theorem close?_eq_some_iff (hfinish : markerAt pieces line = some .finish) :
    opening.close? line = some block ↔
      block.Delimited pieces ∧ block.startLine = opening.startLine := by
  have hends : Ends pieces opening.startLine line := ⟨h.before, hfinish, h.noStart, h.noFinish⟩
  have hclosed (closed : Block) (hclose : opening.close? line = some closed) :
      closed.Delimited pieces ∧ closed.startLine = opening.startLine := by
    obtain ⟨divider, hdivider, rfl⟩ := Option.map_eq_some_iff.mp hclose
    have hupper := h.upper
    have hlower := h.lower
    rw [hdivider] at hupper hlower
    refine ⟨⟨h.isStart, hends, hlower.1, ?_, ?_⟩, rfl⟩
    · rw [String.toList_ofList]
      cases hbase : opening.hasBase with
      | true => simpa [hbase] using hupper
      | false => simpa [hbase] using hupper
    · rw [String.toList_ofList]
      exact hlower.2
  refine ⟨hclosed block, fun ⟨hblock, hsame⟩ => ?_⟩
  cases hdivider : opening.dividerLine with
  | none =>
      have hlower := h.lower
      rw [hdivider] at hlower
      have hblockEnds := hblock.ends
      have hdivided := hblock.divider
      rw [hsame] at hblockEnds hdivided
      rw [hblockEnds.unique hends] at hdivided
      exact absurd hdivided.isMarker (hlower.1 _ hdivided.after hdivided.before)
  | some divider =>
      obtain ⟨closed, hclose⟩ : ∃ closed, opening.close? line = some closed := by
        simp [Opening.close?, hdivider]
      obtain ⟨hdelimited, hstart⟩ := hclosed closed hclose
      rw [hclose, hdelimited.unique hblock (hstart.trans hsame.symm)]

end Step

end Opening.Reads

/-! ### The scan -/

@[simp]
theorem Opening.startLine_push (opening : Opening) (piece : List Char) :
    (opening.push piece).startLine = opening.startLine := by
  unfold Opening.push
  split_ifs <;> rfl

/-- From a line on, the blocks that begin later, and the one that is open. -/
def Remains (pieces : List (List Char)) (line : Nat) (opening : Option Opening) (block : Block) :
    Prop :=
  block.Delimited pieces ∧
    (line ≤ block.startLine ∨ opening.map Opening.startLine = some block.startLine)

theorem remains_succ_iff {opening opening' : Option Opening}
    (hline : markerAt pieces line ≠ some .start)
    (hopening : opening'.map Opening.startLine = opening.map Opening.startLine) :
    Remains pieces (line + 1) opening' block ↔ Remains pieces line opening block := by
  unfold Remains
  rw [hopening]
  refine and_congr_right fun h => or_congr_left ?_
  refine ⟨Nat.le_of_lt, fun hle => Nat.lt_of_le_of_ne hle ?_⟩
  rintro rfl
  exact hline h.isStart

theorem not_remains_of_length_lt {opening : Option Opening} (hlength : pieces.length < line)
    (hopening : ∀ o, opening = some o → o.Reads pieces line) :
    ¬Remains pieces line opening block := by
  rintro ⟨h, hlater | hsame⟩
  · have hstart := h.isStart
    rw [markerAt_of_length_lt (by omega)] at hstart
    cases hstart
  · obtain ⟨o, rfl, hbegan⟩ := Option.map_eq_some_iff.mp hsame
    have hle := (hopening o rfl).le_endLine h hbegan.symm
    have hfinish := h.ends.isFinish
    rw [markerAt_of_length_lt (by omega)] at hfinish
    cases hfinish

theorem remains_fresh_iff {opening : Option Opening} (hstart : markerAt pieces line = some .start)
    (hopening : ∀ o, opening = some o → o.Reads pieces line) :
    Remains pieces (line + 1) (some (.fresh line)) block ↔ Remains pieces line opening block := by
  refine and_congr_right fun h => ?_
  simp only [Option.map_some, Opening.fresh, Option.some.injEq]
  constructor
  · omega
  · rintro (hlater | hsame)
    · omega
    · obtain ⟨o, rfl, hbegan⟩ := Option.map_eq_some_iff.mp hsame
      have hle := (hopening o rfl).le_endLine h hbegan.symm
      have hbefore := (hopening o rfl).before
      have hne : line ≠ block.endLine := by
        rintro rfl
        exact absurd (hstart.symm.trans h.ends.isFinish) (by simp)
      exact absurd hstart (h.ends.noStart line (by omega) (by omega))

/-- From a line on, a scan gives the blocks that remain. -/
theorem mem_scan_iff {opening : Option Opening} (hline : 0 < line)
    (hrest : pieces.drop (line - 1) = rest)
    (hopening : ∀ o, opening = some o → o.Reads pieces line) :
    block ∈ scan line opening rest ↔ Remains pieces line opening block := by
  fun_induction scan line opening rest with
  | case1 line opening =>
      have hlength : pieces.length < line := by
        have hle := List.drop_eq_nil_iff.mp hrest
        omega
      simpa using not_remains_of_length_lt hlength hopening
  | case2 line opening piece rest hkind ih =>
      have hpiece := getElem?_of_drop_eq_cons hrest
      have hmarker := (markerAt_of_getElem? hline hpiece).trans hkind
      rw [ih (Nat.succ_pos line) (drop_of_drop_eq_cons hline hrest) ?_]
      · exact remains_fresh_iff hmarker hopening
      · rintro _ ⟨⟩
        exact .fresh hmarker
  | case3 line piece rest hkind ih =>
      have hpiece := getElem?_of_drop_eq_cons hrest
      have hmarker := markerAt_of_getElem? hline hpiece
      rw [ih (Nat.succ_pos line) (drop_of_drop_eq_cons hline hrest) (by simp)]
      exact remains_succ_iff (by rwa [hmarker]) rfl
  | case4 line piece rest o hkind ih =>
      have hpiece := getElem?_of_drop_eq_cons hrest
      have hmarker := (markerAt_of_getElem? hline hpiece).trans hkind
      have hclose : o.close? line = some block ↔
          block.Delimited pieces ∧ block.startLine = o.startLine :=
        (hopening o rfl).close?_eq_some_iff hmarker
      have hlater : Remains pieces (line + 1) none block ↔ Remains pieces line none block :=
        remains_succ_iff (by simp [hmarker]) rfl
      rw [List.mem_append, Option.mem_toList, hclose,
        ih (Nat.succ_pos line) (drop_of_drop_eq_cons hline hrest) (by simp), hlater]
      simp only [Remains, Option.map_some, Option.map_none, reduceCtorEq, or_false,
        Option.some.injEq]
      rw [← and_or_left, or_comm, eq_comm (a := o.startLine)]
  | case5 line piece rest o hkind hread ih =>
      have hpiece := getElem?_of_drop_eq_cons hrest
      have hmarker := (markerAt_of_getElem? hline hpiece).trans hkind
      rw [ih (Nat.succ_pos line) (drop_of_drop_eq_cons hline hrest) ?_]
      · exact remains_succ_iff (by simp [hmarker]) (by simp)
      · rintro _ ⟨⟩
        refine (hopening o rfl).push hpiece (by simp [hmarker]) (by simp [hmarker]) ?_ ?_
        · exact fun _ => by simpa using hread
        · exact fun hdivider => by simp [hmarker] at hdivider
  | case6 line piece rest o hkind hfirst ih =>
      have hpiece := getElem?_of_drop_eq_cons hrest
      have hmarker := (markerAt_of_getElem? hline hpiece).trans hkind
      rw [ih (Nat.succ_pos line) (drop_of_drop_eq_cons hline hrest) ?_]
      · exact remains_succ_iff (by simp [hmarker]) rfl
      · rintro _ ⟨⟩
        simp only [Bool.or_eq_true, not_or, Bool.not_eq_true, Option.isSome_eq_false_iff,
          Option.isNone_iff_eq_none] at hfirst
        exact (hopening o rfl).cut hmarker hfirst.1 hfirst.2
  | case7 line piece rest o hkind hread ih =>
      have hpiece := getElem?_of_drop_eq_cons hrest
      have hmarker := (markerAt_of_getElem? hline hpiece).trans hkind
      rw [ih (Nat.succ_pos line) (drop_of_drop_eq_cons hline hrest) ?_]
      · exact remains_succ_iff (by simp [hmarker]) (by simp)
      · rintro _ ⟨⟩
        refine (hopening o rfl).push hpiece (by simp [hmarker]) (by simp [hmarker]) ?_ ?_
        · exact fun hbase => by simp [hmarker] at hbase
        · exact fun _ => hread
  | case8 line piece rest o hkind hfirst ih =>
      have hpiece := getElem?_of_drop_eq_cons hrest
      have hmarker := (markerAt_of_getElem? hline hpiece).trans hkind
      rw [ih (Nat.succ_pos line) (drop_of_drop_eq_cons hline hrest) ?_]
      · exact remains_succ_iff (by simp [hmarker]) rfl
      · rintro _ ⟨⟩
        exact (hopening o rfl).divide hmarker (by simpa using hfirst)
  | case9 line piece rest o hkind ih =>
      have hpiece := getElem?_of_drop_eq_cons hrest
      have hmarker := (markerAt_of_getElem? hline hpiece).trans hkind
      rw [ih (Nat.succ_pos line) (drop_of_drop_eq_cons hline hrest) ?_]
      · exact remains_succ_iff (by simp [hmarker]) (by simp)
      · rintro _ ⟨⟩
        refine (hopening o rfl).push hpiece (by simp [hmarker]) (by simp [hmarker]) ?_ ?_
        · exact fun hbase => by simp [hmarker] at hbase
        · exact fun hdivider => by simp [hmarker] at hdivider

theorem pairwise_scan {opening : Option Opening} (hline : 0 < line)
    (hrest : pieces.drop (line - 1) = rest) :
    (scan line opening rest).Pairwise fun a b => a.endLine < b.startLine := by
  fun_induction scan line opening rest with
  | case1 => exact List.Pairwise.nil
  | case2 _ _ _ _ _ ih => exact ih (Nat.succ_pos _) (drop_of_drop_eq_cons hline hrest)
  | case3 _ _ _ _ ih => exact ih (Nat.succ_pos _) (drop_of_drop_eq_cons hline hrest)
  | case4 line piece rest o hkind ih =>
      have hdrop := drop_of_drop_eq_cons hline hrest
      cases hclose : o.close? line with
      | none => simpa using ih (Nat.succ_pos line) hdrop
      | some closed =>
          refine List.Pairwise.cons (fun later hlater => ?_) (ih (Nat.succ_pos line) hdrop)
          obtain ⟨-, hle | hopen⟩ := (mem_scan_iff (Nat.succ_pos line) hdrop (by simp)).mp hlater
          · obtain ⟨divider, -, rfl⟩ := Option.map_eq_some_iff.mp hclose
            exact hle
          · cases hopen
  | case5 _ _ _ _ _ _ ih => exact ih (Nat.succ_pos _) (drop_of_drop_eq_cons hline hrest)
  | case6 _ _ _ _ _ _ ih => exact ih (Nat.succ_pos _) (drop_of_drop_eq_cons hline hrest)
  | case7 _ _ _ _ _ _ ih => exact ih (Nat.succ_pos _) (drop_of_drop_eq_cons hline hrest)
  | case8 _ _ _ _ _ _ ih => exact ih (Nat.succ_pos _) (drop_of_drop_eq_cons hline hrest)
  | case9 _ _ _ _ _ ih => exact ih (Nat.succ_pos _) (drop_of_drop_eq_cons hline hrest)

theorem mem_ofText_iff {text : String} :
    block ∈ ofText text ↔ block.Delimited (Text.pieces text.toList) := by
  have hrest : (Text.pieces text.toList).drop (1 - 1) = Text.pieces text.toList := rfl
  rw [ofText, mem_scan_iff Nat.one_pos hrest (by simp)]
  refine ⟨And.left, fun h => ⟨h, .inl (Nat.one_le_iff_ne_zero.mpr fun hzero => ?_)⟩⟩
  have hstart := h.isStart
  rw [hzero] at hstart
  cases hstart

theorem pairwise_ofText (text : String) :
    (ofText text).Pairwise fun a b => a.endLine < b.startLine := by
  have hrest : (Text.pieces text.toList).drop (1 - 1) = Text.pieces text.toList := rfl
  exact pairwise_scan Nat.one_pos hrest

/-- The blocks of a text are those that its lines delimit: one for each line that opens one, in their
order, none within another, and each with its divider inside. -/
theorem ofText_delimits (text : String) :
    (∀ block, block ∈ ofText text ↔ block.Delimited (Text.pieces text.toList)) ∧
    (∀ line, Opens (Text.pieces text.toList) line ↔ ∃! block, block ∈ ofText text ∧
      block.startLine = line) ∧
    (ofText text).Pairwise (fun a b => a.startLine < b.startLine ∧ a.endLine < b.startLine) ∧
    ∀ block ∈ ofText text,
      block.startLine < block.dividerLine ∧ block.dividerLine < block.endLine := by
  have hlines (block : Block) (hblock : block ∈ ofText text) :
      block.startLine < block.dividerLine ∧ block.dividerLine < block.endLine :=
    have hdivider := (mem_ofText_iff.mp hblock).divider
    ⟨hdivider.after, hdivider.before⟩
  refine ⟨fun block => mem_ofText_iff, fun line => ?_, ?_, hlines⟩
  · rw [← exists_delimited_iff]
    constructor
    · rintro ⟨block, h, rfl⟩
      refine ⟨block, ⟨mem_ofText_iff.mpr h, rfl⟩, fun other ⟨hother, hsame⟩ => ?_⟩
      exact (mem_ofText_iff.mp hother).unique h hsame
    · rintro ⟨block, ⟨hblock, hsame⟩, -⟩
      exact ⟨block, mem_ofText_iff.mp hblock, hsame⟩
  · refine (pairwise_ofText text).imp_of_mem fun hblock _ hlt => ⟨?_, hlt⟩
    have hinside := hlines _ hblock
    omega

end Reconcile.Block
