import Mathlib.Data.List.Basic
import Reconcile.Proofs.BlockGrammar
import Reconcile.Proofs.Pieces

/-!
# A text with its blocks replaced, line by line

The blocks of a text part its lines: those of one block stand together, and no line is in two blocks. So
each line of the text has its own part of what replacing the blocks gives, and these parts follow one
another as the lines do.
-/

namespace Reconcile.Block

variable {pick : Block → String} {block : Block} {pending : List Block} {line : Nat}
  {piece : List Char} {rest : List (List Char)}

/-- A line is one of a block, its marker lines included. -/
def covers (block : Block) (line : Nat) : Bool := block.startLine ≤ line && line ≤ block.endLine

/-- What stands for a line when blocks are replaced: the line itself outside the blocks, the pick for a
block at its first line, and nothing at its other lines. -/
def standIn (pick : Block → String) (blocks : List Block) (line : Nat) (piece : List Char) :
    List Char :=
  match blocks.find? (·.covers line) with
  | none => piece
  | some block => if line = block.startLine then (pick block).toList else []

theorem covers_iff : block.covers line ↔ block.startLine ≤ line ∧ line ≤ block.endLine := by
  simp [covers]

/-! ### The part of a line -/

section Parts

variable {α : Type} {outer : List Char → List α} {part : Block → List α}

/-- What a line becomes, if a line outside the blocks and a block as a whole are given what they become. -/
def partAt (outer : List Char → List α) (part : Block → List α) (blocks : List Block) (line : Nat)
    (piece : List Char) : List α :=
  match blocks.find? (·.covers line) with
  | none => outer piece
  | some block => if line = block.startLine then part block else []

theorem partAt_cons_of_covers (h : block.covers line) :
    partAt outer part (block :: pending) line piece =
      if line = block.startLine then part block else [] := by
  simp only [partAt, List.find?_cons, h]

theorem partAt_cons_of_not_covers (h : ¬block.covers line) :
    partAt outer part (block :: pending) line piece = partAt outer part pending line piece := by
  simp only [partAt, List.find?_cons, Bool.not_eq_true _ ▸ h]

theorem partAt_of_forall_not_covers (h : ∀ block ∈ pending, ¬block.covers line) :
    partAt outer part pending line piece = outer piece := by
  rw [partAt, List.find?_eq_none.mpr h]

theorem partAt_cases (outer : List Char → List α) (part : Block → List α) (blocks : List Block)
    (line : Nat) (piece : List Char) : partAt outer part blocks line piece = outer piece ∨
      (∃ block ∈ blocks, partAt outer part blocks line piece = part block) ∨
        partAt outer part blocks line piece = [] := by
  unfold partAt
  split
  · exact .inl rfl
  · rename_i block hfind
    split_ifs
    · exact .inr (.inl ⟨block, List.mem_of_find?_eq_some hfind, rfl⟩)
    · exact .inr (.inr rfl)

theorem partAt_congr {outer' : List Char → List α} {part' : Block → List α} {blocks : List Block}
    (houter : outer piece = outer' piece) (h : ∀ block ∈ blocks, part block = part' block) (line : Nat) :
    partAt outer part blocks line piece = partAt outer' part' blocks line piece := by
  unfold partAt
  split
  · exact houter
  · rename_i block hfind
    rw [h block (List.mem_of_find?_eq_some hfind)]

/-- What is done to every part is done to what the lines and the blocks become. -/
theorem apply_partAt {β : Type} {f : List α → List β} (hnil : f [] = []) (blocks : List Block)
    (line : Nat) (piece : List Char) : f (partAt outer part blocks line piece) =
      partAt (fun piece => f (outer piece)) (fun block => f (part block)) blocks line piece := by
  unfold partAt
  split
  · rfl
  · split_ifs
    · rfl
    · exact hnil

end Parts

theorem standIn_eq_partAt (pick : Block → String) (blocks : List Block) :
    standIn pick blocks = partAt id (fun block => (pick block).toList) blocks := rfl

theorem standIn_cons_of_covers (h : block.covers line) : standIn pick (block :: pending) line piece =
    if line = block.startLine then (pick block).toList else [] := by
  rw [standIn_eq_partAt, partAt_cons_of_covers h]

theorem standIn_cons_of_not_covers (h : ¬block.covers line) :
    standIn pick (block :: pending) line piece = standIn pick pending line piece := by
  rw [standIn_eq_partAt, standIn_eq_partAt, partAt_cons_of_not_covers h]

theorem standIn_of_forall_not_covers (h : ∀ block ∈ pending, ¬block.covers line) :
    standIn pick pending line piece = piece := by
  rw [standIn_eq_partAt, partAt_of_forall_not_covers h, id]

theorem standIn_cases (pick : Block → String) (blocks : List Block) (line : Nat) (piece : List Char) :
    standIn pick blocks line piece = piece ∨
      (∃ block ∈ blocks, standIn pick blocks line piece = (pick block).toList) ∨
        standIn pick blocks line piece = [] :=
  partAt_cases id (fun block => (pick block).toList) blocks line piece

/-! ### Replacing line by line -/

/-- What is written of the pieces that begin at `line`, where the picks are known beforehand. -/
def replaceFrom (pick : Block → String) (line : Nat) (pending : List Block)
    (pieces : List (List Char)) : List Char :=
  Id.run (replaceFromM (fun block => pure (pick block)) line pending pieces)

theorem toList_replaceAll_eq (text : String) (blocks : List Block) (pick : Block → String) :
    (replaceAll text blocks pick).toList = replaceFrom pick 1 blocks (Text.pieces text.toList) :=
  String.toList_ofList

theorem replaceFrom_nil_cons :
    replaceFrom pick line [] (piece :: rest) = piece ++ replaceFrom pick (line + 1) [] rest :=
  rfl

theorem replaceFrom_cons_cons : replaceFrom pick line (block :: pending) (piece :: rest) =
    if line = block.startLine then
      (pick block).toList ++ replaceFrom pick (line + 1) (block :: pending) rest
    else if block.startLine < line ∧ line < block.endLine then
      replaceFrom pick (line + 1) (block :: pending) rest
    else if line = block.endLine then replaceFrom pick (line + 1) pending rest
    else piece ++ replaceFrom pick (line + 1) (block :: pending) rest := by
  rw [replaceFrom, replaceFromM]
  split_ifs <;> rfl

/-- The line that is come to is done with by its own part. -/
theorem replaceFrom_cons (hsorted : (block :: pending).Pairwise fun a b => a.endLine < b.startLine)
    (hinside : ∀ other ∈ block :: pending, other.startLine < other.endLine)
    (hline : line ≤ block.endLine) :
    replaceFrom pick line (block :: pending) (piece :: rest) =
      standIn pick (block :: pending) line piece ++
        replaceFrom pick (line + 1) (if line = block.endLine then pending else block :: pending) rest := by
  have hends := hinside block List.mem_cons_self
  rw [replaceFrom_cons_cons]
  by_cases hstart : line = block.startLine
  · have hcovers : block.covers line := covers_iff.mpr (by omega)
    rw [if_pos hstart, standIn_cons_of_covers hcovers, if_pos hstart, if_neg (by omega)]
  rw [if_neg hstart]
  by_cases hwithin : block.startLine < line ∧ line < block.endLine
  · have hcovers : block.covers line := covers_iff.mpr (by omega)
    rw [if_pos hwithin, standIn_cons_of_covers hcovers, if_neg hstart, if_neg (by omega),
      List.nil_append]
  rw [if_neg hwithin]
  by_cases hend : line = block.endLine
  · have hcovers : block.covers line := covers_iff.mpr (by omega)
    rw [if_pos hend, standIn_cons_of_covers hcovers, if_neg hstart, if_pos hend, List.nil_append]
  · have hnone : ∀ other ∈ block :: pending, ¬other.covers line := by
      intro other hother
      rw [covers_iff]
      obtain rfl | hlater := List.mem_cons.mp hother
      · omega
      · have hbefore := (List.pairwise_cons.mp hsorted).1 other hlater
        omega
    rw [if_neg hend, standIn_of_forall_not_covers hnone, if_neg hend]

theorem replaceFrom_eq_flatMap (hsorted : pending.Pairwise fun a b => a.endLine < b.startLine)
    (hinside : ∀ block ∈ pending, block.startLine < block.endLine)
    (hline : ∀ block ∈ pending, line ≤ block.endLine) :
    replaceFrom pick line pending rest =
      (rest.zipIdx line).flatMap fun numbered => standIn pick pending numbered.2 numbered.1 := by
  -- On the lines that are left; no pending block has ended before the first of them.
  induction rest generalizing line pending with
  | nil => cases pending <;> rfl
  | cons piece rest ih =>
      rw [List.zipIdx_cons, List.flatMap_cons]
      cases pending with
      | nil =>
          rw [replaceFrom_nil_cons, ih hsorted hinside (by simp)]
          rfl
      | cons block pending =>
          have hcome := hline block List.mem_cons_self
          obtain ⟨hbefore, hlater⟩ := List.pairwise_cons.mp hsorted
          have hnext (other : Block) (hother : other ∈ pending) : line + 1 ≤ other.endLine := by
            have hafter := hbefore other hother
            have hends := hinside other (List.mem_cons_of_mem block hother)
            omega
          rw [replaceFrom_cons hsorted hinside hcome]
          by_cases hend : line = block.endLine
          · rw [if_pos hend, ih hlater (fun other hother => hinside other (by simp [hother])) hnext]
            refine congrArg _ (List.flatMap_congr fun numbered hnumbered => ?_)
            have hpast := List.le_snd_of_mem_zipIdx hnumbered
            have hout : ¬block.covers numbered.2 := by
              rw [covers_iff]
              omega
            exact (standIn_cons_of_not_covers hout).symm
          · rw [if_neg hend, ih hsorted hinside fun other hother => ?_]
            obtain rfl | hmem := List.mem_cons.mp hother
            · omega
            · exact hnext other hmem

theorem startLine_lt_endLine {text : String} (hblock : block ∈ ofText text) :
    block.startLine < block.endLine :=
  (mem_ofText_iff.mp hblock).ends.after

/-- The first line of a block is in no other block. -/
theorem find?_covers_startLine {text : String} (hblock : block ∈ ofText text) :
    (ofText text).find? (·.covers block.startLine) = some block := by
  have hends := startLine_lt_endLine hblock
  have hcovers : block.covers block.startLine := covers_iff.mpr ⟨le_rfl, Nat.le_of_lt hends⟩
  cases hfind : (ofText text).find? (·.covers block.startLine) with
  | none => exact absurd hcovers (List.find?_eq_none.mp hfind block hblock)
  | some other =>
      obtain ⟨hother, before, after, hblocks, hbefore⟩ := List.find?_eq_some_iff_append.mp hfind
      have hsorted := pairwise_ofText text
      rw [hblocks] at hblock hsorted
      obtain hmem | rfl | hmem : block ∈ before ∨ block = other ∨ block ∈ after := by simpa using hblock
      · exact absurd hcovers (by simpa using hbefore block hmem)
      · rfl
      · have hlater := (List.pairwise_cons.mp (List.pairwise_append.mp hsorted).2.1).1 block hmem
        rw [covers_iff] at hother
        omega

theorem exists_piece_startLine {text : String} (hblock : block ∈ ofText text) :
    ∃ piece, (piece, block.startLine) ∈ (Text.pieces text.toList).zipIdx 1 := by
  have hstart := (mem_ofText_iff.mp hblock).isStart
  cases hline : block.startLine with
  | zero =>
      rw [hline] at hstart
      cases hstart
  | succ line =>
      rw [hline, markerAt] at hstart
      obtain ⟨piece, hpiece, -⟩ := Option.bind_eq_some_iff.mp hstart
      refine ⟨piece, List.mk_mem_zipIdx_iff_le_and_getElem?_sub.mpr ⟨by omega, ?_⟩⟩
      simpa using hpiece

/-- Replacing the blocks of a text gives each of its lines its own part. -/
theorem toList_replaceAll (text : String) (pick : Block → String) :
    (replaceAll text (ofText text) pick).toList =
      ((Text.pieces text.toList).zipIdx 1).flatMap fun numbered =>
        standIn pick (ofText text) numbered.2 numbered.1 := by
  have hinside (block : Block) (hblock : block ∈ ofText text) : block.startLine < block.endLine :=
    startLine_lt_endLine hblock
  rw [toList_replaceAll_eq, replaceFrom_eq_flatMap (pairwise_ofText text) hinside]
  intro block hblock
  have hends := hinside block hblock
  omega

/-- What is picked for the blocks joins no two lines if it ends with its lines. -/
theorem pieces_replaceAll {text : String} (hpick : ∀ block ∈ ofText text, Text.IsFed (pick block).toList) :
    Text.pieces (replaceAll text (ofText text) pick).toList =
      ((Text.pieces text.toList).zipIdx 1).flatMap fun numbered =>
        partAt (fun piece => [piece]) (fun block => Text.pieces (pick block).toList) (ofText text)
          numbered.2 numbered.1 := by
  have hcut := Text.isCut_pieces text.toList
  have hparts (line : Nat) (piece : List Char) : standIn pick (ofText text) line piece = piece ∨
      Text.IsFed (standIn pick (ofText text) line piece) := by
    obtain hkept | ⟨block, hblock, hpicked⟩ | hnil := standIn_cases pick (ofText text) line piece
    · exact .inl hkept
    · rw [hpicked]
      exact .inr (hpick block hblock)
    · rw [hnil]
      exact .inr (.inl rfl)
  rw [toList_replaceAll, Text.pieces_flatMap hcut hparts]
  refine List.flatMap_congr fun numbered hnumbered => ?_
  rw [standIn_eq_partAt, apply_partAt (f := Text.pieces) rfl]
  refine partAt_congr ?_ (fun _ _ => rfl) numbered.2
  exact hcut.pieces_of_mem (List.fst_mem_of_mem_zipIdx hnumbered)

/-! ### Each block once -/

section Parts

variable {α : Type} {outer : List Char → List α} {part : Block → List α}

theorem partAt_startLine {text : String} (hblock : block ∈ ofText text) :
    partAt outer part (ofText text) block.startLine piece = part block := by
  rw [partAt, find?_covers_startLine hblock]
  exact if_pos rfl

theorem partAt_cons_of_ne (hlater : ∀ other ∈ pending, block.endLine < other.startLine)
    (hline : line ≠ block.startLine) :
    partAt (fun _ => []) part (block :: pending) line piece =
      partAt (fun _ => []) part pending line piece := by
  by_cases hcovers : block.covers line
  · have hnone : ∀ other ∈ pending, ¬other.covers line := by
      intro other hother
      have hafter := hlater other hother
      rw [covers_iff] at hcovers ⊢
      omega
    rw [partAt_of_forall_not_covers hnone, partAt_cons_of_covers hcovers, if_neg hline]
  · exact partAt_cons_of_not_covers hcovers

theorem flatMap_partAt (hsorted : pending.Pairwise fun a b => a.endLine < b.startLine)
    (hinside : ∀ block ∈ pending, block.startLine < block.endLine)
    (hline : ∀ block ∈ pending, line ≤ block.startLine ∧ block.startLine < line + rest.length) :
    ((rest.zipIdx line).flatMap fun numbered =>
      partAt (fun _ => []) part pending numbered.2 numbered.1) = pending.flatMap part := by
  -- On the lines that are left; no pending block has begun before the first of them.
  induction rest generalizing line pending with
  | nil =>
      cases pending with
      | nil => rfl
      | cons block pending =>
          obtain ⟨hfrom, hto⟩ := hline block List.mem_cons_self
          rw [List.length_nil] at hto
          omega
  | cons piece rest ih =>
      rw [List.zipIdx_cons, List.flatMap_cons]
      cases pending with
      | nil => exact ih hsorted hinside (by simp)
      | cons block pending =>
          obtain ⟨hfrom, hto⟩ := hline block List.mem_cons_self
          have hends := hinside block List.mem_cons_self
          obtain ⟨hlater, hlaterSorted⟩ := List.pairwise_cons.mp hsorted
          by_cases hstart : line = block.startLine
          · have hpast : ((rest.zipIdx (line + 1)).flatMap fun numbered =>
                partAt (fun _ => []) part (block :: pending) numbered.2 numbered.1) =
              (rest.zipIdx (line + 1)).flatMap fun numbered =>
                partAt (fun _ => []) part pending numbered.2 numbered.1 := by
              refine List.flatMap_congr fun numbered hnumbered => partAt_cons_of_ne hlater ?_
              have hnext := List.le_snd_of_mem_zipIdx hnumbered
              omega
            rw [hpast, ih hlaterSorted (fun other hother => hinside other (by simp [hother])),
              partAt_cons_of_covers (covers_iff.mpr (by omega)), if_pos hstart, List.flatMap_cons]
            intro other hother
            have hafter := hlater other hother
            have hreach := (hline other (List.mem_cons_of_mem block hother)).2
            rw [List.length_cons] at hreach
            omega
          · have hnone : ∀ other ∈ block :: pending, ¬other.covers line := by
              intro other hother
              rw [covers_iff]
              obtain rfl | hmem := List.mem_cons.mp hother
              · omega
              · have hafter := hlater other hmem
                omega
            rw [partAt_of_forall_not_covers hnone, List.nil_append, ih hsorted hinside]
            intro other hother
            have hreach := hline other hother
            rw [List.length_cons] at hreach
            obtain rfl | hmem := List.mem_cons.mp hother
            · omega
            · have hafter := hlater other hmem
              omega

/-- Each block of a text has its part at one line, and the parts follow one another as the blocks do. -/
theorem flatMap_partAt_ofText (text : String) (part : Block → List α) :
    (((Text.pieces text.toList).zipIdx 1).flatMap fun numbered =>
      partAt (fun _ => []) part (ofText text) numbered.2 numbered.1) = (ofText text).flatMap part := by
  refine flatMap_partAt (pairwise_ofText text) (fun block => startLine_lt_endLine) fun block hblock => ?_
  obtain ⟨piece, hpiece⟩ := exists_piece_startLine hblock
  obtain ⟨hfrom, hto⟩ := List.mk_mem_zipIdx_iff_le_and_getElem?_sub.mp hpiece
  have hlength := (List.getElem?_eq_some_iff.mp hto).1
  omega

theorem nodup_ofText (text : String) : (ofText text).Nodup := by
  refine (pairwise_ofText text).imp_of_mem fun {first second} _ hsecond hapart => ?_
  rintro rfl
  have hends := startLine_lt_endLine hsecond
  omega

theorem flatMap_ofText_of_ne {text : String} (hblock : block ∈ ofText text)
    (hothers : ∀ other, other ≠ block → part other = []) : (ofText text).flatMap part = part block := by
  have hnodup := nodup_ofText text
  obtain ⟨before, after, hsplit⟩ := List.append_of_mem hblock
  rw [hsplit, List.nodup_append, List.nodup_cons] at hnodup
  obtain ⟨-, ⟨hafter, -⟩, hbefore⟩ := hnodup
  have hfirst : before.flatMap part = [] := List.flatMap_eq_nil_iff.mpr fun other hother =>
    hothers other (hbefore other hother block List.mem_cons_self)
  have hlast : after.flatMap part = [] := List.flatMap_eq_nil_iff.mpr fun other hother =>
    hothers other (ne_of_mem_of_not_mem hother hafter)
  rw [hsplit, List.flatMap_append, List.flatMap_cons, hfirst, hlast, List.nil_append, List.append_nil]

end Parts

end Reconcile.Block
