import Mathlib.Tactic.Common
import Reconcile.Proofs.Partition

/-!
# What is picked for a block, and where it stands

Picking may have effects: it may count, ask or fail. The walk over the lines of a text picks once for each
block, in the order of the blocks, and has no other effects. What was picked then stands in the place of
the lines of its block, and the lines between the blocks stay as they were.
-/

namespace Reconcile.Block

variable {pieces before inside rest : List (List Char)} {block : Block} {pending : List Block}
  {first last line : Nat}

/-- The pieces after line `last`, with what is given for each block in the place of its lines. -/
def filled (pieces : List (List Char)) (last : Nat) : List (Block × String) → List Char
  | [] => (pieces.drop last).flatten
  | (block, given) :: rest =>
    between pieces last block.startLine ++ given.toList ++ filled pieces block.endLine rest

/-- The lines of a block as they stand, its marker lines included. -/
def source (pieces : List (List Char)) (block : Block) : List Char :=
  between pieces (block.startLine - 1) (block.endLine + 1)

theorem drop_take_append_drop (h : first ≤ last) :
    (pieces.take last).drop first ++ pieces.drop last = pieces.drop first := by
  rw [List.drop_take]
  obtain ⟨n, rfl⟩ := Nat.exists_eq_add_of_le h
  rw [Nat.add_sub_cancel_left, ← List.drop_drop, List.take_append_drop]

/-! ### The walk, block by block -/

section Walk

variable {m : Type → Type} [Monad m] [LawfulMonad m] {pick : Block → m String}

theorem replaceFromM_nil (line : Nat) (rest : List (List Char)) :
    replaceFromM pick line [] rest = pure rest.flatten := by
  induction rest generalizing line with
  | nil => rfl
  | cons piece rest ih => simp [replaceFromM, ih]

theorem replaceFromM_before (hstart : line + before.length = block.startLine)
    (hends : block.startLine < block.endLine) :
    replaceFromM pick line (block :: pending) (before ++ rest) =
      (before.flatten ++ ·) <$> replaceFromM pick block.startLine (block :: pending) rest := by
  induction before generalizing line with
  | nil =>
      obtain rfl : line = block.startLine := hstart
      simp
  | cons piece before ih =>
      rw [List.length_cons] at hstart
      rw [List.cons_append, replaceFromM, if_neg (by omega), if_neg (by omega), if_neg (by omega),
        ih (by omega)]
      simp [List.append_assoc]

omit [LawfulMonad m] in
theorem replaceFromM_inside (hline : block.startLine < line)
    (hends : line + inside.length = block.endLine + 1) (hne : inside ≠ []) :
    replaceFromM pick line (block :: pending) (inside ++ rest) =
      replaceFromM pick (block.endLine + 1) pending rest := by
  induction inside generalizing line with
  | nil => contradiction
  | cons piece inside ih =>
      rw [List.length_cons] at hends
      rw [List.cons_append, replaceFromM, if_neg (by omega)]
      by_cases hlast : inside = []
      · subst hlast
        obtain rfl : line = block.endLine := by simpa using hends
        rw [if_neg (by omega), if_pos rfl, List.nil_append]
      · have hmore := List.length_pos_iff.mpr hlast
        rw [if_pos (by omega), ih (by omega) (by omega) hlast]

/-- The lines of a block are walked over with one pick. -/
theorem replaceFromM_block (hlength : block.startLine + inside.length = block.endLine + 1)
    (hends : block.startLine < block.endLine) :
    replaceFromM pick block.startLine (block :: pending) (inside ++ rest) =
      pick block >>= fun picked =>
        (picked.toList ++ ·) <$> replaceFromM pick (block.endLine + 1) pending rest := by
  cases inside with
  | nil =>
      rw [List.length_nil] at hlength
      omega
  | cons piece inside =>
      rw [List.length_cons] at hlength
      have hne : inside ≠ [] := by
        rintro rfl
        rw [List.length_nil] at hlength
        omega
      rw [List.cons_append, replaceFromM, if_pos rfl,
        replaceFromM_inside (Nat.lt_succ_self _) (by omega) hne]
      simp

theorem replaceFromM_cons (hstart : last < block.startLine) (hends : block.startLine < block.endLine)
    (hlength : block.endLine ≤ pieces.length) :
    replaceFromM pick (last + 1) (block :: pending) (pieces.drop last) =
      pick block >>= fun picked => (between pieces last block.startLine ++ picked.toList ++ ·) <$>
        replaceFromM pick (block.endLine + 1) pending (pieces.drop block.endLine) := by
  have houter : last + 1 + ((pieces.take (block.startLine - 1)).drop last).length =
      block.startLine := by
    rw [List.length_drop, List.length_take]
    omega
  have hinner : block.startLine +
      ((pieces.take block.endLine).drop (block.startLine - 1)).length = block.endLine + 1 := by
    rw [List.length_drop, List.length_take]
    omega
  have hfirst : pieces.drop last =
      (pieces.take (block.startLine - 1)).drop last ++ pieces.drop (block.startLine - 1) :=
    (drop_take_append_drop (by omega)).symm
  have hsecond : pieces.drop (block.startLine - 1) =
      (pieces.take block.endLine).drop (block.startLine - 1) ++ pieces.drop block.endLine :=
    (drop_take_append_drop (by omega)).symm
  rw [hfirst, replaceFromM_before houter hends, hsecond, replaceFromM_block hinner hends]
  simp [between, List.append_assoc]

/-- The blocks are asked for one by one, and what is picked is filled in. -/
theorem replaceFromM_eq (hsorted : pending.Pairwise fun a b => a.endLine < b.startLine)
    (hlines : ∀ block ∈ pending, last < block.startLine ∧ block.startLine < block.endLine ∧
      block.endLine ≤ pieces.length) :
    replaceFromM pick (last + 1) pending (pieces.drop last) =
      filled pieces last <$> pending.mapM fun block => Prod.mk block <$> pick block := by
  induction pending generalizing last with
  | nil => simp [replaceFromM_nil, filled]
  | cons block pending ih =>
      obtain ⟨hbefore, hlater⟩ := List.pairwise_cons.mp hsorted
      obtain ⟨hstart, hends, hlength⟩ := hlines block List.mem_cons_self
      have hrest (other : Block) (hother : other ∈ pending) : block.endLine < other.startLine ∧
          other.startLine < other.endLine ∧ other.endLine ≤ pieces.length :=
        ⟨hbefore other hother, (hlines other (List.mem_cons_of_mem block hother)).2⟩
      rw [replaceFromM_cons hstart hends hlength, ih hlater hrest, List.mapM_cons]
      simp [filled]

end Walk

/-! ### Texts -/

theorem length_of_mem_ofText {text : String} (hblock : block ∈ ofText text) :
    block.endLine ≤ (Text.pieces text.toList).length := by
  by_contra hlong
  have hfinish := (mem_ofText_iff.mp hblock).ends.isFinish
  rw [markerAt_of_length_lt (Nat.not_le.mp hlong)] at hfinish
  cases hfinish

theorem startLine_pos {text : String} (hblock : block ∈ ofText text) : 0 < block.startLine := by
  have hstart := (mem_ofText_iff.mp hblock).isStart
  by_contra hzero
  rw [Nat.eq_zero_of_not_pos hzero] at hstart
  cases hstart

/-- What stands between two lines, the block after it and the rest make up the text from there on. -/
theorem between_append_source (hstart : last < block.startLine) (hends : block.startLine < block.endLine) :
    between pieces last block.startLine ++ source pieces block ++ (pieces.drop block.endLine).flatten =
      (pieces.drop last).flatten := by
  rw [source, between, between, Nat.add_sub_cancel, List.append_assoc, ← List.flatten_append,
    drop_take_append_drop (by omega), ← List.flatten_append, drop_take_append_drop (by omega)]

theorem filled_source (hsorted : pending.Pairwise fun a b => a.endLine < b.startLine)
    (hlines : ∀ block ∈ pending, last < block.startLine ∧ block.startLine < block.endLine)
    {pick : Block → String} (hpick : ∀ block ∈ pending, (pick block).toList = source pieces block) :
    filled pieces last (pending.map fun block => (block, pick block)) = (pieces.drop last).flatten := by
  induction pending generalizing last with
  | nil => rfl
  | cons block pending ih =>
      obtain ⟨hbefore, hlater⟩ := List.pairwise_cons.mp hsorted
      obtain ⟨hstart, hends⟩ := hlines block List.mem_cons_self
      have hrest (other : Block) (hother : other ∈ pending) :
          block.endLine < other.startLine ∧ other.startLine < other.endLine :=
        ⟨hbefore other hother, (hlines other (List.mem_cons_of_mem block hother)).2⟩
      rw [List.map_cons, filled, hpick block List.mem_cons_self,
        ih hlater hrest fun other hother => hpick other (List.mem_cons_of_mem block hother)]
      exact between_append_source hstart hends

/-- Replacing the blocks of a text picks once for each of them, in their order, and puts what was picked in
the place of the lines of the block, with all other lines as they were; so a text whose blocks are
replaced by themselves stays as it is. -/
theorem replaceAllM_fills (text : String) :
    (∀ {m : Type → Type} [Monad m] [LawfulMonad m] (pick : Block → m String),
      replaceAllM text (ofText text) pick =
        (fun picked => String.ofList (filled (Text.pieces text.toList) 0 picked)) <$>
          (ofText text).mapM fun block => Prod.mk block <$> pick block) ∧
    (∀ pick : Block → String, replaceAll text (ofText text) pick = String.ofList
      (filled (Text.pieces text.toList) 0 ((ofText text).map fun block => (block, pick block)))) ∧
    ∀ pick : Block → String,
      (∀ block ∈ ofText text, (pick block).toList = source (Text.pieces text.toList) block) →
        replaceAll text (ofText text) pick = text := by
  have hlines (block : Block) (hblock : block ∈ ofText text) : 0 < block.startLine ∧
      block.startLine < block.endLine ∧ block.endLine ≤ (Text.pieces text.toList).length :=
    ⟨startLine_pos hblock, startLine_lt_endLine hblock, length_of_mem_ofText hblock⟩
  have hfills {m : Type → Type} [Monad m] [LawfulMonad m] (pick : Block → m String) :
      replaceAllM text (ofText text) pick =
        (fun picked => String.ofList (filled (Text.pieces text.toList) 0 picked)) <$>
          (ofText text).mapM fun block => Prod.mk block <$> pick block := by
    have hwalk : replaceFromM pick 1 (ofText text) (Text.pieces text.toList) =
        filled (Text.pieces text.toList) 0 <$> (ofText text).mapM fun block => Prod.mk block <$> pick block :=
      replaceFromM_eq (pairwise_ofText text) hlines
    rw [replaceAllM, hwalk]
    simp
  have hpure (pick : Block → String) : replaceAll text (ofText text) pick = String.ofList
      (filled (Text.pieces text.toList) 0 ((ofText text).map fun block => (block, pick block))) := by
    rw [replaceAll, hfills]
    simp
  refine ⟨hfills, hpure, fun pick hpick => ?_⟩
  have hstart (block : Block) (hblock : block ∈ ofText text) :
      0 < block.startLine ∧ block.startLine < block.endLine :=
    ⟨(hlines block hblock).1, (hlines block hblock).2.1⟩
  rw [hpure, filled_source (pairwise_ofText text) hstart hpick, List.drop_zero, Text.flatten_pieces,
    String.ofList_toList]

/-- Two blocks, the second of which begins where the first ends and is the end of the text. -/
def adjoining : String := "a\n<<<<<<<\nb\n=======\nc\n>>>>>>>\n<<<<<<<\n=======\nd\n>>>>>>>"

/-- Picks our side of a block and notes the line at which the block begins. -/
def pickNoting (block : Block) : StateM (List Nat) String := do
  modify (· ++ [block.startLine])
  return block.ours

theorem replaceAllM_fills_adjoining :
    (replaceAllM adjoining (ofText adjoining) pickNoting).run [] = ("a\nb\n", [2, 7]) ∧
    replaceAll adjoining (ofText adjoining)
      (fun block => String.ofList (source (Text.pieces adjoining.toList) block)) = adjoining := by
  have hread : ofText adjoining = [⟨2, 4, 6, "b\n", "c\n", none⟩, ⟨7, 8, 10, "", "d\n", none⟩] := by cbv
  obtain ⟨hfills, -, hsame⟩ := replaceAllM_fills adjoining
  refine ⟨?_, hsame _ fun block _ => String.toList_ofList⟩
  rw [hfills, hread]
  rfl

end Reconcile.Block
