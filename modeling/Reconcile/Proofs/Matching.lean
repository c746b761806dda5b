import Mathlib
import Reconcile.Files.Disk
import Reconcile.Score.Factors

/-!
# Matching lines

Lines are matched one at a time, each with one that is left of its kind. However the lines of different
kinds take turns, of each kind as many are matched as there are in the list that has fewer of them. So the
share of matched lines is one just if the two sides have the same lines, in whatever order.
-/

namespace Reconcile

open Set (Icc)

namespace Tally

theorem left_put (tally : Tally) (line : List Char) (n : Nat) (other : List Char) :
    (tally.put line n).left other = if other = line then n else tally.left other := by
  unfold left put
  by_cases hsame : other = line
  · simp [hsame]
  · rw [List.lookup_cons, beq_false_of_ne hsame, if_neg hsame, lookup_filter_ne tally hsame]

theorem left_foldl (tally : Tally) (lines : List (List Char)) (line : List Char) :
    (lines.foldl (fun tally line => tally.put line (tally.left line + 1)) tally).left line =
      tally.left line + lines.count line := by
  induction lines generalizing tally with
  | nil => rfl
  | cons first rest ih =>
      rw [List.foldl_cons, ih, left_put, List.count_cons]
      by_cases hsame : line = first
      · simp only [hsame, if_true, beq_self_eq_true]
        omega
      · simp [hsame, Ne.symm hsame]

@[simp]
theorem left_ofLines (lines : List (List Char)) (line : List Char) :
    (ofLines lines).left line = lines.count line := by
  rw [ofLines, left_foldl]
  exact Nat.zero_add _

/-- Of each line as many are matched as there are left, if there are enough of them. -/
theorem matched_eq_sum (tally : Tally) (lines : List (List Char)) (among : Finset (List Char))
    (hamong : ∀ line ∈ lines, line ∈ among) :
    tally.matched lines = ∑ line ∈ among, min (lines.count line) (tally.left line) := by
  induction lines generalizing tally with
  | nil => simp [matched]
  | cons line rest ih =>
      obtain ⟨hline, hrest⟩ := List.forall_mem_cons.mp hamong
      -- Only the summand of the line that is come to can differ.
      have hothers (after : Tally) (hafter : ∀ other ≠ line, after.left other = tally.left other) :
          ∑ other ∈ among.erase line, min (rest.count other) (after.left other) =
            ∑ other ∈ among.erase line, min ((line :: rest).count other) (tally.left other) :=
        Finset.sum_congr rfl fun other hother => by
          have hne := Finset.ne_of_mem_erase hother
          rw [hafter other hne, List.count_cons_of_ne hne.symm]
      rw [matched, ← Finset.add_sum_erase among _ hline, List.count_cons_self]
      split
      · rename_i hnone
        rw [ih tally hrest, ← Finset.add_sum_erase among _ hline, hothers tally fun _ _ => rfl, hnone,
          Nat.min_zero, Nat.min_zero]
      · rename_i n hleft
        have hafter (other : List Char) (hne : other ≠ line) :
            (tally.put line n).left other = tally.left other := by rw [left_put, if_neg hne]
        rw [ih _ hrest, ← Finset.add_sum_erase among _ hline, hothers _ hafter, left_put, if_pos rfl,
          hleft, Nat.add_min_add_right, Nat.add_right_comm]

end Tally

theorem matchCount_eq_sum (lines others : List (List Char)) : matchCount lines others =
    ∑ line ∈ (lines ++ others).toFinset, min (lines.count line) (others.count line) := by
  have hamong (line : List Char) (hline : line ∈ lines) : line ∈ (lines ++ others).toFinset :=
    List.mem_toFinset.mpr (List.mem_append_left others hline)
  simp only [matchCount, Tally.matched_eq_sum _ lines _ hamong, Tally.left_ofLines]

/-- The lines that are matched are those that both lists have, each as often as in both. -/
theorem matchCount_eq_card_inter (lines others : List (List Char)) :
    matchCount lines others = ((lines : Multiset (List Char)) ∩ others).card := by
  have hamong (line : List Char) (hline : line ∈ (lines : Multiset (List Char)) ∩ others) :
      line ∈ (lines ++ others).toFinset :=
    List.mem_toFinset.mpr (List.mem_append_left others (Multiset.mem_inter.mp hline).1)
  rw [matchCount_eq_sum, ← Multiset.sum_count_eq_card hamong]
  refine Finset.sum_congr rfl fun line _ => ?_
  rw [Multiset.count_inter, Multiset.coe_count, Multiset.coe_count]
  congr!

theorem matchCount_comm (lines others : List (List Char)) :
    matchCount lines others = matchCount others lines := by
  rw [matchCount_eq_card_inter, matchCount_eq_card_inter, Multiset.inter_comm]

theorem matchCount_le (lines others : List (List Char)) : matchCount lines others ≤ lines.length := by
  rw [matchCount_eq_card_inter]
  exact Multiset.card_le_card Multiset.inter_le_left

/-- All lines of the longer list are matched just if the lists have the same lines. -/
theorem matchCount_eq_max_iff {lines others : List (List Char)} :
    matchCount lines others = max lines.length others.length ↔ lines.Perm others := by
  constructor
  · intro hall
    have hlines : matchCount lines others = (lines : Multiset (List Char)).card :=
      (matchCount_le lines others).antisymm (hall ▸ le_max_left _ _)
    have hothers : matchCount lines others = (others : Multiset (List Char)).card :=
      (matchCount_comm lines others ▸ matchCount_le others lines).antisymm (hall ▸ le_max_right _ _)
    rw [matchCount_eq_card_inter] at hlines hothers
    refine Multiset.coe_eq_coe.mp ?_
    calc (lines : Multiset (List Char))
        = ↑lines ∩ ↑others := (Multiset.eq_of_le_of_card_le Multiset.inter_le_left hlines.ge).symm
      _ = ↑others := Multiset.eq_of_le_of_card_le Multiset.inter_le_right hothers.ge
  · intro hperm
    rw [matchCount_eq_card_inter, Multiset.coe_eq_coe.mpr hperm, ← Multiset.inf_eq_inter, inf_idem,
      Multiset.coe_card, hperm.length_eq, max_self]

/-! ### How alike the sides of a block are -/

namespace Block

def ourLines (block : Block) : List (List Char) := Text.significantLines block.ours.toList

def theirLines (block : Block) : List (List Char) := Text.significantLines block.theirs.toList

/-- The lines of the longer side. -/
def longest (block : Block) : Nat := max block.ourLines.length block.theirLines.length

theorem matchCount_le_longest (block : Block) :
    matchCount block.ourLines block.theirLines ≤ block.longest :=
  (matchCount_le _ _).trans (le_max_left _ _)

theorem similarity_eq (block : Block) : (block.similarity : Rat) =
    if block.longest = 0 then 1
    else (matchCount block.ourLines block.theirLines : Rat) / (block.longest : Rat) := by
  have hone : (1 : Rat) = 1.0 := by norm_num
  rw [hone]
  rfl

theorem similarity_mem (block : Block) : (block.similarity : Rat) ∈ Icc 0 1 := by
  rw [similarity_eq]
  split_ifs
  · norm_num
  · refine ⟨by positivity, div_le_one_of_le₀ ?_ (by positivity)⟩
    exact_mod_cast block.matchCount_le_longest

theorem similarity_eq_one_iff {block : Block} :
    (block.similarity : Rat) = 1 ↔ block.ourLines.Perm block.theirLines := by
  rw [similarity_eq, ← matchCount_eq_max_iff, ← longest]
  split_ifs with hlongest
  · have hmatched := block.matchCount_le_longest
    rw [hlongest, Nat.le_zero] at hmatched
    simp only [hmatched, hlongest]
  · rw [div_eq_one_iff_eq (Nat.cast_ne_zero.mpr hlongest), Nat.cast_inj]

end Block

/-! ### The mean over blocks -/

theorem similarity_eq_mean {blocks : List Block} (h : blocks ≠ []) : (similarity blocks : Rat) =
    (blocks.map (Block.similarity : Block → Rat)).sum / blocks.length := by
  rw [similarity, if_neg (by simpa using h), List.sum_eq_foldl]
  norm_num

theorem similarity_nil : (similarity [] : Rat) = 1 := by
  rw [similarity, if_pos List.isEmpty_nil]
  norm_num

theorem sum_similarity_le (blocks : List Block) :
    (blocks.map (Block.similarity : Block → Rat)).sum ≤ blocks.length := by
  induction blocks with
  | nil => simp
  | cons block rest ih =>
      rw [List.map_cons, List.sum_cons, List.length_cons, Nat.cast_succ, add_comm]
      exact add_le_add ih block.similarity_mem.2

theorem similarity_mem (blocks : List Block) : (similarity blocks : Rat) ∈ Icc 0 1 := by
  by_cases hblocks : blocks = []
  · rw [hblocks, similarity_nil]
    norm_num
  · rw [similarity_eq_mean hblocks]
    have hnonneg : 0 ≤ (blocks.map (Block.similarity : Block → Rat)).sum := by
      refine List.sum_nonneg fun share hshare => ?_
      obtain ⟨block, -, rfl⟩ := List.mem_map.mp hshare
      exact block.similarity_mem.1
    exact ⟨by positivity, div_le_one_of_le₀ (sum_similarity_le blocks) (by positivity)⟩

theorem sum_similarity_eq_iff {blocks : List Block} :
    (blocks.map (Block.similarity : Block → Rat)).sum = blocks.length ↔
      ∀ block ∈ blocks, (block.similarity : Rat) = 1 := by
  induction blocks with
  | nil => simp
  | cons block rest ih =>
      have hblock := block.similarity_mem.2
      have hrest := sum_similarity_le rest
      rw [List.map_cons, List.sum_cons, List.length_cons, Nat.cast_succ, List.forall_mem_cons, ← ih]
      constructor
      · intro hsum
        constructor <;> linarith
      · rintro ⟨hone, hsum⟩
        rw [hone, hsum, add_comm]

/-- A mean of shares is one just if every share is. -/
theorem similarity_eq_one_iff {blocks : List Block} : (similarity blocks : Rat) = 1 ↔
    ∀ block ∈ blocks, block.ourLines.Perm block.theirLines := by
  simp only [← Block.similarity_eq_one_iff, ← sum_similarity_eq_iff]
  by_cases hblocks : blocks = []
  · simp [hblocks, similarity_nil]
  · have hlength : (blocks.length : Rat) ≠ 0 := by simpa using hblocks
    rw [similarity_eq_mean hblocks, div_eq_one_iff_eq hlength]

end Reconcile
