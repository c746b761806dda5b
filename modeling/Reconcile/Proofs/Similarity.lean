import Mathlib
import Reconcile.Proofs.Exchange
import Reconcile.Proofs.RoundTrip

/-!
# How alike the sides of a conflict are

One side's lines are looked for among the other's, but what is found of each line is the smaller of the
two counts of it, which is the same from either side. Nothing is said about the order of the lines: sides
are wholly alike if they have the same lines equally often, and then they need not differ in layout only.
-/

namespace Reconcile

open Set (Icc)

theorem similarity_modify_exchanged {ν : Type} [Scalar ν] (blocks : List Block) (i : Nat) :
    (similarity (blocks.modify i Block.exchanged) : ν) = similarity blocks := by
  have hshares : (blocks.modify i Block.exchanged).map (Block.similarity : Block → ν) =
      blocks.map Block.similarity := by
    refine List.ext_getElem? fun j => ?_
    rw [List.getElem?_map, List.getElem?_map, List.getElem?_modify]
    cases blocks[j]? <;> by_cases hij : i = j <;> simp [hij]
  have hempty : (blocks.modify i Block.exchanged).isEmpty = blocks.isEmpty := by
    rw [Bool.eq_iff_iff, List.isEmpty_iff, List.isEmpty_iff, List.modify_eq_nil_iff]
  simp only [similarity, hshares, hempty, List.length_modify]

theorem ConflictKind.isLayoutOnly_of_trivial {blocks : List Block} {changes : Option Changes}
    {usesOutlines : Bool} (h : classify blocks changes usesOutlines = .trivial) :
    ∀ block ∈ blocks, block.isLayoutOnly := by
  unfold classify at h
  split_ifs at h with hlayout
  exact List.all_eq_true.mp hlayout

/-- The matched lines of a block are those that its sides have in common, each as often as in both. The
mean of their shares lies in the unit interval, whichever side of a block is called ours, and is one just
if in every block the sides have the same lines, as they do where a conflict is trivial. -/
theorem similarity_is_overlap (blocks : List Block) :
    (∀ block : Block, matchCount block.ourLines block.theirLines =
      ∑ line ∈ (block.ourLines ++ block.theirLines).toFinset,
        min (block.ourLines.count line) (block.theirLines.count line)) ∧
    (∀ block : Block, (block.similarity : Rat) =
      if block.longest = 0 then 1
      else (matchCount block.ourLines block.theirLines : Rat) / (block.longest : Rat)) ∧
    (similarity blocks : Rat) ∈ Icc 0 1 ∧
    (∀ i, (similarity (blocks.modify i Block.exchanged) : Rat) = similarity blocks) ∧
    ((similarity blocks : Rat) = 1 ↔ ∀ block ∈ blocks, block.ourLines.Perm block.theirLines) ∧
    ∀ changes usesOutlines, ConflictKind.classify blocks changes usesOutlines = .trivial →
      (similarity blocks : Rat) = 1 := by
  refine ⟨fun block => matchCount_eq_sum _ _, Block.similarity_eq, similarity_mem blocks,
    similarity_modify_exchanged blocks, similarity_eq_one_iff, ?_⟩
  intro changes usesOutlines htrivial
  exact similarity_of_isLayoutOnly (ConflictKind.isLayoutOnly_of_trivial htrivial)

/-- Of a line that our side has twice and theirs three times two are matched, of four. -/
example : (similarity [⟨1, 4, 9, "a\na\n", "a\nb\na\na\n", none⟩] : Rat) = 2 / 4 := by decide +kernel

/-- Lines that were only swapped are wholly alike, though the conflict is not trivial. -/
example : (similarity [⟨1, 4, 7, "a\nb\n", "b\na\n", none⟩] : Rat) = 1 := by decide +kernel

def reindented : Block := ⟨1, 3, 5, "a (b)\n", "  a(b)\n\n", none⟩

theorem similarity_is_overlap_reindented :
    ConflictKind.classify [reindented] none true = .trivial ∧ (similarity [reindented] : Rat) = 1 := by
  have htrivial : ConflictKind.classify [reindented] none true = .trivial := by cbv
  obtain ⟨-, -, -, -, -, hone⟩ := similarity_is_overlap [reindented]
  exact ⟨htrivial, hone none true htrivial⟩

end Reconcile
