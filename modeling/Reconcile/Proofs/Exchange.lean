import Mathlib
import Reconcile.Proofs.Classification
import Reconcile.Proofs.Matching

/-!
# Exchanging the branches

Two steps treat the branches of a conflict differently: of nodes with one key the first branch's is
listed, and it is our lines that are looked for among theirs. But whether any node is listed does not
depend on the order, and the matched lines number as many as the two sides have in common. So the
conflict is of the same kind, as severe and as easy whichever branch is called ours.
-/

namespace Reconcile

/-! ### Blocks -/

namespace Block

def exchanged (block : Block) : Block := { block with ours := block.theirs, theirs := block.ours }

@[simp]
theorem isLayoutOnly_exchanged (block : Block) : block.exchanged.isLayoutOnly = block.isLayoutOnly :=
  decide_eq_decide.mpr eq_comm

@[simp]
theorem hasBothSides_exchanged (block : Block) : block.exchanged.hasBothSides = block.hasBothSides :=
  Bool.and_comm _ _

@[simp]
theorem changedLines_exchanged (block : Block) : block.exchanged.changedLines = block.changedLines :=
  Nat.add_comm _ _

variable {ν : Type} [Scalar ν]

@[simp]
theorem similarity_exchanged (block : Block) : (block.exchanged.similarity : ν) = block.similarity := by
  have hmatched := matchCount_comm (Text.significantLines block.theirs.toList)
    (Text.significantLines block.ours.toList)
  have hlongest := max_comm (Text.significantLines block.theirs.toList).length
    (Text.significantLines block.ours.toList).length
  simp only [similarity, exchanged, hmatched, hlongest]

end Block

theorem similarity_map_exchanged {ν : Type} [Scalar ν] (blocks : List Block) :
    (similarity (blocks.map Block.exchanged) : ν) = similarity blocks := by
  have hshares : (blocks.map Block.exchanged).map (Block.similarity : Block → ν) =
      blocks.map Block.similarity := by
    rw [List.map_map]
    exact List.map_congr_left fun block _ => block.similarity_exchanged
  simp only [similarity, hshares, List.isEmpty_map, List.length_map]

/-! ### Changes -/

namespace Changes

/-- Changes of which the same holds as far as the kind of a conflict and its score go by them. -/
structure Alike (a b : Changes) : Prop where
  isEmpty : a.isEmpty = b.isEmpty
  isAdditive : a.isAdditive = b.isAdditive
  modified : a.modified.isEmpty = b.modified.isEmpty
  touchesImports : a.touchesImports = b.touchesImports
  touchesExports : a.touchesExports = b.touchesExports

theorem isEmpty_merge (a b : Changes) : (a.merge b).isEmpty = (a.isEmpty && b.isEmpty) := by
  simp only [isEmpty, merge, isEmpty_extend]
  ac_rfl

theorem alike_merge (a b : Changes) : (a.merge b).Alike (b.merge a) where
  isEmpty := by rw [isEmpty_merge, isEmpty_merge, Bool.and_comm]
  isAdditive := by rw [isAdditive_merge, isAdditive_merge, Bool.and_comm]
  modified := by simp only [merge, isEmpty_extend, Bool.and_comm]
  touchesImports := Bool.or_comm _ _
  touchesExports := Bool.or_comm _ _

end Changes

/-! ### Conflicts -/

theorem ConflictKind.classify_of_alike {a b : Changes} (h : a.Alike b) (blocks : List Block)
    (usesOutlines : Bool) :
    classify (blocks.map Block.exchanged) (some b) usesOutlines = classify blocks (some a) usesOutlines := by
  simp only [classify, List.all_map, Function.comp_def, Block.isLayoutOnly_exchanged,
    Block.hasBothSides_exchanged, Option.any_some, h.isEmpty, h.isAdditive, h.modified]

namespace Conflict

def exchanged (conflict : Conflict) : Conflict :=
  { conflict with
    blocks := conflict.blocks.map Block.exchanged
    ours := conflict.theirs
    theirs := conflict.ours }

theorem changedLines_exchanged (conflict : Conflict) :
    conflict.exchanged.changedLines = conflict.changedLines := by
  simp only [changedLines, exchanged, List.map_map, Function.comp_def, Block.changedLines_exchanged]

end Conflict

namespace Detector

variable {κ ν : Type} [Scalar ν]

/-- A conflict with its branches exchanged is of the same kind, as severe and as easy to resolve, and its
sides are as similar. -/
theorem classify_exchanged (detector : Detector κ) (conflict : Conflict) (base ours theirs : Outline)
    (usesOutlines : Bool) :
    let found := detector.classify conflict (some (.ofBranches (some base) ours theirs)) usesOutlines
    let exchanged := detector.classify conflict.exchanged (some (.ofBranches (some base) theirs ours))
      usesOutlines
    exchanged.kind = found.kind ∧ exchanged.severity = found.severity ∧
      (exchanged.ease : ν) = found.ease ∧
        (similarity exchanged.blocks : ν) = similarity found.blocks := by
  intro found exchanged
  have halike := Changes.alike_merge (.between base ours) (.between base theirs)
  have hkind : exchanged.kind = found.kind :=
    ConflictKind.classify_of_alike halike conflict.blocks usesOutlines
  have hlines : exchanged.changedLines = found.changedLines := conflict.changedLines_exchanged
  have hseverity : exchanged.severity = found.severity := by
    change Severity.of exchanged.kind exchanged.changedLines _ = Severity.of found.kind found.changedLines _
    rw [hkind, hlines]
  have hease : (exchanged.ease : ν) = found.ease := by
    have htouches : (exchanged.changes?.any fun c => c.touchesImports || c.touchesExports) =
        found.changes?.any fun c => c.touchesImports || c.touchesExports := by
      exact congrArg₂ or halike.touchesImports.symm halike.touchesExports.symm
    unfold Conflict.ease
    rw [hkind, hlines, htouches]
  exact ⟨hkind, hseverity, hease, similarity_map_exchanged conflict.blocks⟩

end Detector

end Reconcile
