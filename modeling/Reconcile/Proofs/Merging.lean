import Mathlib
import Reconcile.Proofs.Exchange
import Reconcile.Proofs.Modification

/-!
# Merging changes

Nodes are taken over one at a time, and each is compared with all that are there by then, those taken
over before it included. A node is dropped for one of its key that stays, so dropping it early makes no
difference to what is dropped later: any number of branches may be merged in groups, as long as their
order is kept. Exchanging two branches exchanges which node of a key is listed, but no key.
-/

namespace Reconcile.Changes

variable {into nodes : List ChangedNode} {key : DeclarationKey} {node : ChangedNode}

/-! ### Extending a list of nodes -/

theorem extend_of_lists (h : Lists into node.key) (rest : List ChangedNode) :
    extend into (node :: rest) = extend into rest := by
  obtain ⟨other, hother, hkey⟩ := h
  exact if_pos (List.any_eq_true.mpr ⟨other, hother, decide_eq_true hkey⟩)

theorem extend_append (into first second : List ChangedNode) :
    extend into (first ++ second) = extend (extend into first) second := by
  fun_induction extend into first with
  | case1 into => rfl
  | case2 into node rest hthere ih =>
      rw [List.cons_append, extend, if_pos hthere]
      exact ih
  | case3 into node rest hnew ih =>
      rw [List.cons_append, extend, if_neg hnew]
      exact ih

theorem extend_assoc (first second third : List ChangedNode) :
    extend (extend first second) third = extend first (extend second third) := by
  fun_induction extend second third with
  | case1 second => rfl
  | case2 second node rest hthere ih =>
      -- A node that the second list drops is dropped from the joined list as well.
      have hlisted : Lists second node.key := by simpa [Lists] using hthere
      rw [← ih, extend_of_lists (lists_extend_iff.mpr (.inr hlisted))]
  | case3 second node rest _ ih =>
      calc extend (extend first second) (node :: rest)
          = extend (extend (extend first second) [node]) rest := extend_append _ [node] rest
        _ = extend (extend first (second ++ [node])) rest := by rw [extend_append]
        _ = extend first (extend (second ++ [node]) rest) := ih

theorem exists_extend_eq_append (into nodes : List ChangedNode) :
    ∃ fresh, fresh.Sublist nodes ∧ extend into nodes = into ++ fresh := by
  fun_induction extend into nodes with
  | case1 into => exact ⟨[], List.nil_sublist [], (List.append_nil into).symm⟩
  | case2 into node rest _ ih =>
      obtain ⟨fresh, hfresh, hextend⟩ := ih
      exact ⟨fresh, hfresh.cons node, hextend⟩
  | case3 into node rest _ ih =>
      obtain ⟨fresh, hfresh, hextend⟩ := ih
      exact ⟨node :: fresh, hfresh.cons_cons node, by simp [hextend]⟩

/-- How many nodes of a list have a key. -/
def countKey (key : DeclarationKey) (nodes : List ChangedNode) : Nat :=
  nodes.countP (·.key = key)

theorem countKey_eq_zero_iff : countKey key nodes = 0 ↔ ¬Lists nodes key := by
  simp [countKey, Lists, List.countP_eq_zero]

theorem countKey_extend_le (key : DeclarationKey) (into nodes : List ChangedNode) :
    countKey key (extend into nodes) ≤ max 1 (countKey key into) := by
  fun_induction extend into nodes with
  | case1 into => exact le_max_right _ _
  | case2 into node rest _ ih => exact ih
  | case3 into node rest hnew ih =>
      refine ih.trans (max_le (le_max_left _ _) ?_)
      rw [countKey, List.countP_append, ← countKey]
      by_cases hkey : node.key = key
      · have hnone : countKey key into = 0 := countKey_eq_zero_iff.mpr (by simpa [Lists, hkey] using hnew)
        simp [hnone, hkey]
      · simp [hkey]

/-- A list with another joined to it: the keys of both, the first list as it was, and of the second one
what has a key of its own. -/
structure Unites (into nodes joined : List ChangedNode) : Prop where
  lists_iff : ∀ key, Lists joined key ↔ Lists into key ∨ Lists nodes key
  keeps : ∃ fresh, fresh.Sublist nodes ∧ joined = into ++ fresh
  /-- No key comes up twice, unless it did so in the first list. -/
  countKey_le : ∀ key, countKey key joined ≤ max 1 (countKey key into)

theorem unites_extend (into nodes : List ChangedNode) : Unites into nodes (extend into nodes) where
  lists_iff _ := lists_extend_iff
  keeps := exists_extend_eq_append into nodes
  countKey_le key := countKey_extend_le key into nodes

/-! ### Merging -/

/-- Changes that list the same keys, and touch imports and exports alike. -/
structure SameKeys (a b : Changes) : Prop where
  added : ∀ key, Lists a.added key ↔ Lists b.added key
  removed : ∀ key, Lists a.removed key ↔ Lists b.removed key
  modified : ∀ key, Lists a.modified key ↔ Lists b.modified key
  touchesImports : a.touchesImports = b.touchesImports
  touchesExports : a.touchesExports = b.touchesExports

theorem merge_assoc (a b c : Changes) : (a.merge b).merge c = a.merge (b.merge c) := by
  simp only [merge, extend_assoc, Bool.or_assoc]

theorem sameKeys_merge (a b : Changes) : (a.merge b).SameKeys (b.merge a) := by
  have hlists (into nodes : List ChangedNode) (key : DeclarationKey) :
      Lists (extend into nodes) key ↔ Lists (extend nodes into) key := by
    rw [lists_extend_iff, lists_extend_iff, or_comm]
  exact ⟨hlists _ _, hlists _ _, hlists _ _, Bool.or_comm _ _, Bool.or_comm _ _⟩

/-- Merging is associative, and commutative up to the nodes that stand for the keys. It lists what either
part lists, no key more often than the first part does, and has the properties that both parts have. -/
theorem merge_unites (a b c : Changes) :
    (a.merge b).merge c = a.merge (b.merge c) ∧
    Unites a.added b.added (a.merge b).added ∧
    Unites a.removed b.removed (a.merge b).removed ∧
    Unites a.modified b.modified (a.merge b).modified ∧
    (a.merge b).SameKeys (b.merge a) ∧
    ((a.merge b).isEmpty ↔ a.isEmpty ∧ b.isEmpty) ∧
    ((a.merge b).isAdditive ↔ a.isAdditive ∧ b.isAdditive) := by
  refine ⟨merge_assoc a b c, unites_extend _ _, unites_extend _ _, unites_extend _ _,
    sameKeys_merge a b, ?_, ?_⟩
  · rw [isEmpty_merge, Bool.and_eq_true]
  · rw [isAdditive_merge, Bool.and_eq_true]

end Reconcile.Changes
