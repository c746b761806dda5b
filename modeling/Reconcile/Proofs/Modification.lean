import Mathlib
import Reconcile.Proofs.Classification

/-!
# Which declarations count as modified

The changes of two branches are told from the base one branch at a time, and merging the two lists only
drops keys that come up again. So a declaration is listed as modified as soon as one branch modifies it,
whether or not the other one does.
-/

namespace Reconcile.Changes

variable {base before after ours theirs : Outline} {key : DeclarationKey} {node : ChangedNode}
  {into nodes : List ChangedNode}

/-- A version modifies what a key stands for: both have it, and their first declarations of it do not say
the same. -/
def Modifies (before after : Outline) (key : DeclarationKey) : Prop :=
  ∃ d other, before.declarations.find? (·.key = key) = some d ∧
    after.declarations.find? (·.key = key) = some other ∧ other.fingerprint ≠ d.fingerprint

/-- Some node of a list has a key. -/
def Lists (nodes : List ChangedNode) (key : DeclarationKey) : Prop := ∃ node ∈ nodes, node.key = key

theorem lists_of_mem (h : node ∈ nodes) : Lists nodes node.key := ⟨node, h, rfl⟩

/-! ### One branch -/

theorem mem_modified_between_iff : node ∈ (between before after).modified ↔
    ∃ d other, before.declarations.find? (·.key = d.key) = some d ∧
      after.declarations.find? (·.key = d.key) = some other ∧ other.fingerprint ≠ d.fingerprint ∧
        .ofDeclaration other = node := by
  simp only [between, ofNodes, find?_keyed, List.mem_filterMap, mem_keyed_iff]
  constructor
  · rintro ⟨d, hd, hnode⟩
    cases hother : after.declarations.find? (·.key = d.key) with
    | none =>
        rw [hother] at hnode
        cases hnode
    | some other =>
        rw [hother] at hnode
        dsimp only at hnode
        split_ifs at hnode with hchanged
        exact ⟨d, other, hd, hother, hchanged, Option.some_inj.mp hnode⟩
  · rintro ⟨d, other, hd, hother, hchanged, rfl⟩
    refine ⟨d, hd, ?_⟩
    rw [hother]
    exact if_pos hchanged

theorem lists_modified_between_iff :
    Lists (between before after).modified key ↔ Modifies before after key := by
  constructor
  · rintro ⟨node, hnode, rfl⟩
    obtain ⟨d, other, hd, hother, hchanged, rfl⟩ := mem_modified_between_iff.mp hnode
    have hkey : other.key = d.key := by simpa using List.find?_some hother
    have hnodeKey : (ChangedNode.ofDeclaration other).key = d.key := hkey
    rw [hnodeKey]
    exact ⟨d, other, hd, hother, hchanged⟩
  · rintro ⟨d, other, hd, hother, hchanged⟩
    have hbefore : d.key = key := by simpa using List.find?_some hd
    have hafter : other.key = key := by simpa using List.find?_some hother
    subst hbefore
    exact ⟨.ofDeclaration other,
      mem_modified_between_iff.mpr ⟨d, other, hd, hother, hchanged, rfl⟩, hafter⟩

/-! ### Two branches -/

theorem lists_extend_iff : Lists (extend into nodes) key ↔ Lists into key ∨ Lists nodes key := by
  have hnone (l : List ChangedNode) : l.all (fun node => node.key ≠ key) ↔ ¬Lists l key := by
    simp [Lists]
  have hboth := all_extend (p := fun node => node.key ≠ key) (by simp +contextual) into nodes
  rw [← not_iff_not, not_or, ← hnone, ← hnone, ← hnone, hboth, Bool.and_eq_true]

theorem lists_modified_ofBranches_iff :
    Lists (ofBranches (some base) ours theirs).modified key ↔
      Modifies base ours key ∨ Modifies base theirs key := by
  rw [ofBranches, merge, lists_extend_iff, lists_modified_between_iff, lists_modified_between_iff]

/-- What is listed as modified is what some branch modifies, so both branches modify all of it just if
there is nothing that only one of them modifies. -/
theorem modifies_both_iff (base ours theirs : Outline) :
    (∀ key, Lists (ofBranches (some base) ours theirs).modified key ↔
      Modifies base ours key ∨ Modifies base theirs key) ∧
    ((∀ node ∈ (ofBranches (some base) ours theirs).modified,
        Modifies base ours node.key ∧ Modifies base theirs node.key) ↔
      ∀ key, Modifies base ours key ↔ Modifies base theirs key) := by
  refine ⟨fun key => lists_modified_ofBranches_iff, ?_⟩
  constructor
  · intro hboth key
    have hlisted (h : Modifies base ours key ∨ Modifies base theirs key) :
        Modifies base ours key ∧ Modifies base theirs key := by
      obtain ⟨node, hnode, rfl⟩ := lists_modified_ofBranches_iff.mpr h
      exact hboth node hnode
    exact ⟨fun h => (hlisted (.inl h)).2, fun h => (hlisted (.inr h)).1⟩
  · intro hsame node hnode
    obtain hours | htheirs := lists_modified_ofBranches_iff.mp (lists_of_mem hnode)
    · exact ⟨hours, (hsame node.key).mp hours⟩
    · exact ⟨(hsame node.key).mpr htheirs, htheirs⟩

/-- A file with two functions, by what they say. -/
def twoFunctions (first second : String) : Outline where
  language := .python
  declarations := [⟨.function, some "f", ⟨1, 2⟩, first⟩, ⟨.function, some "g", ⟨3, 4⟩, second⟩]

/-- One branch edits the first function and the other branch the second, but both functions are said to
be changed by both sides. -/
theorem separateEdits_count_as_both :
    (ofBranches (some (twoFunctions "f" "g")) (twoFunctions "h" "g") (twoFunctions "f" "h")).account =
      "0 added, 0 removed, 2 modified top-level declarations; both sides changed: " ++
        "FunctionDeclaration f, FunctionDeclaration g" ∧
    ¬∀ node ∈ (ofBranches (some (twoFunctions "f" "g")) (twoFunctions "h" "g")
        (twoFunctions "f" "h")).modified,
      Modifies (twoFunctions "f" "g") (twoFunctions "h" "g") node.key ∧
        Modifies (twoFunctions "f" "g") (twoFunctions "f" "h") node.key := by
  refine ⟨by cbv, fun hboth => ?_⟩
  have hfirst (first second : String) : (twoFunctions first second).declarations.find?
      (·.key = ⟨.function, "f"⟩) = some ⟨.function, some "f", ⟨1, 2⟩, first⟩ := rfl
  have hours : Modifies (twoFunctions "f" "g") (twoFunctions "h" "g") ⟨.function, "f"⟩ :=
    ⟨_, _, hfirst "f" "g", hfirst "h" "g", by decide⟩
  obtain ⟨node, hnode, hkey⟩ := lists_modified_ofBranches_iff.mpr (.inl hours)
  obtain ⟨d, other, hd, hother, hchanged⟩ := (hboth node hnode).2
  rw [hkey] at hd hother
  cases (hfirst "f" "g").symm.trans hd
  cases (hfirst "f" "h").symm.trans hother
  exact hchanged rfl

end Reconcile.Changes
