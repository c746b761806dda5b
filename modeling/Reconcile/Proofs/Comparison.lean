import Mathlib
import Reconcile.Proofs.Modification

/-!
# What comparing two versions lists

A key is in both versions, in the earlier one only or in the later one only, and what it stands for may
say the same in both. Each key is put down in the one list that goes by this, or in none; the lists
follow the order of the keys since the declarations were sorted by them beforehand. Comparing the other
way round finds the same keys, and the first two lists change places.
-/

namespace Reconcile

/-! ### The order of the keys -/

theorem DeclarationKind.rank_injective : Function.Injective rank := by
  intro kind kind' h
  cases kind <;> cases kind' <;> simp_all [rank]

namespace DeclarationKey

variable {a b c : DeclarationKey}

/-- A key among all of them, first by its kind and then by its name. -/
def place (key : DeclarationKey) : ℕ ×ₗ String := toLex (key.kind.rank, key.name)

theorem lt_iff : a.lt b ↔ a.place < b.place := by
  simp [lt, place, Prod.Lex.toLex_lt_toLex]

theorem place_injective : Function.Injective place := by
  rintro ⟨kind, name⟩ ⟨kind', name'⟩ h
  obtain ⟨hrank, hname⟩ := Prod.mk.inj (toLex.injective h)
  have hkind : kind = kind' := DeclarationKind.rank_injective hrank
  have hsame : name = name' := hname
  rw [hkind, hsame]

theorem not_lt_iff : b.lt a = false ↔ a.place ≤ b.place := by
  rw [← not_lt, ← lt_iff, Bool.not_eq_true]

end DeclarationKey

/-- What a key stands for in a file: the first declaration of it. -/
def Outline.first? (outline : Outline) (key : DeclarationKey) : Option Declaration :=
  outline.declarations.find? (·.key = key)

variable {outline before after : Outline} {key : DeclarationKey} {d other : Declaration}

theorem Outline.key_of_first? (h : outline.first? key = some d) : d.key = key := by
  simpa using List.find?_some h

theorem nodup_firstOfKey (ds : List Declaration) : ((firstOfKey ds).map Declaration.key).Nodup := by
  induction ds with
  | nil => exact List.nodup_nil
  | cons d rest ih =>
      rw [firstOfKey, List.map_cons, List.nodup_cons]
      refine ⟨by simp, ?_⟩
      exact ih.sublist (List.filter_sublist.map Declaration.key)

theorem pairwise_keyed (outline : Outline) : outline.keyed.Pairwise fun a b => a.key.lt b.key := by
  have htrans (a b c : Declaration) (hab : !b.key.lt a.key) (hbc : !c.key.lt b.key) :
      !c.key.lt a.key := by
    simp only [Bool.not_eq_true', DeclarationKey.not_lt_iff] at hab hbc ⊢
    exact hab.trans hbc
  have htotal (a b : Declaration) : (!b.key.lt a.key || !a.key.lt b.key) = true := by
    simp only [Bool.or_eq_true, Bool.not_eq_true', DeclarationKey.not_lt_iff]
    exact le_total _ _
  have hordered := List.pairwise_mergeSort htrans htotal (firstOfKey outline.declarations)
  have hnodup : (outline.keyed.map Declaration.key).Nodup :=
    (((List.mergeSort_perm _ _).map Declaration.key).nodup_iff).mpr (nodup_firstOfKey _)
  refine (hordered.and (List.pairwise_map.mp hnodup)).imp fun {a b} ⟨hle, hne⟩ => ?_
  rw [Bool.not_eq_true', DeclarationKey.not_lt_iff] at hle
  exact DeclarationKey.lt_iff.mpr (lt_of_le_of_ne hle (DeclarationKey.place_injective.ne hne))

namespace Changes

variable {node : ChangedNode} {nodes : List ChangedNode}

/-- Nodes in the order of their keys, with no key twice. -/
def Ascends (nodes : List ChangedNode) : Prop := (nodes.map ChangedNode.key).Pairwise fun a b => a.lt b

theorem Ascends.nodup (h : Ascends nodes) : (nodes.map ChangedNode.key).Nodup :=
  h.imp fun {a b} hlt heq => by
    rw [heq, DeclarationKey.lt_iff] at hlt
    exact lt_irrefl _ hlt

/-- Lists in the order of the keys are told apart by the keys alone. -/
theorem Ascends.eq_of_lists_iff {others : List ChangedNode} (h : Ascends nodes) (h' : Ascends others)
    (hsame : ∀ key, Lists nodes key ↔ Lists others key) :
    nodes.map ChangedNode.key = others.map ChangedNode.key := by
  have hplaces {l : List ChangedNode} (hl : Ascends l) :
      ((l.map ChangedNode.key).map DeclarationKey.place).Pairwise (· < ·) :=
    List.pairwise_map.mpr (hl.imp DeclarationKey.lt_iff.mp)
  refine List.map_injective_iff.mpr DeclarationKey.place_injective
    ((hplaces h).eq_of_mem_iff (hplaces h') fun place => ?_)
  have hmem (l : List ChangedNode) : place ∈ (l.map ChangedNode.key).map DeclarationKey.place ↔
      ∃ key, Lists l key ∧ key.place = place := by
    simp [Lists]
  simp only [hmem, hsame]

theorem ascends_filterMap {f : Declaration → Option ChangedNode}
    (hf : ∀ d node, f d = some node → node.key = d.key) (outline : Outline) :
    Ascends (outline.keyed.filterMap f) := by
  refine List.pairwise_map.mpr ((pairwise_keyed outline).filterMap f ?_)
  intro d d' hlt node hnode node' hnode'
  rwa [hf d node hnode, hf d' node' hnode']

/-! ### The three lists -/

theorem mem_added_between_iff : node ∈ (between before after).added ↔
    ∃ d, before.first? d.key = .none ∧ after.first? d.key = some d ∧ .ofDeclaration d = node := by
  simp only [between, ofNodes, find?_keyed, List.mem_map, List.mem_filter, mem_keyed_iff,
    Option.isNone_iff_eq_none, Outline.first?]
  exact exists_congr fun d => by rw [← and_assoc, and_comm (a := _ = Option.none)]

/-- What is removed on the way from one version to another is added on the way back. -/
theorem removed_between (before after : Outline) :
    (between before after).removed = (between after before).added := rfl

theorem ascends_added_between (before after : Outline) : Ascends (between before after).added := by
  refine List.pairwise_map.mpr (List.pairwise_map.mpr ?_)
  exact (pairwise_keyed after).filter _

theorem ascends_modified_between (before after : Outline) :
    Ascends (between before after).modified := by
  refine ascends_filterMap (fun d node hnode => ?_) before
  dsimp only at hnode
  split at hnode
  · rename_i other hother
    split_ifs at hnode
    obtain rfl := Option.some.inj hnode
    have hkey : other.key = d.key := by simpa using List.find?_some hother
    exact hkey
  · cases hnode

theorem lists_added_between_iff : Lists (between before after).added key ↔
    before.first? key = .none ∧ (after.first? key).isSome := by
  simp only [Lists, mem_added_between_iff]
  constructor
  · rintro ⟨node, ⟨d, hbefore, hafter, rfl⟩, rfl⟩
    exact ⟨hbefore, Option.isSome_of_mem hafter⟩
  · rintro ⟨hbefore, hafter⟩
    obtain ⟨d, hd⟩ := Option.isSome_iff_exists.mp hafter
    obtain rfl := Outline.key_of_first? hd
    exact ⟨.ofDeclaration d, ⟨d, hbefore, hd, rfl⟩, rfl⟩

theorem Modifies.symm (h : Modifies before after key) : Modifies after before key := by
  obtain ⟨d, other, hd, hother, hchanged⟩ := h
  exact ⟨other, d, hother, hd, hchanged.symm⟩

theorem keys_modified_between_comm (before after : Outline) :
    (between before after).modified.map ChangedNode.key =
      (between after before).modified.map ChangedNode.key := by
  refine (ascends_modified_between _ _).eq_of_lists_iff (ascends_modified_between _ _) fun key => ?_
  rw [lists_modified_between_iff, lists_modified_between_iff]
  exact ⟨Modifies.symm, Modifies.symm⟩

theorem isSome_first?_of_modifies (h : Modifies before after key) : (before.first? key).isSome := by
  obtain ⟨d, -, hd, -, -⟩ := h
  exact Option.isSome_of_mem hd

theorem nodup_keys_between (before after : Outline) :
    ((between before after).nodes.map ChangedNode.key).Nodup := by
  have hadded {key : DeclarationKey} {before after : Outline}
      (h : key ∈ (between before after).added.map ChangedNode.key) :
      before.first? key = .none ∧ (after.first? key).isSome :=
    lists_added_between_iff.mp (List.mem_map.mp h)
  have hmodified {key : DeclarationKey} {before after : Outline}
      (h : key ∈ (between before after).modified.map ChangedNode.key) : (before.first? key).isSome :=
    isSome_first?_of_modifies (lists_modified_between_iff.mp (List.mem_map.mp h))
  simp only [nodes, List.map_append, List.nodup_append']
  refine ⟨⟨(ascends_added_between _ _).nodup, (ascends_added_between after before).nodup, ?_⟩,
    (ascends_modified_between _ _).nodup, ?_⟩
  · -- A key that is removed stands for something in the earlier version.
    intro key hkey hremoved
    rw [removed_between] at hremoved
    simpa [(hadded hkey).1] using (hadded hremoved).2
  · intro key hkey hboth
    obtain hkey | hremoved := List.mem_append.mp hkey
    · simpa [(hadded hkey).1] using hmodified hboth
    · rw [removed_between] at hremoved
      rw [keys_modified_between_comm] at hboth
      simpa [(hadded hremoved).1] using hmodified hboth

/-! ### The comparison as a whole -/

/-- Changes that list what sets one version apart from another. -/
structure Compares (before after : Outline) (changes : Changes) : Prop where
  /-- What only the later version has. -/
  added : ∀ node, node ∈ changes.added ↔ ∃ d,
    before.first? d.key = .none ∧ after.first? d.key = some d ∧ .ofDeclaration d = node
  /-- What only the earlier version has. -/
  removed : ∀ node, node ∈ changes.removed ↔ ∃ d,
    after.first? d.key = .none ∧ before.first? d.key = some d ∧ .ofDeclaration d = node
  /-- What both have and does not say the same, as it is in the later version. -/
  modified : ∀ node, node ∈ changes.modified ↔ ∃ d other,
    before.first? d.key = some d ∧ after.first? d.key = some other ∧
      other.fingerprint ≠ d.fingerprint ∧ .ofDeclaration other = node
  ascends : Ascends changes.added ∧ Ascends changes.removed ∧ Ascends changes.modified
  /-- No key is in two of the lists, or in one of them twice. -/
  nodup : (changes.nodes.map ChangedNode.key).Nodup
  touchesImports : changes.touchesImports ↔ ∃ node ∈ changes.nodes, node.kind = .imported
  touchesExports : changes.touchesExports ↔ ∃ node ∈ changes.nodes, node.kind = .exported

theorem compares_between (before after : Outline) : Compares before after (between before after) where
  added _ := mem_added_between_iff
  removed _ := mem_added_between_iff
  modified _ := mem_modified_between_iff
  ascends := ⟨ascends_added_between _ _, ascends_added_between after before,
    ascends_modified_between _ _⟩
  nodup := nodup_keys_between before after
  touchesImports := List.any_eq_true.trans (by simp only [decide_eq_true_eq]; rfl)
  touchesExports := List.any_eq_true.trans (by simp only [decide_eq_true_eq]; rfl)

/-- Changes the other way round. -/
structure Reverses (changes reversed : Changes) : Prop where
  added : reversed.added = changes.removed
  removed : reversed.removed = changes.added
  modified : reversed.modified.map ChangedNode.key = changes.modified.map ChangedNode.key
  touchesImports : reversed.touchesImports = changes.touchesImports
  touchesExports : reversed.touchesExports = changes.touchesExports

theorem reverses_between (before after : Outline) :
    Reverses (between before after) (between after before) := by
  have hkeys : ((between after before).nodes.map ChangedNode.key).Perm
      ((between before after).nodes.map ChangedNode.key) := by
    simp only [nodes, List.map_append, removed_between, keys_modified_between_comm after before]
    exact List.perm_append_comm.append_right _
  have hkind (kind : DeclarationKind) : (between after before).nodes.any (·.kind = kind) =
      (between before after).nodes.any (·.kind = kind) := by
    have hsame := hkeys.any_eq (f := fun key => key.kind = kind)
    rwa [List.any_map, List.any_map] at hsame
  exact ⟨rfl, rfl, keys_modified_between_comm after before, hkind .imported, hkind .exported⟩

theorem between_self (outline : Outline) : between outline outline = none := by
  have hadded : (between outline outline).added = [] := by
    refine List.eq_nil_iff_forall_not_mem.mpr fun node hnode => ?_
    obtain ⟨d, hnone, hsome, -⟩ := mem_added_between_iff.mp hnode
    cases hnone.symm.trans hsome
  have hmodified : (between outline outline).modified = [] := by
    refine List.eq_nil_iff_forall_not_mem.mpr fun node hnode => ?_
    obtain ⟨d, other, hd, hother, hchanged, -⟩ := mem_modified_between_iff.mp hnode
    cases hd.symm.trans hother
    exact hchanged rfl
  calc between outline outline
      = ofNodes (between outline outline).added (between outline outline).removed
          (between outline outline).modified := rfl
    _ = none := by rw [removed_between, hadded, hmodified]; rfl

/-- Comparing two versions lists each key that they differ in once, by how they differ in it. A version
does not differ from itself, and from the later version back the same keys are listed. -/
theorem between_compares (before after : Outline) :
    Compares before after (between before after) ∧
    between before before = none ∧
    Reverses (between before after) (between after before) :=
  ⟨compares_between before after, between_self before, reverses_between before after⟩

end Changes

end Reconcile
