import Mathlib
import Reconcile.Conflict.Detection

/-!
# What a structural conflict keeps

Outlines are compared by the first declaration of each key. A conflict is structural just if both
branches keep every such declaration of the base as it was, imports and exports apart. What a later
declaration of the same key says is not compared, so it may have changed.
-/

namespace Reconcile

/-! ### The first declaration of a key -/

theorem mem_firstOfKey_iff {ds : List Declaration} {d : Declaration} :
    d ∈ firstOfKey ds ↔ ds.find? (·.key = d.key) = some d := by
  induction ds with
  | nil => simp [firstOfKey]
  | cons head rest ih =>
      rw [firstOfKey, List.mem_cons, List.mem_filter, ih, List.find?_cons]
      by_cases hkey : head.key = d.key
      · simp [hkey, eq_comm]
      · have hne : d ≠ head := by
          rintro rfl
          exact hkey rfl
        simp [hkey, hne, Ne.symm hkey]

theorem mem_keyed_iff {outline : Outline} {d : Declaration} :
    d ∈ outline.keyed ↔ outline.declarations.find? (·.key = d.key) = some d := by
  rw [Outline.keyed, List.mem_mergeSort, mem_firstOfKey_iff]

theorem find?_keyed (outline : Outline) (key : DeclarationKey) :
    outline.keyed.find? (·.key = key) = outline.declarations.find? (·.key = key) := by
  cases hfirst : outline.declarations.find? (·.key = key) with
  | none =>
      rw [List.find?_eq_none] at hfirst ⊢
      intro d hd
      exact hfirst d (List.mem_of_find?_eq_some (mem_keyed_iff.mp hd))
  | some d =>
      have hkey : d.key = key := by simpa using List.find?_some hfirst
      have hkeyed : d ∈ outline.keyed := mem_keyed_iff.mpr (hkey ▸ hfirst)
      cases hfound : outline.keyed.find? (·.key = key) with
      | none =>
          rw [List.find?_eq_none] at hfound
          exact absurd hkey (by simpa using hfound d hkeyed)
      | some other =>
          have hother : other.key = key := by simpa using List.find?_some hfound
          have hsame := mem_keyed_iff.mp (List.mem_of_find?_eq_some hfound)
          rw [hother, hfirst] at hsame
          exact hsame.symm

/-! ### Additive changes -/

namespace Declaration

def isInterface (d : Declaration) : Bool := d.kind = .imported || d.kind = .exported

/-- A version keeps a declaration: its first declaration of that key says the same, or it has none and
the declaration is an import or an export. -/
def KeptIn (d : Declaration) (outline : Outline) : Prop :=
  match outline.declarations.find? (·.key = d.key) with
  | some other => other.fingerprint = d.fingerprint
  | none => d.isInterface

end Declaration

@[simp]
theorem ChangedNode.isInterface_ofDeclaration (d : Declaration) :
    (ofDeclaration d).isInterface = d.isInterface := rfl

namespace Changes

theorem isAdditive_between_iff (before after : Outline) :
    (between before after).isAdditive ↔
      ∀ d ∈ firstOfKey before.declarations, d.KeptIn after := by
  have hold (d : Declaration) : d ∈ before.keyed ↔ d ∈ firstOfKey before.declarations := by
    rw [mem_keyed_iff, mem_firstOfKey_iff]
  simp only [isAdditive, between, ofNodes, find?_keyed, Bool.and_eq_true, List.isEmpty_iff,
    List.filterMap_eq_nil_iff, List.all_map, List.all_filter, List.all_eq_true, hold]
  rw [← forall₂_and]
  refine forall₂_congr fun d _ => ?_
  unfold Declaration.KeptIn
  cases after.declarations.find? (·.key = d.key) with
  | none => simp
  | some other => simp

/-- What is told from the key alone holds of a merged list if it holds of both its parts. -/
theorem all_extend {p : ChangedNode → Bool} (hp : ∀ a b : ChangedNode, a.key = b.key → p a = p b)
    (into nodes : List ChangedNode) : (extend into nodes).all p = (into.all p && nodes.all p) := by
  fun_induction extend into nodes with
  | case1 into => simp
  | case2 into node rest hthere ih =>
      obtain ⟨other, hother, hkey⟩ := List.any_eq_true.mp hthere
      rw [ih, List.all_cons, ← hp other node (by simpa using hkey)]
      cases hall : into.all p with
      | true => simp [List.all_eq_true.mp hall other hother]
      | false => simp
  | case3 into node rest _ ih => simp [ih, Bool.and_assoc]

theorem isEmpty_extend (into nodes : List ChangedNode) :
    (extend into nodes).isEmpty = (into.isEmpty && nodes.isEmpty) := by
  have hall (l : List ChangedNode) : l.all (fun _ => false) = l.isEmpty := by
    cases l <;> rfl
  rw [← hall, all_extend (fun _ _ _ => rfl), hall, hall]

theorem isAdditive_merge (a b : Changes) :
    (a.merge b).isAdditive = (a.isAdditive && b.isAdditive) := by
  have hkind (x y : ChangedNode) (hkey : x.key = y.key) : x.isInterface = y.isInterface := by
    have hsame : x.kind = y.kind := congrArg DeclarationKey.kind hkey
    simp [ChangedNode.isInterface, hsame]
  simp only [isAdditive, merge, isEmpty_extend, all_extend hkind]
  ac_rfl

end Changes

theorem ConflictKind.classify_eq_structural_iff {blocks : List Block} {changes : Changes} :
    classify blocks (some changes) true = .structural ↔
      blocks.all Block.isLayoutOnly = false ∧ changes.isEmpty = false ∧ changes.isAdditive := by
  unfold classify
  split_ifs <;> simp_all

/-- A conflict is structural just if the sides differ beyond layout, something changed, and both
branches keep every declaration of the base that is the first of its key. -/
theorem ConflictKind.classify_ofBranches_eq_structural_iff {blocks : List Block}
    {base ours theirs : Outline} :
    classify blocks (some (.ofBranches (some base) ours theirs)) true = .structural ↔
      blocks.all Block.isLayoutOnly = false ∧
      (Changes.ofBranches (some base) ours theirs).isEmpty = false ∧
      ∀ d ∈ firstOfKey base.declarations, d.KeptIn ours ∧ d.KeptIn theirs := by
  rw [classify_eq_structural_iff, Changes.ofBranches, Changes.isAdditive_merge, Bool.and_eq_true,
    Changes.isAdditive_between_iff, Changes.isAdditive_between_iff, ← forall₂_and]

/-! ### Which declarations stay -/

namespace Declaration

variable {d other : Declaration} {outline : Outline}

/-- A version has a declaration of the same kind and name that says the same. -/
def OccursIn (d : Declaration) (outline : Outline) : Prop :=
  ∃ other ∈ outline.declarations,
    other.kind = d.kind ∧ other.name = d.name ∧ other.fingerprint = d.fingerprint

/-- A declaration that is compared: the first of its key, under a name that no nameless one shares. -/
def IsCompared (d : Declaration) (outline : Outline) : Prop :=
  d ∈ firstOfKey outline.declarations ∧ d.key.name ≠ "anonymous"

theorem name_eq_of_key_eq (h : other.key = d.key) (hname : d.key.name ≠ "anonymous") :
    other.name = d.name := by
  have hsame : other.name.getD "anonymous" = d.name.getD "anonymous" :=
    congrArg DeclarationKey.name h
  have hnamed : d.name.getD "anonymous" ≠ "anonymous" := hname
  cases hd : d.name with
  | none => simp [hd] at hnamed
  | some name =>
      rw [hd, Option.getD_some] at hsame hnamed
      cases hother : other.name with
      | none =>
          rw [hother, Option.getD_none] at hsame
          exact absurd hsame.symm hnamed
      | some name' =>
          rw [hother, Option.getD_some] at hsame
          rw [hsame]

theorem KeptIn.occursIn (h : d.KeptIn outline) (hinterface : d.isInterface = false)
    (hname : d.key.name ≠ "anonymous") : d.OccursIn outline := by
  unfold KeptIn at h
  split at h
  · rename_i other hfound
    have hkey : other.key = d.key := by simpa using List.find?_some hfound
    exact ⟨other, List.mem_of_find?_eq_some hfound, congrArg DeclarationKey.kind hkey,
      name_eq_of_key_eq hkey hname, h⟩
  · rw [hinterface] at h
    cases h

end Declaration

/-- In a structural conflict every declaration of the base that is neither an import nor an export
stays in both branches just if those that are not compared do. -/
theorem ConflictKind.occursIn_of_structural_iff {blocks : List Block} {base ours theirs : Outline}
    (h : classify blocks (some (.ofBranches (some base) ours theirs)) true = .structural) :
    (∀ d ∈ base.declarations, d.isInterface = false → d.OccursIn ours ∧ d.OccursIn theirs) ↔
      ∀ d ∈ base.declarations, d.isInterface = false → ¬d.IsCompared base →
        d.OccursIn ours ∧ d.OccursIn theirs := by
  obtain ⟨-, -, hkept⟩ := classify_ofBranches_eq_structural_iff.mp h
  constructor
  · exact fun hall d hd hinterface _ => hall d hd hinterface
  · intro hothers d hd hinterface
    by_cases hcompared : d.IsCompared base
    · obtain ⟨hours, htheirs⟩ := hkept d hcompared.1
      exact ⟨hours.occursIn hinterface hcompared.2, htheirs.occursIn hinterface hcompared.2⟩
    · exact hothers d hd hinterface hcompared

/-! ### Two declarations of one key -/

/-- A file with two implementations of one type, the second one with a fingerprint. -/
def twoImplementations (second : String) (more : List Declaration) : Outline where
  language := .rust
  declarations := ⟨.classLike, some "impl A", ⟨1, 1⟩, "f"⟩ ::
    ⟨.classLike, some "impl A", ⟨2, 2⟩, second⟩ :: more

/-- One branch changes the second implementation and adds a function. -/
def changedImplementation : Outline :=
  twoImplementations "h" [⟨.function, some "k", ⟨3, 3⟩, "k"⟩]

def implementationBlock : Block := ⟨1, 3, 5, "h", "g", none⟩

theorem ConflictKind.classify_changedImplementation :
    classify [implementationBlock] (some (.ofBranches (some (twoImplementations "g" []))
      changedImplementation (twoImplementations "g" []))) true = .structural :=
  classify_eq_structural_iff.mpr ⟨by decide, by cbv, by cbv⟩

theorem ConflictKind.occursIn_changedImplementation_iff :
    classify [implementationBlock] (some (.ofBranches (some (twoImplementations "g" []))
      changedImplementation (twoImplementations "g" []))) true = .structural ∧
    ((∀ d ∈ (twoImplementations "g" []).declarations, d.isInterface = false →
        d.OccursIn changedImplementation ∧ d.OccursIn (twoImplementations "g" [])) ↔
      ∀ d ∈ (twoImplementations "g" []).declarations, d.isInterface = false →
        ¬d.IsCompared (twoImplementations "g" []) →
          d.OccursIn changedImplementation ∧ d.OccursIn (twoImplementations "g" [])) :=
  ⟨classify_changedImplementation, occursIn_of_structural_iff classify_changedImplementation⟩

/-- The conflict is structural, but the second implementation has changed. -/
theorem ConflictKind.changedImplementation_isStructural :
    classify [implementationBlock] (some (.ofBranches (some (twoImplementations "g" []))
      changedImplementation (twoImplementations "g" []))) true = .structural ∧
    ¬∀ d ∈ (twoImplementations "g" []).declarations, d.isInterface = false →
      d.OccursIn changedImplementation ∧ d.OccursIn (twoImplementations "g" []) := by
  refine ⟨classify_changedImplementation, fun hall => ?_⟩
  obtain ⟨⟨other, hother, -, -, hsame⟩, -⟩ := hall ⟨.classLike, some "impl A", ⟨2, 2⟩, "g"⟩
    (by simp [twoImplementations]) rfl
  simp only [changedImplementation, twoImplementations, List.mem_cons, List.not_mem_nil,
    or_false] at hother
  obtain rfl | rfl | rfl := hother <;> simp at hsame

end Reconcile
