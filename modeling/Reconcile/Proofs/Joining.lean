import Reconcile.Files.Containment
import Reconcile.Proofs.Placement

/-!
# Paths taken relative to a root

The steps along a joined path are those along the root and then those along the path, so a path that
may name a file of a repository ends in the same step after it is joined as before. A path whose last
step goes down names an entry of the directory that the steps before it lead to.
-/

namespace Reconcile

namespace Path

theorem splitSlashes_ne_nil (text : List Char) : splitSlashes text ≠ [] := by
  cases text with
  | nil => simp [splitSlashes]
  | cons c text =>
      rw [splitSlashes]
      split_ifs
      · simp
      · split <;> simp

theorem splitSlashes_append_slash (first second : List Char) :
    splitSlashes (first ++ '/' :: second) = splitSlashes first ++ splitSlashes second := by
  induction first with
  | nil => simp [splitSlashes]
  | cons c first ih =>
      by_cases hslash : c = '/'
      · simp [splitSlashes, hslash, ih]
      · obtain ⟨part, parts, hparts⟩ := List.exists_cons_of_ne_nil (splitSlashes_ne_nil first)
        simp [splitSlashes, hslash, ih, hparts]

theorem isAbsolute_of_validate {path : String} (h : validate path = .ok ()) :
    isAbsolute path = false := by
  by_contra habsolute
  rw [Bool.not_eq_false] at habsolute
  cases hblank : Text.isAllBlank path <;> simp [validate, fault?, habsolute, hblank] at h

theorem up_not_mem_of_validate {path : String} (h : validate path = .ok ()) :
    Step.up ∉ Step.ofPath path := by
  intro hup
  have hclimbs : ¬(components path).contains .parent := by
    intro hparent
    unfold validate fault? at h
    split_ifs at h
  have hmoves : Step.up ∈ (components path).filterMap Step.ofComponent? := by
    rw [Step.filterMap_components]
    exact List.mem_filter.mpr ⟨hup, by simp⟩
  obtain ⟨component, hcomponent, hstep⟩ := List.mem_filterMap.mp hmoves
  refine hclimbs (List.contains_iff_mem.mpr ?_)
  cases component with
  | parent => exact hcomponent
  | root => cases hstep
  | current => cases hstep
  | name text => cases hstep

end Path

namespace Step

theorem ofPath_ne_nil (path : String) : ofPath path ≠ [] := by
  simp [ofPath, Path.splitSlashes_ne_nil]

theorem ofPath_join (root : String) {path : String} (hpath : Path.isAbsolute path = false) :
    ∃ steps, ofPath (Path.join root path) = steps ++ ofPath path ∧
      (root = "" ∨ ofPath root = steps ∨ ofPath root = steps ++ [.here]) := by
  unfold Path.join
  rw [if_neg (by simp [hpath])]
  by_cases hempty : root = ""
  · exact ⟨[], by simp [hempty], .inl hempty⟩
  by_cases hslash : root.toList.getLast? = some '/'
  · obtain ⟨stem, hstem⟩ := List.getLast?_eq_some_iff.mp hslash
    refine ⟨(Path.splitSlashes stem).map ofPart, ?_, .inr (.inr ?_)⟩
    · rw [if_pos (by simp [hslash]), ofPath, String.toList_append, hstem, List.append_assoc,
        List.singleton_append, Path.splitSlashes_append_slash, List.map_append, ofPath]
    · rw [ofPath, hstem, Path.splitSlashes_append_slash, List.map_append]
      rfl
  · refine ⟨ofPath root, ?_, .inr (.inl rfl)⟩
    have hsingle : "/".toList = ['/'] := rfl
    rw [if_neg (by simp [hslash, hempty]), ofPath, String.toList_append, String.toList_append, hsingle,
      List.append_assoc, List.singleton_append, Path.splitSlashes_append_slash, List.map_append]
    rfl

end Step

namespace Disk

variable {disk : Disk} {root path joined name : String} {directory : Place} {steps : List Step}

theorem validate_of_resolveIn (h : disk.resolveIn root path = .ok joined) :
    Path.validate path = .ok () ∧ joined = Path.join root path := by
  obtain ⟨⟨⟩, hvalid, hrest⟩ := bind_eq_ok_iff.mp h
  refine ⟨hvalid, ?_⟩
  dsimp only at hrest
  split at hrest
  · exact (Except.ok.inj hrest).symm
  · split at hrest
    · split_ifs at hrest
      exact (Except.ok.inj hrest).symm
    · exact (Except.ok.inj hrest).symm

/-- A path below a root that does not end by staying where it is ends in a name. -/
theorem exists_down_of_resolveIn (h : disk.resolveIn root path = .ok joined)
    (hends : ∀ steps, Step.ofPath joined ≠ steps ++ [.here]) :
    ∃ steps name, Step.ofPath joined = steps ++ [.down name] := by
  obtain ⟨hvalid, rfl⟩ := validate_of_resolveIn h
  obtain ⟨first, hjoin, -⟩ := Step.ofPath_join root (Path.isAbsolute_of_validate hvalid)
  obtain ⟨init, last, hlast⟩ :=
    (List.eq_nil_or_concat (Step.ofPath path)).resolve_left (Step.ofPath_ne_nil path)
  rw [List.concat_eq_append] at hlast
  rw [hlast, ← List.append_assoc] at hjoin
  cases last with
  | here => exact absurd hjoin (hends _)
  | up => exact absurd (by simp [hlast]) (Path.up_not_mem_of_validate hvalid)
  | down name => exact ⟨_, name, hjoin⟩

theorem resolveIn_of_canonical {place : Place} (hvalid : Path.validate path = .ok ())
    (hcanonical : disk.canonical (Path.join root path) = .ok place)
    (hinside : ∀ top, disk.canonical root = .ok top → top <+: place) :
    disk.resolveIn root path = .ok (Path.join root path) := by
  have hnearest : disk.nearest? (Path.join root path) = some place := by
    rw [nearest?, hcanonical]
  refine bind_eq_ok_iff.mpr ⟨(), hvalid, ?_⟩
  cases hroot : disk.canonical root with
  | error error => rfl
  | ok top =>
      simp only [hnearest]
      exact if_pos (List.isPrefixOf_iff_prefix.mpr (hinside top hroot))

theorem locate_of_enters (hpath : Step.ofPath path = steps ++ [.down name])
    (h : disk.Enters path steps directory) : disk.locate path = .ok (directory, name) := by
  obtain ⟨earlier, part, hparts⟩ :=
    (List.eq_nil_or_concat (Path.splitSlashes path.toList)).resolve_left
      (Path.splitSlashes_ne_nil path.toList)
  rw [List.concat_eq_append] at hparts
  have hsteps := hpath
  simp only [Step.ofPath, hparts, List.map_append, List.map_cons, List.map_nil] at hsteps
  have hpart : Step.ofPart part = .down name :=
    (List.cons_eq_cons.mp (List.append_inj' hsteps rfl).2).1
  have hname : Path.componentOf? part = some (.name name) := by
    obtain ⟨hempty, hcurrent, hparent, hname⟩ := Step.ofPart_eq_down_iff.mp hpart
    simp [Path.componentOf?, hempty, hcurrent, hparent, hname]
  obtain ⟨parents, hcomponents⟩ :
      ∃ parents, Path.components path = parents ++ [.name name] := by
    rw [Path.components, hparts, List.filterMap_append, List.filterMap_cons_some hname]
    exact ⟨_, (List.append_assoc _ _ _).symm⟩
  have hmoves := Step.filterMap_components path
  rw [hcomponents, hpath, List.filterMap_append, List.filter_append] at hmoves
  have hparents : parents.filterMap Step.ofComponent? = steps.filter (· ≠ .here) :=
    (List.append_inj' hmoves rfl).1
  obtain ⟨links, hlimit, hleads⟩ := h.leads
  refine locate_eq_ok_iff.mpr ⟨parents.reverse, by simp [hcomponents], ⟨links, hlimit, ?_⟩,
    h.isDirectory⟩
  refine hleads.of_filter_eq h.isDirectory ?_
  rw [List.reverse_reverse, hparents, List.filter_filter]
  simp

end Disk

end Reconcile
