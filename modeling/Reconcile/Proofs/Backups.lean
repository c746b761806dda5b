import Mathlib
import Reconcile.Proofs.Reaching
import Reconcile.Proofs.Rollback

/-!
# Names of new backups

A path and its backups name entries of one directory. The search for a free name ends at one: of more
counts of milliseconds than there are entries, one gives a path that leads to nothing.
-/

namespace Reconcile.Backup

variable {disk : Disk} {target name : String} {directory : Place} {steps : List Step} {millis : Int}

theorem pathAt_injective (target : String) : Function.Injective (pathAt target) := by
  intro a b h
  have hdigits : toString a = toString b := by
    apply String.toList_injective
    simpa [pathAt] using congrArg String.toList h
  exact Int.repr_injective hdigits

theorem pathAt_ne (target : String) (millis : Int) : pathAt target millis ≠ target := by
  obtain ⟨suffix, hname, -, hlong⟩ := pathAt_eq millis
  rw [hname]
  intro h
  have hlength := congrArg (List.length ∘ String.toList) h
  simp only [Function.comp_apply, String.toList_append, List.length_append] at hlength
  omega

theorem ofPath_pathAt (hpath : Step.ofPath target = steps ++ [.down name]) (millis : Int) :
    Step.ofPath (pathAt target millis) = steps ++ [.down (pathAt name millis)] := by
  obtain ⟨suffix, hname, hslash, hlong⟩ := pathAt_eq millis
  rw [hname, hname]
  exact Step.ofPath_append hpath hslash hlong

theorem start_pathAt (hpath : Step.ofPath target = steps ++ [.down name]) (millis : Int) :
    disk.start (pathAt target millis) = disk.start target := by
  obtain ⟨suffix, hname, -, -⟩ := pathAt_eq millis
  simp [hname, Disk.start, Step.isAbsolute_append suffix hpath]

theorem enters_pathAt_iff (hpath : Step.ofPath target = steps ++ [.down name]) (millis : Int) :
    disk.Enters (pathAt target millis) steps directory ↔ disk.Enters target steps directory := by
  obtain ⟨suffix, hname, -, -⟩ := pathAt_eq millis
  rw [hname]
  exact Disk.enters_append_iff suffix hpath

/-- The search passes over names that are taken, and stops at one that is free or when it gives up. -/
theorem freeMillis_eq (disk : Disk) (target : String) (fuel : Nat) (first : Int) :
    ∃ n : Nat, freeMillis disk target fuel first = first + n ∧
      (∀ m < n, disk.hasPath (pathAt target (first + m)) = true) ∧
        (n = fuel ∨ disk.hasPath (pathAt target (first + n)) = false) := by
  induction fuel generalizing first with
  | zero => exact ⟨0, by simp [freeMillis]⟩
  | succ fuel ih =>
      by_cases hfirst : disk.hasPath (pathAt target first) = true
      · obtain ⟨n, hn, htaken, hends⟩ := ih (first + 1)
        have hnext (m : Nat) : first + 1 + (m : Int) = first + (m + 1 : Nat) := by omega
        simp only [hnext] at hn htaken hends
        refine ⟨n + 1, by rw [freeMillis, if_pos hfirst, hn], fun m hm => ?_, hends.imp_left (by omega)⟩
        cases m with
        | zero => simpa using hfirst
        | succ m => exact htaken m (by omega)
      · refine ⟨0, by simp [freeMillis, hfirst], by simp, .inr ?_⟩
        simpa using hfirst

variable (hpath : Step.ofPath target = steps ++ [.down name])
  (henters : disk.Enters target steps directory)

include hpath henters

theorem at?_ne_none_of_hasPath (h : disk.hasPath (pathAt target millis) = true) :
    disk.at? (directory ++ [pathAt name millis]) ≠ none := by
  obtain ⟨place, hcanonical, hplace⟩ := Disk.hasPath_eq_true_iff.mp h
  obtain ⟨-, links, hlimit, hleads⟩ := Disk.canonical_eq_ok_iff.mp hcanonical
  rw [ofPath_pathAt hpath] at hleads
  obtain ⟨before, after, middle, hlinks, hfirst, hlast⟩ := hleads.of_append
  have hmiddle : disk.Enters (pathAt target millis) steps middle :=
    ⟨⟨before, by omega, hfirst⟩, hlast.start_eq_directory (by simp)⟩
  obtain rfl := henters.unique ((enters_pathAt_iff hpath millis).mp hmiddle)
  cases hlast with
  | down _ hentry _ _ => simp [hentry]
  | follow _ hentry _ => simp [hentry]

/-- Where a path leads to nothing there is nothing but a link, if anything. -/
theorem link_of_hasPath_eq_false (hfree : disk.hasPath (pathAt target millis) = false) {entry : Entry}
    (hentry : disk.at? (directory ++ [pathAt name millis]) = some entry) :
    ∃ link, entry = .link link := by
  by_contra hlink
  push Not at hlink
  have hfind := Disk.find_of_enters ((enters_pathAt_iff hpath millis).mpr henters)
    (ofPath_pathAt hpath millis) hentry hlink
  rw [Disk.hasPath, hfind] at hfree
  cases hfree

/-- The search ends at the first path that leads to nothing. -/
theorem exists_freeMillis_eq (first : Int) :
    ∃ n : Nat, freeMillis disk target (disk.entries.length + 1) first = first + n ∧
      disk.hasPath (pathAt target (first + n)) = false ∧
        ∀ m < n, disk.hasPath (pathAt target (first + m)) = true := by
  obtain ⟨n, hn, htaken, rfl | hfree⟩ :=
    freeMillis_eq disk target (disk.entries.length + 1) first
  · have hinjective : Function.Injective fun m : Nat => pathAt name (first + m) := by
      intro a b hab
      have hsum := pathAt_injective name hab
      omega
    obtain ⟨m, hm, hnone⟩ := disk.exists_free directory hinjective
    exact absurd hnone (at?_ne_none_of_hasPath hpath henters (htaken m hm))
  · exact ⟨n, hn, hfree, htaken⟩

theorem hasPath_freePath (millis : Int) : disk.hasPath (freePath disk target millis) = false := by
  obtain ⟨n, hn, hfree, -⟩ := exists_freeMillis_eq hpath henters millis
  rw [freePath, hn]
  exact hfree

end Reconcile.Backup
