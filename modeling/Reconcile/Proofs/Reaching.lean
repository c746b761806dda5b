import Reconcile.Proofs.Replacement

/-!
# Entries that no path goes through

An entry is dead if it is nothing, or a link that leads nowhere. Whatever takes the place of a dead
entry, paths that led to something lead there still. So they do whatever files are put where there was
nothing.
-/

namespace Reconcile.Disk

variable {before after disk : Disk} {path text name : String} {place goal dead directory : Place}
  {links : Nat} {steps : List Step} {entry : Entry}

/-- An entry that is nothing, or a link that leads to nothing. -/
structure IsDead (disk : Disk) (place : Place) : Prop where
  link : ∀ entry, disk.at? place = some entry → ∃ target, entry = .link target
  nowhere : ∀ directory name links goal, place = directory ++ [name] →
    disk.at? directory = some .directory → disk.Leads links directory [.down name] goal →
      disk.at? goal = none

theorem isDead_of_eq_none (h : disk.at? place = none) : disk.IsDead place where
  link entry hentry := by simp [h] at hentry
  nowhere directory name links goal hplace _ hleads := by
    rw [hplace] at h
    cases hleads with
    | down _ hentry _ _ => simp [h] at hentry
    | follow _ hentry _ => simp [h] at hentry

theorem Leads.at?_start_ne_none (h : disk.Leads links place steps goal)
    (hgoal : disk.at? goal ≠ none) : disk.at? place ≠ none := by
  by_cases hsteps : steps = []
  · subst hsteps
    cases h with | arrived => exact hgoal
  · simp [h.start_eq_directory hsteps]

theorem Leads.of_isDead (h : before.Leads links place steps goal) (hgoal : before.at? goal ≠ none)
    (hdead : before.IsDead dead)
    (hothers : ∀ other, other ≠ dead → after.at? other = before.at? other) :
    after.Leads links place steps goal := by
  have hkept {place : Place} {entry : Entry} (hentry : before.at? place = some entry)
      (hlink : ∀ target, entry ≠ .link target) : after.at? place = some entry := by
    rw [hothers place, hentry]
    rintro rfl
    obtain ⟨target, rfl⟩ := hdead.link entry hentry
    exact hlink target rfl
  induction h with
  | arrived place => exact .arrived place
  | here hplace _ ih => exact .here (hkept hplace (by simp)) (ih hgoal)
  | up hplace _ ih => exact .up (hkept hplace (by simp)) (ih hgoal)
  | down hplace hentry hlink _ ih =>
      exact .down (hkept hplace (by simp)) (hkept hentry hlink) hlink (ih hgoal)
  | @follow _ place _ _ name target hplace hentry hrest ih =>
      refine .follow (hkept hplace (by simp)) ?_ (ih hgoal)
      rw [hothers _, hentry]
      -- A link that the walk goes through leads to where the walk goes on, so it is not dead.
      rintro rfl
      obtain ⟨links, _, middle, -, htarget, hmore⟩ := hrest.of_append
      have hleads : before.Leads (links + 1) place [.down name] middle :=
        .follow hplace hentry (by simpa using htarget)
      exact hmore.at?_start_ne_none hgoal (hdead.nowhere place name _ middle rfl hplace hleads)

/-- What is put in place of a dead entry does not change where any path leads to. -/
theorem find_of_isDead (hfind : before.find path = .ok entry)
    (hlink : ∀ target, entry ≠ .link target) (hdead : before.IsDead dead)
    (hhome : after.home = before.home)
    (hothers : ∀ other, other ≠ dead → after.at? other = before.at? other) :
    after.find path = .ok entry := by
  obtain ⟨place, hcanonical, hentry⟩ := find_eq_ok_iff.mp hfind
  obtain ⟨hpath, links, hlimit, hleads⟩ := canonical_eq_ok_iff.mp hcanonical
  have hstart : after.start path = before.start path := by simp [start, hhome]
  refine find_eq_ok_iff.mpr ⟨place, canonical_eq_ok_iff.mpr ⟨hpath, links, hlimit, ?_⟩, ?_⟩
  · rw [hstart]
    exact hleads.of_isDead (by simp [hentry]) hdead hothers
  · rw [hothers place, hentry]
    rintro rfl
    obtain ⟨target, htarget⟩ := hdead.link _ hentry
    exact hlink target htarget

theorem locate_of_isDead (hlocate : before.locate path = .ok (directory, name))
    (hdead : before.IsDead dead) (hhome : after.home = before.home)
    (hothers : ∀ other, other ≠ dead → after.at? other = before.at? other) :
    after.locate path = .ok (directory, name) := by
  obtain ⟨parents, hcomponents, ⟨links, hlimit, hleads⟩, hdirectory⟩ := locate_eq_ok_iff.mp hlocate
  have hstart : after.start path = before.start path := by simp [start, hhome]
  refine locate_eq_ok_iff.mpr ⟨parents, hcomponents, ⟨links, hlimit, ?_⟩, ?_⟩
  · rw [hstart]
    exact hleads.of_isDead (by simp [hdirectory]) hdead hothers
  · rw [hothers directory, hdirectory]
    rintro rfl
    obtain ⟨target, htarget⟩ := hdead.link _ hdirectory
    cases htarget

theorem readText_of_isDead (hread : before.readText path = .ok text) (hdead : before.IsDead dead)
    (hhome : after.home = before.home)
    (hothers : ∀ other, other ≠ dead → after.at? other = before.at? other) :
    after.readText path = .ok text := by
  obtain ⟨mode, hfind⟩ := find_of_contents (contents_of_readText hread)
  exact readText_of_find (find_of_isDead hfind (by simp) hdead hhome hothers)

/-- A walk is not changed by what becomes of a link, unless it follows the link; from there to where the
link leads it is no longer than the whole walk. -/
theorem Leads.kept_or_follows {target : String} (h : before.Leads links place steps goal)
    (hlink : before.at? (directory ++ [name]) = some (.link target))
    (hothers : ∀ other, other ≠ directory ++ [name] → after.at? other = before.at? other) :
    after.Leads links place steps goal ∨
      ∃ fewer ≤ links, ∃ middle, before.Leads fewer directory [.down name] middle := by
  have hkept {other : Place} {entry : Entry} (hentry : before.at? other = some entry)
      (hne : ∀ target, entry ≠ .link target) : after.at? other = some entry := by
    rw [hothers other, hentry]
    rintro rfl
    exact hne target (Option.some.inj (hentry.symm.trans hlink))
  induction h with
  | arrived place => exact .inl (.arrived place)
  | here hplace _ ih => exact ih.imp_left (.here (hkept hplace (by simp)))
  | up hplace _ ih => exact ih.imp_left (.up (hkept hplace (by simp)))
  | down hplace hentry hne _ ih =>
      exact ih.imp_left (.down (hkept hplace (by simp)) (hkept hentry hne) hne)
  | @follow links place _ _ last target hplace hentry hrest ih =>
      by_cases hsame : place ++ [last] = directory ++ [name]
      · obtain ⟨rfl, hlast⟩ := List.append_inj' hsame rfl
        obtain rfl := (List.cons_eq_cons.mp hlast).1
        obtain ⟨fewer, _, middle, hlinks, htarget, -⟩ := hrest.of_append
        exact .inr ⟨fewer + 1, by omega, middle, .follow hplace hentry (by simpa using htarget)⟩
      · obtain hwalk | ⟨fewer, hfewer, hfollows⟩ := ih
        · exact .inl (.follow (hkept hplace (by simp)) ((hothers _ hsame).trans hentry) hwalk)
        · exact .inr ⟨fewer, by omega, hfollows⟩

/-! ### Walks that take too many links -/

theorem Leads.walk_eq_ok_or (h : disk.Leads links place steps goal) (fuel : Nat) :
    disk.walk fuel place steps = .ok goal ∨ disk.walk fuel place steps = .error .tooManyLinks := by
  induction h generalizing fuel with
  | arrived place => exact .inl (by rw [walk])
  | here hplace _ ih => simpa [walk, hplace] using ih fuel
  | up hplace _ ih => simpa [walk, hplace] using ih fuel
  | @down _ _ _ _ _ entry hplace hentry hlink _ ih =>
      cases entry with
      | directory => simpa [walk, hplace, hentry] using ih fuel
      | file contents mode => simpa [walk, hplace, hentry] using ih fuel
      | link target => exact absurd rfl (hlink target)
  | follow hplace hentry _ ih =>
      cases fuel with
      | zero => exact .inr (by simp [walk, hplace, hentry])
      | succ fuel => simpa [walk, hplace, hentry, linkStart] using ih fuel

theorem hasPath_eq_true_iff : disk.hasPath path = true ↔
    ∃ place, disk.canonical path = .ok place ∧ disk.at? place ≠ none := by
  unfold hasPath
  cases hfind : disk.find path with
  | ok entry =>
      obtain ⟨place, hcanonical, hentry⟩ := find_eq_ok_iff.mp hfind
      exact ⟨fun _ => ⟨place, hcanonical, by simp [hentry]⟩, fun _ => rfl⟩
  | error cause =>
      constructor
      · intro hok
        cases hok
      · rintro ⟨place, hcanonical, hsome⟩
        obtain ⟨entry, hentry⟩ := Option.ne_none_iff_exists'.mp hsome
        rw [find_eq_ok_iff.mpr ⟨place, hcanonical, hentry⟩] at hfind
        cases hfind

/-- An entry whose path leads to nothing is dead, unless the path takes too many links. -/
theorem isDead_of_hasPath_eq_false (hpath : Step.ofPath path = steps ++ [.down name])
    (henters : disk.Enters path steps directory) (hnone : disk.hasPath path = false)
    (hlinks : disk.canonical path ≠ .error .tooManyLinks) : disk.IsDead (directory ++ [name]) := by
  have hnowhere {links : Nat} {goal : Place} (h : disk.Leads links directory [.down name] goal) :
      disk.at? goal = none := by
    obtain ⟨first, -, hfirst⟩ := henters.leads
    have hcanonical : disk.canonical path = disk.walk linkLimit (disk.start path) (Step.ofPath path) :=
      if_neg (by simpa using Step.ne_empty_of_ofPath hpath)
    rw [hcanonical, hpath] at hlinks
    have hwalk := ((hfirst.append h).walk_eq_ok_or linkLimit).resolve_right hlinks
    rw [← hpath, ← hcanonical] at hwalk
    by_contra hsome
    rw [hasPath_eq_true_iff.mpr ⟨goal, hwalk, hsome⟩] at hnone
    cases hnone
  constructor
  · intro entry hentry
    cases entry with
    | link target => exact ⟨target, rfl⟩
    | directory =>
        have h := hnowhere (.down henters.isDirectory hentry (by simp) (.arrived _))
        simp [hentry] at h
    | file contents mode =>
        have h := hnowhere (.down henters.isDirectory hentry (by simp) (.arrived _))
        simp [hentry] at h
  · intro other last links goal hplace _ hleads
    obtain ⟨rfl, hlast⟩ := List.append_inj' hplace rfl
    obtain rfl := (List.cons_eq_cons.mp hlast).1
    exact hnowhere hleads

/-! ### Files where there was nothing -/

/-- Two trees are the same but for files at some places, at which the earlier one has nothing. -/
structure Litters (before : Disk) (litter : List Place) (after : Disk) : Prop where
  home : after.home = before.home
  files : ∀ place ∈ litter, before.at? place = none ∧
    ∃ text mode, after.at? place = some (.file (.text text) mode)
  others : ∀ place ∉ litter, after.at? place = before.at? place

/-- A tree has got files where there was nothing, and is otherwise as it was. -/
def Drafts (before after : Disk) : Prop := ∃ litter, before.Litters litter after

theorem Same.litters (h : before.Same after) : before.Litters [] after :=
  ⟨h.home, by simp, fun place _ => h.entries place⟩

theorem Litters.same (h : before.Litters [] after) : before.Same after :=
  ⟨h.home, fun place => h.others place (by simp)⟩

theorem Litters.of_fileAt (hfree : before.at? place = none) (h : before.FileAt place text after) :
    before.Litters [place] after where
  home := h.home
  files other hother := by
    obtain rfl := List.mem_singleton.mp hother
    obtain ⟨mode, hfile⟩ := h.file
    exact ⟨hfree, text, mode, hfile⟩
  others other hother := h.others other (by simpa using hother)

theorem Leads.of_kept (h : before.Leads links place steps goal)
    (hkept : ∀ other entry, before.at? other = some entry → after.at? other = some entry) :
    after.Leads links place steps goal := by
  induction h with
  | arrived place => exact .arrived place
  | here hplace _ ih => exact .here (hkept _ _ hplace) ih
  | up hplace _ ih => exact .up (hkept _ _ hplace) ih
  | down hplace hentry hlink _ ih => exact .down (hkept _ _ hplace) (hkept _ _ hentry) hlink ih
  | follow hplace hentry _ ih => exact .follow (hkept _ _ hplace) (hkept _ _ hentry) ih

namespace Drafts

theorem refl (disk : Disk) : disk.Drafts disk := ⟨[], rfl, by simp, fun _ _ => rfl⟩

theorem at?_eq_some (h : before.Drafts after) (hentry : before.at? place = some entry) :
    after.at? place = some entry := by
  obtain ⟨litter, hlitter⟩ := h
  rw [hlitter.others place, hentry]
  intro hplace
  cases (hlitter.files place hplace).1.symm.trans hentry

theorem at?_eq (h : before.Drafts after) (hplace : before.at? place ≠ none) :
    after.at? place = before.at? place := by
  obtain ⟨entry, hentry⟩ := Option.ne_none_iff_exists'.mp hplace
  rw [h.at?_eq_some hentry, hentry]

theorem narrows (h : before.Drafts after) : before.Narrows after := by
  obtain ⟨litter, hlitter⟩ := h
  refine ⟨hlitter.home, fun place hplace => (hlitter.others place fun hmem => ?_).symm⟩
  obtain ⟨-, text, mode, hfile⟩ := hlitter.files place hmem
  exact not_isPassage_of_file hfile hplace

theorem readText (h : before.Drafts after) (hread : before.readText path = .ok text) :
    after.readText path = .ok text := by
  obtain ⟨place, mode, hcanonical, hfile⟩ := contents_eq_ok_iff.mp (contents_of_readText hread)
  obtain ⟨hpath, links, hlimit, hleads⟩ := canonical_eq_ok_iff.mp hcanonical
  have hstart : after.start path = before.start path := by simp [start, h.narrows.home]
  have hthere : after.canonical path = .ok place :=
    canonical_eq_ok_iff.mpr ⟨hpath, links, hlimit, hstart ▸ hleads.of_kept fun _ _ => h.at?_eq_some⟩
  exact readText_eq_ok_iff.mpr (contents_eq_ok_iff.mpr ⟨place, mode, hthere, h.at?_eq_some hfile⟩)

end Drafts

theorem HasCopy.drafts {suffix : String} (h : before.HasCopy path suffix text)
    (hdrafts : before.Drafts after) : after.HasCopy path suffix text := by
  intro steps name directory hpath henters
  obtain ⟨mode, hcopy⟩ := h steps name directory hpath (hdrafts.narrows.enters henters)
  exact ⟨mode, hdrafts.at?_eq_some hcopy⟩

end Reconcile.Disk
