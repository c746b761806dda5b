import Mathlib
import Reconcile.Proofs.Backups
import Reconcile.Proofs.Guarding

/-!
# Where a run reads and writes

All the entries that a run is about lie in one directory, that of the entry that the joined path names.
The check of the path looks at where the whole path leads to. That is in the directory too, unless the
entry is a link: then the path may leave the root and come back to it with its last step.
-/

namespace Reconcile

variable {κ ν α : Type}

namespace Path

theorem isAbsolute_join {root path : String} (hroot : root ≠ "") (hpath : isAbsolute path = false) :
    isAbsolute (join root path) = isAbsolute root := by
  have hne : root.toList ≠ [] := by simpa using hroot
  unfold join
  rw [if_neg (by simp [hpath])]
  split_ifs
  · simp [isAbsolute, List.head?_append_of_ne_nil _ hne]
  · rw [String.append_assoc]
    simp [isAbsolute, List.head?_append_of_ne_nil _ hne]

end Path

namespace Disk

variable {disk : Disk} {root path joined name : String} {place goal top directory : Place}
  {links fuel : Nat} {steps rest : List Step} {cause : FileError}

theorem Leads.walk_append (h : disk.Leads links place steps goal) (hfuel : links ≤ fuel) :
    disk.walk fuel place (steps ++ rest) = disk.walk (fuel - links) goal rest := by
  induction h generalizing fuel with
  | arrived place => simp
  | here hplace _ ih =>
      rw [List.cons_append, walk]
      simpa [hplace] using ih hfuel
  | up hplace _ ih =>
      rw [List.cons_append, walk]
      simpa [hplace] using ih hfuel
  | @down _ _ _ _ _ entry hplace hentry hlink _ ih =>
      rw [List.cons_append, walk]
      cases entry with
      | directory => simpa [hplace, hentry] using ih hfuel
      | file contents mode => simpa [hplace, hentry] using ih hfuel
      | link target => exact absurd rfl (hlink target)
  | @follow links _ _ _ _ target hplace hentry _ ih =>
      obtain ⟨fuel, rfl⟩ : ∃ less, fuel = less + 1 := ⟨fuel - 1, by omega⟩
      have hless : fuel + 1 - (links + 1) = fuel - links := by omega
      rw [List.cons_append, walk, hless]
      simpa [hplace, hentry, linkStart] using ih (by omega)

theorem Leads.eq_of_stays (h : disk.Leads links place steps goal)
    (hstays : ∀ step ∈ steps, step = .here) : goal = place := by
  induction h with
  | arrived place => rfl
  | here _ _ ih => exact ih fun step hstep => hstays step (List.mem_cons_of_mem _ hstep)
  | up _ _ _ => cases hstays _ List.mem_cons_self
  | down _ _ _ _ _ => cases hstays _ List.mem_cons_self
  | follow _ _ _ _ => cases hstays _ List.mem_cons_self

/-- A path taken relative to a root leads to the root first. -/
theorem leads_join (hroot : disk.canonical root = .ok top) (hpath : Path.isAbsolute path = false) :
    ∃ steps links fuel, Step.ofPath (Path.join root path) = steps ++ Step.ofPath path ∧
      disk.Leads links (disk.start (Path.join root path)) steps top ∧
        disk.canonical (Path.join root path) = disk.walk fuel top (Step.ofPath path) := by
  obtain ⟨hne, links, hlimit, hleads⟩ := canonical_eq_ok_iff.mp hroot
  have hstart : disk.start (Path.join root path) = disk.start root := by
    simp [start, Path.isAbsolute_join hne hpath]
  have hjoin : Path.join root path ≠ "" := by
    unfold Path.join
    rw [if_neg (by simp [hpath])]
    split_ifs <;> simp [hne]
  obtain ⟨steps, hsteps, hends⟩ := Step.ofPath_join root hpath
  obtain ⟨before, hbefore, hfirst⟩ : ∃ links ≤ linkLimit,
      disk.Leads links (disk.start (Path.join root path)) steps top := by
    rw [hstart]
    obtain hempty | hsame | hslash := hends
    · exact absurd hempty hne
    · exact ⟨links, hlimit, hsame ▸ hleads⟩
    · rw [hslash] at hleads
      obtain ⟨before, after, middle, hlinks, hfirst, hlast⟩ := hleads.of_append
      obtain rfl := hlast.eq_of_stays (by simp)
      exact ⟨before, by omega, hfirst⟩
  refine ⟨steps, before, linkLimit - before, hsteps, hfirst, ?_⟩
  rw [canonical, if_neg (by simpa using hjoin), hsteps, hfirst.walk_append hbefore]

theorem readText_of_canonical (h : disk.canonical path = .error cause) :
    disk.readText path = .error cause := by
  simp [readText, Disk.contents, find, h, bind, Except.bind]

theorem readText_of_directory (h : disk.canonical path = .ok place)
    (hplace : disk.at? place = some .directory) : disk.readText path = .error .isDirectory := by
  simp [readText, Disk.contents, find, h, hplace, bind, Except.bind]

/-- What is checked of a path that does not lead to anything is the directory of its entry, unless it
has but one component. -/
theorem nearest?_eq_or (hcanonical : disk.canonical path = .error cause)
    (hlocate : disk.locate path = .ok (directory, name)) :
    disk.nearest? path = some directory ∨
      (Step.ofPath path).filter (· ≠ .here) = [.down name] ∧ directory = disk.start path := by
  obtain ⟨parents, hcomponents, ⟨links, hlimit, hleads⟩, hdirectory⟩ := locate_eq_ok_iff.mp hlocate
  have hall := List.reverse_eq_cons_iff.mp hcomponents
  by_cases hparents : parents = []
  · subst hparents
    right
    constructor
    · rw [← Step.filterMap_components, hall]
      rfl
    · exact hleads.eq_of_stays (by simp)
  · left
    obtain ⟨count, hcount⟩ : ∃ count, parents.reverse.length = count + 1 := by
      refine Nat.exists_eq_succ_of_ne_zero ?_
      simpa using hparents
    have hrange : (List.range (count + 1 + 1)).tail = (List.range (count + 1)).tail ++ [count + 1] := by
      rw [List.range_succ, List.tail_append_of_ne_nil (by simp)]
    have hancestors : ∃ others, ancestors path = parents.reverse :: others := by
      rw [ancestors, hall, List.length_append, hcount, List.length_singleton, hrange, List.map_append,
        List.reverse_append, List.map_singleton, List.take_left' hcount]
      exact ⟨_, rfl⟩
    obtain ⟨others, hothers⟩ := hancestors
    rw [nearest?, hcanonical]
    dsimp only
    rw [hothers, List.findSome?_cons, hleads.walk_eq_ok hlimit]
    rfl

theorem prefix_of_resolveIn (hroot : disk.canonical root = .ok top)
    (h : disk.resolveIn root path = .ok joined) (hnearest : disk.nearest? joined = some place) :
    top <+: place := by
  obtain ⟨-, rfl⟩ := validate_of_resolveIn h
  obtain ⟨⟨⟩, -, hrest⟩ := bind_eq_ok_iff.mp h
  simp only [hroot, hnearest] at hrest
  split_ifs at hrest with hinside
  exact List.isPrefixOf_iff_prefix.mp hinside

/-- The entry of a path that was let through lies in the root, unless the entry is a link. -/
theorem link_or_prefix_of_resolveIn (hroot : disk.canonical root = .ok top)
    (h : disk.resolveIn root path = .ok joined)
    (hread : ∀ cause, disk.readText joined = .error cause → cause = .missing)
    (hlocate : disk.locate joined = .ok (directory, name)) :
    (∃ target, disk.at? (directory ++ [name]) = some (.link target)) ∨ top <+: directory := by
  obtain ⟨hvalid, rfl⟩ := validate_of_resolveIn h
  obtain ⟨steps, links, fuel, hsteps, hleads, hwalk⟩ :=
    leads_join hroot (Path.isAbsolute_of_validate hvalid)
  have htop : disk.at? top = some .directory := by
    by_contra hfile
    obtain ⟨step, rest, hpath⟩ := List.exists_cons_of_ne_nil (Step.ofPath_ne_nil path)
    have hcanonical : disk.canonical (Path.join root path) = .error .notDirectory := by
      rw [hwalk, hpath, walk.eq_def]
      exact if_pos hfile
    cases hread _ (readText_of_canonical hcanonical)
  -- What leads somewhere is checked by its goal, and what leads nowhere by its nearest ancestor.
  cases hcanonical : disk.canonical (Path.join root path) with
  | ok place =>
      have hinside : top <+: place := by
        apply prefix_of_resolveIn hroot h
        rw [nearest?, hcanonical]
      have hplace : disk.at? place ≠ some .directory := by
        intro hdirectory
        cases hread _ (readText_of_directory hcanonical hdirectory)
      obtain ⟨-, links, -, hleads⟩ := canonical_eq_ok_iff.mp hcanonical
      have hends (others : List Step) : Step.ofPath (Path.join root path) ≠ others ++ [.here] := by
        intro hends
        rw [hends] at hleads
        exact hplace hleads.goal_eq_directory_of_here
      obtain ⟨others, hothers, henters⟩ := of_locate_eq_ok_of_ends hends hlocate
      rw [hothers] at hleads
      obtain ⟨before, after, middle, -, hfirst, hlast⟩ := hleads.of_append
      obtain ⟨_, -, hdirectory⟩ := henters.leads
      obtain rfl := hdirectory.unique hfirst
      cases hlast with
      | follow _ hentry _ => exact .inl ⟨_, hentry⟩
      | down _ _ _ hrest =>
          cases hrest with | arrived =>
          obtain rfl | hdirectory := List.prefix_concat_iff.mp hinside
          · exact absurd htop hplace
          · exact .inr hdirectory
  | error cause =>
      right
      obtain hnearest | ⟨hmoves, rfl⟩ := nearest?_eq_or hcanonical hlocate
      · exact prefix_of_resolveIn hroot h hnearest
      rw [hsteps, List.filter_append, List.append_eq_singleton_iff] at hmoves
      obtain ⟨hstays, -⟩ | ⟨-, hstays⟩ := hmoves
      · rw [hleads.eq_of_stays (by simpa using hstays)]
      · -- A path that stays where it is leads to the root itself.
        have hstay := Leads.stay (by simpa using hstays) htop (.arrived top)
        rw [List.append_nil] at hstay
        rw [hwalk, hstay.walk_eq_ok (Nat.zero_le fuel)] at hcanonical
        cases hcanonical

end Disk

namespace Course

variable {course : Course ν α} {env : Environment ν} {within : Place → Prop} {holds : Disk → Prop}

/-- An entry that some step of a course is about. -/
def Touches (course : Course ν α) (env : Environment ν) (place : Place) : Prop :=
  ∃ moments moment, (course env).2.trail = moments ++ env.trail ∧ moment ∈ moments ∧
    place ∈ moment.touched

/-- All the entries that a course is about lie in a directory or below it. -/
def StaysBelow (course : Course ν α) (env : Environment ν) (top : Place) : Prop :=
  ∀ place, Touches course env place → top <+: place.dropLast

theorem Throughout.of_touches (h : Throughout course env within holds) {place : Place}
    (htouches : Touches course env place) : within place := by
  obtain ⟨moments, moment, htrail, hmoment, hplace⟩ := htouches
  obtain ⟨others, hothers, hwithin⟩ := h.between
  obtain rfl := List.append_cancel_right (htrail.symm.trans hothers)
  exact (hwithin moment hmoment).1 place hplace

end Course

namespace Engine

open Course

variable {env : Environment ν} {suggestion : Suggestion ν} {path text : String} {top : Place}
  {row : Row ν}

/-- All that is done with a file is done in the directory of its entry. -/
theorem beside_throughout_applyTo (engine : Engine κ ν) (suggestion : Suggestion ν)
    (hnamed : ∃ steps name, Step.ofPath path = steps ++ [.down name])
    (hread : env.disk.readText path = .ok text) (keepsBackup : Bool) :
    Throughout (engine.applyTo suggestion path text keepsBackup) env
      (fun place => ∃ name, env.disk.locate path = .ok (place.dropLast, name)) fun _ => True := by
  obtain ⟨steps, name, hpath⟩ := hnamed
  have hbeside {millis : Int} {directory : Place} {other : String}
      (h : env.disk.locate (Backup.pathAt path millis) = .ok (directory, other)) :
      env.disk.locate path = .ok (directory, name) := by
    obtain ⟨-, henters⟩ := Disk.of_locate_eq_ok_of_steps (Backup.ofPath_pathAt hpath millis) h
    exact Disk.locate_of_enters hpath ((Backup.enters_pathAt_iff hpath millis).mp henters)
  have hholds := Guard.Holds.of_readText hread
  refine throughout_applyTo (Guard.throughout_create trivial (by simp) (by simp) ?_)
    ((Guard.ensures_create_made path text keepsBackup env).mono ?_)
  · intro _ millis directory other hlocate last
    exact ⟨name, by simpa using hbeside hlocate⟩
  · intro result after hmade guard hguard
    have hmade := hmade guard hguard
    cases keepsBackup with
    | true =>
        obtain ⟨rfl, hreplaced⟩ := hmade
        refine ⟨_, ⟨hholds.backUp hreplaced, hreplaced.narrows⟩, by simp,
          Guard.keeps_holds _ ⟨steps, name, hpath⟩ ?_⟩
        rintro other directory last (rfl | hother) hlocate draft
        · exact ⟨last, by simpa using hlocate⟩
        · rw [← Option.some.inj hother, Backup.freePath] at hlocate
          exact ⟨name, by simpa using hbeside hlocate⟩
    | false =>
        obtain ⟨rfl, hsame⟩ := hmade
        rw [hsame]
        refine ⟨_, ⟨hholds, .refl env.disk⟩, by simp, Guard.keeps_holds _ ⟨steps, name, hpath⟩ ?_⟩
        rintro other directory last (rfl | hnone) hlocate draft
        · exact ⟨last, by simpa using hlocate⟩
        · cases hnone

/-- The entries that a run is about lie in one directory, and that in the root, unless the entry that
the path names is a link. -/
theorem beside_throughout_apply (engine : Engine κ ν) (id : String) (options : ApplyOptions)
    (env : Environment ν) (hrow : env.store.row? id = some row)
    (hroot : env.disk.canonical row.repository = .ok top) :
    Throughout (engine.apply id options) env
      (fun place => ∃ name, env.disk.locate row.filePath = .ok (place.dropLast, name) ∧
        ((∃ target, env.disk.at? (place.dropLast ++ [name]) = some (.link target)) ∨
          top <+: place.dropLast)) fun _ => True := by
  have hstored {suggestion : Suggestion ν} {path : String}
      (hget : env.store.get id = .ok (some suggestion))
      (hresolve : env.disk.resolveIn suggestion.repository suggestion.path = .ok path) :
      path = row.filePath ∧ env.disk.resolveIn row.repository row.path = .ok path := by
    have hholds := Store.holds_of_get hrow hget
    rw [hholds.repository, hholds.path] at hresolve
    exact ⟨(Disk.validate_of_resolveIn hresolve).2, hresolve⟩
  refine throughout_apply trivial ?_ ?_
  · intro suggestion path hget hresolve hread directory name hlocate
    obtain ⟨rfl, hrest⟩ := hstored hget hresolve
    have hinside := Disk.link_or_prefix_of_resolveIn hroot hrest hread hlocate
    exact ⟨name, by simpa using hlocate, by simpa using hinside⟩
  · intro suggestion path text middle hget hresolve hread hunmoved _
    obtain ⟨rfl, hrest⟩ := hstored hget hresolve
    have hnamed := Disk.exists_down_of_resolveIn hresolve fun _ => Disk.ofPath_ne_append_here hread
    have hfound : middle.disk.readText row.filePath = .ok text := by rw [hunmoved.disk, hread]
    refine (beside_throughout_applyTo engine suggestion hnamed hfound options.keepsBackup).widen ?_
    rintro place ⟨name, hlocate⟩
    rw [hunmoved.disk] at hlocate
    exact ⟨name, hlocate, Disk.link_or_prefix_of_resolveIn hroot hrest (by simp [hread]) hlocate⟩

/-- A run stays below its root just if it touches nothing, or its entry is not a link that stands outside
and leads back. -/
theorem staysBelow_apply_iff (engine : Engine κ ν) (id : String) (options : ApplyOptions)
    (env : Environment ν) (hrow : env.store.row? id = some row)
    (hroot : env.disk.canonical row.repository = .ok top) :
    StaysBelow (engine.apply id options) env top ↔
      (∀ place, ¬Touches (engine.apply id options) env place) ∨
        ∀ directory name target, env.disk.locate row.filePath = .ok (directory, name) →
          env.disk.at? (directory ++ [name]) = some (.link target) → top <+: directory := by
  have hbeside := beside_throughout_apply engine id options env hrow hroot
  constructor
  · intro hinside
    by_cases htouches : ∃ place, Touches (engine.apply id options) env place
    · right
      obtain ⟨place, hplace⟩ := htouches
      obtain ⟨last, hlocate, -⟩ := hbeside.of_touches hplace
      intro directory name target hother _
      obtain ⟨rfl, -⟩ := Prod.mk.inj (Except.ok.inj (hlocate.symm.trans hother))
      exact hinside place hplace
    · exact .inl (not_exists.mp htouches)
  · rintro (hnone | hlinks) place hplace
    · exact absurd hplace (hnone place)
    · obtain ⟨name, hlocate, ⟨target, hlink⟩ | hinside⟩ := hbeside.of_touches hplace
      · exact hlinks _ name target hlocate hlink
      · exact hinside

/-- The entry `o/l` is a link that stands outside and leads to `r/f`; `r/d` is a link to `o`. -/
def linkedRow : Row Rat := { unappliedRow with path := "d/l" }

def linked : Environment Rat :=
  { unreadable with
    disk := ⟨[(["r"], .directory), (["o"], .directory), (["r", "d"], .link "/o"),
      (["o", "l"], .link "/r/f"),
      (["r", "f"], .file (.text "<<<<<<< a\n1\n=======\n2\n>>>>>>> b\n") 0o644)], []⟩
    store := ⟨2, some [linkedRow], some [], false⟩
    faults := fun _ => none }

/-- A suggestion is written to an entry outside the root. -/
theorem linked_is_written_outside :
    linked.store.row? "s" = some linkedRow ∧ linked.disk.canonical "r" = .ok ["r"] ∧
      ¬StaysBelow (plainEngine.apply "s" ⟨false, false⟩) linked ["r"] ∧
      (plainEngine.apply "s" ⟨false, false⟩ linked).2.disk.at? ["o", "l"] =
        some (.file (.text "1\n") 0o644) := by
  have hroot : linked.disk.canonical "r" = .ok ["r"] := by cbv
  have hrun : ((plainEngine.apply "s" ⟨false, false⟩ linked).2.trail.any
      (fun moment => moment.touched.contains ["o", "l"]),
        (plainEngine.apply "s" ⟨false, false⟩ linked).2.disk.at? ["o", "l"]) =
      (true, some (.file (.text "1\n") 0o644)) := by cbv
  obtain ⟨htouched, hwritten⟩ := Prod.mk.inj hrun
  obtain ⟨moment, hmoment, hplace⟩ := List.any_eq_true.mp htouched
  have htouches : Touches (plainEngine.apply "s" ⟨false, false⟩) linked ["o", "l"] :=
    ⟨_, moment, (List.append_nil _).symm, hmoment, List.contains_iff_mem.mp hplace⟩
  have houtside : ¬["r"] <+: ["o", "l"].dropLast := by decide
  exact ⟨rfl, hroot, fun hbelow => houtside (hbelow ["o", "l"] htouches), hwritten⟩

theorem staysBelow_apply_unreadable :
    unreadable.store.row? "s" = some unappliedRow ∧ unreadable.disk.canonical "r" = .ok ["r"] ∧
      StaysBelow (plainEngine.apply "s" .standard) unreadable ["r"] := by
  have hrow : unreadable.store.row? "s" = some unappliedRow := rfl
  have hroot : unreadable.disk.canonical unappliedRow.repository = .ok ["r"] := by cbv
  have hlocate : unreadable.disk.locate unappliedRow.filePath = .ok (["r"], "f") := by cbv
  refine ⟨hrow, hroot, (staysBelow_apply_iff plainEngine "s" .standard unreadable hrow hroot).mpr ?_⟩
  right
  intro directory name target hother _
  obtain ⟨rfl, -⟩ := Prod.mk.inj (Except.ok.inj (hlocate.symm.trans hother))
  exact List.prefix_rfl

end Engine

end Reconcile
