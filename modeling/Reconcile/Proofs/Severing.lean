import Reconcile.Proofs.Backups
import Reconcile.Proofs.Joining

/-!
# Backups in the way of their files

A backup takes the place of an entry whose path leads to nothing, so it is no obstacle on the way to the
file that it is made of. The exception is a link that the way to the file follows, while along the path of
the backup there is nothing only because that takes too many links. Then the backup severs the path.
-/

namespace Reconcile.Disk

variable {before after disk : Disk} {path text name : String} {directory place : Place}

/-- A path names an entry of a directory, by which it leads to a file with a text. -/
structure ReadsAt (disk : Disk) (path text : String) (directory : Place) (name : String)
    (place : Place) : Prop where
  named : ∃ steps, Step.ofPath path = steps ++ [.down name] ∧ disk.Enters path steps directory
  leads : ∃ links, disk.Leads links directory [.down name] place
  canonical : disk.canonical path = .ok place
  file : ∃ mode, disk.at? place = some (.file (.text text) mode)

namespace ReadsAt

theorem of_readText (hnamed : ∃ steps name, Step.ofPath path = steps ++ [.down name])
    (hread : disk.readText path = .ok text) :
    ∃ directory name place, disk.ReadsAt path text directory name place := by
  obtain ⟨steps, name, hpath⟩ := hnamed
  obtain ⟨place, mode, hcanonical, hfile⟩ := contents_eq_ok_iff.mp (contents_of_readText hread)
  obtain ⟨-, links, hlimit, hleads⟩ := canonical_eq_ok_iff.mp hcanonical
  rw [hpath] at hleads
  obtain ⟨first, last, directory, hlinks, hfirst, hlast⟩ := hleads.of_append
  have henters : disk.Enters path steps directory :=
    ⟨⟨first, by omega, hfirst⟩, hlast.start_eq_directory (by simp)⟩
  exact ⟨directory, name, place, ⟨steps, hpath, henters⟩, ⟨last, hlast⟩, hcanonical, mode, hfile⟩

variable (h : disk.ReadsAt path text directory name place)

include h

theorem locate : disk.locate path = .ok (directory, name) := by
  obtain ⟨steps, hpath, henters⟩ := h.named
  exact locate_of_enters hpath henters

theorem readText : disk.readText path = .ok text := by
  obtain ⟨mode, hfile⟩ := h.file
  exact readText_eq_ok_iff.mpr (contents_eq_ok_iff.mpr ⟨place, mode, h.canonical, hfile⟩)

theorem at?_entry_ne_none : disk.at? (directory ++ [name]) ≠ none := by
  obtain ⟨links, hleads⟩ := h.leads
  cases hleads with
  | down _ hentry _ _ => simp [hentry]
  | follow _ hentry _ => simp [hentry]

theorem at?_place_ne_none : disk.at? place ≠ none := by
  obtain ⟨mode, hfile⟩ := h.file
  simp [hfile]

theorem fileAt_of_backUp {millis : Int} {former : String}
    (hreplaced : disk.Replaced (Backup.pathAt path millis) former after) :
    disk.FileAt (directory ++ [Backup.pathAt name millis]) former after := by
  obtain ⟨steps, hpath, henters⟩ := h.named
  obtain ⟨directory', last, hlocate, hfile⟩ := hreplaced
  obtain ⟨rfl, hother⟩ := of_locate_eq_ok_of_steps (Backup.ofPath_pathAt hpath millis) hlocate
  obtain rfl := henters.unique ((Backup.enters_pathAt_iff hpath millis).mp hother)
  exact hfile

/-- The name that a backup takes is another one than that of the file, and than that of what it leads
to. -/
theorem ne_backup (millis : Int) (hfree : disk.hasPath (Backup.pathAt path millis) = false) :
    directory ++ [name] ≠ directory ++ [Backup.pathAt name millis] ∧
      place ≠ directory ++ [Backup.pathAt name millis] := by
  constructor
  · intro hsame
    have hname : name = Backup.pathAt name millis := by
      simpa using (List.append_inj' hsame rfl).2
    exact Backup.pathAt_ne name millis hname.symm
  · rintro rfl
    obtain ⟨steps, hpath, henters⟩ := h.named
    obtain ⟨mode, hfile⟩ := h.file
    have hread := readText_of_enters ((Backup.enters_pathAt_iff hpath millis).mpr henters)
      (Backup.ofPath_pathAt hpath millis) hfile
    obtain ⟨place, mode, hcanonical, hplace⟩ := contents_eq_ok_iff.mp (contents_of_readText hread)
    rw [hasPath_eq_true_iff.mpr ⟨place, hcanonical, by simp [hplace]⟩] at hfree
    cases hfree

end ReadsAt

/-! ### Links that are needed -/

/-- The way to the file that a path leads to follows a link under the name of one of its backups, and along
the path of that backup nothing is found. -/
structure NeedsLink (disk : Disk) (path : String) (directory : Place) (name : String) (millis : Int) :
    Prop where
  link : ∃ target, disk.at? (directory ++ [Backup.pathAt name millis]) = some (.link target)
  needed : (disk.remove (directory ++ [Backup.pathAt name millis])).contents path ≠ disk.contents path
  tooMany : disk.canonical (Backup.pathAt path millis) = .error .tooManyLinks

/-- A path leads to nothing, as the backup of what it led to stands in place of a link that it followed. -/
structure Severed (before : Disk) (path : String) (after : Disk) : Prop where
  backup : ∃ directory name millis text mode, before.locate path = .ok (directory, name) ∧
    before.readText path = .ok text ∧ before.NeedsLink path directory name millis ∧
      after.at? (directory ++ [Backup.pathAt name millis]) = some (.file (.text text) mode)
  unnamed : ∀ directory name, after.locate path ≠ .ok (directory, name)
  lost : ∀ found, after.contents path ≠ .ok found

theorem contents_ne_ok_of_unnamed {steps : List Step} (hpath : Step.ofPath path = steps ++ [.down name])
    (hunnamed : ∀ directory name, disk.locate path ≠ .ok (directory, name)) (found : Contents) :
    disk.contents path ≠ .ok found := by
  intro hcontents
  obtain ⟨place, mode, hcanonical, -⟩ := contents_eq_ok_iff.mp hcontents
  obtain ⟨-, links, hlimit, hleads⟩ := canonical_eq_ok_iff.mp hcanonical
  rw [hpath] at hleads
  obtain ⟨first, last, directory, hlinks, hfirst, hlast⟩ := hleads.of_append
  have henters : disk.Enters path steps directory :=
    ⟨⟨first, by omega, hfirst⟩, hlast.start_eq_directory (by simp)⟩
  exact hunnamed directory name (locate_of_enters hpath henters)

theorem Severed.drafts {later : Disk} {steps : List Step} (h : before.Severed path after)
    (hpath : Step.ofPath path = steps ++ [.down name]) (hdrafts : after.Drafts later) :
    before.Severed path later := by
  have hunnamed (directory : Place) (name : String) : later.locate path ≠ .ok (directory, name) :=
    fun hlocate => h.unnamed directory name (hdrafts.narrows.locate hlocate)
  obtain ⟨directory, name, millis, text, mode, hlocate, hread, hneeds, hbackup⟩ := h.backup
  exact ⟨⟨directory, name, millis, text, mode, hlocate, hread, hneeds, hdrafts.at?_eq_some hbackup⟩,
    hunnamed, contents_ne_ok_of_unnamed hpath hunnamed⟩

variable {millis : Int} {steps : List Step}

theorem at?_remove_of_ne {other : Place} (hother : other ≠ directory ++ [name]) :
    (disk.remove (directory ++ [name])).at? other = disk.at? other := by
  rw [at?_remove _ (by simp), if_neg hother]

/-- Where the directory is entered without the link, the file is reached without it: from the directory to
where the link leads the way is no longer than to the file, so it would not take too many links. -/
theorem ReadsAt.readText_remove (h : disk.ReadsAt path text directory name place)
    (hpath : Step.ofPath path = steps ++ [.down name])
    (hfree : disk.hasPath (Backup.pathAt path millis) = false)
    (hmany : disk.canonical (Backup.pathAt path millis) = .error .tooManyLinks)
    (henters : (disk.remove (directory ++ [Backup.pathAt name millis])).Enters path steps directory)
    {target : String} (hlink : disk.at? (directory ++ [Backup.pathAt name millis]) = some (.link target)) :
    (disk.remove (directory ++ [Backup.pathAt name millis])).readText path = .ok text := by
  obtain ⟨hempty, links, hlimit, hleads⟩ := canonical_eq_ok_iff.mp h.canonical
  rw [hpath] at hleads
  obtain ⟨first, last, middle, rfl, hfirst, hlast⟩ := hleads.of_append
  obtain ⟨count, -, hcount⟩ := henters.leads
  have hsame : disk.Leads count (disk.start path) steps directory := by
    refine hcount.of_kept fun other entry hother => ?_
    rw [at?_remove _ (by simp)] at hother
    split at hother
    · cases hother
    · exact hother
  obtain ⟨rfl, rfl⟩ := hsame.unique_links hfirst
  obtain hkept | ⟨fewer, hfewer, goal, hfollows⟩ :=
    hlast.kept_or_follows hlink fun other => at?_remove_of_ne
  · obtain ⟨mode, hfile⟩ := h.file
    rw [← at?_remove_of_ne (h.ne_backup millis hfree).2] at hfile
    have hthere : (disk.remove (directory ++ [Backup.pathAt name millis])).canonical path = .ok place :=
      canonical_eq_ok_iff.mpr ⟨hempty, _, hlimit, hpath ▸ hcount.append hkept⟩
    exact readText_eq_ok_iff.mpr (contents_eq_ok_iff.mpr ⟨place, mode, hthere, hfile⟩)
  · have hbackup := Backup.ofPath_pathAt hpath millis
    have hwalk := hfirst.append hfollows
    rw [← hbackup, ← Backup.start_pathAt hpath millis] at hwalk
    have hfound : disk.canonical (Backup.pathAt path millis) = .ok goal :=
      canonical_eq_ok_iff.mpr ⟨Step.ne_empty_of_ofPath hbackup, _, by omega, hwalk⟩
    cases hmany.symm.trans hfound

namespace ReadsAt

variable (h : before.ReadsAt path text directory name place)
  (hfree : before.hasPath (Backup.pathAt path millis) = false)

include h hfree

/-- A backup in place of a link that is needed severs the path. -/
theorem severed_of_needsLink (hneeds : before.NeedsLink path directory name millis)
    (hreplaced : before.Replaced (Backup.pathAt path millis) text after) : before.Severed path after := by
  obtain ⟨steps, hpath, henters⟩ := h.named
  obtain ⟨target, hlink⟩ := hneeds.link
  have hfile := h.fileAt_of_backUp hreplaced
  have hunnamed (entered : Place) (last : String) : after.locate path ≠ .ok (entered, last) := by
    intro hlocate
    obtain ⟨-, hafter⟩ := of_locate_eq_ok_of_steps hpath hlocate
    obtain rfl := henters.unique (hfile.narrows.enters hafter)
    have hstill :
        (before.remove (directory ++ [Backup.pathAt name millis])).Enters path steps directory := by
      refine hafter.of_passages hfile.home.symm fun other hpassage => ?_
      have hne : other ≠ directory ++ [Backup.pathAt name millis] := by
        rintro rfl
        obtain ⟨mode, hplace⟩ := hfile.file
        exact not_isPassage_of_file hplace hpassage
      rw [at?_remove_of_ne hne, hfile.others other hne]
    have hread := h.readText_remove hpath hfree hneeds.tooMany hstill hlink
    exact hneeds.needed ((contents_of_readText hread).trans (contents_of_readText h.readText).symm)
  obtain ⟨mode, hcopy⟩ := hfile.file
  exact ⟨⟨directory, name, millis, text, mode, h.locate, h.readText, hneeds, hcopy⟩, hunnamed,
    contents_ne_ok_of_unnamed hpath hunnamed⟩

/-- A backup in place of anything else leaves the way to the file as it was. -/
theorem readText_of_not_needsLink (hneeds : ¬before.NeedsLink path directory name millis)
    (hreplaced : before.Replaced (Backup.pathAt path millis) text after) :
    after.readText path = .ok text := by
  obtain ⟨steps, hpath, henters⟩ := h.named
  have hfile := h.fileAt_of_backUp hreplaced
  by_contra hread
  refine hneeds ⟨?_, fun hsame => ?_, ?_⟩
  · cases hentry : before.at? (directory ++ [Backup.pathAt name millis]) with
    | none =>
        have hdead := isDead_of_eq_none hentry
        exact absurd (readText_of_isDead h.readText hdead hfile.home hfile.others) hread
    | some entry =>
        obtain ⟨target, rfl⟩ := Backup.link_of_hasPath_eq_false hpath henters hfree hentry
        exact ⟨target, rfl⟩
  · -- A link that is taken away is dead, so who does without it does not mind the backup.
    have hnone : (before.remove (directory ++ [Backup.pathAt name millis])).at?
        (directory ++ [Backup.pathAt name millis]) = none := by rw [at?_remove _ (by simp), if_pos rfl]
    have hgone := readText_eq_ok_iff.mpr (hsame.trans (contents_of_readText h.readText))
    refine hread (readText_of_isDead hgone (isDead_of_eq_none hnone) hfile.home fun other hne => ?_)
    rw [hfile.others other hne, at?_remove_of_ne hne]
  · by_contra hfew
    have hdead := isDead_of_hasPath_eq_false (Backup.ofPath_pathAt hpath millis)
      ((Backup.enters_pathAt_iff hpath millis).mpr henters) hfree hfew
    exact hread (readText_of_isDead h.readText hdead hfile.home hfile.others)

end ReadsAt

end Reconcile.Disk
