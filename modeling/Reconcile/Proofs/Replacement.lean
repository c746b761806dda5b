import Reconcile.Proofs.Placement

/-!
# Files put in place of entries

When a file is put in place of an entry, every directory that a path enters afterwards it entered
before. So a path whose entry was read as a file still leads to the entry's place after any number of
such changes, and a copy beside the entry stays beside it.
-/

namespace Reconcile.Disk

variable {before after disk : Disk} {path text name suffix : String}
  {directory place other : Place} {steps : List Step}

/-- Two trees show the same at every place. -/
structure Same (before after : Disk) : Prop where
  home : after.home = before.home
  entries : ∀ place, after.at? place = before.at? place

theorem Same.walk (h : before.Same after) (fuel : Nat) (place : Place) (steps : List Step) :
    after.walk fuel place steps = before.walk fuel place steps := by
  fun_induction Disk.walk before fuel place steps with
  | case1 => rw [Disk.walk]
  | case2 _ _ _ _ hplace => rw [Disk.walk.eq_def]; simp [h.entries, hplace]
  | case3 _ _ _ hplace ih => simpa [Disk.walk, h.entries, hplace] using ih
  | case4 _ _ _ hplace ih => simpa [Disk.walk, h.entries, hplace] using ih
  | case5 _ _ _ hplace _ hentry => simp [Disk.walk, h.entries, hplace, hentry]
  | case6 _ _ _ hplace _ hentry ih => simpa [Disk.walk, h.entries, hplace, hentry] using ih
  | case7 _ _ _ hplace _ _ _ hentry ih => simpa [Disk.walk, h.entries, hplace, hentry] using ih
  | case8 _ _ hplace _ _ hentry => simp [Disk.walk, h.entries, hplace, hentry]
  | case9 _ _ hplace _ _ hentry _ ih => simpa [Disk.walk, h.entries, hplace, hentry] using ih

theorem Same.contents (h : before.Same after) (path : String) :
    after.contents path = before.contents path := by
  simp [Disk.contents, find, canonical, start, h.home, h.walk, h.entries]

/-- Two trees differ at one place only, where the later one has a file with a text. -/
structure FileAt (before : Disk) (place : Place) (text : String) (after : Disk) : Prop where
  home : after.home = before.home
  file : ∃ mode, after.at? place = some (.file (.text text) mode)
  others : ∀ other, other ≠ place → after.at? other = before.at? other

/-- A file with a text was put in place of the entry that a path names. -/
def Replaced (before : Disk) (path text : String) (after : Disk) : Prop :=
  ∃ directory name, before.locate path = .ok (directory, name) ∧
    before.FileAt (directory ++ [name]) text after

/-- The entry that a path names has the permissions of the file that the path led to. -/
def KeepsMode (before : Disk) (path : String) (after : Disk) : Prop :=
  ∀ directory name contents mode, before.locate path = .ok (directory, name) →
    before.find path = .ok (.file contents mode) →
      ∃ found, after.at? (directory ++ [name]) = some (.file found mode)

/-- Every passage of the later of two trees is one of the earlier. -/
structure Narrows (before after : Disk) : Prop where
  home : after.home = before.home
  passages : ∀ place, after.IsPassage place → before.at? place = after.at? place

theorem Same.narrows (h : before.Same after) : before.Narrows after :=
  ⟨h.home, fun place _ => (h.entries place).symm⟩

theorem FileAt.narrows (h : before.FileAt place text after) : before.Narrows after where
  home := h.home
  passages other hother := by
    obtain ⟨mode, hfile⟩ := h.file
    refine (h.others other ?_).symm
    rintro rfl
    exact not_isPassage_of_file hfile hother

namespace Narrows

theorem enters (h : before.Narrows after) (henters : after.Enters path steps directory) :
    before.Enters path steps directory :=
  henters.of_passages h.home.symm h.passages

theorem isPassage (h : before.Narrows after) (hother : after.IsPassage other) :
    before.IsPassage other := by
  have hsame := h.passages other hother
  obtain hdirectory | ⟨target, links, goal, hlink, hleads, hgoal⟩ := hother
  · exact .inl (hsame.trans hdirectory)
  · refine .inr ⟨target, links, goal, hsame.trans hlink,
      hleads.of_passages hgoal h.passages, ?_⟩
    rw [h.passages goal (.inl hgoal), hgoal]

theorem locate (h : before.Narrows after) (hlocate : after.locate path = .ok (directory, name)) :
    before.locate path = .ok (directory, name) := by
  obtain ⟨parents, hcomponents, henters⟩ := locate_eq_ok_iff.mp hlocate
  exact locate_eq_ok_iff.mpr ⟨parents, hcomponents, h.enters henters⟩

end Narrows

namespace FileAt

theorem enters_of_not_isPassage (h : before.FileAt place text after)
    (hplace : ¬before.IsPassage place) (henters : before.Enters path steps directory) :
    after.Enters path steps directory := by
  refine henters.of_passages h.home fun other hother => h.others other ?_
  rintro rfl
  exact hplace hother

theorem put (h : before.FileAt place text after) (hplace : place ≠ []) (found : String)
    (mode : Nat) : before.FileAt place found (after.put place (.file (.text found) mode)) where
  home := h.home
  file := ⟨mode, by rw [at?_put _ hplace, if_pos rfl]⟩
  others other hother := by rw [at?_put _ hplace, if_neg hother, h.others other hother]

theorem of_put (disk : Disk) (hplace : place ≠ []) (text : String) (mode : Nat) :
    disk.FileAt place text (disk.put place (.file (.text text) mode)) where
  home := rfl
  file := ⟨mode, by rw [at?_put _ hplace, if_pos rfl]⟩
  others other hother := by rw [at?_put _ hplace, if_neg hother]

theorem same_remove (h : before.FileAt place text after) (hplace : place ≠ [])
    (hfree : before.at? place = none) : before.Same (after.remove place) where
  home := h.home
  entries other := by
    rw [at?_remove _ hplace]
    split
    · rename_i heq
      rw [heq, hfree]
    · rename_i hother
      exact h.others other hother

theorem rename {draft : Place} {renamed : Disk} (h : before.FileAt draft text after)
    (hdraft : draft ≠ []) (hfree : before.at? draft = none) (hplace : place ≠ [])
    (hrename : after.rename draft place = .ok renamed) : before.FileAt place text renamed := by
  obtain ⟨mode, hfile⟩ := h.file
  by_cases hdirectory : after.at? place = some .directory
  · simp [Disk.rename, hfile, hdirectory] at hrename
  · obtain rfl : (after.remove draft).put place (.file (.text text) mode) = renamed := by
      simpa [Disk.rename, hfile, hdirectory] using hrename
    refine ⟨h.home, ⟨mode, by rw [at?_put _ hplace, if_pos rfl]⟩, fun other hother => ?_⟩
    rw [at?_put _ hplace, if_neg hother]
    exact (h.same_remove hdraft hfree).entries other

theorem exists_rename {draft : Place} (h : before.FileAt draft text after)
    (hplace : before.at? place ≠ some .directory) : ∃ renamed, after.rename draft place = .ok renamed := by
  obtain ⟨mode, hfile⟩ := h.file
  have hkept : after.at? place ≠ some .directory := by
    by_cases hsame : place = draft
    · simp [hsame, hfile]
    · rwa [h.others place hsame]
  refine ⟨(after.remove draft).put place (.file (.text text) mode), ?_⟩
  simp [Disk.rename, hfile, hkept]

end FileAt

theorem at?_rename {source : Place} {entry : Entry} (hplace : place ≠ [])
    (hsource : before.at? source = some entry) (hrename : before.rename source place = .ok after) :
    after.at? place = some entry := by
  by_cases hdirectory : before.at? place = some .directory
  · simp [Disk.rename, hsource, hdirectory] at hrename
  · obtain rfl : (before.remove source).put place entry = after := by
      simpa [Disk.rename, hsource, hdirectory] using hrename
    rw [at?_put _ hplace, if_pos rfl]

/-! ### The entry that a path names -/

/-- The entry that a path names is no passage, wherever the path enters its directory. -/
def Aims (disk : Disk) (path : String) : Prop :=
  ∀ steps name directory, Step.ofPath path = steps ++ [.down name] →
    disk.Enters path steps directory → ¬disk.IsPassage (directory ++ [name])

theorem aims_of_readText (hread : disk.readText path = .ok text) : disk.Aims path := by
  intro steps name directory hpath henters
  obtain ⟨directory', place, mode, links, henters', hlast, hfile⟩ := of_readText_of_steps hpath hread
  obtain rfl := henters.unique henters'
  cases hlast with
  | down _ hentry hlink hrest =>
      cases hrest with
      | arrived => exact not_isPassage_of_file hfile
  | @follow _ _ _ _ _ target _ hentry hrest =>
      rintro (hdirectory | ⟨target', links', goal, hlink, hleads, hgoal⟩)
      · cases hentry.symm.trans hdirectory
      · obtain rfl := Entry.link.inj (Option.some.inj (hentry.symm.trans hlink))
        rw [List.append_nil] at hrest
        rw [List.dropLast_concat] at hleads
        obtain rfl := hrest.unique hleads
        cases hfile.symm.trans hgoal

theorem Aims.narrows (h : before.Aims path) (hnarrows : before.Narrows after) :
    after.Aims path := fun steps name directory hpath henters hpassage =>
  h steps name directory hpath (hnarrows.enters henters) (hnarrows.isPassage hpassage)

/-- What is put in place of the entry that a path names is read along the path. -/
theorem Aims.readText_of_replaced (h : before.Aims path)
    (hends : ∀ steps, Step.ofPath path ≠ steps ++ [.here])
    (hreplaced : before.Replaced path text after) : after.readText path = .ok text := by
  obtain ⟨directory, name, hlocate, hfile⟩ := hreplaced
  obtain ⟨steps, hpath, henters⟩ := of_locate_eq_ok_of_ends hends hlocate
  obtain ⟨mode, hentry⟩ := hfile.file
  have haim := h steps name directory hpath henters
  exact readText_of_enters (hfile.enters_of_not_isPassage haim henters) hpath hentry

/-! ### A copy beside an entry -/

/-- Beside the entry that a path names stands a file with a text, under the entry's name with a
suffix, wherever the path enters the entry's directory. -/
def HasCopy (disk : Disk) (path suffix text : String) : Prop :=
  ∀ steps name directory, Step.ofPath path = steps ++ [.down name] →
    disk.Enters path steps directory →
      ∃ mode, disk.at? (directory ++ [name ++ suffix]) = some (.file (.text text) mode)

theorem enters_append_iff (suffix : String) (hpath : Step.ofPath path = steps ++ [.down name]) :
    disk.Enters (path ++ suffix) steps directory ↔ disk.Enters path steps directory := by
  have hstart : disk.start (path ++ suffix) = disk.start path := by
    simp [start, Step.isAbsolute_append suffix hpath]
  constructor
  · intro henters
    exact ⟨hstart ▸ henters.leads, henters.isDirectory⟩
  · intro henters
    exact ⟨hstart.symm ▸ henters.leads, henters.isDirectory⟩

section Suffix

variable (hslash : '/' ∉ suffix.toList) (hlong : 2 < suffix.toList.length)

include hslash hlong

theorem hasCopy_of_replaced (h : before.Replaced (path ++ suffix) text after) :
    after.HasCopy path suffix text := by
  intro steps name directory hpath henters
  obtain ⟨directory', last, hlocate, hfile⟩ := h
  have hcopy := Step.ofPath_append hpath hslash hlong
  obtain ⟨rfl, henters'⟩ := of_locate_eq_ok_of_steps hcopy hlocate
  obtain rfl := (hfile.narrows.enters henters).unique ((enters_append_iff suffix hpath).mp henters')
  exact hfile.file

theorem HasCopy.readText (h : disk.HasCopy path suffix text)
    (hpath : Step.ofPath path = steps ++ [.down name]) {found : String}
    (hread : disk.readText (path ++ suffix) = .ok found) : found = text := by
  have hcopy := Step.ofPath_append hpath hslash hlong
  obtain ⟨directory, place, mode, links, henters, hlast, hfile⟩ := of_readText_of_steps hcopy hread
  obtain ⟨mode', hentry⟩ := h steps name directory hpath
    ((enters_append_iff suffix hpath).mp henters)
  cases hlast with
  | down _ _ _ hrest =>
      cases hrest with
      | arrived => exact (by simpa using hfile.symm.trans hentry : found = text ∧ _).1
  | follow _ hlink _ => cases hlink.symm.trans hentry

end Suffix

theorem HasCopy.same (h : before.HasCopy path suffix text) (hsame : before.Same after) :
    after.HasCopy path suffix text := by
  intro steps name directory hpath henters
  obtain ⟨mode, hcopy⟩ := h steps name directory hpath (hsame.narrows.enters henters)
  exact ⟨mode, (hsame.entries _).trans hcopy⟩

theorem HasCopy.replaced (h : before.HasCopy path suffix text) (hsuffix : suffix ≠ "")
    {found : String} (hreplaced : before.Replaced path found after) :
    after.HasCopy path suffix text := by
  intro steps name directory hpath henters
  obtain ⟨directory', last, hlocate, hfile⟩ := hreplaced
  obtain ⟨rfl, -⟩ := of_locate_eq_ok_of_steps hpath hlocate
  obtain ⟨mode, hcopy⟩ := h steps last directory hpath (hfile.narrows.enters henters)
  refine ⟨mode, (hfile.others _ ?_).trans hcopy⟩
  intro hsame
  have hname : last ++ suffix = last := by simpa using (List.append_inj' hsame rfl).2
  exact hsuffix (by simpa using hname)

end Reconcile.Disk
