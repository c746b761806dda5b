import Mathlib.Data.List.Nodup
import Mathlib.Data.List.Perm.Subperm
import Mathlib.Tactic.Common
import Reconcile.Proofs.Walk

/-!
# The entry that a path names

A path that ends in a name is walked up to the last step, and the last step names an entry of the
directory come to. A file put in place of an entry takes passages away and adds none, so a path leads
to the new file unless the entry was a passage on the way to its own directory.
-/

namespace Reconcile

theorem bind_eq_ok_iff {ε α β : Type} {first : Except ε α} {next : α → Except ε β} {b : β} :
    (first >>= next) = .ok b ↔ ∃ a, first = .ok a ∧ next a = .ok b := by
  cases first <;> simp [bind, Except.bind]

theorem map_eq_ok_iff {ε α β : Type} {first : Except ε α} {f : α → β} {b : β} :
    first.map f = .ok b ↔ ∃ a, first = .ok a ∧ f a = b := by
  cases first <;> simp [Except.map]

namespace Path

theorem splitSlashes_of_not_mem {text : List Char} (h : '/' ∉ text) :
    splitSlashes text = [text] := by
  induction text with
  | nil => rfl
  | cons c text ih =>
      rw [List.mem_cons, not_or] at h
      simp [splitSlashes, Ne.symm h.1, ih h.2]

theorem splitSlashes_append (text : List Char) {suffix : List Char} (h : '/' ∉ suffix) :
    ∃ earlier last, splitSlashes text = earlier ++ [last] ∧
      splitSlashes (text ++ suffix) = earlier ++ [last ++ suffix] := by
  induction text with
  | nil => exact ⟨[], [], rfl, splitSlashes_of_not_mem h⟩
  | cons c text ih =>
      obtain ⟨earlier, last, htext, hmore⟩ := ih
      by_cases hslash : c = '/'
      · exact ⟨[] :: earlier, last, by simp [splitSlashes, hslash, htext],
          by simp [splitSlashes, hslash, hmore]⟩
      · cases earlier with
        | nil =>
            exact ⟨[], c :: last, by simp [splitSlashes, hslash, htext],
              by simp [splitSlashes, hslash, hmore]⟩
        | cons part earlier =>
            exact ⟨(c :: part) :: earlier, last, by simp [splitSlashes, hslash, htext],
              by simp [splitSlashes, hslash, hmore]⟩

end Path

namespace Step

theorem ofPart_eq_down_iff {part : List Char} {name : String} :
    ofPart part = .down name ↔
      part ≠ [] ∧ part ≠ ['.'] ∧ part ≠ ['.', '.'] ∧ String.ofList part = name := by
  unfold ofPart
  split_ifs <;> simp_all
  tauto

theorem ofPart_of_componentOf? (part : List Char) :
    (Path.componentOf? part = none ∧ ofPart part = .here) ∨
      ∃ component, Path.componentOf? part = some component ∧
        ofComponent? component = some (ofPart part) ∧ ofPart part ≠ .here := by
  unfold Path.componentOf? ofPart
  split_ifs <;> simp [ofComponent?]

theorem filterMap_componentOf? (parts : List (List Char)) :
    (parts.filterMap Path.componentOf?).filterMap ofComponent? =
      (parts.map ofPart).filter (· ≠ .here) := by
  induction parts with
  | nil => rfl
  | cons part parts ih =>
      obtain ⟨hnone, hhere⟩ | ⟨component, hsome, hstep, hmove⟩ := ofPart_of_componentOf? part
      · simpa [hnone, hhere] using ih
      · simpa [hsome, hstep, hmove] using ih

theorem filterMap_components (path : String) :
    (Path.components path).filterMap ofComponent? = (ofPath path).filter (· ≠ .here) := by
  rw [Path.components, List.filterMap_append, filterMap_componentOf?, ofPath]
  split <;> rfl

theorem ofPath_append {path suffix name : String} {steps : List Step}
    (hpath : ofPath path = steps ++ [.down name]) (hslash : '/' ∉ suffix.toList)
    (hlong : 2 < suffix.toList.length) :
    ofPath (path ++ suffix) = steps ++ [.down (name ++ suffix)] := by
  obtain ⟨earlier, last, htext, hmore⟩ := Path.splitSlashes_append path.toList hslash
  simp only [ofPath, htext, List.map_append, List.map_cons, List.map_nil] at hpath
  obtain ⟨hearlier, hlast⟩ := List.append_inj' hpath rfl
  obtain ⟨-, -, -, hname⟩ := ofPart_eq_down_iff.mp (List.cons_eq_cons.mp hlast).1
  have hlonger : ofPart (last ++ suffix.toList) = .down (name ++ suffix) := by
    have hlength : 2 < (last ++ suffix.toList).length := by
      rw [List.length_append]
      omega
    refine ofPart_eq_down_iff.mpr ⟨?_, ?_, ?_, ?_⟩
    · exact fun h => by simp [h] at hlength
    · exact fun h => by simp [h] at hlength
    · exact fun h => by simp [h] at hlength
    · rw [String.ofList_append, hname, String.ofList_toList]
  simp [ofPath, hmore, hearlier, hlonger]

theorem ne_empty_of_ofPath {path name : String} {steps : List Step}
    (hpath : ofPath path = steps ++ [.down name]) : path ≠ "" := by
  rintro rfl
  cases steps <;> simp [ofPath, Path.splitSlashes, ofPart] at hpath

/-- What is added to a path that asks for a step down leaves its start as it is. -/
theorem isAbsolute_append {path name : String} {steps : List Step} (suffix : String)
    (hpath : ofPath path = steps ++ [.down name]) :
    Path.isAbsolute (path ++ suffix) = Path.isAbsolute path := by
  have hne : path.toList ≠ [] := by simpa using ne_empty_of_ofPath hpath
  simp [Path.isAbsolute, List.head?_append_of_ne_nil _ hne]

end Step

namespace Disk

variable {disk : Disk} {path text name : String} {directory place : Place} {steps : List Step}

/-! ### The directory of an entry -/

/-- Steps lead from where a path starts to a directory. -/
structure Enters (disk : Disk) (path : String) (steps : List Step) (directory : Place) : Prop where
  leads : ∃ links ≤ linkLimit, disk.Leads links (disk.start path) steps directory
  isDirectory : disk.at? directory = some .directory

theorem Enters.unique {other : Place} (h : disk.Enters path steps directory)
    (h' : disk.Enters path steps other) : directory = other := by
  obtain ⟨_, -, hleads⟩ := h.leads
  obtain ⟨_, -, hleads'⟩ := h'.leads
  exact hleads.unique hleads'

theorem Enters.of_passages {other : Disk} (h : disk.Enters path steps directory)
    (hhome : other.home = disk.home)
    (hother : ∀ place, disk.IsPassage place → other.at? place = disk.at? place) :
    other.Enters path steps directory := by
  obtain ⟨links, hlimit, hleads⟩ := h.leads
  have hstart : other.start path = disk.start path := by simp [start, hhome]
  refine ⟨⟨links, hlimit, hstart ▸ hleads.of_passages h.isDirectory hother⟩, ?_⟩
  rw [hother directory (.inl h.isDirectory), h.isDirectory]

theorem locate_eq_ok_iff : disk.locate path = .ok (directory, name) ↔
    ∃ parents, (Path.components path).reverse = .name name :: parents ∧
      disk.Enters path (parents.reverse.filterMap Step.ofComponent?) directory := by
  unfold locate
  split
  · rename_i last parents hcomponents
    constructor
    · intro h
      obtain ⟨place, hwalk, hplace⟩ := bind_eq_ok_iff.mp h
      split_ifs at hplace with hdirectory
      obtain ⟨rfl, rfl⟩ := Prod.mk.inj (Except.ok.inj hplace)
      exact ⟨parents, hcomponents, walk_eq_ok_iff.mp hwalk, hdirectory⟩
    · rintro ⟨others, hothers, henters⟩
      obtain ⟨hlast, rfl⟩ := List.cons_eq_cons.mp (hcomponents.symm.trans hothers)
      rw [walk_eq_ok_iff.mpr henters.leads]
      simp [henters.isDirectory, bind, Except.bind, Path.Component.name.inj hlast]
  · rename_i hcomponents
    simp only [reduceCtorEq, false_iff]
    rintro ⟨parents, hparents, -⟩
    exact hcomponents _ _ hparents

theorem of_locate_eq_ok (h : disk.locate path = .ok (directory, name)) :
    ∃ steps stays, Step.ofPath path = steps ++ .down name :: stays ∧
      (∀ step ∈ stays, step = .here) ∧ disk.Enters path steps directory := by
  obtain ⟨parents, hcomponents, ⟨links, hlimit, hleads⟩, hdirectory⟩ := locate_eq_ok_iff.mp h
  have hmoves := Step.filterMap_components path
  rw [List.reverse_eq_cons_iff.mp hcomponents, List.filterMap_append] at hmoves
  obtain ⟨first, second, hsteps, hfirst, hsecond⟩ := List.filter_eq_append_iff.mp hmoves.symm
  obtain ⟨early, late, rfl, hearly, -, hlate⟩ := List.filter_eq_cons_iff.mp hsecond
  have hlead : (first ++ early).filter (· ≠ .here) =
      (parents.reverse.filterMap Step.ofComponent?).filter (· ≠ .here) := by
    have hnone : early.filter (· ≠ .here) = [] := List.filter_eq_nil_iff.mpr hearly
    rw [← hfirst, List.filter_append, hnone, List.append_nil, List.filter_filter]
    simp
  exact ⟨first ++ early, late, by simp [hsteps], by simpa using hlate,
    ⟨links, hlimit, hleads.of_filter_eq hdirectory hlead⟩, hdirectory⟩

theorem eq_of_append_stays {others stays : List Step} {last : String}
    (hstays : ∀ step ∈ stays, step = .here)
    (h : others ++ .down last :: stays = steps ++ [.down name]) :
    stays = [] ∧ others = steps ∧ last = name := by
  rcases List.eq_nil_or_concat stays with rfl | ⟨init, step, rfl⟩
  · obtain ⟨hsteps, hlast⟩ := List.append_inj' h rfl
    exact ⟨rfl, hsteps, by simpa using hlast⟩
  · obtain rfl := hstays step (by simp)
    have hends : (others ++ .down last :: init) ++ [.here] = steps ++ [.down name] := by
      simpa using h
    exact absurd (List.append_inj' hends rfl).2 (by simp)

theorem of_locate_eq_ok_of_steps (hpath : Step.ofPath path = steps ++ [.down name]) {last : String}
    (h : disk.locate path = .ok (directory, last)) :
    last = name ∧ disk.Enters path steps directory := by
  obtain ⟨others, stays, hothers, hstays, henters⟩ := of_locate_eq_ok h
  obtain ⟨-, rfl, rfl⟩ := eq_of_append_stays hstays (hothers.symm.trans hpath)
  exact ⟨rfl, henters⟩

theorem of_locate_eq_ok_of_ends (hends : ∀ steps, Step.ofPath path ≠ steps ++ [.here])
    (h : disk.locate path = .ok (directory, name)) :
    ∃ steps, Step.ofPath path = steps ++ [.down name] ∧ disk.Enters path steps directory := by
  obtain ⟨steps, stays, hpath, hstays, henters⟩ := of_locate_eq_ok h
  rcases List.eq_nil_or_concat stays with rfl | ⟨init, step, rfl⟩
  · exact ⟨steps, hpath, henters⟩
  · obtain rfl := hstays step (by simp)
    exact absurd (by simpa using hpath) (hends (steps ++ .down name :: init))

/-! ### Reading the file that a path leads to -/

theorem contents_of_readText (h : disk.readText path = .ok text) :
    disk.contents path = .ok (.text text) := by
  obtain ⟨contents, hcontents, htext⟩ := bind_eq_ok_iff.mp h
  cases contents with
  | text found =>
      obtain rfl := Except.ok.inj htext
      exact hcontents
  | raw bytes => cases htext

theorem canonical_eq_ok_iff : disk.canonical path = .ok place ↔ path ≠ "" ∧
    ∃ links ≤ linkLimit, disk.Leads links (disk.start path) (Step.ofPath path) place := by
  unfold canonical
  split_ifs with hempty
  · simp [String.isEmpty_iff.mp hempty]
  · rw [walk_eq_ok_iff, and_iff_right fun heq => hempty (String.isEmpty_iff.mpr heq)]

theorem find_eq_ok_iff {entry : Entry} : disk.find path = .ok entry ↔
    ∃ place, disk.canonical path = .ok place ∧ disk.at? place = some entry := by
  rw [find, bind_eq_ok_iff]
  refine exists_congr fun place => and_congr_right fun _ => ?_
  cases disk.at? place <;> simp

theorem contents_eq_ok_iff {contents : Contents} : disk.contents path = .ok contents ↔
    ∃ place mode, disk.canonical path = .ok place ∧
      disk.at? place = some (.file contents mode) := by
  rw [Disk.contents, bind_eq_ok_iff]
  constructor
  · rintro ⟨entry, hfind, hcontents⟩
    obtain ⟨place, hcanonical, hentry⟩ := find_eq_ok_iff.mp hfind
    cases entry with
    | file found mode =>
        obtain rfl := Except.ok.inj hcontents
        exact ⟨place, mode, hcanonical, hentry⟩
    | directory => cases hcontents
    | link target => cases hcontents
  · rintro ⟨place, mode, hcanonical, hentry⟩
    exact ⟨.file contents mode, find_eq_ok_iff.mpr ⟨place, hcanonical, hentry⟩, rfl⟩

theorem readText_eq_ok_iff : disk.readText path = .ok text ↔
    disk.contents path = .ok (.text text) := by
  refine ⟨contents_of_readText, fun h => ?_⟩
  rw [readText, h]
  rfl

theorem of_readText_eq_ok (h : disk.readText path = .ok text) :
    ∃ place mode links, links ≤ linkLimit ∧
      disk.Leads links (disk.start path) (Step.ofPath path) place ∧
      disk.at? place = some (.file (.text text) mode) := by
  obtain ⟨place, mode, hcanonical, hfile⟩ := contents_eq_ok_iff.mp (contents_of_readText h)
  obtain ⟨-, links, hlimit, hleads⟩ := canonical_eq_ok_iff.mp hcanonical
  exact ⟨place, mode, links, hlimit, hleads, hfile⟩

theorem ofPath_ne_append_here (h : disk.readText path = .ok text) :
    Step.ofPath path ≠ steps ++ [.here] := by
  intro hpath
  obtain ⟨place, mode, links, -, hleads, hfile⟩ := of_readText_eq_ok h
  rw [hpath] at hleads
  rw [hleads.goal_eq_directory_of_here] at hfile
  cases hfile

theorem exists_enters_of_readText (h : disk.readText path = .ok text)
    (hlocate : disk.locate path = .ok (directory, name)) :
    ∃ steps, Step.ofPath path = steps ++ [.down name] ∧ disk.Enters path steps directory :=
  of_locate_eq_ok_of_ends (fun _ => ofPath_ne_append_here h) hlocate

theorem find_of_contents {contents : Contents} (h : disk.contents path = .ok contents) :
    ∃ mode, disk.find path = .ok (.file contents mode) := by
  obtain ⟨place, mode, hcanonical, hfile⟩ := contents_eq_ok_iff.mp h
  exact ⟨mode, find_eq_ok_iff.mpr ⟨place, hcanonical, hfile⟩⟩

theorem readText_of_find {mode : Nat} (h : disk.find path = .ok (.file (.text text) mode)) :
    disk.readText path = .ok text := by
  obtain ⟨place, hcanonical, hfile⟩ := find_eq_ok_iff.mp h
  exact readText_eq_ok_iff.mpr (contents_eq_ok_iff.mpr ⟨place, mode, hcanonical, hfile⟩)

theorem find_of_enters {entry : Entry} (h : disk.Enters path steps directory)
    (hpath : Step.ofPath path = steps ++ [.down name])
    (hentry : disk.at? (directory ++ [name]) = some entry) (hlink : ∀ target, entry ≠ .link target) :
    disk.find path = .ok entry := by
  obtain ⟨links, hlimit, hleads⟩ := h.leads
  have hlast : disk.Leads 0 directory [.down name] (directory ++ [name]) :=
    .down h.isDirectory hentry hlink (.arrived _)
  have hcanonical : disk.canonical path = .ok (directory ++ [name]) :=
    canonical_eq_ok_iff.mpr ⟨Step.ne_empty_of_ofPath hpath, _, hlimit, hpath ▸ hleads.append hlast⟩
  exact find_eq_ok_iff.mpr ⟨_, hcanonical, hentry⟩

theorem readText_of_enters {mode : Nat} (h : disk.Enters path steps directory)
    (hpath : Step.ofPath path = steps ++ [.down name])
    (hfile : disk.at? (directory ++ [name]) = some (.file (.text text) mode)) :
    disk.readText path = .ok text :=
  readText_of_find (find_of_enters h hpath hfile (by simp))

/-- What reading along a path to an entry comes to is that entry, or what its link leads to. -/
theorem of_readText_of_steps (hpath : Step.ofPath path = steps ++ [.down name])
    (h : disk.readText path = .ok text) :
    ∃ directory place mode links, disk.Enters path steps directory ∧
      disk.Leads links directory [.down name] place ∧
      disk.at? place = some (.file (.text text) mode) := by
  obtain ⟨place, mode, links, hlimit, hleads, hfile⟩ := of_readText_eq_ok h
  rw [hpath] at hleads
  obtain ⟨before, after, directory, hlinks, hfirst, hlast⟩ := hleads.of_append
  have hdirectory := hlast.start_eq_directory (by simp)
  exact ⟨directory, place, mode, after, ⟨⟨before, by omega, hfirst⟩, hdirectory⟩, hlast, hfile⟩

/-! ### Free names -/

theorem at?_freeName {names : Nat → String} {fuel first : Nat}
    (h : disk.at? (directory ++ [disk.freeName directory names fuel first]) ≠ none) :
    ∀ n < fuel, disk.at? (directory ++ [names (first + n)]) ≠ none := by
  induction fuel generalizing first with
  | zero => simp
  | succ fuel ih =>
      by_cases hfree : disk.at? (directory ++ [names first]) = none
      · simp [freeName, hfree] at h
      · intro n hn
        have hnext : disk.at? (directory ++ [disk.freeName directory names fuel (first + 1)]) ≠
            none := by simpa [freeName, hfree] using h
        cases n with
        | zero => exact hfree
        | succ n =>
            rw [show first + (n + 1) = first + 1 + n by omega]
            exact ih hnext n (by omega)

theorem numbered_injective (stem : String) :
    Function.Injective fun n : Nat => stem ++ toString n := by
  intro a b h
  have hdigits : Nat.toDigits 10 a = Nat.toDigits 10 b := by
    simpa using congrArg String.toList h
  simpa using congrArg (Nat.ofDigitChars 10 · 0) hdigits

/-- Of more names than there are entries, one is free. -/
theorem exists_free (disk : Disk) (directory : Place) {names : Nat → String}
    (hnames : Function.Injective names) :
    ∃ n < disk.entries.length + 1, disk.at? (directory ++ [names n]) = none := by
  by_contra hnone
  push Not at hnone
  let places := (List.range (disk.entries.length + 1)).map fun n => directory ++ [names n]
  have hnodup : places.Nodup := by
    refine List.nodup_range.map fun a b hab => hnames ?_
    simpa using hab
  have hsubset : places ⊆ disk.entries.map Prod.fst := by
    intro place hplace
    obtain ⟨n, hn, rfl⟩ := List.mem_map.mp hplace
    have hentry := hnone n (List.mem_range.mp hn)
    rw [at?_of_ne_nil _ (by simp), ← Option.isSome_iff_ne_none, List.lookup_isSome_iff] at hentry
    obtain ⟨entry, hmem, heq⟩ := hentry
    exact List.mem_map.mpr ⟨entry, hmem, (beq_iff_eq.mp heq).symm⟩
  have hle := (hnodup.subperm hsubset).length_le
  simp only [places, List.length_map, List.length_range] at hle
  omega

theorem at?_draftName (disk : Disk) (directory : Place) :
    disk.at? (directory ++ [disk.draftName directory]) = none := by
  by_contra htaken
  obtain ⟨n, hn, hfree⟩ := disk.exists_free directory (numbered_injective ".tmp")
  have hsome := at?_freeName htaken n hn
  rw [Nat.zero_add] at hsome
  exact hsome hfree

end Disk

end Reconcile
