import Mathlib
import Reconcile.Proofs.Guarding
import Reconcile.Proofs.Preserving
import Reconcile.Proofs.Severing
import Reconcile.Proofs.Staleness

/-!
# What is left of a run that breaks off

A run may break off between any two of its steps. Up to then the file of the suggestion has been put in
place as a whole, if at all, and its former text has been put beside it first. Only a backup that takes the
place of a link which the way to the file follows leaves a path that leads to nothing.
-/

namespace Reconcile

variable {κ ν : Type}

/-- What a run leaves of the file that a path leads to, when it breaks off. -/
structure Disk.Intact (before : Disk) (path resolution : String) (keepsBackup : Bool) (after : Disk) :
    Prop where
  /-- The path leads to all that it led to, or to all of the new text, unless the backup is in its way. -/
  contents : after.contents path = before.contents path ∨
    after.contents path = .ok (.text resolution) ∨ keepsBackup = true ∧ before.Severed path after
  /-- In any case the entry is as it was, and so is the file that it led to, or it is a file with all of
  the former text or all of the new one. -/
  entry : ∀ directory name place, before.locate path = .ok (directory, name) →
    before.canonical path = .ok place →
      (after.at? (directory ++ [name]) = before.at? (directory ++ [name]) ∧
        after.at? place = before.at? place) ∨
      ∃ text mode, (before.readText path = .ok text ∨ text = resolution) ∧
        after.at? (directory ++ [name]) = some (.file (.text text) mode)
  /-- Beside an entry that does not hold the former text stands a file that does. -/
  backup : keepsBackup = true → after.contents path ≠ before.contents path →
    ∃ directory name millis text mode, before.locate path = .ok (directory, name) ∧
      before.readText path = .ok text ∧
        after.at? (directory ++ [Backup.pathAt name millis]) = some (.file (.text text) mode)

/-- What is seen of the file of a guard while it is written. -/
structure Guard.Sees (guard : Guard) (resolution : String) (before : Disk) (directory : Place)
    (name : String) (place : Place) (after : Disk) : Prop where
  entry : (after.at? (directory ++ [name]) = before.at? (directory ++ [name]) ∧
      after.at? place = before.at? place) ∨
    ∃ text mode, (text = guard.former ∨ text = resolution) ∧
      after.at? (directory ++ [name]) = some (.file (.text text) mode)
  copy : guard.backup ≠ none → ∃ millis mode,
    after.at? (directory ++ [Backup.pathAt name millis]) = some (.file (.text guard.former) mode)
  reads : (∃ text, (text = guard.former ∨ text = resolution) ∧ after.readText guard.target = .ok text) ∨
    guard.backup ≠ none ∧ before.Severed guard.target after

namespace Guard

variable {guard : Guard} {before after : Disk} {path text resolution name : String}
  {directory place : Place} {keepsBackup : Bool}

theorem Sees.intact (h : guard.Sees resolution before directory name place after)
    (hreads : before.ReadsAt guard.target guard.former directory name place)
    (hbackup : guard.backup ≠ none ↔ keepsBackup = true) :
    before.Intact guard.target resolution keepsBackup after where
  contents := by
    obtain ⟨text, rfl | rfl, hread⟩ | ⟨hmade, hsevered⟩ := h.reads
    · rw [Disk.contents_of_readText hread, Disk.contents_of_readText hreads.readText]
      exact .inl rfl
    · exact .inr (.inl (Disk.contents_of_readText hread))
    · exact .inr (.inr ⟨hbackup.mp hmade, hsevered⟩)
  entry directory' name' place' hlocate hcanonical := by
    obtain ⟨rfl, rfl⟩ := Prod.mk.inj (Except.ok.inj (hreads.locate.symm.trans hlocate))
    obtain rfl := Except.ok.inj (hreads.canonical.symm.trans hcanonical)
    refine h.entry.imp_right ?_
    rintro ⟨text, mode, rfl | rfl, hfile⟩
    · exact ⟨_, mode, .inl hreads.readText, hfile⟩
    · exact ⟨_, mode, .inr rfl, hfile⟩
  backup hkeeps _ := by
    obtain ⟨millis, mode, hcopy⟩ := h.copy (hbackup.mpr hkeeps)
    exact ⟨directory, name, millis, _, mode, hreads.locate, hreads.readText, hcopy⟩

theorem sees_drafts (hreads : before.ReadsAt path text directory name place)
    (hdrafts : before.Drafts after) :
    Sees ⟨path, none, text⟩ resolution before directory name place after where
  entry := .inl ⟨hdrafts.at?_eq hreads.at?_entry_ne_none, hdrafts.at?_eq hreads.at?_place_ne_none⟩
  copy hmade := absurd rfl hmade
  reads := .inl ⟨text, .inl rfl, hdrafts.readText hreads.readText⟩

theorem sees_backUp {millis : Int} (hreads : before.ReadsAt path text directory name place)
    (hfree : before.hasPath (Backup.pathAt path millis) = false)
    (hreplaced : before.Replaced (Backup.pathAt path millis) text after) :
    Sees ⟨path, some (Backup.pathAt path millis), text⟩ resolution before directory name place
      after := by
  obtain ⟨hentry, hplace⟩ := hreads.ne_backup millis hfree
  have hfile := hreads.fileAt_of_backUp hreplaced
  refine ⟨.inl ⟨hfile.others _ hentry, hfile.others _ hplace⟩, fun _ => ⟨millis, hfile.file⟩, ?_⟩
  by_cases hneeds : before.NeedsLink path directory name millis
  · exact .inr ⟨by simp, hreads.severed_of_needsLink hfree hneeds hreplaced⟩
  · exact .inl ⟨text, .inl rfl, hreads.readText_of_not_needsLink hfree hneeds hreplaced⟩

/-- Neither drafts nor a text in place of the file change for the worse what is seen of it. -/
theorem keeps_sees (resolution : String)
    (hreads : before.ReadsAt guard.target guard.former directory name place) :
    guard.Keeps resolution (fun _ => True) fun disk =>
      (guard.Holds disk ∧ before.Narrows disk) ∧
        guard.Sees resolution before directory name place disk := by
  obtain ⟨steps, hpath, henters⟩ := hreads.named
  refine (keeps_holds resolution ⟨steps, name, hpath⟩ (by simp)).and ?_ ?_
  · intro first second _ hsees hdrafts
    refine ⟨?_, fun hmade => ?_, ?_⟩
    · obtain ⟨hentry, hplace⟩ | ⟨text, mode, htext, hfile⟩ := hsees.entry
      · rw [← hentry, ← hplace]
        refine .inl ⟨hdrafts.at?_eq ?_, hdrafts.at?_eq ?_⟩
        · exact hentry ▸ hreads.at?_entry_ne_none
        · exact hplace ▸ hreads.at?_place_ne_none
      · exact .inr ⟨text, mode, htext, hdrafts.at?_eq_some hfile⟩
    · obtain ⟨millis, mode, hcopy⟩ := hsees.copy hmade
      exact ⟨millis, mode, hdrafts.at?_eq_some hcopy⟩
    · obtain ⟨text, htext, hread⟩ | ⟨hmade, hsevered⟩ := hsees.reads
      · exact .inl ⟨text, htext, hdrafts.readText hread⟩
      · exact .inr ⟨hmade, hsevered.drafts hpath hdrafts⟩
  · rintro first second text htext ⟨hholds, hnarrows⟩ hsees hreplaced
    refine ⟨?_, fun hmade => ?_, .inl ⟨text, htext, hholds.readText_of_replaced hreplaced⟩⟩
    · obtain ⟨directory', last, hlocate, hfile⟩ := hreplaced
      obtain ⟨rfl, rfl⟩ :=
        Prod.mk.inj (Except.ok.inj ((hnarrows.locate hlocate).symm.trans hreads.locate))
      obtain ⟨mode, hentry⟩ := hfile.file
      exact .inr ⟨text, mode, htext, hentry⟩
    · obtain ⟨directory', last, hlocate, hfile⟩ := hreplaced
      obtain ⟨rfl, rfl⟩ :=
        Prod.mk.inj (Except.ok.inj ((hnarrows.locate hlocate).symm.trans hreads.locate))
      obtain ⟨millis, mode, hcopy⟩ := hsees.copy hmade
      refine ⟨millis, mode, (hfile.others _ fun hsame => ?_).trans hcopy⟩
      exact Backup.pathAt_ne last millis (by simpa using (List.append_inj' hsame rfl).2)

theorem spares_severed {ν : Type} {steps : List Step} (id : String)
    (hpath : Step.ofPath guard.target = steps ++ [.down name]) :
    guard.Spares id fun disk (_ : Store ν) _ => before.Severed guard.target disk where
  noted _ _ _ _ h := h
  littered _ _ _ _ _ h hlitters := h.drafts hpath (hlitters.imp fun _ => And.left)
  written _ _ _ _ _ _ h hreplaced _ := by
    obtain ⟨directory, last, hlocate, -⟩ := hreplaced
    exact absurd hlocate (h.unnamed directory last)
  marked _ _ _ _ _ _ h _ := h

open Course in
/-- Making a guard fails only by a step that fails by itself. -/
theorem ensures_create_fault {env : Environment ν}
    (hreads : env.disk.ReadsAt path text directory name place) (keepsBackup : Bool) :
    Ensures (create path text keepsBackup) env fun result _ => ∀ error, result = .error error →
      ∃ step : WriteStep, step.isVital ∧ env.faults (.backUp step) ≠ none := by
  by_cases hfaults : ∃ step : WriteStep, step.isVital ∧ env.faults (.backUp step) ≠ none
  · exact fun _ _ => hfaults
  push Not at hfaults
  obtain ⟨steps, hpath, henters⟩ := hreads.named
  unfold create
  split
  · have hlocate : env.disk.locate (Backup.freePath env.disk path (env.clock env.readings).millis) =
        .ok (directory, _) :=
      Disk.locate_of_enters (Backup.ofPath_pathAt hpath _) ((Backup.enters_pathAt_iff hpath _).mpr henters)
    refine ensures_bind (ensures_now (ensures_bind (ensures_disk (ensures_bind ?_))))
    refine Ensures.mono (ensures_writeText_ok ?_ hlocate ?_) ?_
    · exact hfaults
    · intro hplace
      have hfree := Backup.hasPath_freePath hpath henters (env.clock env.readings).millis
      obtain ⟨target, htarget⟩ := Backup.link_of_hasPath_eq_false hpath henters hfree hplace
      cases htarget
    · rintro _ after rfl
      exact ensures_pure (by simp)
  · exact ensures_pure (by simp)

end Guard

namespace Engine

open Course

variable {env : Environment ν} {suggestion : Suggestion ν} {path text : String}

theorem intact_throughout_applyTo (engine : Engine κ ν) (suggestion : Suggestion ν)
    (hnamed : ∃ steps name, Step.ofPath path = steps ++ [.down name])
    (hread : env.disk.readText path = .ok text) (keepsBackup : Bool) :
    Throughout (engine.applyTo suggestion path text keepsBackup) env (fun _ => True)
      (env.disk.Intact path suggestion.resolution keepsBackup) := by
  obtain ⟨directory, name, place, hreads⟩ := Disk.ReadsAt.of_readText hnamed hread
  have hfree (millis : Int) : env.disk.hasPath (Backup.freePath env.disk path millis) = false := by
    obtain ⟨steps, hpath, henters⟩ := hreads.named
    exact Backup.hasPath_freePath hpath henters millis
  have hholds := Guard.Holds.of_readText hread
  -- Before there is a backup, nothing is missing that one would be for.
  have hunwritten (disk : Disk) (hdrafts : env.disk.Drafts disk) :
      env.disk.Intact path suggestion.resolution keepsBackup disk := by
    have hsees : Guard.Sees ⟨path, none, text⟩ suggestion.resolution env.disk directory name place
        disk := Guard.sees_drafts hreads hdrafts
    have hintact : env.disk.Intact path suggestion.resolution false disk :=
      hsees.intact hreads (by simp)
    have hsame : disk.contents path = env.disk.contents path := by
      rw [Disk.contents_of_readText (hdrafts.readText hread), Disk.contents_of_readText hread]
    exact ⟨.inl hsame, hintact.entry, fun _ hne => absurd hsame hne⟩
  refine throughout_applyTo (Guard.throughout_create (hunwritten _ (.refl env.disk))
    (fun _ => hunwritten) ?_ (by simp)) ((Guard.ensures_create_made path text keepsBackup env).mono ?_)
  · intro hkeeps millis disk hreplaced
    have hsees : Guard.Sees ⟨path, some (Backup.freePath env.disk path millis), text⟩
        suggestion.resolution env.disk directory name place disk :=
      Guard.sees_backUp hreads (hfree millis) hreplaced
    exact hsees.intact hreads (by simp [hkeeps])
  · intro result after hmade guard hguard
    have hmade := hmade guard hguard
    cases keepsBackup with
    | true =>
        obtain ⟨rfl, hreplaced⟩ := hmade
        exact ⟨_, ⟨⟨hholds.backUp hreplaced, hreplaced.narrows⟩,
          Guard.sees_backUp hreads (hfree _) hreplaced⟩,
          fun disk h => h.2.intact hreads (by simp), Guard.keeps_sees suggestion.resolution hreads⟩
    | false =>
        obtain ⟨rfl, hsame⟩ := hmade
        refine ⟨_, ?_, fun disk h => h.2.intact hreads (by simp),
          Guard.keeps_sees suggestion.resolution hreads⟩
        rw [hsame]
        exact ⟨⟨hholds, .refl env.disk⟩, Guard.sees_drafts hreads (.refl env.disk)⟩

/-- Wherever a run breaks off, the file of the suggestion is whole, and where it no longer is the former
one there is a backup of that. -/
theorem intact_throughout_apply (engine : Engine κ ν) (id : String) (options : ApplyOptions)
    (env : Environment ν) {row : Row ν} (hrow : env.store.row? id = some row) :
    Throughout (engine.apply id options) env (fun _ => True)
      (env.disk.Intact row.filePath row.resolution options.keepsBackup) := by
  refine throughout_apply ⟨.inl rfl, fun _ _ _ _ _ => .inl ⟨rfl, rfl⟩, fun _ h => absurd rfl h⟩
    (by simp) ?_
  intro suggestion path text middle hget hresolve hread hunmoved _
  have hholds := Store.holds_of_get hrow hget
  have hpath : path = row.filePath := by
    rw [(Disk.validate_of_resolveIn hresolve).2, hholds.repository, hholds.path]
    rfl
  have hnamed := Disk.exists_down_of_resolveIn hresolve fun _ => Disk.ofPath_ne_append_here hread
  rw [← hpath, ← hholds.resolution, ← hunmoved.disk]
  rw [← hunmoved.disk] at hread
  exact intact_throughout_applyTo engine suggestion hnamed hread options.keepsBackup

/-- A run that is undone after the new text has been there. -/
theorem intact_throughout_apply_unreadable :
    unreadable.store.row? "s" = some unappliedRow ∧
      Throughout (plainEngine.apply "s" .standard) unreadable (fun _ => True)
        (unreadable.disk.Intact unappliedRow.filePath "1\n" true) := by
  have hrow : unreadable.store.row? "s" = some unappliedRow := rfl
  exact ⟨hrow, intact_throughout_apply plainEngine "s" .standard unreadable hrow⟩

/-! ### Runs that leave a path to nothing -/

/-- A run that finds marker lines and takes for its backup the name of a link that is needed leaves a path
that leads to nothing, whatever it does then. -/
theorem severed_apply (engine : Engine κ ν) (options : ApplyOptions) {id name : String}
    {directory place : Place} (h : env.Finds id suggestion path text)
    (hmarkers : Text.countMarkers text ≠ 0) (hdry : options.isDryRun = false)
    (hkeeps : options.keepsBackup = true)
    (hfaults : ∀ step : WriteStep, step.isVital → env.faults (.backUp step) = none)
    (hreads : env.disk.ReadsAt path text directory name place)
    (hneeds : env.disk.NeedsLink path directory name
      (Backup.freeMillis env.disk path (env.disk.entries.length + 1) (env.clock env.readings).millis)) :
    env.disk.Severed path (engine.apply id options env).2.disk := by
  obtain ⟨steps, hpath, henters⟩ := hreads.named
  rw [apply_of_finds h, if_neg hmarkers, if_neg (by simp [hdry]), hkeeps]
  have hchecked : (env.checked path).disk.ReadsAt path text directory name place := hreads
  have hrun : Ensures (engine.applyTo suggestion path text true) (env.checked path)
      fun _ after => env.disk.Severed path after.disk := by
    refine ensures_applyTo_of_spares _ (((Guard.ensures_create_made path text true _).and
      (Guard.ensures_create_fault hchecked true)).mono ?_)
    rintro (error | guard) first ⟨hmade, hfault⟩
    · obtain ⟨step, hvital, hstep⟩ := hfault error rfl
      exact absurd (hfaults step hvital) hstep
    · obtain ⟨rfl, hreplaced⟩ := hmade guard rfl
      refine ⟨_, Guard.spares_severed suggestion.id hpath, ?_, fun _ hlast => hlast⟩
      exact hreads.severed_of_needsLink (Backup.hasPath_freePath hpath henters _) hneeds hreplaced
  exact hrun

/-- A conflicted file in a directory that is entered by forty links: by a link `d` eight times, which goes
four times through a link with the name that the next backup of the file takes. -/
def entangled : Environment Rat where
  disk := ⟨[(["r"], .directory), (["r", "f"], .file (.text "<<<<<<< a\n1\n=======\n2\n>>>>>>> b\n") 0o644),
    (["r", "d"], .link "f.bak.0/f.bak.0/f.bak.0/f.bak.0"), (["r", "f.bak.0"], .link ".")], []⟩
  store := ⟨2, some [{ unappliedRow with path := "d/d/d/d/d/d/d/d/f" }], some [], false⟩
  clock _ := ⟨⟨1970, 1, 1⟩, 0, 0, 0, 0⟩
  readings := 0
  ids _ := ""
  issued := 0
  faults _ := none
  trail := []

/-- A suggestion whose file has been deleted. -/
def vanished : Environment Rat := { unreadable with disk := ⟨[(["r"], .directory)], []⟩ }

section Entangled

private theorem at?_home : entangled.disk.at? ["r"] = some .directory := by decide

private theorem at?_copy : entangled.disk.at? (["r"] ++ ["f.bak.0"]) = some (.link ".") := by decide

private theorem at?_door :
    entangled.disk.at? (["r"] ++ ["d"]) = some (.link "f.bak.0/f.bak.0/f.bak.0/f.bak.0") := by decide

private theorem steps_door : Step.ofPath "f.bak.0/f.bak.0/f.bak.0/f.bak.0" =
    [.down "f.bak.0"] ++ ([.down "f.bak.0"] ++ ([.down "f.bak.0"] ++ [.down "f.bak.0"])) := by decide

private theorem linkStart_door : Disk.linkStart ["r"] "f.bak.0/f.bak.0/f.bak.0/f.bak.0" = ["r"] := by
  decide

private theorem steps_entangled : Step.ofPath "r/d/d/d/d/d/d/d/d/f" =
    (.down "r" :: List.replicate 8 (.down "d")) ++ [.down "f"] := by decide

/-- Each link to the home of the file takes five links, and with it a link that is a backup's. -/
theorem leads_entangled (count : Nat) :
    entangled.disk.Leads (5 * count) ["r"] (List.replicate count (.down "d")) ["r"] := by
  have hround : entangled.disk.Leads 1 ["r"] [.down "f.bak.0"] ["r"] :=
    .follow at?_home at?_copy (.here at?_home (.arrived _))
  have hentered : entangled.disk.Leads 5 ["r"] [.down "d"] ["r"] := by
    refine .follow at?_home at?_door ?_
    rw [steps_door, linkStart_door, List.append_nil]
    exact hround.append (hround.append (hround.append hround))
  induction count with
  | zero => exact .arrived _
  | succ count ih =>
      rw [List.replicate_succ', Nat.mul_succ]
      exact ih.append hentered

theorem enters_entangled :
    entangled.disk.Leads 40 [] (.down "r" :: List.replicate 8 (.down "d")) ["r"] :=
  .down rfl at?_home (by simp) (leads_entangled 8)

theorem readsAt_entangled : entangled.disk.ReadsAt "r/d/d/d/d/d/d/d/d/f"
    "<<<<<<< a\n1\n=======\n2\n>>>>>>> b\n" ["r"] "f" ["r", "f"] := by
  have hfile : entangled.disk.at? (["r"] ++ ["f"]) =
      some (.file (.text "<<<<<<< a\n1\n=======\n2\n>>>>>>> b\n") 0o644) := by decide
  have hlast : entangled.disk.Leads 0 ["r"] [.down "f"] ["r", "f"] :=
    .down at?_home hfile (by simp) (.arrived _)
  refine ⟨⟨_, steps_entangled, ⟨40, le_rfl, enters_entangled⟩, at?_home⟩, ⟨0, hlast⟩, ?_, _, hfile⟩
  refine Disk.canonical_eq_ok_iff.mpr ⟨by decide, 40, le_rfl, ?_⟩
  rw [steps_entangled]
  exact enters_entangled.append hlast

theorem needsLink_entangled : entangled.disk.NeedsLink "r/d/d/d/d/d/d/d/d/f" ["r"] "f" 0 := by
  have hname : Backup.pathAt "f" 0 = "f.bak.0" := by decide +kernel
  refine ⟨⟨".", by rw [hname]; exact at?_copy⟩, fun hsame => ?_, ?_⟩
  · rw [hname, Disk.contents_of_readText readsAt_entangled.readText] at hsame
    obtain ⟨place, mode, hcanonical, -⟩ := Disk.contents_eq_ok_iff.mp hsame
    obtain ⟨-, links, -, hleads⟩ := Disk.canonical_eq_ok_iff.mp hcanonical
    have hnone : (entangled.disk.remove (["r"] ++ ["f.bak.0"])).at? (["r"] ++ ["f.bak.0"]) = none := by
      decide
    have hdoor : (entangled.disk.remove (["r"] ++ ["f.bak.0"])).at? (["r"] ++ ["d"]) =
        some (.link "f.bak.0/f.bak.0/f.bak.0/f.bak.0") := by decide
    have hstart : (entangled.disk.remove (["r"] ++ ["f.bak.0"])).start "r/d/d/d/d/d/d/d/d/f" = [] := by
      decide
    rw [steps_entangled, hstart] at hleads
    obtain ⟨_, _, _, -, hfirst, -⟩ := hleads.of_append
    cases hfirst with
    | follow _ hlink _ => cases hlink
    | down _ _ _ hrest =>
        cases hrest with
        | down _ hentry hlink _ => exact hlink _ (Option.some.inj (hentry.symm.trans hdoor))
        | follow _ hlink hrest =>
            obtain rfl := Entry.link.inj (Option.some.inj (hdoor.symm.trans hlink))
            rw [steps_door, List.append_assoc] at hrest
            cases hrest with
            | down _ hentry _ _ => cases hnone.symm.trans hentry
            | follow _ hentry _ => cases hnone.symm.trans hentry
  · have hsteps := Backup.ofPath_pathAt steps_entangled 0
    have hlast : entangled.disk.Leads 1 ["r"] [.down (Backup.pathAt "f" 0)] ["r"] := by
      rw [hname]
      exact .follow at?_home at?_copy (.here at?_home (.arrived _))
    have hleads := enters_entangled.append hlast
    rw [← hsteps] at hleads
    rw [Disk.canonical, if_neg (by simpa using Step.ne_empty_of_ofPath hsteps),
      Backup.start_pathAt steps_entangled]
    refine (hleads.walk_eq_ok_or Disk.linkLimit).resolve_left fun hok => ?_
    obtain ⟨links, hlimit, hfew⟩ := Disk.leads_of_walk_eq_ok hok
    obtain ⟨rfl, -⟩ := hleads.unique_links hfew
    exact absurd hlimit (by decide)

/-- Without any step that fails by itself a run puts its backup in place of a link that the way to its file
follows, and from then on the path leads to nothing. Where it led to nothing before, it still does. -/
theorem entangled_is_severed :
    (¬Throughout (plainEngine.apply "s" .standard) entangled (fun _ => True) fun disk =>
      disk.contents "r/d/d/d/d/d/d/d/d/f" = entangled.disk.contents "r/d/d/d/d/d/d/d/d/f" ∨
        disk.contents "r/d/d/d/d/d/d/d/d/f" = .ok (.text "1\n")) ∧
    ¬Throughout (plainEngine.apply "s" .standard) vanished (fun _ => True) fun disk =>
      ∃ found, disk.contents "r/f" = .ok found := by
  obtain ⟨suggestion, hstored⟩ : ∃ suggestion, entangled.store.get "s" = .ok (some suggestion) :=
    ⟨_, by cbv⟩
  obtain ⟨row, hrow, hholds⟩ := Store.row?_of_get hstored
  obtain rfl : { unappliedRow with path := "d/d/d/d/d/d/d/d/f" } = row := Option.some.inj hrow
  have hresolved : entangled.disk.resolveIn "r" "d/d/d/d/d/d/d/d/f" = .ok "r/d/d/d/d/d/d/d/d/f" := by
    have hjoin : Path.join "r" "d/d/d/d/d/d/d/d/f" = "r/d/d/d/d/d/d/d/d/f" := by decide +kernel
    refine hjoin ▸ Disk.resolveIn_of_canonical (by decide +kernel) (hjoin ▸ readsAt_entangled.canonical) ?_
    intro top htop
    have hroot : entangled.disk.canonical "r" = .ok ["r"] := by cbv
    obtain rfl := Except.ok.inj (hroot.symm.trans htop)
    exact List.prefix_append ["r"] ["f"]
  have hfinds : entangled.Finds "s" suggestion "r/d/d/d/d/d/d/d/d/f"
      "<<<<<<< a\n1\n=======\n2\n>>>>>>> b\n" := by
    refine ⟨rfl, hstored, hholds.isApplied, ?_, rfl, readsAt_entangled.readText⟩
    rw [hholds.repository, hholds.path]
    exact hresolved
  have hmillis : Backup.freeMillis entangled.disk "r/d/d/d/d/d/d/d/d/f" (entangled.disk.entries.length + 1)
      (entangled.clock entangled.readings).millis = 0 := by
    have hnow : (entangled.clock entangled.readings).millis = 0 := by decide +kernel
    have hfree : entangled.disk.hasPath (Backup.pathAt "r/d/d/d/d/d/d/d/d/f" 0) = false := by
      simp [Disk.hasPath, Disk.find, needsLink_entangled.tooMany, bind, Except.bind, Except.isOk,
        Except.toBool]
    rw [hnow, Backup.freeMillis, if_neg (by simp [hfree])]
  have hsevered := severed_apply plainEngine .standard hfinds (by cbv) rfl rfl (fun _ _ => rfl)
    readsAt_entangled (hmillis ▸ needsLink_entangled)
  have hnone : (plainEngine.apply "s" .standard vanished).2.disk.contents "r/f" = .error .missing := by cbv
  constructor
  · intro hintact
    obtain hsame | hnew := hintact.last
    · exact hsevered.lost _ (hsame.trans (Disk.contents_of_readText readsAt_entangled.readText))
    · exact hsevered.lost _ hnew
  · intro hintact
    obtain ⟨found, hfound⟩ := hintact.last
    cases hnone.symm.trans hfound

end Entangled

end Engine

end Reconcile
