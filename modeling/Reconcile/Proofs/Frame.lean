import Mathlib
import Reconcile.Proofs.CrashSafety
import Reconcile.Proofs.Preserving
import Reconcile.Proofs.Reporting
import Reconcile.Proofs.Staleness

/-!
# What a run changes of the tree

A run puts texts in place of the entry of its file, and before that a backup in place of another entry of
the same directory, whose path leads to nothing. A text takes on the permissions of what it replaces if
these can be looked at, and a draft stays only if it cannot be removed. So whatever fails, nothing else of
the tree is changed.
-/

namespace Reconcile

variable {κ ν : Type}

/-- The name of the backup that is made at a time of the file with a name to which a path leads. -/
def Backup.nameFor (disk : Disk) (path name : String) (time : Timestamp) : String :=
  pathAt name (freeMillis disk path (disk.entries.length + 1) time.millis)

namespace Disk

variable {before middle after : Disk} {path text former name : String} {directory place : Place}
  {backup : Option String} {failures more : List Stage}

/-- Two trees differ at most at an entry of a directory, at a backup beside it, and by drafts of which there
are no more than could not be removed. -/
structure Revised (before : Disk) (directory : Place) (name : String) (backup : Option String)
    (former : String) (failures : List Stage) (after : Disk) : Prop where
  home : after.home = before.home
  others : ∃ litter : List Place, litter.length ≤ failures.countP Stage.isDiscard ∧
    (∀ place ∈ litter, before.at? place = none ∧
      ∃ text mode, after.at? place = some (.file (.text text) mode)) ∧
    ∀ place ∉ litter, place ≠ directory ++ [name] →
      (∀ copy, backup = some copy → place ≠ directory ++ [copy]) → after.at? place = before.at? place
  /-- The entry is as it was, or a file has been put in its place. -/
  entry : after.at? (directory ++ [name]) = before.at? (directory ++ [name]) ∨
    ∃ text mode, after.at? (directory ++ [name]) = some (.file (.text text) mode)
  /-- A file keeps its permissions, unless these could not be looked at. -/
  mode : (∀ stage ∈ failures, stage.isLook = false) → ∀ contents mode,
    before.at? (directory ++ [name]) = some (.file contents mode) →
      ∃ found, after.at? (directory ++ [name]) = some (.file found mode)
  copy : ∀ copy, backup = some copy → copy ≠ name ∧
    ∃ mode, after.at? (directory ++ [copy]) = some (.file (.text former) mode)
  /-- The backup takes the place of no file and of no directory. -/
  fresh : ∀ copy entry, backup = some copy → before.at? (directory ++ [copy]) = some entry →
    ∃ target, entry = .link target

theorem LittersBy.refl (disk : Disk) (failures : List Stage) : disk.LittersBy failures disk :=
  ⟨[], Same.litters ⟨rfl, fun _ => rfl⟩, Nat.zero_le _⟩

namespace Revised

theorem refl (disk : Disk) (failures : List Stage) :
    disk.Revised directory name none former failures disk where
  home := rfl
  others := ⟨[], Nat.zero_le _, by simp, fun _ _ _ _ => rfl⟩
  entry := .inl rfl
  mode _ contents _ hentry := ⟨contents, hentry⟩
  copy := by simp
  fresh := by simp

/-- Nothing is lost but at the entry itself. -/
theorem at?_eq_some {entry : Entry} (h : before.Revised directory name backup former failures after)
    (hentry : before.at? place = some entry) (hlink : ∀ target, entry ≠ .link target)
    (hplace : place ≠ directory ++ [name]) : after.at? place = some entry := by
  obtain ⟨litter, -, hlitter, hothers⟩ := h.others
  rw [hothers place (fun hmem => ?_) hplace ?_, hentry]
  · rintro copy hcopy rfl
    obtain ⟨target, htarget⟩ := h.fresh copy entry hcopy hentry
    exact hlink target htarget
  · cases (hlitter place hmem).1.symm.trans hentry

variable (h : before.Revised directory name backup former failures middle)
  (hreads : before.ReadsAt path former directory name place)

include h hreads

theorem at?_entry_ne_none : middle.at? (directory ++ [name]) ≠ none := by
  obtain hsame | ⟨text, mode, hfile⟩ := h.entry
  · exact hsame ▸ hreads.at?_entry_ne_none
  · simp [hfile]

theorem litteredBy (hlitters : middle.LittersBy more after) :
    before.Revised directory name backup former (more ++ failures) after := by
  obtain ⟨litter, hlength, hlitter, hothers⟩ := h.others
  obtain ⟨drafts, hdrafts, hcount⟩ := hlitters
  have hkept : middle.Drafts after := ⟨drafts, hdrafts⟩
  have hentry := hkept.at?_eq (h.at?_entry_ne_none hreads)
  refine ⟨hdrafts.home.trans h.home, ⟨drafts ++ litter, ?_, fun place hplace => ?_,
    fun place hplace hname hbackup => ?_⟩, hentry ▸ h.entry, fun hlooks => ?_, fun copy hbackup => ?_,
    h.fresh⟩
  · rw [List.length_append, List.countP_append]
    omega
  · obtain hdraft | hearlier := List.mem_append.mp hplace
    · obtain ⟨hnone, hfile⟩ := hdrafts.files place hdraft
      -- Where there was nothing by now, there neither is the entry nor its backup nor an earlier draft.
      refine ⟨(hothers place ?_ ?_ ?_).symm.trans hnone, hfile⟩
      · intro hmem
        obtain ⟨-, text, mode, hearlier⟩ := hlitter place hmem
        cases hnone.symm.trans hearlier
      · rintro rfl
        exact h.at?_entry_ne_none hreads hnone
      · rintro copy hbackup rfl
        obtain ⟨-, mode, hcopy⟩ := h.copy copy hbackup
        cases hnone.symm.trans hcopy
    · obtain ⟨hnone, text, mode, hfile⟩ := hlitter place hearlier
      exact ⟨hnone, text, mode, hkept.at?_eq_some hfile⟩
  · rw [List.mem_append, not_or] at hplace
    exact (hdrafts.others place hplace.1).trans (hothers place hplace.2 hname hbackup)
  · rw [hentry]
    exact h.mode fun stage hstage => hlooks stage (List.mem_append_right _ hstage)
  · obtain ⟨hne, mode, hcopy⟩ := h.copy copy hbackup
    exact ⟨hne, mode, hkept.at?_eq_some hcopy⟩

theorem written (hnarrows : before.Narrows middle) (hreplaced : middle.Replaced path text after)
    (hmode : middle.KeepsMode path after ∨ ∃ stage ∈ more, stage.isLook) :
    before.Revised directory name backup former (more ++ failures) after := by
  obtain ⟨directory', last, hlocate, hfile⟩ := hreplaced
  -- What was written in between has not moved the entry that the path names.
  obtain ⟨rfl, rfl⟩ :=
    Prod.mk.inj (Except.ok.inj ((hnarrows.locate hlocate).symm.trans hreads.locate))
  obtain ⟨steps, hpath, -⟩ := hreads.named
  obtain ⟨-, henters⟩ := of_locate_eq_ok_of_steps hpath hlocate
  obtain ⟨litter, hlength, hlitter, hothers⟩ := h.others
  obtain ⟨mode, hentry⟩ := hfile.file
  refine ⟨hfile.home.trans h.home, ⟨litter, ?_, fun place hplace => ?_,
    fun place hplace hname hbackup => ?_⟩, .inr ⟨text, mode, hentry⟩, fun hlooks contents mode hentry => ?_,
    fun copy hbackup => ?_, h.fresh⟩
  · rw [List.countP_append]
    omega
  · obtain ⟨hnone, text, mode, hdraft⟩ := hlitter place hplace
    refine ⟨hnone, text, mode, (hfile.others place ?_).trans hdraft⟩
    rintro rfl
    exact hreads.at?_entry_ne_none hnone
  · exact (hfile.others place hname).trans (hothers place hplace hname hbackup)
  · obtain hmode | ⟨stage, hstage, hlook⟩ := hmode
    · obtain ⟨found, hfound⟩ := h.mode (fun stage hstage =>
        hlooks stage (List.mem_append_right _ hstage)) contents mode hentry
      exact hmode directory' last found mode hlocate (find_of_enters henters hpath hfound (by simp))
    · cases hlook.symm.trans (hlooks stage (List.mem_append_left _ hstage))
  · obtain ⟨hne, mode, hcopy⟩ := h.copy copy hbackup
    refine ⟨hne, mode, (hfile.others _ fun hsame => hne ?_).trans hcopy⟩
    simpa using (List.append_inj' hsame rfl).2

omit h in
theorem of_backUp {time : Timestamp}
    (hreplaced : before.Replaced (Backup.freePath before path time.millis) former after)
    (failures : List Stage) :
    before.Revised directory name (some (Backup.nameFor before path name time)) former failures after := by
  obtain ⟨steps, hpath, henters⟩ := hreads.named
  have hfile : before.FileAt (directory ++ [Backup.nameFor before path name time]) former after :=
    hreads.fileAt_of_backUp hreplaced
  have hfree := Backup.hasPath_freePath hpath henters time.millis
  have hentry := hfile.others _ (hreads.ne_backup _ hfree).1
  refine ⟨hfile.home, ⟨[], Nat.zero_le _, by simp, fun other _ _ hbackup => ?_⟩, .inl hentry,
    fun _ contents mode hfound => ⟨contents, hentry.trans hfound⟩, ?_, ?_⟩
  · exact hfile.others other (hbackup _ rfl)
  · rintro _ ⟨⟩
    exact ⟨Backup.pathAt_ne name _, hfile.file⟩
  · rintro _ entry ⟨⟩ hentry
    exact Backup.link_of_hasPath_eq_false hpath henters hfree hentry

end Revised

end Disk

namespace Environment

/-- Nothing of the tree is changed, but for drafts that could not be removed. -/
def LittersOnly (env after : Environment ν) : Prop :=
  ∃ more, after.failures = more ++ env.failures ∧ env.disk.LittersBy more after.disk

/-- The tree is revised for the suggestion with an id: at the entry that the path of its file names, and
at a backup of what was read there. -/
def RevisedFor (env : Environment ν) (id : String) (keepsBackup : Bool) (after : Environment ν) : Prop :=
  ∃ row directory name text more, env.store.row? id = some row ∧
    env.disk.locate row.filePath = .ok (directory, name) ∧
    env.disk.readText row.filePath = .ok text ∧
    after.failures = more ++ env.failures ∧
    env.disk.Revised directory name (if keepsBackup then
        some (Backup.nameFor env.disk row.filePath name (env.clock env.readings)) else none)
      text more after.disk

end Environment

namespace Guard

open Course

variable {env : Environment ν} {guard : Guard} {before : Disk} {path text name : String}
  {directory place : Place} {backup : Option String}

theorem spares_revised (id : String) (noted : List Stage)
    (hreads : before.ReadsAt guard.target text directory name place) :
    guard.Spares id fun disk (_ : Store ν) failures => before.Narrows disk ∧
      ∃ more, failures = more ++ noted ∧ before.Revised directory name backup text more disk where
  noted disk _ _ stage := by
    rintro ⟨hnarrows, more, rfl, h⟩
    have hnone : disk.LittersBy [stage] disk := .refl disk [stage]
    exact ⟨hnarrows, stage :: more, rfl, h.litteredBy hreads hnone⟩
  littered _ _ _ _ later := by
    rintro ⟨hnarrows, more, rfl, h⟩ hlitters
    have hdrafts : Disk.Drafts _ _ := hlitters.imp fun _ => And.left
    exact ⟨hnarrows.trans hdrafts.narrows, later ++ more, (List.append_assoc _ _ _).symm,
      h.litteredBy hreads hlitters⟩
  written _ _ _ _ later _ := by
    rintro ⟨hnarrows, more, rfl, h⟩ hreplaced hmode
    exact ⟨hnarrows.trans hreplaced.narrows, later ++ more, (List.append_assoc _ _ _).symm,
      h.written hreads hnarrows hreplaced hmode⟩
  marked _ _ _ _ _ _ h _ := h

theorem ensures_create_revised (hreads : env.disk.ReadsAt path text directory name place)
    (keepsBackup : Bool) :
    Ensures (create path text keepsBackup) env fun result after => match result with
      | .ok guard => guard.target = path ∧ env.disk.Narrows after.disk ∧
          ∃ more, after.failures = more ++ env.failures ∧
            env.disk.Revised directory name (if keepsBackup then
                some (Backup.nameFor env.disk path name (env.clock env.readings)) else none)
              text more after.disk
      | .error _ => env.LittersOnly after := by
  refine ((ensures_create hreads.readText keepsBackup).and
    (ensures_create_made path text keepsBackup env)).mono ?_
  rintro (error | guard) after ⟨hresult, hmade⟩
  · exact hresult.littersBy rfl
  obtain ⟨hcontinues, -, -, htarget, -⟩ := hresult
  obtain ⟨more, hnoted⟩ := hcontinues.failures
  have hmade := hmade guard rfl
  cases keepsBackup with
  | false =>
      obtain ⟨-, hdisk⟩ := hmade
      rw [hdisk]
      exact ⟨htarget, .refl env.disk, more, hnoted.symm, .refl env.disk more⟩
  | true => exact ⟨htarget, hmade.2.narrows, more, hnoted.symm, .of_backUp hreads hmade.2 more⟩

end Guard

namespace Engine

open Course Environment

variable {engine : Engine κ ν} {env : Environment ν} {suggestion : Suggestion ν}
  {path text name id : String} {directory place : Place} {keepsBackup : Bool}
  {options : ApplyOptions} {post : Environment ν → Prop}

theorem exists_readsAt (hget : env.store.get id = .ok (some suggestion))
    (hresolve : env.disk.resolveIn suggestion.repository suggestion.path = .ok path)
    (hread : env.disk.readText path = .ok text) :
    ∃ row directory name place, env.store.row? id = some row ∧ path = row.filePath ∧
      env.disk.ReadsAt path text directory name place := by
  obtain ⟨row, hrow, hholds⟩ := Store.row?_of_get hget
  have hnamed := Disk.exists_down_of_resolveIn hresolve fun _ => Disk.ofPath_ne_append_here hread
  obtain ⟨directory, name, place, hreads⟩ := Disk.ReadsAt.of_readText hnamed hread
  exact ⟨row, directory, name, place, hrow, hholds.eq_filePath hresolve, hreads⟩

theorem ensures_applyTo_of_revised (hreads : env.disk.ReadsAt path text directory name place)
    (hlitters : ∀ after, env.LittersOnly after →
      env.Confined after (fun stage => ∃ step, stage = .backUp step) True →
        (∃ step : WriteStep, step.isVital ∧ env.faults (.backUp step) ≠ none) → post after)
    (hrevised : ∀ (after : Environment ν) more, after.failures = more ++ env.failures →
      env.disk.Narrows after.disk → env.disk.Revised directory name (if keepsBackup then
        some (Backup.nameFor env.disk path name (env.clock env.readings)) else none) text more after.disk →
          post after) :
    Ensures (engine.applyTo suggestion path text keepsBackup) env fun _ after => post after := by
  refine ensures_applyTo_of_spares post (((Guard.ensures_create_revised hreads keepsBackup).and
    ((Guard.confinedTo_create path text keepsBackup env).and
      (Guard.ensures_create_fault hreads keepsBackup))).mono ?_)
  rintro (error | guard) first ⟨hfirst, hconfined, hfault⟩
  · exact hlitters first hfirst hconfined (hfault error rfl)
  · obtain ⟨rfl, hnarrows, hmade⟩ := hfirst
    refine ⟨_, Guard.spares_revised suggestion.id env.failures hreads, ⟨hnarrows, hmade⟩, ?_⟩
    rintro last ⟨hstill, more, hnoted, hlast⟩
    exact hrevised last more hnoted hstill hlast

theorem ensures_apply_of_revised
    (hlitters : ∀ after, env.LittersOnly after →
      env.Confined after (fun stage => ∀ step, stage ≠ .overwrite step) True →
        (after.disk = env.disk ∨ ∃ step : WriteStep, step.isVital ∧ env.faults (.backUp step) ≠ none) →
          post after)
    (hrevised : ∀ after : Environment ν, env.RevisedFor id options.keepsBackup after → post after) :
    Ensures (engine.apply id options) env fun _ after => post after := by
  have hlooks {stage : Stage} (h : stage.Looks) : ∀ step, stage ≠ .overwrite step := by
    rintro step rfl
    obtain h | h := h <;> cases h
  refine ensures_apply_of_applyTo (fun _ after hends => ?_) ?_
  · obtain ⟨more, hnoted⟩ := hends.unmoved.failures
    refine hlitters after ⟨more, hnoted.symm, ?_⟩ (hends.looks.mono (fun _ => hlooks) False.elim)
      (.inl hends.unmoved.disk)
    rw [hends.unmoved.disk]
    exact .refl env.disk more
  intro suggestion path text middle hmiddle
  obtain ⟨row, directory, name, place, hrow, rfl, hreads⟩ :=
    exists_readsAt hmiddle.stored hmiddle.resolved hmiddle.reads
  have hdisk := hmiddle.unmoved.disk
  rw [← hdisk] at hreads
  refine ensures_applyTo_of_revised hreads (fun after hafter hmore hfault => ?_)
    fun after more hnoted _ hafter => ?_
  · rw [hmiddle.looks.faults] at hfault
    obtain ⟨more, hnoted, hlittered⟩ := hafter
    rw [hdisk] at hlittered
    rw [hmiddle.failures] at hnoted
    refine hlitters after ⟨more, hnoted, hlittered⟩ ?_ (.inr hfault)
    refine (hmiddle.looks.mono (fun _ => hlooks) False.elim).trans (hmore.mono ?_ fun h => h)
    rintro _ ⟨step, rfl⟩
    simp
  · rw [hdisk, hmiddle.looks.clock, hmiddle.looks.readings not_false] at hafter
    rw [hdisk] at hreads
    rw [hmiddle.failures] at hnoted
    exact hrevised after
      ⟨row, directory, name, text, more, hrow, hreads.locate, hmiddle.reads, hnoted, hafter⟩

/-- A run that comes upon marker lines revises the tree, unless a step of making the backup fails by
itself. -/
theorem revisedFor_apply (h : env.Finds id suggestion path text) (hmarkers : Text.countMarkers text ≠ 0)
    (hdry : options.isDryRun = false)
    (hfaults : ∀ step : WriteStep, step.isVital → env.faults (.backUp step) = none) :
    env.RevisedFor id options.keepsBackup (engine.apply id options env).2 := by
  obtain ⟨row, directory, name, place, hrow, rfl, hreads⟩ := exists_readsAt h.stored h.resolved h.text
  rw [apply_of_finds h, if_neg hmarkers, if_neg (by simp [hdry])]
  have hrun : Ensures (engine.applyTo suggestion row.filePath text options.keepsBackup)
      (env.checked row.filePath) fun _ after => env.RevisedFor id options.keepsBackup after := by
    refine ensures_applyTo_of_revised hreads ?_ fun after more hnoted _ hafter => ?_
    · rintro after - - ⟨step, hvital, hstep⟩
      exact absurd (hfaults step hvital) hstep
    · exact ⟨row, directory, name, text, more, hrow, hreads.locate, h.text, hnoted, hafter⟩
  exact hrun

/-- Whatever a run gives, all that it may have changed of the tree is the entry of its file and a backup
beside it, and drafts stay only where they could not be removed. If it fails, the file holds what it held
unless a write that puts that back has failed as well, and then a violation says so. -/
theorem revises_at_most (engine : Engine κ ν) (id : String) (options : ApplyOptions)
    (env : Environment ν) :
    let run := engine.apply id options env
    (env.LittersOnly run.2 ∨ env.RevisedFor id options.keepsBackup run.2) ∧
      (∀ error row, run.1 = .error error → env.store.row? id = some row →
        run.2.disk.contents row.filePath ≠ env.disk.contents row.filePath → ¬env.Restores run.2) ∧
      ∀ path detail isRestored, run.1 = .error (.violation path detail isRestored) →
        (∀ stage error, env.faults stage = some error → error.isViolation = false) →
          (isRestored = false ↔ ¬env.Restores run.2) := by
  intro run
  refine ⟨?_, fun error row herror hrow hne hrestores => ?_, fun path detail isRestored herror hfaults => ?_⟩
  · have hrun : Ensures (engine.apply id options) env fun _ after =>
        env.LittersOnly after ∨ env.RevisedFor id options.keepsBackup after :=
      ensures_apply_of_revised (fun _ hlitters _ _ => .inl hlitters) fun _ => .inr
    exact hrun
  · have hsafe := ensures_apply engine id options env hrestores
    rw [herror] at hsafe
    exact hne (hsafe.contents row hrow)
  · have htold := ensures_apply_told engine id options hfaults _ herror path detail isRestored rfl
    rw [← Bool.not_eq_true, htold]

/-- A suggestion whose text is found to be wrong once it has been written, while the former text cannot be
put back. -/
def unrestored : Environment Rat :=
  { unreadable with
    store := ⟨2, some [{ unappliedRow with resolution := "<<<<<<< a\n" }], some [], false⟩
    faults := fun stage => if stage = .restore .draft then some (.file .broken) else none }

theorem contents_unrestored : (plainEngine.apply "s" ⟨false, false⟩ unrestored).2.disk.contents "r/f" ≠
    unrestored.disk.contents "r/f" := by
  have hnew : (plainEngine.apply "s" ⟨false, false⟩ unrestored).2.disk.contents "r/f" =
      .ok (.text "<<<<<<< a\n") := by cbv
  have hold : unrestored.disk.contents "r/f" =
      .ok (.text "<<<<<<< a\n1\n=======\n2\n>>>>>>> b\n") := by cbv
  rw [hnew, hold]
  decide

theorem revises_at_most_unrestored :
    (plainEngine.apply "s" ⟨false, false⟩ unrestored).1 =
        .error (.violation "f" "1 conflict marker lines remain" false) ∧
      unrestored.store.row? "s" = some { unappliedRow with resolution := "<<<<<<< a\n" } ∧
      (plainEngine.apply "s" ⟨false, false⟩ unrestored).2.disk.contents "r/f" ≠
        unrestored.disk.contents "r/f" ∧
      (∀ stage error, unrestored.faults stage = some error → error.isViolation = false) ∧
      ¬unrestored.Restores (plainEngine.apply "s" ⟨false, false⟩ unrestored).2 ∧
      (false = false ↔ ¬unrestored.Restores (plainEngine.apply "s" ⟨false, false⟩ unrestored).2) := by
  have herror : (plainEngine.apply "s" ⟨false, false⟩ unrestored).1 =
      .error (.violation "f" "1 conflict marker lines remain" false) := by cbv
  have hrow : unrestored.store.row? "s" = some { unappliedRow with resolution := "<<<<<<< a\n" } := rfl
  have hfaults (stage : Stage) (error : FixError) (hfault : unrestored.faults stage = some error) :
      error.isViolation = false := by
    simp only [unrestored] at hfault
    split at hfault
    · cases hfault
      rfl
    · cases hfault
  obtain ⟨-, hchanged, htold⟩ := revises_at_most plainEngine "s" ⟨false, false⟩ unrestored
  exact ⟨herror, hrow, contents_unrestored, hfaults, hchanged _ _ herror hrow contents_unrestored,
    htold _ _ _ herror hfaults⟩

/-! ### Runs that change more -/

/-- A suggestion for a link to a conflicted file; once written it is found to be wrong. -/
def aliased : Environment Rat where
  disk := ⟨[(["r"], .directory), (["r", "f"],
    .file (.text "<<<<<<< a\n1\n=======\n2\n>>>>>>> b\n") 0o644), (["r", "l"], .link "/r/f")], []⟩
  store := ⟨2, some [{ unappliedRow with path := "l", resolution := "<<<<<<< a\n" }], some [], false⟩
  clock _ := ⟨⟨2024, 1, 2⟩, 0, 0, 0, 0⟩
  readings := 0
  ids _ := ""
  issued := 0
  faults _ := none
  trail := []

def failingAt (stages : List Stage) : Environment Rat :=
  { unreadable with faults := fun stage => if stage ∈ stages then some (.file .broken) else none }

/-- A run that says that it has restored the file leaves a file in place of a link to it, and a run that
fails to restore the file leaves the new text. A draft is left that cannot be removed, and permissions are
lost that cannot be looked at. -/
theorem aliased_is_replaced :
    ((plainEngine.apply "s" ⟨false, false⟩ aliased).1 =
        .error (.violation "l" "1 conflict marker lines remain" true) ∧
      aliased.disk.at? ["r", "l"] = some (.link "/r/f") ∧
      ∀ target, (plainEngine.apply "s" ⟨false, false⟩ aliased).2.disk.at? ["r", "l"] ≠
        some (.link target)) ∧
    ((plainEngine.apply "s" ⟨false, false⟩ unrestored).1 =
        .error (.violation "f" "1 conflict marker lines remain" false) ∧
      (plainEngine.apply "s" ⟨false, false⟩ unrestored).2.disk.contents "r/f" ≠
        unrestored.disk.contents "r/f") ∧
    (plainEngine.apply "s" ⟨false, false⟩ (failingAt [.overwrite .fill, .overwrite .discard])).2.disk.at?
        ["r", ".tmp0"] = some (.file (.text "") draftMode) ∧
    (plainEngine.apply "s" ⟨false, false⟩ (failingAt [.overwrite .look])).2.disk.at? ["r", "f"] =
      some (.file (.text "1\n") draftMode) := by
  have hentry : (plainEngine.apply "s" ⟨false, false⟩ aliased).2.disk.at? ["r", "l"] =
      some (.file (.text "<<<<<<< a\n1\n=======\n2\n>>>>>>> b\n") 0o644) := by cbv
  refine ⟨⟨by cbv, by cbv, fun target => ?_⟩, ⟨by cbv, contents_unrestored⟩, by cbv, by cbv⟩
  rw [hentry]
  simp

end Engine

end Reconcile
