import Reconcile.Proofs.Frame
import Reconcile.Proofs.Session

/-!
# Backups are kept

A backup is put where the path of its name leads to nothing, and besides it a run changes no entry but
that of its own file. Where there was nothing it may leave a draft, if that cannot be removed. So a backup
goes on to hold what it was made of for as long as it is not itself the file of a later call, whatever the
clock shows and however the runs end.
-/

namespace Reconcile

open Course

variable {κ ν : Type}

def Call.BacksUp (call : Call κ ν) : Prop :=
  ∃ id options, call.request = .apply id options ∧ options.keepsBackup = true

/-- A step of putting a backup in place fails by itself. -/
def Call.FailsToBackUp (call : Call κ ν) : Prop :=
  ∃ step : WriteStep, step.isVital ∧ call.circumstances.faults (.backUp step) ≠ none

namespace Session

def row? (session : Session κ ν) (call : Call κ ν) : Option (Row ν) :=
  match call.request with
  | .apply id _ => session.store.row? id
  | _ => none

/-- The place of a call's own file: of the entry that the path of the suggestion's file names. -/
def target? (session : Session κ ν) (call : Call κ ν) : Option Place := do
  let row ← session.row? call
  match session.disk.locate row.filePath with
  | .ok (directory, name) => some (directory ++ [name])
  | .error _ => none

/-- The call comes to write its file. -/
def Reaches (session : Session κ ν) (call : Call κ ν) : Prop :=
  ∃ id options step, call.request = .apply id options ∧
    .overwrite step ∈ (session.engine.apply id options (session.environment call.circumstances)).2.tried

/-- The call fails to remove a draft that it has not put in place. -/
def FailsToDiscard (session : Session κ ν) (call : Call κ ν) : Prop :=
  ∃ id options stage, call.request = .apply id options ∧ Stage.isDiscard stage ∧
    stage ∈ (session.engine.apply id options (session.environment call.circumstances)).2.failures

theorem target?_eq {session : Session κ ν} {call : Call κ ν} {row : Row ν} {directory : Place}
    {name : String} (hrow : session.row? call = some row)
    (hlocate : session.disk.locate row.filePath = .ok (directory, name)) :
    session.target? call = some (directory ++ [name]) := by
  simp [target?, hrow, hlocate]

variable [Scalar ν] {session : Session κ ν} {call : Call κ ν} {row : Row ν} {directory place : Place}
  {name text : String} {millis : Int}

/-- A call puts a text in a new file beside its own file, which held the text just before, and changes
nothing else but its own file, and leaves none but the drafts it fails to remove. -/
structure MakesBackup (session : Session κ ν) (call : Call κ ν) (row : Row ν) (directory : Place)
    (name text : String) (millis : Int) : Prop where
  suggestion : session.row? call = some row
  located : session.disk.locate row.filePath = .ok (directory, name)
  read : session.disk.readText row.filePath = .ok text
  /-- The name is the first from the present millisecond on whose path leads to nothing. -/
  first : ∃ n : Nat, millis = (call.circumstances.clock 0).millis + n ∧ ∀ m < n,
    session.disk.hasPath (Backup.pathAt row.filePath ((call.circumstances.clock 0).millis + m)) = true
  free : session.disk.hasPath (Backup.pathAt row.filePath millis) = false
  made : ∃ mode, (session.step call).disk.at? (directory ++ [Backup.pathAt name millis]) =
    some (.file (.text text) mode)
  others : ∀ place, place ≠ directory ++ [name] →
    place ≠ directory ++ [Backup.pathAt name millis] →
      (session.step call).disk.at? place = session.disk.at? place ∨
        session.disk.at? place = none ∧ session.FailsToDiscard call

theorem MakesBackup.of_revised {former : String} {failures : List Stage}
    (hrow : session.row? call = some row)
    (hlocate : session.disk.locate row.filePath = .ok (directory, name))
    (hread : session.disk.readText row.filePath = .ok former)
    (hrevised : session.disk.Revised directory name (some (Backup.nameFor session.disk row.filePath name
      (call.circumstances.clock 0))) former failures (session.step call).disk)
    (hfailures : ∀ stage ∈ failures, stage.isDiscard → session.FailsToDiscard call) :
    ∃ millis, session.MakesBackup call row directory name former millis := by
  obtain ⟨steps, hpath, henters⟩ := Disk.exists_enters_of_readText hread hlocate
  obtain ⟨n, hn, hfree, htaken⟩ :=
    Backup.exists_freeMillis_eq hpath henters (call.circumstances.clock 0).millis
  obtain ⟨-, hcopy⟩ := hrevised.copy _ rfl
  rw [Backup.nameFor, hn] at hcopy
  refine ⟨_, hrow, hlocate, hread, ⟨n, rfl, htaken⟩, hfree, hcopy, fun place hname hbackup => ?_⟩
  obtain ⟨litter, hlength, hlitter, hothers⟩ := hrevised.others
  by_cases hmem : place ∈ litter
  · obtain ⟨stage, hstage, hdiscard⟩ :=
      List.countP_pos_iff.mp ((List.length_pos_of_mem hmem).trans_le hlength)
    exact .inr ⟨(hlitter place hmem).1, hfailures stage hstage hdiscard⟩
  · refine .inl (hothers place hmem hname ?_)
    rintro _ ⟨⟩
    rwa [Backup.nameFor, hn]

theorem revised_or (hcall : call.BacksUp) :
    (¬session.Reaches call ∧ (session.disk.Same (session.step call).disk ∨
        call.FailsToBackUp ∧ session.FailsToDiscard call ∧ session.disk.Drafts (session.step call).disk)) ∨
      ∃ row directory name text failures, session.row? call = some row ∧
        session.disk.locate row.filePath = .ok (directory, name) ∧
        session.disk.readText row.filePath = .ok text ∧
        (∀ stage ∈ failures, stage.isDiscard → session.FailsToDiscard call) ∧
        session.disk.Revised directory name (some (Backup.nameFor session.disk row.filePath name
          (call.circumstances.clock 0))) text failures (session.step call).disk := by
  rcases call with ⟨request, circumstances⟩
  obtain ⟨id, options, hrequest, hkeeps⟩ := hcall
  obtain rfl : request = .apply id options := hrequest
  have hfails {more : List Stage}
      (hnoted : (session.engine.apply id options (session.environment circumstances)).2.failures =
        more ++ [])
      (stage : Stage) (hstage : stage ∈ more) (hdiscard : stage.isDiscard) :
      session.FailsToDiscard ⟨.apply id options, circumstances⟩ := by
    refine ⟨id, options, stage, rfl, hdiscard, ?_⟩
    rw [hnoted, List.append_nil]
    exact hstage
  have hrun : Ensures (session.engine.apply id options) (session.environment circumstances)
      fun _ after => ((∀ step, .overwrite step ∉ after.tried) ∧
        (session.environment circumstances).LittersOnly after ∧
          (after.disk = session.disk ∨ (⟨.apply id options, circumstances⟩ : Call κ ν).FailsToBackUp)) ∨
        (session.environment circumstances).RevisedFor id options.keepsBackup after := by
    refine Engine.ensures_apply_of_revised (fun after hlitters hconfined hfault =>
      .inl ⟨fun step hstep => ?_, hlitters, hfault⟩) fun _ => .inr
    obtain hbefore | hother := hconfined.tried _ hstep
    · cases hbefore
    · exact hother step rfl
  obtain ⟨hnone, ⟨more, hnoted, litter, hlitter, hlength⟩, hfault⟩ |
    ⟨row, directory, name, text, more, hrow, hlocate, hread, hnoted, hrevised⟩ := hrun
  · refine .inl ⟨?_, ?_⟩
    · rintro ⟨_, _, step, ⟨⟩, hstep⟩
      exact hnone step hstep
    · obtain hdisk | hfault := hfault
      · exact .inl ⟨congrArg Disk.home hdisk, fun place => congrArg (Disk.at? · place) hdisk⟩
      cases litter with
      | nil => exact .inl hlitter.same
      | cons place rest =>
        obtain ⟨stage, hstage, hdiscard⟩ :=
          List.countP_pos_iff.mp ((Nat.succ_pos rest.length).trans_le hlength)
        exact .inr ⟨hfault, hfails hnoted stage hstage hdiscard, _, hlitter⟩
  · rw [if_pos hkeeps] at hrevised
    exact .inr ⟨row, directory, name, text, more, hrow, hlocate, hread, hfails hnoted, hrevised⟩

theorem MakesBackup.ne_of_file {contents : Contents} {mode : Nat}
    (h : session.MakesBackup call row directory name text millis)
    (hfile : session.disk.at? place = some (.file contents mode)) :
    place ≠ directory ++ [Backup.pathAt name millis] := by
  obtain ⟨steps, hpath, henters⟩ := Disk.exists_enters_of_readText h.read h.located
  rintro rfl
  obtain ⟨link, hlink⟩ := Backup.link_of_hasPath_eq_false hpath henters h.free hfile
  cases hlink

theorem MakesBackup.not_same (h : session.MakesBackup call row directory name text millis) :
    ¬session.disk.Same (session.step call).disk := by
  obtain ⟨mode, hmade⟩ := h.made
  intro hsame
  rw [hsame.entries] at hmade
  exact h.ne_of_file hmade rfl

/-- A call that comes upon marker lines makes a backup, unless a step of that fails by itself. -/
theorem exists_makesBackup {id path : String} {options : ApplyOptions} {circumstances : Circumstances}
    {suggestion : Suggestion ν} (hkeeps : options.keepsBackup = true) (hdry : options.isDryRun = false)
    (h : (session.environment circumstances).Finds id suggestion path text)
    (hmarkers : Text.countMarkers text ≠ 0)
    (hfaults : ∀ step : WriteStep, step.isVital → circumstances.faults (.backUp step) = none) :
    ∃ row directory name millis,
      session.MakesBackup ⟨.apply id options, circumstances⟩ row directory name text millis := by
  have hrun : (session.environment circumstances).RevisedFor id options.keepsBackup
      (session.engine.apply id options (session.environment circumstances)).2 :=
    Engine.revisedFor_apply h hmarkers hdry hfaults
  obtain ⟨row, directory, name, former, more, hrow, hlocate, hread, hnoted, hrevised⟩ := hrun
  obtain rfl := (Store.holds_of_get hrow h.stored).eq_filePath h.resolved
  obtain rfl := Except.ok.inj (hread.symm.trans h.text)
  rw [if_pos hkeeps] at hrevised
  refine ⟨row, directory, name,
    MakesBackup.of_revised ?_ hlocate hread hrevised fun stage hstage hdiscard => ?_⟩
  · exact hrow
  · refine ⟨id, options, stage, rfl, hdiscard, ?_⟩
    rw [hnoted]
    exact List.mem_append_left _ hstage

theorem file_step {contents : Contents} {mode : Nat} (hcall : call.BacksUp)
    (htarget : session.target? call ≠ some place)
    (hfile : session.disk.at? place = some (.file contents mode)) :
    (session.step call).disk.at? place = some (.file contents mode) := by
  obtain ⟨-, hsame | ⟨-, -, hdrafts⟩⟩ |
    ⟨row, directory, name, text, failures, hrow, hlocate, -, -, hrevised⟩ := revised_or hcall
  · exact (hsame.entries place).trans hfile
  · exact hdrafts.at?_eq_some hfile
  · refine hrevised.at?_eq_some hfile (by simp) ?_
    rintro rfl
    exact htarget (target?_eq hrow hlocate)

/-- A place is no call's own file when the call is made. -/
def Avoids (place : Place) : Session κ ν → List (Call κ ν) → Prop
  | _, [] => True
  | session, call :: rest => session.target? call ≠ some place ∧ (session.step call).Avoids place rest

theorem file_after {contents : Contents} {mode : Nat} {calls : List (Call κ ν)}
    (hcalls : ∀ call ∈ calls, call.BacksUp) (havoids : session.Avoids place calls)
    (hfile : session.disk.at? place = some (.file contents mode)) :
    (session.after calls).disk.at? place = some (.file contents mode) := by
  induction calls generalizing session with
  | nil => exact hfile
  | cons call rest ih =>
      obtain ⟨htarget, hrest⟩ := havoids
      obtain ⟨hcall, hlater⟩ := List.forall_mem_cons.mp hcalls
      exact ih hlater hrest (file_step hcall htarget hfile)

/-- Calls for the same path do not come upon a backup. -/
theorem MakesBackup.target?_ne {next : Session κ ν} {other : Call κ ν}
    (h : session.MakesBackup call row directory name text millis)
    (hpath : ∀ again, next.row? other = some again → again.filePath = row.filePath) :
    next.target? other ≠ some (directory ++ [Backup.pathAt name millis]) := by
  obtain ⟨steps, hsteps, -⟩ := Disk.exists_enters_of_readText h.read h.located
  intro htarget
  obtain ⟨again, hagain, hplace⟩ := Option.bind_eq_some_iff.mp htarget
  -- The same path ends in the same name, wherever its directory may be by now.
  rw [hpath again hagain] at hplace
  split at hplace
  · rename_i directory' last hlocate
    obtain ⟨rfl, -⟩ := Disk.of_locate_eq_ok_of_steps hsteps hlocate
    have hlast := (List.append_inj' (Option.some.inj hplace) rfl).2
    exact Backup.pathAt_ne last millis (by simpa using hlast.symm)
  · cases hplace

/-- In a run of calls with backups, no call overwrites or deletes a file other than its own. One that
comes to write its file makes a backup; and this holds at the end of the run the text that the file held
just before the call, unless it has itself been the file of a later call. One that does not come to write
its file changes nothing, unless its backup fails and then a draft of that cannot be removed. -/
theorem backups_are_kept (session : Session κ ν) (calls : List (Call κ ν))
    (hcalls : ∀ call ∈ calls, call.BacksUp) {earlier later : List (Call κ ν)} {call : Call κ ν}
    (hsplit : calls = earlier ++ call :: later) :
    let current := session.after earlier
    (∀ place contents mode, current.target? call ≠ some place →
        current.disk.at? place = some (.file contents mode) →
          (current.step call).disk.at? place = some (.file contents mode)) ∧
      ((¬current.Reaches call ∧ (current.disk.Same (current.step call).disk ∨
          call.FailsToBackUp ∧ current.FailsToDiscard call ∧
            current.disk.Drafts (current.step call).disk)) ∨
        ∃ row directory name text millis, current.MakesBackup call row directory name text millis ∧
          ((current.step call).Avoids (directory ++ [Backup.pathAt name millis]) later →
            ∃ mode, (session.after calls).disk.at? (directory ++ [Backup.pathAt name millis]) =
              some (.file (.text text) mode))) := by
  intro current
  have hcall : call.BacksUp := hcalls call (by simp [hsplit])
  have hlater : ∀ other ∈ later, other.BacksUp := fun other hother => hcalls other (by simp [hsplit, hother])
  have hend : session.after calls = (current.step call).after later := by
    rw [hsplit]
    exact session.after_append earlier (call :: later)
  refine ⟨fun place contents mode htarget hfile => file_step hcall htarget hfile, ?_⟩
  obtain hnone | ⟨row, directory, name, text, failures, hrow, hlocate, hread, hfailures, hrevised⟩ :=
    current.revised_or hcall
  · exact .inl hnone
  obtain ⟨millis, hmakes⟩ := MakesBackup.of_revised hrow hlocate hread hrevised hfailures
  refine .inr ⟨row, directory, name, text, millis, hmakes, fun havoids => ?_⟩
  -- From here on the backup is a file like any other, which later calls leave alone.
  obtain ⟨mode, hfile⟩ := hmakes.made
  rw [hend]
  exact ⟨mode, file_after hlater havoids hfile⟩

/-! ### Two backups in one millisecond -/

/-- A suggestion whose text is found to be wrong once it has been written. -/
def doubtful (id : String) : Row Rat := { Engine.unappliedRow with id, resolution := "<<<<<<< a\n" }

/-- A conflicted file with two suggestions for it. -/
def conflicted : Session String Rat :=
  ⟨Engine.plainEngine, Engine.unreadable.disk, ⟨2, some [doubtful "s", doubtful "t"], some [], false⟩⟩

/-- The suggestions are tried in one millisecond. -/
def hasty (id : String) : Call String Rat :=
  ⟨.apply id .standard, Engine.unreadable.clock, fun _ => "", fun _ => none⟩

theorem readsAt_of_file {disk : Disk} {text : String} {mode : Nat} (hhome : disk.home = [])
    (hdirectory : disk.at? ["r"] = some .directory)
    (hfile : disk.at? ["r", "f"] = some (.file (.text text) mode)) :
    disk.ReadsAt "r/f" text ["r"] "f" ["r", "f"] := by
  have hsteps : Step.ofPath "r/f" = [.down "r"] ++ [.down "f"] := by decide
  have hstart : disk.start "r/f" = [] := hhome
  have hroot : disk.Leads 0 (disk.start "r/f") [.down "r"] ["r"] := by
    rw [hstart]
    exact .down rfl hdirectory (by simp) (.arrived _)
  have hlast : disk.Leads 0 ["r"] [.down "f"] ["r", "f"] :=
    .down hdirectory hfile (by simp) (.arrived _)
  refine ⟨⟨_, hsteps, ⟨0, Nat.zero_le _, hroot⟩, hdirectory⟩, ⟨0, hlast⟩, ?_, mode, hfile⟩
  refine Disk.canonical_eq_ok_iff.mpr ⟨by decide, 0, Nat.zero_le _, ?_⟩
  rw [hsteps]
  exact hroot.append hlast

theorem finds_of_file {session : Session String Rat} {id text : String} {mode : Nat}
    (hrow : session.store.row? id = some (doubtful id)) (hhome : session.disk.home = [])
    (hdirectory : session.disk.at? ["r"] = some .directory)
    (hfile : session.disk.at? ["r", "f"] = some (.file (.text text) mode)) :
    ∃ suggestion, suggestion.resolution = "<<<<<<< a\n" ∧
      (session.environment (hasty id).circumstances).Finds id suggestion "r/f" text := by
  obtain ⟨suggestion, hdecode⟩ : ∃ suggestion, (doubtful id).decode = .ok suggestion := ⟨_, by cbv⟩
  have hget : session.store.get id = .ok (some suggestion) :=
    (Store.get_eq_of_row? hrow).trans (congrArg (Except.map some) hdecode)
  have hholds := Store.holds_of_get hrow hget
  have hreads := readsAt_of_file hhome hdirectory hfile
  have hresolved : session.disk.resolveIn "r" "f" = .ok "r/f" := by
    have hjoin : Path.join "r" "f" = "r/f" := by decide +kernel
    refine hjoin ▸ Disk.resolveIn_of_canonical (by decide +kernel) (hjoin ▸ hreads.canonical) ?_
    intro top htop
    have hstart : session.disk.start "r" = [] := hhome
    obtain ⟨-, links, -, hroot⟩ := Disk.canonical_eq_ok_iff.mp htop
    rw [hstart] at hroot
    have hleads : session.disk.Leads 0 [] [.down "r"] ["r"] := .down rfl hdirectory (by simp) (.arrived _)
    obtain rfl := hleads.unique hroot
    exact List.prefix_append ["r"] ["f"]
  refine ⟨suggestion, hholds.resolution, rfl, hget, hholds.isApplied, ?_, rfl, hreads.readText⟩
  rw [hholds.repository, hholds.path]
  exact hresolved

theorem file_conflicted : conflicted.disk.at? ["r", "f"] =
    some (.file (.text "<<<<<<< a\n1\n=======\n2\n>>>>>>> b\n") 0o644) := by decide

theorem readsAt_conflicted : conflicted.disk.ReadsAt "r/f" "<<<<<<< a\n1\n=======\n2\n>>>>>>> b\n"
    ["r"] "f" ["r", "f"] := readsAt_of_file rfl (by decide) file_conflicted

theorem finds_conflicted : ∃ suggestion, suggestion.resolution = "<<<<<<< a\n" ∧
    (conflicted.environment (hasty "s").circumstances).Finds "s" suggestion "r/f"
      "<<<<<<< a\n1\n=======\n2\n>>>>>>> b\n" :=
  finds_of_file rfl rfl (by decide) file_conflicted

theorem hasMarkers_conflicted : Text.countMarkers "<<<<<<< a\n1\n=======\n2\n>>>>>>> b\n" ≠ 0 := by cbv

/-- Whether or not the file is restored, it has marker lines after the first call. -/
theorem file_after_hasty : ∃ text mode, Text.countMarkers text ≠ 0 ∧
    (conflicted.step (hasty "s")).disk.at? ["r", "f"] = some (.file (.text text) mode) := by
  obtain ⟨suggestion, hresolution, hfinds⟩ := finds_conflicted
  obtain ⟨steps, hsteps, -⟩ := readsAt_conflicted.named
  have hread : ((conflicted.environment (hasty "s").circumstances).checked "r/f").disk.readText "r/f" =
      _ := hfinds.text
  have hrun : conflicted.engine.apply "s" .standard
      (conflicted.environment (hasty "s").circumstances) = _ := Engine.apply_of_finds hfinds
  rw [if_neg hasMarkers_conflicted, if_neg (by decide)] at hrun
  have hdisk : (conflicted.step (hasty "s")).disk = _ := congrArg (·.2.disk) hrun
  have hintact :=
    Engine.intact_throughout_applyTo conflicted.engine suggestion ⟨steps, _, hsteps⟩ hread true
  rw [hdisk]
  obtain ⟨hsame, -⟩ | ⟨text, mode, htext, hfile⟩ :=
    hintact.last.entry _ _ _ readsAt_conflicted.locate readsAt_conflicted.canonical
  · exact ⟨_, 0o644, hasMarkers_conflicted, hsame.trans file_conflicted⟩
  refine ⟨text, mode, ?_, hfile⟩
  obtain hformer | rfl := htext
  · obtain rfl := Except.ok.inj (hread.symm.trans hformer)
    exact hasMarkers_conflicted
  · rw [hresolution]
    cbv

theorem row?_after_hasty : (conflicted.step (hasty "s")).store.row? "t" = some (doubtful "t") := by
  have hrun : Ensures (conflicted.engine.apply "s" .standard)
      (conflicted.environment (hasty "s").circumstances) fun _ after =>
        after.store.row? "t" = some (doubtful "t") := by
    refine Engine.ensures_apply_store (fun store => store.row? "t" = some (doubtful "t")) ?_ rfl
    intro before after isRollback time hrow hmark
    rw [Store.row?_mark hmark, hrow]
    rfl
  exact hrun

/-- The second call comes upon marker lines too. -/
theorem finds_again : ∃ suggestion text, Text.countMarkers text ≠ 0 ∧
    ((conflicted.step (hasty "s")).environment (hasty "t").circumstances).Finds "t" suggestion "r/f"
      text := by
  obtain ⟨suggestion, -, hfinds⟩ := finds_conflicted
  obtain ⟨row, directory, name, former, more, hrow, hlocate, -, -, hrevised⟩ :
      (conflicted.environment (hasty "s").circumstances).RevisedFor "s" true
        (conflicted.engine.apply "s" .standard (conflicted.environment (hasty "s").circumstances)).2 :=
    Engine.revisedFor_apply hfinds hasMarkers_conflicted rfl fun _ _ => rfl
  have hdirectory : (conflicted.step (hasty "s")).disk.at? ["r"] = some .directory := by
    obtain ⟨rfl, rfl⟩ : directory = ["r"] ∧ name = "f" := by
      obtain rfl : doubtful "s" = row := Option.some.inj hrow
      have hpath : (doubtful "s").filePath = "r/f" := by decide +kernel
      rw [hpath] at hlocate
      exact Prod.mk.inj (Except.ok.inj (hlocate.symm.trans readsAt_conflicted.locate))
    exact hrevised.at?_eq_some (by decide) (by simp) (by simp)
  obtain ⟨text, mode, hmarkers, hfile⟩ := file_after_hasty
  obtain ⟨again, -, hagain⟩ := finds_of_file row?_after_hasty hrevised.home hdirectory hfile
  exact ⟨again, text, hmarkers, hagain⟩

theorem backups_are_kept_hasty :
    (∀ call ∈ [hasty "s", hasty "t"], call.BacksUp) ∧
      [hasty "s", hasty "t"] = [] ++ hasty "s" :: [hasty "t"] ∧
      [hasty "s", hasty "t"] = [hasty "s"] ++ hasty "t" :: [] ∧
      ∃ first second text again, first ≠ second ∧
        (∃ mode, (conflicted.after [hasty "s", hasty "t"]).disk.at? first =
          some (.file (.text text) mode)) ∧
        ∃ mode, (conflicted.after [hasty "s", hasty "t"]).disk.at? second =
          some (.file (.text again) mode) := by
  have hcalls : ∀ call ∈ [hasty "s", hasty "t"], call.BacksUp := by
    intro call hcall
    obtain rfl | rfl : call = hasty "s" ∨ call = hasty "t" := by simpa using hcall
    · exact ⟨"s", .standard, rfl, rfl⟩
    · exact ⟨"t", .standard, rfl, rfl⟩
  have hfaultless (id : String) : ¬(hasty id).FailsToBackUp := fun ⟨_, _, hfault⟩ => hfault rfl
  have hsplit : [hasty "s", hasty "t"] = [] ++ hasty "s" :: [hasty "t"] := rfl
  have hsplit' : [hasty "s", hasty "t"] = [hasty "s"] ++ hasty "t" :: [] := rfl
  refine ⟨hcalls, hsplit, hsplit', ?_⟩
  -- Both calls come upon marker lines and none of their steps fails, so they make backups.
  obtain ⟨suggestion, -, hfinds⟩ := finds_conflicted
  obtain ⟨_, _, _, _, hmakes⟩ : ∃ row directory name millis,
      conflicted.MakesBackup (hasty "s") row directory name _ millis :=
    exists_makesBackup rfl rfl hfinds hasMarkers_conflicted fun _ _ => rfl
  obtain ⟨_, _, hmarkers, hagain⟩ := finds_again
  obtain ⟨_, _, _, _, hmakes'⟩ : ∃ row directory name millis,
      (conflicted.step (hasty "s")).MakesBackup (hasty "t") row directory name _ millis :=
    exists_makesBackup rfl rfl hagain hmarkers fun _ _ => rfl
  obtain ⟨-, ⟨-, hsame | ⟨hfails, -⟩⟩ | ⟨row, directory, name, text, millis, hfirst, hkept⟩⟩ :=
    backups_are_kept conflicted _ hcalls hsplit
  · exact absurd hsame hmakes.not_same
  · exact absurd hfails (hfaultless "s")
  obtain ⟨-, ⟨-, hsame | ⟨hfails, -⟩⟩ | ⟨row', directory', name', text', millis', hsecond, hkept'⟩⟩ :=
    backups_are_kept conflicted _ hcalls hsplit'
  · exact absurd hsame hmakes'.not_same
  · exact absurd hfails (hfaultless "t")
  obtain ⟨mode, hmade⟩ := hfirst.made
  refine ⟨_, _, text, text', hsecond.ne_of_file hmade, hkept ⟨?_, trivial⟩, hkept' trivial⟩
  refine hfirst.target?_ne fun again hrow => ?_
  obtain rfl : doubtful "t" = again := Option.some.inj (row?_after_hasty.symm.trans hrow)
  obtain rfl : doubtful "s" = row := Option.some.inj hfirst.suggestion
  rfl

end Session

end Reconcile
