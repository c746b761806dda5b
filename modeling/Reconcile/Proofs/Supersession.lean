import Mathlib
import Reconcile.Proofs.Containment
import Reconcile.Proofs.DryRun
import Reconcile.Proofs.Frame
import Reconcile.Proofs.Retrieval
import Reconcile.Proofs.SingleApplication

/-!
# One of several suggestions for a file

A run that applies a suggestion leaves a file without marker lines where its path leads. No later run
writes to that file, since runs write to files with marker lines only, and a backup is put in place of no
file. So the other suggestions for the path have lost: they are refused, and nothing is changed. The
refusal says that they are stale, unless the entry that was written lies outside the root. Then it had
been a link that led back, and now that it is a file the path is one that escapes.
-/

namespace Reconcile

variable {κ ν α : Type}

namespace Disk

variable {before after disk : Disk} {path other text former name : String} {directory place : Place}
  {backup : Option String} {failures : List Stage}

theorem ReadsAt.place_eq {contents : Contents} {mode : Nat}
    (h : disk.ReadsAt path text directory name place)
    (hfile : disk.at? (directory ++ [name]) = some (.file contents mode)) :
    place = directory ++ [name] := by
  obtain ⟨links, hleads⟩ := h.leads
  cases hleads with
  | down _ _ _ hrest =>
      cases hrest with
      | arrived => rfl
  | follow _ hlink _ => cases hlink.symm.trans hfile

theorem resolveIn_of_outside {root : String} {top : Place} (hvalid : Path.validate path = .ok ())
    (hcanonical : disk.canonical (Path.join root path) = .ok place)
    (hroot : disk.canonical root = .ok top) (houtside : ¬top <+: place) :
    disk.resolveIn root path = .error ⟨path, .escapes⟩ := by
  have hnearest : disk.nearest? (Path.join root path) = some place := by
    rw [nearest?, hcanonical]
  rw [resolveIn, hvalid]
  simp only [hroot, hnearest, bind, Except.bind]
  exact if_neg fun hinside => houtside (List.isPrefixOf_iff_prefix.mp hinside)

/-- The entry that a path names, if it names one, is a file without marker lines. -/
def IsClear (disk : Disk) (path : String) : Prop :=
  ∀ directory name, disk.locate path = .ok (directory, name) →
    ∃ text mode, disk.at? (directory ++ [name]) = some (.file (.text text) mode) ∧
      Text.countMarkers text = 0

/-- An edit leaves alone the entry that a path names, and gives the path no other entry. -/
def LeavesAlone (before : Disk) (path : String) (after : Disk) : Prop :=
  ∀ directory name, after.locate path = .ok (directory, name) →
    before.locate path = .ok (directory, name) ∧
      after.at? (directory ++ [name]) = before.at? (directory ++ [name])

namespace IsClear

theorem leavesAlone (h : before.IsClear path) (hedit : before.LeavesAlone path after) :
    after.IsClear path := by
  intro directory name hlocate
  obtain ⟨hbefore, hentry⟩ := hedit directory name hlocate
  rw [hentry]
  exact h directory name hbefore

theorem drafts (h : before.IsClear path) (hdrafts : before.Drafts after) : after.IsClear path := by
  intro directory name hlocate
  obtain ⟨text, mode, hentry, hclear⟩ := h directory name (hdrafts.narrows.locate hlocate)
  exact ⟨text, mode, hdrafts.at?_eq_some hentry, hclear⟩

theorem of_replaced (hreplaced : before.Replaced path text after) (hclear : Text.countMarkers text = 0) :
    after.IsClear path := by
  intro directory name hlocate
  have hbefore := hreplaced.narrows.locate hlocate
  obtain ⟨directory', name', hlocate', hfile⟩ := hreplaced
  obtain ⟨rfl, rfl⟩ := Prod.mk.inj (Except.ok.inj (hbefore.symm.trans hlocate'))
  obtain ⟨mode, hentry⟩ := hfile.file
  exact ⟨text, mode, hentry, hclear⟩

/-- What is read along the path is the text of the entry itself. -/
theorem file_of_readsAt (h : disk.IsClear path) (hreads : disk.ReadsAt path text directory name place) :
    (∃ mode, disk.at? (directory ++ [name]) = some (.file (.text text) mode)) ∧
      Text.countMarkers text = 0 := by
  obtain ⟨found, mode, hentry, hclear⟩ := h directory name hreads.locate
  obtain ⟨steps, hpath, henters⟩ := hreads.named
  have hread := readText_of_enters henters hpath hentry
  obtain rfl := Except.ok.inj (hread.symm.trans hreads.readText)
  exact ⟨⟨mode, hentry⟩, hclear⟩

/-- A run for some path writes to an entry by which it has read marker lines, so not to this one. -/
theorem revised (h : before.IsClear path) (hreads : before.ReadsAt other former directory name place)
    (hmarkers : Text.countMarkers former ≠ 0) (hnarrows : before.Narrows after)
    (hrevised : before.Revised directory name backup former failures after) : after.IsClear path := by
  intro directory' name' hlocate
  obtain ⟨text, mode, hentry, hclear⟩ := h directory' name' (hnarrows.locate hlocate)
  refine ⟨text, mode, hrevised.at?_eq_some hentry (by simp) fun hsame => ?_, hclear⟩
  rw [hsame] at hentry
  obtain ⟨steps, hpath, henters⟩ := hreads.named
  have hread := readText_of_enters henters hpath hentry
  obtain rfl := Except.ok.inj (hread.symm.trans hreads.readText)
  exact hmarkers hclear

end IsClear

end Disk

open Course

namespace Engine

open Environment

variable {engine : Engine κ ν} {env : Environment ν} {suggestion : Suggestion ν}
  {path text name id : String} {directory place : Place} {options : ApplyOptions} {row : Row ν}

/-! ### The run that applies a suggestion -/

theorem gives_overwrite (engine : Engine κ ν) (suggestion : Suggestion ν) (guard : Guard)
    (env : Environment ν) : (engine.overwrite suggestion guard).Gives env fun _ after =>
      env.disk.Replaced guard.target suggestion.resolution after.disk := by
  have hwrite := ensures_writeText .overwrite guard.target suggestion.resolution env
  refine gives_bind (gives_orRollBack (gives_of_ensures hwrite fun _ _ hresult => hresult.replaced)) ?_
  intro _ written hreplaced
  have hreread : Ensures (readText .reread guard.target) written fun _ after =>
      after.disk = written.disk := ensures_readText (fun _ => rfl) fun _ _ => rfl
  refine gives_bind (gives_orRollBack (gives_of_ensures hreread fun _ _ hdisk => hdisk)) ?_
  intro text reread hdisk
  dsimp only
  split
  · exact gives_pure (hdisk ▸ hreplaced)
  · exact gives_bind_throw

theorem gives_applyTo (engine : Engine κ ν) (suggestion : Suggestion ν)
    (hread : env.disk.readText path = .ok text) (keepsBackup : Bool) :
    (engine.applyTo suggestion path text keepsBackup).Gives env fun _ after =>
      ∃ middle : Disk, middle.Replaced path suggestion.resolution after.disk := by
  refine gives_bind (gives_of_ensures (Guard.ensures_create hread keepsBackup) fun _ _ h => h.2.2.2.1) ?_
  rintro guard first rfl
  refine gives_bind (gives_overwrite engine suggestion guard first) fun _ second hsecond => ?_
  have hmark := ensures_mark .mark suggestion.id false second
  refine gives_bind (gives_orRollBack (gives_of_ensures hmark fun _ _ hresult => hresult.1)) ?_
  intro _ third hthird
  have hnow : Course.now.Gives third fun _ after => after.disk = third.disk :=
    ensures_now fun _ _ => rfl
  refine gives_bind hnow fun time last hlast => gives_pure ⟨first.disk, ?_⟩
  rw [hlast, hthird]
  exact hsecond

theorem gives_applyTo_isClear (engine : Engine κ ν) (suggestion : Suggestion ν)
    (hread : env.disk.readText path = .ok text) (keepsBackup : Bool) :
    (engine.applyTo suggestion path text keepsBackup).Gives env fun _ after =>
      after.disk.IsClear path := by
  refine gives_of_ensures ((ensures_applyTo hread keepsBackup).and
    (gives_applyTo engine suggestion hread keepsBackup)) ?_
  rintro application after ⟨hok, hreplaced⟩
  obtain ⟨middle, hmiddle⟩ := hreplaced application rfl
  exact .of_replaced hmiddle (isWellFormed_of_passed hok.2.2.1).1

/-- A run that applies a suggestion leaves a file without marker lines as the entry of its path. -/
theorem isClear_of_apply {application : Application ν} {after : Environment ν}
    (hrow : env.store.row? id = some row)
    (hresult : engine.apply id options env = (.ok application, after))
    (happlied : application.applied = true) :
    after.disk.IsClear row.filePath ∧ Path.validate row.path = .ok () ∧
      ∃ steps name, Step.ofPath row.filePath = steps ++ [.down name] := by
  have hrun : Ensures (engine.apply id options) env fun result after => ∀ application,
      result = .ok application → application.applied = true →
        after.disk.IsClear row.filePath ∧ Path.validate row.path = .ok () ∧
          ∃ steps name, Step.ofPath row.filePath = steps ++ [.down name] := by
    refine ensures_apply_of_applyTo ?_ ?_
    · intro result after hends application hok htrue
      rw [hends.unapplied application hok] at htrue
      cases htrue
    intro suggestion path text middle hmiddle
    have hholds := Store.holds_of_get hrow hmiddle.stored
    obtain rfl := hholds.eq_filePath hmiddle.resolved
    have hvalid := (Disk.validate_of_resolveIn hmiddle.resolved).1
    rw [hholds.path] at hvalid
    have hread := hmiddle.reads
    have hnamed := Disk.exists_down_of_resolveIn hmiddle.resolved fun _ => Disk.ofPath_ne_append_here hread
    rw [← hmiddle.unmoved.disk] at hread
    refine (gives_applyTo_isClear engine suggestion hread options.keepsBackup).mono ?_
    exact fun result after hclear application hok _ => ⟨hclear application hok, hvalid, hnamed⟩
  exact hrun.of_eq hresult application rfl happlied

/-! ### What later runs leave -/

theorem ensures_apply_isClear (h : env.disk.IsClear path) :
    Ensures (engine.apply id options) env fun _ after => after.disk.IsClear path := by
  refine ensures_apply_of_applyTo (fun _ after hends => hends.unmoved.disk ▸ h) ?_
  intro suggestion other text middle hmiddle
  obtain ⟨row, directory, name, place, -, rfl, hreads⟩ :=
    exists_readsAt hmiddle.stored hmiddle.resolved hmiddle.reads
  rw [← hmiddle.unmoved.disk] at hreads h
  refine ensures_applyTo_of_revised hreads (fun after hlitters _ _ => ?_)
    fun after more _ hnarrows hrevised => ?_
  · obtain ⟨more, -, litter, hlitter, -⟩ := hlitters
    exact h.drafts ⟨litter, hlitter⟩
  · exact h.revised hreads hmiddle.hasMarkers hnarrows hrevised

/-! ### A suggestion that has lost -/

/-- No run of a suggestion succeeds, no look at it finds it valid, and nothing is changed. -/
structure Rejects (engine : Engine κ ν) (id : String) (env : Environment ν) : Prop where
  apply : ∀ options, (∃ error, (engine.apply id options env).1 = .error error) ∧
    env.Unmoved (engine.apply id options env).2
  validate : env.Unmoved (validate id env).2 ∧
    ∀ validity, (Engine.validate id env).1 = .ok validity → validity.isValid = false

/-- Every run of a suggestion is told that the file has no marker lines, and so is a look at it. -/
structure FindsStale (engine : Engine κ ν) (id : String) (env : Environment ν) : Prop where
  apply : ∀ options, (engine.apply id options env).1 =
    .error (.stale id "target file no longer contains conflict markers")
  validate : (Engine.validate id env).1 =
    .ok ⟨id, false, 0, some "target file no longer contains conflict markers"⟩

theorem countMarkers_of_isClear (h : env.disk.IsClear row.filePath) (hrow : env.store.row? id = some row)
    (hget : env.store.get id = .ok (some suggestion))
    (hresolve : env.disk.resolveIn suggestion.repository suggestion.path = .ok path)
    (hread : env.disk.readText path = .ok text) : Text.countMarkers text = 0 := by
  obtain ⟨other, directory, name, place, hother, rfl, hreads⟩ := exists_readsAt hget hresolve hread
  obtain rfl := Option.some.inj (hrow.symm.trans hother)
  exact (h.file_of_readsAt hreads).2

theorem gives_validate (id : String) (env : Environment ν) :
    (validate id).Gives env fun validity _ => ∃ suggestion path found,
      env.store.get id = .ok (some suggestion) ∧
        env.disk.resolveIn suggestion.repository suggestion.path = .ok path ∧
        validity = .of id found ∧ ∀ text, found = some text → env.disk.readText path = .ok text := by
  refine gives_bind (gives_of_ensures (ensures_load id env) fun _ _ h => h) ?_
  rintro suggestion first ⟨hfirst, hget⟩
  refine gives_bind (gives_of_ensures (ensures_target suggestion first) fun _ _ h => h) ?_
  rintro path _ ⟨rfl, hpath⟩
  refine gives_bind (gives_of_ensures (ensures_current path _) fun _ _ h => h) ?_
  rintro found second ⟨-, htext⟩
  rw [← hfirst.disk]
  refine gives_pure ⟨suggestion, path, found, (hget suggestion rfl).1, hpath path rfl, rfl, ?_⟩
  rintro text rfl
  exact (htext text rfl).1

theorem refused_of_resolveIn {refusal : Path.Refusal} (hloads : env.faults .load = none)
    (hget : env.store.get id = .ok (some suggestion)) (hunapplied : suggestion.isApplied = false)
    (hresolve : env.disk.resolveIn suggestion.repository suggestion.path = .error refusal) :
    (engine.apply id options env).1 = .error (.refused refusal) ∧
      (validate id env).1 = .error (.refused refusal) := by
  have hload := load_of_get hloads hget
  have htarget : target suggestion (env.noted .load []) =
      (.error (.refused refusal), env.noted .load []) := by
    have hdisk : Course.disk (env.noted .load []) = (.ok env.disk, env.noted .load []) := rfl
    rw [target, bind_of_ok hdisk]
    simp only [hresolve]
    rfl
  constructor
  · rw [apply, bind_of_ok hload, if_neg (by simp [hunapplied]), bind_of_error htarget]
  · rw [validate, bind_of_ok hload, bind_of_error htarget]

theorem rejects_of_isClear (h : env.disk.IsClear row.filePath) (hrow : env.store.row? id = some row)
    (hunapplied : row.isApplied = false) : engine.Rejects id env where
  apply options := by
    have hstored (suggestion : Suggestion ν) (hget : env.store.get id = .ok (some suggestion)) :
        suggestion.isApplied = false := (Store.holds_of_get hrow hget).isApplied.trans hunapplied
    constructor
    · obtain ⟨suggestion, path, text, hfinds⟩ | ⟨error, after, -, happly⟩ :=
        finds_or engine id env hstored
      · rw [apply_of_finds hfinds,
          if_pos (countMarkers_of_isClear h hrow hfinds.stored hfinds.resolved hfinds.text)]
        exact ⟨_, rfl⟩
      · exact ⟨error, by rw [happly]⟩
    · refine (ensures_apply_of_applyTo (fun _ _ hends => hends.unmoved) ?_ :
        Ensures (engine.apply id options) env fun _ after => env.Unmoved after)
      intro suggestion path text middle hmiddle
      exact absurd (countMarkers_of_isClear h hrow hmiddle.stored hmiddle.resolved hmiddle.reads)
        hmiddle.hasMarkers
  validate := by
    refine ⟨ensures_validate id env, fun validity hvalidity => ?_⟩
    obtain ⟨suggestion, path, found, hget, hresolve, rfl, htext⟩ :=
      gives_validate id env validity hvalidity
    cases found with
    | none => rfl
    | some text =>
        have hclear := countMarkers_of_isClear h hrow hget hresolve (htext text rfl)
        simp [Validity.of, hclear]

theorem validate_of_finds (h : env.Finds id suggestion path text) :
    validate id env = (.ok (.of id (some text)), env.checked path) := by
  have hload := load_of_get h.loads h.stored
  have htarget : target suggestion (env.noted .load []) = (.ok path, env.noted .load []) :=
    target_of_resolveIn h.resolved
  have hcurrent : current path (env.noted .load []) = (.ok (some text), env.checked path) :=
    current_of_readText h.reads h.text
  rw [validate, bind_of_ok hload, bind_of_ok htarget, bind_of_ok hcurrent]
  rfl

theorem findsStale_of_finds (h : env.Finds id suggestion path text)
    (hclear : Text.countMarkers text = 0) : engine.FindsStale id env where
  apply options := by
    rw [apply_of_finds h, if_pos hclear]
    rfl
  validate := by
    rw [validate_of_finds h]
    simp only [Validity.of, hclear, if_true]

/-- A path that leads to the file that was written is let through only if the file lies in the root. -/
theorem FindsStale.exists_locate (hstale : engine.FindsStale id env)
    (h : env.disk.IsClear row.filePath) (hrow : env.store.row? id = some row) :
    ∃ directory name, env.disk.locate row.filePath = .ok (directory, name) ∧
      ∀ top, env.disk.canonical row.repository = .ok top → top <+: directory := by
  obtain ⟨suggestion, path, found, hget, hresolve, hfound, htext⟩ :=
    gives_validate id env _ hstale.validate
  obtain ⟨text, rfl⟩ : ∃ text, found = some text := by
    cases found with
    | none => simp [Validity.of] at hfound
    | some text => exact ⟨text, rfl⟩
  have hread := htext text rfl
  obtain ⟨other, directory, name, place, hother, rfl, hreads⟩ := exists_readsAt hget hresolve hread
  obtain rfl := Option.some.inj (hrow.symm.trans hother)
  have hholds := Store.holds_of_get hrow hget
  rw [hholds.repository, hholds.path] at hresolve
  refine ⟨directory, name, hreads.locate, fun top hroot => ?_⟩
  obtain ⟨target, hlink⟩ | hinside :=
    Disk.link_or_prefix_of_resolveIn hroot hresolve (by simp [hread]) hreads.locate
  · obtain ⟨⟨mode, hfile⟩, -⟩ := h.file_of_readsAt hreads
    cases hlink.symm.trans hfile
  · exact hinside

/-- Whoever has lost is told so just where the file that was written lies in the root, so that the path is
let through. -/
theorem findsStale_iff (h : env.disk.IsClear row.filePath) (hrow : env.store.row? id = some row)
    (hunapplied : row.isApplied = false) (hvalid : Path.validate row.path = .ok ())
    (hnamed : ∃ steps name, Step.ofPath row.filePath = steps ++ [.down name])
    (hanswers : env.Answers id) :
    engine.FindsStale id env ↔
      ∃ directory name, env.disk.locate row.filePath = .ok (directory, name) ∧
        ∀ top, env.disk.canonical row.repository = .ok top → top <+: directory := by
  refine ⟨fun hstale => hstale.exists_locate h hrow, ?_⟩
  rintro ⟨directory, name, hlocate, hinside⟩
  obtain ⟨text, mode, hfile, hclear⟩ := h directory name hlocate
  obtain ⟨steps, last, hpath⟩ := hnamed
  obtain ⟨rfl, henters⟩ := Disk.of_locate_eq_ok_of_steps hpath hlocate
  have hread := Disk.readText_of_enters henters hpath hfile
  obtain ⟨directory', name', place, hreads⟩ := Disk.ReadsAt.of_readText ⟨steps, name, hpath⟩ hread
  obtain ⟨rfl, rfl⟩ := Prod.mk.inj (Except.ok.inj (hlocate.symm.trans hreads.locate))
  obtain rfl := hreads.place_eq hfile
  have hresolve : env.disk.resolveIn row.repository row.path = .ok row.filePath :=
    Disk.resolveIn_of_canonical hvalid hreads.canonical fun top hroot =>
      (hinside top hroot).trans (List.prefix_append _ _)
  obtain ⟨suggestion, hget⟩ : ∃ suggestion, env.store.get id = .ok (some suggestion) := by
    obtain ⟨found, hfound⟩ := hanswers.stored
    rw [Store.get_eq_of_row? hrow] at hfound ⊢
    obtain ⟨suggestion, hdecode, -⟩ := map_eq_ok_iff.mp hfound
    exact ⟨suggestion, map_eq_ok_iff.mpr ⟨suggestion, hdecode, rfl⟩⟩
  have hholds := Store.holds_of_get hrow hget
  rw [← hholds.repository, ← hholds.path] at hresolve
  exact findsStale_of_finds ⟨hanswers.loads, hget, hholds.isApplied.trans hunapplied, hresolve,
    hanswers.reads, hread⟩ hclear

end Engine

namespace Session

open Engine

variable [Scalar ν] {session : Session κ ν} {path id : String} {row : Row ν}

/-- Whenever others edit files in a run of calls, they leave alone the entry that a path names. -/
def Undisturbed (path : String) : Session κ ν → List (Call κ ν) → Prop
  | _, [] => True
  | session, call :: rest =>
    (∀ disk, call.request = .edit disk → session.disk.LeavesAlone path disk) ∧
      (session.step call).Undisturbed path rest

theorem disk_step_report (session : Session κ ν) (strategy : String) (succeeded : Bool)
    (circumstances : Circumstances) :
    (session.step ⟨.report strategy succeeded, circumstances⟩).disk =
      (session.engine.report strategy succeeded (session.environment circumstances)).2.disk := by
  simp only [step]
  rcases session.engine.report strategy succeeded (session.environment circumstances) with
    ⟨error | learned, after⟩ <;> rfl

theorem isClear_step (h : session.disk.IsClear path) {call : Call κ ν}
    (hedit : ∀ disk, call.request = .edit disk → session.disk.LeavesAlone path disk) :
    (session.step call).disk.IsClear path := by
  rcases call with ⟨request, circumstances⟩
  have henv : (session.environment circumstances).disk.IsClear path := h
  cases request with
  | generate factors repository conflict most =>
      have hgenerate : (session.engine.generate factors repository conflict most).Preserves
          fun disk _ _ => disk.IsClear path :=
        preserves_generate (fun _ _ _ _ _ _ _ h _ => h) _ _ _ _ _
      exact hgenerate _ henv
  | apply other options => exact ensures_apply_isClear henv
  | validate other =>
      have hunmoved := ensures_validate other (session.environment circumstances)
      change (validate other (session.environment circumstances)).2.disk.IsClear path
      rwa [hunmoved.disk]
  | report strategy succeeded =>
      rw [disk_step_report]
      have hreport : (session.engine.report strategy succeeded).Preserves
          fun disk _ _ => disk.IsClear path :=
        preserves_bind (preserves_onStore (fun _ _ _ h => h) fun _ _ _ _ _ h _ => h) fun _ =>
          preserves_pure _
      exact hreport _ henv
  | list filter => exact h
  | reopen settings chain reader =>
      simp only [step]
      split <;> exact h
  | edit disk => exact h.leavesAlone (hedit disk rfl)

theorem isClear_after {calls : List (Call κ ν)} (h : session.disk.IsClear path)
    (hundisturbed : session.Undisturbed path calls) : (session.after calls).disk.IsClear path := by
  induction calls generalizing session with
  | nil => exact h
  | cons call rest ih => exact ih (isClear_step h hundisturbed.1) hundisturbed.2

/-- Once a suggestion has been applied, and for as long as others leave its file alone, every other
suggestion for the path that is not applied is refused and nothing is changed, whatever steps fail. Where
the steps of looking at it do not fail, it is found to be stale just if the path still names an entry and
the directory of that lies in the root. -/
theorem others_are_stale_iff {call : Call κ ν} {calls : List (Call κ ν)}
    (happlies : session.applies? call = some id) (hrow : session.store.row? id = some row)
    (hundisturbed : (session.step call).Undisturbed row.filePath calls) :
    let later := (session.step call).after calls
    ∀ other again, later.store.row? other = some again → again.isApplied = false →
      again.repository = row.repository → again.path = row.path → ∀ circumstances,
        let env := later.environment circumstances
        later.engine.Rejects other env ∧
          (env.Answers other → (later.engine.FindsStale other env ↔
            ∃ directory name, later.disk.locate row.filePath = .ok (directory, name) ∧
              ∀ top, later.disk.canonical row.repository = .ok top → top <+: directory)) := by
  intro later other again hagain hunapplied hrepository hpath circumstances env
  obtain ⟨options, application, hrequest, happlied, hresult⟩ := exists_of_applies? happlies
  rcases call with ⟨request, earlier⟩
  obtain rfl : request = .apply id options := hrequest
  have hbegun : (session.environment earlier).store.row? id = some row := hrow
  obtain ⟨hclear, hvalid, hnamed⟩ := isClear_of_apply hbegun (Prod.ext hresult rfl) happlied
  have hlater : later.disk.IsClear row.filePath := isClear_after hclear hundisturbed
  have hsame : again.filePath = row.filePath := by
    rw [Row.filePath, hrepository, hpath]
    rfl
  rw [← hrepository, ← hsame]
  rw [← hsame] at hlater hnamed
  rw [← hpath] at hvalid
  exact ⟨rejects_of_isClear hlater hagain hunapplied,
    findsStale_iff hlater hagain hunapplied hvalid hnamed⟩

/-! ### Two suggestions for one file -/

omit [Scalar ν] in
theorem applies?_eq_some {options : ApplyOptions} {circumstances : Circumstances}
    (h : (session.engine.apply id options (session.environment circumstances)).1.toOption.map
      (·.applied) = some true) :
    session.applies? ⟨.apply id options, circumstances⟩ = some id := by
  rw [applies?]
  cases hresult : (session.engine.apply id options (session.environment circumstances)).1 with
  | error error =>
      rw [hresult] at h
      cases h
  | ok application =>
      rw [hresult] at h
      simp only [hresult]
      exact if_pos (Option.some.inj h)

def otherRow : Row Rat := { unappliedRow with id := "t", resolution := "b\n" }

theorem exists_decode_otherRow : ∃ suggestion, otherRow.decode = .ok suggestion :=
  ⟨_, by cbv⟩

def winning : Call String Rat := ⟨.apply "s" ⟨false, false⟩, calm⟩

/-- A file with two suggestions. -/
def contested : Session String Rat :=
  ⟨plainEngine, moved.disk,
    ⟨2, some [{ unappliedRow with resolution := "a\n" }, otherRow], some [], false⟩⟩

/-- One of the suggestions has been applied. -/
def decided : Session String Rat :=
  ⟨plainEngine, ⟨[(["r", "f"], .file (.text "a\n") 0o644), (["r"], .directory)], []⟩,
    ⟨2, some [{ unappliedRow with
      resolution := "a\n", status := .applied, appliedAt := some "2024-01-02T00:00:00+00:00" }, otherRow],
      some [], false⟩⟩

theorem run_contested : contested.applies? winning = some "s" ∧ contested.step winning = decided := by
  have hrun : (((plainEngine.apply "s" ⟨false, false⟩ (contested.environment calm)).1.toOption.map
      (·.applied), (contested.step winning).disk), (contested.step winning).store) =
        ((some true, decided.disk), decided.store) := by cbv
  obtain ⟨hfirst, hstore⟩ := Prod.mk.inj hrun
  obtain ⟨happlied, hdisk⟩ := Prod.mk.inj hfirst
  refine ⟨applies?_eq_some happlied, ?_⟩
  calc contested.step winning
      = ⟨plainEngine, (contested.step winning).disk, (contested.step winning).store⟩ := rfl
    _ = decided := by
      rw [hdisk, hstore]
      rfl

/-- The engine is started anew in between. -/
def restarting : List (Call String Rat) := [⟨.reopen .standard .standard silentReader, calm⟩]

theorem others_are_stale_contested :
    contested.applies? winning = some "s" ∧
      contested.store.row? "s" = some { unappliedRow with resolution := "a\n" } ∧
      (contested.step winning).Undisturbed "r/f" restarting ∧
      ((contested.step winning).after restarting).store.row? "t" = some otherRow ∧
      ((contested.step winning).after restarting).engine.FindsStale "t"
        (((contested.step winning).after restarting).environment calm) := by
  obtain ⟨happlies, hstep⟩ := run_contested
  have hrow : contested.store.row? "s" = some { unappliedRow with resolution := "a\n" } := rfl
  have hundisturbed : (contested.step winning).Undisturbed "r/f" restarting := ⟨nofun, trivial⟩
  have hafter : (contested.step winning).after restarting = decided := by
    rw [hstep]
    rfl
  have hagain : ((contested.step winning).after restarting).store.row? "t" = some otherRow := by
    rw [hafter]
    rfl
  obtain ⟨suggestion, hdecode⟩ := exists_decode_otherRow
  have hanswers : (((contested.step winning).after restarting).environment calm).Answers "t" := by
    refine ⟨rfl, ⟨some suggestion, ?_⟩, rfl⟩
    exact (Store.get_eq_of_row? hagain).trans (congrArg (Except.map some) hdecode)
  have hstale :=
    (others_are_stale_iff happlies hrow hundisturbed "t" otherRow hagain rfl rfl rfl calm).2 hanswers
  refine ⟨happlies, hrow, hundisturbed, hagain, hstale.mpr ?_⟩
  have hlocate : decided.disk.locate "r/f" = .ok (["r"], "f") := by cbv
  have hroot : decided.disk.canonical "r" = .ok ["r"] := by cbv
  rw [hafter]
  refine ⟨["r"], "f", hlocate, fun top htop => ?_⟩
  obtain rfl := Except.ok.inj (hroot.symm.trans htop)
  exact List.prefix_rfl

/-- An entry with two suggestions, a link outside the root that leads back. -/
def contestedLink : Session String Rat :=
  ⟨plainEngine, linked.disk, ⟨2, some [linkedRow, { otherRow with path := "d/l" }], some [], false⟩⟩

/-- The entry is a file by now. -/
def unlinked : Session String Rat :=
  ⟨plainEngine,
    ⟨[(["o", "l"], .file (.text "1\n") 0o644), (["r"], .directory), (["o"], .directory),
      (["r", "d"], .link "/o"),
      (["r", "f"], .file (.text "<<<<<<< a\n1\n=======\n2\n>>>>>>> b\n") 0o644)], []⟩,
    ⟨2, some [{ linkedRow with status := .applied, appliedAt := some "2024-01-02T00:00:00+00:00" },
      { otherRow with path := "d/l" }], some [], false⟩⟩

theorem run_contestedLink :
    contestedLink.applies? winning = some "s" ∧ contestedLink.step winning = unlinked := by
  have hrun : (((plainEngine.apply "s" ⟨false, false⟩ (contestedLink.environment calm)).1.toOption.map
      (·.applied), (contestedLink.step winning).disk), (contestedLink.step winning).store) =
        ((some true, unlinked.disk), unlinked.store) := by cbv
  obtain ⟨hfirst, hstore⟩ := Prod.mk.inj hrun
  obtain ⟨happlied, hdisk⟩ := Prod.mk.inj hfirst
  refine ⟨applies?_eq_some happlied, ?_⟩
  calc contestedLink.step winning
      = ⟨plainEngine, (contestedLink.step winning).disk, (contestedLink.step winning).store⟩ := rfl
    _ = unlinked := by
      rw [hdisk, hstore]
      rfl

/-- Once one of two suggestions has been applied, the path of the other escapes. -/
theorem contestedLink_escapes :
    contestedLink.applies? winning = some "s" ∧ contestedLink.store.row? "s" = some linkedRow ∧
      (contestedLink.step winning).store.row? "t" = some { otherRow with path := "d/l" } ∧
      (plainEngine.apply "t" .standard ((contestedLink.step winning).environment calm)).1 =
        .error (.refused ⟨"d/l", .escapes⟩) ∧
      (validate "t" ((contestedLink.step winning).environment calm)).1 =
        .error (.refused ⟨"d/l", .escapes⟩) := by
  obtain ⟨happlies, hstep⟩ := run_contestedLink
  rw [hstep]
  refine ⟨happlies, rfl, rfl, ?_⟩
  obtain ⟨suggestion, hget⟩ : ∃ suggestion, unlinked.store.get "t" = .ok (some suggestion) :=
    ⟨_, by cbv⟩
  obtain ⟨row, hrow, hholds⟩ := Store.row?_of_get hget
  obtain rfl : { otherRow with path := "d/l" } = row := Option.some.inj hrow
  have hcanonical : unlinked.disk.canonical "r/d/l" = .ok ["o", "l"] := by cbv
  have hroot : unlinked.disk.canonical "r" = .ok ["r"] := by cbv
  have hresolve : unlinked.disk.resolveIn "r" "d/l" = .error ⟨"d/l", .escapes⟩ :=
    Disk.resolveIn_of_outside rfl hcanonical hroot (by decide)
  refine refused_of_resolveIn rfl hget hholds.isApplied ?_
  rw [hholds.repository, hholds.path]
  exact hresolve

end Session

end Reconcile
