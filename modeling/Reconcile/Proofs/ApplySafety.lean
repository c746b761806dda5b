import Mathlib
import Reconcile.Proofs.Failing
import Reconcile.Proofs.Joining
import Reconcile.Proofs.Rollback
import Reconcile.Proofs.Stages

/-!
# Applying a suggestion is safe

Up to the making of the guard nothing is changed. From then on every step either succeeds or is undone
through the guard, and the suggestion is marked last, after the new text has been read again and found
in order. So a run that ends without an application leaves the file's contents as they were, and one
that ends with an application leaves the new text and a suggestion that is marked as applied.
-/

namespace Reconcile

variable {κ ν α : Type}

namespace Environment

variable {env middle after : Environment ν}

/-- The files and the store are as they were. -/
structure Unmoved (env after : Environment ν) : Prop where
  disk : after.disk = env.disk
  store : after.store = env.store
  failures : env.failures <:+ after.failures

theorem Unmoved.trans (h : env.Unmoved middle) (h' : middle.Unmoved after) : env.Unmoved after :=
  ⟨h'.disk.trans h.disk, h'.store.trans h.store, h.failures.trans h'.failures⟩

theorem Unmoved.of_fail {stage : Stage} : env.Unmoved (env.fail stage) :=
  ⟨rfl, rfl, List.suffix_cons stage env.failures⟩

/-- The file of a suggestion holds what it held, and no suggestion has become applied. -/
structure Keeps (env after : Environment ν) (id : String) : Prop where
  contents : ∀ row, env.store.row? id = some row →
    after.disk.contents row.filePath = env.disk.contents row.filePath
  store : env.store.AppliesNothing after.store

theorem Unmoved.keeps (h : env.Unmoved after) (id : String) : env.Keeps after id where
  contents row _ := by rw [h.disk]
  store := h.store ▸ .refl env.store

end Environment

/-- The path of a suggestion's file is that of its row's. -/
theorem Row.Holds.eq_filePath {row : Row ν} {suggestion : Suggestion ν} {disk : Disk} {path : String}
    (h : row.Holds suggestion)
    (hresolve : disk.resolveIn suggestion.repository suggestion.path = .ok path) :
    path = row.filePath := by
  rw [(Disk.validate_of_resolveIn hresolve).2, h.repository, h.path]
  rfl

namespace Engine

open Course Environment

variable {engine : Engine κ ν} {guard : Guard} {suggestion : Suggestion ν}
  {env after : Environment ν}

/-! ### Before anything is written -/

theorem ensures_load (id : String) (env : Environment ν) :
    Ensures (load id) env fun result after => env.Unmoved after ∧
      ∀ suggestion, result = .ok suggestion →
        env.store.get id = .ok (some suggestion) ∧ after.failures = env.failures := by
  refine ensures_bind (ensures_onStore (fun error => ⟨.of_fail, by simp⟩) ?_)
  intro found store hget
  obtain ⟨kept, hkept, heq⟩ := map_eq_ok_iff.mp hget
  obtain ⟨rfl, rfl⟩ := Prod.mk.inj heq
  cases kept with
  | none => exact ensures_throw ⟨⟨rfl, rfl, List.suffix_rfl⟩, by simp⟩
  | some suggestion =>
      refine ensures_pure ⟨⟨rfl, rfl, List.suffix_rfl⟩, ?_⟩
      rintro _ ⟨⟩
      exact ⟨hkept, rfl⟩

theorem ensures_target (suggestion : Suggestion ν) (env : Environment ν) :
    Ensures (target suggestion) env fun result after => after = env ∧
      ∀ path, result = .ok path →
        env.disk.resolveIn suggestion.repository suggestion.path = .ok path := by
  refine ensures_bind (ensures_disk ?_)
  dsimp only
  cases hresolve : env.disk.resolveIn suggestion.repository suggestion.path with
  | error refusal => exact ensures_throw ⟨rfl, by simp⟩
  | ok found =>
      refine ensures_pure ⟨rfl, fun path hpath => ?_⟩
      rw [Except.ok.inj hpath]

theorem ensures_current (path : String) (env : Environment ν) :
    Ensures (current path) env fun result after => env.Unmoved after ∧
      ∀ text, result = .ok (some text) →
        env.disk.readText path = .ok text ∧ after.failures = env.failures := by
  refine ensures_onFiles (fun error => ⟨.of_fail, by simp⟩) fun found disk hread => ?_
  split at hread
  · rename_i text htext
    obtain ⟨rfl, rfl⟩ := Prod.mk.inj (Except.ok.inj hread)
    refine ⟨⟨rfl, rfl, List.suffix_rfl⟩, ?_⟩
    rintro _ ⟨⟩
    exact ⟨htext, rfl⟩
  · obtain ⟨rfl, rfl⟩ := Prod.mk.inj (Except.ok.inj hread)
    exact ⟨⟨rfl, rfl, List.suffix_rfl⟩, by simp⟩
  · cases hread

theorem countMarkers_ne_zero_of_reason {id text : String}
    (h : (Validity.of id (some text)).reason = none) : Text.countMarkers text ≠ 0 := by
  intro hzero
  simp [Validity.of, hzero] at h

/-- A run has ended before anything was written. -/
structure EndsEarly (env : Environment ν) (result : Except FixError (Application ν))
    (after : Environment ν) : Prop where
  unmoved : env.Unmoved after
  looks : env.Confined after Stage.Looks False
  unapplied : ∀ application, result = .ok application → application.applied = false
  /-- It has found no text to be wrong, unless a step fails by itself with just that. -/
  passedOn : ∀ error, result = .error error → error.isViolation → ∃ stage, env.faults stage = some error

/-- A run has read a text with marker lines from its file, and goes on to write the file. -/
structure HasRead (env : Environment ν) (id : String) (options : ApplyOptions)
    (suggestion : Suggestion ν) (path text : String) (middle : Environment ν) : Prop where
  stored : env.store.get id = .ok (some suggestion)
  isUnapplied : suggestion.isApplied = false
  resolved : env.disk.resolveIn suggestion.repository suggestion.path = .ok path
  reads : env.disk.readText path = .ok text
  hasMarkers : Text.countMarkers text ≠ 0
  isReal : options.isDryRun = false
  unmoved : env.Unmoved middle
  looks : env.Confined middle Stage.Looks False
  failures : middle.failures = env.failures

/-- A run either ends before anything is written, or it has read a text with marker lines from its file by
then, and nothing has moved. -/
theorem ensures_apply_of_applyTo {id : String} {options : ApplyOptions}
    {post : Except FixError (Application ν) → Environment ν → Prop}
    (hends : ∀ result after, EndsEarly env result after → post result after)
    (hwrites : ∀ suggestion path text middle, HasRead env id options suggestion path text middle →
      Ensures (engine.applyTo suggestion path text options.keepsBackup) middle post) :
    Ensures (engine.apply id options) env post := by
  -- What steps fail with is passed on as it is, and of the errors made up here none is a violation.
  have hgiven {after : Environment ν} (hfaults : after.faults = env.faults) :
      after.FailsWith fun error => error.isViolation → ∃ stage, env.faults stage = some error :=
    fun stage error hfault _ => ⟨stage, hfaults ▸ hfault⟩
  have hfails {error : FixError} {after : Environment ν} (h : env.Unmoved after)
      (hlooks : env.Confined after Stage.Looks False)
      (herror : error.isViolation → ∃ stage, env.faults stage = some error) :
      post (.error error) after := by
    refine hends _ after ⟨h, hlooks, by simp, ?_⟩
    rintro _ ⟨⟩
    exact herror
  have hunwritten {suggestion : Suggestion ν} {verification : Verification} {succeeded : Bool}
      {appliedAt : Option Timestamp} {error : Option String} {after : Environment ν}
      (h : env.Unmoved after) (hlooks : env.Confined after Stage.Looks False) :
      post (.ok (unwritten suggestion verification succeeded appliedAt error)) after := by
    refine hends _ after ⟨h, hlooks, ?_, by simp⟩
    rintro _ ⟨⟩
    rfl
  refine ensures_bind ((((ensures_load id env).and (confinedTo_load id env)).and
    ((failsWith_load (by simp) (by simp)).ensures (hgiven rfl))).mono ?_)
  rintro (error | suggestion) first ⟨⟨⟨hfirst, hget⟩, hloads⟩, -, herror⟩
  · exact hfails hfirst hloads (herror error rfl)
  dsimp only
  split
  · exact ensures_pure (hunwritten hfirst hloads)
  rename_i hunapplied
  refine ensures_bind (((ensures_target suggestion first).and
    ((failsWith_target (by simp) suggestion).ensures (hgiven hloads.faults))).mono ?_)
  rintro (error | path) _ ⟨⟨rfl, hpath⟩, -, herror⟩
  · exact hfails hfirst hloads (herror error rfl)
  refine ensures_bind ((((ensures_current path _).and (confinedTo_current path _)).and
    ((failsWith_current (by simp) path).ensures (hgiven hloads.faults))).mono ?_)
  rintro (error | found) second ⟨⟨⟨hsecond, htext⟩, hreads⟩, -, herror⟩
  · exact hfails (hfirst.trans hsecond) (hloads.trans hreads) (herror error rfl)
  have hresolve := hpath path rfl
  rw [hfirst.disk] at hresolve
  have hunmoved := hfirst.trans hsecond
  have hlooks := hloads.trans hreads
  dsimp only
  split
  · rename_i text hreason
    split
    · exact ensures_pure (hunwritten hunmoved hlooks)
    · rename_i hdry
      obtain ⟨hstored, hnone⟩ := hget suggestion rfl
      obtain ⟨hread, hlast⟩ := htext text rfl
      rw [hfirst.disk] at hread
      exact hwrites suggestion path text second ⟨hstored, by simpa using hunapplied, hresolve, hread,
        countMarkers_ne_zero_of_reason hreason, by simpa using hdry, hunmoved, hlooks, hlast.trans hnone⟩
  · exact ensures_throw (hfails hunmoved hlooks (by simp))

/-! ### Writing under a guard -/

/-- The new text of a suggestion has been written and is in order. -/
structure Written (engine : Engine κ ν) (suggestion : Suggestion ν) (guard : Guard)
    (env after : Environment ν) : Prop extends env.Continues after where
  text : after.disk.readText guard.target = .ok suggestion.resolution
  passed : (engine.verify suggestion guard.former suggestion.resolution).passed
  holds : guard.Holds after.disk
  unmarked : after.store = env.store

theorem ensures_overwrite (h : guard.Holds env.disk) :
    Ensures (engine.overwrite suggestion guard) env fun result after => match result with
      | .ok _ => engine.Written suggestion guard env after
      | .error _ => guard.Undone env after := by
  refine ensures_bind ((ensures_orRollBack (fun _ after =>
    env.Puts .overwrite guard.target suggestion.resolution after)
    ((ensures_writeText .overwrite guard.target suggestion.resolution env).mono ?_)).mono ?_)
  · rintro (error | ⟨⟩) after hresult
    · exact ⟨.of_balks hresult, h.drafts hresult.drafts⟩
    · exact hresult
  rintro (error | ⟨⟩) written hwritten
  · exact hwritten
  have hfirst : env.Continues written := .of_puts hwritten
  have hholds := h.replaced hwritten.replaced
  have htext := h.readText_of_replaced hwritten.replaced
  refine ensures_bind ((ensures_orRollBack (fun text after =>
    text = suggestion.resolution ∧ after.disk = written.disk ∧ after.store = written.store ∧
      after.failures = written.failures)
    (ensures_readText (fun error => ⟨.of_fail rfl rfl, hholds⟩) fun text hread => ?_)).mono ?_)
  · exact ⟨Except.ok.inj (hread.symm.trans htext), rfl, rfl, rfl⟩
  rintro (error | text) after hread
  · exact hread.of_continues hfirst
  obtain ⟨rfl, hdisk, hsame, hnone⟩ := hread
  have hlast : env.Continues after := hfirst.trans (.of_eq hnone hsame)
  dsimp only
  split
  · rename_i hpassed
    refine ensures_pure ⟨hlast, ?_, hpassed, ?_, hsame.trans hwritten.store⟩
    · rwa [hdisk]
    · rwa [hdisk]
  · refine ensures_bind ((ensures_rollBack (hdisk ▸ hholds)).mono ?_)
    rintro (failure | restored) final hundone
    · exact hundone.of_continues hlast
    · exact hundone.of_continues hlast

/-- What holds once a suggestion has been applied: its file holds its text, which is in order, and the
suggestion is marked. -/
structure Settled (engine : Engine κ ν) (after : Environment ν) (row marked : Row ν) : Prop where
  contents : after.disk.contents row.filePath = .ok (.text row.resolution)
  hasNoMarkers : Text.countMarkers row.resolution = 0
  isWellFormed : engine.reader.isWellFormed? row.path row.resolution ≠ some false
  stored : after.store.row? row.id = some marked
  isApplied : marked.isApplied

theorem ensures_applyTo {path text : String} (hread : env.disk.readText path = .ok text)
    (keepsBackup : Bool) :
    Ensures (engine.applyTo suggestion path text keepsBackup) env fun result after => match result with
      | .ok application => application.applied ∧ after.disk.readText path = .ok suggestion.resolution ∧
          (engine.verify suggestion text suggestion.resolution).passed ∧
            ∃ time, env.store.mark suggestion.id false time = .ok after.store
      | .error _ => env.Continues after ∧
          (env.Restores after → after.disk.contents path = env.disk.contents path) := by
  have hcontents := Disk.contents_of_readText hread
  refine ensures_bind ((Guard.ensures_create hread keepsBackup).mono ?_)
  rintro (error | guard) first hguard
  · refine ⟨.of_balks hguard, fun _ => ?_⟩
    rw [hcontents, Disk.contents_of_readText (hguard.drafts.readText hread)]
  obtain ⟨hfirst, -, hstore, rfl, rfl, hholds⟩ := hguard
  have hundone {last : Environment ν} (h : guard.Undone env last) : env.Continues last ∧
      (env.Restores last → last.disk.contents guard.target = env.disk.contents guard.target) :=
    ⟨h.toContinues, fun hrestores =>
      (Disk.contents_of_readText (h.restored hrestores)).trans hcontents.symm⟩
  refine ensures_bind ((ensures_overwrite hholds).mono ?_)
  rintro (error | verification) second hsecond
  · exact hundone (hsecond.of_continues hfirst)
  have hboth := hfirst.trans hsecond.toContinues
  refine ensures_bind ((ensures_orRollBack (fun _ after => after.disk = second.disk ∧
    ∃ time, second.store.mark suggestion.id false time = .ok after.store)
    ((ensures_mark .mark suggestion.id false second).mono ?_)).mono ?_)
  · rintro (error | ⟨⟩) third ⟨hdisk, hresult⟩
    · exact ⟨.of_fail hresult.1 hresult.2, hdisk ▸ hsecond.holds⟩
    · exact ⟨hdisk, hresult.2⟩
  rintro (error | ⟨⟩) third hthird
  · exact hundone (hthird.of_continues hboth)
  obtain ⟨hdisk, time, hmark⟩ := hthird
  refine ensures_bind (ensures_now (ensures_pure ⟨rfl, ?_, hsecond.passed, time, ?_⟩))
  · exact hdisk ▸ hsecond.text
  · rw [← hstore, ← hsecond.unmarked]
    exact hmark

theorem isWellFormed_of_passed {path before after : String}
    (h : (Verification.of engine.reader path before after).passed) :
    Text.countMarkers after = 0 ∧ engine.reader.isWellFormed? path after ≠ some false := by
  simp only [Verification.passed, Verification.of, Bool.and_eq_true] at h
  refine ⟨of_decide_eq_true h.1, fun hfalse => ?_⟩
  rw [hfalse] at h
  simp at h

/-- A run that applies nothing leaves the file of the suggestion and the suggestion as they were; one
that applies it leaves its text in the file, in order, and the suggestion marked. -/
def IsSafe (engine : Engine κ ν) (id : String) (env : Environment ν) :
    Except FixError (Application ν) × Environment ν → Prop
  | (.ok application, after) =>
      if application.applied then
        ∃ row marked, env.store.row? id = some row ∧ engine.Settled after row marked
      else env.Keeps after id
  | (.error _, after) => env.Keeps after id

theorem ensures_apply (engine : Engine κ ν) (id : String) (options : ApplyOptions)
    (env : Environment ν) :
    Ensures (engine.apply id options) env fun result after =>
      env.Restores after → engine.IsSafe id env (result, after) := by
  refine ensures_apply_of_applyTo ?_ ?_
  · rintro (error | application) after hends -
    · exact hends.unmoved.keeps id
    · rw [IsSafe, if_neg (by simp [hends.unapplied application rfl])]
      exact hends.unmoved.keeps id
  intro suggestion path text middle hmiddle
  obtain ⟨row, hrow, hholds⟩ := Store.row?_of_get hmiddle.stored
  obtain rfl := hholds.eq_filePath hmiddle.resolved
  have hunmoved := hmiddle.unmoved
  have hread := hmiddle.reads
  rw [← hunmoved.disk] at hread
  refine (ensures_applyTo hread options.keepsBackup).mono ?_
  rintro (error | application) after hafter hrestores
  · refine ⟨fun other hother => ?_, ?_⟩
    · obtain rfl := Option.some.inj (hrow.symm.trans hother)
      rw [hafter.2 (hrestores.of_suffix hunmoved.failures), hunmoved.disk]
    · exact hunmoved.store ▸ hafter.1.store
  · obtain ⟨happlied, hwritten, hpassed, time, hmark⟩ := hafter
    obtain ⟨hmarkers, hform⟩ := isWellFormed_of_passed hpassed
    rw [hunmoved.store, hholds.id] at hmark
    obtain ⟨marked, hmarked, hset⟩ :=
      Store.isApplied_of_mark hmark (Store.id_of_row? hrow ▸ hrow)
    rw [hholds.resolution] at hmarkers hform hwritten
    rw [hholds.path] at hform
    rw [IsSafe, if_pos happlied]
    exact ⟨row, marked, hrow, Disk.contents_of_readText hwritten, hmarkers, hform, hmarked, hset⟩

/-- Applying is safe if no write that puts the former text back fails. -/
theorem isSafe_apply (engine : Engine κ ν) (id : String) (options : ApplyOptions)
    (env : Environment ν) (hrestores : env.Restores (engine.apply id options env).2) :
    engine.IsSafe id env (engine.apply id options env) :=
  ensures_apply engine id options env hrestores

/-! ### A run that is undone -/

def silentReader : Outline.Reader String := ⟨id, fun _ _ => none, false⟩

def plainEngine : Engine String Rat :=
  ⟨.standard, .standard, .ofSettings .standard silentReader, silentReader⟩

def unappliedRow : Row Rat where
  id := "s"
  repository := "r"
  path := "f"
  kind := "SEMANTIC"
  resolution := "1\n"
  confidence := 0
  explanation := ""
  strategy := ""
  base := none
  source := none
  target := none
  metadata := "\x7b\x7d"
  status := .generated
  createdAt := "2024-01-01T00:00:00Z"
  appliedAt := none
  rolledBackAt := none

/-- A conflicted file with a suggestion for it, which once written cannot be read again. -/
def unreadable : Environment Rat where
  disk := ⟨[(["r"], .directory), (["r", "f"],
    .file (.text "<<<<<<< a\n1\n=======\n2\n>>>>>>> b\n") 0o644)], []⟩
  store := ⟨2, some [unappliedRow], some [], false⟩
  clock _ := ⟨⟨2024, 1, 2⟩, 0, 0, 0, 0⟩
  readings := 0
  ids _ := ""
  issued := 0
  faults stage := if stage = .reread then some (.file .broken) else none
  trail := []

theorem restores_unreadable :
    unreadable.Restores (plainEngine.apply "s" ⟨false, false⟩ unreadable).2 := by
  have hfailures : (plainEngine.apply "s" ⟨false, false⟩ unreadable).2.failures = [.reread] := by cbv
  intro step _
  simp [hfailures]

theorem isSafe_apply_unreadable :
    unreadable.Restores (plainEngine.apply "s" ⟨false, false⟩ unreadable).2 ∧
      plainEngine.IsSafe "s" unreadable (plainEngine.apply "s" ⟨false, false⟩ unreadable) :=
  ⟨restores_unreadable, isSafe_apply plainEngine "s" ⟨false, false⟩ unreadable restores_unreadable⟩

end Engine

end Reconcile
