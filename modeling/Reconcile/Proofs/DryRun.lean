import Mathlib
import Reconcile.Proofs.Staleness

/-!
# Dry runs

A run that is dry and one that is not do the same until the file has been read. Then one looks at the text
that would be written, and the other at what it reads back of the text that it has written. The two see the
same text, so they come to the same verdict.
-/

namespace Reconcile

variable {κ ν α : Type}

/-- The steps that an application takes, once the file has been read. -/
def Stage.advances : Stage → Bool
  | .backUp step | .overwrite step => step.isVital
  | .reread | .mark => true
  | _ => false

namespace Environment

variable {env middle after : Environment ν}

/-- No step towards an application fails between two environments. -/
def Proceeds (env after : Environment ν) : Prop :=
  ∀ stage, stage.advances → after.failures.count stage ≤ env.failures.count stage

/-- The steps that both kinds of runs begin with do not fail. -/
structure Answers (env : Environment ν) (id : String) : Prop where
  loads : env.faults .load = none
  stored : ∃ found, env.store.get id = .ok found
  reads : env.faults .read = none

theorem Proceeds.of_suffix (h : env.Proceeds after) (hfirst : env.failures <:+ middle.failures) :
    middle.Proceeds after := by
  intro stage hstage
  have hcount := hfirst.sublist.count_le stage
  exact (h stage hstage).trans hcount

theorem not_proceeds_of_count_lt {stage : Stage} (hstage : stage.advances)
    (hmore : env.failures.count stage < middle.failures.count stage)
    (hlast : middle.failures <:+ after.failures) : ¬env.Proceeds after := by
  intro hproceeds
  have hcount := hlast.sublist.count_le stage
  have hnone := hproceeds stage hstage
  omega

end Environment

/-- The errors with which a run ends before it is known what would be written. -/
def FixError.IsRefusal (id : String) : FixError → Prop
  | .notFound other => other = id
  | .refused _ => True
  | .file _ => True
  | .stale other _ => other = id
  | _ => False

/-- What a run that writes nothing says of one that does: that it ends with the same error, or that it
applies the suggestion with the same findings, or that its text is found to be wrong. -/
structure Foretells (dry real : Except FixError (Application ν)) : Prop where
  error : ∀ error, dry = .error error → real = .error error
  unwritten : ∀ application, dry = .ok application → application.applied = false
  success : ∀ application, dry = .ok application → (application.succeeded = true ↔
    ∃ other, real = .ok other ∧ other.applied = true ∧
      other.verification = application.verification)
  violation : ∀ application, dry = .ok application → (application.succeeded = false ↔
    ∃ detail restored, real = .error (.violation application.path detail restored) ∧
      application.error = some detail)

theorem foretells_of_error (error : FixError) :
    Foretells (.error error : Except FixError (Application ν)) (.error error) where
  error _ h := h
  unwritten _ h := by cases h
  success _ h := by cases h
  violation _ h := by cases h

namespace Engine

open Course Environment

variable {engine : Engine κ ν} {env : Environment ν} {id path text : String}
  {suggestion : Suggestion ν} {guard : Guard}

/-! ### Before anything is known of the new text -/

theorem load_or (id : String) (env : Environment ν) :
    (∃ suggestion, env.faults .load = none ∧ env.store.get id = .ok (some suggestion)) ∨
      ∃ error after, load id env = (.error error, after) ∧
        (env.Answers id → error.IsRefusal id) := by
  cases hfault : env.faults .load with
  | some error =>
      have hstep : onStore .load (fun store => (store.get id).map (·, store)) env =
          (.error error, env.fail .load) := by
        simp only [onStore, hfault]
      refine .inr ⟨error, _, bind_of_error hstep, fun hanswers => ?_⟩
      cases hfault.symm.trans hanswers.loads
  | none =>
      cases hget : env.store.get id with
      | error error =>
          have hstep : onStore .load (fun store => (store.get id).map (·, store)) env =
              (.error (.store error), env.fail .load) := by
            simp only [onStore, hfault, hget, Except.map]
          refine .inr ⟨.store error, _, bind_of_error hstep, fun hanswers => ?_⟩
          obtain ⟨found, hfound⟩ := hanswers.stored
          cases hget.symm.trans hfound
      | ok found =>
          cases found with
          | none =>
              have hstep : onStore .load (fun store => (store.get id).map (·, store)) env =
                  (.ok none, env.noted .load []) := by
                simp only [onStore, hfault, hget, Except.map, noted]
              exact .inr ⟨.notFound id, _, bind_of_ok hstep, fun _ => rfl⟩
          | some suggestion => exact .inl ⟨suggestion, rfl, rfl⟩

theorem target_or (suggestion : Suggestion ν) (env : Environment ν) :
    (∃ path, env.disk.resolveIn suggestion.repository suggestion.path = .ok path) ∨
      ∃ refusal, target suggestion env = (.error (.refused refusal), env) := by
  cases hresolve : env.disk.resolveIn suggestion.repository suggestion.path with
  | ok path => exact .inl ⟨path, rfl⟩
  | error refusal =>
      have hstep : Course.disk env = (.ok env.disk, env) := rfl
      refine .inr ⟨refusal, ?_⟩
      rw [target, bind_of_ok hstep]
      simp only [hresolve]
      rfl

theorem current_or (path : String) (env : Environment ν) :
    (∃ text, env.faults .read = none ∧ env.disk.readText path = .ok text) ∨
      (∃ after, current path env = (.ok none, after)) ∨
        ∃ error after, current path env = (.error error, after) ∧
          (env.faults .read = none → ∃ cause, error = .file cause) := by
  cases hfault : env.faults .read with
  | some error =>
      refine .inr (.inr ⟨error, env.fail .read, ?_, by simp⟩)
      simp only [current, onFiles, hfault]
  | none =>
      cases hread : env.disk.readText path with
      | ok text => exact .inl ⟨text, rfl, rfl⟩
      | error cause =>
          by_cases hmissing : cause = .missing
          · refine .inr (.inl ⟨env.noted .read (entryOf path env.disk), ?_⟩)
            simp only [current, onFiles, hfault, hread, hmissing, noted]
          · refine .inr (.inr ⟨.file cause, env.fail .read, ?_, fun _ => ⟨cause, rfl⟩⟩)
            simp only [current, onFiles, hfault, hread]

/-- A run of a suggestion that has not been applied reads the text of its file, or it ends before it
has looked at its options. -/
theorem finds_or (engine : Engine κ ν) (id : String) (env : Environment ν)
    (hunapplied : ∀ suggestion, env.store.get id = .ok (some suggestion) →
      suggestion.isApplied = false) :
    (∃ suggestion path text, env.Finds id suggestion path text) ∨
      ∃ error after, (env.Answers id → error.IsRefusal id) ∧
        ∀ options, engine.apply id options env = (.error error, after) := by
  obtain ⟨suggestion, hloads, hget⟩ | ⟨error, after, hload, hrefusal⟩ := load_or id env
  swap
  · exact .inr ⟨error, after, hrefusal, fun options => bind_of_error hload⟩
  have hload := load_of_get hloads hget
  have happlied := hunapplied suggestion hget
  obtain ⟨path, hresolve⟩ | ⟨refusal, htarget⟩ := target_or suggestion (env.noted .load [])
  swap
  · refine .inr ⟨.refused refusal, env.noted .load [], fun _ => trivial, fun options => ?_⟩
    rw [apply, bind_of_ok hload, if_neg (by simp [happlied]), bind_of_error htarget]
  have htarget := target_of_resolveIn hresolve
  obtain ⟨text, hreads, hread⟩ | ⟨after, hcurrent⟩ | ⟨error, after, hcurrent, hfile⟩ :=
    current_or path (env.noted .load [])
  · exact .inl ⟨suggestion, path, text, hloads, hget, happlied, hresolve, hreads, hread⟩
  · refine .inr ⟨.stale id "target file no longer exists", after, fun _ => rfl, fun options => ?_⟩
    rw [apply, bind_of_ok hload, if_neg (by simp [happlied]), bind_of_ok htarget, bind_of_ok hcurrent]
    rfl
  · refine .inr ⟨error, after, fun hanswers => ?_, fun options => ?_⟩
    · obtain ⟨cause, rfl⟩ := hfile hanswers.reads
      exact trivial
    · rw [apply, bind_of_ok hload, if_neg (by simp [happlied]), bind_of_ok htarget,
        bind_of_error hcurrent]

theorem ensures_apply_dry (engine : Engine κ ν) (id : String) (keepsBackup : Bool)
    (env : Environment ν) :
    Ensures (engine.apply id ⟨true, keepsBackup⟩) env fun _ after => env.Unmoved after := by
  refine ensures_apply_of_applyTo (fun _ _ hends => hends.unmoved) ?_
  intro suggestion path text middle hmiddle
  cases hmiddle.isReal

/-! ### What is found out about a text that has been written -/

/-- What is done under a guard succeeds, or a step towards an application has failed. -/
theorem ensures_orRollBack_proceeds {course : Course ν α} (post : α → Environment ν → Prop)
    (h : Ensures course env fun result after => match result with
      | .ok a => post a after
      | .error _ => ∃ stage : Stage, stage.advances ∧
          env.failures.count stage < after.failures.count stage) :
    Ensures (orRollBack suggestion guard course) env fun result after => match result with
      | .ok a => post a after
      | .error _ => ¬env.Proceeds after := by
  refine ensures_bind (ensures_attempt (h.mono ?_))
  rintro (error | a) middle hmiddle
  · obtain ⟨stage, hstage, hmore⟩ := hmiddle
    refine ensures_bind ((ensures_rollBack_told suggestion guard middle).mono ?_)
    rintro _ after ⟨hlast, restored, rfl, -⟩
    exact not_proceeds_of_count_lt hstage hmore hlast.failures
  · exact hmiddle

/-- The text that is read back is the one that was written, so what is found out about it is what is
found out about the text of the suggestion. -/
theorem ensures_overwrite_verdict (engine : Engine κ ν) (suggestion : Suggestion ν)
    (h : guard.Holds env.disk) {verification : Verification}
    (hverify : engine.verify suggestion guard.former suggestion.resolution = verification) :
    Ensures (engine.overwrite suggestion guard) env fun result after => match result with
      | .ok found => found = verification ∧ verification.passed ∧ env.failures <:+ after.failures
      | .error error => env.Proceeds after → ¬verification.passed ∧
          ∃ restored, error = .violation suggestion.path verification.detail restored := by
  refine ensures_bind ((ensures_orRollBack_proceeds (fun _ after =>
    env.disk.Replaced guard.target suggestion.resolution after.disk ∧
      env.failures <:+ after.failures)
    ((ensures_writeText .overwrite guard.target suggestion.resolution env).mono ?_)).mono ?_)
  · rintro (error | ⟨⟩) after hresult
    · obtain ⟨step, hvital, hmore⟩ := hresult.exists_count_lt
      exact ⟨.overwrite step, hvital, hmore⟩
    · exact ⟨hresult.replaced, hresult.failures⟩
  rintro (error | ⟨⟩) written hwritten
  · exact fun hproceeds => absurd hproceeds hwritten
  obtain ⟨hreplaced, hfailures⟩ := hwritten
  have htext := h.readText_of_replaced hreplaced
  refine ensures_bind ((ensures_orRollBack_proceeds (fun text after =>
    text = suggestion.resolution ∧ env.failures <:+ after.failures)
    (ensures_readText (fun error => ⟨.reread, rfl, by simp [Environment.fail]⟩)
      fun text hread => ?_)).mono ?_)
  · exact ⟨Except.ok.inj (hread.symm.trans htext), hfailures⟩
  rintro (error | text) after hread
  · intro hproceeds
    exact absurd (hproceeds.of_suffix hfailures) hread
  obtain ⟨rfl, hsame⟩ := hread
  dsimp only
  rw [hverify]
  split
  · rename_i hpassed
    exact ensures_pure ⟨rfl, hpassed, hsame⟩
  · rename_i hpassed
    refine ensures_bind ((ensures_rollBack_told suggestion guard after).mono ?_)
    rintro _ final ⟨-, restored, rfl, -⟩
    exact ensures_throw fun _ => ⟨hpassed, restored, rfl⟩

theorem ensures_applyTo_verdict (engine : Engine κ ν) (suggestion : Suggestion ν)
    (hread : env.disk.readText path = .ok text) (keepsBackup : Bool) {verification : Verification}
    (hverify : engine.verify suggestion text suggestion.resolution = verification) :
    Ensures (engine.applyTo suggestion path text keepsBackup) env fun result after =>
      match result with
        | .ok application => verification.passed ∧ application.applied = true ∧
            application.verification = verification
        | .error error => env.Proceeds after → ¬verification.passed ∧
            ∃ restored, error = .violation suggestion.path verification.detail restored := by
  refine ensures_bind ((Guard.ensures_create hread keepsBackup).mono ?_)
  rintro (error | guard) first hguard
  · obtain ⟨step, hvital, hmore⟩ := hguard.exists_count_lt
    intro hproceeds
    have hadvances : (Stage.backUp step).advances := hvital
    exact absurd hproceeds (not_proceeds_of_count_lt hadvances hmore List.suffix_rfl)
  obtain ⟨hfirst, -, -, rfl, rfl, hholds⟩ := hguard
  refine ensures_bind ((ensures_overwrite_verdict engine suggestion hholds hverify).mono ?_)
  rintro (error | found) second hsecond
  · exact fun hproceeds => hsecond (hproceeds.of_suffix hfirst.failures)
  obtain ⟨rfl, hpassed, hfailures⟩ := hsecond
  refine ensures_bind ((ensures_orRollBack_proceeds (fun _ _ => True)
    ((ensures_mark .mark suggestion.id false second).mono ?_)).mono ?_)
  · rintro (error | ⟨⟩) third ⟨-, hresult⟩
    · exact ⟨.mark, rfl, by simp [hresult.1]⟩
    · trivial
  rintro (error | ⟨⟩) third hthird
  · intro hproceeds
    exact absurd ((hproceeds.of_suffix hfirst.failures).of_suffix hfailures) hthird
  · exact ensures_bind (ensures_now (ensures_pure ⟨hpassed, rfl, rfl⟩))

theorem foretells_unwritten {verification : Verification} {real : Except FixError (Application ν)}
    (h : match real with
      | .ok application => verification.passed ∧ application.applied = true ∧
          application.verification = verification
      | .error error => ¬verification.passed ∧
          ∃ restored, error = .violation suggestion.path verification.detail restored) :
    Foretells (.ok (unwritten suggestion verification verification.passed none
      (if verification.passed then none else some verification.detail))) real := by
  constructor
  · rintro error ⟨⟩
  · rintro _ ⟨⟩
    rfl
  · rintro _ ⟨⟩
    cases real with
    | ok application => exact ⟨fun _ => ⟨application, rfl, h.2⟩, fun _ => h.1⟩
    | error error =>
        constructor
        · intro hpassed
          exact absurd hpassed h.1
        · rintro ⟨other, ⟨⟩, -⟩
  · rintro _ ⟨⟩
    cases real with
    | ok application =>
        constructor
        · intro hfailed
          cases h.1.symm.trans hfailed
        · rintro ⟨detail, restored, ⟨⟩, -⟩
    | error error =>
        obtain ⟨hfailed, restored, rfl⟩ := h
        constructor
        · intro _
          exact ⟨_, restored, rfl, if_neg hfailed⟩
        · intro _
          exact Bool.not_eq_true _ ▸ hfailed

/-- A dry run changes nothing, and it says what the run itself comes to, if no step of that fails. -/
theorem apply_dry_foretells (engine : Engine κ ν) (id : String) (keepsBackup other : Bool)
    (env : Environment ν) :
    env.Unmoved (engine.apply id ⟨true, keepsBackup⟩ env).2 ∧
      ((∀ suggestion, env.store.get id = .ok (some suggestion) → suggestion.isApplied = false) →
        (env.Proceeds (engine.apply id ⟨false, other⟩ env).2 →
          Foretells (engine.apply id ⟨true, keepsBackup⟩ env).1
            (engine.apply id ⟨false, other⟩ env).1) ∧
        (env.Answers id → ∀ error, (engine.apply id ⟨true, keepsBackup⟩ env).1 = .error error →
          error.IsRefusal id)) := by
  refine ⟨ensures_apply_dry engine id keepsBackup env, fun hunapplied => ?_⟩
  obtain ⟨suggestion, path, text, hfinds⟩ | ⟨error, after, hrefusal, happly⟩ :=
    finds_or engine id env hunapplied
  swap
  · rw [happly, happly]
    refine ⟨fun _ => foretells_of_error error, fun hanswers => ?_⟩
    rintro _ ⟨⟩
    exact hrefusal hanswers
  have hdry : engine.apply id ⟨true, keepsBackup⟩ env = _ := apply_of_finds hfinds
  have hreal : engine.apply id ⟨false, other⟩ env = _ := apply_of_finds hfinds
  by_cases hnone : Text.countMarkers text = 0
  · rw [if_pos hnone] at hdry hreal
    rw [hdry, hreal]
    refine ⟨fun _ => foretells_of_error _, fun _ => ?_⟩
    rintro _ ⟨⟩
    rfl
  · -- Only here do the two runs part: one looks at the text, the other writes it and reads it back.
    rw [if_neg hnone] at hdry hreal
    rw [if_neg (by simp)] at hreal
    rw [hdry, hreal]
    have hread : (env.checked path).disk.readText path = .ok text := hfinds.text
    have hverdict := ensures_applyTo_verdict engine suggestion hread other rfl
    unfold Ensures at hverdict
    refine ⟨fun hproceeds => foretells_unwritten ?_, fun _ => by rintro error ⟨⟩⟩
    revert hproceeds hverdict
    rcases engine.applyTo suggestion path text other (env.checked path) with ⟨error | application, after⟩
    · exact fun hverdict hproceeds => hverdict hproceeds
    · exact fun hverdict _ => hverdict

theorem moved_dry_foretells :
    (∀ suggestion, moved.store.get "s" = .ok (some suggestion) → suggestion.isApplied = false) ∧
      moved.Proceeds (plainEngine.apply "s" ⟨false, false⟩ moved).2 ∧ moved.Answers "s" ∧
        Foretells (plainEngine.apply "s" ⟨true, false⟩ moved).1
          (plainEngine.apply "s" ⟨false, false⟩ moved).1 ∧
        (plainEngine.apply "s" ⟨true, false⟩ moved).1.toOption.map (·.succeeded) = some true := by
  have hunapplied (suggestion : Suggestion Rat) (h : moved.store.get "s" = .ok (some suggestion)) :
      suggestion.isApplied = false := by
    obtain ⟨row, hrow, hholds⟩ := Store.row?_of_get h
    obtain rfl : { unappliedRow with resolution := "a\n" } = row := Option.some.inj hrow
    exact hholds.isApplied
  have hproceeds : moved.Proceeds (plainEngine.apply "s" ⟨false, false⟩ moved).2 := by
    have hfailures : (plainEngine.apply "s" ⟨false, false⟩ moved).2.failures = [] := by cbv
    intro stage _
    simp [hfailures]
  have hanswers : moved.Answers "s" := ⟨rfl, ⟨_, by cbv⟩, rfl⟩
  obtain ⟨-, hdry⟩ := apply_dry_foretells plainEngine "s" false false moved
  exact ⟨hunapplied, hproceeds, hanswers, (hdry hunapplied).1 hproceeds, by cbv⟩

end Engine

end Reconcile
