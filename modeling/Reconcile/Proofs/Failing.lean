import Reconcile.Fix.Engine
import Reconcile.Proofs.Course

/-!
# What courses fail with

A step fails with an error of the tree of files or of the store, or with one that it is given. So what
holds of those holds of every error that an operation passes on, and only the errors that an operation
makes up itself have to be looked at.
-/

namespace Reconcile

variable {ν α β : Type} {allowed : FixError → Prop}

/-- Whether an error says that a text was found to be wrong once it had been written. -/
@[simp]
def FixError.isViolation : FixError → Bool
  | .violation _ _ _ => true
  | _ => false

/-- Whatever steps fail with by themselves is allowed. -/
def Environment.FailsWith (env : Environment ν) (allowed : FixError → Prop) : Prop :=
  ∀ stage error, env.faults stage = some error → allowed error

theorem Environment.FailsWith.of_eq {env after : Environment ν} (h : env.FailsWith allowed)
    (hfaults : after.faults = env.faults) : after.FailsWith allowed := by
  rwa [Environment.FailsWith, hfaults]

namespace Course

/-- A course fails with allowed errors only, if steps do, and changes nothing about the latter. -/
def FailsWith (course : Course ν α) (allowed : FixError → Prop) : Prop :=
  ∀ env : Environment ν, env.FailsWith allowed →
    (course env).2.faults = env.faults ∧ ∀ error, (course env).1 = .error error → allowed error

variable {course : Course ν α}

theorem FailsWith.ensures (h : course.FailsWith allowed) {env : Environment ν}
    (henv : env.FailsWith allowed) :
    Ensures course env fun result after => after.faults = env.faults ∧
      ∀ error, result = .error error → allowed error := h env henv

theorem failsWith_pure (a : α) : (pure a : Course ν α).FailsWith allowed :=
  fun _ _ => ⟨rfl, by rintro _ ⟨⟩⟩

theorem failsWith_throw {error : FixError} (h : allowed error) :
    (throw error : Course ν α).FailsWith allowed := by
  rintro env -
  refine ⟨rfl, ?_⟩
  rintro _ ⟨⟩
  exact h

theorem failsWith_bind {next : α → Course ν β} (h : course.FailsWith allowed)
    (hnext : ∀ a, (next a).FailsWith allowed) : (course >>= next).FailsWith allowed := by
  intro env henv
  obtain ⟨hfaults, herror⟩ := h env henv
  rw [bind_apply]
  rcases hcourse : course env with ⟨error | a, middle⟩
  · rw [hcourse] at hfaults herror
    refine ⟨hfaults, fun _ heq => ?_⟩
    obtain rfl := Except.error.inj heq
    exact herror error rfl
  · rw [hcourse] at hfaults
    dsimp only at hfaults ⊢
    obtain ⟨hlater, hlast⟩ := hnext a middle (henv.of_eq hfaults)
    exact ⟨hlater.trans hfaults, hlast⟩

theorem failsWith_bind_attempt {next : Except FixError α → Course ν β}
    (h : course.FailsWith allowed) (hok : ∀ a, (next (.ok a)).FailsWith allowed)
    (herror : ∀ error, allowed error → (next (.error error)).FailsWith allowed) :
    (attempt course >>= next).FailsWith allowed := by
  intro env henv
  obtain ⟨hfaults, hfails⟩ := h env henv
  have hattempt : attempt course env = (.ok (course env).1, (course env).2) := rfl
  rw [bind_apply, hattempt]
  have hmiddle := henv.of_eq hfaults
  dsimp only
  cases hresult : (course env).1 with
  | ok a =>
      obtain ⟨hlater, hlast⟩ := hok a _ hmiddle
      exact ⟨hlater.trans hfaults, hlast⟩
  | error error =>
      obtain ⟨hlater, hlast⟩ := herror error (hfails error hresult) _ hmiddle
      exact ⟨hlater.trans hfaults, hlast⟩

theorem failsWith_now : (now : Course ν Timestamp).FailsWith allowed :=
  fun _ _ => ⟨rfl, by rintro _ ⟨⟩⟩

theorem failsWith_disk : (disk : Course ν Disk).FailsWith allowed :=
  fun _ _ => ⟨rfl, by rintro _ ⟨⟩⟩

/-! ### Steps, and what is made of steps only -/

section Steps

variable (hfile : ∀ cause, allowed (.file cause))

include hfile

theorem failsWith_onFiles (stage : Stage) (touched : Disk → List Place)
    (act : Disk → Except FileError (α × Disk)) :
    (onFiles stage touched act : Course ν α).FailsWith allowed := by
  intro env henv
  unfold onFiles
  cases hfault : env.faults stage with
  | some error =>
      refine ⟨rfl, ?_⟩
      rintro _ ⟨⟩
      exact henv stage error hfault
  | none =>
      cases act env.disk with
      | error cause =>
          refine ⟨rfl, ?_⟩
          rintro _ ⟨⟩
          exact hfile cause
      | ok result => exact ⟨rfl, by rintro _ ⟨⟩⟩

theorem failsWith_readText (stage : Stage) (path : String) :
    (readText stage path : Course ν String).FailsWith allowed := failsWith_onFiles hfile _ _ _

theorem failsWith_permitDraft (stage : WriteStep → Stage) (draft : Place) (path text : String) :
    (permitDraft stage draft path text : Course ν Unit).FailsWith allowed := by
  refine failsWith_bind_attempt (failsWith_onFiles hfile _ _ _) (fun found => ?_)
    fun _ _ => failsWith_pure _
  cases found with
  | none => exact failsWith_pure _
  | some mode => exact failsWith_onFiles hfile _ _ _

theorem failsWith_finishDraft (stage : WriteStep → Stage) (draft : Place) (path text : String) :
    (finishDraft stage draft path text : Course ν Unit).FailsWith allowed :=
  failsWith_bind (failsWith_onFiles hfile _ _ _) fun _ =>
    failsWith_bind (failsWith_onFiles hfile _ _ _) fun _ =>
      failsWith_bind (failsWith_permitDraft hfile _ _ _ _) fun _ => failsWith_onFiles hfile _ _ _

theorem failsWith_dropDraft (stage : Stage) (draft : Place) :
    (dropDraft stage draft : Course ν Unit).FailsWith allowed :=
  failsWith_bind_attempt (failsWith_onFiles hfile _ _ _) (fun _ => failsWith_pure _)
    fun _ _ => failsWith_pure _

theorem failsWith_writeText (stage : WriteStep → Stage) (path text : String) :
    (writeText stage path text : Course ν Unit).FailsWith allowed := by
  refine failsWith_bind (failsWith_onFiles hfile _ _ _) fun draft => ?_
  refine failsWith_bind_attempt (failsWith_finishDraft hfile _ _ _ _) (fun _ => failsWith_pure _) ?_
  intro error herror
  exact failsWith_bind (failsWith_dropDraft hfile _ draft) fun _ => failsWith_throw herror

end Steps

theorem failsWith_onStore (hstore : ∀ error, allowed (.store error)) (stage : Stage)
    (act : Store ν → Except StoreError (α × Store ν)) :
    (onStore stage act : Course ν α).FailsWith allowed := by
  intro env henv
  unfold onStore
  cases hfault : env.faults stage with
  | some error =>
      refine ⟨rfl, ?_⟩
      rintro _ ⟨⟩
      exact henv stage error hfault
  | none =>
      cases act env.store with
      | error cause =>
          refine ⟨rfl, ?_⟩
          rintro _ ⟨⟩
          exact hstore cause
      | ok result => exact ⟨rfl, by rintro _ ⟨⟩⟩

end Course

/-! ### What a run begins with -/

namespace Engine

open Course

theorem failsWith_load (hstore : ∀ error, allowed (.store error)) {id : String}
    (hmissing : allowed (.notFound id)) : (load id : Course ν (Suggestion ν)).FailsWith allowed := by
  refine failsWith_bind (failsWith_onStore hstore _ _) fun found => ?_
  cases found with
  | none => exact failsWith_throw hmissing
  | some suggestion => exact failsWith_pure _

theorem failsWith_target (hrefused : ∀ refusal, allowed (.refused refusal)) (suggestion : Suggestion ν) :
    (target suggestion).FailsWith allowed := by
  refine failsWith_bind failsWith_disk fun disk => ?_
  split
  · exact failsWith_pure _
  · exact failsWith_throw (hrefused _)

theorem failsWith_current (hfile : ∀ cause, allowed (.file cause)) (path : String) :
    (current path : Course ν (Option String)).FailsWith allowed := failsWith_onFiles hfile _ _ _

end Engine

/-! ### Guards, and what is done under them -/

section Guarded

open Course

variable (hfile : ∀ cause, allowed (.file cause)) (hstore : ∀ error, allowed (.store error))
  (guard : Guard) (suggestion : Suggestion ν)

include hfile

theorem Guard.failsWith_create (target former : String) (wantsBackup : Bool) :
    (create target former wantsBackup : Course ν Guard).FailsWith allowed := by
  unfold create
  split
  · refine failsWith_bind failsWith_now fun time => failsWith_bind failsWith_disk fun disk => ?_
    exact failsWith_bind (failsWith_writeText hfile _ _ _) fun _ => failsWith_pure _
  · exact failsWith_pure _

theorem Guard.failsWith_restore : (guard.restore : Course ν Unit).FailsWith allowed := by
  refine failsWith_bind ?_ fun text => failsWith_writeText hfile _ _ _
  unfold Guard.text
  split
  · exact failsWith_pure _
  · exact failsWith_bind_attempt (failsWith_readText hfile _ _) (fun _ => failsWith_pure _)
      fun _ _ => failsWith_pure _

include hstore

namespace Engine

omit hfile in
theorem failsWith_mark (stage : Stage) (id : String) (isRollback : Bool) :
    (mark stage id isRollback : Course ν Unit).FailsWith allowed :=
  failsWith_bind failsWith_now fun _ => failsWith_onStore hstore _ _

theorem failsWith_rollBack : (rollBack suggestion guard).FailsWith allowed := by
  have hlast (result : Except FixError Unit) : ((do
      let _ ← attempt (mark .markBack suggestion.id true)
      return result.isOk) : Course ν Bool).FailsWith allowed :=
    failsWith_bind_attempt (failsWith_mark hstore _ _ _) (fun _ => failsWith_pure _)
      fun _ _ => failsWith_pure _
  exact failsWith_bind_attempt (guard.failsWith_restore hfile) (fun _ => hlast _) fun _ _ => hlast _

theorem failsWith_orRollBack {course : Course ν α} (h : course.FailsWith allowed) :
    (orRollBack suggestion guard course).FailsWith allowed := by
  refine failsWith_bind_attempt h (fun a => failsWith_pure a) fun error herror => ?_
  exact failsWith_bind (failsWith_rollBack hfile hstore guard suggestion) fun _ =>
    failsWith_throw herror

variable {κ : Type} (engine : Engine κ ν)

/-- Writing under a guard makes up no error but a violation. -/
theorem failsWith_applyTo
    (hviolation : ∀ path detail restored, allowed (.violation path detail restored))
    (path text : String) (keepsBackup : Bool) :
    (engine.applyTo suggestion path text keepsBackup).FailsWith allowed := by
  refine failsWith_bind (Guard.failsWith_create hfile _ _ _) fun guard => ?_
  refine failsWith_bind ?_ fun verification => ?_
  · refine failsWith_bind (failsWith_orRollBack hfile hstore guard suggestion
      (failsWith_writeText hfile _ _ _)) fun _ => ?_
    refine failsWith_bind (failsWith_orRollBack hfile hstore guard suggestion
      (failsWith_readText hfile _ _)) fun written => ?_
    dsimp only
    split
    · exact failsWith_pure _
    · exact failsWith_bind (failsWith_rollBack hfile hstore guard suggestion) fun restored =>
        failsWith_throw (hviolation _ _ _)
  · refine failsWith_bind (failsWith_orRollBack hfile hstore guard suggestion
      (failsWith_mark hstore _ _ _)) fun _ => ?_
    exact failsWith_bind failsWith_now fun _ => failsWith_pure _

end Engine

end Guarded

end Reconcile
