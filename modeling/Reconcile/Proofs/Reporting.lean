import Reconcile.Proofs.ApplySafety

/-!
# What a failed run says of the former text

A run that finds the new text to be wrong puts the former one back and says whether it has. What it says
is right: up to then no write that puts a text back has been tried, and whether the last one succeeded is
what rolling back gives.
-/

namespace Reconcile

variable {κ ν α : Type}

/-- What an error says of the former text, if anything, is so. -/
def FixError.IsTold (error : FixError) (env after : Environment ν) : Prop :=
  ∀ path detail isRestored, error = .violation path detail isRestored →
    (isRestored = true ↔ env.Restores after)

namespace Environment

variable {env middle after : Environment ν} {error : FixError}

theorem isTold_of_isViolation_eq_false (h : error.isViolation = false) : error.IsTold env after := by
  rintro path detail isRestored rfl
  cases h

theorem Restores.isTold (h : env.Restores middle) (hfirst : env.failures <:+ middle.failures)
    (htold : error.IsTold middle after) : error.IsTold env after :=
  fun path detail isRestored herror => (htold path detail isRestored herror).trans
    ⟨h.trans, fun hrestores => hrestores.of_suffix hfirst⟩

end Environment

namespace Engine

open Course Environment

variable {env : Environment ν} {guard : Guard} {path text : String} {suggestion : Suggestion ν}

/-- What is done under a guard fails with no violation of its own. -/
theorem ensures_orRollBack_told {course : Course ν α} {post : α → Environment ν → Prop}
    (hgives : course.Gives env post) (hfails : course.FailsWith (·.isViolation = false))
    (hfaults : env.FailsWith (·.isViolation = false)) :
    Ensures (orRollBack suggestion guard course) env fun result after =>
      after.faults = env.faults ∧ match result with
        | .ok a => post a after
        | .error error => error.IsTold env after := by
  have hcourse : (orRollBack suggestion guard course).FailsWith (·.isViolation = false) :=
    failsWith_orRollBack (fun _ => rfl) (fun _ => rfl) _ _ hfails
  refine ((gives_orRollBack hgives).and (hcourse.ensures hfaults)).mono ?_
  rintro (error | a) after ⟨hresult, hkept, herror⟩
  · exact ⟨hkept, isTold_of_isViolation_eq_false (herror error rfl)⟩
  · exact ⟨hkept, hresult a rfl⟩

theorem ensures_overwrite_told (engine : Engine κ ν) (suggestion : Suggestion ν) (guard : Guard)
    (hfaults : env.FailsWith (·.isViolation = false)) :
    Ensures (engine.overwrite suggestion guard) env fun result after =>
      after.faults = env.faults ∧ match result with
        | .ok _ => env.Restores after ∧ env.failures <:+ after.failures
        | .error error => error.IsTold env after := by
  have hwrite : (writeText .overwrite guard.target suggestion.resolution).Gives env fun _ after =>
      env.Restores after ∧ env.failures <:+ after.failures :=
    gives_of_ensures (ensures_writeText _ _ _ env) fun _ _ hresult =>
      ⟨.of_puts hresult (by simp), hresult.failures⟩
  refine ensures_bind ((ensures_orRollBack_told hwrite
    (failsWith_writeText (fun _ => rfl) _ _ _) hfaults).mono ?_)
  rintro (error | ⟨⟩) first ⟨hfirst, hresult⟩
  · exact ⟨hfirst, hresult⟩
  obtain ⟨hrestores, hsuffix⟩ := hresult
  have hlater := hfaults.of_eq hfirst
  have hread : (readText .reread guard.target).Gives first fun _ after =>
      after.failures = first.failures := ensures_readText (by simp) fun _ _ _ _ => rfl
  refine ensures_bind ((ensures_orRollBack_told hread
    (failsWith_readText (fun _ => rfl) _ _) hlater).mono ?_)
  rintro (error | written) second ⟨hsecond, hresult⟩
  · exact ⟨hsecond.trans hfirst, hrestores.isTold hsuffix hresult⟩
  have hkept : env.Restores second := fun step hvital => hresult ▸ hrestores step hvital
  have hmore : env.failures <:+ second.failures := hresult ▸ hsuffix
  dsimp only
  split
  · exact ensures_pure ⟨hsecond.trans hfirst, hkept, hmore⟩
  have hback : (rollBack suggestion guard).FailsWith (·.isViolation = false) :=
    failsWith_rollBack (fun _ => rfl) (fun _ => rfl) guard suggestion
  refine ensures_bind (((ensures_rollBack_told suggestion guard second).and
    (hback.ensures (hlater.of_eq hsecond))).mono ?_)
  rintro _ final ⟨⟨-, restored, rfl, htold⟩, hthird, -⟩
  refine ensures_throw ⟨hthird.trans (hsecond.trans hfirst), hkept.isTold hmore ?_⟩
  rintro _ _ _ ⟨⟩
  exact htold

theorem ensures_applyTo_told (engine : Engine κ ν) (suggestion : Suggestion ν)
    (hread : env.disk.readText path = .ok text) (keepsBackup : Bool)
    (hfaults : env.FailsWith (·.isViolation = false)) :
    Ensures (engine.applyTo suggestion path text keepsBackup) env fun result after =>
      ∀ error, result = .error error → error.IsTold env after := by
  have hcreate : (Guard.create path text keepsBackup : Course ν Guard).FailsWith (·.isViolation = false) :=
    Guard.failsWith_create (fun _ => rfl) path text keepsBackup
  refine ensures_bind (((Guard.ensures_create hread keepsBackup).and (hcreate.ensures hfaults)).mono ?_)
  rintro (error | guard) first ⟨hmade, hfirst, herror⟩
  · rintro _ ⟨⟩
    exact isTold_of_isViolation_eq_false (herror error rfl)
  obtain ⟨hcontinues, hrestores, -⟩ := hmade
  have hlater := hfaults.of_eq hfirst
  refine ensures_bind ((ensures_overwrite_told engine suggestion guard hlater).mono ?_)
  rintro (error | verification) second ⟨hsecond, hresult⟩
  · rintro _ ⟨⟩
    exact hrestores.isTold hcontinues.failures hresult
  have hmark : (orRollBack suggestion guard (mark .mark suggestion.id false)).FailsWith
      (·.isViolation = false) :=
    failsWith_orRollBack (fun _ => rfl) (fun _ => rfl) _ _ (failsWith_mark (fun _ => rfl) _ _ _)
  refine ensures_bind ((hmark.ensures (hlater.of_eq hsecond)).mono ?_)
  rintro (error | ⟨⟩) third ⟨-, herror⟩
  · rintro _ ⟨⟩
    exact isTold_of_isViolation_eq_false (herror error rfl)
  · exact ensures_bind (ensures_now (ensures_pure (by simp)))

/-- If no step fails by itself with a violation, one that a run fails with says whether every write that
puts the former text back has succeeded. -/
theorem ensures_apply_told (engine : Engine κ ν) (id : String) (options : ApplyOptions)
    (hfaults : env.FailsWith (·.isViolation = false)) :
    Ensures (engine.apply id options) env fun result after =>
      ∀ error, result = .error error → error.IsTold env after := by
  refine ensures_apply_of_applyTo ?_ ?_
  · intro result after hends error herror
    refine isTold_of_isViolation_eq_false (Bool.eq_false_iff.mpr fun hviolation => ?_)
    obtain ⟨stage, hstage⟩ := hends.passedOn error herror hviolation
    exact absurd hviolation (Bool.eq_false_iff.mp (hfaults stage error hstage))
  · intro suggestion path text middle hmiddle
    have hread := hmiddle.reads
    rw [← hmiddle.unmoved.disk] at hread
    have hlater := hfaults.of_eq hmiddle.looks.faults
    refine (ensures_applyTo_told engine suggestion hread options.keepsBackup hlater).mono ?_
    intro result after htold error herror
    refine Restores.isTold (fun step _ => ?_) hmiddle.unmoved.failures (htold error herror)
    rw [hmiddle.failures]

end Engine

end Reconcile
