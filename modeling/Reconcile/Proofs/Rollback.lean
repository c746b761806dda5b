import Reconcile.Proofs.Course
import Reconcile.Proofs.Marking
import Reconcile.Proofs.Pieces
import Reconcile.Fix.Engine

/-!
# Putting the former text back

From the making of a guard on, the path it guards leads to a file that can be replaced, and a backup
that can be read holds the former text. Neither a draft that was left nor a file put in place of
the guarded one changes that, so putting the text back succeeds unless one of its own writes fails.
-/

namespace Reconcile

variable {ν α : Type}

/-! ### Environments that follow one another -/

namespace Environment

variable {env middle after : Environment ν}

/-- No write that puts a former text back fails between two environments. -/
def Restores (env after : Environment ν) : Prop :=
  ∀ step : WriteStep, step.isVital →
    after.failures.count (.restore step) ≤ env.failures.count (.restore step)

/-- The failures that were noted stay noted, and no suggestion becomes applied. -/
structure Continues (env after : Environment ν) : Prop where
  failures : env.failures <:+ after.failures
  store : env.store.AppliesNothing after.store

theorem Continues.refl (env : Environment ν) : env.Continues env :=
  ⟨List.suffix_rfl, .refl env.store⟩

theorem Continues.trans (h : env.Continues middle) (h' : middle.Continues after) :
    env.Continues after :=
  ⟨h.failures.trans h'.failures, h.store.trans h'.store⟩

theorem Continues.of_fail {stage : Stage} (hfailures : after.failures = stage :: env.failures)
    (hstore : after.store = env.store) : env.Continues after where
  failures := hfailures ▸ List.suffix_cons stage env.failures
  store := hstore ▸ .refl env.store

theorem Continues.of_eq (hfailures : after.failures = env.failures)
    (hstore : after.store = env.store) : env.Continues after where
  failures := hfailures ▸ List.suffix_rfl
  store := hstore ▸ .refl env.store

theorem Continues.of_balks {stage : WriteStep → Stage} (h : env.Balks stage after) :
    env.Continues after where
  failures := h.failures
  store := h.store ▸ .refl env.store

theorem Continues.of_puts {stage : WriteStep → Stage} {path text : String}
    (h : env.Puts stage path text after) : env.Continues after where
  failures := h.failures
  store := h.store ▸ .refl env.store

namespace Restores

theorem of_suffix (h : env.Restores after) (hfirst : env.failures <:+ middle.failures) :
    middle.Restores after := fun step hvital =>
  Nat.le_trans (h step hvital) (hfirst.sublist.count_le _)

theorem of_suffix_right (h : env.Restores after) (hlast : middle.failures <:+ after.failures) :
    env.Restores middle := fun step hvital =>
  Nat.le_trans (hlast.sublist.count_le _) (h step hvital)

theorem trans (h : env.Restores middle) (h' : middle.Restores after) : env.Restores after :=
  fun step hvital => Nat.le_trans (h' step hvital) (h step hvital)

theorem of_append (more : List Stage) (hnoted : after.failures = more ++ env.failures)
    (hmore : ∀ step : WriteStep, step.isVital → .restore step ∉ more) : env.Restores after := by
  intro step hvital
  rw [hnoted, List.count_append, List.count_eq_zero.mpr (hmore step hvital), Nat.zero_add]

theorem of_puts {stage : WriteStep → Stage} {path text : String}
    (h : env.Puts stage path text after)
    (hlook : ∀ step : WriteStep, step.isVital → stage .look ≠ .restore step) : env.Restores after := by
  obtain ⟨hnone, -⟩ | hnoted := h.noted
  · exact of_append [] hnone (by simp)
  · refine of_append [stage .look] hnoted fun step hvital hmem => ?_
    exact hlook step hvital (List.mem_singleton.mp hmem).symm

theorem of_balks {stage : WriteStep → Stage} (h : env.Balks stage after)
    (hstage : ∀ step other, stage step ≠ .restore other) : env.Restores after := by
  obtain ⟨more, -, hnoted, hown, -⟩ := h.noted
  refine of_append more hnoted fun other _ hmem => ?_
  obtain ⟨step, hstep⟩ := hown _ hmem
  exact hstage step other hstep.symm

end Restores

theorem not_restores_of_balks (h : env.Balks .restore after) : ¬env.Restores after := by
  intro hrestores
  obtain ⟨step, hvital, hmore⟩ := h.exists_count_lt
  have hnone := hrestores step hvital
  omega

end Environment

/-! ### Names of backups -/

namespace Backup

theorem slash_not_mem_toString (n : Int) : '/' ∉ (toString n).toList := by
  cases n with
  | ofNat n => exact Text.not_mem_toString (by decide) n
  | negSucc n =>
      change '/' ∉ ("-" ++ toString (n + 1)).toList
      rw [String.toList_append, List.mem_append, not_or]
      exact ⟨by decide, Text.not_mem_toString (by decide) (n + 1)⟩

theorem pathAt_eq (millis : Int) :
    ∃ suffix, (∀ target, pathAt target millis = target ++ suffix) ∧ '/' ∉ suffix.toList ∧
      2 < suffix.toList.length := by
  refine ⟨".bak." ++ toString millis, fun _ => String.append_assoc, ?_, ?_⟩
  · rw [String.toList_append, List.mem_append, not_or]
    exact ⟨by decide, slash_not_mem_toString millis⟩
  · rw [String.toList_append, List.length_append]
    have hstem : ".bak.".toList.length = 5 := rfl
    omega

end Backup

/-! ### Guards -/

namespace Guard

variable {guard : Guard} {before disk : Disk} {text : String}

/-- What the path of a guard names can be replaced, and its backup, if it can be read, holds the
former text. -/
structure Holds (guard : Guard) (disk : Disk) : Prop where
  ends : ∀ steps, Step.ofPath guard.target ≠ steps ++ [.here]
  aims : disk.Aims guard.target
  copy : ∀ path, guard.backup = some path →
    ∃ suffix, path = guard.target ++ suffix ∧ '/' ∉ suffix.toList ∧ 2 < suffix.toList.length ∧
      disk.HasCopy guard.target suffix guard.former

namespace Holds

theorem of_readText {target : String} (hread : disk.readText target = .ok text) :
    Holds ⟨target, none, text⟩ disk where
  ends _ := Disk.ofPath_ne_append_here hread
  aims := Disk.aims_of_readText hread
  copy := by simp

theorem backUp {target : String} {millis : Int} (h : Holds ⟨target, none, text⟩ before)
    (hreplaced : before.Replaced (Backup.pathAt target millis) text disk) :
    Holds ⟨target, some (Backup.pathAt target millis), text⟩ disk where
  ends := h.ends
  aims := by
    obtain ⟨directory, name, -, hfile⟩ := hreplaced
    exact h.aims.narrows hfile.narrows
  copy := by
    rintro path hpath
    obtain rfl := Option.some.inj hpath
    obtain ⟨suffix, hname, hslash, hlong⟩ := Backup.pathAt_eq millis
    rw [hname target] at hreplaced
    exact ⟨suffix, hname target, hslash, hlong, Disk.hasCopy_of_replaced hslash hlong hreplaced⟩

theorem drafts (h : guard.Holds before) (hdrafts : before.Drafts disk) : guard.Holds disk where
  ends := h.ends
  aims := h.aims.narrows hdrafts.narrows
  copy path hpath := by
    obtain ⟨suffix, hname, hslash, hlong, hcopy⟩ := h.copy path hpath
    exact ⟨suffix, hname, hslash, hlong, hcopy.drafts hdrafts⟩

theorem replaced (h : guard.Holds before) (hreplaced : before.Replaced guard.target text disk) :
    guard.Holds disk where
  ends := h.ends
  aims := by
    obtain ⟨directory, name, -, hfile⟩ := hreplaced
    exact h.aims.narrows hfile.narrows
  copy path hpath := by
    obtain ⟨suffix, hname, hslash, hlong, hcopy⟩ := h.copy path hpath
    refine ⟨suffix, hname, hslash, hlong, hcopy.replaced ?_ hreplaced⟩
    rintro rfl
    simp at hlong

theorem readText_of_replaced (h : guard.Holds before)
    (hreplaced : before.Replaced guard.target text disk) :
    disk.readText guard.target = .ok text :=
  h.aims.readText_of_replaced h.ends hreplaced

theorem eq_former_of_readText {path found : String} (h : guard.Holds before)
    (hbackup : guard.backup = some path) (hread : before.readText path = .ok found)
    (hreplaced : before.Replaced guard.target text disk) : found = guard.former := by
  obtain ⟨suffix, rfl, hslash, hlong, hcopy⟩ := h.copy path hbackup
  obtain ⟨directory, name, hlocate, -⟩ := hreplaced
  obtain ⟨steps, hsteps, -⟩ := Disk.of_locate_eq_ok_of_ends h.ends hlocate
  exact hcopy.readText hslash hlong hsteps hread

end Holds

/-- What a guard's path leads to is the former text again, unless putting it back failed. -/
structure Undone (guard : Guard) (env after : Environment ν) : Prop extends env.Continues after where
  restored : env.Restores after → after.disk.readText guard.target = .ok guard.former

theorem Undone.of_continues {env middle after : Environment ν} (hfirst : env.Continues middle)
    (h : guard.Undone middle after) : guard.Undone env after where
  toContinues := hfirst.trans h.toContinues
  restored hrestores := h.restored (hrestores.of_suffix hfirst.failures)

/-! ### What making a guard and using it come to -/

open Course Environment

variable {env : Environment ν}

/-- A guard is made of the text that was read, or its backup has not been put in place. -/
theorem ensures_create {target : String} (hread : env.disk.readText target = .ok text)
    (wantsBackup : Bool) :
    Ensures (create target text wantsBackup) env fun result after => match result with
      | .ok guard => env.Continues after ∧ env.Restores after ∧ after.store = env.store ∧
          guard.target = target ∧ guard.former = text ∧ guard.Holds after.disk
      | .error _ => env.Balks .backUp after := by
  have hholds := Holds.of_readText hread
  unfold create
  split
  · refine ensures_bind (ensures_now (ensures_bind (ensures_disk (ensures_bind ?_))))
    refine (ensures_writeText .backUp _ text _).mono ?_
    rintro (error | ⟨⟩) after hresult
    · exact ⟨hresult.store, hresult.noted⟩
    · have hrestores := Restores.of_puts hresult (by simp)
      exact ⟨⟨hresult.failures, hresult.store ▸ .refl env.store⟩, hrestores, hresult.store, rfl, rfl,
        hholds.backUp hresult.replaced⟩
  · exact ⟨.refl env, fun _ _ => le_rfl, rfl, rfl, rfl, hholds⟩

/-- A guard has a text to put back: what it can read of the backup, or the former text. -/
theorem ensures_text (guard : Guard) (env : Environment ν) :
    Ensures guard.text env fun result after => env.Continues after ∧ env.Restores after ∧
      after.disk = env.disk ∧ ∃ text, result = .ok text ∧ (text = guard.former ∨
        ∃ path, guard.backup = some path ∧ env.disk.readText path = .ok text) := by
  unfold Guard.text
  split
  · exact ⟨.refl env, fun _ _ => le_rfl, rfl, guard.former, rfl, .inl rfl⟩
  · rename_i path hbackup
    refine ensures_bind (ensures_attempt (ensures_readText (fun error => ?_) fun text hread => ?_))
    · refine ⟨.of_fail rfl rfl, ?_, rfl, guard.former, rfl, .inl rfl⟩
      exact Restores.of_append [.readBackup] rfl (by simp)
    · exact ⟨.of_eq rfl rfl, fun _ _ => le_rfl, rfl, text, rfl, .inr ⟨path, hbackup, hread⟩⟩

/-- The former text is put back unless a write fails, whatever else may have become of the files. -/
theorem ensures_restore_isOk (guard : Guard) (env : Environment ν) :
    Ensures guard.restore env fun result after => env.Continues after ∧
      (result.isOk ↔ env.Restores after) := by
  refine ensures_bind ((ensures_text guard env).mono ?_)
  rintro _ middle ⟨hmiddle, hread, -, text, rfl, -⟩
  refine (ensures_writeText .restore guard.target text middle).mono ?_
  rintro (error | ⟨⟩) after hresult
  · refine ⟨hmiddle.trans (.of_balks hresult), by simp [Except.isOk, Except.toBool], fun hrestores => ?_⟩
    exact absurd (hrestores.of_suffix hmiddle.failures) (not_restores_of_balks hresult)
  · refine ⟨hmiddle.trans (.of_puts hresult), fun _ => hread.trans (.of_puts hresult ?_), fun _ => rfl⟩
    rintro _ hvital ⟨⟩
    cases hvital

theorem ensures_restore (h : guard.Holds env.disk) :
    Ensures guard.restore env fun _ after => guard.Undone env after := by
  refine ensures_bind ((ensures_text guard env).mono ?_)
  rintro _ middle ⟨hmiddle, -, hdisk, text, rfl, htext⟩
  refine (ensures_writeText .restore guard.target text middle).mono ?_
  rintro (error | ⟨⟩) after hresult
  · refine .of_continues hmiddle ⟨.of_balks hresult, fun hrestores => ?_⟩
    exact absurd hrestores (not_restores_of_balks hresult)
  · have hreplaced := hresult.replaced
    rw [hdisk] at hreplaced
    have hformer : text = guard.former := by
      obtain hformer | ⟨path, hbackup, hread⟩ := htext
      · exact hformer
      · exact h.eq_former_of_readText hbackup hread hreplaced
    refine .of_continues hmiddle ⟨.of_puts hresult, fun _ => ?_⟩
    rw [h.readText_of_replaced hreplaced, hformer]

end Guard

namespace Engine

open Course Environment

variable {guard : Guard} {env : Environment ν} {suggestion : Suggestion ν}

theorem ensures_mark (stage : Stage) (id : String) (isRollback : Bool) (env : Environment ν) :
    Ensures (mark stage id isRollback) env fun result after =>
      after.disk = env.disk ∧ match result with
        | .ok () => after.failures = env.failures ∧
            ∃ time, env.store.mark id isRollback time = .ok after.store
        | .error _ => after.failures = stage :: env.failures ∧ after.store = env.store := by
  refine ensures_bind (ensures_now (ensures_onStore (fun error => ⟨rfl, rfl, rfl⟩) ?_))
  intro _ store hmark
  obtain ⟨marked, hmarked, heq⟩ := map_eq_ok_iff.mp hmark
  obtain rfl := (Prod.mk.inj heq).2
  exact ⟨rfl, rfl, _, hmarked⟩

theorem ensures_markBack (id : String) (env : Environment ν) :
    Ensures (mark .markBack id true) env fun _ after =>
      after.disk = env.disk ∧ env.Continues after ∧ env.Restores after := by
  refine (ensures_mark .markBack id true env).mono ?_
  rintro (error | ⟨⟩) after ⟨hdisk, hresult⟩
  · exact ⟨hdisk, .of_fail hresult.1 hresult.2, .of_append [.markBack] hresult.1 (by simp)⟩
  · obtain ⟨hfailures, time, hmark⟩ := hresult
    refine ⟨hdisk, ⟨hfailures ▸ List.suffix_rfl, Store.appliesNothing_of_mark hmark⟩, fun _ _ => ?_⟩
    rw [hfailures]

/-- Rolling back always comes to an end, and says rightly whether the former text was put back. -/
theorem ensures_rollBack_told (suggestion : Suggestion ν) (guard : Guard) (env : Environment ν) :
    Ensures (rollBack suggestion guard) env fun result after => env.Continues after ∧
      ∃ restored, result = .ok restored ∧ (restored = true ↔ env.Restores after) := by
  refine ensures_bind (ensures_attempt ((Guard.ensures_restore_isOk guard env).mono
    fun result middle hmiddle => ?_))
  obtain ⟨hfirst, htold⟩ := hmiddle
  refine ensures_bind (ensures_attempt
    ((ensures_markBack suggestion.id middle).mono ?_))
  rintro _ after ⟨-, hlast, hread⟩
  refine ensures_pure ⟨hfirst.trans hlast, _, rfl, htold.trans ⟨fun h => h.trans hread, fun h => ?_⟩⟩
  exact h.of_suffix_right hlast.failures

theorem ensures_rollBack (h : guard.Holds env.disk) :
    Ensures (rollBack suggestion guard) env fun _ after => guard.Undone env after := by
  refine ensures_bind (ensures_attempt ((Guard.ensures_restore h).mono fun _ middle hundone => ?_))
  refine ensures_bind (ensures_attempt
    ((ensures_markBack suggestion.id middle).mono ?_))
  rintro _ after ⟨hdisk, hlast, -⟩
  refine ensures_pure ⟨hundone.toContinues.trans hlast, fun hrestores => ?_⟩
  rw [hdisk]
  exact hundone.restored (hrestores.of_suffix_right hlast.failures)

/-- What is done under a guard either succeeds or is undone. -/
theorem ensures_orRollBack {course : Course ν α} (post : α → Environment ν → Prop)
    (h : Ensures course env fun result after => match result with
      | .ok a => post a after
      | .error _ => env.Continues after ∧ guard.Holds after.disk) :
    Ensures (orRollBack suggestion guard course) env fun result after => match result with
      | .ok a => post a after
      | .error _ => guard.Undone env after := by
  refine ensures_bind (ensures_attempt (h.mono ?_))
  rintro (error | a) middle hmiddle
  · obtain ⟨hfirst, hholds⟩ := hmiddle
    refine ensures_bind ((ensures_rollBack hholds).mono ?_)
    rintro (failure | restored) after hundone
    · exact hundone.of_continues hfirst
    · exact hundone.of_continues hfirst
  · exact hmiddle

theorem gives_orRollBack {course : Course ν α} {post : α → Environment ν → Prop}
    (h : course.Gives env post) : (orRollBack suggestion guard course).Gives env post := by
  refine ensures_bind (ensures_attempt (h.mono ?_))
  rintro (error | a) middle hmiddle
  · exact gives_bind_throw
  · exact hmiddle

end Engine

end Reconcile
