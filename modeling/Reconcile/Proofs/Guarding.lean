import Reconcile.Proofs.ApplySafety
import Reconcile.Proofs.Throughout

/-!
# What holds while a guarded file is written

From the making of a guard on, a run changes the tree of files in two ways only: drafts come and go, and
the former text or the new one is put in place of the guarded file. What these changes keep holds at
every moment of the run, whatever fails.
-/

namespace Reconcile

open Course

variable {κ ν α : Type} {env : Environment ν} {within : Place → Prop} {holds : Disk → Prop}
  {guard : Guard}

theorem Guard.Holds.eq_former {disk : Disk} {path found : String} {steps : List Step}
    {name : String} (h : guard.Holds disk) (hpath : Step.ofPath guard.target = steps ++ [.down name])
    (hbackup : guard.backup = some path) (hread : disk.readText path = .ok found) :
    found = guard.former := by
  obtain ⟨suffix, rfl, hslash, hlong, hcopy⟩ := h.copy path hbackup
  exact hcopy.readText hslash hlong hpath hread

/-- Something goes on to hold while the file of a guard is written or written back, and with it what
the guard needs. -/
structure Guard.Keeps (guard : Guard) (resolution : String) (within : Place → Prop)
    (holds : Disk → Prop) : Prop where
  named : ∃ steps name, Step.ofPath guard.target = steps ++ [.down name]
  holdsGuard : ∀ disk, holds disk → guard.Holds disk
  drafts : ∀ before after, holds before → before.Drafts after → holds after
  replaced : ∀ before after text, text = guard.former ∨ text = resolution → holds before →
    before.Replaced guard.target text after → holds after
  within : ∀ disk path directory name, path = guard.target ∨ guard.backup = some path → holds disk →
    disk.locate path = .ok (directory, name) → ∀ last, within (directory ++ [last])

namespace Guard

/-- What holds of a guard, and that no directory is entered that was not entered before, is kept. -/
theorem keeps_holds (resolution : String) {before : Disk}
    (hnamed : ∃ steps name, Step.ofPath guard.target = steps ++ [.down name])
    (hwithin : ∀ path directory name, path = guard.target ∨ guard.backup = some path →
      before.locate path = .ok (directory, name) → ∀ last, within (directory ++ [last])) :
    guard.Keeps resolution within fun disk => guard.Holds disk ∧ before.Narrows disk where
  named := hnamed
  holdsGuard _ h := h.1
  drafts _ _ h hdrafts := ⟨h.1.drafts hdrafts, h.2.trans hdrafts.narrows⟩
  replaced _ _ _ _ h hreplaced := ⟨h.1.replaced hreplaced, h.2.trans hreplaced.narrows⟩
  within _ path directory name hpath h hlocate := hwithin path directory name hpath (h.2.locate hlocate)

theorem Keeps.and {resolution : String} {more : Disk → Prop} (h : guard.Keeps resolution within holds)
    (hdrafts : ∀ before after, holds before → more before → before.Drafts after → more after)
    (hreplaced : ∀ before after text, text = guard.former ∨ text = resolution → holds before →
      more before → before.Replaced guard.target text after → more after) :
    guard.Keeps resolution within fun disk => holds disk ∧ more disk where
  named := h.named
  holdsGuard disk hdisk := h.holdsGuard disk hdisk.1
  drafts before after hbefore hstep :=
    ⟨h.drafts before after hbefore.1 hstep, hdrafts before after hbefore.1 hbefore.2 hstep⟩
  replaced before after text htext hbefore hstep :=
    ⟨h.replaced before after text htext hbefore.1 hstep,
      hreplaced before after text htext hbefore.1 hbefore.2 hstep⟩
  within disk path directory name hpath hdisk := h.within disk path directory name hpath hdisk.1

/-- A guard that was made has its backup, if one was wanted, under a new name. -/
theorem ensures_create_made (target text : String) (wantsBackup : Bool) (env : Environment ν) :
    Ensures (create target text wantsBackup) env fun result after => ∀ guard, result = .ok guard →
      if wantsBackup then
        let backup := Backup.freePath env.disk target (env.clock env.readings).millis
        guard = ⟨target, some backup, text⟩ ∧ env.disk.Replaced backup text after.disk
      else guard = ⟨target, none, text⟩ ∧ after.disk = env.disk := by
  cases wantsBackup with
  | false =>
      refine ensures_pure ?_
      rintro _ ⟨⟩
      exact ⟨rfl, rfl⟩
  | true =>
      refine ensures_bind (ensures_now (ensures_bind (ensures_disk (ensures_bind ?_))))
      refine (ensures_writeText .backUp _ text _).mono ?_
      rintro (error | ⟨⟩) after hresult
      · rintro _ ⟨⟩
      · refine ensures_pure ?_
        rintro _ ⟨⟩
        exact ⟨rfl, hresult.replaced⟩

theorem throughout_create {target text : String} {wantsBackup : Bool} (hholds : holds env.disk)
    (hdrafts : wantsBackup = true → ∀ disk, env.disk.Drafts disk → holds disk)
    (hreplaced : wantsBackup = true → ∀ millis disk,
      env.disk.Replaced (Backup.freePath env.disk target millis) text disk → holds disk)
    (hwithin : wantsBackup = true → ∀ millis directory name,
      env.disk.locate (Backup.pathAt target millis) = .ok (directory, name) →
        ∀ last, within (directory ++ [last])) :
    Throughout (create target text wantsBackup) env within holds := by
  cases wantsBackup with
  | false => exact throughout_pure hholds
  | true =>
      have hnow : Ensures now env fun _ after => after.disk = env.disk := ensures_now rfl
      refine throughout_bind_of_ensures (throughout_now hholds) hnow fun time first hfirst hkept => ?_
      have hdisk : Ensures disk first fun result after =>
          result = .ok env.disk ∧ after.disk = env.disk := ensures_disk ⟨by rw [hfirst], hfirst⟩
      refine throughout_bind_of_ensures (throughout_disk hkept) hdisk ?_
      rintro _ second ⟨⟨⟩, hsecond⟩ -
      refine throughout_bind (throughout_writeText ?_ ?_ ?_) fun _ third hthird =>
        throughout_pure hthird
      · rw [hsecond]
        exact hdrafts rfl
      · rw [hsecond]
        exact hreplaced rfl time.millis
      · rw [hsecond]
        exact hwithin rfl _

end Guard

namespace Guard.Keeps

variable {resolution : String} (h : guard.Keeps resolution within holds) (hholds : holds env.disk)

include h hholds

theorem throughout_write (stage : WriteStep → Stage) {text : String}
    (htext : text = guard.former ∨ text = resolution) :
    Throughout (writeText stage guard.target text) env within holds :=
  throughout_writeText (fun disk => h.drafts env.disk disk hholds)
    (fun disk => h.replaced env.disk disk text htext hholds)
    fun directory name => h.within env.disk guard.target directory name (.inl rfl) hholds

theorem throughout_read (stage : Stage) {path : String}
    (hpath : path = guard.target ∨ guard.backup = some path) :
    Throughout (readText stage path) env within holds :=
  throughout_readText hholds fun directory name hlocate =>
    h.within env.disk path directory name hpath hholds hlocate name

/-- The text that is put back is the former one, from wherever it is taken. -/
theorem throughout_restore : Throughout guard.restore env within holds := by
  obtain ⟨steps, name, hpath⟩ := h.named
  have htext : Throughout guard.text env within holds := by
    unfold Guard.text
    split
    · exact throughout_pure hholds
    · rename_i path hbackup
      refine throughout_bind (throughout_attempt (h.throughout_read hholds .readBackup (.inr hbackup)))
        fun result middle hmiddle => ?_
      cases result with
      | ok text => exact throughout_pure hmiddle
      | error error => exact throughout_pure hmiddle
  refine throughout_bind_of_ensures htext (ensures_text guard env) ?_
  rintro text middle ⟨-, -, -, _, ⟨⟩, hformer⟩ hmiddle
  refine h.throughout_write hmiddle .restore (.inl ?_)
  obtain hformer | ⟨path, hbackup, hread⟩ := hformer
  · exact hformer
  · exact (h.holdsGuard _ hholds).eq_former hpath hbackup hread

end Guard.Keeps

namespace Engine

variable {engine : Engine κ ν} {suggestion : Suggestion ν} {resolution : String}

theorem throughout_mark (stage : Stage) (id : String) (isRollback : Bool) (hholds : holds env.disk) :
    Throughout (mark stage id isRollback) env within holds :=
  throughout_bind (throughout_now hholds) fun _ _ hmiddle => throughout_onStore hmiddle

theorem throughout_rollBack (h : guard.Keeps resolution within holds) (hholds : holds env.disk) :
    Throughout (rollBack suggestion guard) env within holds := by
  refine throughout_bind (throughout_attempt (h.throughout_restore hholds)) fun restored first hfirst => ?_
  refine throughout_bind (throughout_attempt (throughout_mark .markBack suggestion.id true hfirst))
    fun _ second hsecond => ?_
  exact throughout_pure hsecond

theorem throughout_orRollBack {course : Course ν α} (h : guard.Keeps resolution within holds)
    (hcourse : Throughout course env within holds) :
    Throughout (orRollBack suggestion guard course) env within holds := by
  refine throughout_bind (throughout_attempt hcourse) fun result first hfirst => ?_
  cases result with
  | ok a => exact throughout_pure hfirst
  | error error =>
      exact throughout_bind (throughout_rollBack h hfirst) fun _ second hsecond =>
        throughout_throw hsecond

theorem throughout_overwrite (h : guard.Keeps suggestion.resolution within holds)
    (hholds : holds env.disk) :
    Throughout (engine.overwrite suggestion guard) env within holds := by
  refine throughout_bind (throughout_orRollBack h (h.throughout_write hholds .overwrite (.inr rfl)))
    fun _ first hfirst => ?_
  refine throughout_bind (throughout_orRollBack h (h.throughout_read hfirst .reread (.inl rfl)))
    fun written second hsecond => ?_
  dsimp only
  split
  · exact throughout_pure hsecond
  · exact throughout_bind (throughout_rollBack h hsecond) fun _ third hthird =>
      throughout_throw hthird

/-- What holds while a guard is made, and is kept by the guard that is made, holds all along. -/
theorem throughout_applyTo {path text : String} {keepsBackup : Bool}
    (hcreate : Throughout (Guard.create path text keepsBackup) env within holds)
    (hkeeps : Ensures (Guard.create path text keepsBackup) env fun result after =>
      ∀ guard, result = .ok guard → ∃ inner : Disk → Prop, inner after.disk ∧
        (∀ disk, inner disk → holds disk) ∧ guard.Keeps suggestion.resolution within inner) :
    Throughout (engine.applyTo suggestion path text keepsBackup) env within holds := by
  refine throughout_bind_of_ensures hcreate hkeeps fun guard first hguard _ => ?_
  obtain ⟨inner, hinner, hholds, h⟩ := hguard guard rfl
  refine Throughout.mono ?_ hholds
  refine throughout_bind (throughout_overwrite h hinner) fun _ second hsecond => ?_
  refine throughout_bind (throughout_orRollBack h (throughout_mark .mark suggestion.id false hsecond))
    fun _ third hthird => ?_
  exact throughout_bind (throughout_now hthird) fun _ last hlast => throughout_pure hlast

/-- Up to the making of a guard nothing is changed, so it is enough that something holds at the
beginning and all along what is done with a text that was read. -/
theorem throughout_apply {id : String} {options : ApplyOptions} (hholds : holds env.disk)
    (hread : ∀ suggestion path, env.store.get id = .ok (some suggestion) →
      env.disk.resolveIn suggestion.repository suggestion.path = .ok path →
        (∀ cause, env.disk.readText path = .error cause → cause = .missing) →
          ∀ directory name, env.disk.locate path = .ok (directory, name) → within (directory ++ [name]))
    (hwrite : ∀ suggestion path text middle, env.store.get id = .ok (some suggestion) →
      env.disk.resolveIn suggestion.repository suggestion.path = .ok path →
        env.disk.readText path = .ok text → env.Unmoved middle → options.isDryRun = false →
          Throughout (engine.applyTo suggestion path text options.keepsBackup) middle within holds) :
    Throughout (engine.apply id options) env within holds := by
  have hkept {middle : Environment ν} (h : env.Unmoved middle) : holds middle.disk := h.disk ▸ hholds
  refine throughout_bind_of_ensures ?_ (ensures_load id env) ?_
  · refine throughout_bind (throughout_onStore hholds) fun found middle hmiddle => ?_
    cases found with
    | none => exact throughout_throw hmiddle
    | some suggestion => exact throughout_pure hmiddle
  rintro suggestion first ⟨hfirst, hget⟩ -
  have hstored := (hget suggestion rfl).1
  dsimp only
  split
  · exact throughout_pure (hkept hfirst)
  refine throughout_bind_of_ensures ?_ (ensures_target suggestion first) ?_
  · refine throughout_bind (throughout_disk (hkept hfirst)) fun disk middle hmiddle => ?_
    split
    · exact throughout_pure hmiddle
    · exact throughout_throw hmiddle
  rintro path next ⟨hnext, hpath⟩ -
  subst hnext
  have hresolved := hpath path rfl
  rw [hfirst.disk] at hresolved
  refine throughout_bind_of_ensures ?_ (ensures_current path next) ?_
  · refine throughout_onFiles (hkept hfirst) fun found disk hfound => ?_
    have hreads : disk = next.disk ∧
        ∀ cause, next.disk.readText path = .error cause → cause = .missing := by
      split at hfound
      · rename_i text hread
        cases hfound
        exact ⟨rfl, by simp [hread]⟩
      · rename_i hread
        cases hfound
        exact ⟨rfl, by simp [hread]⟩
      · cases hfound
    rw [hfirst.disk] at hreads ⊢
    obtain ⟨rfl, hreads⟩ := hreads
    exact ⟨throughout_entryOf (hread suggestion path hstored hresolved hreads), hholds⟩
  rintro found second ⟨hsecond, htext⟩ -
  have hunmoved := hfirst.trans hsecond
  split
  · rename_i text _
    split
    · exact throughout_pure (hkept hunmoved)
    · rename_i hdry
      have hreads := (htext text rfl).1
      rw [hfirst.disk] at hreads
      exact hwrite suggestion path text second hstored hresolved hreads hunmoved (by simpa using hdry)
  · exact throughout_throw (hkept hunmoved)

end Engine

end Reconcile
