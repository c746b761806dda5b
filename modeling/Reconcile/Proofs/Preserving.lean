import Reconcile.Proofs.ApplySafety

/-!
# What courses preserve

A course preserves what holds after it whenever it held before, however the course ends. The tree of
files is changed by steps that write only, and the store by steps on the store, so of a run under a
guard there is no more to look at than texts put in place of the guarded file, drafts that could not be
removed and rows that are marked. What holds may speak of the steps that have failed.
-/

namespace Reconcile

variable {κ ν α β : Type} {holds : Disk → Store ν → List Stage → Prop}

namespace Stage

/-- The steps by which a draft is removed that is not put in place. -/
def isDiscard : Stage → Bool
  | .backUp step | .overwrite step | .restore step => step = .discard
  | _ => false

/-- The steps that look at the permissions a draft is to have. -/
def isLook : Stage → Bool
  | .backUp step | .overwrite step | .restore step => step = .look
  | _ => false

end Stage

/-- Two trees are the same but for drafts, of which there are no more than could not be removed. -/
def Disk.LittersBy (before : Disk) (failures : List Stage) (after : Disk) : Prop :=
  ∃ litter, before.Litters litter after ∧ litter.length ≤ failures.countP Stage.isDiscard

theorem Environment.Balks.littersBy {env after : Environment ν} {stage : WriteStep → Stage}
    (h : env.Balks stage after) (hdiscard : (stage .discard).isDiscard) :
    ∃ more, after.failures = more ++ env.failures ∧ env.disk.LittersBy more after.disk := by
  obtain ⟨more, litter, hnoted, -, -, hlitter, hlength⟩ := h.noted
  refine ⟨more, hnoted, litter, hlitter, hlength.trans ?_⟩
  rw [List.count_eq_countP]
  exact List.countP_mono_left fun other _ hother => (beq_iff_eq.mp hother).symm ▸ hdiscard

namespace Course

def Preserves (course : Course ν α) (holds : Disk → Store ν → List Stage → Prop) : Prop :=
  ∀ env : Environment ν, holds env.disk env.store env.failures →
    Ensures course env fun _ after => holds after.disk after.store after.failures

variable {course : Course ν α}

theorem preserves_pure (a : α) : (pure a : Course ν α).Preserves holds := fun _ henv => henv

theorem preserves_throw (error : FixError) : (throw error : Course ν α).Preserves holds :=
  fun _ henv => henv

theorem preserves_now : (now : Course ν Timestamp).Preserves holds := fun _ henv => henv

theorem preserves_freshId : (freshId : Course ν String).Preserves holds := fun _ henv => henv

theorem preserves_attempt (h : course.Preserves holds) : (attempt course).Preserves holds :=
  fun _ henv => ensures_attempt (h _ henv)

theorem preserves_bind {next : α → Course ν β} (h : course.Preserves holds)
    (hnext : ∀ a, (next a).Preserves holds) : (course >>= next).Preserves holds := by
  intro env henv
  refine ensures_bind ((h env henv).mono ?_)
  rintro (error | a) middle hmiddle
  · exact hmiddle
  · exact hnext a middle hmiddle

theorem preserves_onStore {stage : Stage} {act : Store ν → Except StoreError (α × Store ν)}
    (hnoted : ∀ disk store failures, holds disk store failures → holds disk store (stage :: failures))
    (h : ∀ disk store failures a after, holds disk store failures → act store = .ok (a, after) →
      holds disk after failures) :
    (onStore stage act).Preserves holds := fun _ henv =>
  ensures_onStore (fun _ => hnoted _ _ _ henv) fun a after hact => h _ _ _ a after henv hact

theorem preserves_readText {stage : Stage} (path : String)
    (hnoted : ∀ disk store failures, holds disk store failures → holds disk store (stage :: failures)) :
    (readText stage path : Course ν String).Preserves holds := fun _ henv =>
  ensures_readText (fun _ => hnoted _ _ _ henv) fun _ _ => henv

end Course

open Course

/-- What holds goes on to hold while a text is put in place of the file of a guard, and when a suggestion
is marked. A draft may be left for each time that one could not be removed, and the permissions of the file
may be lost where they could not be looked at. -/
structure Guard.Spares (guard : Guard) (id : String) (holds : Disk → Store ν → List Stage → Prop) :
    Prop where
  noted : ∀ disk store failures stage, holds disk store failures → holds disk store (stage :: failures)
  littered : ∀ before after store failures more, holds before store failures →
    before.LittersBy more after → holds after store (more ++ failures)
  written : ∀ before after store failures more text, holds before store failures →
    before.Replaced guard.target text after →
      before.KeepsMode guard.target after ∨ (∃ stage ∈ more, stage.isLook) →
        holds after store (more ++ failures)
  marked : ∀ disk before after failures isRollback time, holds disk before failures →
    before.mark id isRollback time = .ok after → holds disk after failures

namespace Guard.Spares

variable {guard : Guard} {id : String} {suggestion : Suggestion ν}

theorem preserves_write (h : guard.Spares id holds) {stage : WriteStep → Stage}
    (hdiscard : (stage .discard).isDiscard) (hlook : (stage .look).isLook) (text : String) :
    (writeText stage guard.target text).Preserves holds := by
  intro env henv
  refine (ensures_writeText stage guard.target text env).mono ?_
  rintro (error | ⟨⟩) after hafter
  · obtain ⟨more, hnoted, hlitters⟩ := hafter.littersBy hdiscard
    rw [hafter.store, hnoted]
    exact h.littered env.disk after.disk env.store env.failures more henv hlitters
  · rw [hafter.store]
    obtain ⟨hnone, hmode⟩ | hnoted := hafter.noted
    · rw [hnone]
      exact h.written env.disk after.disk env.store env.failures [] text henv hafter.replaced (.inl hmode)
    · rw [hnoted]
      exact h.written env.disk after.disk env.store env.failures [stage .look] text henv hafter.replaced
        (.inr ⟨_, List.mem_singleton_self _, hlook⟩)

theorem preserves_restore (h : guard.Spares id holds) : guard.restore.Preserves holds := by
  have htext : (guard.text : Course ν String).Preserves holds := by
    unfold Guard.text
    split
    · exact preserves_pure _
    · refine preserves_bind (preserves_attempt (preserves_readText _ fun _ _ _ => h.noted _ _ _ _))
        fun result => ?_
      cases result with
      | ok text => exact preserves_pure _
      | error error => exact preserves_pure _
  exact preserves_bind htext fun text => h.preserves_write rfl rfl text

theorem preserves_mark (h : guard.Spares id holds) (stage : Stage) (isRollback : Bool) :
    (Engine.mark stage id isRollback).Preserves holds := by
  refine preserves_bind preserves_now fun time => preserves_onStore (fun _ _ _ => h.noted _ _ _ _) ?_
  intro disk store failures _ after hdisk hmark
  obtain ⟨marked, hmarked, heq⟩ := map_eq_ok_iff.mp hmark
  obtain ⟨-, rfl⟩ := Prod.mk.inj heq
  exact h.marked disk store marked failures isRollback time hdisk hmarked

variable (h : guard.Spares suggestion.id holds)

include h

theorem preserves_rollBack : (Engine.rollBack suggestion guard).Preserves holds := by
  refine preserves_bind (preserves_attempt h.preserves_restore) fun restored => ?_
  exact preserves_bind (preserves_attempt (h.preserves_mark .markBack true)) fun _ => preserves_pure _

theorem preserves_orRollBack {course : Course ν α} (hcourse : course.Preserves holds) :
    (Engine.orRollBack suggestion guard course).Preserves holds := by
  refine preserves_bind (preserves_attempt hcourse) fun result => ?_
  cases result with
  | ok a => exact preserves_pure a
  | error error => exact preserves_bind h.preserves_rollBack fun _ => preserves_throw error

theorem preserves_overwrite (engine : Engine κ ν) :
    (engine.overwrite suggestion guard).Preserves holds := by
  refine preserves_bind (h.preserves_orRollBack (h.preserves_write rfl rfl _)) fun _ => ?_
  refine preserves_bind (h.preserves_orRollBack (preserves_readText _ fun _ _ _ => h.noted _ _ _ _))
    fun written => ?_
  dsimp only
  split
  · exact preserves_pure _
  · exact preserves_bind h.preserves_rollBack fun _ => preserves_throw _

end Guard.Spares

namespace Engine

variable {engine : Engine κ ν} {env : Environment ν} {suggestion : Suggestion ν} {path text : String}
  {keepsBackup : Bool}

/-- What holds once a guard is made, and is spared under it, holds in the end. -/
theorem ensures_applyTo_of_spares (post : Environment ν → Prop)
    (hcreate : Ensures (Guard.create path text keepsBackup) env fun result after => match result with
      | .ok guard => ∃ holds : Disk → Store ν → List Stage → Prop, guard.Spares suggestion.id holds ∧
          holds after.disk after.store after.failures ∧
            ∀ last : Environment ν, holds last.disk last.store last.failures → post last
      | .error _ => post after) :
    Ensures (engine.applyTo suggestion path text keepsBackup) env fun _ after => post after := by
  refine ensures_bind (hcreate.mono ?_)
  rintro (error | guard) first hfirst
  · exact hfirst
  obtain ⟨holds, h, hmade, hpost⟩ := hfirst
  refine Ensures.mono ?_ fun _ after => hpost after
  refine ensures_bind ((h.preserves_overwrite engine first hmade).mono ?_)
  rintro (error | verification) second hsecond
  · exact hsecond
  refine ensures_bind ((h.preserves_orRollBack (h.preserves_mark .mark false) second hsecond).mono ?_)
  rintro (error | ⟨⟩) third hthird
  · exact hthird
  · exact ensures_bind (ensures_now (ensures_pure hthird))

/-- What of the store holds before a run goes on to hold, if it does when the run's own suggestion is
marked. -/
theorem ensures_apply_store {id : String} {options : ApplyOptions} (holds : Store ν → Prop)
    (hmark : ∀ before after isRollback time, holds before →
      before.mark id isRollback time = .ok after → holds after)
    (henv : holds env.store) :
    Ensures (engine.apply id options) env fun _ after => holds after.store := by
  refine ensures_apply_of_applyTo (fun _ after hends => hends.unmoved.store ▸ henv) ?_
  intro suggestion path text middle hmiddle
  obtain ⟨row, hrow, hholds⟩ := Store.row?_of_get hmiddle.stored
  have hid : suggestion.id = id := hholds.id.trans (Store.id_of_row? hrow)
  have hunmoved := hmiddle.unmoved
  have hread := hmiddle.reads
  rw [← hunmoved.disk] at hread
  refine ensures_applyTo_of_spares (fun after => holds after.store)
    ((Guard.ensures_create hread options.keepsBackup).mono ?_)
  rintro (error | guard) first hfirst
  · rwa [hfirst.store, hunmoved.store]
  · refine ⟨fun _ store _ => holds store, ⟨?_, ?_, ?_, ?_⟩, by rwa [hfirst.2.2.1, hunmoved.store],
      fun _ h => h⟩
    · exact fun _ _ _ _ h => h
    · exact fun _ _ _ _ _ h _ => h
    · exact fun _ _ _ _ _ _ h _ _ => h
    · rw [hid]
      exact fun _ before after _ => hmark before after

section Generating

variable [Scalar ν] {kept : Disk → Store ν → Prop}
  (hcreate : ∀ disk before (draft : Draft ν) id time suggestion after, kept disk before →
    before.create draft id time = .ok (suggestion, after) → kept disk after)

include hcreate

theorem preserves_keep (draft : Draft ν) :
    (keep draft).Preserves fun disk store _ => kept disk store := by
  refine preserves_bind preserves_freshId fun id => preserves_bind preserves_now fun time => ?_
  exact preserves_onStore (fun _ _ _ h => h) fun disk before _ suggestion after h =>
    hcreate disk before draft id time suggestion after h

theorem preserves_collect (engine : Engine κ ν) (factors : Factors ν → Json) (repository : String)
    (conflict : Conflict) (room : Nat) (strategies : List Strategy) :
    (engine.collect factors repository conflict room strategies).Preserves fun disk store _ =>
      kept disk store := by
  induction strategies generalizing room with
  | nil =>
      cases room with
      | zero => exact preserves_pure _
      | succ room => exact preserves_pure _
  | cons strategy rest ih =>
      cases room with
      | zero => exact preserves_pure _
      | succ room =>
          rw [collect]
          split
          · exact ih (room + 1)
          · exact ih (room + 1)
          · exact preserves_throw _
          · exact preserves_throw _
          · refine preserves_bind (preserves_keep hcreate _) fun first => ?_
            exact preserves_bind (ih room) fun others => preserves_pure _

theorem preserves_generate (engine : Engine κ ν) (factors : Factors ν → Json) (repository : String)
    (conflict : Conflict) (most : Nat) :
    (engine.generate factors repository conflict most).Preserves fun disk store _ => kept disk store :=
  preserves_bind (preserves_collect hcreate engine factors repository conflict most _) fun _ =>
    preserves_pure _

end Generating

end Engine

end Reconcile
