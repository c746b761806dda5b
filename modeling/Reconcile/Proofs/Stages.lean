import Reconcile.Proofs.Course
import Reconcile.Fix.Engine

/-!
# The stages of a course

A step of some stage was tried if it left a moment in the trail or was noted as failed. A course is
confined to the stages of its own steps, and without a step that reads the clock it leaves the clock
where it is.
-/

namespace Reconcile

variable {ν α β : Type} {stages : Stage → Prop} {readsClock : Prop}

namespace Environment

def tried (env : Environment ν) : List Stage := env.failures ++ env.trail.map (·.stage)

/-- From one environment to a later one no stages but some were tried, and the clock was not read unless
it may be. What steps fail by themselves is the same. -/
structure Confined (env after : Environment ν) (stages : Stage → Prop) (readsClock : Prop) : Prop where
  tried : ∀ stage ∈ after.tried, stage ∈ env.tried ∨ stages stage
  clock : after.clock = env.clock
  readings : ¬readsClock → after.readings = env.readings
  faults : after.faults = env.faults

namespace Confined

variable {env middle after : Environment ν}

theorem refl (env : Environment ν) : env.Confined env stages readsClock :=
  ⟨fun _ => .inl, rfl, fun _ => rfl, rfl⟩

theorem trans (h : env.Confined middle stages readsClock)
    (h' : middle.Confined after stages readsClock) : env.Confined after stages readsClock where
  tried stage hstage := by
    obtain hearlier | hnew := h'.tried stage hstage
    · exact h.tried stage hearlier
    · exact .inr hnew
  clock := h'.clock.trans h.clock
  readings hread := (h'.readings hread).trans (h.readings hread)
  faults := h'.faults.trans h.faults

theorem mono {stages' : Stage → Prop} {readsClock' : Prop} (h : env.Confined after stages readsClock)
    (hstages : ∀ stage, stages stage → stages' stage) (hclock : readsClock → readsClock') :
    env.Confined after stages' readsClock' where
  tried stage hstage := (h.tried stage hstage).imp_right (hstages stage)
  clock := h.clock
  readings hread := h.readings (hread ∘ hclock)
  faults := h.faults

theorem of_step {stage : Stage} (hstage : stages stage) (hclock : after.clock = env.clock)
    (hreadings : after.readings = env.readings) (hfaults : after.faults = env.faults)
    (hstep : after.failures = stage :: env.failures ∧ after.trail = env.trail ∨
      after.failures = env.failures ∧ ∃ moment, moment.stage = stage ∧
        after.trail = moment :: env.trail) :
    env.Confined after stages readsClock := by
  refine ⟨fun other hother => ?_, hclock, fun _ => hreadings, hfaults⟩
  obtain ⟨hfailures, htrail⟩ | ⟨hfailures, moment, rfl, htrail⟩ := hstep
  · rw [Environment.tried, hfailures, htrail, List.cons_append] at hother
    obtain rfl | hearlier := List.mem_cons.mp hother
    · exact .inr hstage
    · exact .inl hearlier
  · rw [Environment.tried, hfailures, htrail, List.map_cons] at hother
    obtain hfailed | hpassed := List.mem_append.mp hother
    · exact .inl (List.mem_append_left _ hfailed)
    obtain rfl | hearlier := List.mem_cons.mp hpassed
    · exact .inr hstage
    · exact .inl (List.mem_append_right _ hearlier)

end Confined

end Environment

open Environment

namespace Course

/-- Whatever becomes of its steps, a course tries no stages but some, and does not read the clock unless
it may. -/
def ConfinedTo (course : Course ν α) (stages : Stage → Prop) (readsClock : Prop) : Prop :=
  ∀ env : Environment ν, Ensures course env fun _ after => env.Confined after stages readsClock

variable {course : Course ν α} {stage : Stage}

theorem confinedTo_pure (a : α) : (pure a : Course ν α).ConfinedTo stages readsClock := Confined.refl

theorem confinedTo_throw (error : FixError) :
    (throw error : Course ν α).ConfinedTo stages readsClock := Confined.refl

theorem confinedTo_disk : (disk : Course ν Disk).ConfinedTo stages readsClock := Confined.refl

theorem confinedTo_now : (now : Course ν Timestamp).ConfinedTo stages True := fun _ =>
  ⟨fun _ => .inl, rfl, fun h => absurd trivial h, rfl⟩

theorem confinedTo_attempt (h : course.ConfinedTo stages readsClock) :
    (attempt course).ConfinedTo stages readsClock := h

theorem confinedTo_bind {next : α → Course ν β} (h : course.ConfinedTo stages readsClock)
    (hnext : ∀ a, (next a).ConfinedTo stages readsClock) :
    (course >>= next).ConfinedTo stages readsClock := by
  intro env
  refine ensures_bind ((h env).mono ?_)
  rintro (error | a) middle hfirst
  · exact hfirst
  · exact (hnext a middle).mono fun _ _ => hfirst.trans

theorem confinedTo_onFiles {touched : Disk → List Place} {act : Disk → Except FileError (α × Disk)}
    (hstage : stages stage) :
    (onFiles stage touched act : Course ν α).ConfinedTo stages readsClock := fun _ =>
  ensures_onFiles (fun _ => .of_step hstage rfl rfl rfl (.inl ⟨rfl, rfl⟩))
    fun _ _ _ => .of_step hstage rfl rfl rfl (.inr ⟨rfl, _, rfl, rfl⟩)

theorem confinedTo_onStore {act : Store ν → Except StoreError (α × Store ν)} (hstage : stages stage) :
    (onStore stage act).ConfinedTo stages readsClock := fun _ =>
  ensures_onStore (fun _ => .of_step hstage rfl rfl rfl (.inl ⟨rfl, rfl⟩))
    fun _ _ _ => .of_step hstage rfl rfl rfl (.inr ⟨rfl, _, rfl, rfl⟩)

theorem confinedTo_writeText {stage : WriteStep → Stage} (hstage : ∀ step, stages (stage step))
    (path text : String) : (writeText stage path text : Course ν Unit).ConfinedTo stages readsClock := by
  have hpermit (draft : Place) :
      (permitDraft stage draft path text : Course ν Unit).ConfinedTo stages readsClock := by
    refine confinedTo_bind (confinedTo_attempt (confinedTo_onFiles (hstage .look))) fun found => ?_
    split
    · exact confinedTo_onFiles (hstage .permit)
    · exact confinedTo_pure ()
  have hfinish (draft : Place) :
      (finishDraft stage draft path text : Course ν Unit).ConfinedTo stages readsClock := by
    refine confinedTo_bind (confinedTo_onFiles (hstage .fill)) fun _ => ?_
    refine confinedTo_bind (confinedTo_onFiles (hstage .sync)) fun _ => ?_
    exact confinedTo_bind (hpermit draft) fun _ => confinedTo_onFiles (hstage .swap)
  have hdrop (draft : Place) :
      (dropDraft (stage .discard) draft : Course ν Unit).ConfinedTo stages readsClock :=
    confinedTo_bind (confinedTo_attempt (confinedTo_onFiles (hstage .discard))) fun _ => confinedTo_pure ()
  refine confinedTo_bind (confinedTo_onFiles (hstage .draft)) fun draft => ?_
  refine confinedTo_bind (confinedTo_attempt (hfinish draft)) fun result => ?_
  cases result with
  | ok => exact confinedTo_pure ()
  | error error => exact confinedTo_bind (hdrop draft) fun _ => confinedTo_throw error

end Course

open Course

/-- The stages in which nothing is changed. -/
def Stage.Looks (stage : Stage) : Prop := stage = .load ∨ stage = .read

namespace Engine

theorem confinedTo_load (id : String) :
    (load id : Course ν (Suggestion ν)).ConfinedTo Stage.Looks False := by
  refine confinedTo_bind (confinedTo_onStore (.inl rfl)) fun found => ?_
  cases found with
  | none => exact confinedTo_throw _
  | some suggestion => exact confinedTo_pure suggestion

theorem confinedTo_current (path : String) :
    (current path : Course ν (Option String)).ConfinedTo Stage.Looks False :=
  confinedTo_onFiles (.inr rfl)

end Engine

theorem Guard.confinedTo_create (target former : String) (wantsBackup : Bool) :
    (create target former wantsBackup : Course ν Guard).ConfinedTo
      (fun stage => ∃ step, stage = .backUp step) True := by
  unfold create
  split
  · refine confinedTo_bind confinedTo_now fun time => confinedTo_bind confinedTo_disk fun disk => ?_
    refine confinedTo_bind (confinedTo_writeText (fun step => ⟨step, rfl⟩) _ former) fun _ => ?_
    exact confinedTo_pure _
  · exact confinedTo_pure _

end Reconcile
