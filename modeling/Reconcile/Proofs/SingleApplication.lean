import Reconcile.Proofs.Preserving
import Reconcile.Proofs.Session
import Reconcile.Proofs.Staleness

/-!
# A suggestion is applied once

That a suggestion is applied is kept in its row. A run takes it back only for the suggestion that it is
about, and only after it has found that this one is not applied, so no call takes it back once it is
there. From then on runs of the suggestion end before they look at its file.
-/

namespace Reconcile

variable {κ ν : Type}

namespace Store

variable {store after : Store ν} {id other : String}

def HasApplied (store : Store ν) (id : String) : Prop := ∃ row, store.row? id = some row ∧ row.isApplied

theorem HasApplied.mark {isRollback : Bool} {now : Timestamp} (h : store.HasApplied id)
    (hother : other ≠ id) (hmark : store.mark other isRollback now = .ok after) :
    after.HasApplied id := by
  obtain ⟨row, hrow, happlied⟩ := h
  have hid : row.id ≠ other := by
    rw [id_of_row? hrow]
    exact hother.symm
  refine ⟨row, ?_, happlied⟩
  rw [row?_mark hmark, hrow, Option.map_some, if_neg hid]

theorem HasApplied.record {outcome : Outcome} (h : store.HasApplied id)
    (hrecord : store.record outcome = .ok after) : after.HasApplied id := by
  obtain ⟨outcomes, -, heq⟩ := bind_eq_ok_iff.mp hrecord
  obtain rfl := Except.ok.inj heq
  exact h

theorem HasApplied.create [Scalar ν] {draft : Draft ν} {suggestion : Suggestion ν} {now : Timestamp}
    (h : store.HasApplied id) (hcreate : store.create draft other now = .ok (suggestion, after)) :
    after.HasApplied id := by
  obtain ⟨row, hrow, happlied⟩ := h
  obtain ⟨rows, hrows, -, -, rfl⟩ := exists_rows_of_create hcreate
  refine ⟨row, ?_, happlied⟩
  rw [row?, hrows] at hrow
  have hfound : find? rows id = some row := hrow
  simp only [row?, find?, Option.bind_some, List.find?_append] at hfound ⊢
  rw [hfound, Option.some_or]

end Store

open Course

namespace Engine

variable {engine : Engine κ ν} {env : Environment ν} {id : String} {options : ApplyOptions}

/-- A run of a suggestion that is applied changes nothing; if it can load the suggestion, it succeeds
without applying it. -/
def Declines (engine : Engine κ ν) (id : String) (options : ApplyOptions) (env : Environment ν) :
    Prop :=
  Ensures (engine.apply id options) env fun result after =>
    after.disk = env.disk ∧ after.store = env.store ∧
      ((∃ error, (load id env).1 = .error error ∧ result = .error error) ∨
        ∃ application, result = .ok application ∧ application.succeeded = true ∧
          application.applied = false)

theorem declines_of_hasApplied (h : env.store.HasApplied id) : engine.Declines id options env := by
  obtain ⟨row, hrow, happlied⟩ := h
  have hload := ensures_load id env
  unfold Declines Ensures
  rcases hrun : load id env with ⟨error | suggestion, first⟩
  · obtain ⟨hfirst, -⟩ := hload.of_eq hrun
    rw [apply, bind_of_error hrun]
    exact ⟨hfirst.disk, hfirst.store, .inl ⟨error, rfl, rfl⟩⟩
  · obtain ⟨hfirst, hget⟩ := hload.of_eq hrun
    obtain ⟨found, hfound, hholds⟩ := Store.row?_of_get (hget suggestion rfl).1
    obtain rfl := Option.some.inj (hrow.symm.trans hfound)
    rw [apply, bind_of_ok hrun, if_pos (hholds.isApplied.trans happlied)]
    exact ⟨hfirst.disk, hfirst.store, .inr ⟨_, rfl, rfl, rfl⟩⟩

theorem ensures_apply_hasApplied {other : String} (h : env.store.HasApplied id) :
    Ensures (engine.apply other options) env fun _ after => after.store.HasApplied id := by
  by_cases hother : other = id
  · -- The run might mark its own suggestion as undone, but it ends before that.
    subst hother
    refine (declines_of_hasApplied h : engine.Declines other options env).mono ?_
    rintro result after ⟨-, hstore, -⟩
    rwa [hstore]
  · exact ensures_apply_store (·.HasApplied id) (fun _ _ _ _ h hmark => h.mark hother hmark) h

theorem hasApplied_of_apply {application : Application ν} {after : Environment ν}
    (hresult : engine.apply id options env = (.ok application, after))
    (happlied : application.applied = true) : after.store.HasApplied id := by
  have happly : Ensures (engine.apply id options) env fun result after =>
      ∀ application, result = .ok application → application.applied = true →
        after.store.HasApplied id := by
    refine ensures_apply_of_applyTo ?_ ?_
    · intro result after hends application hok htrue
      rw [hends.unapplied application hok] at htrue
      cases htrue
    intro suggestion path text middle hmiddle
    obtain ⟨row, hrow, hholds⟩ := Store.row?_of_get hmiddle.stored
    have hread := hmiddle.reads
    rw [← hmiddle.unmoved.disk] at hread
    refine (ensures_applyTo hread options.keepsBackup).mono ?_
    rintro (error | application) after hafter
    · rintro _ ⟨⟩
    · obtain ⟨-, -, -, time, hmark⟩ := hafter
      rintro _ ⟨⟩ -
      have hid : row.id = id := Store.id_of_row? hrow
      rw [hmiddle.unmoved.store, hholds.id, hid] at hmark
      exact Store.isApplied_of_mark hmark hrow
  exact happly.of_eq hresult application rfl happlied

variable [Scalar ν]

theorem preserves_report (engine : Engine κ ν) (strategy : String) (succeeded : Bool) :
    (engine.report strategy succeeded).Preserves fun _ store _ => store.HasApplied id := by
  refine preserves_bind (preserves_onStore (fun _ _ _ h => h) fun _ store _ after _ h hrecord => ?_) fun _ =>
    preserves_pure _
  obtain ⟨recorded, hrecorded, heq⟩ := map_eq_ok_iff.mp hrecord
  obtain ⟨-, rfl⟩ := Prod.mk.inj heq
  exact h.record hrecorded

end Engine

theorem Engine.ensures_validate (id : String) (env : Environment ν) :
    Ensures (validate id) env fun _ after => env.Unmoved after := by
  refine ensures_bind ((ensures_load id env).mono ?_)
  rintro (error | suggestion) first ⟨hfirst, -⟩
  · exact hfirst
  refine ensures_bind ((ensures_target suggestion first).mono ?_)
  rintro (error | path) _ ⟨rfl, -⟩
  · exact hfirst
  refine ensures_bind ((ensures_current path _).mono ?_)
  rintro (error | found) second ⟨hsecond, -⟩
  · exact hfirst.trans hsecond
  · exact ensures_pure (hfirst.trans hsecond)

namespace Session

open Engine

variable [Scalar ν] {session : Session κ ν} {id : String}

theorem store_step_report (session : Session κ ν) (strategy : String) (succeeded : Bool)
    (circumstances : Circumstances) :
    (session.step ⟨.report strategy succeeded, circumstances⟩).store =
      (session.engine.report strategy succeeded (session.environment circumstances)).2.store := by
  simp only [step]
  rcases session.engine.report strategy succeeded (session.environment circumstances) with
    ⟨error | learned, after⟩ <;> rfl

theorem hasApplied_step (h : session.store.HasApplied id) (call : Call κ ν) :
    (session.step call).store.HasApplied id := by
  rcases call with ⟨request, circumstances⟩
  have henv : (session.environment circumstances).store.HasApplied id := h
  cases request with
  | generate factors repository conflict most =>
      have hgenerate : (session.engine.generate factors repository conflict most).Preserves
          fun _ store _ => store.HasApplied id :=
        preserves_generate (fun _ _ _ _ _ _ _ h hcreate => h.create hcreate) _ _ _ _ _
      exact hgenerate _ henv
  | apply other options => exact ensures_apply_hasApplied henv
  | validate other =>
      have hunmoved := ensures_validate other (session.environment circumstances)
      change (validate other (session.environment circumstances)).2.store.HasApplied id
      rwa [hunmoved.store]
  | report strategy succeeded =>
      rw [store_step_report]
      exact preserves_report session.engine strategy succeeded _ henv
  | list filter => exact h
  | reopen settings chain reader =>
      simp only [step]
      split <;> exact h
  | edit disk => exact h

theorem hasApplied_after (h : session.store.HasApplied id) (calls : List (Call κ ν)) :
    (session.after calls).store.HasApplied id := by
  induction calls generalizing session with
  | nil => exact h
  | cons call rest ih => exact ih (hasApplied_step h call)

theorem hasApplied_of_applies? {call : Call κ ν} (h : session.applies? call = some id) :
    (session.step call).store.HasApplied id := by
  obtain ⟨options, application, hrequest, happlied, hresult⟩ := exists_of_applies? h
  rcases call with ⟨request, circumstances⟩
  obtain rfl : request = .apply id options := hrequest
  exact hasApplied_of_apply (Prod.ext hresult rfl) happlied

omit [Scalar ν] in
theorem applies?_ne_of_hasApplied (h : session.store.HasApplied id) (call : Call κ ν) :
    session.applies? call ≠ some id := by
  intro happlies
  obtain ⟨options, application, hrequest, happlied, hresult⟩ := exists_of_applies? happlies
  have hdeclines : session.engine.Declines id options (session.environment call.circumstances) :=
    declines_of_hasApplied h
  obtain ⟨-, -, ⟨error, -, herror⟩ | ⟨other, hother, -, hunapplied⟩⟩ := hdeclines
  · cases hresult.symm.trans herror
  · obtain rfl := Except.ok.inj (hresult.symm.trans hother)
    rw [happlied] at hunapplied
    cases hunapplied

theorem not_mem_appliedIds (h : session.store.HasApplied id) (calls : List (Call κ ν)) :
    id ∉ session.appliedIds calls := by
  induction calls generalizing session with
  | nil => simp [appliedIds]
  | cons call rest ih =>
      rw [appliedIds, List.mem_append, not_or, Option.mem_toList]
      exact ⟨applies?_ne_of_hasApplied h call, ih (hasApplied_step h call)⟩

theorem nodup_appliedIds (session : Session κ ν) (calls : List (Call κ ν)) :
    (session.appliedIds calls).Nodup := by
  induction calls generalizing session with
  | nil => exact List.nodup_nil
  | cons call rest ih =>
      rw [appliedIds]
      cases happlies : session.applies? call with
      | none => exact ih (session.step call)
      | some id =>
          exact List.nodup_cons.mpr
            ⟨not_mem_appliedIds (hasApplied_of_applies? happlies) rest, ih (session.step call)⟩

/-- Of all calls at most one says that it has applied a suggestion. From then on runs of the suggestion
change nothing, and succeed without applying it if they can load it. -/
theorem applies_at_most_once (session : Session κ ν) :
    (∀ calls, (session.appliedIds calls).Nodup) ∧
      ∀ earlier call middle id, (session.after earlier).applies? call = some id →
        ∀ options circumstances,
          let later := session.after (earlier ++ call :: middle)
          later.engine.Declines id options (later.environment circumstances) := by
  refine ⟨session.nodup_appliedIds, fun earlier call middle id happlies options circumstances => ?_⟩
  refine declines_of_hasApplied ?_
  have hstep : (session.after (earlier ++ call :: middle)) =
      ((session.after earlier).step call).after middle := session.after_append earlier (call :: middle)
  rw [hstep]
  exact hasApplied_after (hasApplied_of_applies? happlies) middle

/-- A suggestion is applied, and then its file is put back as it was. -/
def movedSession : Session String Rat := ⟨plainEngine, moved.disk, moved.store⟩

def calm : Circumstances := ⟨moved.clock, moved.ids, fun _ => none⟩

theorem applies_at_most_once_moved :
    (movedSession.after []).applies? ⟨.apply "s" ⟨false, false⟩, calm⟩ = some "s" ∧
      let later := movedSession.after
        ([] ++ ⟨.apply "s" ⟨false, false⟩, calm⟩ :: [⟨.edit moved.disk, calm⟩])
      later.engine.Declines "s" .standard (later.environment calm) := by
  have happlies : (movedSession.after []).applies? ⟨.apply "s" ⟨false, false⟩, calm⟩ = some "s" := by
    have happlied : (plainEngine.apply "s" ⟨false, false⟩ moved).1.toOption.map (·.applied) =
        some true := by cbv
    have hruns : (movedSession.engine.apply "s" ⟨false, false⟩ (movedSession.environment calm)).1 =
        (plainEngine.apply "s" ⟨false, false⟩ moved).1 := rfl
    simp only [after, List.foldl_nil, applies?, hruns]
    cases hresult : (plainEngine.apply "s" ⟨false, false⟩ moved).1 with
    | error error =>
        rw [hresult] at happlied
        cases happlied
    | ok application =>
        rw [hresult] at happlied
        exact if_pos (Option.some.inj happlied)
  exact ⟨happlies, (applies_at_most_once movedSession).2 [] _ _ "s" happlies .standard calm⟩

end Session

end Reconcile
