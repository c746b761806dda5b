import Reconcile.Proofs.SingleApplication

/-!
# What an engine has learned

An engine changes the rate of a strategy only once the outcome is in the store. So between calls its rates
are those that come of the stored outcomes, one after another, and an engine that is started anew on the
store comes to the same. What is learned of one strategy does not depend on what became of others.
-/

namespace Reconcile

variable {κ ν : Type}

/-- What became of a strategy, in the order in which it was recorded. -/
def resultsOf (strategy : String) (outcomes : List Outcome) : List Bool :=
  (outcomes.filter (·.strategy = strategy)).map (·.succeeded)

variable [Scalar ν]

namespace Rates

theorem rate_put (rates : Rates ν) (strategy : String) (rate : ν) (other : String) :
    (rates.put strategy rate).rate other = if other = strategy then rate else rates.rate other := by
  unfold Rates.rate put
  by_cases hsame : other = strategy
  · simp [hsame]
  · rw [List.lookup_cons, beq_false_of_ne hsame, if_neg hsame, lookup_filter_ne rates hsame]

theorem rate_record (rates : Rates ν) (strategy : String) (succeeded : Bool) (other : String) :
    (rates.record strategy succeeded).rate other =
      if other = strategy then next (rates.rate strategy) succeeded else rates.rate other :=
  rates.rate_put strategy _ other

/-- The rates after some outcomes, one after another. -/
def learn (rates : Rates ν) (outcomes : List Outcome) : Rates ν :=
  outcomes.foldl (fun rates outcome => rates.record outcome.strategy outcome.succeeded) rates

theorem learn_append (rates : Rates ν) (first later : List Outcome) :
    rates.learn (first ++ later) = (rates.learn first).learn later :=
  List.foldl_append

theorem rate_learn (rates : Rates ν) (outcomes : List Outcome) (strategy : String) :
    (rates.learn outcomes).rate strategy =
      (resultsOf strategy outcomes).foldl next (rates.rate strategy) := by
  induction outcomes generalizing rates with
  | nil => rfl
  | cons outcome rest ih =>
      have hrest : (rates.learn (outcome :: rest)).rate strategy =
          (resultsOf strategy rest).foldl next
            ((rates.record outcome.strategy outcome.succeeded).rate strategy) := ih _
      rw [hrest, rate_record]
      by_cases hsame : outcome.strategy = strategy
      · simp [resultsOf, hsame]
      · simp [resultsOf, hsame, Ne.symm hsame]

end Rates

namespace Store

variable {store after : Store ν}

theorem outcomes_of_create {draft : Draft ν} {id : String} {time : Timestamp} {suggestion : Suggestion ν}
    (h : store.create draft id time = .ok (suggestion, after)) :
    after.outcomes = store.outcomes := by
  obtain ⟨rows, -, -, -, rfl⟩ := exists_rows_of_create h
  rfl

omit [Scalar ν] in
theorem outcomes_of_mark {id : String} {isRollback : Bool} {time : Timestamp}
    (h : store.mark id isRollback time = .ok after) : after.outcomes = store.outcomes := by
  obtain ⟨rows, -, hchange⟩ := bind_eq_ok_iff.mp h
  split at hchange
  · cases hchange
  · obtain rfl := Except.ok.inj hchange
    rfl

end Store

open Course

namespace Engine

variable {engine : Engine κ ν} {settings : Settings ν} {chain : Chain} {reader : Outline.Reader κ}
  {store : Store ν}

theorem rates_foldl_record (scorer : Scorer κ ν) (outcomes : List Outcome) :
    (outcomes.foldl (fun scorer outcome => scorer.record outcome.strategy outcome.succeeded) scorer).rates =
      scorer.rates.learn outcomes := by
  induction outcomes generalizing scorer with
  | nil => rfl
  | cons outcome rest ih => exact ih (scorer.record outcome.strategy outcome.succeeded)

/-- An engine can be started wherever outcomes can be stored, and has learned from them. -/
theorem exists_start_of_outcomes {outcomes : List Outcome} (h : store.outcomes = some outcomes) :
    ∃ engine, start settings chain reader store = .ok engine ∧
      engine.scorer.rates = (Rates.configured settings.scoring.successRates).learn outcomes := by
  refine ⟨_, bind_eq_ok_iff.mpr ⟨outcomes, ?_, rfl⟩, rates_foldl_record _ outcomes⟩
  rw [Store.history, h]
  rfl

theorem outcomes_of_start (h : start settings chain reader store = .ok engine) :
    ∃ outcomes, store.outcomes = some outcomes := by
  obtain ⟨outcomes, hhistory, -⟩ := bind_eq_ok_iff.mp h
  refine ⟨outcomes, ?_⟩
  unfold Store.history at hhistory
  cases hstored : store.outcomes with
  | none =>
      rw [hstored] at hhistory
      cases hhistory
  | some stored =>
      rw [hstored] at hhistory
      exact congrArg some (Except.ok.inj hhistory)

/-- Nothing is learned from an outcome that could not be stored. -/
theorem ensures_report (engine : Engine κ ν) (strategy : String) (succeeded : Bool) (env : Environment ν)
    {outcomes : List Outcome} (h : env.store.outcomes = some outcomes) :
    Ensures (engine.report strategy succeeded) env fun result after => match result with
      | .ok (_, learned) => after.store.outcomes = some (outcomes ++ [⟨strategy, succeeded⟩]) ∧
          learned = { engine with scorer := engine.scorer.record strategy succeeded }
      | .error _ => after.store.outcomes = some outcomes := by
  refine ensures_bind (ensures_onStore (fun _ => h) fun _ recorded hrecord => ?_)
  obtain ⟨after, hafter, heq⟩ := map_eq_ok_iff.mp hrecord
  obtain ⟨-, rfl⟩ := Prod.mk.inj heq
  obtain ⟨found, hfound, hstored⟩ := bind_eq_ok_iff.mp hafter
  rw [h] at hfound
  obtain rfl := Except.ok.inj hfound
  obtain rfl := Except.ok.inj hstored
  exact ensures_pure ⟨rfl, rfl⟩

end Engine

/-- Where the call starts another engine, that one has the same settings. -/
def Call.Retains (call : Call κ ν) (settings : Settings ν) : Prop :=
  ∀ other chain reader, call.request = .reopen other chain reader → other = settings

namespace Session

open Engine

variable {session : Session κ ν} {settings : Settings ν} {outcomes : List Outcome}

/-- The outcome that a call says it has recorded. -/
def records? (session : Session κ ν) (call : Call κ ν) : Option Outcome :=
  match call.request with
  | .report strategy succeeded =>
    match (session.engine.report strategy succeeded (session.environment call.circumstances)).1 with
    | .ok _ => some ⟨strategy, succeeded⟩
    | .error _ => none
  | _ => none

/-- The outcomes that calls say they have recorded. -/
def recorded : Session κ ν → List (Call κ ν) → List Outcome
  | _, [] => []
  | session, call :: rest => (session.records? call).toList ++ (session.step call).recorded rest

/-- The engine has learned from the outcomes in the store, in their order, and from no others. -/
structure HasLearned (session : Session κ ν) (settings : Settings ν) (outcomes : List Outcome) : Prop where
  stored : session.store.outcomes = some outcomes
  rates : session.engine.scorer.rates = (Rates.configured settings.scoring.successRates).learn outcomes

/-- A call that records nothing changes nothing that has been learned. -/
theorem HasLearned.of_unrecorded {other : Session κ ν} {call : Call κ ν}
    (h : session.HasLearned settings outcomes) (hcall : session.records? call = none)
    (hengine : other.engine.scorer.rates = session.engine.scorer.rates)
    (hstore : other.store.outcomes = some outcomes) :
    other.HasLearned settings (outcomes ++ (session.records? call).toList) := by
  rw [hcall, Option.toList_none, List.append_nil]
  exact ⟨hstore, hengine.trans h.rates⟩

theorem hasLearned_step (h : session.HasLearned settings outcomes) {call : Call κ ν}
    (hcall : call.Retains settings) :
    (session.step call).HasLearned settings (outcomes ++ (session.records? call).toList) := by
  rcases call with ⟨request, circumstances⟩
  have henv : (session.environment circumstances).store.outcomes = some outcomes := h.stored
  cases request with
  | report strategy succeeded =>
      have hreport := session.engine.ensures_report strategy succeeded _ henv
      rcases hrun : session.engine.report strategy succeeded (session.environment circumstances) with
        ⟨error | ⟨rate, learned⟩, after⟩
      · have hstored := hreport.of_eq hrun
        have hnone : session.records? ⟨.report strategy succeeded, circumstances⟩ = none := by
          simp only [records?, hrun]
        refine h.of_unrecorded hnone ?_ ?_
        · simp only [step, hrun, left]
        · simpa only [step, hrun, left] using hstored
      · obtain ⟨hstored, rfl⟩ := hreport.of_eq hrun
        simp only [step, records?, hrun, Option.toList_some]
        refine ⟨hstored, ?_⟩
        rw [Rates.learn_append, ← h.rates]
        rfl
  | generate factors repository conflict most =>
      have hkept : (session.engine.generate factors repository conflict most).Preserves
          fun _ store _ => store.outcomes = some outcomes :=
        preserves_generate (fun _ _ _ _ _ _ _ hbefore hcreate =>
          (Store.outcomes_of_create hcreate).trans hbefore) _ _ _ _ _
      exact h.of_unrecorded rfl rfl (hkept _ henv)
  | apply id options =>
      have hkept : Ensures (session.engine.apply id options) (session.environment circumstances)
          fun _ after => after.store.outcomes = some outcomes :=
        ensures_apply_store (·.outcomes = some outcomes)
          (fun _ _ _ _ hbefore hmark => (Store.outcomes_of_mark hmark).trans hbefore) henv
      exact h.of_unrecorded rfl rfl hkept
  | validate id =>
      have hunmoved := ensures_validate id (session.environment circumstances)
      exact h.of_unrecorded rfl rfl ((congrArg (·.outcomes) hunmoved.store).trans henv)
  | list filter => exact h.of_unrecorded rfl rfl henv
  | edit disk => exact h.of_unrecorded rfl rfl henv
  | reopen other chain reader =>
      obtain rfl := hcall other chain reader rfl
      obtain ⟨engine, hstart, hrates⟩ : ∃ engine, start other chain reader session.store = .ok engine ∧ _ :=
        exists_start_of_outcomes h.stored
      refine h.of_unrecorded rfl ?_ ?_
      · simp only [step, hstart, hrates, h.rates]
      · simp only [step, hstart, h.stored]

theorem hasLearned_after (h : session.HasLearned settings outcomes) {calls : List (Call κ ν)}
    (hcalls : ∀ call ∈ calls, call.Retains settings) :
    (session.after calls).HasLearned settings (outcomes ++ session.recorded calls) := by
  induction calls generalizing session outcomes with
  | nil =>
      rw [recorded, List.append_nil]
      exact h
  | cons call rest ih =>
      rw [List.forall_mem_cons] at hcalls
      rw [recorded, ← List.append_assoc]
      exact ih (hasLearned_step h hcalls.1) hcalls.2

/-- Between calls the rates of an engine are those of an engine that is started anew on the store. They
come of the outcomes that were stored before and those that calls have recorded, and the rate of a strategy
of what became of that strategy alone. -/
theorem rates_of_history {chain : Chain} {reader : Outline.Reader κ} {calls : List (Call κ ν)}
    (hstart : start settings chain reader session.store = .ok session.engine)
    (hcalls : ∀ call ∈ calls, call.Retains settings) :
    ∃ before, session.store.history = .ok before ∧
      (session.after calls).store.history = .ok (before ++ session.recorded calls) ∧
      (∀ chain reader, ∃ fresh : Engine κ ν,
        start settings chain reader (session.after calls).store = .ok fresh ∧
          ∀ strategy, (session.after calls).engine.scorer.rates.rate strategy =
            fresh.scorer.rates.rate strategy) ∧
      ∀ strategy, (session.after calls).engine.scorer.rates.rate strategy =
        (resultsOf strategy (before ++ session.recorded calls)).foldl Rates.next
          ((Rates.configured settings.scoring.successRates).rate strategy) := by
  obtain ⟨before, hbefore⟩ := outcomes_of_start hstart
  have hfirst : session.HasLearned settings before := by
    obtain ⟨engine, hengine, hrates⟩ := exists_start_of_outcomes hbefore
    obtain rfl := Except.ok.inj (hstart.symm.trans hengine)
    exact ⟨hbefore, hrates⟩
  have hlast := hasLearned_after hfirst hcalls
  refine ⟨before, by simp [Store.history, hbefore], by simp [Store.history, hlast.stored], ?_, ?_⟩
  · intro chain reader
    obtain ⟨fresh, hfresh, hrates⟩ := exists_start_of_outcomes hlast.stored
    refine ⟨fresh, hfresh, fun strategy => ?_⟩
    rw [hlast.rates, hrates]
  · intro strategy
    rw [hlast.rates, Rates.rate_learn]

/-- Of three outcomes of one strategy the second cannot be stored; then another engine is started. -/
def restarted : List (Call String Rat) := [
  ⟨.report "Fallback" true, calm⟩,
  ⟨.report "Fallback" false, { calm with faults := fun _ => some (.store .refused) }⟩,
  ⟨.report "Other" false, calm⟩,
  ⟨.reopen .standard .standard silentReader, calm⟩,
  ⟨.report "Fallback" false, calm⟩]

theorem rates_of_history_restarted :
    start .standard .standard silentReader movedSession.store = .ok movedSession.engine ∧
      (∀ call ∈ restarted, call.Retains .standard) ∧
        (movedSession.after restarted).engine.scorer.rates.rate "Fallback" = 0.9 * (0.9 * 0.4 + 0.1) := by
  have hstart : start .standard .standard silentReader movedSession.store = .ok movedSession.engine := rfl
  have hcalls : ∀ call ∈ restarted, call.Retains .standard := by
    simp [restarted, Call.Retains]
  refine ⟨hstart, hcalls, ?_⟩
  obtain ⟨before, hbefore, -, -, hrate⟩ := rates_of_history hstart hcalls
  obtain rfl : [] = before := Except.ok.inj hbefore
  have hresults : resultsOf "Fallback" ([] ++ movedSession.recorded restarted) = [true, false] := by cbv
  have hseed : Rates.rate (.configured []) "Fallback" = (0.40 : Rat) := rfl
  calc (movedSession.after restarted).engine.scorer.rates.rate "Fallback"
      = Rates.next (Rates.next (Rates.rate (.configured []) "Fallback") true) false := by
        rw [hrate, hresults]
        rfl
    _ = 0.9 * (0.9 * 0.4 + 0.1) := by
        rw [hseed]
        norm_num [Rates.next, Rates.retained, unitOf]

end Session

end Reconcile
