import Mathlib.Tactic.Common
import Reconcile.Proofs.Dispatch
import Reconcile.Proofs.Generating

/-!
# The strategy that decides

A chain hands a conflict down its strategies until one takes it over: accepts it and does not decline.
What that strategy comes to is the result, be it a resolution or an error that is not for others to mend.
A terminal strategy that keeps its contract takes every conflict over, so a chain that ends with one has
exactly one deciding strategy for each conflict, and what is listed after it makes no difference.
-/

namespace Reconcile

variable {conflict : Conflict} {strategy : Strategy} {strategies earlier later : List Strategy}
  {chain : Chain}

namespace Strategy

/-- A strategy takes a conflict over, be it to resolve it or to fail on it. -/
def TakesOver (strategy : Strategy) (conflict : Conflict) : Prop :=
  strategy.accepts conflict ∧ ∀ reason, strategy.attempt conflict ≠ .declined reason

/-- The contract of terminal strategies: every conflict is accepted, and none is declined. -/
def KeepsContract (strategy : Strategy) : Prop :=
  strategy.isTerminal → ∀ conflict, strategy.TakesOver conflict

theorem not_passesOn_iff : ¬strategy.PassesOn conflict ↔ strategy.TakesOver conflict := by
  unfold PassesOn TakesOver
  push Not
  rfl

theorem keepsContract_fallback : fallback.KeepsContract :=
  fun _ _ => ⟨rfl, nofun⟩

end Strategy

namespace Chain

/-- A strategy of a list takes a conflict over, and those before it pass it on. -/
structure Decides (conflict : Conflict) (strategies earlier : List Strategy) (strategy : Strategy)
    (later : List Strategy) : Prop where
  split : strategies = earlier ++ strategy :: later
  passed : ∀ other ∈ earlier, other.PassesOn conflict
  taken : strategy.TakesOver conflict

/-! ### Who decides -/

theorem exists_decides (h : ∃ strategy ∈ strategies, strategy.TakesOver conflict) :
    ∃ earlier strategy later, Decides conflict strategies earlier strategy later := by
  induction strategies with
  | nil => simp at h
  | cons first rest ih =>
      by_cases hfirst : first.TakesOver conflict
      · exact ⟨[], first, rest, rfl, by simp, hfirst⟩
      · obtain ⟨strategy, hmem, htaken⟩ := h
        have hrest : strategy ∈ rest := by
          refine (List.mem_cons.mp hmem).resolve_left ?_
          rintro rfl
          exact hfirst htaken
        obtain ⟨earlier, strategy, later, hsplit, hpassed, htaken⟩ := ih ⟨strategy, hrest, htaken⟩
        refine ⟨first :: earlier, strategy, later, by rw [hsplit, List.cons_append], ?_, htaken⟩
        rw [List.forall_mem_cons]
        exact ⟨of_not_not fun h => hfirst (Strategy.not_passesOn_iff.mp h), hpassed⟩

namespace Decides

variable {earlier' later' : List Strategy} {strategy' : Strategy}

theorem not_mem (h : Decides conflict strategies earlier strategy later)
    (h' : Decides conflict strategies earlier' strategy' later') : strategy ∉ earlier' :=
  fun hmem => Strategy.not_passesOn_iff.mpr h.taken (h'.passed strategy hmem)

theorem unique (h : Decides conflict strategies earlier strategy later)
    (h' : Decides conflict strategies earlier' strategy' later') :
    earlier' = earlier ∧ strategy' = strategy ∧ later' = later := by
  have hlists : earlier ++ strategy :: later = earlier' ++ strategy' :: later' :=
    h.split.symm.trans h'.split
  -- The longer of the two beginnings would hold the strategy that decides after the shorter one.
  obtain ⟨middle, hmiddle, hrest⟩ | ⟨middle, hmiddle, hrest⟩ := List.append_eq_append_iff.mp hlists
  · cases middle with
    | nil => simp_all
    | cons first middle =>
        refine absurd ?_ (h.not_mem h')
        rw [hmiddle, (List.cons.inj hrest).1]
        simp
  · cases middle with
    | nil => simp_all
    | cons first middle =>
        refine absurd ?_ (h'.not_mem h)
        rw [hmiddle, (List.cons.inj hrest).1]
        simp

/-- The result is what the deciding strategy alone comes to. -/
theorem resolve_eq (h : Decides conflict chain.strategies earlier strategy later) :
    chain.resolve conflict = tryAll conflict [strategy] := by
  rw [resolve, candidates, h.split, tryAll_filter_append h.passed, List.filter_cons,
    if_pos h.taken.1, tryAll, tryAll]
  cases hattempt : strategy.attempt conflict with
  | declined reason => exact absurd hattempt (h.taken.2 reason)
  | _ => rfl

end Decides

/-! ### A chain that was accepted -/

theorem strategies_of_ofList (h : ofList strategies = .ok chain) : chain.strategies = strategies := by
  unfold ofList at h
  split at h
  · cases h
  · split_ifs at h
    cases h
    rfl

theorem exists_getLast_of_ofList (h : ofList strategies = .ok chain) :
    ∃ last, strategies.getLast? = some last ∧ last.isTerminal := by
  unfold ofList at h
  split at h
  · cases h
  · next last hlast =>
      split_ifs at h with hterminal
      exact ⟨last, hlast, hterminal⟩

/-- A chain whose last strategy keeps its contract never runs out of strategies. Exactly one strategy
decides, the first that accepts the conflict and does not decline, and what it comes to is the result,
whatever is listed after it. -/
theorem resolve_decided (hchain : ofList strategies = .ok chain)
    (hlast : ∀ last ∈ strategies.getLast?, last.KeepsContract) (conflict : Conflict) :
    (∀ path, chain.resolve conflict ≠ .exhausted path) ∧
    ∃ earlier strategy later, Decides conflict strategies earlier strategy later ∧
      (∀ earlier' strategy' later', Decides conflict strategies earlier' strategy' later' →
        earlier' = earlier ∧ strategy' = strategy ∧ later' = later) ∧
      (∀ resolution, chain.resolve conflict = .resolved resolution ↔
        strategy.attempt conflict = .resolved resolution ∨
          strategy.attempt conflict = .late resolution) ∧
      (∀ label detail, chain.resolve conflict = .failed label detail ↔
        strategy.label conflict = label ∧ strategy.attempt conflict = .failed detail) ∧
      (∀ name, chain.resolve conflict = .aborted name ↔
        strategy.name = name ∧ strategy.attempt conflict = .aborted) ∧
      ∀ (other : Chain) (rest : List Strategy), other.strategies = earlier ++ strategy :: rest →
        other.resolve conflict = chain.resolve conflict := by
  obtain ⟨last, hlast?, hterminal⟩ := exists_getLast_of_ofList hchain
  obtain ⟨earlier, strategy, later, hdecides⟩ : ∃ earlier strategy later,
      Decides conflict strategies earlier strategy later :=
    exists_decides ⟨last, List.mem_of_getLast? hlast?, hlast last hlast? hterminal conflict⟩
  have hresult : chain.resolve conflict = tryAll conflict [strategy] := by
    rw [← strategies_of_ofList hchain] at hdecides
    exact hdecides.resolve_eq
  refine ⟨?_, earlier, strategy, later, hdecides, fun _ _ _ => hdecides.unique, ?_, ?_, ?_, ?_⟩
  rotate_right
  · intro other rest hother
    rw [hresult]
    exact Decides.resolve_eq ⟨hother, hdecides.passed, hdecides.taken⟩
  all_goals
    rw [hresult, tryAll]
    cases hattempt : strategy.attempt conflict with
    | declined reason => exact absurd hattempt (hdecides.taken.2 reason)
    | _ => simp

/-- The first strategy declines, the second is for other conflicts, and the third fails. -/
def failingList : List Strategy :=
  [Engine.scripted "Careful" (.declined "unsure"), Strategy.structuralMerge,
    Engine.scripted "Broken" (.failed "boom"), Strategy.fallback]

theorem resolve_decided_failing : ∃ chain, ofList failingList = .ok chain ∧
    (∀ last ∈ failingList.getLast?, last.KeepsContract) ∧
    (∀ path, chain.resolve Engine.formerConflict ≠ .exhausted path) ∧
    chain.resolve Engine.formerConflict = .failed "Broken" "boom" := by
  have hlast : ∀ last ∈ failingList.getLast?, last.KeepsContract := by
    intro last hlast
    obtain rfl : Strategy.fallback = last := by simpa [failingList] using hlast
    exact Strategy.keepsContract_fallback
  have hdecides : Decides Engine.formerConflict failingList (failingList.take 2)
      (Engine.scripted "Broken" (.failed "boom")) [Strategy.fallback] := by
    refine ⟨rfl, ?_, rfl, nofun⟩
    rintro other (_ | ⟨_, _ | ⟨_, hnone⟩⟩)
    · exact fun _ => ⟨"unsure", rfl⟩
    · exact fun haccepts => absurd haccepts (by decide)
    · cases hnone
  refine ⟨⟨failingList, rfl⟩, rfl, hlast, ?_⟩
  obtain ⟨hnever, earlier, strategy, later, -, hunique, -, hfailed, -, -⟩ :=
    resolve_decided rfl hlast Engine.formerConflict
  obtain ⟨-, rfl, -⟩ := hunique _ _ _ hdecides
  exact ⟨hnever, (hfailed _ _).mpr ⟨rfl, rfl⟩⟩

end Chain

end Reconcile
