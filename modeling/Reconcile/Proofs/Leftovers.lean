import Reconcile.Proofs.Generating

/-!
# What a failed batch leaves

Suggestions are kept one by one while strategies are tried, and nothing takes them back when a later
strategy fails or a later suggestion cannot be kept. So a run that fails leaves the suggestions of the
strategies it tried before, and leaves the store as it was only if there are none.
-/

namespace Reconcile

variable {κ ν : Type} [Scalar ν]

theorem Store.suggestions_add_iff {store : Store ν} {suggestions : List (Suggestion ν)}
    (h : suggestions = [] ∨ store.suggestions.isSome) :
    (store.add suggestions).suggestions = store.suggestions ↔ suggestions = [] := by
  constructor
  · intro hsame
    rcases h with hnil | hsome
    · exact hnil
    · obtain ⟨rows, hrows⟩ := Option.isSome_iff_exists.mp hsome
      rw [add, hrows, Option.map_some] at hsame
      have hrest : suggestions.map Row.ofSuggestion = [] :=
        List.append_right_eq_self.mp (Option.some.inj hsame)
      exact List.map_eq_nil_iff.mp hrest
  · rintro rfl
    rw [add_nil]

namespace Engine

open Strategy

/-- A run ends at a strategy that fails or whose suggestion cannot be kept. The suggestions of those
before it are in the store, so the store is as it was just if none of them resolved the conflict. -/
structure Leaves (engine : Engine κ ν) (factors : Factors ν → Json) (repository : String)
    (conflict : Conflict) (most : Nat) (env : Environment ν) (error : FixError)
    (before : List Strategy) (strategy : Strategy) (middle after : Environment ν) : Prop where
  reaches : Reaches conflict most (engine.chain.candidates conflict) before strategy
  kept : env.Gains
    (engine.suggestionsOf factors repository conflict env (successes conflict before)) middle
  cause : strategy.answer conflict = .error error ∨
    ∃ resolution, strategy.answer conflict = .ok (some resolution) ∧
      (keep (engine.draft factors repository conflict strategy resolution) middle).1 = .error error
  store : after.store = middle.store
  unchanged_iff : after.store.suggestions = env.store.suggestions ↔ successes conflict before = []

/-- Every run that fails leaves the suggestions of the strategies before its last one. -/
theorem leaves_of_error {engine : Engine κ ν} {factors : Factors ν → Json} {repository : String}
    {conflict : Conflict} {most : Nat} {env : Environment ν} {error : FixError}
    (h : (engine.generate factors repository conflict most env).1 = .error error) :
    ∃ before strategy middle,
      engine.Leaves factors repository conflict most env error before strategy middle
        (engine.generate factors repository conflict most env).2 := by
  have hgenerate := ensures_generate engine factors repository conflict most env
  rcases hrun : engine.generate factors repository conflict most env with ⟨cause | found, after⟩
  · rw [hrun] at h
    obtain rfl := Except.error.inj h
    obtain ⟨before, strategy, middle, hreaches, hgains, hcause⟩ := hgenerate.of_eq hrun
    have hstore : after.store = middle.store := by
      rcases hcause with ⟨-, hafter⟩ | ⟨resolution, -, hkeep⟩
      · rw [hafter]
      · exact ((ensures_keep _ middle).of_eq hkeep).1
    refine ⟨before, strategy, middle, hreaches, hgains, ?_, hstore, ?_⟩
    · rcases hcause with ⟨hanswer, -⟩ | ⟨resolution, hanswer, hkeep⟩
      · exact .inl hanswer
      · exact .inr ⟨resolution, hanswer, congrArg Prod.fst hkeep⟩
    · rw [hstore, hgains.store, Store.suggestions_add_iff hgains.hasTable, suggestionsOf,
        List.mapIdx_eq_nil_iff]
  · rw [hrun] at h
    cases h

/-- The second strategy fails after the first one has resolved the conflict. -/
def failingEngine : Engine String Rat where
  __ := plainEngine
  chain := ⟨[scripted "A" (.resolved ⟨"x\n", "A", "scripted"⟩), scripted "B" (.failed "boom"),
    .fallback], rfl⟩

theorem generate_failing : (failingEngine.generate (fun _ => .null) "r" formerConflict 5 numbered).1 =
    .error (.failed "B" "boom") := by
  have hstore : (failingEngine.generate (fun _ => .null) "r" formerConflict 5 numbered).2.failures =
      numbered.failures := by decide +kernel
  have hreaches : Reaches formerConflict 5 (failingEngine.chain.candidates formerConflict)
      [scripted "A" (.resolved ⟨"x\n", "A", "scripted"⟩)] (scripted "B" (.failed "boom")) :=
    ⟨⟨[.fallback], rfl⟩, by decide, by decide⟩
  exact generate_eq_error hstore ⟨_, _, hreaches, rfl⟩

theorem leaves_of_error_failing :
    (failingEngine.generate (fun _ => .null) "r" formerConflict 5 numbered).1 =
        .error (.failed "B" "boom") ∧
      ∃ before strategy middle,
        failingEngine.Leaves (fun _ => .null) "r" formerConflict 5 numbered (.failed "B" "boom")
          before strategy middle
          (failingEngine.generate (fun _ => .null) "r" formerConflict 5 numbered).2 :=
  ⟨generate_failing, leaves_of_error generate_failing⟩

/-- The row of the first strategy stays. -/
theorem failing_leaves_row :
    (failingEngine.generate (fun _ => .null) "r" formerConflict 5 numbered).1 =
        .error (.failed "B" "boom") ∧
      (failingEngine.generate (fun _ => .null) "r" formerConflict 5 numbered).2.store.suggestions ≠
        numbered.store.suggestions := by
  refine ⟨generate_failing, fun hsame => ?_⟩
  have hrows : (failingEngine.generate (fun _ => .null) "r" formerConflict 5
      numbered).2.store.suggestions.map List.length = some 2 := by decide +kernel
  rw [hsame] at hrows
  exact absurd hrows (by decide)

end Engine

end Reconcile
