import Reconcile.Proofs.Staleness

/-!
# The suggestions of a batch

A strategy that is tried resolves the conflict, leaves it to others, or fails. What a run keeps and gives
is said from these answers and from the clock and the ids it finds, by following the strategies once. The
chain's own way of resolving a conflict follows the same strategies, and is compared with a run for one
suggestion through their answers as well.
-/

namespace Reconcile

variable {κ ν : Type}

/-! ### Answers -/

namespace Strategy

/-- A resolution, or nothing where the strategy declines or is too late. -/
def answer (strategy : Strategy) (conflict : Conflict) : Except FixError (Option Resolution) :=
  match strategy.attempt conflict with
  | .resolved resolution => .ok (some resolution)
  | .declined _ | .late _ => .ok none
  | .failed detail => .error (.failed (strategy.label conflict) detail)
  | .aborted => .error (.aborted strategy.name)

/-- The strategies that resolve a conflict, each with its resolution. -/
def successes (conflict : Conflict) (strategies : List Strategy) : List (Strategy × Resolution) :=
  strategies.filterMap fun strategy => (strategy.answer conflict).toOption.join.map (strategy, ·)

/-- A strategy is tried after others, of which none failed and fewer than `most` resolved the conflict. -/
structure Reaches (conflict : Conflict) (most : Nat) (strategies before : List Strategy)
    (strategy : Strategy) : Prop where
  split : ∃ after, strategies = before ++ strategy :: after
  room : (successes conflict before).length < most
  answered : ∀ other ∈ before, (other.answer conflict).isOk

def Fails (conflict : Conflict) (most : Nat) (strategies : List Strategy) (error : FixError) : Prop :=
  ∃ before strategy, Reaches conflict most strategies before strategy ∧
    strategy.answer conflict = .error error

variable {conflict : Conflict} {most : Nat} {strategies before rest : List Strategy}
  {head strategy : Strategy} {resolution : Resolution} {error : FixError}

theorem successes_cons (head : Strategy) (rest : List Strategy) :
    successes conflict (head :: rest) = successes conflict [head] ++ successes conflict rest := by
  rw [← List.singleton_append, successes, List.filterMap_append]
  rfl

theorem successes_of_none (h : head.answer conflict = .ok none) : successes conflict [head] = [] := by
  simp [successes, h, Except.toOption]

theorem successes_of_some (h : head.answer conflict = .ok (some resolution)) :
    successes conflict [head] = [(head, resolution)] := by
  simp [successes, h, Except.toOption]

theorem not_reaches_nil : ¬Reaches conflict most [] before strategy := by
  rintro ⟨⟨after, hsplit⟩, -, -⟩
  simp at hsplit

theorem reaches_cons_iff : Reaches conflict most (head :: rest) before strategy ↔
    (0 < most ∧ before = [] ∧ strategy = head) ∨ ∃ others, before = head :: others ∧
      (head.answer conflict).isOk ∧
        Reaches conflict (most - (successes conflict [head]).length) rest others strategy := by
  have hcount (others : List Strategy) : (successes conflict (head :: others)).length =
      (successes conflict [head]).length + (successes conflict others).length := by
    rw [successes_cons, List.length_append]
  constructor
  · rintro ⟨⟨after, hsplit⟩, hroom, hanswered⟩
    cases before with
    | nil =>
        obtain ⟨rfl, -⟩ := List.cons.inj hsplit
        exact .inl ⟨hroom, rfl, rfl⟩
    | cons other others =>
        obtain ⟨rfl, rfl⟩ := List.cons.inj hsplit
        rw [List.forall_mem_cons] at hanswered
        rw [hcount] at hroom
        exact .inr ⟨others, rfl, hanswered.1, ⟨after, rfl⟩, by omega, hanswered.2⟩
  · rintro (⟨hroom, rfl, rfl⟩ | ⟨others, rfl, hhead, ⟨after, rfl⟩, hroom, hanswered⟩)
    · exact ⟨⟨rest, rfl⟩, hroom, by simp⟩
    · refine ⟨⟨after, rfl⟩, ?_, List.forall_mem_cons.mpr ⟨hhead, hanswered⟩⟩
      rw [hcount]
      omega

theorem not_fails_nil : ¬Fails conflict most [] error :=
  fun ⟨_, _, hreaches, _⟩ => not_reaches_nil hreaches

theorem not_fails_zero : ¬Fails conflict 0 strategies error :=
  fun ⟨_, _, hreaches, _⟩ => Nat.not_lt_zero _ hreaches.room

theorem fails_cons_of_ok {answer : Option Resolution} (h : head.answer conflict = .ok answer) :
    Fails conflict most (head :: rest) error ↔
      Fails conflict (most - (successes conflict [head]).length) rest error := by
  constructor
  · rintro ⟨before, strategy, hreaches, herror⟩
    rcases reaches_cons_iff.mp hreaches with ⟨-, -, rfl⟩ | ⟨others, -, -, hothers⟩
    · cases h.symm.trans herror
    · exact ⟨others, strategy, hothers, herror⟩
  · rintro ⟨others, strategy, hothers, herror⟩
    have hhead : (head.answer conflict).isOk := by rw [h]; rfl
    exact ⟨head :: others, strategy, reaches_cons_iff.mpr (.inr ⟨others, rfl, hhead, hothers⟩), herror⟩

theorem fails_cons_of_error {other : FixError} (h : head.answer conflict = .error error) :
    Fails conflict (most + 1) (head :: rest) other ↔ other = error := by
  constructor
  · rintro ⟨before, strategy, hreaches, hother⟩
    rcases reaches_cons_iff.mp hreaches with ⟨-, -, rfl⟩ | ⟨others, -, hhead, -⟩
    · exact Except.error.inj (hother.symm.trans h)
    · rw [h] at hhead
      cases hhead
  · rintro rfl
    exact ⟨[], head, reaches_cons_iff.mpr (.inl ⟨Nat.succ_pos most, rfl, rfl⟩), h⟩

theorem Fails.unique {other : FixError} (h : Fails conflict most strategies error)
    (hother : Fails conflict most strategies other) : error = other := by
  induction strategies generalizing most with
  | nil => exact absurd h not_fails_nil
  | cons head rest ih =>
      cases most with
      | zero => exact absurd h not_fails_zero
      | succ most =>
          cases hanswer : head.answer conflict with
          | error cause =>
              rw [fails_cons_of_error hanswer] at h hother
              rw [h, hother]
          | ok answer =>
              rw [fails_cons_of_ok hanswer] at h hother
              exact ih h hother

end Strategy

/-! ### Rows -/

section Rows

variable [Scalar ν]

def Store.add (store : Store ν) (suggestions : List (Suggestion ν)) : Store ν :=
  { store with suggestions := store.suggestions.map (· ++ suggestions.map .ofSuggestion) }

theorem Store.add_nil (store : Store ν) : store.add [] = store := by
  simp [add]

theorem Store.add_add (store : Store ν) (suggestions others : List (Suggestion ν)) :
    (store.add suggestions).add others = store.add (suggestions ++ others) := by
  simp [add, Function.comp_def]

/-- Suggestions have been kept, each with an id and a time of its own, and nothing has failed. -/
structure Environment.Gains (env : Environment ν) (suggestions : List (Suggestion ν))
    (after : Environment ν) : Prop where
  store : after.store = env.store.add suggestions
  hasTable : suggestions = [] ∨ env.store.suggestions.isSome
  clock : after.clock = env.clock
  readings : after.readings = env.readings + suggestions.length
  ids : after.ids = env.ids
  issued : after.issued = env.issued + suggestions.length
  failures : after.failures = env.failures

namespace Environment.Gains

variable {env middle after : Environment ν} {suggestions others : List (Suggestion ν)}

theorem refl (env : Environment ν) : env.Gains [] env :=
  ⟨env.store.add_nil.symm, .inl rfl, rfl, rfl, rfl, rfl, rfl⟩

theorem append (h : env.Gains suggestions middle) (h' : middle.Gains others after) :
    env.Gains (suggestions ++ others) after where
  store := by rw [h'.store, h.store, Store.add_add]
  hasTable := by
    have hsame : middle.store.suggestions.isSome = env.store.suggestions.isSome := by
      rw [h.store, Store.add, Option.isSome_map]
    rcases h'.hasTable with rfl | hsome
    · rw [List.append_nil]
      exact h.hasTable
    · exact .inr (hsame ▸ hsome)
  clock := h'.clock.trans h.clock
  readings := by
    rw [h'.readings, h.readings, List.length_append]
    omega
  ids := h'.ids.trans h.ids
  issued := by
    rw [h'.issued, h.issued, List.length_append]
    omega
  failures := h'.failures.trans h.failures

end Environment.Gains

end Rows

open Course Strategy

namespace Engine

variable [Scalar ν] {engine : Engine κ ν} {factors : Factors ν → Json} {repository : String}
  {conflict : Conflict} {env : Environment ν}

def suggestionsOf (engine : Engine κ ν) (factors : Factors ν → Json) (repository : String)
    (conflict : Conflict) (env : Environment ν) (resolved : List (Strategy × Resolution)) :
    List (Suggestion ν) :=
  resolved.mapIdx fun n (strategy, resolution) =>
    Store.suggestionOf (engine.draft factors repository conflict strategy resolution)
      (env.ids (env.issued + n)) (env.clock (env.readings + n))

theorem suggestionsOf_append {middle : Environment ν} {resolved : List (Strategy × Resolution)}
    (h : env.Gains (engine.suggestionsOf factors repository conflict env resolved) middle)
    (others : List (Strategy × Resolution)) :
    engine.suggestionsOf factors repository conflict env (resolved ++ others) =
      engine.suggestionsOf factors repository conflict env resolved ++
        engine.suggestionsOf factors repository conflict middle others := by
  have hissued : middle.issued = env.issued + resolved.length := by
    rw [h.issued, suggestionsOf, List.length_mapIdx]
  have hreadings : middle.readings = env.readings + resolved.length := by
    rw [h.readings, suggestionsOf, List.length_mapIdx]
  simp only [suggestionsOf, List.mapIdx_append, h.ids, h.clock, hissued, hreadings, Nat.add_assoc,
    Nat.add_comm resolved.length]

theorem ensures_keep (draft : Draft ν) (env : Environment ν) :
    Ensures (keep draft) env fun result after => match result with
      | .ok suggestion => env.Gains [suggestion] after ∧
          suggestion = Store.suggestionOf draft (env.ids env.issued) (env.clock env.readings)
      | .error _ => after.store = env.store ∧ after.failures = .create :: env.failures := by
  refine ensures_bind (ensures_freshId (ensures_bind (ensures_now ?_)))
  refine ensures_onStore (fun error => ⟨rfl, rfl⟩) fun suggestion store hcreate => ?_
  obtain ⟨rows, hrows, -, rfl, rfl⟩ := Store.exists_rows_of_create hcreate
  dsimp only at hrows
  refine ⟨⟨?_, .inr (by simp [hrows]), rfl, rfl, rfl, rfl, rfl⟩, rfl⟩
  simp [Store.add, hrows]

theorem collect_cons (engine : Engine κ ν) (room : Nat) (strategy : Strategy) (rest : List Strategy) :
    engine.collect factors repository conflict (room + 1) (strategy :: rest) =
      match strategy.answer conflict with
      | .error error => throw error
      | .ok none => engine.collect factors repository conflict (room + 1) rest
      | .ok (some resolution) => do
        let first ← keep (engine.draft factors repository conflict strategy resolution)
        return first :: (← engine.collect factors repository conflict room rest) := by
  rw [collect, answer]
  cases strategy.attempt conflict <;> rfl

theorem collect_zero (engine : Engine κ ν) (strategies : List Strategy) :
    engine.collect factors repository conflict 0 strategies = return [] := by
  cases strategies <;> rfl

/-- A run ends at a strategy that fails, or whose suggestion cannot be kept, with the suggestions of the
strategies before it kept. -/
def Stops (engine : Engine κ ν) (factors : Factors ν → Json) (repository : String)
    (conflict : Conflict) (most : Nat) (strategies : List Strategy) (env : Environment ν)
    (error : FixError) (after : Environment ν) : Prop :=
  ∃ before strategy middle, Reaches conflict most strategies before strategy ∧
    env.Gains (engine.suggestionsOf factors repository conflict env (successes conflict before))
      middle ∧
    (strategy.answer conflict = .error error ∧ after = middle ∨
      ∃ resolution, strategy.answer conflict = .ok (some resolution) ∧
        keep (engine.draft factors repository conflict strategy resolution) middle =
          (.error error, after))

def Collects (engine : Engine κ ν) (factors : Factors ν → Json) (repository : String)
    (conflict : Conflict) (most : Nat) (strategies : List Strategy) (env : Environment ν) :
    Except FixError (List (Suggestion ν)) → Environment ν → Prop
  | .ok found, after => (∀ error, ¬Fails conflict most strategies error) ∧ env.Gains found after ∧
      found = engine.suggestionsOf factors repository conflict env
        ((successes conflict strategies).take most)
  | .error error, after => engine.Stops factors repository conflict most strategies env error after

section Cons

variable {head : Strategy} {rest : List Strategy} {answer : Option Resolution} {most : Nat}
  {resolved : List (Strategy × Resolution)} {middle after : Environment ν}
  {result : Except FixError (List (Suggestion ν))}

theorem Collects.cons (hhead : head.answer conflict = .ok answer)
    (hresolved : successes conflict [head] = resolved) (hmost : resolved.length ≤ most)
    (hgains : env.Gains (engine.suggestionsOf factors repository conflict env resolved) middle)
    (h : engine.Collects factors repository conflict (most - resolved.length) rest middle result
      after) :
    engine.Collects factors repository conflict most (head :: rest) env
      (result.map (engine.suggestionsOf factors repository conflict env resolved ++ ·)) after := by
  subst hresolved
  cases result with
  | ok found =>
      obtain ⟨hfails, hlater, hfound⟩ := h
      refine ⟨fun error herror => ?_, hgains.append hlater, ?_⟩
      · rw [fails_cons_of_ok hhead] at herror
        exact hfails error herror
      · rw [successes_cons head rest, List.take_append, List.take_of_length_le hmost,
          suggestionsOf_append hgains, hfound]
  | error error =>
      obtain ⟨before, strategy, last, hreaches, hlater, hcause⟩ := h
      have hisOk : (head.answer conflict).isOk := by rw [hhead]; rfl
      refine ⟨head :: before, strategy, last,
        reaches_cons_iff.mpr (.inr ⟨before, rfl, hisOk, hreaches⟩), ?_, hcause⟩
      rw [successes_cons head before, suggestionsOf_append hgains]
      exact hgains.append hlater

end Cons

theorem ensures_collect (engine : Engine κ ν) (most : Nat) (strategies : List Strategy)
    (env : Environment ν) :
    Ensures (engine.collect factors repository conflict most strategies) env
      (engine.Collects factors repository conflict most strategies env) := by
  -- What is kept moves the clock and the ids on, so the rest is tried in an environment of its own.
  induction strategies generalizing most env with
  | nil =>
      have hnil : engine.collect factors repository conflict most [] = return [] := by
        cases most <;> rfl
      rw [hnil]
      exact ensures_pure ⟨fun _ => not_fails_nil, .refl env, by simp [successes, suggestionsOf]⟩
  | cons head rest ih =>
      cases most with
      | zero =>
          rw [collect_zero]
          exact ensures_pure ⟨fun _ => not_fails_zero, .refl env, rfl⟩
      | succ room =>
          have hfirst : Reaches conflict (room + 1) (head :: rest) [] head :=
            reaches_cons_iff.mpr (.inl ⟨Nat.succ_pos room, rfl, rfl⟩)
          rw [collect_cons]
          cases hanswer : head.answer conflict with
          | error error =>
              exact ensures_throw ⟨[], head, env, hfirst, .refl env, .inl ⟨hanswer, rfl⟩⟩
          | ok answer =>
              cases answer with
              | none =>
                  have hresolved := successes_of_none hanswer
                  refine (ih (room + 1) env).mono ?_
                  rintro (error | found) after hrest
                  · exact Collects.cons hanswer hresolved (Nat.zero_le _) (.refl env) hrest
                  · exact Collects.cons hanswer hresolved (Nat.zero_le _) (.refl env) hrest
              | some resolution =>
                  have hresolved := successes_of_some hanswer
                  refine ensures_bind_of_eq (fun error after hkeep =>
                    ⟨[], head, env, hfirst, .refl env, .inr ⟨resolution, hanswer, hkeep⟩⟩) ?_
                  intro first middle hkeep
                  obtain ⟨hgains, rfl⟩ := (ensures_keep _ env).of_eq hkeep
                  refine ensures_bind ((ih room middle).mono ?_)
                  rintro (error | found) after hrest
                  · exact Collects.cons hanswer hresolved (Nat.succ_pos room) hgains hrest
                  · exact ensures_pure
                      (Collects.cons hanswer hresolved (Nat.succ_pos room) hgains hrest)

theorem collect_append (engine : Engine κ ν) {room : Nat} {before : List Strategy}
    (h : room ≤ (successes conflict before).length) (rest : List Strategy) :
    engine.collect factors repository conflict room (before ++ rest) =
      engine.collect factors repository conflict room before := by
  induction before generalizing room with
  | nil =>
      obtain rfl : room = 0 := Nat.le_zero.mp h
      rw [collect_zero, collect_zero]
  | cons head before ih =>
      cases room with
      | zero => rw [collect_zero, collect_zero]
      | succ room =>
          rw [successes_cons, List.length_append] at h
          rw [List.cons_append, collect_cons, collect_cons]
          cases hanswer : head.answer conflict with
          | error error => rfl
          | ok answer =>
              cases answer with
              | none =>
                  rw [successes_of_none hanswer, List.length_nil] at h
                  exact ih (by omega)
              | some resolution =>
                  rw [successes_of_some hanswer, List.length_singleton] at h
                  dsimp only
                  rw [ih (by omega)]

/-! ### Ranks -/

/-- A list has the suggestions of another one, those with the higher scores first and those with equal
scores in the order of the other. -/
structure Ranks (found kept : List (Suggestion ν)) : Prop where
  perm : found.Perm kept
  descending : found.Pairwise fun a b => Scalar.isAtMost b.confidence a.confidence
  stable : ∀ a b, [a, b].Sublist kept → Scalar.isAtMost b.confidence a.confidence →
    [a, b].Sublist found

theorem ranks_mergeSort (kept : List (Suggestion ν)) :
    Ranks (kept.mergeSort fun a b => Scalar.isAtMost b.confidence a.confidence) kept := by
  -- The descending order is the ascending one turned around.
  have htrans (a b c : Suggestion ν) (hab : Scalar.isAtMost b.confidence a.confidence)
      (hbc : Scalar.isAtMost c.confidence b.confidence) :
      Scalar.isAtMost c.confidence a.confidence := Scalar.isAtMost_trans _ _ _ hbc hab
  have htotal (a b : Suggestion ν) : (Scalar.isAtMost b.confidence a.confidence ||
      Scalar.isAtMost a.confidence b.confidence) = true :=
    Bool.or_eq_true_iff.mpr (Scalar.isAtMost_total _ _)
  exact ⟨kept.mergeSort_perm _, List.pairwise_mergeSort htrans htotal kept,
    fun _ _ hkept hle => List.pair_sublist_mergeSort htrans htotal hle hkept⟩

def batch (engine : Engine κ ν) (factors : Factors ν → Json) (repository : String)
    (conflict : Conflict) (most : Nat) (env : Environment ν) : List (Suggestion ν) :=
  engine.suggestionsOf factors repository conflict env
    ((successes conflict (engine.chain.candidates conflict)).take most)

theorem ensures_generate (engine : Engine κ ν) (factors : Factors ν → Json) (repository : String)
    (conflict : Conflict) (most : Nat) (env : Environment ν) :
    Ensures (engine.generate factors repository conflict most) env fun result after =>
      match result with
      | .ok found => (∀ error, ¬Fails conflict most (engine.chain.candidates conflict) error) ∧
          env.Gains (engine.batch factors repository conflict most env) after ∧
            Ranks found (engine.batch factors repository conflict most env)
      | .error error => engine.Stops factors repository conflict most
          (engine.chain.candidates conflict) env error after := by
  refine ensures_bind ((ensures_collect engine most (engine.chain.candidates conflict) env).mono ?_)
  rintro (error | found) after hcollects
  · exact hcollects
  · obtain ⟨hfails, hgains, rfl⟩ := hcollects
    exact ensures_pure ⟨hfails, hgains, ranks_mergeSort _⟩

end Engine

/-! ### The chain's own way -/

namespace Chain

variable {conflict : Conflict}

theorem tryAll_eq (strategies : List Strategy)
    (hlate : ∀ strategy ∈ strategies, ∀ resolution, strategy.attempt conflict ≠ .late resolution) :
    match tryAll conflict strategies with
    | .resolved resolution => (∀ error, ¬Fails conflict 1 strategies error) ∧
        ∃ strategy, (successes conflict strategies).take 1 = [(strategy, resolution)]
    | .failed strategy detail => Fails conflict 1 strategies (.failed strategy detail)
    | .aborted strategy => Fails conflict 1 strategies (.aborted strategy)
    | .exhausted _ => (∀ error, ¬Fails conflict 1 strategies error) ∧
        successes conflict strategies = [] := by
  induction strategies with
  | nil => exact ⟨fun _ => not_fails_nil, rfl⟩
  | cons head rest ih =>
      rw [List.forall_mem_cons] at hlate
      have hrest := ih hlate.2
      rw [tryAll]
      cases hattempt : head.attempt conflict with
      | resolved resolution =>
          have hanswer : head.answer conflict = .ok (some resolution) := by rw [answer, hattempt]
          refine ⟨fun error herror => ?_, head, ?_⟩
          · rw [fails_cons_of_ok hanswer, successes_of_some hanswer] at herror
            exact not_fails_zero herror
          · rw [successes_cons, successes_of_some hanswer]
            rfl
      | late resolution => exact absurd hattempt (hlate.1 resolution)
      | failed detail => exact (fails_cons_of_error (by rw [answer, hattempt])).mpr rfl
      | aborted => exact (fails_cons_of_error (by rw [answer, hattempt])).mpr rfl
      | declined reason =>
          have hanswer : head.answer conflict = .ok none := by rw [answer, hattempt]
          have hcount : successes conflict (head :: rest) = successes conflict rest := by
            rw [successes_cons, successes_of_none hanswer, List.nil_append]
          have hfails (error : FixError) :
              Fails conflict 1 (head :: rest) error ↔ Fails conflict 1 rest error := by
            rw [fails_cons_of_ok hanswer, successes_of_none hanswer, List.length_nil, Nat.sub_zero]
          simp only [hcount, hfails]
          exact hrest

end Chain

namespace Engine

variable [Scalar ν]

/-- A run for one suggestion gives what resolving the conflict comes to. -/
def Agrees : ChainResult → Except FixError (List (Suggestion ν)) → Prop
  | .resolved resolution, result => ∃ suggestion, result = .ok [suggestion] ∧
      suggestion.resolution = resolution.content ∧ suggestion.explanation = resolution.explanation
  | .failed strategy detail, result => result = .error (.failed strategy detail)
  | .aborted strategy, result => result = .error (.aborted strategy)
  | .exhausted _, result => result = .ok []

/-- What a run does whose steps on the store succeed. -/
structure Selects (engine : Engine κ ν) (factors : Factors ν → Json) (repository : String)
    (conflict : Conflict) (most : Nat) (env : Environment ν) : Prop where
  failed : ∀ error, Fails conflict most (engine.chain.candidates conflict) error →
    (engine.generate factors repository conflict most env).1 = .error error
  succeeded : (∀ error, ¬Fails conflict most (engine.chain.candidates conflict) error) →
    ∃ found, (engine.generate factors repository conflict most env).1 = .ok found ∧
      Ranks found (engine.batch factors repository conflict most env) ∧
        env.Gains (engine.batch factors repository conflict most env)
          (engine.generate factors repository conflict most env).2
  batch_says : (engine.batch factors repository conflict most env).map (fun suggestion =>
        (suggestion.strategy, suggestion.resolution, suggestion.explanation)) =
      ((successes conflict (engine.chain.candidates conflict)).take most).map
        fun (strategy, resolution) => (strategy.name, resolution.content, resolution.explanation)
  beyond : ∀ (chain : Chain) before rest others,
    engine.chain.candidates conflict = before ++ rest → chain.candidates conflict = before ++ others →
      most ≤ (successes conflict before).length →
        { engine with chain }.generate factors repository conflict most env =
          engine.generate factors repository conflict most env
  idle : most = 0 → engine.generate factors repository conflict most env = (.ok [], env)
  agrees : most = 1 → (∀ strategy ∈ engine.chain.candidates conflict, ∀ resolution,
      strategy.attempt conflict ≠ .late resolution) →
    Agrees (engine.chain.resolve conflict) (engine.generate factors repository conflict most env).1

variable {engine : Engine κ ν} {factors : Factors ν → Json} {repository : String}
  {conflict : Conflict} {most : Nat} {env : Environment ν}

theorem map_suggestionsOf (engine : Engine κ ν) (env : Environment ν)
    (resolved : List (Strategy × Resolution)) :
    (engine.suggestionsOf factors repository conflict env resolved).map (fun suggestion =>
        (suggestion.strategy, suggestion.resolution, suggestion.explanation)) =
      resolved.map fun (strategy, resolution) =>
        (strategy.name, resolution.content, resolution.explanation) := by
  rw [suggestionsOf, List.mapIdx_eq_zipIdx_map, List.map_map]
  conv_rhs => rw [← List.zipIdx_map_fst 0 resolved, List.map_map]
  rfl

theorem collect_chain (engine : Engine κ ν) (chain : Chain) (room : Nat) (strategies : List Strategy) :
    { engine with chain }.collect factors repository conflict room strategies =
      engine.collect factors repository conflict room strategies := by
  induction strategies generalizing room with
  | nil => cases room <;> rfl
  | cons head rest ih =>
      cases room with
      | zero => rfl
      | succ room =>
          -- The draft of a suggestion is scored without looking at the chain.
          rw [collect, collect]
          simp only [ih]
          rfl

theorem generate_of_append {chain : Chain} {before rest others : List Strategy}
    (hcandidates : engine.chain.candidates conflict = before ++ rest)
    (hchain : chain.candidates conflict = before ++ others)
    (hroom : most ≤ (successes conflict before).length) :
    { engine with chain }.generate factors repository conflict most =
      engine.generate factors repository conflict most := by
  rw [generate, generate, hcandidates, hchain, collect_chain, collect_append engine hroom,
    collect_append engine hroom]

theorem generate_zero (engine : Engine κ ν) (env : Environment ν) :
    engine.generate factors repository conflict 0 env = (.ok [], env) := by
  have hcollect : engine.collect factors repository conflict 0 (engine.chain.candidates conflict) env =
      (.ok [], env) := by
    rw [collect_zero]
    rfl
  rw [generate, bind_of_ok hcollect, List.mergeSort_nil]
  rfl

theorem generate_cases
    (hstore : (engine.generate factors repository conflict most env).2.failures = env.failures) :
    (∃ error, Fails conflict most (engine.chain.candidates conflict) error ∧
      (engine.generate factors repository conflict most env).1 = .error error) ∨
    (∀ error, ¬Fails conflict most (engine.chain.candidates conflict) error) ∧
      ∃ found, (engine.generate factors repository conflict most env).1 = .ok found ∧
        Ranks found (engine.batch factors repository conflict most env) ∧
          env.Gains (engine.batch factors repository conflict most env)
            (engine.generate factors repository conflict most env).2 := by
  have hgenerate := ensures_generate engine factors repository conflict most env
  rcases hrun : engine.generate factors repository conflict most env with ⟨error | found, after⟩
  · obtain ⟨before, strategy, middle, hreaches, hgains, ⟨hanswer, -⟩ | ⟨resolution, -, hkeep⟩⟩ :=
      hgenerate.of_eq hrun
    · exact .inl ⟨error, ⟨before, strategy, hreaches, hanswer⟩, rfl⟩
    · have hfailed : after.failures = .create :: middle.failures :=
        ((ensures_keep _ middle).of_eq hkeep).2
      rw [hrun, hfailed, hgains.failures] at hstore
      exact absurd hstore (List.cons_ne_self _ _)
  · obtain ⟨hfails, hgains, hranks⟩ := hgenerate.of_eq hrun
    exact .inr ⟨hfails, found, rfl, hranks, hgains⟩

section Storing

variable (hstore : (engine.generate factors repository conflict most env).2.failures = env.failures)

include hstore

theorem generate_eq_error {error : FixError}
    (h : Fails conflict most (engine.chain.candidates conflict) error) :
    (engine.generate factors repository conflict most env).1 = .error error := by
  rcases generate_cases hstore with ⟨cause, hcause, hresult⟩ | ⟨hnone, -⟩
  · rw [hresult, hcause.unique h]
  · exact absurd h (hnone error)

theorem exists_generate_eq_ok
    (h : ∀ error, ¬Fails conflict most (engine.chain.candidates conflict) error) :
    ∃ found, (engine.generate factors repository conflict most env).1 = .ok found ∧
      Ranks found (engine.batch factors repository conflict most env) ∧
        env.Gains (engine.batch factors repository conflict most env)
          (engine.generate factors repository conflict most env).2 := by
  rcases generate_cases hstore with ⟨error, hfails, -⟩ | ⟨-, hgenerate⟩
  · exact absurd hfails (h error)
  · exact hgenerate

end Storing

theorem agrees_resolve
    (hstore : (engine.generate factors repository conflict 1 env).2.failures = env.failures)
    (hlate : ∀ strategy ∈ engine.chain.candidates conflict, ∀ resolution,
      strategy.attempt conflict ≠ .late resolution) :
    Agrees (engine.chain.resolve conflict)
      (engine.generate factors repository conflict 1 env).1 := by
  have hresolve := Chain.tryAll_eq (engine.chain.candidates conflict) hlate
  change Agrees (Chain.tryAll conflict (engine.chain.candidates conflict)) _
  cases hcome : Chain.tryAll conflict (engine.chain.candidates conflict) with
  | failed strategy detail =>
      rw [hcome] at hresolve
      exact generate_eq_error hstore hresolve
  | aborted strategy =>
      rw [hcome] at hresolve
      exact generate_eq_error hstore hresolve
  | resolved resolution =>
      rw [hcome] at hresolve
      obtain ⟨hnone, strategy, hfirst⟩ := hresolve
      obtain ⟨found, hfound, hranks, -⟩ := exists_generate_eq_ok hstore hnone
      have hperm := hranks.perm
      rw [batch, hfirst] at hperm
      obtain rfl := List.perm_singleton.mp hperm
      exact ⟨_, hfound, rfl, rfl⟩
  | exhausted path =>
      rw [hcome] at hresolve
      obtain ⟨hnone, hempty⟩ := hresolve
      obtain ⟨found, hfound, hranks, -⟩ := exists_generate_eq_ok hstore hnone
      have hperm := hranks.perm
      rw [batch, hempty] at hperm
      obtain rfl := List.perm_nil.mp hperm
      exact hfound

/-- A run whose steps on the store succeed fails as the first strategy does that fails while there is
room. Otherwise it keeps what the first strategies give that resolve the conflict, and ranks it. -/
theorem generate_selects (engine : Engine κ ν) (factors : Factors ν → Json) (repository : String)
    (conflict : Conflict) (most : Nat) (env : Environment ν)
    (hstore : (engine.generate factors repository conflict most env).2.failures = env.failures) :
    engine.Selects factors repository conflict most env where
  failed _ := generate_eq_error hstore
  succeeded := exists_generate_eq_ok hstore
  batch_says := map_suggestionsOf engine env _
  beyond chain before rest others hcandidates hchain hroom := by
    rw [generate_of_append hcandidates hchain hroom]
  idle := by
    rintro rfl
    exact generate_zero engine env
  agrees := by
    rintro rfl hlate
    exact agrees_resolve hstore hlate

def scripted (name : String) (attempt : Attempt) : Strategy where
  name
  isTerminal := true
  accepts _ := true
  attempt _ := attempt
  risks _ := []

/-- The strategy with the better success rate comes second, and the one that would fail is not tried. -/
def mixedEngine : Engine String Rat where
  __ := plainEngine
  chain := ⟨[scripted "Careful" (.declined "unsure"), scripted "Fallback" (.resolved ⟨"1\n", "", ""⟩),
    scripted "TrivialMerge" (.resolved ⟨"2\n", "", ""⟩), scripted "Broken" (.failed "boom")], rfl⟩

def numbered : Environment Rat := { moved with ids := fun n => if n = 0 then "a" else "b" }

theorem generate_selects_mixed :
    (mixedEngine.generate (fun _ => .null) "r" formerConflict 2 numbered).2.failures =
        numbered.failures ∧
      mixedEngine.Selects (fun _ => .null) "r" formerConflict 2 numbered := by
  have hstore : (mixedEngine.generate (fun _ => .null) "r" formerConflict 2 numbered).2.failures =
      numbered.failures := by decide +kernel
  exact ⟨hstore, generate_selects mixedEngine (fun _ => .null) "r" formerConflict 2 numbered hstore⟩

end Engine

end Reconcile
