import Mathlib
import Reconcile.Proofs.Marking

/-!
# The history of a row

Whatever a store is asked for, it changes a row only by marking the suggestion of that row, and it adds a
row only under an id that is free. So a row is what the marks of its id have made of it, and what every
mark keeps is kept for good: the state of a row agrees with its times, and that it was rolled back is not
forgotten.
-/

namespace Reconcile

variable {ν : Type}

/-- What a store is asked for. The clock and the supply of ids are read by whoever asks. -/
inductive Operation (ν : Type) where
  | prepare
  | create (draft : Draft ν) (id : String) (now : Timestamp)
  | mark (id : String) (isRollback : Bool) (now : Timestamp)
  | record (outcome : Outcome)
  | get (id : String)
  | list (filter : SuggestionFilter)
  | history

namespace Operation

/-- The suggestion that an operation makes or marks. -/
def subject? : Operation ν → Option String
  | create _ id _ => some id
  | mark id _ _ => some id
  | _ => none

/-- The mark that an operation leaves on a suggestion: whether it is a rollback, and when. -/
def mark? : Operation ν → String → Option (Bool × Timestamp)
  | mark id isRollback now, other => if id = other then some (isRollback, now) else none
  | _, _ => none

theorem mark?_eq_none {operation : Operation ν} {id : String} (h : operation.subject? ≠ some id) :
    operation.mark? id = none := by
  cases operation with
  | mark other isRollback now => exact if_neg fun heq => h (congrArg some heq)
  | _ => rfl

end Operation

/-! ### One row -/

namespace Row

variable {row : Row ν}

/-- What an operation on its store makes of a row. -/
def through (row : Row ν) (operation : Operation ν) : Row ν :=
  (operation.mark? row.id).elim row fun mark => row.marked mark.1 mark.2

theorem through_of_ne {operation : Operation ν} (h : operation.subject? ≠ some row.id) :
    row.through operation = row := by
  rw [through, Operation.mark?_eq_none h, Option.elim_none]

theorem through_mark (row : Row ν) (id : String) (isRollback : Bool) (now : Timestamp) :
    row.through (.mark id isRollback now) = if row.id = id then row.marked isRollback now else row := by
  rw [through, Operation.mark?]
  by_cases hid : row.id = id
  · rw [if_pos hid, if_pos hid.symm, Option.elim_some]
  · rw [if_neg hid, if_neg (Ne.symm hid), Option.elim_none]

/-- An operation leaves a row as it is, or marks it. -/
theorem through_eq (row : Row ν) (operation : Operation ν) : row.through operation = row ∨
    ∃ mark ∈ operation.mark? row.id, row.through operation = row.marked mark.1 mark.2 := by
  rw [through]
  cases operation.mark? row.id with
  | none => exact .inl rfl
  | some mark => exact .inr ⟨mark, rfl, rfl⟩

@[simp]
theorem id_through (row : Row ν) (operation : Operation ν) : (row.through operation).id = row.id := by
  obtain hsame | ⟨mark, -, hmarked⟩ := row.through_eq operation
  · rw [hsame]
  · rw [hmarked, id_marked]

/-- The state of a row agrees with its times. -/
structure IsConsistent (row : Row ν) : Prop where
  applied : row.status = .applied ↔ row.appliedAt.isSome
  generated : row.status = .generated → row.appliedAt = none ∧ row.rolledBackAt = none
  rolledBack : row.status = .rolledBack → row.appliedAt = none ∧ row.rolledBackAt.isSome

theorem isConsistent_ofSuggestion [Scalar ν] (draft : Draft ν) (id : String) (now : Timestamp) :
    (ofSuggestion (Store.suggestionOf draft id now)).IsConsistent where
  applied := by simp [ofSuggestion, Store.suggestionOf]
  generated _ := ⟨rfl, rfl⟩
  rolledBack := by simp [ofSuggestion]

theorem marked_of_isApplied (h : row.isApplied) (now : Timestamp) : row.marked false now = row := by
  have hsome : row.appliedAt.isNone = false := by simpa [isApplied] using h
  simp [marked, markApplied, hsome]

theorem isConsistent_marked (h : row.IsConsistent) (isRollback : Bool) (now : Timestamp) :
    (row.marked isRollback now).IsConsistent := by
  cases isRollback with
  | true => constructor <;> simp [marked, markRolledBack]
  | false =>
      by_cases happlied : row.isApplied
      · rwa [marked_of_isApplied happlied]
      · have hnone : row.appliedAt = none := by simpa [isApplied] using happlied
        constructor <;> simp [marked, markApplied, hnone]

theorem status_marked (h : row.IsConsistent) (isRollback : Bool) (now : Timestamp) :
    (row.marked isRollback now).status = if isRollback then .rolledBack else .applied := by
  cases isRollback with
  | true => rfl
  | false => exact (isConsistent_marked h false now).applied.mpr (row.isApplied_marked false now)

theorem isSome_rolledBackAt_marked (h : row.rolledBackAt.isSome) (isRollback : Bool) (now : Timestamp) :
    (row.marked isRollback now).rolledBackAt.isSome := by
  unfold marked markRolledBack markApplied
  split_ifs
  · rfl
  · exact h
  · exact h

theorem isConsistent_through (h : row.IsConsistent) (operation : Operation ν) :
    (row.through operation).IsConsistent := by
  obtain hsame | ⟨mark, -, hmarked⟩ := row.through_eq operation
  · rwa [hsame]
  · rw [hmarked]
    exact isConsistent_marked h mark.1 mark.2

/-- What is kept by every mark that operations leave on a row is kept by the operations. -/
theorem foldl_through {p : Row ν → Prop} (h : p row) (operations : List (Operation ν))
    (hmarked : ∀ former, p former → ∀ operation ∈ operations, ∀ mark ∈ operation.mark? row.id,
      p (former.marked mark.1 mark.2)) : p (operations.foldl through row) := by
  induction operations generalizing row with
  | nil => exact h
  | cons operation operations ih =>
      apply ih
      · obtain hsame | ⟨mark, hmark, hthrough⟩ := row.through_eq operation
        · rwa [hsame]
        · rw [hthrough]
          exact hmarked row h operation List.mem_cons_self mark hmark
      · -- The later marks are still those of the row's own id.
        rw [id_through]
        exact fun former hformer later hlater =>
          hmarked former hformer later (List.mem_cons_of_mem operation hlater)

theorem isSome_rolledBackAt_foldl (h : row.rolledBackAt.isSome) (operations : List (Operation ν)) :
    (operations.foldl through row).rolledBackAt.isSome :=
  foldl_through (p := fun row => row.rolledBackAt.isSome) h operations
    fun _ hformer _ _ mark _ => isSome_rolledBackAt_marked hformer mark.1 mark.2

end Row

/-! ### The rows of a store -/

namespace Store

variable {store : Store ν} {id : String} {row : Row ν} {rows : List (Row ν)}

theorem find?_eq_none_iff : find? rows id = none ↔ ∀ row ∈ rows, row.id ≠ id := by
  simp [find?]

theorem mark_eq (h : store.suggestions = some rows) (id : String) (isRollback : Bool)
    (now : Timestamp) : store.mark id isRollback now =
      if (find? rows id).isNone then .error (.notFound "suggestion" id)
      else .ok { store with suggestions := some (rows.map (·.through (.mark id isRollback now))) } := by
  simp only [Row.through_mark]
  rw [mark, change, rows_eq_ok_iff.mpr h]
  rfl

/-- A store that has its rows: each under an id of its own, in a state that agrees with its times. -/
def IsSound (store : Store ν) : Prop :=
  ∃ rows, store.suggestions = some rows ∧ (rows.map Row.id).Nodup ∧ ∀ row ∈ rows, row.IsConsistent

theorem isSound_ready : (ready : Store ν).IsSound := ⟨[], rfl, List.nodup_nil, by simp⟩

theorem mark_of_isApplied (h : store.IsSound) (hrow : store.row? id = some row)
    (happlied : row.isApplied) (now : Timestamp) : store.mark id false now = .ok store := by
  obtain ⟨rows, hrows, hids, -⟩ := h
  have hfind := (row?_eq hrows id).symm.trans hrow
  have hsame : ∀ other ∈ rows, other.through (.mark id false now) = other := by
    intro other hother
    rw [Row.through_mark]
    split_ifs with hid
    · have hmem : row ∈ rows := List.mem_of_find?_eq_some hfind
      obtain rfl : other = row :=
        List.inj_on_of_nodup_map hids hother hmem (hid.trans (id_of_row? hrow).symm)
      exact Row.marked_of_isApplied happlied now
    · rfl
  rw [mark_eq hrows, hfind, List.map_congr_left hsame, List.map_id', ← hrows]
  rfl

theorem mark_of_row? (h : store.IsSound) (hrow : store.row? id = some row) (isRollback : Bool)
    (now : Timestamp) : ∃ after marked, store.mark id isRollback now = .ok after ∧
      after.row? id = some marked ∧ marked.status = if isRollback then .rolledBack else .applied := by
  obtain ⟨rows, hrows, -, hconsistent⟩ := h
  have hfind := (row?_eq hrows id).symm.trans hrow
  have hmark := mark_eq hrows id isRollback now
  rw [hfind, if_neg (by simp)] at hmark
  refine ⟨_, row.marked isRollback now, hmark, ?_, ?_⟩
  · rw [row?_mark hmark, hrow, Option.map_some, if_pos (id_of_row? hrow)]
  · exact Row.status_marked (hconsistent row (List.mem_of_find?_eq_some hfind)) isRollback now

theorem mark_of_row?_eq_none (h : store.IsSound) (hrow : store.row? id = none) (isRollback : Bool)
    (now : Timestamp) : store.mark id isRollback now = .error (.notFound "suggestion" id) := by
  obtain ⟨rows, hrows, -⟩ := h
  rw [row?_eq hrows] at hrow
  rw [mark_eq hrows, hrow]
  rfl

theorem suggestions_migrate {version : Nat} {made : Store ν} (h : store.suggestions = some rows)
    (hmade : store.migrate version = .ok made) : made.suggestions = some rows := by
  unfold migrate at hmade
  split_ifs at hmade <;> cases hmade
  · exact h
  · simp [h]
  · exact h

theorem suggestions_prepare (h : store.suggestions = some rows) :
    store.prepare.2.suggestions = some rows := by
  unfold prepare
  cases hfirst : store.migrate 1 with
  | error error => exact h
  | ok first =>
      have hrows := suggestions_migrate h hfirst
      cases hsecond : first.migrate 2 with
      | error error => simpa [hsecond] using hrows
      | ok second => simpa [hsecond] using suggestions_migrate hrows hsecond

variable [Scalar ν]

/-- The store after an operation; one that fails leaves it as it is. -/
def step (store : Store ν) : Operation ν → Store ν
  | .prepare => store.prepare.2
  | .create draft id now =>
    match store.create draft id now with
    | .ok (_, after) => after
    | .error _ => store
  | .mark id isRollback now => (store.mark id isRollback now).toOption.getD store
  | .record outcome => (store.record outcome).toOption.getD store
  | .get _ | .list _ | .history => store

def after (store : Store ν) (operations : List (Operation ν)) : Store ν := operations.foldl step store

/-- An operation takes every row through it, and may add one that is new. -/
theorem suggestions_step (h : store.suggestions = some rows) (operation : Operation ν) :
    (store.step operation).suggestions = some (rows.map (·.through operation)) ∨
    ∃ draft id now, operation = .create draft id now ∧ find? rows id = none ∧
      (store.step operation).suggestions =
        some (rows ++ [.ofSuggestion (suggestionOf draft id now)]) := by
  have hsame : some rows = some (rows.map id) := by rw [List.map_id]
  cases operation with
  | prepare => exact .inl ((suggestions_prepare h).trans hsame)
  | create draft id now =>
      rw [step]
      cases hcreated : store.create draft id now with
      | error refusal => exact .inl (h.trans hsame)
      | ok created =>
          obtain ⟨suggestion, made⟩ := created
          obtain ⟨found, hfound, hfree, rfl, rfl⟩ := exists_rows_of_create hcreated
          obtain rfl : rows = found := Option.some.inj (h.symm.trans hfound)
          exact .inr ⟨draft, id, now, rfl, hfree, rfl⟩
  | mark id isRollback now =>
      left
      simp only [step, mark_eq h]
      split_ifs with hunknown
      · -- Marking fails, and there is no row that the mark would be on.
        have hnone := find?_eq_none_iff.mp (Option.isNone_iff_eq_none.mp hunknown)
        have hother : ∀ row ∈ rows, row.through (.mark id isRollback now) = row := fun row hrow =>
          Row.through_of_ne fun heq => hnone row hrow (Option.some.inj heq).symm
        rw [List.map_congr_left hother, List.map_id']
        exact h
      · rfl
  | record outcome =>
      left
      refine Eq.trans ?_ hsame
      unfold step record
      cases store.outcomes <;> exact h
  | get id => exact .inl (h.trans hsame)
  | list filter => exact .inl (h.trans hsame)
  | history => exact .inl (h.trans hsame)

theorem row?_step (h : store.row? id = some row) (operation : Operation ν) :
    (store.step operation).row? id = some (row.through operation) := by
  obtain ⟨rows, hrows, hfind⟩ := Option.bind_eq_some_iff.mp h
  obtain hmap | ⟨draft, fresh, now, rfl, -, happend⟩ := suggestions_step hrows operation
  · rw [row?_eq hmap, find?_map fun row => row.id_through operation, hfind, Option.map_some]
  · rw [row?_eq happend, find?, List.find?_append, ← find?, hfind]
    rfl

theorem row?_step_of_ne {operation : Operation ν} (h : store.suggestions = some rows)
    (hother : operation.subject? ≠ some id) : (store.step operation).row? id = store.row? id := by
  obtain hmap | ⟨draft, fresh, now, rfl, -, happend⟩ := suggestions_step h operation
  · rw [row?_eq hmap, row?_eq h, find?_map fun row => row.id_through operation]
    cases hfind : find? rows id with
    | none => rfl
    | some row =>
        have hid : row.id = id := id_of_row? ((row?_eq h id).trans hfind)
        rw [Option.map_some, Row.through_of_ne (hid ▸ hother)]
  · have hnew : fresh ≠ id := fun heq => hother (congrArg some heq)
    rw [row?_eq happend, row?_eq h, find?, List.find?_append, ← find?]
    simp [Row.ofSuggestion, suggestionOf, hnew]

theorem row?_after (h : store.row? id = some row) (operations : List (Operation ν)) :
    (store.after operations).row? id = some (operations.foldl Row.through row) := by
  induction operations generalizing store row with
  | nil => exact h
  | cons operation operations ih => exact ih (row?_step h operation)

theorem isSound_step (h : store.IsSound) (operation : Operation ν) : (store.step operation).IsSound := by
  obtain ⟨rows, hrows, hids, hconsistent⟩ := h
  obtain hmap | ⟨draft, id, now, -, hfree, happend⟩ := suggestions_step hrows operation
  -- Rows that are marked keep their ids, and a new row has one that is free.
  · have hsame : Row.id ∘ (·.through operation) = (Row.id : Row ν → String) :=
      funext fun row => row.id_through operation
    refine ⟨_, hmap, by rwa [List.map_map, hsame], ?_⟩
    simpa using fun row hrow => Row.isConsistent_through (hconsistent row hrow) operation
  · refine ⟨_, happend, ?_, ?_⟩
    · rw [List.map_append, List.nodup_append]
      refine ⟨hids, List.nodup_singleton _, ?_⟩
      simpa [Row.ofSuggestion, suggestionOf] using find?_eq_none_iff.mp hfree
    · intro row hrow
      obtain hold | hnew := List.mem_append.mp hrow
      · exact hconsistent row hold
      · rw [List.mem_singleton.mp hnew]
        exact Row.isConsistent_ofSuggestion draft id now

theorem isSound_after (h : store.IsSound) (operations : List (Operation ν)) :
    (store.after operations).IsSound := by
  induction operations generalizing store with
  | nil => exact h
  | cons operation operations ih => exact ih (isSound_step h operation)

/-- The states that rows are in, after any operations on a store that has no suggestions yet. -/
theorem row_states (operations : List (Operation ν)) :
    let store := (ready : Store ν).after operations
    store.IsSound ∧
    (∀ id row, store.row? id = some row → row.rolledBackAt.isSome → ∀ later,
      ∃ after, (store.after later).row? id = some after ∧ after.rolledBackAt.isSome) ∧
    (∀ id row isRollback now, store.row? id = some row →
      ∃ after marked, store.mark id isRollback now = .ok after ∧ after.row? id = some marked ∧
        marked.status = if isRollback then .rolledBack else .applied) ∧
    (∀ id row now, store.row? id = some row → row.isApplied → store.mark id false now = .ok store) ∧
    ∀ id isRollback now, store.row? id = none →
      store.mark id isRollback now = .error (.notFound "suggestion" id) ∧
        store.step (.mark id isRollback now) = store := by
  have hsound : ((ready : Store ν).after operations).IsSound :=
    isSound_after isSound_ready operations
  refine ⟨hsound, ?_, ?_, ?_, ?_⟩
  · intro id row hrow hrolledBack later
    exact ⟨_, row?_after hrow later, Row.isSome_rolledBackAt_foldl hrolledBack later⟩
  · exact fun id row isRollback now hrow => mark_of_row? hsound hrow isRollback now
  · exact fun id row now hrow happlied => mark_of_isApplied hsound hrow happlied now
  · intro id isRollback now hunknown
    have hmark := mark_of_row?_eq_none hsound hunknown isRollback now
    exact ⟨hmark, by rw [step, hmark]; rfl⟩

/-- The first of January 2024 at a full hour. -/
def newYear (hour : Nat) : Timestamp := ⟨⟨2024, 1, 1⟩, hour, 0, 0, 0⟩

def newYearDraft : Draft Rat :=
  ⟨"r", "f", .trivial, "1\n", 1 / 2, "", "Fallback", none, none, none, .null⟩

/-- A suggestion that is rolled back before it was ever applied, and then applied twice. -/
def reapplied : List (Operation Rat) :=
  [.create newYearDraft "s" (newYear 0),
    .mark "s" true (newYear 1), .mark "t" false (newYear 2), .mark "s" false (newYear 3),
    .mark "s" false (newYear 4)]

theorem row_states_reapplied :
    let store := (ready : Store Rat).after reapplied
    ∃ row, store.row? "s" = some row ∧ row.rolledBackAt = some (newYear 1).stored ∧
      row.appliedAt = some (newYear 3).stored ∧ store.mark "s" false (newYear 5) = .ok store ∧
      (∃ after, (store.after reapplied).row? "s" = some after ∧ after.rolledBackAt.isSome) ∧
      store.row? "t" = none ∧
      store.mark "t" true (newYear 5) = .error (.notFound "suggestion" "t") := by
  obtain ⟨-, hkept, -, happlied, hunknown⟩ := row_states reapplied
  have hrow : ((ready : Store Rat).after reapplied).row? "s" = some
      (((Row.ofSuggestion (suggestionOf newYearDraft "s" (newYear 0))).marked true (newYear 1)).marked false
        (newYear 3)) := by cbv
  have hnone : ((ready : Store Rat).after reapplied).row? "t" = none := by cbv
  refine ⟨_, hrow, rfl, rfl, ?_, ?_, hnone, ?_⟩
  · exact happlied "s" _ (newYear 5) hrow rfl
  · exact hkept "s" _ hrow rfl reapplied
  · exact (hunknown "t" true (newYear 5) hnone).1

end Store

end Reconcile
