import Mathlib
import Reconcile.Proofs.RowHistory
import Reconcile.Proofs.StoredTimes

/-!
# Retrieving suggestions

Whatever is done after a suggestion was made, it is found as it was made: marks change the state and the
times of its row only, and what is left of the row decodes to the suggestion. What is done to one
suggestion does not show when another is asked for.
-/

namespace Reconcile

variable {ν : Type}

theorem ConflictKind.ofAnyCase_name (kind : ConflictKind) : ofAnyCase kind.name = .ok kind := by
  cases kind <;> rfl

namespace Suggestion

/-- A suggestion without the times of its marks. -/
def unmarked (s : Suggestion ν) : Suggestion ν := { s with appliedAt := none, rolledBackAt := none }

/-- A suggestion whose fields can be read as they are kept. -/
structure IsReadable [Scalar ν] (s : Suggestion ν) : Prop where
  /-- The number that is kept is the number that was given. -/
  confidence : s.confidence + 0.0 = s.confidence
  /-- The metadata that were written are read back. -/
  metadata : Json.parse? s.metadata.render = some s.metadata
  createdAt : s.createdAt.IsDated

end Suggestion

/-! ### What marks leave of a row -/

namespace Row

variable {row : Row ν}

/-- A row without its state and the times of its marks. -/
def unmarked (row : Row ν) : Row ν :=
  { row with status := .generated, appliedAt := none, rolledBackAt := none }

theorem unmarked_marked (isRollback : Bool) (now : Timestamp) (row : Row ν) :
    (row.marked isRollback now).unmarked = row.unmarked := by
  unfold marked markRolledBack markApplied
  split_ifs <;> rfl

theorem unmarked_foldl (operations : List (Operation ν)) (row : Row ν) :
    (operations.foldl through row).unmarked = row.unmarked :=
  foldl_through (p := fun after => after.unmarked = row.unmarked) rfl operations
    fun former hformer _ _ mark _ => (unmarked_marked mark.1 mark.2 former).trans hformer

/-- The times in a row are the texts of moments that can be read. -/
structure HasDates (row : Row ν) : Prop where
  applied : ∀ text ∈ row.appliedAt, ∃ moment : Timestamp, moment.IsDated ∧ moment.stored = text
  rolledBack : ∀ text ∈ row.rolledBackAt, ∃ moment : Timestamp, moment.IsDated ∧ moment.stored = text

theorem hasDates_marked (h : row.HasDates) {now : Timestamp} (hnow : now.IsDated) (isRollback : Bool) :
    (row.marked isRollback now).HasDates := by
  unfold marked markRolledBack markApplied
  split_ifs
  · exact ⟨by simp, by simpa using ⟨now, hnow, rfl⟩⟩
  · exact ⟨by simpa using ⟨now, hnow, rfl⟩, h.rolledBack⟩
  · exact h

theorem hasDates_foldl {operations : List (Operation ν)} (h : row.HasDates)
    (hmarks : ∀ operation ∈ operations, ∀ mark ∈ operation.mark? row.id, mark.2.IsDated) :
    (operations.foldl through row).HasDates :=
  foldl_through h operations fun _ hformer operation hoperation mark hmark =>
    hasDates_marked hformer (hmarks operation hoperation mark hmark) mark.1

theorem exists_decodeTime? {field : String} {text : Option String}
    (h : ∀ stored ∈ text, ∃ moment : Timestamp, moment.IsDated ∧ moment.stored = stored) :
    ∃ time, decodeTime? field text = .ok time := by
  cases text with
  | none => exact ⟨none, rfl⟩
  | some stored =>
      obtain ⟨moment, hdated, rfl⟩ := h stored rfl
      refine ⟨some moment, ?_⟩
      rw [decodeTime?, decodeTime, Timestamp.ofStored?_stored hdated]
      rfl

variable [Scalar ν] {s : Suggestion ν}

/-- A row that is left by marking the row of a suggestion decodes to it, but for its times. -/
theorem decode_eq (h : row.unmarked = ofSuggestion s) (hs : s.IsReadable) : row.decode =
    (decodeTime? "applied_at" row.appliedAt).bind fun appliedAt =>
      (decodeTime? "rolled_back_at" row.rolledBackAt).map fun rolledBackAt =>
        { s with appliedAt, rolledBackAt } := by
  have hrow : row = { row.unmarked with
      status := row.status, appliedAt := row.appliedAt, rolledBackAt := row.rolledBackAt } := rfl
  -- What is kept of the row apart from its marks is kept of the suggestion.
  rw [h] at hrow
  rw [hrow]
  simp only [decode, ofSuggestion, ConflictKind.ofAnyCase_name, hs.metadata, decodeTime,
    Timestamp.ofStored?_stored hs.createdAt, hs.confidence]
  rfl

theorem unmarked_of_decode {found : Suggestion ν} (h : row.unmarked = ofSuggestion s)
    (hs : s.IsReadable) (hfound : row.decode = .ok found) : found.unmarked = s.unmarked := by
  rw [decode_eq h hs] at hfound
  obtain ⟨appliedAt, -, hrest⟩ := bind_eq_ok_iff.mp hfound
  obtain ⟨rolledBackAt, -, rfl⟩ := map_eq_ok_iff.mp hrest
  rfl

theorem exists_decode (h : row.unmarked = ofSuggestion s) (hs : s.IsReadable) (hdates : row.HasDates) :
    ∃ found, row.decode = .ok found := by
  obtain ⟨appliedAt, happlied⟩ := exists_decodeTime? hdates.applied
  obtain ⟨rolledBackAt, hrolledBack⟩ := exists_decodeTime? hdates.rolledBack
  rw [decode_eq h hs, happlied, hrolledBack]
  exact ⟨_, rfl⟩

end Row

/-! ### Finding a suggestion -/

namespace Store

variable {store made : Store ν} {draft : Draft ν} {id : String} {time : Timestamp} {row : Row ν}
  {rows : List (Row ν)} {suggestion : Suggestion ν}

variable [Scalar ν]

theorem get_step_of_ne {operation : Operation ν} (h : store.suggestions = some rows)
    (hother : operation.subject? ≠ some id) : (store.step operation).get id = store.get id := by
  have hrow := row?_step_of_ne h hother
  obtain hmap | ⟨_, _, _, -, -, happend⟩ := suggestions_step h operation
  · rw [get_eq hmap, get_eq h, hrow]
  · rw [get_eq happend, get_eq h, hrow]

theorem row?_create (h : store.create draft id time = .ok (suggestion, made)) :
    (store.step (.create draft id time)).row? id = some (.ofSuggestion suggestion) := by
  have hstep : store.step (.create draft id time) = made := by rw [step, h]
  obtain ⟨rows, -, hfree, rfl, rfl⟩ := exists_rows_of_create h
  rw [hstep, row?_eq rfl, find?, List.find?_append, ← find?, hfree, Option.none_or]
  simp [Row.ofSuggestion, suggestionOf]

/-- The row of a suggestion is what the operations since its creation have made of it. -/
theorem row?_of_created (earlier later : List (Operation ν))
    (hcreated : (store.after earlier).create draft id time = .ok (suggestion, made)) :
    (store.after (earlier ++ .create draft id time :: later)).row? id =
      some (later.foldl Row.through (.ofSuggestion suggestion)) := by
  rw [after, List.foldl_append, List.foldl_cons]
  exact row?_after (row?_create hcreated) later

/-- A suggestion is found as it was made, whatever was done before and since: only its marks show, and it
is found while these are of years that can be read. An operation on one suggestion does not show when
another is asked for. -/
theorem get_of_created (earlier later : List (Operation ν))
    (hcreated : ((ready : Store ν).after earlier).create draft id time = .ok (suggestion, made))
    (hreadable : suggestion.IsReadable) :
    let store := (ready : Store ν).after (earlier ++ .create draft id time :: later)
    (∀ answer, store.get id = .ok answer → answer.map Suggestion.unmarked = some suggestion) ∧
    ((∀ operation ∈ later, ∀ mark ∈ operation.mark? id, mark.2.IsDated) →
      ∃ found, store.get id = .ok (some found)) ∧
    ∀ operations operation other, operation.subject? ≠ some other →
      (((ready : Store ν).after operations).step operation).get other =
        ((ready : Store ν).after operations).get other := by
  intro store
  have hget := get_eq_of_row? (row?_of_created earlier later hcreated)
  obtain ⟨-, -, -, rfl, -⟩ := exists_rows_of_create hcreated
  have hunmarked := Row.unmarked_foldl later (.ofSuggestion (suggestionOf draft id time))
  refine ⟨?_, ?_, ?_⟩
  · intro answer hanswer
    obtain ⟨found, hdecode, rfl⟩ := map_eq_ok_iff.mp (hget.symm.trans hanswer)
    exact congrArg some (Row.unmarked_of_decode hunmarked hreadable hdecode)
  · intro hmarks
    have hnew : (Row.ofSuggestion (suggestionOf draft id time)).HasDates :=
      ⟨by simp [Row.ofSuggestion, suggestionOf], by simp [Row.ofSuggestion, suggestionOf]⟩
    have hdates := Row.hasDates_foldl hnew hmarks
    obtain ⟨found, hfound⟩ := Row.exists_decode hunmarked hreadable hdates
    exact ⟨found, by rw [hget, hfound]; rfl⟩
  · intro operations operation other hother
    obtain ⟨rows, hrows, -⟩ := isSound_after isSound_ready operations
    exact get_step_of_ne hrows hother

/-- A draft with two of the three contents. -/
def concurrentDraft : Draft Rat :=
  ⟨"r", "f", .concurrentEdit, "1\n", 1 / 4, "why", "ConcurrentEdit", some "0\n", none, some "2\n",
    .obj [("both", .arr [.bool true, .null])]⟩

/-- A leap second, in the last nanosecond of it. -/
def leapSecond : Timestamp := ⟨⟨2016, 12, 31⟩, 23, 59, 60, 999999999⟩

theorem isDated_leapSecond : leapSecond.IsDated :=
  ⟨by decide, by decide, by decide, by decide, by decide, by simp [leapSecond]⟩

theorem isDated_newYear {hour : Nat} (h : hour < 24) : (newYear hour).IsDated :=
  ⟨by simp [newYear], rfl, h, by simp [newYear], by simp [newYear], by simp [newYear]⟩

theorem isReadable_concurrentDraft :
    (suggestionOf concurrentDraft "s" leapSecond).IsReadable where
  confidence := by decide +kernel
  metadata := by cbv
  createdAt := isDated_leapSecond

/-- Another suggestion is there already, and is marked when years have five digits. -/
theorem get_of_created_marked :
    let earlier : List (Operation Rat) := [.create newYearDraft "t" (newYear 0)]
    let later : List (Operation Rat) := [.mark "s" true (newYear 1), .mark "s" false (newYear 2),
      .mark "t" false ⟨⟨10000, 1, 1⟩, 0, 0, 0, 0⟩]
    let store := (ready : Store Rat).after
      (earlier ++ .create concurrentDraft "s" leapSecond :: later)
    (suggestionOf concurrentDraft "s" leapSecond).IsReadable ∧
    ∃ found, store.get "s" = .ok (some found) ∧
      found.unmarked = suggestionOf concurrentDraft "s" leapSecond := by
  intro earlier later store
  have hcreated : ∃ made, ((ready : Store Rat).after earlier).create concurrentDraft "s" leapSecond =
      .ok (suggestionOf concurrentDraft "s" leapSecond, made) := ⟨_, by cbv⟩
  obtain ⟨made, hcreated⟩ := hcreated
  obtain ⟨hfaithful, hfinds, -⟩ :=
    get_of_created earlier later hcreated isReadable_concurrentDraft
  obtain ⟨found, hfound⟩ := hfinds (by simp [later, Operation.mark?, isDated_newYear])
  exact ⟨isReadable_concurrentDraft, found, hfound, Option.some.inj (hfaithful _ hfound)⟩

end Store

end Reconcile
