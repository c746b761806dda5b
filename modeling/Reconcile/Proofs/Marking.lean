import Reconcile.Proofs.Placement
import Reconcile.Suggestion.Store

/-!
# Marking suggestions

A row is applied while it has a time of application. Marking changes the rows of one id only: a
suggestion that is marked as rolled back is not applied, and one that is marked as applied is. A new
suggestion changes no row; its own comes last.
-/

namespace Reconcile

variable {ν : Type}

namespace Row

/-- The path of the file that a row's suggestion is for. -/
def filePath (row : Row ν) : String := Path.join row.repository row.path

def isApplied (row : Row ν) : Bool := row.appliedAt.isSome

/-- A row once its suggestion has been marked. -/
def marked (isRollback : Bool) (now : Timestamp) (row : Row ν) : Row ν :=
  if isRollback then row.markRolledBack now else row.markApplied now

@[simp]
theorem id_marked (isRollback : Bool) (now : Timestamp) (row : Row ν) :
    (row.marked isRollback now).id = row.id := by
  unfold marked markRolledBack markApplied
  split_ifs <;> rfl

@[simp]
theorem filePath_marked (isRollback : Bool) (now : Timestamp) (row : Row ν) :
    (row.marked isRollback now).filePath = row.filePath := by
  unfold marked markRolledBack markApplied
  split_ifs <;> rfl

theorem isApplied_marked (isRollback : Bool) (now : Timestamp) (row : Row ν) :
    (row.marked isRollback now).isApplied = !isRollback := by
  unfold marked markRolledBack markApplied isApplied
  cases happlied : row.appliedAt <;> cases isRollback <;> simp [happlied]

/-- A row holds a suggestion. -/
structure Holds (row : Row ν) (suggestion : Suggestion ν) : Prop where
  id : suggestion.id = row.id
  repository : suggestion.repository = row.repository
  path : suggestion.path = row.path
  resolution : suggestion.resolution = row.resolution
  isApplied : suggestion.isApplied = row.isApplied

theorem isSome_of_decodeTime? {field : String} {text : Option String} {time : Option Timestamp}
    (h : decodeTime? field text = .ok time) : time.isSome = text.isSome := by
  cases text with
  | none =>
      cases h
      rfl
  | some text =>
      obtain ⟨decoded, -, rfl⟩ := map_eq_ok_iff.mp h
      rfl

theorem holds_of_decode {row : Row ν} {suggestion : Suggestion ν}
    (h : row.decode = .ok suggestion) : row.Holds suggestion := by
  unfold decode at h
  cases hkind : ConflictKind.ofAnyCase row.kind with
  | error unknown => simp [hkind, bind, Except.bind] at h
  | ok kind =>
      simp only [hkind, bind_eq_ok_iff, Except.ok.injEq, exists_eq_left'] at h
      obtain ⟨metadata, -, createdAt, -, appliedAt, happlied, rolledBackAt, -, rfl⟩ := h
      exact ⟨rfl, rfl, rfl, rfl, isSome_of_decodeTime? happlied⟩

end Row

namespace Store

variable {store middle after : Store ν} {id : String} {row : Row ν} {rows : List (Row ν)}

/-- The row with an id, if there is one. -/
def row? (store : Store ν) (id : String) : Option (Row ν) :=
  store.suggestions.bind fun rows => find? rows id

theorem id_of_row? (h : store.row? id = some row) : row.id = id := by
  obtain ⟨rows, -, hfind⟩ := Option.bind_eq_some_iff.mp h
  simpa using List.find?_some hfind

theorem rows_eq_ok_iff : store.rows = .ok rows ↔ store.suggestions = some rows := by
  unfold Store.rows
  cases store.suggestions <;> simp

theorem row?_eq (h : store.suggestions = some rows) (id : String) : store.row? id = find? rows id := by
  rw [row?, h, Option.bind_some]

theorem get_eq (h : store.suggestions = some rows) (id : String) :
    store.get id = (store.row? id).elim (.ok none) fun row => row.decode.map some := by
  rw [get, rows_eq_ok_iff.mpr h, row?_eq h]
  cases hfind : find? rows id <;> simp [hfind, bind, Except.bind]

theorem get_eq_of_row? (h : store.row? id = some row) : store.get id = row.decode.map some := by
  obtain ⟨rows, hrows, -⟩ := Option.bind_eq_some_iff.mp h
  rw [get_eq hrows, h, Option.elim_some]

theorem row?_of_get {suggestion : Suggestion ν} (h : store.get id = .ok (some suggestion)) :
    ∃ row, store.row? id = some row ∧ row.Holds suggestion := by
  obtain ⟨rows, hrows, -⟩ := bind_eq_ok_iff.mp h
  rw [get_eq (rows_eq_ok_iff.mp hrows)] at h
  cases hrow : store.row? id with
  | none => simp [hrow] at h
  | some row =>
      rw [hrow] at h
      obtain ⟨decoded, hdecode, hsome⟩ := map_eq_ok_iff.mp h
      obtain rfl := Option.some.inj hsome
      exact ⟨row, rfl, Row.holds_of_decode hdecode⟩

theorem holds_of_get {suggestion : Suggestion ν} (hrow : store.row? id = some row)
    (h : store.get id = .ok (some suggestion)) : row.Holds suggestion := by
  obtain ⟨other, hother, hholds⟩ := row?_of_get h
  obtain rfl := Option.some.inj (hrow.symm.trans hother)
  exact hholds

theorem find?_map {f : Row ν → Row ν} (hid : ∀ row, (f row).id = row.id) (rows : List (Row ν))
    (id : String) : find? (rows.map f) id = (find? rows id).map f := by
  have hsame : (fun row : Row ν => decide (row.id = id)) ∘ f = fun row => decide (row.id = id) := by
    funext row
    simp only [Function.comp_apply, hid]
  rw [find?, List.find?_map, hsame]
  rfl

theorem row?_mark {isRollback : Bool} {now : Timestamp}
    (h : store.mark id isRollback now = .ok after) (other : String) :
    after.row? other = (store.row? other).map fun row =>
      if row.id = id then row.marked isRollback now else row := by
  obtain ⟨rows, hrows, hchange⟩ := bind_eq_ok_iff.mp h
  rw [rows_eq_ok_iff] at hrows
  split at hchange
  · cases hchange
  · obtain rfl := Except.ok.inj hchange
    have hid (row : Row ν) : (if row.id = id then row.marked isRollback now else row).id = row.id := by
      rw [apply_ite Row.id, Row.id_marked, ite_self]
    rw [row?_eq hrows]
    exact find?_map hid rows other

theorem exists_rows_of_create [Scalar ν] {draft : Draft ν} {time : Timestamp}
    {suggestion : Suggestion ν} (h : store.create draft id time = .ok (suggestion, after)) :
    ∃ rows, store.suggestions = some rows ∧ find? rows id = none ∧
      suggestion = suggestionOf draft id time ∧
        after = { store with suggestions := some (rows ++ [.ofSuggestion suggestion]) } := by
  obtain ⟨rows, hrows, hkept⟩ := bind_eq_ok_iff.mp h
  dsimp only at hkept
  split_ifs at hkept with hrefused
  have hfree : find? rows id = none := by
    simpa using (Bool.or_eq_false_iff.mp (Bool.eq_false_iff.mpr hrefused)).2
  obtain ⟨rfl, rfl⟩ := Prod.mk.inj (Except.ok.inj hkept)
  exact ⟨rows, rows_eq_ok_iff.mp hrows, hfree, rfl, rfl⟩

/-- Every suggestion that is applied was applied before. -/
def AppliesNothing (store after : Store ν) : Prop :=
  ∀ id row, after.row? id = some row → row.isApplied →
    ∃ former, store.row? id = some former ∧ former.isApplied

theorem AppliesNothing.refl (store : Store ν) : store.AppliesNothing store :=
  fun _ row hrow happlied => ⟨row, hrow, happlied⟩

theorem AppliesNothing.trans (h : store.AppliesNothing middle) (h' : middle.AppliesNothing after) :
    store.AppliesNothing after := by
  intro id row hrow happlied
  obtain ⟨between, hbetween, hmarked⟩ := h' id row hrow happlied
  exact h id between hbetween hmarked

theorem appliesNothing_of_mark {now : Timestamp} (h : store.mark id true now = .ok after) :
    store.AppliesNothing after := by
  intro other row hrow happlied
  rw [row?_mark h] at hrow
  obtain ⟨former, hformer, rfl⟩ := Option.map_eq_some_iff.mp hrow
  split_ifs at happlied
  · simp [Row.isApplied_marked] at happlied
  · exact ⟨former, hformer, happlied⟩

theorem isApplied_of_mark {now : Timestamp} (h : store.mark id false now = .ok after)
    (hrow : store.row? id = some row) : ∃ marked, after.row? id = some marked ∧ marked.isApplied := by
  refine ⟨row.marked false now, ?_, by simp [Row.isApplied_marked]⟩
  rw [row?_mark h, hrow, Option.map_some, if_pos (id_of_row? hrow)]

end Store

end Reconcile
