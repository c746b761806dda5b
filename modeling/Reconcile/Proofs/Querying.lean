import Mathlib
import Reconcile.Suggestion.Store

/-!
# What a query selects

A query is put together from the conditions that a filter gives. A condition names what it compares with
by the number of a parameter, and a number that has been given out stays bound to the same text when more
is bound; so the conditions do not disturb each other, whichever of them are given.
-/

namespace Reconcile

variable {ν : Type}

theorem Row.isSelected_iff {row : Row ν} {query : RowQuery} :
    row.isSelected query ↔ ∀ condition ∈ query.conditions, row.meets query condition :=
  List.all_eq_true

namespace RowQuery

variable {query : RowQuery} {p : Row ν → Prop}

theorem value?_bind {parameter : Nat} (h : 0 < parameter ∧ parameter ≤ query.bound.length) (value : Bound) :
    (query.bind value).value? parameter = query.value? parameter :=
  List.getElem?_append_left (by omega)

theorem value?_bind_length (query : RowQuery) (value : Bound) :
    (query.bind value).value? (query.bind value).bound.length = some value := by
  simp [value?, bind]

/-- A query selects the rows with a property, by conditions on parameters that are bound. -/
structure Asks (query : RowQuery) (p : Row ν → Prop) : Prop where
  isBound : ∀ column parameter, .equals column parameter ∈ query.conditions →
    0 < parameter ∧ parameter ≤ query.bound.length
  isSelected : ∀ row : Row ν, row.isSelected query ↔ p row

namespace Asks

theorem all : RowQuery.all.Asks fun _ : Row ν => True :=
  ⟨by simp [RowQuery.all], by simp [RowQuery.all, Row.isSelected]⟩

theorem bind (h : query.Asks p) (value : Bound) : (query.bind value).Asks p where
  isBound column parameter hcondition := by
    have hbound := h.isBound column parameter hcondition
    simp only [RowQuery.bind, List.length_append]
    omega
  isSelected row := by
    rw [← h.isSelected, Row.isSelected_iff, Row.isSelected_iff]
    refine forall₂_congr fun condition hcondition => ?_
    cases condition with
    | equals column parameter => rw [Row.meets, value?_bind (h.isBound column parameter hcondition), Row.meets]
    | isUnapplied => rfl

theorem require (h : query.Asks p) {condition : Condition}
    (hbound : ∀ column parameter, condition = .equals column parameter →
      0 < parameter ∧ parameter ≤ query.bound.length) :
    (query.require condition).Asks fun row => p row ∧ row.meets query condition where
  isBound column parameter hcondition :=
    (List.mem_append.mp hcondition).elim (h.isBound column parameter) fun hnew =>
      hbound column parameter (List.mem_singleton.mp hnew).symm
  isSelected row := by
    have hsame : row.meets (query.require condition) = row.meets query := rfl
    rw [← h.isSelected, Row.isSelected_iff, Row.isSelected_iff, hsame, RowQuery.require,
      List.forall_mem_append, List.forall_mem_singleton]

theorem congr (h : query.Asks p) {q : Row ν → Prop} (hsame : ∀ row, p row ↔ q row) : query.Asks q :=
  ⟨h.isBound, fun row => (h.isSelected row).trans (hsame row)⟩

theorem withText (h : query.Asks p) (column : TextColumn) (text? : Option String) :
    (query.withText column text?).Asks fun row => p row ∧ ∀ text ∈ text?, row.text column = text := by
  cases text? with
  | none => exact h.congr (by simp)
  | some text =>
      refine ((h.bind (.text text)).require ?_).congr fun row => ?_
      · rintro _ parameter ⟨rfl, rfl⟩
        simp [RowQuery.bind]
      · simp [Row.meets, value?_bind_length, eq_comm]

theorem unapplied (h : query.Asks p) (isUnapplied : Bool) :
    (query.unapplied isUnapplied).Asks fun row => p row ∧ (isUnapplied → row.appliedAt = none) := by
  cases isUnapplied with
  | false => exact h.congr (by simp)
  | true => exact (h.require (by simp)).congr (by simp [Row.meets])

theorem atMost (h : query.Asks p) (limit : Option Nat) : (query.atMost limit).Asks p := by
  cases limit with
  | none => exact h
  | some n => exact ⟨(h.bind (.number n)).isBound, (h.bind (.number n)).isSelected⟩

end Asks

@[simp]
theorem limit_withText (query : RowQuery) (column : TextColumn) (text? : Option String) :
    (query.withText column text?).limit = query.limit := by
  cases text? <;> rfl

@[simp]
theorem limit_unapplied (query : RowQuery) (isUnapplied : Bool) :
    (query.unapplied isUnapplied).limit = query.limit := by
  cases isUnapplied <;> rfl

theorem most?_atMost (h : query.limit = none) (limit : Option Nat) : (query.atMost limit).most? = limit := by
  cases limit with
  | none => simp [atMost, most?, h]
  | some n =>
      have hvalue : (query.atMost (some n)).limit.bind (query.atMost (some n)).value? = some (.number n) :=
        query.value?_bind_length (.number n)
      rw [most?, hvalue]

end RowQuery

namespace SuggestionFilter

variable (filter : SuggestionFilter)

/-- Whichever conditions a filter gives, its query selects the rows that meet all of them. -/
theorem isSelected_query (row : Row ν) : row.isSelected filter.query ↔
    (∀ repository ∈ filter.repository, row.repository = repository) ∧
    (∀ path ∈ filter.path, row.path = path) ∧ (∀ kind ∈ filter.kind, row.kind = kind.name) ∧
    (filter.isUnapplied → row.appliedAt = none) := by
  have hall : RowQuery.all.Asks fun _ : Row ν => True := .all
  have htexts := ((hall.withText .repository filter.repository).withText .path filter.path).withText .kind
    (filter.kind.map ConflictKind.name)
  refine (((htexts.unapplied filter.isUnapplied).atMost filter.limit).isSelected row).trans ?_
  simp [Row.text, and_assoc]

theorem isSelected_query_limit (limit : Option Nat) (row : Row ν) :
    row.isSelected { filter with limit }.query = row.isSelected filter.query := by
  rw [Bool.eq_iff_iff, isSelected_query, isSelected_query]

theorem most?_query : filter.query.most? = filter.limit :=
  RowQuery.most?_atMost (by simp [RowQuery.all]) filter.limit

end SuggestionFilter

end Reconcile
