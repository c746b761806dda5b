import Reconcile.Suggestion.Basic

/-!
Queries for the rows of a store. The texts and the number that a query compares with are bound to
parameters, which are numbered from one in the order in which they are bound.
-/

namespace Reconcile

inductive TextColumn where
  | repository
  | path
  | kind
  deriving DecidableEq, Repr

inductive Bound where
  | text (text : String)
  | number (n : Nat)
  deriving DecidableEq, Repr

inductive Condition where
  /-- A column has the text that a parameter is bound to. -/
  | equals (column : TextColumn) (parameter : Nat)
  | isUnapplied
  deriving DecidableEq, Repr

/-- The conditions that rows have to meet, all of them, and the parameter for how many rows are given at
most, if there is one. -/
structure RowQuery where
  conditions : List Condition
  bound : List Bound
  limit : Option Nat
  deriving DecidableEq, Repr

namespace RowQuery

def all : RowQuery := ⟨[], [], none⟩

def value? (query : RowQuery) (parameter : Nat) : Option Bound := query.bound[parameter - 1]?

def most? (query : RowQuery) : Option Nat :=
  match query.limit.bind query.value? with
  | some (.number n) => some n
  | _ => none

def bind (query : RowQuery) (value : Bound) : RowQuery :=
  { query with bound := query.bound ++ [value] }

def require (query : RowQuery) (condition : Condition) : RowQuery :=
  { query with conditions := query.conditions ++ [condition] }

def withText (query : RowQuery) (column : TextColumn) : Option String → RowQuery
  | none => query
  | some text =>
    let query := query.bind (.text text)
    query.require (.equals column query.bound.length)

def unapplied (query : RowQuery) (isUnapplied : Bool) : RowQuery :=
  if isUnapplied then query.require .isUnapplied else query

def atMost (query : RowQuery) : Option Nat → RowQuery
  | none => query
  | some n =>
    let query := query.bind (.number n)
    { query with limit := some query.bound.length }

end RowQuery

def SuggestionFilter.query (filter : SuggestionFilter) : RowQuery :=
  ((((RowQuery.all.withText .repository filter.repository).withText .path filter.path).withText .kind
    (filter.kind.map ConflictKind.name)).unapplied filter.isUnapplied).atMost filter.limit

end Reconcile
