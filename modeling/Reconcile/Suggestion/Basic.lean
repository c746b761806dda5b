import Reconcile.Conflict.Basic
import Reconcile.Json.Value
import Reconcile.Timestamp

/-!
Suggestions: resolutions that are kept until a person applies them.
-/

namespace Reconcile

structure Draft (ν : Type) where
  repository : String
  path : String
  kind : ConflictKind
  resolution : String
  confidence : ν
  explanation : String
  strategy : String
  base : Option String
  source : Option String
  target : Option String
  metadata : Json

structure Suggestion (ν : Type) extends Draft ν where
  id : String
  createdAt : Timestamp
  appliedAt : Option Timestamp
  rolledBackAt : Option Timestamp

def Suggestion.isApplied {ν : Type} (suggestion : Suggestion ν) : Bool :=
  suggestion.appliedAt.isSome

/-- Which suggestions are asked for; a condition that is absent holds for all. -/
structure SuggestionFilter where
  repository : Option String
  path : Option String
  kind : Option ConflictKind
  isUnapplied : Bool
  limit : Option Nat
  deriving DecidableEq, Repr

namespace SuggestionFilter

def all : SuggestionFilter := ⟨none, none, none, false, none⟩

end SuggestionFilter

end Reconcile
