import Reconcile.Decimal.Basic

/-!
Values of the interchange format: numbers are whole or binary, objects keep their fields in order.
-/

namespace Reconcile

inductive Json where
  | null
  | bool (value : Bool)
  | int (value : Int)
  | real (value : Float)
  | str (value : String)
  | arr (items : List Json)
  | obj (fields : List (String × Json))

namespace Json

/-- The value of a field; of two fields of one name the later one counts. -/
def lookup (fields : List (String × Json)) (name : String) : Option Json :=
  (fields.reverse.find? fun field => field.1 = name).map (·.2)

def field? : Json → String → Option Json
  | obj fields, name => lookup fields name
  | _, _ => none

def nat (n : Nat) : Json := int n

def ofOption (encode : α → Json) : Option α → Json
  | none => null
  | some a => encode a

def list (encode : α → Json) (items : List α) : Json := arr (items.map encode)

/-- A number that is not finite has no form of its own. -/
def ofFloat (x : Float) : Json := if x.isFinite then real x else null

def optionalField (name : String) (encode : α → Json) : Option α → List (String × Json)
  | none => []
  | some a => [(name, encode a)]

end Json

end Reconcile
