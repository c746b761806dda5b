import Reconcile.Json.Value

/-!
Reading data from values. A record is written as an object, whose unknown fields are ignored, or
as an array of its fields in order.
-/

namespace Reconcile.Json

def countLimit : Nat := Nat.pow 2 64

def toText? : Json → Option String
  | str s => some s
  | _ => none

def toBool? : Json → Option Bool
  | bool b => some b
  | _ => none

def toCount? : Json → Option Nat
  | int n => if 0 ≤ n ∧ n < (countLimit : Int) then some n.toNat else none
  | _ => none

/-- A number; a whole one is rounded to the nearest binary one. -/
def toFloat? : Json → Option Float
  | real x => some x
  | int n => some (if n < 0 then -Float.ofNat n.natAbs else Float.ofNat n.natAbs)
  | _ => none

def toItems? : Json → Option (List Json)
  | arr items => some items
  | _ => none

def toList? (decode : Json → Option α) (value : Json) : Option (List α) := do
  (← value.toItems?).mapM decode

def toOption? (decode : Json → Option α) : Json → Option (Option α)
  | null => some none
  | value => (decode value).map some

/-- A case without data: its name, or an object with the name and null. -/
def toCase? (ofName? : String → Option α) : Json → Option α
  | str name => ofName? name
  | obj [(name, null)] => ofName? name
  | _ => none

structure Record where
  /-- The value of the field that has this name and this place in the record. -/
  value? : String → Nat → Option Json
  isPositional : Bool

/-- The record in a value; an array may have more items than the record has fields. -/
def toLongRecord? : Json → Option Record
  | obj fields => some ⟨fun name _ => lookup fields name, false⟩
  | arr items => some ⟨fun _ place => items[place]?, true⟩
  | _ => none

def toRecord? (size : Nat) (value : Json) : Option Record :=
  match value with
  | arr items => if size < items.length then none else value.toLongRecord?
  | _ => value.toLongRecord?

/-- The entries of an object; of two entries of one name the later one counts. -/
def toEntries? (decode : Json → Option α) : Json → Option (List (String × α))
  | obj fields =>
    let isLast (i : Nat) (name : String) : Bool := !(fields.drop (i + 1)).any (·.1 = name)
    (fields.zipIdx.filter fun (field, i) => isLast i field.1).mapM fun (field, _) =>
      (decode field.2).map (field.1, ·)
  | _ => none

namespace Record

def required (r : Record) (name : String) (place : Nat) (decode : Json → Option α) : Option α :=
  (r.value? name place).bind decode

/-- A field that may be null, and may be missing from an object. -/
def nullable (r : Record) (name : String) (place : Nat) (decode : Json → Option α) :
    Option (Option α) :=
  match r.value? name place with
  | some value => value.toOption? decode
  | none => if r.isPositional then none else some none

def default (r : Record) (name : String) (place : Nat) (decode : Json → Option α) (value : α) :
    Option α :=
  match r.value? name place with
  | some given => decode given
  | none => some value

def optional (r : Record) (name : String) (place : Nat) (decode : Json → Option α) :
    Option (Option α) :=
  r.default name place (toOption? decode) none

end Record

end Reconcile.Json
