/-!
Numbers that scores are computed in: binary floating-point numbers where scores are shown, exact
fractions where they are reasoned about.
-/

namespace Reconcile

class Scalar (ν : Type) extends Add ν, Sub ν, Mul ν, Div ν, LE ν, LT ν, OfScientific ν, NatCast ν where
  decideLE : DecidableLE ν
  decideLT : DecidableLT ν
  /-- Whether a number comes no later than another where all numbers are put in ascending order. -/
  isAtMost : ν → ν → Bool
  isAtMost_trans : ∀ a b c : ν, isAtMost a b → isAtMost b c → isAtMost a c
  isAtMost_total : ∀ a b : ν, isAtMost a b ∨ isAtMost b a

namespace Scalar

variable {ν : Type} [Scalar ν]

instance : DecidableLE ν := decideLE

instance : DecidableLT ν := decideLT

instance : Scalar Rat where
  decideLE := inferInstance
  decideLT := inferInstance
  isAtMost a b := a ≤ b
  isAtMost_trans _ _ _ hab hbc :=
    decide_eq_true (Rat.le_trans (of_decide_eq_true hab) (of_decide_eq_true hbc))
  isAtMost_total _ _ := Rat.le_total.imp decide_eq_true decide_eq_true

def signBit : Nat := 0x8000000000000000

/-- The place of a floating-point number among all of them; the negative zero comes before zero. -/
def rank (x : Float) : Int :=
  let bits := x.toBits.toNat
  if bits < signBit then bits else signBit - 1 - bits

instance : Scalar Float where
  natCast := Float.ofNat
  decideLE := inferInstance
  decideLT := inferInstance
  isAtMost a b := rank a ≤ rank b
  isAtMost_trans _ _ _ hab hbc :=
    decide_eq_true (Int.le_trans (of_decide_eq_true hab) (of_decide_eq_true hbc))
  isAtMost_total _ _ := (Int.le_total _ _).imp decide_eq_true decide_eq_true

def isOrdered (x : ν) : Bool := x ≤ x

def clampUnit (x : ν) : ν := if x < 0.0 then 0.0 else if 1.0 < x then 1.0 else x

def isUnit (x : ν) : Bool := 0.0 ≤ x && x ≤ 1.0

end Scalar

end Reconcile
