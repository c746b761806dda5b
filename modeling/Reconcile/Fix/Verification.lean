import Reconcile.Block.Basic
import Reconcile.Diff.Hunks
import Reconcile.Outline.Cache

/-!
Checking a text that is to take the place of a conflicted one.
-/

namespace Reconcile

structure Verification where
  markersLeft : Nat
  isWellFormed : Bool
  extent : Diff.Extent
  deriving DecidableEq, Repr

namespace Verification

variable {κ : Type}

/-- Looks at the text `after`, which takes the place of `before`. -/
def of (reader : Outline.Reader κ) (path before after : String) : Verification where
  markersLeft := Text.countMarkers after
  isWellFormed := (reader.isWellFormed? path after).getD true
  extent := .between before after

def passed (v : Verification) : Bool := v.markersLeft = 0 && v.isWellFormed

def detail (v : Verification) : String :=
  "; ".intercalate (
    (if v.markersLeft = 0 then []
     else [toString v.markersLeft ++ " conflict marker lines remain"]) ++
    (if v.isWellFormed then [] else ["resolved content does not parse"]))

end Verification

end Reconcile
