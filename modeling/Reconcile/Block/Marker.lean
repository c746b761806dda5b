import Reconcile.Text.Lines

/-!
The four kinds of marker line. A start, base or finish marker is seven equal signs of its kind,
alone or followed by a blank and a label; a divider is seven equals signs and nothing else.
-/

namespace Reconcile

inductive Marker where
  | start
  | base
  | divider
  | finish
  deriving DecidableEq, Repr

namespace Marker

def signCount : Nat := 7

/-- What may follow the seven signs: nothing, or a blank and a label on the same line. -/
def isLabel : List Char → Bool
  | [] => true
  | c :: label => (c = ' ' || c = '\t') && !label.contains '\n'

def dropReturn (line : List Char) : List Char :=
  if line.getLast? = some '\r' then line.dropLast else line

def afterSigns? (sign : Char) (line : List Char) : Option (List Char) :=
  if line.take signCount = List.replicate signCount sign then some (line.drop signCount) else none

/-- The kind of marker a line is, the line being given without its line feed. -/
def ofLine? (line : List Char) : Option Marker :=
  let line := dropReturn line
  if (afterSigns? '<' line).any isLabel then some start
  else if (afterSigns? '|' line).any isLabel then some base
  else if (afterSigns? '>' line).any isLabel then some finish
  else if afterSigns? '=' line = some [] then some divider
  else none

end Marker

namespace Text

def countMarkers (text : String) : Nat :=
  (lines text.toList).countP fun line => (Marker.ofLine? line).isSome

end Text

end Reconcile
