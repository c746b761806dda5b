import Reconcile.Conflict.Detection
import Reconcile.Scalar

/-!
What a score is made of: how easy a conflict is, how alike its sides are, whether a resolution is
well-formed, and how often its strategy has succeeded.
-/

namespace Reconcile

variable {ν : Type} [Scalar ν]

structure Factors (ν : Type) where
  ease : ν
  similarity : ν
  validity : ν
  success : ν
  deriving Repr

/-- How easy a conflict is to resolve; one is easiest. -/
def Conflict.ease (conflict : Conflict) : ν :=
  match conflict.kind with
  | .trivial => 1.0
  | .structural =>
    if conflict.changes?.any fun c => c.touchesImports || c.touchesExports then 0.9 else 0.7
  | .concurrentEdit => if conflict.changedLines < 5 then 0.6 else 0.4
  | .semantic => 0.3
  | .unknown => 0.2

/-- How many are left of each line; of lines that are not in it there are none. -/
abbrev Tally := List (List Char × Nat)

namespace Tally

def left (tally : Tally) (line : List Char) : Nat := (tally.lookup line).getD 0

def put (tally : Tally) (line : List Char) (n : Nat) : Tally := (line, n) :: tally.filter (·.1 ≠ line)

def ofLines (lines : List (List Char)) : Tally :=
  lines.foldl (fun tally line => tally.put line (tally.left line + 1)) []

/-- Counts the lines of which there is one left when their turn comes; each takes one away. -/
def matched (tally : Tally) : List (List Char) → Nat
  | [] => 0
  | line :: rest =>
    match tally.left line with
    | 0 => tally.matched rest
    | n + 1 => (tally.put line n).matched rest + 1

end Tally

/-- The lines of a list that can be matched with lines of another, each at most once. -/
def matchCount (lines others : List (List Char)) : Nat := (Tally.ofLines others).matched lines

def Block.similarity (block : Block) : ν :=
  let ours := Text.significantLines block.ours.toList
  let theirs := Text.significantLines block.theirs.toList
  let longest := max ours.length theirs.length
  if longest = 0 then 1.0 else (matchCount ours theirs : ν) / (longest : ν)

def similarity (blocks : List Block) : ν :=
  if blocks.isEmpty then 1.0
  else (blocks.map Block.similarity).foldl (· + ·) 0.0 / (blocks.length : ν)

def surplus (opening closing : Char) (text : List Char) : Int :=
  (text.count opening : Int) - text.count closing

def bracketsBalance (text : String) : Bool :=
  let chars := text.toList
  surplus '(' ')' chars = 0 && surplus '\x7b' '\x7d' chars = 0 && surplus '[' ']' chars = 0

/-- Validity without reading: the brackets of source code balance; other text is valid. -/
def isQuicklyValid (path content : String) : Bool :=
  (Language.ofPath? path).isNone || bracketsBalance content

def countFilledLines (text : String) : Nat :=
  (Text.stringLines text).countP fun line => !Text.isAllBlank line

def unitOf (holds : Bool) : ν := if holds then 1.0 else 0.0

end Reconcile
