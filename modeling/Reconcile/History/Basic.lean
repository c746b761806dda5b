import Reconcile.Decimal.Basic
import Reconcile.Files.Disk

/-!
Histories of commits, each of which follows at most one other, and names for their commits.
-/

namespace Reconcile

abbrev FileTree := List (String × Contents)

structure Commit where
  files : FileTree
  parent : Option Nat
  deriving DecidableEq

structure History where
  commits : List Commit
  branches : List (String × Nat)

namespace History

def commit? (history : History) (n : Nat) : Option Commit := history.commits[n]?

def parent? (history : History) (n : Nat) : Option Nat := (history.commit? n).bind (·.parent)

def line (history : History) : Nat → Nat → List Nat
  | 0, _ => []
  | fuel + 1, n => n :: (history.parent? n).elim [] (history.line fuel)

def ancestry (history : History) (n : Nat) : List Nat := history.line history.commits.length n

/-- The latest commit that two commits have in common. -/
def mergeBase? (history : History) (a b : Nat) : Option Nat :=
  (history.ancestry a).find? (history.ancestry b).contains

def files (history : History) (n : Nat) : FileTree := ((history.commit? n).map (·.files)).getD []

end History

inductive Relation where
  | back (n : Nat)
  /-- The parent with a number; a commit is its own parent zero. -/
  | parent (n : Nat)
  deriving DecidableEq, Repr

namespace Relation

def follow? (history : History) : Relation → Nat → Option Nat
  | back 0, commit | parent 0, commit => some commit
  | back (n + 1), commit => (history.parent? commit).bind ((back n).follow? history)
  | parent 1, commit => history.parent? commit
  | parent _, _ => none

/-- The number at the front of a text, one if there is none, and the rest. -/
def number (text : List Char) : Nat × List Char :=
  let digits := text.takeWhile Char.isDigit
  if digits.isEmpty then (1, text)
  else (Decimal.digitsValue digits, text.drop digits.length)

theorem length_number_le (text : List Char) : (number text).2.length ≤ text.length := by
  unfold number
  simp only
  split
  · exact Nat.le_refl _
  · exact List.length_drop ▸ Nat.sub_le _ _

def ofText? (text : List Char) : Option (List Relation) :=
  match text with
  | [] => some []
  | '~' :: rest => (ofText? (number rest).2).map (.back (number rest).1 :: ·)
  | '^' :: '\x7b' :: '\x7d' :: rest => ofText? rest
  | '^' :: '\x7b' :: 'c' :: 'o' :: 'm' :: 'm' :: 'i' :: 't' :: '\x7d' :: rest => ofText? rest
  | '^' :: rest => (ofText? (number rest).2).map (.parent (number rest).1 :: ·)
  | _ => none
  termination_by text.length
  decreasing_by
    all_goals
      simp only [List.length_cons]
      first
        | omega
        | exact Nat.lt_succ_of_le (length_number_le _)

end Relation

namespace History

/-- The commit that a branch names; the name may be written with the places branches are kept. -/
def branch? (history : History) (name : String) : Option Nat :=
  (history.branches.find? fun (branch, _) =>
    [branch, "heads/" ++ branch, "refs/heads/" ++ branch].contains name).map (·.2)

def resolve? (history : History) (text : String) : Option Nat := do
  let isName (c : Char) : Bool := c ≠ '~' && c ≠ '^'
  let commit ← history.branch? (String.ofList (text.toList.takeWhile isName))
  let steps ← Relation.ofText? (text.toList.dropWhile isName)
  steps.foldlM (fun commit step => step.follow? history commit) commit

end History

end Reconcile
