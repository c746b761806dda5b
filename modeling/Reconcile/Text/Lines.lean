import Reconcile.Text.CharClass

/-!
Cutting a text into lines. `pieces` keeps every line feed, so the pieces of a text join to the
text; `lines` drops each line feed together with a carriage return directly before it.
-/

namespace Reconcile.Text

/-- The pieces of a text cut after each line feed. -/
def pieces : List Char → List (List Char)
  | [] => []
  | c :: cs =>
    if c = '\n' then [c] :: pieces cs
    else match pieces cs with
      | [] => [[c]]
      | p :: ps => (c :: p) :: ps

@[simp]
theorem flatten_pieces (text : List Char) : (pieces text).flatten = text := by
  fun_induction pieces text <;> simp_all

theorem ne_nil_of_mem_pieces {text piece : List Char} (h : piece ∈ pieces text) : piece ≠ [] := by
  fun_induction pieces text generalizing piece <;> grind

def unfed (piece : List Char) : List Char :=
  if piece.getLast? = some '\n' then piece.dropLast else piece

/-- A piece without its line feed and a carriage return directly before that. -/
def unterminated (piece : List Char) : List Char :=
  if piece.getLast? = some '\n' then
    let line := piece.dropLast
    if line.getLast? = some '\r' then line.dropLast else line
  else piece

def lines (text : List Char) : List (List Char) := (pieces text).map unterminated

def stringLines (text : String) : List String := (lines text.toList).map String.ofList

def countLines (text : String) : Nat := (pieces text.toList).length

def trim (text : List Char) : List Char :=
  ((text.dropWhile isBlank).reverse.dropWhile isBlank).reverse

def words : List Char → List (List Char)
  | [] => []
  | c :: cs =>
    if isBlank c then words cs
    else match cs with
      | [] => [[c]]
      | d :: _ =>
        if isBlank d then [c] :: words cs
        else match words cs with
          | [] => [[c]]
          | w :: ws => (c :: w) :: ws

def squash (text : List Char) : List Char := [' '].intercalate (words text)

def isAllBlank (text : String) : Bool := text.toList.all isBlank

end Reconcile.Text
