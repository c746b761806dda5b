import Reconcile.Text.Lines

/-!
What a text says apart from its layout: blank lines and lines that hold only a comment are left
out, and of the blanks in a line only those remain that separate two word characters.
-/

namespace Reconcile.Text

/-- A trimmed line that holds only a comment. A number sign opens one only before a blank or the
end of the line. -/
def isCommentOnly : List Char → Bool
  | '/' :: '/' :: _ => true
  | ['#'] => true
  | '#' :: c :: _ => isBlank c
  | _ => false

def isSignificant (line : List Char) : Bool :=
  let trimmed := trim line
  !trimmed.isEmpty && !isCommentOnly trimmed

/-- Whether a blank between two stretches of text separates two word characters. -/
def separates (before after : List Char) : Bool :=
  before.getLast?.any isWordChar && after.head?.any isWordChar

/-- Words joined with a space only where it separates two word characters. -/
def joinWords : List (List Char) → List Char
  | [] => []
  | [word] => word
  | word :: next :: rest =>
    if separates word next then word ++ ' ' :: joinWords (next :: rest)
    else word ++ joinWords (next :: rest)

def significantLine? (line : List Char) : Option (List Char) :=
  if isSignificant line then some (joinWords (words line)) else none

def significantLines (text : List Char) : List (List Char) := (lines text).filterMap significantLine?

/-- Whether two texts differ only in layout and comment lines. -/
def sameSignificance (a b : String) : Bool :=
  significantLines a.toList = significantLines b.toList

def significantText (text : String) : String :=
  String.ofList (['\n'].intercalate (significantLines text.toList))

end Reconcile.Text
