import Mathlib.Tactic.Common
import Reconcile.Fix.Backup

/-!
# A rollback command as a shell reads it

A shell cuts a line into words at its blanks. Between single quotes every character stands for itself up to
the next single quote, and outside of them one does that a backslash stands before; any other character may
mean something to the shell. A text that is written as one word has only quoted characters, so a rollback
command is read as three words, and nothing in the paths is taken for more than a part of a path.
-/

namespace Reconcile

namespace Shell

/-- A character of a word; one that is quoted stands for itself. -/
structure Letter where
  char : Char
  isQuoted : Bool
  deriving DecidableEq, Repr

abbrev Word := List Letter

/-- Characters that may mean more than themselves to a shell, where they are not quoted. They expand to
something else, or end a word, a command or a line, or begin a comment, a list or an assignment. -/
def isActive (c : Char) : Bool :=
  c ∈ ['|', '&', ';', '<', '>', '(', ')', '$', '\x60', '"', '\\', '\'', ' ', '\t', '\n', '*', '?', '[', ']',
    '#', '~', '=', '%', '!', '\x7b', '\x7d', '^']

namespace Word

def text (word : Word) : String := String.ofList (word.map Letter.char)

def bare (text : String) : Word := text.toList.map (⟨·, false⟩)

def quoted (text : String) : Word := text.toList.map (⟨·, true⟩)

/-- A word in which nothing is expanded and nothing ends a command. -/
def isInert (word : Word) : Bool := word.all fun letter => letter.isQuoted || !isActive letter.char

@[simp]
theorem text_bare (text : String) : (bare text).text = text := by
  simp [Word.text, bare, Function.comp_def]

@[simp]
theorem text_quoted (text : String) : (quoted text).text = text := by
  simp [Word.text, quoted, Function.comp_def]

@[simp]
theorem isInert_quoted (text : String) : (quoted text).isInert := by
  simp [isInert, quoted]

end Word

inductive Mode where
  | plain
  | quoted
  /-- A backslash stands before what is read next. -/
  | escaped
  deriving DecidableEq, Repr

/-- What has been read of a line. -/
structure Scan where
  mode : Mode
  words : List Word
  /-- The word that is being read; it may be empty and yet be one. -/
  word : Option Word

namespace Scan

def start : Scan := ⟨.plain, [], none⟩

/-- The word that is being read goes on with letters. -/
def extend (scan : Scan) (letters : Word) : Scan :=
  { scan with word := some (scan.word.getD [] ++ letters) }

/-- The word that is being read is complete, if there is one. -/
def endWord (scan : Scan) : Scan :=
  { scan with words := scan.words ++ scan.word.toList, word := none }

/-- Reads one more character. A backslash and a line feed are left out together. -/
def read (scan : Scan) (c : Char) : Scan :=
  match scan.mode with
  | .plain =>
    if c = '\'' then { scan.extend [] with mode := .quoted }
    else if c = '\\' then { scan with mode := .escaped }
    else if c = ' ' || c = '\t' then scan.endWord
    else scan.extend [⟨c, false⟩]
  | .quoted => if c = '\'' then { scan with mode := .plain } else scan.extend [⟨c, true⟩]
  | .escaped =>
    if c = '\n' then { scan with mode := .plain }
    else { scan.extend [⟨c, true⟩] with mode := .plain }

end Scan

/-- The words of a line; there are none where a quote is not closed or a backslash stands at the end. -/
def words? (line : String) : Option (List Word) :=
  let scan := line.toList.foldl Scan.read .start
  if scan.mode = .plain then some scan.endWord.words else none

/-- The words of a line that is one command and in which nothing is expanded. -/
def command? (line : String) : Option (List String) := do
  let words ← words? line
  if words.all Word.isInert then some (words.map Word.text) else none

example : command? "cp a\\ b 'c;d'\\''$e'" = some ["cp", "a b", "c;d'$e"] := by decide +kernel

example : command? "cp a b;c" = none := by decide +kernel

/-! ### Words that are written with quotes -/

namespace Scan

variable {scan : Scan}

/-- Inside quotes, of which some letters have been read. -/
def inside (scan : Scan) (letters : Word) : Scan := { scan.extend letters with mode := .quoted }

theorem read_quote (h : scan.mode = .plain) : scan.read '\'' = scan.inside [] := by
  simp [read, h, inside]

theorem read_quote_inside (h : scan.mode = .plain) (letters : Word) :
    (scan.inside letters).read '\'' = scan.extend letters := by
  simp [read, inside, extend, h]

theorem read_blank (h : scan.mode = .plain) : scan.read ' ' = scan.endWord := by
  simp [read, h]

theorem foldl_read_bare (h : scan.mode = .plain) (hword : scan.word = none) :
    "cp".toList.foldl read scan = scan.extend (.bare "cp") := by
  simp [read, h, hword, extend, Word.bare]

end Scan

end Shell

namespace Backup

open Shell

variable {scan : Scan}

/-- A character of a text within the quotes of a word. A single quote ends the quotes, is written behind a
backslash and opens them anew. -/
def quotedChar (c : Char) : List Char := if c = '\'' then ['\'', '\\', '\'', '\''] else [c]

theorem shellWord_eq (text : List Char) :
    shellWord text = '\'' :: (text.flatMap quotedChar ++ ['\'']) := rfl

theorem foldl_read_quotedChar (scan : Scan) (letters : Word) (c : Char) :
    (quotedChar c).foldl Scan.read (scan.inside letters) = scan.inside (letters ++ [⟨c, true⟩]) := by
  by_cases hquote : c = '\'' <;> simp [quotedChar, hquote, Scan.read, Scan.inside, Scan.extend]

theorem foldl_read_quotedChars (scan : Scan) (letters : Word) (text : List Char) :
    (text.flatMap quotedChar).foldl Scan.read (scan.inside letters) =
      scan.inside (letters ++ text.map (⟨·, true⟩)) := by
  induction text generalizing letters with
  | nil => simp
  | cons c text ih =>
      rw [List.flatMap_cons, List.foldl_append, foldl_read_quotedChar, ih, List.append_assoc]
      rfl

/-- A text that is written as one word is read as letters that are all quoted. -/
theorem foldl_read_shellWord (h : scan.mode = .plain) (text : String) :
    (shellWord text.toList).foldl Scan.read scan = scan.extend (.quoted text) := by
  rw [shellWord_eq, List.foldl_cons, Scan.read_quote h, List.foldl_append, foldl_read_quotedChars,
    List.foldl_cons, List.foldl_nil, Scan.read_quote_inside h]
  rfl

theorem toList_command (backup target : String) : (command backup target).toList =
    "cp".toList ++ ' ' :: (shellWord backup.toList ++ ' ' :: shellWord target.toList) := by
  simp [command]

theorem foldl_read_command (backup target : String) :
    (command backup target).toList.foldl Scan.read .start =
      ⟨.plain, [.bare "cp", .quoted backup], some (.quoted target)⟩ := by
  rw [toList_command, List.foldl_append, Scan.foldl_read_bare rfl rfl, List.foldl_cons,
    Scan.read_blank rfl, List.foldl_append, foldl_read_shellWord rfl, List.foldl_cons,
    Scan.read_blank rfl, foldl_read_shellWord rfl]
  rfl

/-- A rollback command is three words, of which the paths are quoted to their last letter, and it is one
command in which nothing is expanded. -/
theorem command_is_three_words (backup target : String) :
    words? (command backup target) = some [.bare "cp", .quoted backup, .quoted target] ∧
    command? (command backup target) = some ["cp", backup, target] := by
  have hwords : words? (command backup target) = some [.bare "cp", .quoted backup, .quoted target] := by
    rw [words?, foldl_read_command]
    rfl
  have hname : (Word.bare "cp").isInert := by decide
  refine ⟨hwords, ?_⟩
  simp [command?, hwords, hname]

end Backup

end Reconcile
