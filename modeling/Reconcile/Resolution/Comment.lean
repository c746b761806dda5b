import Reconcile.Language

/-!
Comments: what opens and closes one in a kind of file, and a line of text written as one.
-/

namespace Reconcile

/-- A comment runs to the end of its line, or to a closing token given without its last
character. -/
structure CommentStyle where
  opener : String
  closer : Option (List Char × Char)
  deriving DecidableEq, Repr

namespace CommentStyle

def line (opener : String) : CommentStyle := ⟨opener, none⟩

def starBlock : CommentStyle := ⟨"/*", some (['*'], '/')⟩

def markupBlock : CommentStyle := ⟨"<!--", some (['-', '-'], '>')⟩

def ofExtension? (extension : String) : Option CommentStyle :=
  if ["java", "c", "h", "cc", "cpp", "cxx", "hpp", "hh", "cs", "kt", "kts", "swift", "php", "scala",
      "dart", "groovy", "gradle", "proto", "zig"].contains extension then some (line "//")
  else if ["sh", "bash", "zsh", "rb", "pl", "pm", "r", "yaml", "yml", "toml", "cmake",
      "mk"].contains extension then some (line "#")
  else if ["sql", "lua", "hs"].contains extension then some (line "--")
  else if ["css", "scss", "less"].contains extension then some starBlock
  else if ["html", "htm", "xml", "xhtml", "svg", "vue", "md", "markdown"].contains extension then
    some markupBlock
  else none

def ofPath? (path : String) : Option CommentStyle :=
  match Language.ofPath? path with
  | some language => some (line language.lineComment)
  | none =>
    if (Path.fileName? path).any ["Makefile", "Dockerfile", "CMakeLists.txt"].contains then
      some (line "#")
    else (Path.extension? path).bind ofExtension?

/-- A text with a space put before the last character of each occurrence of a token. -/
def loosen (start : List Char) (last : Char) : List Char → List Char
  | [] => []
  | c :: rest =>
    if (start ++ [last]).isPrefixOf (c :: rest) then
      start ++ ' ' :: last :: loosen start last (rest.drop start.length)
    else c :: loosen start last rest
  termination_by text => text.length

def comment (style : CommentStyle) (text : String) : String :=
  match style.closer with
  | none => if text.isEmpty then style.opener else style.opener ++ " " ++ text
  | some (start, last) =>
    let inner := String.ofList (loosen start last text.toList)
    let close := String.ofList (start ++ [last])
    if inner.isEmpty then style.opener ++ " " ++ close
    else style.opener ++ " " ++ inner ++ " " ++ close

end CommentStyle

end Reconcile
