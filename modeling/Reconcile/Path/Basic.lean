import Reconcile.Text.Lines

/-!
Paths as texts: their components, the extension of the last one, and which of them may name a file
below a repository's root.
-/

namespace Reconcile.Path

/-- The stretches of a text between slashes; always one more than there are slashes. -/
def splitSlashes : List Char → List (List Char)
  | [] => [[]]
  | c :: cs =>
    if c = '/' then [] :: splitSlashes cs
    else match splitSlashes cs with
      | [] => [[c]]
      | part :: parts => (c :: part) :: parts

inductive Component where
  | root
  | current
  | parent
  | name (text : String)
  deriving DecidableEq, Repr

/-- What a stretch between slashes stands for; nothing if it is empty or stays in place. -/
def componentOf? (part : List Char) : Option Component :=
  if part = [] || part = ['.'] then none
  else if part = ['.', '.'] then some .parent
  else some (.name (String.ofList part))

/-- The components of a path. A leading slash is one, and so is a leading dot. -/
def components (path : String) : List Component :=
  let parts := splitSlashes path.toList
  let head := match parts with
    | [] :: _ :: _ => [Component.root]
    | ['.'] :: _ => [Component.current]
    | _ => []
  head ++ parts.filterMap componentOf?

def Component.text : Component → String
  | root => "/"
  | current => "."
  | parent => ".."
  | name text => text

def fileName? (path : String) : Option String :=
  match (components path).getLast? with
  | some (.name text) => some text
  | _ => none

/-- The part of a name after its last dot, unless nothing stands before that dot. -/
def nameExtension? (name : List Char) : Option (List Char) :=
  let reversed := name.reverse
  match reversed.dropWhile (· ≠ '.') with
  | [] => none
  | [_] => none
  | _ => some (reversed.takeWhile (· ≠ '.')).reverse

def extension? (path : String) : Option String := do
  let name ← fileName? path
  let extension ← nameExtension? name.toList
  some (String.ofList (extension.map Char.toLower))

def isAbsolute (path : String) : Bool := path.toList.head? = some '/'

def join (root path : String) : String :=
  if isAbsolute path then path
  else if root.isEmpty || root.toList.getLast? = some '/' then root ++ path
  else root ++ "/" ++ path

def ofComponents (components : List Component) : String :=
  components.foldl (fun path component => join path component.text) ""

inductive Fault where
  | empty
  | absolute
  | climbs
  | escapes
  deriving DecidableEq, Repr

def Fault.reason : Fault → String
  | empty => "path is empty"
  | absolute => "path must be relative"
  | climbs => "path must not contain '..'"
  | escapes => "path escapes the repository root"

def fault? (path : String) : Option Fault :=
  if Text.isAllBlank path then some .empty
  else if isAbsolute path || path.toList.head? = some '\\' then some .absolute
  else if (components path).contains .parent then some .climbs
  else none

structure Refusal where
  path : String
  fault : Fault
  deriving DecidableEq, Repr

def Refusal.message (refusal : Refusal) : String :=
  "invalid file path '" ++ refusal.path ++ "': " ++ refusal.fault.reason

def validate (path : String) : Except Refusal Unit :=
  match fault? path with
  | some fault => .error ⟨path, fault⟩
  | none => .ok ()

end Reconcile.Path
