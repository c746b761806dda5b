import Reconcile.Path.Basic

/-!
A tree of files: directories, regular files with permission bits, and symbolic links. Paths are
walked component by component, links being followed where they stand.
-/

namespace Reconcile

/-- A place in the tree, by the names from the top. -/
abbrev Place := List String

/-- What a file holds: a text, or bytes that are not the form of any text. -/
inductive Contents where
  | text (text : String)
  | raw (bytes : List UInt8)
  deriving DecidableEq

def Contents.ofBytes (bytes : List UInt8) : Contents :=
  (String.fromUTF8? bytes.toByteArray).elim (.raw bytes) .text

def Contents.bytes : Contents → List UInt8
  | text string => string.toUTF8.toList
  | raw bytes => bytes

inductive Entry where
  | directory
  | file (contents : Contents) (mode : Nat)
  | link (target : String)
  deriving DecidableEq

inductive FileError where
  | missing
  | notDirectory
  | isDirectory
  | occupied
  | notText
  | tooManyLinks
  | broken
  deriving DecidableEq, Repr

def FileError.message : FileError → String
  | missing => "No such file or directory (os error 2)"
  | notDirectory => "Not a directory (os error 20)"
  | isDirectory => "Is a directory (os error 21)"
  | occupied => "File exists (os error 17)"
  | notText => "stream did not contain valid UTF-8"
  | tooManyLinks => "Too many levels of symbolic links (os error 40)"
  | broken => "Input/output error (os error 5)"

inductive Step where
  /-- Stay, in what has to be a directory. -/
  | here
  | up
  | down (name : String)
  deriving DecidableEq, Repr

namespace Step

def ofPart (part : List Char) : Step :=
  if part = [] || part = ['.'] then here
  else if part = ['.', '.'] then up
  else down (String.ofList part)

/-- The steps along a path; a slash at its end is one. -/
def ofPath (path : String) : List Step := (Path.splitSlashes path.toList).map ofPart

def ofComponent? : Path.Component → Option Step
  | .name name => some (down name)
  | .parent => some up
  | _ => none

end Step

structure Disk where
  entries : List (Place × Entry)
  /-- The directory that relative paths start from. -/
  home : Place
  deriving DecidableEq

theorem lookup_filter_ne {α β : Type} [BEq α] [LawfulBEq α] [DecidableEq α] (entries : List (α × β))
    {key other : α} (hother : other ≠ key) :
    (entries.filter (·.1 ≠ key)).lookup other = entries.lookup other := by
  induction entries with
  | nil => rfl
  | cons entry entries ih => grind

namespace Disk

def empty : Disk := ⟨[], []⟩

/-- The entry at a place, links not followed; the top is a directory. -/
def at? (disk : Disk) (place : Place) : Option Entry :=
  if place = [] then some .directory else disk.entries.lookup place

def put (disk : Disk) (place : Place) (entry : Entry) : Disk :=
  { disk with entries := (place, entry) :: disk.entries.filter (·.1 ≠ place) }

def remove (disk : Disk) (place : Place) : Disk :=
  { disk with entries := disk.entries.filter (·.1 ≠ place) }

@[simp]
theorem home_put (disk : Disk) (place : Place) (entry : Entry) :
    (disk.put place entry).home = disk.home := rfl

@[simp]
theorem home_remove (disk : Disk) (place : Place) : (disk.remove place).home = disk.home := rfl

@[simp]
theorem at?_nil (disk : Disk) : disk.at? [] = some .directory := rfl

theorem at?_of_ne_nil (disk : Disk) {place : Place} (hplace : place ≠ []) :
    disk.at? place = disk.entries.lookup place := if_neg hplace

theorem at?_remove (disk : Disk) {place : Place} (hplace : place ≠ []) (other : Place) :
    (disk.remove place).at? other = if other = place then none else disk.at? other := by
  split
  · subst other
    rw [at?_of_ne_nil _ hplace, List.lookup_eq_none_iff]
    intro entry hentry
    have hne : entry.1 ≠ place := by simpa using (List.mem_filter.mp hentry).2
    simpa using hne.symm
  · rename_i hother
    by_cases hnil : other = []
    · simp [hnil]
    · simp only [at?_of_ne_nil _ hnil, remove]
      exact lookup_filter_ne disk.entries hother

theorem at?_put (disk : Disk) {place : Place} (hplace : place ≠ []) (entry : Entry)
    (other : Place) :
    (disk.put place entry).at? other = if other = place then some entry else disk.at? other := by
  split
  · subst other
    simp [at?_of_ne_nil _ hplace, put]
  · rename_i hother
    by_cases hnil : other = []
    · simp [hnil]
    · simp only [at?_of_ne_nil _ hnil, put, List.lookup_cons, beq_false_of_ne hother]
      exact lookup_filter_ne disk.entries hother

def linkLimit : Nat := 40

/-- The place that a walk comes to, all links followed; each step is taken from a directory. -/
def walk (disk : Disk) : Nat → Place → List Step → Except FileError Place
  | _, place, [] => .ok place
  | links, place, step :: rest =>
    if disk.at? place ≠ some .directory then .error .notDirectory
    else match step with
      | .here => disk.walk links place rest
      | .up => disk.walk links place.dropLast rest
      | .down name =>
        match disk.at? (place ++ [name]) with
        | none => .error .missing
        | some .directory => disk.walk links (place ++ [name]) rest
        | some (.file _ _) => disk.walk links (place ++ [name]) rest
        | some (.link target) =>
          match links with
          | 0 => .error .tooManyLinks
          | links + 1 =>
            disk.walk links (if Path.isAbsolute target then [] else place)
              (Step.ofPath target ++ rest)
  termination_by links _ steps => (links, steps.length)

def start (disk : Disk) (path : String) : Place := if Path.isAbsolute path then [] else disk.home

/-- The place of what a path leads to. An empty path leads nowhere. -/
def canonical (disk : Disk) (path : String) : Except FileError Place :=
  if path.isEmpty then .error .missing else disk.walk linkLimit (disk.start path) (Step.ofPath path)

def find (disk : Disk) (path : String) : Except FileError Entry := do
  let place ← disk.canonical path
  (disk.at? place).elim (.error .missing) .ok

def hasPath (disk : Disk) (path : String) : Bool := (disk.find path).isOk

def isDirectory (disk : Disk) (path : String) : Bool :=
  match disk.find path with
  | .ok .directory => true
  | _ => false

def contents (disk : Disk) (path : String) : Except FileError Contents := do
  match ← disk.find path with
  | .file contents _ => .ok contents
  | _ => .error .isDirectory

def readText (disk : Disk) (path : String) : Except FileError String := do
  match ← disk.contents path with
  | .text text => .ok text
  | .raw _ => .error .notText

def mode (disk : Disk) (path : String) : Except FileError Nat := do
  match ← disk.find path with
  | .file _ mode => .ok mode
  | _ => .ok 0o755

/-- The directory that holds the entry a path names, and the name; the entry need not exist and is
not followed if it is a link. -/
def locate (disk : Disk) (path : String) : Except FileError (Place × String) :=
  match (Path.components path).reverse with
  | .name name :: parents => do
    let directory ← disk.walk linkLimit (disk.start path) (parents.reverse.filterMap Step.ofComponent?)
    if disk.at? directory = some .directory then .ok (directory, name) else .error .notDirectory
  | _ => .error .isDirectory

def freeName (disk : Disk) (directory : Place) (name : Nat → String) : Nat → Nat → String
  | 0, n => name n
  | fuel + 1, n =>
    if (disk.at? (directory ++ [name n])).isNone then name n
    else disk.freeName directory name fuel (n + 1)

/-- A name for a file that is written before it is put in place. -/
def draftName (disk : Disk) (directory : Place) : String :=
  disk.freeName directory (fun n => ".tmp" ++ toString n) (disk.entries.length + 1) 0

/-- Puts a file in place of the entry at a place; a directory is not replaced. -/
def rename (disk : Disk) (source target : Place) : Except FileError Disk :=
  match disk.at? source with
  | none => .error .missing
  | some entry =>
    if disk.at? target = some .directory then .error .isDirectory
    else .ok ((disk.remove source).put target entry)

end Disk

end Reconcile
