import Reconcile.Files.Disk

/-!
Changing a tree of files by hand: making directories and links, writing and deleting files.
-/

namespace Reconcile.Disk

def plainMode : Nat := 0o644

/-- The place a path leads to, all links followed, where only the last name may be missing. -/
def destination (disk : Disk) : Nat → Place → List Step → Except FileError Place
  | _, place, [] => .ok place
  | links, place, .here :: rest => disk.destination links place rest
  | links, place, .up :: rest => disk.destination links place.dropLast rest
  | links, place, .down name :: rest =>
    match disk.at? (place ++ [name]) with
    | none => if rest.isEmpty then .ok (place ++ [name]) else .error .missing
    | some .directory => disk.destination links (place ++ [name]) rest
    | some (.file _ _) => if rest.isEmpty then .ok (place ++ [name]) else .error .notDirectory
    | some (.link target) =>
      match links with
      | 0 => .error .tooManyLinks
      | links + 1 =>
        disk.destination links (if Path.isAbsolute target then [] else place)
          (Step.ofPath target ++ rest)
  termination_by links _ steps => (links, steps.length)

def add (disk : Disk) (path : String) (entry : Entry) : Except FileError Disk := do
  let (directory, name) ← disk.locate path
  let place := directory ++ [name]
  if (disk.at? place).isSome then .error .occupied else .ok (disk.put place entry)

def makeDirectory (disk : Disk) (path : String) : Except FileError Disk :=
  match disk.add path .directory with
  | .ok disk => .ok disk
  | .error error => if disk.isDirectory path then .ok disk else .error error

/-- Makes the directory that some components lead to, which are given the last first, and those
above it. -/
def makeAbove (disk : Disk) : List Path.Component → Except FileError Disk
  | [] => .ok disk
  | name :: above =>
    let path := Path.ofComponents (name :: above).reverse
    match disk.makeDirectory path with
    | .error .missing => do
      let disk ← disk.makeAbove above
      disk.makeDirectory path
    | result => result

def makeDirectories (disk : Disk) (path : String) : Except FileError Disk :=
  disk.makeAbove (Path.components path).reverse

def makeParents (disk : Disk) (path : String) : Except FileError Disk :=
  disk.makeAbove (Path.components path).reverse.tail

def write (disk : Disk) (path : String) (contents : Contents) : Except FileError Disk := do
  let place ← disk.destination linkLimit (disk.start path) (Step.ofPath path)
  match disk.at? place with
  | none => .ok (disk.put place (.file contents plainMode))
  | some (.file _ mode) => .ok (disk.put place (.file contents mode))
  | _ => .error .isDirectory

def delete (disk : Disk) (path : String) : Except FileError Disk := do
  let (directory, name) ← disk.locate path
  match disk.at? (directory ++ [name]) with
  | none => .error .missing
  | some .directory => .error .isDirectory
  | some _ => .ok (disk.remove (directory ++ [name]))

def setMode (disk : Disk) (path : String) (mode : Nat) : Except FileError Disk := do
  let place ← disk.canonical path
  match disk.at? place with
  | some (.file contents _) => .ok (disk.put place (.file contents mode))
  | some _ => .ok disk
  | none => .error .missing

/-- The paths, relative to a directory, of the files and links below it, sorted. -/
def listing (disk : Disk) (directory : Place) : List String :=
  let below := disk.entries.filterMap fun (place, entry) =>
    if entry ≠ .directory && directory.isPrefixOf place then
      some ("/".intercalate (place.drop directory.length))
    else none
  below.mergeSort (fun a b => !(b < a))

end Reconcile.Disk
