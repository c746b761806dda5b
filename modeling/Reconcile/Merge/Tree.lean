import Reconcile.Conflict.Basic
import Reconcile.Merge.Overlap
import Reconcile.Merge.Rename
import Reconcile.Merge.ThreeWay
import Reconcile.Total

/-!
Merging the files of two commits by those of a third. A file that one side alone changed or moved is
taken from it, and one that both changed is merged line by line; where that fails the file clashes
at each path where a version of it lies.
-/

namespace Reconcile.Merge

def contentsMerge (base : Option Contents) (ours theirs : Contents) : Bool :=
  match base.getD (.text ""), ours, theirs with
  | .text base, .text ours, .text theirs =>
    mergesCleanly (Text.pieces base.toList) (Text.pieces ours.toList) (Text.pieces theirs.toList)
  | _, _, _ => false

structure Side where
  files : FileTree
  renames : List Rename

namespace Side

def target? (side : Side) (path : String) : Option String :=
  (side.renames.find? (·.source = path)).map (·.target)

def isTarget (side : Side) (path : String) : Bool := side.renames.any (·.target = path)

/-- What has become of the file at a path of the base, and where it lies. A file that was moved is
the version of the path it came from. -/
def version? (side : Side) (path : String) : Option (String × Contents) :=
  if side.isTarget path then none
  else
    let place := (side.target? path).getD path
    (side.files.lookup place).map (place, ·)

/-- Whether the file was moved from a path to one where the other side has a different file. -/
def intrudes (side other : Side) (path : String) : Bool :=
  (side.target? path).any fun target =>
    (other.files.lookup target).isSome && other.target? path ≠ some target

end Side

structure Versions where
  base : Option (String × Contents)
  ours : Option (String × Contents)
  theirs : Option (String × Contents)
  /-- Whether the sides disagree on what lies at one of the paths, or on the path of the file. -/
  isContested : Bool
  isMovedTwice : Bool

namespace Versions

def ofPath (base : FileTree) (ours theirs : Side) (path : String) : Versions where
  base := (base.lookup path).map (path, ·)
  ours := ours.version? path
  theirs := theirs.version? path
  isContested := ours.intrudes theirs path || theirs.intrudes ours path ||
    (ours.isTarget path && (theirs.version? path).isSome) ||
    (theirs.isTarget path && (ours.version? path).isSome) ||
    ((ours.target? path).isSome && (theirs.target? path).isSome &&
      ours.target? path ≠ theirs.target? path)
  isMovedTwice := (ours.target? path).isSome && (theirs.target? path).isSome

def isSettled (versions : Versions) : Bool :=
  let base := versions.base.map (·.2)
  let ours := versions.ours.map (·.2)
  let theirs := versions.theirs.map (·.2)
  !versions.isContested && (ours = theirs || base = ours || base = theirs ||
    match ours, theirs with
    | some ours, some theirs => !versions.isMovedTwice && contentsMerge base ours theirs
    | _, _ => false)

end Versions

/-- The versions that lie at one path and could not be merged; an absent one does not lie there. -/
structure Clash where
  path : String
  base : Option Contents
  ours : Option Contents
  theirs : Option Contents
  deriving DecidableEq

namespace Clash

def isPlain (c : Char) : Bool :=
  (31 < c.toNat && c.toNat ≠ 127) || [8, 12, 27].contains c.toNat

def isStrange (c : Char) : Bool :=
  !isPlain c && !(9 ≤ c.toNat && c.toNat ≤ 13)

def sampleSize : Nat := 8000

def sample : Nat → List Char → List Char
  | _, [] => []
  | room, c :: rest => if room = 0 then [] else c :: sample (room - c.utf8Size) rest

/-- Whether a text looks like data: it has a null, or too many strange characters. -/
def isData (text : String) : Bool :=
  let chars := sample sampleSize text.toList
  let plain := total ((chars.filter isPlain).map Char.utf8Size)
  chars.contains '\x00' || plain / 128 < chars.countP isStrange

def text? : Option Contents → Option String
  | none => some ""
  | some (.text text) => if isData text then none else some text
  | some (.raw _) => none

def snapshot? (clash : Clash) : Option Snapshot := do
  let base ← text? clash.base
  let ours ← text? clash.ours
  let theirs ← text? clash.theirs
  let text ← conflictText? base ours theirs
  some { path := clash.path, text, ours := some ours, theirs := some theirs
         base := clash.base.map fun _ => base }

end Clash

def paths (base ours theirs : FileTree) : List String :=
  (((base ++ ours ++ theirs).map (·.1)).eraseDups).mergeSort fun a b => !(b < a)

def Clash.ofVersions (unsettled : List Versions) (path : String) : Clash where
  path := path
  base := (unsettled.filterMap (·.base)).lookup path
  ours := (unsettled.filterMap (·.ours)).lookup path
  theirs := (unsettled.filterMap (·.theirs)).lookup path

def renameLimit : Nat := 200

def clashes (base ours theirs : FileTree) : List Clash :=
  let paths := paths base ours theirs
  let inOrder (tree : FileTree) := paths.filterMap fun path => (tree.lookup path).map (path, ·)
  let differing := paths.filter fun path =>
    base.lookup path ≠ ours.lookup path || base.lookup path ≠ theirs.lookup path
  let side (tree : FileTree) : Side :=
    ⟨tree, Rename.ofTrees (differing.length ≤ renameLimit) (inOrder base) (inOrder tree)⟩
  let unsettled := (paths.map (Versions.ofPath base (side ours) (side theirs))).filter (!·.isSettled)
  (paths.map (Clash.ofVersions unsettled)).filter fun clash =>
    clash.base.isSome || clash.ours.isSome || clash.theirs.isSome

end Reconcile.Merge
