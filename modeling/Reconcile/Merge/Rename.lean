import Reconcile.History.Basic

/-!
Files that moved between two trees. A path that was given up is matched with one that came into
use, if the files there are the same or have enough of their lines in common.
-/

namespace Reconcile.Merge

def isInlineBlank (byte : UInt8) : Bool := [9, 11, 12, 13, 32].contains byte

/-- The hashes of the stretches of lines that have been read, the last first, and the stretch that
is being read. -/
structure Shingles where
  hashes : List UInt32
  hash : UInt64
  length : Nat
  atMargin : Bool
  /-- Whether a stretch has just ended, so that ends of lines are passed over. -/
  isBetween : Bool

namespace Shingles

def seed : UInt64 := 0x012345678ABCDEF0

def maxLength : Nat := 80

def empty : Shingles := ⟨[], seed, 0, true, false⟩

def close (s : Shingles) (atMargin : Bool) : Shingles :=
  if s.length = 0 then { s with atMargin, isBetween := false }
  else ⟨s.hash.toUInt32 :: s.hashes, seed, 0, atMargin, true⟩

def add (s : Shingles) (byte : UInt8) : Shingles :=
  let isEnd := byte = 10 || byte = 0
  if s.isBetween && isEnd then s
  else if byte = 13 || (s.atMargin && isInlineBlank byte) then { s with isBetween := false }
  else if isEnd then s.close (byte = 10)
  else
    let longer := ⟨s.hashes, 31 * s.hash + byte.toUInt64, s.length + 1, false, false⟩
    if longer.length = maxLength then longer.close false else longer

def ofBytes (bytes : List UInt8) : List UInt32 :=
  ((bytes.foldl add empty).close false).hashes.reverse

end Shingles

/-- Samples of the hashes of a file, the worst hash first: one prefers low hashes, one high ones. -/
structure Sketch where
  low : List UInt32
  high : List UInt32

namespace Sketch

def maxSize : Nat := 127

def minSize : Nat := 4

/-- Offers a hash to a sample. A full sample that prefers it gives up its worst hash instead. -/
def offer (prefers : UInt32 → UInt32 → Bool) (sample : List UInt32) (hash : UInt32) : List UInt32 :=
  if sample.length < maxSize then
    sample.takeWhile (prefers hash) ++ hash :: sample.dropWhile (prefers hash)
  else if sample.head?.any (prefers hash) then sample.tail
  else sample

def ofContents? (contents : Contents) : Option Sketch :=
  let hashes := Shingles.ofBytes contents.bytes
  let low := hashes.foldl (offer (· < ·)) []
  if low.length < minSize then none else some ⟨low, hashes.foldl (offer (· > ·)) []⟩

def common : List UInt32 → List UInt32 → Nat
  | [], _ => 0
  | hash :: rest, other =>
    if other.contains hash then common rest (other.erase hash) + 1 else common rest other

def overlap (a b : List UInt32) : Nat := 100 * (common a b * 2) / (a.length + b.length)

def likeness (a b : Sketch) : Nat :=
  if a.low.length < maxSize then overlap a.low b.low
  else (overlap a.low b.low + overlap a.high b.high) / 2

end Sketch

/-- A path that was given up, the one that came into use for it, and how alike the files there are,
of a hundred. -/
structure Rename where
  source : String
  target : String
  likeness : Nat
  deriving DecidableEq, Repr

namespace Rename

def threshold : Nat := 50

/-- Moves of files that did not change, each to the first path that can be matched. -/
def unchanged : FileTree → FileTree → List Rename
  | _, [] => []
  | sources, (path, contents) :: targets =>
    match sources.find? (·.2 = contents) with
    | some source => ⟨source.1, path, 100⟩ :: unchanged (sources.erase source) targets
    | none => unchanged sources targets

def rivals (a b : Rename) : Bool := a.source = b.source || a.target = b.target

/-- Puts a move in the place of its rivals if it is better than each. -/
def improve (renames : List Rename) (rename : Rename) : List Rename :=
  let others := renames.filter rename.rivals
  if 0 < rename.likeness && others.all (·.likeness < rename.likeness) then
    rename :: renames.filter fun other => !rename.rivals other
  else renames

def possible (sources targets : FileTree) : List Rename :=
  let sketches := targets.map fun (path, contents) => (path, Sketch.ofContents? contents)
  sources.flatMap fun (source, contents) =>
    match Sketch.ofContents? contents with
    | none => []
    | some sketch => sketches.filterMap fun (target, other) =>
      other.map fun other => ⟨source, target, sketch.likeness other⟩

/-- The moves from one tree to another, whose files are given in the order of their paths. Files
that changed are looked at only where that is asked for. -/
def ofTrees (alsoChanged : Bool) (old new : FileTree) : List Rename :=
  let sources := old.filter fun (path, _) => (new.lookup path).isNone
  let targets := new.filter fun (path, _) => (old.lookup path).isNone
  let renames := unchanged sources targets
  let changed := if alsoChanged then possible sources targets else []
  (changed.foldl improve renames).filter (threshold ≤ ·.likeness)

end Rename

end Reconcile.Merge
