import Reconcile.Diff.Hunks

/-!
Two lists of lines laid side by side. Lines are paired by searching from both ends for a point that
a short list of edits passes through; lines that cannot be paired well are left out of the search.
Then the gaps between paired lines are slid along equal lines, so that gaps join and gaps of the
two lists stand side by side.
-/

namespace Reconcile.Merge

variable {α : Type} [DecidableEq α]

structure Gap (α : Type) where
  mine : List α
  other : List α
  deriving DecidableEq, Repr

/-- Gaps with a shared line after every gap but the last. -/
structure Alignment (α : Type) where
  parts : List (Gap α × α)
  last : Gap α
  deriving DecidableEq, Repr

namespace Alignment

def swap (alignment : Alignment α) : Alignment α where
  parts := alignment.parts.map fun (gap, line) => (⟨gap.other, gap.mine⟩, line)
  last := ⟨alignment.last.other, alignment.last.mine⟩

end Alignment

/-! Pairing. -/

def agreeing : List (Nat × α) → List (Nat × α) → List (Nat × Nat)
  | (i, a) :: as, (j, b) :: bs => if a = b then (i, j) :: agreeing as bs else []
  | _, _ => []

/-- How far a search has come on each diagonal. -/
structure Frontier where
  reach : Array Int
  middle : Nat
  low : Int
  high : Int

namespace Frontier

def start (size middle : Nat) (diagonal place : Int) : Frontier where
  reach := (Array.replicate size 0).setIfInBounds (diagonal + middle).toNat place
  middle
  low := diagonal
  high := diagonal

def get (f : Frontier) (d : Int) : Int := f.reach.getD (d + f.middle).toNat 0

def set (f : Frontier) (d place : Int) : Frontier :=
  { f with reach := f.reach.setIfInBounds (d + f.middle).toNat place }

/-- Widens the range of diagonals by one on each side, or narrows it where it would leave the
range from `least` to `greatest`; `edge` is put beyond a diagonal that is new. -/
def widen (f : Frontier) (least greatest edge : Int) : Frontier :=
  let f := if least < f.low then { f.set (f.low - 2) edge with low := f.low - 1 }
    else { f with low := f.low + 1 }
  if f.high < greatest then { f.set (f.high + 2) edge with high := f.high + 1 }
  else { f with high := f.high - 1 }

def contains (f : Frontier) (d : Int) : Bool := f.low ≤ d && d ≤ f.high

def diagonals (f : Frontier) : List Int :=
  if f.high < f.low then []
  else (List.range ((f.high - f.low).toNat / 2 + 1)).map fun (i : Nat) => f.high - 2 * i

end Frontier

def backAgreement (old new : Array α) : Nat → Nat → Nat
  | x + 1, y + 1 =>
    match old[x]?, new[y]? with
    | some a, some b => if a = b then backAgreement old new x y + 1 else 0
    | _, _ => 0
  | _, _ => 0

/-- A step of the search from the front; `meets` says whether it has come to the other search. -/
def advance (old new : Array α) (meets : Int → Int → Bool) :
    List Int → Frontier → Frontier × Option (Nat × Nat)
  | [], f => (f, none)
  | d :: ds, f =>
    let before := f.get (d - 1)
    let x := if f.get (d + 1) ≤ before then before + 1 else f.get (d + 1)
    let x := x + Diff.agreement old new (old.size + 1) x.toNat (x - d).toNat
    let f := f.set d x
    if meets d x then (f, some (x.toNat, (x - d).toNat)) else advance old new meets ds f

def retreat (old new : Array α) (meets : Int → Int → Bool) :
    List Int → Frontier → Frontier × Option (Nat × Nat)
  | [], f => (f, none)
  | d :: ds, f =>
    let before := f.get (d - 1)
    let x := if before < f.get (d + 1) then before else f.get (d + 1) - 1
    let x := x - backAgreement old new x.toNat (x - d).toNat
    let f := f.set d x
    if meets d x then (f, some (x.toNat, (x - d).toNat)) else retreat old new meets ds f

def crossingFrom (old new : Array α) : Nat → Frontier → Frontier → Nat × Nat
  | 0, _, _ => (0, 0)
  | fuel + 1, front, back =>
    let least := -(new.size : Int)
    let greatest := (old.size : Int)
    let isOdd := (greatest + least) % 2 ≠ 0
    let front := front.widen least greatest (-1)
    match advance old new (fun d x => isOdd && back.contains d && back.get d ≤ x)
        front.diagonals front with
    | (_, some point) => point
    | (front, none) =>
      let back := back.widen least greatest (2 * (greatest - least) + 2)
      match retreat old new (fun d x => !isOdd && front.contains d && x ≤ front.get d)
          back.diagonals back with
      | (_, some point) => point
      | (back, none) => crossingFrom old new fuel front back

/-- A point that a short list of edits passes through. -/
def crossing (old new : Array α) : Nat × Nat :=
  let size := old.size + new.size + 7
  let middle := new.size + 3
  crossingFrom old new size (.start size middle 0 0)
    (.start size middle ((old.size : Int) - new.size) old.size)

def pairs : Nat → List (Nat × α) → List (Nat × α) → List (Nat × Nat)
  | 0, _, _ => []
  | fuel + 1, old, new =>
    let head := agreeing old new
    let old := old.drop head.length
    let new := new.drop head.length
    let tail := (agreeing old.reverse new.reverse).reverse
    let old := old.take (old.length - tail.length)
    let new := new.take (new.length - tail.length)
    let inner :=
      if old.isEmpty || new.isEmpty then []
      else
        let (x, y) := crossing (old.map (·.2)).toArray (new.map (·.2)).toArray
        pairs fuel (old.take x) (new.take y) ++ pairs fuel (old.drop x) (new.drop y)
    head ++ inner ++ tail

/-! Lines that are left out of the search. -/

inductive Frequency where
  | absent
  | rare
  | frequent
  deriving DecidableEq, Repr

/-- A power of two near the square root of a number, by its length in base four. -/
def rootPower : Nat → Nat
  | 0 => 1
  | n + 1 => 2 * rootPower ((n + 1) / 4)
  termination_by n => n

def frequencyLimit : Nat := 1024

def frequency (size : Nat) (other : List α) (line : α) : Frequency :=
  let count := other.count line
  if count = 0 then .absent
  else if min (rootPower size) frequencyLimit ≤ count then .frequent else .rare

def neighbourhood : Nat := 100

def runOfCommon (frequencies : List Frequency) : List Frequency :=
  (frequencies.take neighbourhood).takeWhile (· ≠ .rare)

/-- Whether a frequent line stands among lines that are mostly absent from the other list. -/
def isIsolated (before after : List Frequency) : Bool :=
  let before := runOfCommon before
  let after := runOfCommon after
  let absent := (before ++ after).count .absent
  let frequent := (before ++ after).count .frequent + 2
  before.contains .absent && after.contains .absent && 4 * frequent < frequent + absent

/-- Whether each line takes part in the search; `before` is given the nearest first. -/
def searched : List Frequency → List Frequency → List Bool
  | _, [] => []
  | before, f :: after =>
    (f = .rare || (f = .frequent && !isIsolated before after)) :: searched (f :: before) after

def candidates (size : Nat) (other : List α) (stretch : List (Nat × α)) : List (Nat × α) :=
  let frequencies := stretch.map fun (_, line) => frequency size other line
  ((stretch.zip (searched [] frequencies)).filter (·.2)).map (·.1)

def numbered (lines : List α) : List (Nat × α) := lines.zipIdx.map fun (line, i) => (i, line)

def allPairs (old new : List α) : List (Nat × Nat) :=
  let head := agreeing (numbered old) (numbered new)
  let oldRest := (numbered old).drop head.length
  let newRest := (numbered new).drop head.length
  let tail := (agreeing oldRest.reverse newRest.reverse).reverse
  let oldRest := oldRest.take (oldRest.length - tail.length)
  let newRest := newRest.take (newRest.length - tail.length)
  head ++ pairs (old.length + new.length + 1) (candidates old.length new oldRest)
    (candidates new.length old newRest) ++ tail

/-- Lays two lists side by side, from two places on, by the places of paired lines. -/
def layOut : Nat → Nat → List α → List α → List (Nat × Nat) → Alignment α
  | _, _, old, new, [] => ⟨[], old, new⟩
  | i, j, old, new, (x, y) :: rest =>
    let gap : Gap α := ⟨old.take (x - i), new.take (y - j)⟩
    match old.drop (x - i) with
    | [] => ⟨[], old, new⟩
    | line :: old =>
      let below := layOut (x + 1) (y + 1) old (new.drop (y - j + 1)) rest
      { below with parts := (gap, line) :: below.parts }

/-! Sliding gaps. -/

/-- A gap with what stands before it, the nearest first, and after it. -/
structure Cursor (α : Type) where
  before : List (Gap α × α)
  gap : Gap α
  after : List (α × Gap α)

namespace Cursor

def slideUp? (c : Cursor α) : Option (Cursor α) :=
  match c.before with
  | [] => none
  | (above, line) :: before =>
    if c.gap.mine.getLast? = some line then
      some ⟨before, ⟨above.mine ++ line :: c.gap.mine.dropLast, above.other⟩,
        (line, ⟨[], c.gap.other⟩) :: c.after⟩
    else none

def slideDown? (c : Cursor α) : Option (Cursor α) :=
  match c.after with
  | [] => none
  | (line, below) :: after =>
    if c.gap.mine.head? = some line then
      some ⟨(⟨[], c.gap.other⟩, line) :: c.before,
        ⟨c.gap.mine.tail ++ line :: below.mine, below.other⟩, after⟩
    else none

def top : Nat → Cursor α → Cursor α
  | 0, c => c
  | fuel + 1, c => c.slideUp?.elim c (top fuel)

/-- Slides down as far as the gap goes; says whether the other list had lines beside the gap
somewhere on the way, and whether the gap moved. -/
def bottom : Nat → Bool → Bool → Cursor α → Cursor α × Bool × Bool
  | 0, faces, moved, c => (c, faces || !c.gap.other.isEmpty, moved)
  | fuel + 1, faces, moved, c =>
    let faces := faces || !c.gap.other.isEmpty
    match c.slideDown? with
    | none => (c, faces, moved)
    | some c => bottom fuel faces true c

/-- Slides up and down until no more gaps join. -/
def stretch : Nat → Cursor α → Cursor α × Bool × Bool
  | 0, c => (c, false, false)
  | fuel + 1, c =>
    let (below, faces, moved) :=
      (let c := c.top c.before.length
       c.bottom c.after.length false false)
    if below.gap.mine.length = c.gap.mine.length then (below, faces, moved) else stretch fuel below

def toFacing : Nat → Cursor α → Cursor α
  | 0, c => c
  | fuel + 1, c => if c.gap.other.isEmpty then c.slideUp?.elim c (toFacing fuel) else c

/-- Slides the gap down, or to where it faces a gap of the other list. -/
def settle (c : Cursor α) : Cursor α :=
  if c.gap.mine.isEmpty then c
  else
    let (c, faces, moved) := c.stretch (c.before.length + c.after.length + 1)
    if moved && faces then c.toFacing c.before.length else c

def settleAll : Nat → Cursor α → Cursor α
  | 0, c => c
  | fuel + 1, c =>
    let c := c.settle
    match c.after with
    | [] => c
    | (line, below) :: after => settleAll fuel ⟨(c.gap, line) :: c.before, below, after⟩

end Cursor

namespace Alignment

def tailOf : List (Gap α × α) → Gap α → Gap α × List (α × Gap α)
  | [], last => (last, [])
  | (gap, line) :: rest, last =>
    let (next, after) := tailOf rest last
    (gap, (line, next) :: after)

def settleMine (alignment : Alignment α) : Alignment α :=
  let (gap, after) := tailOf alignment.parts alignment.last
  let c := Cursor.settleAll (after.length + 1) ⟨[], gap, after⟩
  ⟨c.before.reverse, c.gap⟩

def of (old new : List α) : Alignment α :=
  (layOut 0 0 old new (allPairs old new)).settleMine.swap.settleMine.swap

def editOf (i j : Nat) (gap : Gap α) : List Diff.Edit :=
  if gap.mine.isEmpty && gap.other.isEmpty then []
  else [⟨i, gap.mine.length, j, gap.other.length⟩]

def editsFrom : Nat → Nat → List (Gap α × α) → Gap α → List Diff.Edit
  | i, j, [], last => editOf i j last
  | i, j, (gap, _) :: rest, last =>
    editOf i j gap ++
      editsFrom (i + gap.mine.length + 1) (j + gap.other.length + 1) rest last

def edits (alignment : Alignment α) : List Diff.Edit :=
  editsFrom 0 0 alignment.parts alignment.last

end Alignment

end Reconcile.Merge
