import Reconcile.Text.Lines
import Reconcile.Total

/-!
The runs of items that one list keeps of another, loses and gains. A shortest list of runs is found
by searching from both ends at once for a point that such a list passes through.
-/

namespace Reconcile.Diff

inductive Action where
  | keep
  | delete
  | insert
  deriving DecidableEq, Repr

structure Run (α : Type) where
  action : Action
  items : List α
  deriving DecidableEq, Repr

variable {α : Type} [DecidableEq α]

def commonPrefix : List α → List α → List α
  | a :: as, b :: bs => if a = b then a :: commonPrefix as bs else []
  | _, _ => []

def commonSuffix (as bs : List α) : List α := (commonPrefix as.reverse bs.reverse).reverse

/-- How far a search from one end has come on each diagonal; the middle entry is diagonal zero. -/
abbrev Reach := Array Nat

def Reach.fresh (size : Nat) : Reach := Array.replicate (2 * size + 3) 0

def Reach.place (size : Nat) (k : Int) : Nat := (k + size + 1).toNat

def entry (reach : Reach) (size d : Nat) (k : Int) : Nat :=
  let below := reach.getD (Reach.place size (k - 1)) 0
  let above := reach.getD (Reach.place size (k + 1)) 0
  if k = -(d : Int) || (k ≠ d && below < above) then above else below + 1

def agreement (old new : Array α) : Nat → Nat → Nat → Nat
  | 0, _, _ => 0
  | fuel + 1, x, y =>
    match old[x]?, new[y]? with
    | some a, some b => if a = b then agreement old new fuel (x + 1) (y + 1) + 1 else 0
    | _, _ => 0

/-- One search over the diagonals of a step. It ends at a diagonal where it meets the other search,
with the place where it entered that diagonal and the place it came to. -/
def sweep (old new : Array α) (size d : Nat) (other : Reach) (meets : Int → Bool) (delta : Int) :
    List Int → Reach → Reach × Option ((Nat × Nat) × (Nat × Nat))
  | [], reach => (reach, none)
  | k :: ks, reach =>
    let x := entry reach size d k
    let y := ((x : Int) - k).toNat
    let run := agreement old new (old.size + 1) x y
    let reach := reach.setIfInBounds (Reach.place size k) (x + run)
    let across := other.getD (Reach.place size (delta - k)) 0
    if meets k && old.size ≤ x + run + across then
      (reach, some ((x, y), (x + run, y + run)))
    else sweep old new size d other meets delta ks reach

def diagonals (d : Nat) : List Int := (List.range (d + 1)).map fun (i : Nat) => (d : Int) - 2 * i

/-- Steps from both ends until the searches meet; gives the place of the meeting. -/
def meeting (old new oldBack newBack : Array α) (size : Nat) (delta : Int) :
    Nat → Nat → Reach → Reach → Nat × Nat
  | 0, _, _, _ => (0, 0)
  | fuel + 1, d, front, back =>
    let isOdd := delta % 2 ≠ 0
    let near (bound : Int) (k : Int) : Bool := ((k - delta).natAbs : Int) ≤ bound
    match sweep old new size d back (fun k => isOdd && near ((d : Int) - 1) k) delta
        (diagonals d) front with
    | (_, some (start, _)) => start
    | (front, none) =>
      match sweep oldBack newBack size d front (fun k => !isOdd && near d k) delta
          (diagonals d) back with
      | (_, some (_, (x, y))) => (old.size - x, new.size - y)
      | (back, none) => meeting old new oldBack newBack size delta fuel (d + 1) front back

/-- A place that a shortest list of runs passes through. -/
def middle (old new : List α) : Nat × Nat :=
  let size := (old.length + new.length + 1) / 2 + 1
  meeting old.toArray new.toArray old.reverse.toArray new.reverse.toArray size
    ((old.length : Int) - new.length) size 0 (.fresh size) (.fresh size)

def runOf (action : Action) (items : List α) : List (Run α) :=
  if items.isEmpty then [] else [⟨action, items⟩]

def shortest : Nat → List α → List α → List (Run α)
  | 0, old, new => runOf .delete old ++ runOf .insert new
  | fuel + 1, old, new =>
    let head := commonPrefix old new
    let old := old.drop head.length
    let new := new.drop head.length
    let tail := commonSuffix old new
    let old := old.take (old.length - tail.length)
    let new := new.take (new.length - tail.length)
    let inner :=
      if old.isEmpty || new.isEmpty then runOf .insert new ++ runOf .delete old
      else
        let (x, y) := middle old new
        shortest fuel (old.take x) (new.take y) ++ shortest fuel (old.drop x) (new.drop y)
    runOf .keep head ++ inner ++ runOf .keep tail

/-- A list of runs with a place in it: the runs before it, the nearest first, one run, and the runs
after it. -/
structure Focus (α : Type) where
  before : List (Run α)
  run : Run α
  after : List (Run α)

def keepBefore (items : List α) : List (Run α) → List (Run α)
  | ⟨.keep, held⟩ :: rest => ⟨.keep, items ++ held⟩ :: rest
  | runs => ⟨.keep, items⟩ :: runs

def keepAfter (items : List α) : List (Run α) → List (Run α)
  | ⟨.keep, held⟩ :: rest => ⟨.keep, held ++ items⟩ :: rest
  | runs => ⟨.keep, items⟩ :: runs

/-- Moves a run towards the front as far as it goes, joining it with runs of its kind. -/
def moveUp : Nat → Focus α → Focus α
  | 0, focus => focus
  | fuel + 1, focus =>
    match focus.before with
    | [] => focus
    | previous :: rest =>
      if previous.action = focus.run.action then
        moveUp fuel { focus with
          before := rest, run := ⟨focus.run.action, previous.items ++ focus.run.items⟩ }
      else if previous.action ≠ .keep then
        moveUp fuel { focus with before := rest, after := previous :: focus.after }
      else
        let shared := commonSuffix focus.run.items previous.items
        let left := previous.items.take (previous.items.length - shared.length)
        if shared.isEmpty then
          if previous.items.isEmpty then moveUp fuel { focus with before := rest } else focus
        else
          moveUp fuel {
            before := if left.isEmpty then rest else ⟨.keep, left⟩ :: rest
            run := ⟨focus.run.action,
              shared ++ focus.run.items.take (focus.run.items.length - shared.length)⟩
            after := keepBefore shared focus.after }

def moveDown : Nat → Focus α → Focus α
  | 0, focus => focus
  | fuel + 1, focus =>
    match focus.after with
    | [] => focus
    | following :: rest =>
      if following.action = focus.run.action then
        moveDown fuel { focus with
          after := rest, run := ⟨focus.run.action, focus.run.items ++ following.items⟩ }
      else if following.action ≠ .keep then
        moveDown fuel { focus with before := following :: focus.before, after := rest }
      else
        let shared := commonPrefix focus.run.items following.items
        let left := following.items.drop shared.length
        if shared.isEmpty then
          if following.items.isEmpty then moveDown fuel { focus with after := rest } else focus
        else
          moveDown fuel {
            before := keepAfter shared focus.before
            run := ⟨focus.run.action, focus.run.items.drop shared.length ++ shared⟩
            after := if left.isEmpty then rest else ⟨.keep, left⟩ :: rest }

/-- Moves every run of an action up and then down; `before` holds the runs that are done. -/
def settle (action : Action) (bound : Nat) : Nat → List (Run α) → List (Run α) → List (Run α)
  | 0, before, after => before.reverse ++ after
  | _ + 1, before, [] => before.reverse
  | fuel + 1, before, run :: after =>
    if run.action = action then
      let focus := moveDown bound (moveUp bound ⟨before, run, after⟩)
      settle action bound fuel (focus.run :: focus.before) focus.after
    else settle action bound fuel (run :: before) after

/-- Runs after deletions, and then insertions, have been moved and joined. -/
def compact (runs : List (Run α)) : List (Run α) :=
  let bound := 2 * (total (runs.map fun run => run.items.length + 1) + 1)
  settle .insert bound bound [] (settle .delete bound bound [] runs)

def runs (old new : List α) : List (Run α) :=
  compact (shortest (old.length + new.length + 1) old new)

end Reconcile.Diff
