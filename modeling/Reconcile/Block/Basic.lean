import Reconcile.Block.Marker

/-!
Conflict blocks: reading them from a text, and writing a text with each block replaced.
-/

namespace Reconcile

/-- One conflict block; lines are numbered from one. -/
structure Block where
  startLine : Nat
  dividerLine : Nat
  endLine : Nat
  ours : String
  theirs : String
  base : Option String
  deriving DecidableEq, Repr

namespace Block

def changedLines (block : Block) : Nat :=
  Text.countLines block.ours + Text.countLines block.theirs

structure Opening where
  startLine : Nat
  hasBase : Bool
  dividerLine : Option Nat
  ours : List Char
  base : List Char
  theirs : List Char

namespace Opening

def fresh (line : Nat) : Opening := ⟨line, false, none, [], [], []⟩

def push (opening : Opening) (piece : List Char) : Opening :=
  if opening.dividerLine.isSome then { opening with theirs := opening.theirs ++ piece }
  else if opening.hasBase then { opening with base := opening.base ++ piece }
  else { opening with ours := opening.ours ++ piece }

def close? (opening : Opening) (line : Nat) : Option Block :=
  opening.dividerLine.map fun divider =>
    { startLine := opening.startLine
      dividerLine := divider
      endLine := line
      ours := String.ofList opening.ours
      theirs := String.ofList opening.theirs
      base := if opening.hasBase then some (String.ofList opening.base) else none }

end Opening

/-- Reads blocks from the pieces that begin at `line`, with `opening` the block being read. -/
def scan (line : Nat) (opening : Option Opening) : List (List Char) → List Block
  | [] => []
  | piece :: rest =>
    match Marker.ofLine? (Text.unfed piece), opening with
    | some .start, _ => scan (line + 1) (some (.fresh line)) rest
    | _, none => scan (line + 1) none rest
    | some .finish, some o => (o.close? line).toList ++ scan (line + 1) none rest
    | some .base, some o =>
      if o.hasBase || o.dividerLine.isSome then scan (line + 1) (some (o.push piece)) rest
      else scan (line + 1) (some { o with hasBase := true }) rest
    | some .divider, some o =>
      if o.dividerLine.isSome then scan (line + 1) (some (o.push piece)) rest
      else scan (line + 1) (some { o with dividerLine := some line }) rest
    | none, some o => scan (line + 1) (some (o.push piece)) rest

def ofText (text : String) : List Block := scan 1 none (Text.pieces text.toList)

section Replacing

variable {m : Type → Type} [Monad m]

/-- Writes the pieces that begin at `line`, with each pending block replaced by what is picked for it
when its first line is come to. -/
def replaceFromM (pick : Block → m String) (line : Nat) :
    List Block → List (List Char) → m (List Char)
  | _, [] => return []
  | [], piece :: rest => return piece ++ (← replaceFromM pick (line + 1) [] rest)
  | block :: pending, piece :: rest =>
    if line = block.startLine then do
      let picked ← pick block
      return picked.toList ++ (← replaceFromM pick (line + 1) (block :: pending) rest)
    else if block.startLine < line ∧ line < block.endLine then
      replaceFromM pick (line + 1) (block :: pending) rest
    else if line = block.endLine then replaceFromM pick (line + 1) pending rest
    else return piece ++ (← replaceFromM pick (line + 1) (block :: pending) rest)

def replaceAllM (text : String) (blocks : List Block) (pick : Block → m String) : m String :=
  return String.ofList (← replaceFromM pick 1 blocks (Text.pieces text.toList))

end Replacing

def replaceAll (text : String) (blocks : List Block) (pick : Block → String) : String :=
  Id.run (replaceAllM text blocks fun block => pure (pick block))

end Block

end Reconcile
