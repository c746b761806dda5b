import Reconcile.Conflict.Basic
import Reconcile.Resolution.Comment
import Reconcile.Text.Significant

/-!
Ways of resolving a conflict. A strategy accepts some conflicts; one it accepts it may still
decline, when it finds that it cannot give a safe result.
-/

namespace Reconcile

structure Resolution where
  content : String
  strategy : String
  explanation : String
  deriving DecidableEq, Repr

inductive Attempt where
  | resolved (resolution : Resolution)
  | declined (reason : String)
  | failed (detail : String)
  /-- The strategy broke off without an answer. -/
  | aborted
  /-- The strategy gave an answer only after its time was up. -/
  | late (resolution : Resolution)
  deriving DecidableEq, Repr

structure Strategy where
  name : String
  /-- Whether the strategy is made to resolve every conflict. -/
  isTerminal : Bool
  accepts : Conflict → Bool
  attempt : Conflict → Attempt
  risks : Conflict → List String
  /-- Under which name a failure on a conflict is told. -/
  label : Conflict → String := fun _ => name

namespace Resolution

def blockCount (n : Nat) : String :=
  if n = 1 then "1 conflict block" else toString n ++ " conflict blocks"

def blocksOf (conflict : Conflict) : String := blockCount conflict.blocks.length

def keepOurs (conflict : Conflict) : String :=
  Block.replaceAll conflict.text conflict.blocks (·.ours)

def endLine (text : String) : String :=
  if text.isEmpty || text.toList.getLast? = some '\n' then text else text ++ "\n"

end Resolution

namespace Strategy

open Resolution

/-- Keeps our side where the sides differ only in layout and comments. -/
def trivialMerge : Strategy where
  name := "TrivialMerge"
  isTerminal := false
  accepts conflict := conflict.kind = .trivial
  attempt conflict :=
    match conflict.blocks.find? fun b => !Text.sameSignificance b.ours b.theirs with
    | some block =>
      .declined ("block at line " ++ toString block.startLine ++ " differs beyond whitespace")
    | none => .resolved ⟨keepOurs conflict, "TrivialMerge", blocksOf conflict ++
        " differ only in whitespace or comment-only lines; kept the current branch's text."⟩
  risks conflict :=
    if conflict.blocks.any fun b => b.ours ≠ b.theirs then
      ["Formatting or comments from the incoming branch are discarded"]
    else []

def separator : String := "mergeguard: merged from incoming branch"

def appendFiles (style : CommentStyle) (ours theirs : String) : String :=
  endLine ours ++ style.comment separator ++ "\n" ++ theirs

def addedCount (conflict : Conflict) : Nat :=
  (conflict.changes?.map (·.added.length)).getD 0

/-- Appends their file to ours where both sides only added declarations. -/
def structuralMerge : Strategy where
  name := "StructuralMerge"
  isTerminal := false
  accepts conflict := conflict.kind = .structural && conflict.changes?.isSome
  attempt conflict :=
    match conflict.changes? with
    | none => .declined "no structural diff"
    | some changes =>
      if !changes.modified.isEmpty then
        .declined (toString changes.modified.length ++ " declarations modified on both sides")
      else match conflict.ours, conflict.theirs with
        | some ours, some theirs =>
          match CommentStyle.ofPath? conflict.path with
          | none => .declined "no comment syntax for separator"
          | some style => .resolved ⟨appendFiles style ours theirs, "StructuralMerge",
              "Both branches only added top-level declarations (" ++
                toString (addedCount conflict) ++
                " added); appended the incoming file after the current one."⟩
        | _, _ => .declined "whole-file contents unavailable"
  risks conflict :=
    ["Declarations present in both versions appear twice and must be deduplicated"] ++
    (if conflict.changes?.any (·.touchesImports) then
      ["Imports from the incoming branch follow the current file's body"] else []) ++
    (if conflict.changes?.any (·.touchesExports) then
      ["Exported API changed; check dependants"] else [])

def banner (block : Block) : String :=
  "mergeguard: manual review required (concurrent edit, lines " ++ toString block.startLine ++ "-" ++
    toString block.endLine ++ ")"

def commentLines (style : CommentStyle) (lines : List String) : String :=
  String.join (lines.map fun line => style.comment line ++ "\n")

/-- Our side of a block, with the other side as comments below it. -/
def annotate (style : CommentStyle) (block : Block) : String :=
  endLine (commentLines style [banner block] ++ block.ours) ++
    commentLines style ["---- incoming version (not applied) ----"] ++
    commentLines style (Text.stringLines block.theirs) ++
    commentLines style ["---- end incoming version ----"]

/-- Keeps our side and adds the other as comments. -/
def concurrentEdit : Strategy where
  name := "ConcurrentEdit"
  isTerminal := false
  accepts conflict := conflict.kind = .concurrentEdit || conflict.kind = .semantic
  attempt conflict :=
    match CommentStyle.ofPath? conflict.path with
    | none => .declined ("no comment syntax known for " ++ conflict.path)
    | some style =>
      .resolved ⟨Block.replaceAll conflict.text conflict.blocks (annotate style), "ConcurrentEdit",
        "Both branches changed the same lines in " ++ blocksOf conflict ++
          ". Kept the current branch and included the incoming version as comments; " ++
          "manual review required."⟩
  risks conflict :=
    ["Incoming changes are preserved as comments only and are not applied",
      "Review banners and commented code must be removed after review"] ++
    (if conflict.kind = .semantic then ["Existing declarations were changed on both sides"]
     else [])

def fallback : Strategy where
  name := "Fallback"
  isTerminal := true
  accepts _ := true
  attempt conflict := .resolved ⟨keepOurs conflict, "Fallback",
    "Kept the current branch's side of " ++ blocksOf conflict ++
      "; incoming changes were discarded. Manual review is mandatory."⟩
  risks conflict :=
    ["Incoming changes in " ++ blocksOf conflict ++ " are discarded"] ++
    (if conflict.kind ≠ .trivial then
      ["Conflict classified " ++ conflict.kind.name ++ "; automatic resolution was not possible"]
     else [])

def standard : List Strategy := [trivialMerge, structuralMerge, concurrentEdit, fallback]

end Strategy

end Reconcile
