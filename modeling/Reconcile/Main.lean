import Reconcile.Command.Codec
import Reconcile.Command.Run

/-!
The command line. Standard input holds a workspace, and commands that are run in it first; the
words of the command line are the last command, the only one whose output is shown.
-/

namespace Reconcile

def Workspace.runAll (workspace : Workspace) (commands : List (List String)) : Workspace :=
  commands.foldl (fun workspace words => (workspace.run words).2) workspace

def ending (input : String) (words : List String) : Ending :=
  match (Json.parse? input).bind Workspace.ofJson? with
  | none => ⟨1, "", "the workspace cannot be read\n"⟩
  | some (workspace, commands) => ((workspace.runAll commands).run words).1

end Reconcile

def main (words : List String) : IO UInt32 := do
  let input ← (← IO.getStdin).readToEnd
  let ending := Reconcile.ending input words
  IO.print ending.out
  IO.eprint ending.err
  return ending.code.toUInt32
