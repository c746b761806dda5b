import Reconcile.Resolution.Strategy

/-!
Strategies in the order in which they are tried. The last one of a chain is terminal, so that a
chain does not run out of strategies.
-/

namespace Reconcile

inductive ChainFault where
  | empty
  | missingTerminal (last : String)
  deriving DecidableEq, Repr

def ChainFault.message : ChainFault → String
  | empty => "strategy chain is empty"
  | missingTerminal last =>
    "last strategy '" ++ last ++ "' is not terminal; the chain could run out of strategies"

structure Chain where
  strategies : List Strategy
  endsTerminal : strategies.getLast?.any (·.isTerminal) = true

inductive ChainResult where
  | resolved (resolution : Resolution)
  | failed (strategy detail : String)
  | aborted (strategy : String)
  | exhausted (path : String)
  deriving DecidableEq, Repr

namespace Chain

def ofList (strategies : List Strategy) : Except ChainFault Chain :=
  match h : strategies.getLast? with
  | none => .error .empty
  | some last =>
    if ht : last.isTerminal then .ok ⟨strategies, by simp [h, ht]⟩
    else .error (.missingTerminal last.name)

def standard : Chain := ⟨Strategy.standard, rfl⟩

def candidates (chain : Chain) (conflict : Conflict) : List Strategy :=
  chain.strategies.filter (·.accepts conflict)

/-- Tries candidates one after another until one does not decline. -/
def tryAll (conflict : Conflict) : List Strategy → ChainResult
  | [] => .exhausted conflict.path
  | strategy :: rest =>
    match strategy.attempt conflict with
    | .resolved resolution | .late resolution => .resolved resolution
    | .declined _ => tryAll conflict rest
    | .failed detail => .failed (strategy.label conflict) detail
    | .aborted => .aborted strategy.name

def quotedChar (c : Char) : List Char :=
  if c = '"' || c = '\\' then ['\\', c]
  else if c = '\n' then ['\\', 'n']
  else if c = '\r' then ['\\', 'r']
  else if c = '\t' then ['\\', 't']
  else if c.toNat = 0 then ['\\', '0']
  else if c.toNat < 32 || c.toNat = 127 then
    ['\\', 'u', '\x7b'] ++ Nat.toDigits 16 c.toNat ++ ['\x7d']
  else [c]

def quoted (name : String) : String :=
  String.ofList ('"' :: name.toList.flatMap quotedChar ++ ['"'])

def text (chain : Chain) : String :=
  "[" ++ ", ".intercalate (chain.strategies.map fun strategy => quoted strategy.name) ++ "]"

def resolve (chain : Chain) (conflict : Conflict) : ChainResult :=
  tryAll conflict (chain.candidates conflict)

end Chain

def declinedMessage (strategy reason : String) : String :=
  "strategy '" ++ strategy ++ "' could not resolve conflict: " ++ reason

def failedMessage (strategy detail : String) : String :=
  "strategy '" ++ strategy ++ "' failed unexpectedly: " ++ detail

def exhaustedMessage (path : String) : String :=
  "no strategy could resolve conflict on '" ++ path ++ "'"

end Reconcile
