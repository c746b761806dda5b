import Reconcile.Json.Value

/-!
The text of a value, on one line or on lines of its own for every part.
-/

namespace Reconcile.Json

def hexDigit (n : Nat) : Char := (Nat.digitChar n)

/-- A character inside quotes; control characters without a short form are written in hexadecimal. -/
def escape (c : Char) : String :=
  if c = '"' then "\\\""
  else if c = '\\' then "\\\\"
  else if c = '\n' then "\\n"
  else if c = '\r' then "\\r"
  else if c = '\t' then "\\t"
  else if c.toNat = 8 then "\\b"
  else if c.toNat = 12 then "\\f"
  else if c.toNat < 32 then
    "\\u00" ++ String.ofList [hexDigit (c.toNat / 16), hexDigit (c.toNat % 16)]
  else String.singleton c

def quote (text : String) : String :=
  text.foldl (fun out c => out ++ escape c) "\"" ++ "\""

mutual

def render : Json → String
  | null => "null"
  | bool b => if b then "true" else "false"
  | int n => toString n
  | real x => if x.isFinite then Decimal.ofFloat x else "null"
  | str s => quote s
  | arr items => "[" ++ renderItems items ++ "]"
  | obj fields => "\x7b" ++ renderFields fields ++ "\x7d"

def renderItems : List Json → String
  | [] => ""
  | [item] => render item
  | item :: rest => render item ++ "," ++ renderItems rest

def renderFields : List (String × Json) → String
  | [] => ""
  | [(name, value)] => quote name ++ ":" ++ render value
  | (name, value) :: rest => quote name ++ ":" ++ render value ++ "," ++ renderFields rest

end

def margin (depth : Nat) : String := "\n" ++ String.ofList (List.replicate (2 * depth) ' ')

mutual

def layOut (depth : Nat) : Json → String
  | arr [] => "[]"
  | arr (item :: rest) =>
    "[" ++ margin (depth + 1) ++ layOut (depth + 1) item ++ layOutItems (depth + 1) rest ++
      margin depth ++ "]"
  | obj [] => "\x7b\x7d"
  | obj ((name, value) :: rest) =>
    "\x7b" ++ margin (depth + 1) ++ quote name ++ ": " ++ layOut (depth + 1) value ++
      layOutFields (depth + 1) rest ++ margin depth ++ "\x7d"
  | value => value.render

def layOutItems (depth : Nat) : List Json → String
  | [] => ""
  | item :: rest => "," ++ margin depth ++ layOut depth item ++ layOutItems depth rest

def layOutFields (depth : Nat) : List (String × Json) → String
  | [] => ""
  | (name, value) :: rest =>
    "," ++ margin depth ++ quote name ++ ": " ++ layOut depth value ++ layOutFields depth rest

end

end Reconcile.Json
