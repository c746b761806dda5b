import Reconcile.Decimal.Basic

/-!
What the words of a command line ask for.
-/

namespace Reconcile

inductive Task where
  | detect (current target : String) (usesOutlines isData : Bool)
  | suggest (current target : String) (most : Option Nat) (isData : Bool)
  | applyFix (id : String) (isDryRun keepsBackup isData : Bool)
  | validate (id : String)
  | list (path : Option String) (isUnapplied : Bool) (limit : Nat)
  | outcome (strategy : String) (succeeded : Bool)
  | writeSettings (path : Option String)
  deriving DecidableEq, Repr

structure Invocation where
  repository : String
  settings : Option String
  task : Task
  deriving DecidableEq, Repr

inductive Stop where
  | misuse
  | help
  | version
  deriving DecidableEq, Repr

namespace Invocation

inductive Value where
  | text
  | path
  | count (limit : Nat)
  deriving DecidableEq, Repr

/-- An option; one without a value is either given or not. -/
structure Opt where
  name : String
  letter : Option Char
  value : Option Value
  deriving DecidableEq, Repr

/-- The words of a command line as they have been read so far. -/
structure Found where
  options : List (String × String)
  words : List String
  deriving DecidableEq, Repr

namespace Found

def empty : Found := ⟨[], []⟩

def has (found : Found) (name : String) : Bool := found.options.any (·.1 = name)

def get? (found : Found) (name : String) : Option String := found.options.lookup name

end Found

def count? (limit : Nat) (text : String) : Option Nat :=
  let digits := match text.toList with
    | '+' :: rest => rest
    | digits => digits
  if digits.isEmpty || !digits.all Char.isDigit then none
  else if Decimal.digitsValue digits ≤ limit then some (Decimal.digitsValue digits) else none

def Value.admits (value : Value) (text : String) : Bool :=
  match value with
  | .text => true
  | .path => !text.isEmpty
  | .count limit => (count? limit text).isSome

inductive Form where
  | word
  /-- From here on every word stands for itself. -/
  | ending
  /-- An option by its name or its letter, and what is written behind it. -/
  | named (name : String) (inline : Option String)
  | lettered (letter : Char) (inline : Option String)
  deriving DecidableEq, Repr

def formOf (word : String) : Form :=
  match word.toList with
  | ['-', '-'] => .ending
  | '-' :: '-' :: rest =>
    let name := String.ofList (rest.takeWhile (· ≠ '='))
    match rest.dropWhile (· ≠ '=') with
    | [] => .named name none
    | _ :: value => .named name (some (String.ofList value))
  | '-' :: letter :: rest =>
    match rest with
    | [] => .lettered letter none
    | '=' :: value => .lettered letter (some (String.ofList value))
    | value => .lettered letter (some (String.ofList value))
  | _ => .word

def optionOf (options : List Opt) (isOutermost : Bool) : Form → Except Stop (Opt × Option String)
  | .named name inline =>
    if name = "help" then .error .help
    else if name = "version" && isOutermost then .error .version
    else ((options.find? (·.name = name)).map (·, inline)).elim (.error .misuse) .ok
  | .lettered letter inline =>
    if letter = 'h' then .error .help
    else if letter = 'V' && isOutermost then .error .version
    else ((options.find? (·.letter = some letter)).map (·, inline)).elim (.error .misuse) .ok
  | _ => .error .misuse

def addOption (found : Found) (option : Opt) (value : String) : Except Stop Found :=
  if found.has option.name || !option.value.all (·.admits value) then .error .misuse
  else .ok { found with options := (option.name, value) :: found.options }

def takesNext (option : Opt) (inline : Option String) : Bool :=
  option.value.isSome && inline.isNone

def addInline (found : Found) (option : Opt) (inline : Option String) : Except Stop Found :=
  if option.value.isNone && inline.isSome then .error .misuse
  else addOption found option (inline.getD "")

/-- Adds an option with the word behind it, which must not look like an option. -/
def addNext (found : Found) (option : Opt) (value : String) : Except Stop Found :=
  if formOf value = .word then addOption found option value else .error .misuse

def addWord (found : Found) (word : String) : Found := { found with words := found.words ++ [word] }

/-- Reads words, of which `room` may stand for themselves; outermost, the first that does so ends
the reading. Gives what was read, and the rest. -/
def scan (options : List Opt) (isOutermost : Bool) :
    List String → Nat → Found → Except Stop (Found × List String)
  | [], _, found => .ok (found, [])
  | word :: rest, room, found =>
    match formOf word with
    | .word =>
      if room = 0 then .error .misuse
      else if isOutermost then .ok (addWord found word, rest)
      else scan options isOutermost rest (room - 1) (addWord found word)
    | .ending =>
      if isOutermost || room < rest.length then .error .misuse
      else .ok (rest.foldl addWord found, [])
    | form => do
      let (option, inline) ← optionOf options isOutermost form
      if takesNext option inline then
        match rest with
        | [] => .error .misuse
        | value :: rest =>
          let found ← addNext found option value
          scan options isOutermost rest room found
      else
        let found ← addInline found option inline
        scan options isOutermost rest room found

def common : List Opt := [
  ⟨"repo", some 'r', some .path⟩, ⟨"config", some 'c', some .path⟩, ⟨"log-level", none, some .text⟩]

def mark (name : String) : Opt := ⟨name, none, none⟩

structure Usage where
  name : String
  options : List Opt
  words : Nat
  task : Found → Option Task

def countLimit : Nat := Nat.pow 2 64 - 1

def limitLimit : Nat := Nat.pow 2 32 - 1

def usages : List Usage := [
  ⟨"detect", [mark "no-semantics", mark "json"], 2, fun f => match f.words with
    | [current, target] => some (.detect current target (!f.has "no-semantics") (f.has "json"))
    | _ => none⟩,
  ⟨"suggest", [⟨"max", none, some (.count countLimit)⟩, mark "json"], 2, fun f => match f.words with
    | [current, target] =>
      some (.suggest current target ((f.get? "max").bind (count? countLimit)) (f.has "json"))
    | _ => none⟩,
  ⟨"apply", [mark "dry-run", mark "no-backup", mark "json"], 1, fun f => match f.words with
    | [id] => some (.applyFix id (f.has "dry-run") (!f.has "no-backup") (f.has "json"))
    | _ => none⟩,
  ⟨"validate", [], 1, fun f => match f.words with
    | [id] => some (.validate id)
    | _ => none⟩,
  ⟨"list", [⟨"file", some 'f', some .text⟩, mark "unapplied",
      ⟨"limit", none, some (.count limitLimit)⟩], 0, fun f =>
    some (.list (f.get? "file") (f.has "unapplied")
      (((f.get? "limit").bind (count? limitLimit)).getD 20))⟩,
  ⟨"outcome", [mark "failed"], 1, fun f => match f.words with
    | [strategy] => some (.outcome strategy (!f.has "failed"))
    | _ => none⟩,
  ⟨"init", [⟨"output", some 'o', some .path⟩], 0, fun f => some (.writeSettings (f.get? "output"))⟩]

/-- The invocation that the words of a command line stand for. Of an option that is given before
and after the name of a task, the one after it counts. -/
def ofWords (words : List String) : Except Stop Invocation := do
  let (outer, rest) ← scan common true words 1 .empty
  match outer.words with
  | ["help"] => .error .help
  | [name] =>
    let usage ← (usages.find? (·.name = name)).elim (.error .misuse) .ok
    let (inner, _) ← scan (common ++ usage.options) false rest usage.words .empty
    let task ← (usage.task inner).elim (.error .misuse) .ok
    .ok ⟨((inner.get? "repo").or (outer.get? "repo")).getD ".",
      (inner.get? "config").or (outer.get? "config"), task⟩
  | _ => .error .misuse

end Invocation

end Reconcile
