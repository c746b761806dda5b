import Reconcile.Json.Reader
import Reconcile.Toml.Document

/-!
Reading a document of settings: lines that hold a header, or a key and its value. A date is read
as an object with one text.
-/

namespace Reconcile.Toml

def isSpace (c : Char) : Bool := c = ' ' || c = '\t'

def skip (text : List Char) : List Char := text.dropWhile isSpace

def isPlain (c : Char) : Bool := c = '\t' || (32 ≤ c.toNat && c.toNat ≠ 127)

def expect (c : Char) : List Char → Option (List Char)
  | d :: rest => if c = d then some rest else none
  | [] => none

def newline? : List Char → Option (List Char)
  | '\n' :: rest => some rest
  | '\r' :: '\n' :: rest => some rest
  | _ => none

def skipComment : List Char → List Char
  | '#' :: rest => rest.dropWhile isPlain
  | text => text

def lineEnd? (text : List Char) : Option (List Char) :=
  match skipComment (skip text) with
  | [] => some []
  | rest => newline? rest

def skipLines : Nat → List Char → Option (List Char)
  | 0, text => some text
  | fuel + 1, text =>
    match skip text with
    | '#' :: rest => do
      let rest ← newline? (rest.dropWhile isPlain)
      skipLines fuel rest
    | '\n' :: rest => skipLines fuel rest
    | '\r' :: rest => do
      let rest ← expect '\n' rest
      skipLines fuel rest
    | rest => some rest

def hexNumber? (digits : List Char) : Option Nat :=
  digits.foldlM (fun n c => (Json.hexValue? c).map (16 * n + ·)) 0

def scalar? (size : Nat) (text : List Char) : Option (Char × List Char) := do
  let digits := text.take size
  if digits.length < size then none
  let n ← hexNumber? digits
  if n.isValidChar then some (Char.ofNat n, text.drop size) else none

def escape? : List Char → Option (Char × List Char)
  | '"' :: rest => some ('"', rest)
  | '\\' :: rest => some ('\\', rest)
  | 'b' :: rest => some ('\x08', rest)
  | 'f' :: rest => some ('\x0c', rest)
  | 'n' :: rest => some ('\n', rest)
  | 'r' :: rest => some ('\r', rest)
  | 't' :: rest => some ('\t', rest)
  | 'u' :: rest => scalar? 4 rest
  | 'U' :: rest => scalar? 8 rest
  | _ => none

def line? (quote : Char) : Nat → List Char → List Char → Option (List Char × List Char)
  | 0, _, _ => none
  | _ + 1, _, [] => none
  | fuel + 1, done, c :: rest =>
    if c = quote then some (done.reverse, rest)
    else if c = '\\' && quote = '"' then do
      let (c, rest) ← escape? rest
      line? quote fuel (c :: done) rest
    else if isPlain c then line? quote fuel (c :: done) rest
    else none

/-- The rest after a backslash at the end of a line, from the next character that is shown. -/
def continuation? (text : List Char) : Option (List Char) :=
  (newline? (skip text)).map fun rest =>
    rest.dropWhile fun c => isSpace c || c = '\n' || c = '\r'

/-- The rest of a string over lines, up to three of its quotes; one or two may stand before them. -/
def block? (quote : Char) : Nat → List Char → List Char → Option (List Char × List Char)
  | 0, _, _ => none
  | _ + 1, _, [] => none
  | fuel + 1, done, c :: rest =>
    if c = quote then
      let extra := (rest.takeWhile (· = quote)).length
      if 2 ≤ extra then
        if 4 < extra then none
        else some ((List.replicate (extra - 2) quote ++ done).reverse, rest.drop extra)
      else block? quote fuel (c :: done) rest
    else if c = '\\' && quote = '"' then
      match continuation? rest with
      | some rest => block? quote fuel done rest
      | none => do
        let (c, rest) ← escape? rest
        block? quote fuel (c :: done) rest
    else match newline? (c :: rest) with
      | some rest => block? quote fuel ('\n' :: done) rest
      | none => if isPlain c then block? quote fuel (c :: done) rest else none

def string? (quote : Char) (text : List Char) : Option (String × List Char) :=
  let result := match text with
    | c :: d :: rest =>
      if c = quote && d = quote then
        block? quote (rest.length + 1) [] ((newline? rest).getD rest)
      else line? quote (text.length + 1) [] text
    | _ => line? quote (text.length + 1) [] text
  result.map fun (chars, rest) => (String.ofList chars, rest)

def isBare (c : Char) : Bool := c.isAlpha || c.isDigit || c = '-' || c = '_'

def keyPart? (text : List Char) : Option (String × List Char) :=
  let quoted (quote : Char) (rest : List Char) : Option (String × List Char) :=
    (line? quote (rest.length + 1) [] rest).map fun (chars, rest) => (String.ofList chars, rest)
  match text with
  | '"' :: rest => quoted '"' rest
  | '\'' :: rest => quoted '\'' rest
  | _ =>
    let bare := text.takeWhile isBare
    if bare.isEmpty then none else some (String.ofList bare, text.dropWhile isBare)

def key? : Nat → List Char → Option (List String × List Char)
  | 0, _ => none
  | fuel + 1, text => do
    let (part, rest) ← keyPart? (skip text)
    match skip rest with
    | '.' :: rest => (key? fuel rest).map fun (parts, rest) => (part :: parts, rest)
    | rest => some ([part], rest)

def depthLimit : Nat := 80

def path? (text : List Char) : Option ((List String × String) × List Char) := do
  let (parts, rest) ← key? (text.length + 1) text
  if depthLimit ≤ parts.length then none
  let last ← parts.getLast?
  some ((parts.dropLast, last), rest)

/-- Digits of a base, between which single underscores may stand; the underscores are dropped. -/
def digits? (isDigit : Char → Bool) (text : List Char) : Option (List Char × List Char) :=
  let isPart (c : Char) : Bool := isDigit c || c = '_'
  let run := text.takeWhile isPart
  let isDoubled := (run.zip run.tail).contains ('_', '_')
  if run.head?.any isDigit && run.getLast?.any isDigit && !isDoubled then
    some (run.filter isDigit, text.dropWhile isPart)
  else none

def sign : List Char → Bool × List Char
  | '-' :: rest => (true, rest)
  | '+' :: rest => (false, rest)
  | text => (false, text)

def whole? (negative : Bool) (n : Nat) : Option Json :=
  if negative then if n ≤ Nat.pow 2 63 then some (.int (-n)) else none
  else if n < Nat.pow 2 63 then some (.int n) else none

def basedNumber? (base : Nat) (text : List Char) : Option (Json × List Char) := do
  let (digits, rest) ← digits? (fun c => (Json.hexValue? c).any (· < base)) text
  let n := digits.foldl (fun n c => base * n + (Json.hexValue? c).getD 0) 0
  (whole? false n).map (·, rest)

def decimalNumber? (text : List Char) : Option (Json × List Char) := do
  let (negative, rest) := sign text
  if "inf".toList.isPrefixOf rest then
    some (.real (if negative then -1.0 / 0.0 else 1.0 / 0.0), rest.drop 3)
  else if "nan".toList.isPrefixOf rest then some (.real (0.0 / 0.0), rest.drop 3)
  else
    let (digits, rest) ← match rest with
      | '0' :: rest => some (['0'], rest)
      | _ => digits? Char.isDigit rest
    let (part, rest) ← match rest with
      | '.' :: rest => digits? Char.isDigit rest
      | _ => some ([], rest)
    let (power, rest) ← match rest with
      | 'e' :: rest | 'E' :: rest =>
        let (isMinus, rest) := sign rest
        (digits? Char.isDigit rest).map fun (ds, rest) =>
          (some ((if isMinus then ['-'] else []) ++ ds), rest)
      | _ => some (none, rest)
    if part.isEmpty && power.isNone then
      (whole? negative (Decimal.digitsValue digits)).map (·, rest)
    else
      let text := digits ++ (if part.isEmpty then [] else '.' :: part) ++
        (match power with | some p => 'e' :: p | none => [])
      let size := (← Decimal.read? text).toFloat
      if size.isInf && !negative then none
      else some (.real (if negative then -size else size), rest)

def number? (text : List Char) : Option (Json × List Char) :=
  match text with
  | '0' :: 'x' :: rest => basedNumber? 16 rest
  | '0' :: 'o' :: rest => basedNumber? 8 rest
  | '0' :: 'b' :: rest => basedNumber? 2 rest
  | _ => decimalNumber? text

def field? (size low high : Nat) (text : List Char) : Option (Nat × List Char) :=
  let digits := text.take size
  if digits.length = size && digits.all Char.isDigit then
    let n := Decimal.digitsValue digits
    if low ≤ n ∧ n ≤ high then some (n, text.drop size) else none
  else none

def isLeapYear (year : Nat) : Bool := year % 4 = 0 && (year % 100 ≠ 0 || year % 400 = 0)

def monthLength (year month : Nat) : Nat :=
  if month = 2 then if isLeapYear year then 29 else 28
  else if [4, 6, 9, 11].contains month then 30 else 31

def date? (text : List Char) : Option (List Char) := do
  let (year, rest) ← field? 4 0 9999 text
  let rest ← expect '-' rest
  let (month, rest) ← field? 2 1 12 rest
  let rest ← expect '-' rest
  let (_, rest) ← field? 2 1 (monthLength year month) rest
  some rest

def time? (text : List Char) : Option (List Char) := do
  let (_, rest) ← field? 2 0 23 text
  let rest ← expect ':' rest
  let (_, rest) ← field? 2 0 59 rest
  let rest ← expect ':' rest
  let (_, rest) ← field? 2 0 60 rest
  match rest with
  | '.' :: tail => if tail.head?.any Char.isDigit then some (tail.dropWhile Char.isDigit) else none
  | _ => some rest

def offset? : List Char → Option (List Char)
  | 'Z' :: rest | 'z' :: rest => some rest
  | '+' :: rest | '-' :: rest => do
    let (_, rest) ← field? 2 0 23 rest
    let rest ← expect ':' rest
    let (_, rest) ← field? 2 0 59 rest
    some rest
  | _ => none

/-- A date, a time, or both; an offset only after both. -/
def moment? (text : List Char) : Option (List Char) :=
  match date? text with
  | none => time? text
  | some rest =>
    match rest with
    | c :: tail =>
      if c = 'T' || c = 't' || c = ' ' then
        match time? tail with
        | some rest => some ((offset? rest).getD rest)
        | none => some rest
      else some rest
    | [] => some rest

def momentField : String := "$__toml_private_datetime"

def scalarValue? (text : List Char) : Option (Json × List Char) :=
  match moment? text with
  | some rest =>
    let written := text.take (text.length - rest.length)
    some (.obj [(momentField, .str (String.ofList written))], rest)
  | none => number? text

def word? (word : String) (value : Json) (text : List Char) : Option (Json × List Char) :=
  if word.toList.isPrefixOf text then some (value, text.drop word.length) else none

mutual

def value? : Nat → Nat → List Char → Option (Json × List Char)
  | 0, _, _ => none
  | _ + 1, _, [] => none
  | fuel + 1, depth, c :: rest =>
    if c = '"' || c = '\'' then (string? c rest).map fun (s, r) => (.str s, r)
    else if c = '[' then if depthLimit ≤ depth + 1 then none else items? fuel (depth + 1) [] rest
    else if c = '{' then
      if depthLimit ≤ depth + 1 then none
      else match skip rest with
        | '}' :: rest => some (.obj [], rest)
        | rest => pairs? fuel (depth + 1) [] rest
    else if c = 't' then word? "true" (.bool true) (c :: rest)
    else if c = 'f' then word? "false" (.bool false) (c :: rest)
    else if c = 'i' || c = 'n' then decimalNumber? (c :: rest)
    else if c = '+' || c = '-' || c.isDigit then scalarValue? (c :: rest)
    else none

def items? : Nat → Nat → List Json → List Char → Option (Json × List Char)
  | 0, _, _, _ => none
  | fuel + 1, depth, done, text => do
    match ← skipLines text.length text with
    | ']' :: rest => some (.arr done.reverse, rest)
    | text =>
      let (item, rest) ← value? fuel depth text
      match ← skipLines rest.length rest with
      | ',' :: rest => items? fuel depth (item :: done) rest
      | ']' :: rest => some (.arr (item :: done).reverse, rest)
      | _ => none

def pairs? : Nat → Nat → Entries → List Char → Option (Json × List Char)
  | 0, _, _, _ => none
  | fuel + 1, depth, entries, text => do
    let ((path, key), rest) ← path? text
    let rest ← expect '=' rest
    let (value, rest) ← value? fuel depth (skip rest)
    let entries ← assign entries path key value
    match skip rest with
    | ',' :: rest => pairs? fuel depth entries rest
    | '}' :: rest => some (.obj (fieldsOf entries), rest)
    | _ => none

end

/-- Reads the lines of a document under the header that was read last. -/
def lines? : Nat → List String → Entries → List Char → Option Entries
  | 0, _, entries, _ => some entries
  | fuel + 1, header, entries, text => do
    match ← skipLines text.length text with
    | [] => some entries
    | '[' :: '[' :: rest =>
      let ((path, key), rest) ← path? rest
      let rest ← lineEnd? (← expect ']' (← expect ']' rest))
      lines? fuel (path ++ [key]) (← openNext entries path key) rest
    | '[' :: rest =>
      let ((path, key), rest) ← path? rest
      let rest ← lineEnd? (← expect ']' rest)
      lines? fuel (path ++ [key]) (← openTable entries path key) rest
    | text =>
      let ((path, key), rest) ← path? text
      let rest ← expect '=' rest
      let (value, rest) ← value? (rest.length + 1) 0 (skip rest)
      lines? fuel header (← assignUnder entries header path key value) (← lineEnd? rest)

def parse? (text : String) : Option Json :=
  let chars := match text.toList with
    | '\ufeff' :: rest => rest
    | chars => chars
  (lines? (chars.length + 1) [] [] chars).map fun entries => .obj (fieldsOf entries)

end Reconcile.Toml
