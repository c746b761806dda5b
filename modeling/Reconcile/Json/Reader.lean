import Reconcile.Json.Value

/-!
Reading a value from its text. Arrays and objects nest at most 127 deep. A number with a point or
an exponent is read through its first digits that fit 64 bits, scaled by powers of ten.
-/

namespace Reconcile.Json

def isSpace (c : Char) : Bool := c = ' ' || c = '\n' || c = '\t' || c = '\r'

def skip (text : List Char) : List Char := text.dropWhile isSpace

def maxDepth : Nat := 127

def hexValue? (c : Char) : Option Nat :=
  if c.isDigit then some (c.toNat - 48)
  else if 'a' ≤ c ∧ c ≤ 'f' then some (c.toNat - 87)
  else if 'A' ≤ c ∧ c ≤ 'F' then some (c.toNat - 55)
  else none

def hex4? : List Char → Option (Nat × List Char)
  | a :: b :: c :: d :: rest => do
    let w ← hexValue? a
    let x ← hexValue? b
    let y ← hexValue? c
    let z ← hexValue? d
    some (((w * 16 + x) * 16 + y) * 16 + z, rest)
  | _ => none

/-- The character of an escape whose backslash has been read; halves of a pair stand together. -/
def escape? : List Char → Option (Char × List Char)
  | '"' :: rest => some ('"', rest)
  | '\\' :: rest => some ('\\', rest)
  | '/' :: rest => some ('/', rest)
  | 'b' :: rest => some ('\x08', rest)
  | 'f' :: rest => some ('\x0c', rest)
  | 'n' :: rest => some ('\n', rest)
  | 'r' :: rest => some ('\r', rest)
  | 't' :: rest => some ('\t', rest)
  | 'u' :: rest => do
    let (high, rest) ← hex4? rest
    if 0xd800 ≤ high ∧ high ≤ 0xdbff then
      match rest with
      | '\\' :: 'u' :: rest => do
        let (low, rest) ← hex4? rest
        if 0xdc00 ≤ low ∧ low ≤ 0xdfff then
          some (Char.ofNat (0x10000 + (high - 0xd800) * 1024 + (low - 0xdc00)), rest)
        else none
      | _ => none
    else if 0xdc00 ≤ high ∧ high ≤ 0xdfff then none
    else some (Char.ofNat high, rest)
  | _ => none

/-- The characters up to the closing quote, newest first in `done`. -/
def string? : Nat → List Char → List Char → Option (String × List Char)
  | 0, _, _ => none
  | _ + 1, _, [] => none
  | _ + 1, done, '"' :: rest => some (String.ofList done.reverse, rest)
  | fuel + 1, done, '\\' :: rest => do
    let (c, rest) ← escape? rest
    string? fuel (c :: done) rest
  | fuel + 1, done, c :: rest => if c.toNat < 32 then none else string? fuel (c :: done) rest

def maxWord : Nat := Nat.pow 2 64 - 1

/-- Reads digits into a 64-bit significand; the digits after the first that does not fit are
returned unread. -/
def significand (start : Nat) : List Char → Nat × List Char
  | [] => (start, [])
  | c :: rest =>
    let next := start * 10 + (c.toNat - 48)
    if maxWord < next then (start, c :: rest) else significand next rest

/-- Scales a significand by a power of ten in steps that stay in range. -/
def scale : Nat → Float → Int → Option Float
  | 0, _, _ => none
  | fuel + 1, x, exponent =>
    if exponent.natAbs ≤ 308 then
      let power := Float.ofScientific 1 false exponent.natAbs
      if 0 ≤ exponent then
        let y := x * power
        if y.isInf then none else some y
      else some (x / power)
    else if x == 0 then some x
    else if 0 ≤ exponent then none
    else scale fuel (x / Float.ofScientific 1 false 308) (exponent + 308)

def real? (negative : Bool) (whole part : List Char) (exponent : Int) : Option Json := do
  let (first, wholeRest) := significand 0 whole
  let (digits, shift) :=
    if wholeRest.isEmpty then
      let (all, partRest) := significand first part
      (all, -((part.length - partRest.length : Nat) : Int))
    else
      let (all, partRest) := significand first part
      (all, (wholeRest.length : Int) - ((part.length - partRest.length : Nat) : Int))
  let x ← scale 2000 digits.toUInt64.toFloat (exponent + shift)
  some (real (if negative then -x else x))

/-- An exponent of any length; one too large to matter is cut. -/
def exponent? (text : List Char) : Option (Int × List Char) :=
  let (negative, text) := match text with
    | '-' :: rest => (true, rest)
    | '+' :: rest => (false, rest)
    | rest => (false, rest)
  let digits := text.takeWhile Char.isDigit
  if digits.isEmpty then none
  else
    let size : Int := min (Decimal.digitsValue digits) 400000
    some (if negative then -size else size, text.dropWhile Char.isDigit)

def number? (text : List Char) : Option (Json × List Char) := do
  let (negative, text) := match text with
    | '-' :: rest => (true, rest)
    | rest => (false, rest)
  let whole := text.takeWhile Char.isDigit
  let rest := text.dropWhile Char.isDigit
  if whole.isEmpty || (1 < whole.length && whole.head? = some '0') then none
  let (part, rest) ← match rest with
    | '.' :: tail =>
      let part := tail.takeWhile Char.isDigit
      if part.isEmpty then none else some (part, tail.dropWhile Char.isDigit)
    | _ => some ([], rest)
  let (exponent, rest) ← match rest with
    | 'e' :: tail | 'E' :: tail => (exponent? tail).map fun (e, r) => (some e, r)
    | _ => some (none, rest)
  let value := Decimal.digitsValue whole
  if part.isEmpty && exponent.isNone && value ≤ maxWord then
    if !negative then some (int value, rest)
    else if value = 0 then some (real (-0.0), rest)
    else if value ≤ Nat.pow 2 63 then some (int (-value), rest)
    else some (real (-value.toUInt64.toFloat), rest)
  else (real? negative whole part (exponent.getD 0)).map (·, rest)

def word? (word : List Char) (value : Json) (text : List Char) : Option (Json × List Char) :=
  if text.take word.length = word then some (value, text.drop word.length) else none

mutual

def value? : Nat → Nat → List Char → Option (Json × List Char)
  | 0, _, _ => none
  | fuel + 1, depth, text =>
    match skip text with
    | [] => none
    | '"' :: rest => (string? (rest.length + 1) [] rest).map fun (s, r) => (str s, r)
    | '[' :: rest =>
      if depth = 0 then none
      else match skip rest with
        | ']' :: rest => some (arr [], rest)
        | rest => (items? fuel (depth - 1) [] rest).map fun (xs, r) => (arr xs, r)
    | '{' :: rest =>
      if depth = 0 then none
      else match skip rest with
        | '}' :: rest => some (obj [], rest)
        | rest => (fields? fuel (depth - 1) [] rest).map fun (xs, r) => (obj xs, r)
    | 'n' :: rest => word? "ull".toList null rest
    | 't' :: rest => word? "rue".toList (bool true) rest
    | 'f' :: rest => word? "alse".toList (bool false) rest
    | c :: rest => if c = '-' || c.isDigit then number? (c :: rest) else none

def items? : Nat → Nat → List Json → List Char → Option (List Json × List Char)
  | 0, _, _, _ => none
  | fuel + 1, depth, done, text => do
    let (item, rest) ← value? fuel depth text
    match skip rest with
    | ',' :: rest => items? fuel depth (item :: done) rest
    | ']' :: rest => some ((item :: done).reverse, rest)
    | _ => none

def fields? : Nat → Nat → List (String × Json) → List Char →
    Option (List (String × Json) × List Char)
  | 0, _, _, _ => none
  | fuel + 1, depth, done, text => do
    match skip text with
    | '"' :: rest => do
      let (name, rest) ← string? (rest.length + 1) [] rest
      match skip rest with
      | ':' :: rest => do
        let (value, rest) ← value? fuel depth rest
        match skip rest with
        | ',' :: rest => fields? fuel depth ((name, value) :: done) rest
        | '}' :: rest => some (((name, value) :: done).reverse, rest)
        | _ => none
      | _ => none
    | _ => none

end

def parse? (text : String) : Option Json := do
  let chars := text.toList
  let (value, rest) ← value? (2 * chars.length + 2) maxDepth chars
  if (skip rest).isEmpty then some value else none

end Reconcile.Json
