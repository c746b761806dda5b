import Reconcile.Decimal.Basic
import Reconcile.Text.CharClass

/-!
Moments in universal time, by their calendar date and the time of day, and their texts.
-/

namespace Reconcile

structure CalendarDate where
  year : Int
  month : Nat
  day : Nat
  deriving DecidableEq, Repr

namespace CalendarDate

def isLeapYear (year : Int) : Bool := year % 4 = 0 && (year % 100 ≠ 0 || year % 400 = 0)

def monthLength (year : Int) (month : Nat) : Nat :=
  if month = 2 then if isLeapYear year then 29 else 28
  else if [4, 6, 9, 11].contains month then 30 else 31

def isValid (date : CalendarDate) : Bool :=
  1 ≤ date.month && date.month ≤ 12 && 1 ≤ date.day && date.day ≤ monthLength date.year date.month &&
    -262143 ≤ date.year && date.year ≤ 262142

def next (date : CalendarDate) : CalendarDate :=
  if date.day < monthLength date.year date.month then { date with day := date.day + 1 }
  else if date.month < 12 then ⟨date.year, date.month + 1, 1⟩
  else ⟨date.year + 1, 1, 1⟩

def previous (date : CalendarDate) : CalendarDate :=
  if 1 < date.day then { date with day := date.day - 1 }
  else if 1 < date.month then ⟨date.year, date.month - 1, monthLength date.year (date.month - 1)⟩
  else ⟨date.year - 1, 12, 31⟩

end CalendarDate

/-- A moment. A leap second is the sixtieth of its minute. -/
structure Timestamp where
  date : CalendarDate
  hour : Nat
  minute : Nat
  second : Nat
  nano : Nat
  deriving DecidableEq, Repr

namespace Timestamp

def padded (width n : Nat) : String :=
  let digits := toString n
  Decimal.zeros (width - digits.length) ++ digits

def yearText (year : Int) : String :=
  if 0 ≤ year ∧ year ≤ 9999 then padded 4 year.toNat
  else (if year < 0 then "-" else "+") ++ padded 4 year.natAbs

/-- A fraction of a second in none, three, six or nine digits. -/
def fraction (nano : Nat) : String :=
  if nano = 0 then ""
  else if nano % 1000000 = 0 then "." ++ padded 3 (nano / 1000000)
  else if nano % 1000 = 0 then "." ++ padded 6 (nano / 1000)
  else "." ++ padded 9 nano

def text (offset : String) (t : Timestamp) : String :=
  yearText t.date.year ++ "-" ++ padded 2 t.date.month ++ "-" ++ padded 2 t.date.day ++ "T" ++
    padded 2 t.hour ++ ":" ++ padded 2 t.minute ++ ":" ++ padded 2 t.second ++ fraction t.nano ++
    offset

def shown (t : Timestamp) : String := t.text "Z"

def stored (t : Timestamp) : String := t.text "+00:00"

def ofLocal (date : CalendarDate) (hour minute second nano : Nat) (ahead : Int) : Timestamp :=
  let total : Int := hour * 60 + minute - ahead
  let date := if total < 0 then date.previous else if 1440 ≤ total then date.next else date
  let inDay := (total % 1440).toNat
  ⟨date, inDay / 60, inDay % 60, second, nano⟩

def number? (low high : Nat) (text : List Char) : Option (Nat × List Char) :=
  let digits := (text.take high).takeWhile Char.isDigit
  if digits.length < low then none
  else some (Decimal.digitsValue digits, text.drop digits.length)

def expect (c : Char) : List Char → Option (List Char)
  | d :: rest => if c = d then some rest else none
  | [] => none

/-- The nanoseconds in a fraction; digits after the ninth are passed over. -/
def fraction? : List Char → Option (Nat × List Char)
  | '.' :: rest =>
    let digits := (rest.takeWhile Char.isDigit).take 9
    if digits.isEmpty then none
    else some (Decimal.digitsValue digits * Nat.pow 10 (9 - digits.length), rest.dropWhile Char.isDigit)
  | rest => some (0, rest)

/-- How far ahead of universal time clocks are, in minutes: a letter, or a sign, hours and minutes
with `separator` between them. -/
def offset? (separator : List Char → Option (List Char)) : List Char → Option (Int × List Char)
  | 'Z' :: rest | 'z' :: rest => some (0, rest)
  | c :: rest => do
    if (['+', '-', '\u2212'].contains c) = false then none
    let (hours, rest) ← number? 2 2 rest
    let rest ← separator rest
    let (minutes, rest) ← number? 2 2 rest
    if 60 ≤ minutes || 24 ≤ hours then none
    let size : Int := hours * 60 + minutes
    some (if c = '+' then size else -size, rest)
  | [] => none

def ofParts? (date : CalendarDate) (hour minute second nano : Nat) (ahead : Int) :
    Option Timestamp :=
  if date.isValid && hour < 24 && minute < 60 && second ≤ 60 then
    some (ofLocal date hour minute second nano ahead)
  else none

def isDateEnd (c : Char) : Bool := c = 'T' || c = 't' || c = ' '

/-- Reads the text of a moment: every part has its full count of digits. -/
def ofStored? (text : String) : Option Timestamp := do
  let (year, rest) ← number? 4 4 text.toList
  let (month, rest) ← number? 2 2 (← expect '-' rest)
  let (day, rest) ← number? 2 2 (← expect '-' rest)
  let rest ← match rest with
    | c :: rest => if isDateEnd c then some rest else none
    | [] => none
  let (hour, rest) ← number? 2 2 rest
  let (minute, rest) ← number? 2 2 (← expect ':' rest)
  let (second, rest) ← number? 2 2 (← expect ':' rest)
  let (nano, rest) ← fraction? rest
  let (ahead, rest) ← offset? (expect ':') rest
  if rest.isEmpty then ofParts? ⟨year, month, day⟩ hour minute second nano ahead else none

def skip (text : List Char) : List Char := text.dropWhile Text.isBlank

def year? (text : List Char) : Option (Int × List Char) :=
  match skip text with
  | '-' :: rest => (number? 1 rest.length rest).map fun (n, r) => (-n, r)
  | '+' :: rest => (number? 1 rest.length rest).map fun (n, r) => ((n : Int), r)
  | rest => (number? 1 4 rest).map fun (n, r) => ((n : Int), r)

def isOffsetGap (c : Char) : Bool := c = ':' || Text.isBlank c

def universal? (text : List Char) : Option (List Char) :=
  if (text.take 3).map Char.toUpper = "UTC".toList then some (text.drop 3) else none

/-- Reads the text of a moment: blanks may stand between its parts, and leading zeros be left out. -/
def ofShown? (text : String) : Option Timestamp := do
  let (year, rest) ← year? text.toList
  let (month, rest) ← number? 1 2 (skip (← expect '-' (skip rest)))
  let (day, rest) ← number? 1 2 (skip (← expect '-' (skip rest)))
  let rest ← match rest with
    | c :: rest => if isDateEnd c then some rest else none
    | [] => none
  let (hour, rest) ← number? 1 2 (skip rest)
  let (minute, rest) ← number? 1 2 (skip (← expect ':' (skip rest)))
  let (second, rest) ← number? 1 2 (skip (← expect ':' (skip rest)))
  let (nano, rest) ← fraction? rest
  let rest := skip rest
  let (ahead, rest) ← match universal? rest with
    | some rest => some (0, rest)
    | none => offset? (fun text => some (text.dropWhile isOffsetGap)) rest
  if (skip rest).isEmpty then ofParts? ⟨year, month, day⟩ hour minute second nano ahead else none

end Timestamp

end Reconcile
