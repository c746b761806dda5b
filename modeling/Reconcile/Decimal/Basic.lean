/-!
Decimal texts of binary floating-point numbers: the exact value of a number, the fewest digits
that read back as it, and its rounding to a fixed count of places.
-/

namespace Reconcile

/-- A non-negative decimal number, `digits` times ten to the power `exponent`. -/
structure Decimal where
  digits : Nat
  exponent : Int
  deriving DecidableEq, Repr

namespace Decimal

structure Ratio where
  num : Nat
  den : Nat

def Ratio.ofBinary (mantissa : Nat) (exponent : Int) : Ratio :=
  if 0 ≤ exponent then ⟨mantissa * Nat.pow 2 exponent.toNat, 1⟩ else ⟨mantissa, Nat.pow 2 (-exponent).toNat⟩

def Ratio.floorAt (r : Ratio) (unit : Int) : Nat :=
  if 0 ≤ unit then r.num / (r.den * Nat.pow 10 unit.toNat) else r.num * Nat.pow 10 (-unit).toNat / r.den

def Ratio.le (a b : Ratio) : Bool := a.num * b.den ≤ b.num * a.den

def Ratio.lt (a b : Ratio) : Bool := a.num * b.den < b.num * a.den

def toRatio (d : Decimal) : Ratio :=
  if 0 ≤ d.exponent then ⟨d.digits * Nat.pow 10 d.exponent.toNat, 1⟩
  else ⟨d.digits, Nat.pow 10 (-d.exponent).toNat⟩

/-- The number of decimal digits before the point of a ratio above ten to the power -350. -/
def Ratio.magnitude (r : Ratio) : Int :=
  (Nat.toDigits 10 (r.floorAt (-350))).length - 350

/-- The parts of a finite number: sign, mantissa, binary exponent, and whether the number below it
is nearer than the number above it. -/
structure Binary where
  negative : Bool
  mantissa : Nat
  exponent : Int
  narrowBelow : Bool

def Binary.ofFloat (x : Float) : Binary :=
  let bits := x.toBits.toNat
  let fraction : Nat := bits % Nat.pow 2 52
  let biased : Nat := bits / Nat.pow 2 52 % Nat.pow 2 11
  let negative := bits / Nat.pow 2 63 = 1
  if biased = 0 then ⟨negative, fraction, -1074, false⟩
  else ⟨negative, fraction + Nat.pow 2 52, (biased : Int) - 1075, fraction = 0 ∧ 1 < biased⟩

def Binary.admits (b : Binary) (d : Decimal) : Bool :=
  let r := d.toRatio
  let low := Ratio.ofBinary (4 * b.mantissa - if b.narrowBelow then 1 else 2) (b.exponent - 2)
  let high := Ratio.ofBinary (4 * b.mantissa + 2) (b.exponent - 2)
  if b.mantissa % 2 = 0 then low.le r && r.le high else low.lt r && r.lt high

/-- Of the two neighbours of the number on a grid, the admitted one, or the nearer of both. -/
def Binary.onGrid? (b : Binary) (unit : Int) : Option Decimal :=
  let value := Ratio.ofBinary b.mantissa b.exponent
  let below : Decimal := ⟨value.floorAt unit, unit⟩
  let above : Decimal := ⟨value.floorAt unit + 1, unit⟩
  match b.admits below, b.admits above with
  | false, false => none
  | true, false => some below
  | false, true => some above
  | true, true =>
    let middle : Decimal := ⟨2 * below.digits + 1, unit⟩
    let twice : Ratio := ⟨2 * value.num, value.den⟩
    if twice.lt middle.toRatio then some below
    else if middle.toRatio.lt twice then some above
    else if below.digits % 2 = 0 then some below else some above

def strip : Nat → Decimal → Decimal
  | 0, d => d
  | n + 1, d =>
    if d.digits ≠ 0 ∧ d.digits % 10 = 0 then strip n ⟨d.digits / 10, d.exponent + 1⟩ else d

/-- The fewest digits that read back as the number, and the nearest of those. -/
def Binary.shortest (b : Binary) : Decimal :=
  if b.mantissa = 0 then ⟨0, 0⟩
  else
    let magnitude := (Ratio.ofBinary b.mantissa b.exponent).magnitude
    let found := (List.range 17).findSome? fun n => b.onGrid? (magnitude - (n + 1 : Nat))
    strip 17 (found.getD ⟨0, 0⟩)

def zeros (n : Nat) : String := String.ofList (List.replicate n '0')

/-- Digits with a point: positional from 0.00001 up to 10^16, else with an exponent. -/
def render (d : Decimal) : String :=
  let digits := toString d.digits
  let point : Int := digits.length + d.exponent
  if d.digits = 0 then "0.0"
  else if 0 ≤ d.exponent ∧ point ≤ 16 then digits ++ zeros d.exponent.toNat ++ ".0"
  else if 0 < point ∧ point ≤ 16 then
    String.ofList (digits.toList.take point.toNat) ++ "." ++
      String.ofList (digits.toList.drop point.toNat)
  else if -5 < point ∧ point ≤ 0 then "0." ++ zeros (-point).toNat ++ digits
  else
    let lead := String.ofList (digits.toList.take 1)
    let rest := String.ofList (digits.toList.drop 1)
    lead ++ (if rest.isEmpty then "" else "." ++ rest) ++ "e" ++ toString (point - 1)

def ofFloat (x : Float) : String :=
  let b := Binary.ofFloat x
  (if b.negative then "-" else "") ++ render b.shortest

/-- The quotient rounded to the nearest whole number, a half going to the even neighbour. -/
def roundDiv (num den : Nat) : Nat :=
  let q := num / den
  let r := num % den
  if 2 * r < den then q else if den < 2 * r then q + 1 else if q % 2 = 0 then q else q + 1

def fixed (places : Nat) (x : Float) : String :=
  let b := Binary.ofFloat x
  let value := Ratio.ofBinary b.mantissa b.exponent
  let units := toString (roundDiv (value.num * Nat.pow 10 places) value.den)
  let padded := zeros (places + 1 - units.length) ++ units
  let whole := padded.toList.take (padded.length - places)
  let part := padded.toList.drop (padded.length - places)
  (if b.negative then "-" else "") ++ String.ofList whole ++
    (if places = 0 then "" else "." ++ String.ofList part)

def toFloat (d : Decimal) : Float :=
  if 0 ≤ d.exponent then Float.ofScientific d.digits false d.exponent.toNat
  else Float.ofScientific d.digits true (-d.exponent).toNat

def digitsValue (digits : List Char) : Nat :=
  digits.foldl (fun n c => 10 * n + (c.toNat - '0'.toNat)) 0

/-- Reads digits, an optional point and an optional exponent; the whole text has to be used. -/
def read? (text : List Char) : Option Decimal :=
  let whole := text.takeWhile Char.isDigit
  let rest := text.dropWhile Char.isDigit
  let (part, rest) := match rest with
    | '.' :: tail => (tail.takeWhile Char.isDigit, tail.dropWhile Char.isDigit)
    | _ => ([], rest)
  if whole.isEmpty && part.isEmpty then none
  else
    let mantissa := digitsValue (whole ++ part)
    match rest with
    | [] => some ⟨mantissa, -part.length⟩
    | e :: tail =>
      if e = 'e' || e = 'E' then
        let (negative, power) := match tail with
          | '-' :: p => (true, p)
          | '+' :: p => (false, p)
          | p => (false, p)
        if power.isEmpty || !power.all Char.isDigit then none
        else
          let size : Int := min (digitsValue power) 100000
          some ⟨mantissa, (if negative then -size else size) - part.length⟩
      else none

/-- The number a text stands for: a decimal with or without a sign, or the name of a number that is
not finite, in letters of either case. -/
def floatOf? (text : String) : Option Float :=
  let (negative, rest) := match text.toList with
    | '-' :: rest => (true, rest)
    | '+' :: rest => (false, rest)
    | rest => (false, rest)
  let name := String.ofList (rest.map Char.toLower)
  let size? := if name = "inf" || name = "infinity" then some (1.0 / 0.0)
    else if name = "nan" then some (0.0 / 0.0)
    else (read? rest).map toFloat
  size?.map fun size => if negative then -size else size

end Decimal

end Reconcile
