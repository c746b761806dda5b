import Reconcile.Text.Category

/-!
Character classes: white space, word characters, and the letters of identifiers.
-/

namespace Reconcile.Text

/-- White space of every script. -/
def isBlank (c : Char) : Bool :=
  let n := c.toNat
  (9 ≤ n && n ≤ 13) || n = 0x20 || n = 0x85 || n = 0xa0 || n = 0x1680 ||
    (0x2000 ≤ n && n ≤ 0x200a) || n = 0x2028 || n = 0x2029 || n = 0x202f || n = 0x205f || n = 0x3000

def inRanges (table : Array (Nat × Nat)) (n : Nat) : Bool :=
  table.any fun (low, high) => low ≤ n && n ≤ high

def isAsciiAlphanumeric (c : Char) : Bool := c.isAlpha || c.isDigit

def isLetter (c : Char) : Bool :=
  if c.toNat < 128 then c.isAlpha else inRanges Category.letter c.toNat

def isDecimalDigit (c : Char) : Bool :=
  if c.toNat < 128 then c.isDigit else inRanges Category.decimalDigit c.toNat

def isAlphanumeric (c : Char) : Bool :=
  if c.toNat < 128 then isAsciiAlphanumeric c
  else [Category.letter, Category.letterNumber, Category.decimalDigit, Category.otherNumber,
    Category.otherAlphabetic].any (inRanges · c.toNat)

/-- Characters between which a blank separates two words. -/
def isWordChar (c : Char) : Bool := isAlphanumeric c || c = '_'

/-- Letters that some script writes as compatibility forms of a blank and a mark. -/
def isSpacedForm (c : Char) : Bool :=
  inRanges #[(890, 890), (11823, 11823), (64606, 64611), (65018, 65019), (65136, 65136),
    (65138, 65138), (65140, 65140), (65142, 65142), (65144, 65144), (65146, 65146),
    (65148, 65148), (65150, 65150)] c.toNat

def startsIdentifier (c : Char) : Bool :=
  if c.toNat < 128 then c.isAlpha
  else
    (([Category.letter, Category.letterNumber].any (inRanges · c.toNat)) ||
      inRanges #[(6277, 6278), (8472, 8472), (8494, 8494)] c.toNat) &&
    !isSpacedForm c && !inRanges #[(3635, 3635), (3763, 3763), (65438, 65439)] c.toNat

def continuesIdentifier (c : Char) : Bool :=
  if c.toNat < 128 then isAsciiAlphanumeric c || c = '_'
  else
    (([Category.letter, Category.letterNumber, Category.decimalDigit, Category.mark].any
        (inRanges · c.toNat)) ||
      inRanges #[(183, 183), (903, 903), (4969, 4977), (6277, 6278), (6618, 6618), (8204, 8205),
        (8255, 8256), (8276, 8276), (8472, 8472), (8494, 8494), (12539, 12539), (65075, 65076),
        (65101, 65103), (65343, 65343), (65381, 65381)] c.toNat) &&
    !isSpacedForm c

end Reconcile.Text
