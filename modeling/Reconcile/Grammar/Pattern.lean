import Reconcile.Grammar.Lexicon

/-!
Regular patterns for classes of tokens. A pattern has a list of ends at an offset; a token takes the
last of them.
-/

namespace Reconcile.Grammar

inductive Pattern where
  | char (holds : Char → Bool)
  | seq (parts : List Pattern)
  | alt (options : List Pattern)
  | opt (pattern : Pattern)
  | star (pattern : Pattern)

namespace Pattern

instance : Coe Char Pattern := ⟨fun c => char (· == c)⟩

def oneOf (chars : String) : Pattern := char fun c => chars.toList.contains c

def noneOf (chars : String) : Pattern := char fun c => !chars.toList.contains c

def word (text : String) : Pattern := seq (text.toList.map fun c => char (· == c))

def plus (p : Pattern) : Pattern := seq [p, star p]

def times (n : Nat) (p : Pattern) : Pattern := seq (List.replicate n p)

def between (low high : Nat) (p : Pattern) : Pattern :=
  seq (List.replicate low p ++ List.replicate (high - low) (opt p))

def digit : Pattern := char Char.isDigit

def isHexDigit (c : Char) : Bool := c.isDigit || ('a' ≤ c && c ≤ 'f') || ('A' ≤ c && c ≤ 'F')

def hexDigit : Pattern := char isHexDigit

def octalDigit : Pattern := char fun c => '0' ≤ c && c ≤ '7'

/-- One or more, with single underscores allowed between neighbours. -/
def grouped (p : Pattern) : Pattern := seq [p, star (seq [opt '_', p])]

/-- Adds what a step reaches from the newest ends until nothing new is reached. -/
def closure (step : Nat → List Nat) : Nat → List Nat → List Nat → List Nat
  | 0, _, found => found
  | _ + 1, [], found => found
  | fuel + 1, newest, found =>
    let next := ((newest.flatMap step).filter fun k => !found.contains k).eraseDups
    closure step fuel next (found ++ next)

mutual

/-- Every offset at which a match that begins at `i` can end. -/
def ends (text : Source) : Pattern → Nat → List Nat
  | char holds, i => if i < text.size && holds (charAt text i) then [i + 1] else []
  | seq parts, i => endsOfSeq text parts [i]
  | alt options, i => endsOfAlt text options i
  | opt p, i => i :: ends text p i
  | star p, i => closure (ends text p) (text.size + 1) [i] [i]

def endsOfSeq (text : Source) : List Pattern → List Nat → List Nat
  | [], starts => starts
  | p :: rest, starts => endsOfSeq text rest (starts.flatMap (ends text p)).eraseDups

def endsOfAlt (text : Source) : List Pattern → Nat → List Nat
  | [], _ => []
  | p :: rest, i => ends text p i ++ endsOfAlt text rest i

end

def stop? (p : Pattern) (text : Source) (i : Nat) : Option Nat := (ends text p i).max?

end Pattern

def patternClass (name : String) (p : Pattern) : TokenClass := ⟨name, p.stop?⟩

def isPlainSpace (c : Char) : Bool := c = ' ' || (9 ≤ c.toNat && c.toNat ≤ 13)

def lineComment? (text : Source) (i : Nat) : Option Nat :=
  if startsAt text i ['/', '/'] then some (span text (· ≠ '\n') (i + 2)) else none

def blockEnd? (text : Source) : Nat → Nat → Option Nat
  | 0, _ => none
  | fuel + 1, i =>
    if text.size ≤ i then none
    else if startsAt text i ['*', '/'] then some (i + 2)
    else blockEnd? text fuel (i + 1)

def blockComment? (text : Source) (i : Nat) : Option Nat :=
  if startsAt text i ['/', '*'] then blockEnd? text (text.size + 1) (i + 2) else none

def identifierEnd? (first later : Char → Bool) (text : Source) (i : Nat) : Option Nat :=
  if i < text.size && first (charAt text i) then some (span text later (i + 1)) else none

end Reconcile.Grammar
