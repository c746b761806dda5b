import Reconcile.Grammar.Rule
import Reconcile.Text.CharClass

/-!
Reading the next token of a text. Which tokens are looked for depends on what the grammar expects:
layout tokens come first, then comments and blanks are passed over, then the longest expected
literal or class wins, a literal winning a tie.
-/

namespace Reconcile.Grammar

abbrev Source := Array Char

def charAt (text : Source) (i : Nat) : Char := text.getD i '\x00'

def startsAt (text : Source) : Nat → List Char → Bool
  | _, [] => true
  | i, c :: word => text[i]? == some c && startsAt text (i + 1) word

/-- The first offset from `i` on whose character does not satisfy `p`, looking at most `n` ahead. -/
def spanFrom (text : Source) (p : Char → Bool) : Nat → Nat → Nat
  | 0, i => i
  | n + 1, i => if i < text.size && p (charAt text i) then spanFrom text p n (i + 1) else i

def span (text : Source) (p : Char → Bool) (i : Nat) : Nat := spanFrom text p (text.size - i) i

structure Lexeme (σ : Type) where
  token : Nat
  start : Nat
  stop : Nat
  state : σ

structure LayoutToken (σ : Type) where
  name : String
  start : Nat
  stop : Nat
  state : σ

/-- What layout says at an offset: its tokens, and whether ordinary tokens are looked for too. -/
structure Layout (σ : Type) where
  tokens : List (LayoutToken σ)
  ordinary : Bool

structure TokenClass where
  name : String
  stop? : Source → Nat → Option Nat

structure Lexicon (σ : Type) where
  initial : σ
  layout : (String → Bool) → Source → Nat → σ → Layout σ
  isSpace : Char → Bool
  comment? : (String → Bool) → Source → Nat → Option Nat
  word : TokenClass
  classes : List TokenClass

variable {σ : Type}

abbrev LiteralTable := Std.HashMap Nat (List (List Char × Nat))

def literalTable (g : Grammar) : LiteralTable :=
  (g.literalIds.toList).foldl (fun table (text, id) =>
    match text.toList with
    | [] => table
    | c :: rest => table.insert c.toNat ((c :: rest, id) :: table.getD c.toNat [])) {}

structure Candidate where
  stop : Nat
  token : Nat

def Candidate.longer (best : Option Candidate) (c : Candidate) : Option Candidate :=
  match best with
  | none => some c
  | some b => if b.stop < c.stop then some c else some b

/-- The token that a word is: an expected literal of that text, or else an expected word. -/
def wordCandidate? (g : Grammar) (expected : Nat → Bool) (lex : Lexicon σ) (text : Source) (i : Nat) :
    Option Candidate := do
  let stop ← lex.word.stop? text i
  let word := String.ofList (text.extract i stop).toList
  match g.literalIds[word]? with
  | some id => if expected id then return ⟨stop, id⟩
  | none => pure ()
  let id ← g.classIds[lex.word.name]?
  if expected id then some ⟨stop, id⟩ else none

def literalCandidates (table : LiteralTable) (expected : Nat → Bool) (text : Source) (i : Nat) :
    List Candidate :=
  (table.getD (charAt text i).toNat []).filterMap fun (word, id) =>
    if expected id && startsAt text i word then some ⟨i + word.length, id⟩ else none

def classCandidates (g : Grammar) (expected : Nat → Bool) (lex : Lexicon σ) (text : Source)
    (i : Nat) : List Candidate :=
  lex.classes.filterMap fun c => do
    let id ← g.classIds[c.name]?
    if expected id then
      let stop ← c.stop? text i
      if i < stop then some ⟨stop, id⟩ else none
    else none

def endName : String := "end of input"

/-- Literals beside which shorter ones are tried too: a row of closing angles may close several
lists. -/
def isAngleRow (text : String) : Bool := text.toList.all fun c => c = '>' || c = '='

def ordinaryAt (g : Grammar) (table : LiteralTable) (lex : Lexicon σ) (expected : Nat → Bool)
    (text : Source) (state : σ) (i : Nat) : List (Lexeme σ) :=
  let wordEnd := (lex.word.stop? text i).getD i
  let literals := (literalCandidates table expected text i).filter fun c => wordEnd < c.stop
  let best := (literals ++ (wordCandidate? g expected lex text i).toList ++
    classCandidates g expected lex text i).foldl Candidate.longer none
  match best with
  | none => []
  | some b =>
    let angles := literals.filter fun c =>
      c.stop < b.stop && (g.tokens[c.token]?.any fun t => isAngleRow t.text) &&
        (g.tokens[b.token]?.any fun t => t.isLiteral && isAngleRow t.text)
    (b :: angles).map fun c => ⟨c.token, i, c.stop, state⟩

/-- The tokens at an offset, all blanks and comments before them being passed over. -/
def lexemes (g : Grammar) (table : LiteralTable) (lex : Lexicon σ) (expected : Nat → Bool)
    (text : Source) (state : σ) : Nat → Nat → List (Lexeme σ)
  | 0, _ => []
  | fuel + 1, i =>
    let isExpected (name : String) : Bool :=
      match (g.classIds[name]?).or (g.literalIds[name]?) with
      | some id => expected id
      | none => false
    let layout := lex.layout isExpected text i state
    let first := layout.tokens.filterMap fun t =>
      (g.classIds[t.name]?).map fun id => (⟨id, t.start, t.stop, t.state⟩ : Lexeme σ)
    if !layout.ordinary then first
    else
      let feed := match g.literalIds["\n"]? with
        | some id => expected id
        | none => false
      let j := span text (fun c => lex.isSpace c && !(feed && c = '\n')) i
      if text.size ≤ j then
        if isExpected endName then
          match g.classIds[endName]? with
          | some id => first ++ [⟨id, j, j, state⟩]
          | none => first
        else first
      else match lex.comment? isExpected text j with
        | some stop =>
          let later := lexemes g table lex expected text state fuel (max stop (j + 1))
          if first.isEmpty then later else first ++ later.filter fun l => l.start < l.stop
        | none => first ++ ordinaryAt g table lex expected text state j

end Reconcile.Grammar
