import Std.Data.HashMap

/-!
Context-free grammars with optional and repeated parts, and their flat form: productions over
numbered tokens and nonterminals, with the tokens each nonterminal can begin with.
-/

namespace Reconcile.Grammar

inductive Rule where
  | lit (text : String)
  | tok (name : String)
  | ref (name : String)
  | seq (parts : List Rule)
  | choice (options : List Rule)
  | opt (rule : Rule)
  | many (rule : Rule)
  | field (name : String) (rule : Rule)

instance : Coe String Rule := ⟨Rule.lit⟩

namespace Rule

def many1 (rule : Rule) : Rule := seq [rule, many rule]

def sep1 (separator rule : Rule) : Rule := seq [rule, many (seq [separator, rule])]

def commaSep1 (rule : Rule) : Rule := sep1 "," rule

def commaSep (rule : Rule) : Rule := opt (commaSep1 rule)

def optSeq (rules : List Rule) : Rule := opt (seq rules)

end Rule

inductive Sym where
  | token (id : Nat)
  | rule (id : Nat)
  deriving DecidableEq, Repr

structure Part where
  sym : Sym
  field : Option String
  deriving Repr

structure Production where
  lhs : Nat
  body : List Part
  deriving Repr

structure Token where
  text : String
  isLiteral : Bool
  deriving Repr

structure Builder where
  names : Array String
  nameIds : Std.HashMap String Nat
  tokens : Array Token
  literalIds : Std.HashMap String Nat
  classIds : Std.HashMap String Nat
  productions : Array Production

namespace Builder

def empty : Builder := ⟨#[], {}, #[], {}, {}, #[]⟩

abbrev Build := StateM Builder

def literal (text : String) : Build Sym := fun b =>
  match b.literalIds[text]? with
  | some id => (.token id, b)
  | none =>
    let id := b.tokens.size
    (.token id, { b with tokens := b.tokens.push ⟨text, true⟩, literalIds := b.literalIds.insert text id })

def tokenClass (name : String) : Build Sym := fun b =>
  match b.classIds[name]? with
  | some id => (.token id, b)
  | none =>
    let id := b.tokens.size
    (.token id, { b with tokens := b.tokens.push ⟨name, false⟩, classIds := b.classIds.insert name id })

def nonterminal (name : String) : Build Nat := fun b =>
  match b.nameIds[name]? with
  | some id => (id, b)
  | none =>
    let id := b.names.size
    (id, { b with names := b.names.push name, nameIds := b.nameIds.insert name id })

/-- A nonterminal no rule can name; its nodes are never shown. -/
def fresh : Build Nat := fun b => (b.names.size, { b with names := b.names.push "_" })

def add (lhs : Nat) (body : List Part) : Build Unit := fun b =>
  ((), { b with productions := b.productions.push ⟨lhs, body⟩ })

def collapse : List (List Part) → Build (List Part)
  | [body] => pure body
  | bodies => do
    let id ← fresh
    bodies.forM (add id)
    pure [⟨.rule id, none⟩]

mutual

def bodies : Rule → Build (List (List Part))
  | .lit text => do pure [[⟨← literal text, none⟩]]
  | .tok name => do pure [[⟨← tokenClass name, none⟩]]
  | .ref name => do pure [[⟨.rule (← nonterminal name), none⟩]]
  | .seq rules => do pure [← sequence rules]
  | .choice rules => options rules
  | .opt rule => do pure ([] :: (← bodies rule))
  | .many rule => do
    let id ← fresh
    let inner ← bodies rule
    add id []
    inner.forM fun body => add id (⟨.rule id, none⟩ :: body)
    pure [[⟨.rule id, none⟩]]
  | .field name rule => do
    match ← collapse (← bodies rule) with
    | [part] => pure [[{ part with field := some name }]]
    | body =>
      let id ← fresh
      add id body
      pure [[⟨.rule id, some name⟩]]

def sequence : List Rule → Build (List Part)
  | [] => pure []
  | rule :: rest => do
    let first ← collapse (← bodies rule)
    pure (first ++ (← sequence rest))

def options : List Rule → Build (List (List Part))
  | [] => pure []
  | rule :: rest => do
    let first ← bodies rule
    pure (first ++ (← options rest))

end

/-- Numbers the first rule as nonterminal 0 and flattens every rule. -/
def ofRules (rules : List (String × Rule)) : Builder :=
  let build : Build Unit := do
    rules.forM fun (name, _) => discard (nonterminal name)
    rules.forM fun (name, rule) => do
      let id ← nonterminal name
      (← bodies rule).forM (add id)
  (build empty).2

end Builder

end Grammar

/-- A grammar ready for parsing. A state is a position in a production: before one of its parts, or
at its end. -/
structure Grammar where
  names : Array String
  tokens : Array Grammar.Token
  literalIds : Std.HashMap String Nat
  classIds : Std.HashMap String Nat
  /-- The part after each state, absent at the end of a production. -/
  next : Array (Option Grammar.Part)
  lhs : Array Nat
  /-- The first state of the production each state lies in. -/
  origin : Array Nat
  heads : Array (Array Nat)
  nullable : Array Bool
  first : Array (Array Bool)
  /-- The tokens each first state can begin with. -/
  headFirst : Array (Array Bool)
  undefined : List String

namespace Grammar

/-- A set of tokens as the bits of a number. -/
abbrev TokenSet := Nat

def partNullable (nullable : Array Bool) (part : Part) : Bool :=
  match part.sym with
  | .token _ => false
  | .rule id => nullable.getD id false

def firstOf (nullable : Array Bool) (first : Array TokenSet) : List Part → TokenSet
  | [] => 0
  | part :: rest =>
    match part.sym with
    | .token id => 1 <<< id
    | .rule id =>
      if nullable.getD id false then first.getD id 0 ||| firstOf nullable first rest
      else first.getD id 0

/-- One pass over all productions; nonterminals found to derive the empty text are marked. -/
def nullablePass (productions : Array Production) (nullable : Array Bool) : Array Bool :=
  productions.foldl (fun marks p =>
    if p.body.all (partNullable marks) then marks.setIfInBounds p.lhs true else marks) nullable

def firstPass (productions : Array Production) (nullable : Array Bool) (first : Array TokenSet) :
    Array TokenSet :=
  productions.foldl (fun sets p =>
    sets.setIfInBounds p.lhs (sets.getD p.lhs 0 ||| firstOf nullable sets p.body)) first

/-- Repeats a step until it changes nothing, at most `n` times. -/
def settle [BEq α] (f : α → α) : Nat → α → α
  | 0, a => a
  | n + 1, a =>
    let b := f a
    if b == a then a else settle f n b

def bits (size : Nat) (set : TokenSet) : Array Bool := (Array.range size).map set.testBit

def statesOf (p : Production) : List (Option Part) := p.body.map Option.some ++ [none]

def ofRules (rules : List (String × Rule)) : Grammar :=
  let b := Builder.ofRules rules
  let count := b.names.size
  let productions := b.productions.filter fun p => !p.body.isEmpty
  let nullable := settle (nullablePass b.productions) (count + 1) (Array.replicate count false)
  let first := settle (firstPass productions nullable) (count + 1) (Array.replicate count 0)
  let start : Array (Option Part) × Array Nat × Array Nat × Array (Array Nat) × Array (Array Bool) :=
    (#[], #[], #[], Array.replicate count #[], #[])
  let (next, lhs, origin, heads, headFirst) := productions.foldl
    (fun (next, lhs, origin, heads, headFirst) p =>
      let head := next.size
      let states := statesOf p
      let begins := bits b.tokens.size (firstOf nullable first p.body)
      (next ++ states, lhs ++ states.map fun _ => p.lhs, origin ++ states.map fun _ => head,
        heads.modify p.lhs (·.push head),
        headFirst ++ (begins :: (states.drop 1).map fun _ => #[])))
    start
  let defined := rules.map (·.1)
  { names := b.names
    tokens := b.tokens
    literalIds := b.literalIds
    classIds := b.classIds
    next, lhs, origin, heads, nullable, headFirst
    first := first.map (bits b.tokens.size)
    undefined := b.names.toList.filter fun name => name ≠ "_" && !defined.contains name }

def contains (table : Array (Array Bool)) (row column : Nat) : Bool :=
  match table[row]? with
  | some r => r.getD column false
  | none => false

end Grammar

end Reconcile
