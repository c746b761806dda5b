import Std.Data.HashSet
import Reconcile.Grammar.Lexicon

/-!
Parsing by charts. A column holds what can have been read up to one offset: items, each a state of
a production and the column it began in. Columns are made in the order of their offsets; a column
first completes what ends there, then reads its tokens, then predicts what can begin with them.
-/

namespace Reconcile.Grammar

/-- A state of a production together with the column the production began in. -/
structure Item where
  state : Nat
  origin : Nat
  deriving BEq, Hashable

structure Arrival where
  token : Nat
  source : Nat

structure Column (σ : Type) where
  stop : Nat
  /-- How many tokens without characters end at the same offset before this column. -/
  ties : Nat
  state : σ
  arrivals : Array Arrival
  items : Array Item
  members : Std.HashSet Item
  waiting : Std.HashMap Nat (Array Item)
  nextStart : Nat

variable {σ : Type}

namespace Column

def seed (stop ties : Nat) (state : σ) (arrivals : Array Arrival) (items : Array Item) : Column σ :=
  { stop, ties, state, arrivals
    items := items
    members := Std.HashSet.ofList items.toList
    waiting := {}
    nextStart := stop }

def insert (column : Column σ) (item : Item) : Column σ :=
  if column.members.contains item then column
  else { column with items := column.items.push item, members := column.members.insert item }

def insertAll (column : Column σ) (items : Array Item) : Column σ := items.foldl insert column

end Column

def Item.advance (item : Item) : Item := ⟨item.state + 1, item.origin⟩

def nextPart? (g : Grammar) (item : Item) : Option Part := g.next.getD item.state none

/-- Completes productions that end in a column, from its item `i` on. Productions that began in the
same column derive the empty text and have been passed over where they were expected. -/
def complete (g : Grammar) (columns : Array (Column σ)) : Nat → Nat → Column σ → Column σ
  | 0, _, column => column
  | fuel + 1, i, column =>
    match column.items[i]? with
    | none => column
    | some item =>
      let column := match nextPart? g item with
        | none =>
          match columns[item.origin]? with
          | none => column
          | some source =>
            column.insertAll
              ((source.waiting.getD (g.lhs.getD item.state 0) #[]).map Item.advance)
        | some part => if partNullable g.nullable part then column.insert item.advance else column
      complete g columns fuel (i + 1) column

def predict (g : Grammar) (index : Nat) (tokens : List Nat) : Nat → Nat → Column σ → Column σ
  | 0, _, column => column
  | fuel + 1, i, column =>
    match column.items[i]? with
    | none => column
    | some item =>
      let column := match nextPart? g item with
        | some ⟨.rule id, _⟩ =>
          let column := if g.nullable.getD id false then column.insert item.advance else column
          if tokens.any (contains g.first id) then
            match column.waiting[id]? with
            | some items => { column with waiting := column.waiting.insert id (items.push item) }
            | none =>
              let heads := (g.heads.getD id #[]).filter fun head =>
                tokens.any (contains g.headFirst head)
              { column with waiting := column.waiting.insert id #[item] }.insertAll
                (heads.map (⟨·, index⟩))
          else column
        | _ => column
      predict g index tokens fuel (i + 1) column

def Column.expects (g : Grammar) (column : Column σ) (token : Nat) : Bool :=
  column.items.any fun item =>
    match nextPart? g item with
    | some ⟨.token id, _⟩ => id = token
    | some ⟨.rule id, _⟩ => contains g.first id token
    | none => false

/-- Adds what a token leads to, keeping columns in order and joining those at one place. -/
def enqueue (column : Column σ) : List (Column σ) → List (Column σ)
  | [] => [column]
  | head :: rest =>
    if column.stop = head.stop ∧ column.ties = head.ties then
      { head with arrivals := head.arrivals ++ column.arrivals }.insertAll column.items :: rest
    else if column.stop < head.stop ∨ (column.stop = head.stop ∧ column.ties < head.ties) then
      column :: head :: rest
    else head :: enqueue column rest

def scan? (g : Grammar) (index : Nat) (column : Column σ) (l : Lexeme σ) : Option (Column σ) :=
  let items := column.items.filterMap fun item =>
    match nextPart? g item with
    | some ⟨.token id, _⟩ => if id = l.token then some item.advance else none
    | _ => none
  if items.isEmpty then none
  else
    let ties := if l.stop = column.stop then column.ties + 1 else 0
    some (.seed l.stop ties l.state #[⟨l.token, index⟩] items)

def run (g : Grammar) (table : LiteralTable) (lex : Lexicon σ) (text : Source) :
    Nat → List (Column σ) → Array (Column σ) → Array (Column σ)
  | 0, _, columns => columns
  | _ + 1, [], columns => columns
  | fuel + 1, column :: pending, columns =>
    let index := columns.size
    let bound := g.next.size * (index + 1) + 1
    let column := complete g columns bound 0 column
    let found := lexemes g table lex (column.expects g) text column.state (text.size + 1) column.stop
    let start := ((found.filter fun l => l.start < l.stop).head?.map (·.start)).getD column.stop
    let column := predict g index (found.map (·.token)) bound 0 { column with nextStart := start }
    let pending := found.foldl (fun queue l =>
      match scan? g index column l with
      | some next => enqueue next queue
      | none => queue) pending
    run g table lex text fuel pending (columns.push column)

/-- The columns of a text; the first rule of the grammar is what the text has to be. -/
def chart (g : Grammar) (lex : Lexicon σ) (text : Source) : Array (Column σ) :=
  let start : Column σ := .seed 0 0 lex.initial #[] ((g.heads.getD 0 #[]).map (⟨·, 0⟩))
  run g (literalTable g) lex text (8 * (text.size + 8)) [start] #[]

/-- The last column over which the first rule has been read from the start. -/
def acceptedAt? (g : Grammar) (columns : Array (Column σ)) : Option Nat :=
  ((List.range columns.size).filter fun k =>
    (columns[k]?).any fun column => column.items.any fun item =>
      item.origin = 0 && g.lhs.getD item.state 1 = 0 && (nextPart? g item).isNone).getLast?

structure Node where
  sym : Sym
  field : Option String
  source : Nat
  target : Nat

/-- The column before the last part of a production, the part ending in column `target`. -/
def partSource? (g : Grammar) (columns : Array (Column σ)) (state origin target : Nat) (part : Part) :
    Option Nat := do
  let column ← columns[target]?
  let holds (k : Nat) : Bool := (columns[k]?).any fun c => c.members.contains ⟨state, origin⟩
  match part.sym with
  | .token id => ((column.arrivals.find? fun a => a.token = id && holds a.source)).map (·.source)
  | .rule id =>
    let sources := column.items.filterMap fun item =>
      if (nextPart? g item).isNone && g.lhs.getD item.state 0 = id && item.origin ≠ target &&
          holds item.origin then some item.origin else none
    match sources.toList.max? with
    | some k => some k
    | none => if g.nullable.getD id false && holds target then some target else none

/-- The parts of a production that has been read up to `state`, last part first. -/
def partsOf (g : Grammar) (columns : Array (Column σ)) (origin : Nat) : Nat → Nat → Nat → List Node
  | 0, _, _ => []
  | fuel + 1, state, target =>
    if g.origin.getD state 0 = state then []
    else match g.next.getD (state - 1) none with
      | none => []
      | some part =>
        match partSource? g columns (state - 1) origin target part with
        | none => []
        | some k => ⟨part.sym, part.field, k, target⟩ :: partsOf g columns origin fuel (state - 1) k

/-- The parts of a nonterminal between two columns, by the first production that fits. -/
def partsBetween (g : Grammar) (columns : Array (Column σ)) (id source target : Nat) : List Node :=
  match columns[target]? with
  | none => []
  | some column =>
    let ends := column.items.filter fun item =>
      (nextPart? g item).isNone && g.lhs.getD item.state 0 = id && item.origin = source
    match (ends.map (·.state)).toList.min? with
    | none => []
    | some state => (partsOf g columns source (state + 1) state target).reverse

def isShown (g : Grammar) : Sym → Bool
  | .token _ => true
  | .rule id => ((g.names.getD id "_").toList.head?) != some '_'

/-- The shown nodes that a list of parts holds; a hidden part gives its field to what it holds. -/
def flatten (g : Grammar) (columns : Array (Column σ)) : Nat → List Node → List Node
  | 0, _ => []
  | _ + 1, [] => []
  | fuel + 1, node :: rest =>
    match node.sym with
    | .token _ => node :: flatten g columns fuel rest
    | .rule id =>
      if isShown g node.sym then
        if node.source = node.target then flatten g columns fuel rest
        else node :: flatten g columns fuel rest
      else if node.source = node.target then flatten g columns fuel rest
      else
        let inner := (partsBetween g columns id node.source node.target).map fun n =>
          if n.field.isSome then n else { n with field := node.field }
        flatten g columns fuel (inner ++ rest)

inductive Tree where
  | node (kind : String) (isNamed : Bool) (field : Option String) (start stop : Nat)
      (children : List Tree)

namespace Tree

def kind : Tree → String
  | node kind .. => kind

def isNamed : Tree → Bool
  | node _ isNamed .. => isNamed

def field : Tree → Option String
  | node _ _ field .. => field

def start : Tree → Nat
  | node _ _ _ start .. => start

def stop : Tree → Nat
  | node _ _ _ _ stop _ => stop

def children : Tree → List Tree
  | node _ _ _ _ _ children => children

end Tree

def columnStop (columns : Array (Column σ)) (k : Nat) : Nat :=
  ((columns[k]?).map (·.stop)).getD 0

def columnStart (columns : Array (Column σ)) (k : Nat) : Nat :=
  ((columns[k]?).map (·.nextStart)).getD 0

def treeOf (g : Grammar) (columns : Array (Column σ)) : Nat → Node → Tree
  | depth, node =>
    let start := columnStart columns node.source
    let stop := columnStop columns node.target
    match node.sym with
    | .token id =>
      let token := g.tokens.getD id ⟨"", true⟩
      .node token.text (!token.isLiteral) node.field start stop []
    | .rule id =>
      let children := match depth with
        | 0 => []
        | depth + 1 =>
          (flatten g columns (64 * (columns.size + 8))
            (partsBetween g columns id node.source node.target)).map (treeOf g columns depth)
      .node (g.names.getD id "_") true node.field start stop children

def parse? (g : Grammar) (lex : Lexicon σ) (depth : Nat) (text : Source) : Option Tree :=
  let columns := chart g lex text
  (acceptedAt? g columns).map fun last => treeOf g columns depth ⟨.rule 0, none, 0, last⟩

end Reconcile.Grammar
