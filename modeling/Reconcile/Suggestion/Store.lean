import Reconcile.Files.Disk
import Reconcile.Json.Reader
import Reconcile.Json.Writer
import Reconcile.Scalar
import Reconcile.Suggestion.Query

/-!
Where suggestions are kept. A row holds texts, which are decoded when it is read; a row that does
not decode makes reading it fail. Tables are made by numbered migrations.
-/

namespace Reconcile

inductive RowStatus where
  | generated
  | applied
  | rolledBack
  deriving DecidableEq, Repr

def RowStatus.name : RowStatus → String
  | generated => "generated"
  | applied => "applied"
  | rolledBack => "rolled_back"

structure Row (ν : Type) where
  id : String
  repository : String
  path : String
  kind : String
  resolution : String
  confidence : ν
  explanation : String
  strategy : String
  base : Option String
  source : Option String
  target : Option String
  metadata : String
  status : RowStatus
  createdAt : String
  appliedAt : Option String
  rolledBackAt : Option String

inductive StoreError where
  | notFound (entity id : String)
  /-- A table is missing, or a row breaks one of its rules. -/
  | refused
  | unreachable (cause : FileError)
  | migrationFailed (version : Nat)
  | corrupt (field detail : String)
  deriving DecidableEq, Repr

def StoreError.message : StoreError → String
  | notFound entity id => entity ++ " not found: " ++ id
  | refused => "database error"
  | unreachable cause => "database I/O error: " ++ cause.message
  | migrationFailed version => "database migration failed (version " ++ toString version ++ ")"
  | corrupt field detail => "corrupt " ++ field ++ " in suggestion: " ++ detail

namespace Row

variable {ν : Type} [Scalar ν]

/-- The row of a new suggestion. A number that is kept loses the sign of zero. -/
def ofSuggestion (s : Suggestion ν) : Row ν where
  id := s.id
  repository := s.repository
  path := s.path
  kind := s.kind.name
  resolution := s.resolution
  confidence := s.confidence + 0.0
  explanation := s.explanation
  strategy := s.strategy
  base := s.base
  source := s.source
  target := s.target
  metadata := s.metadata.render
  status := .generated
  createdAt := s.createdAt.stored
  appliedAt := s.appliedAt.map Timestamp.stored
  rolledBackAt := s.rolledBackAt.map Timestamp.stored

def decodeTime (field text : String) : Except StoreError Timestamp :=
  (Timestamp.ofStored? text).elim (.error (.corrupt field text)) .ok

def decodeTime? (field : String) : Option String → Except StoreError (Option Timestamp)
  | none => .ok none
  | some text => (decodeTime field text).map some

/-- The suggestion in a row; of two fields that do not decode the first one counts. -/
def decode (row : Row ν) : Except StoreError (Suggestion ν) := do
  let kind ← match ConflictKind.ofAnyCase row.kind with
    | .ok kind => .ok kind
    | .error unknown => .error (.corrupt "conflict_type" unknown.message)
  let metadata ← (Json.parse? row.metadata).elim (.error (.corrupt "metadata" row.metadata)) .ok
  let createdAt ← decodeTime "created_at" row.createdAt
  let appliedAt ← decodeTime? "applied_at" row.appliedAt
  let rolledBackAt ← decodeTime? "rolled_back_at" row.rolledBackAt
  .ok { id := row.id, repository := row.repository, path := row.path, kind
        resolution := row.resolution, confidence := row.confidence
        explanation := row.explanation, strategy := row.strategy, base := row.base
        source := row.source, target := row.target, metadata, createdAt, appliedAt, rolledBackAt }

def markApplied (row : Row ν) (now : Timestamp) : Row ν :=
  if row.appliedAt.isNone then { row with status := .applied, appliedAt := some now.stored } else row

def markRolledBack (row : Row ν) (now : Timestamp) : Row ν :=
  { row with status := .rolledBack, rolledBackAt := some now.stored, appliedAt := none }

def text (row : Row ν) : TextColumn → String
  | .repository => row.repository
  | .path => row.path
  | .kind => row.kind

def meets (row : Row ν) (query : RowQuery) : Condition → Bool
  | .equals column parameter => query.value? parameter = some (.text (row.text column))
  | .isUnapplied => row.appliedAt.isNone

def isSelected (row : Row ν) (query : RowQuery) : Bool := query.conditions.all (row.meets query)

/-- Whether a row is listed no later than another: higher confidence first, then the later one. -/
def precedes (a b : Row ν) : Bool :=
  Scalar.isAtMost b.confidence a.confidence &&
    (!Scalar.isAtMost a.confidence b.confidence || !(a.createdAt < b.createdAt))

end Row

structure Outcome where
  strategy : String
  succeeded : Bool
  deriving DecidableEq, Repr

structure Store (ν : Type) where
  version : Nat
  suggestions : Option (List (Row ν))
  outcomes : Option (List Outcome)
  /-- Whether the name of the table of suggestions is used for something else. -/
  isNameTaken : Bool

namespace Store

variable {ν : Type} [Scalar ν]

def blank : Store ν := ⟨0, none, none, false⟩

def migrate (version : Nat) (store : Store ν) : Except StoreError (Store ν) :=
  if version ≤ store.version then .ok store
  else if version = 1 then
    if store.isNameTaken then .error (.migrationFailed 1)
    else .ok { store with version, suggestions := some (store.suggestions.getD []) }
  else .ok { store with version, outcomes := some (store.outcomes.getD []) }

/-- Makes the tables that are missing; what was made before a failure stays. -/
def prepare (store : Store ν) : Except StoreError Unit × Store ν :=
  match store.migrate 1 with
  | .error e => (.error e, store)
  | .ok store =>
    match store.migrate 2 with
    | .error e => (.error e, store)
    | .ok store => (.ok (), store)

def ready : Store ν := (blank : Store ν).prepare.2

def rows (store : Store ν) : Except StoreError (List (Row ν)) :=
  store.suggestions.elim (.error .refused) .ok

def find? (rows : List (Row ν)) (id : String) : Option (Row ν) := rows.find? (·.id = id)

def suggestionOf (draft : Draft ν) (id : String) (now : Timestamp) : Suggestion ν :=
  { draft with
    confidence := Scalar.clampUnit draft.confidence
    id, createdAt := now, appliedAt := none, rolledBackAt := none }

/-- Keeps a new suggestion, unless its confidence is no number or its id is used. -/
def create (store : Store ν) (draft : Draft ν) (id : String) (now : Timestamp) :
    Except StoreError (Suggestion ν × Store ν) := do
  let rows ← store.rows
  let suggestion := suggestionOf draft id now
  if !Scalar.isOrdered suggestion.confidence || (find? rows id).isSome then .error .refused
  else .ok (suggestion, { store with suggestions := some (rows ++ [.ofSuggestion suggestion]) })

def get (store : Store ν) (id : String) : Except StoreError (Option (Suggestion ν)) := do
  match find? (← store.rows) id with
  | none => .ok none
  | some row => (row.decode).map some

def take? (limit : Option Nat) (items : List α) : List α :=
  limit.elim items items.take

def list (store : Store ν) (filter : SuggestionFilter) : Except StoreError (List (Suggestion ν)) := do
  let query := filter.query
  let found := (← store.rows).filter (·.isSelected query)
  (take? query.most? (found.mergeSort Row.precedes)).mapM Row.decode

def change (store : Store ν) (id : String) (f : Row ν → Row ν) : Except StoreError (Store ν) := do
  let rows ← store.rows
  if (find? rows id).isNone then .error (.notFound "suggestion" id)
  else .ok { store with suggestions := some (rows.map fun row => if row.id = id then f row else row) }

def mark (store : Store ν) (id : String) (isRollback : Bool) (now : Timestamp) :
    Except StoreError (Store ν) :=
  store.change id fun row => if isRollback then row.markRolledBack now else row.markApplied now

def record (store : Store ν) (outcome : Outcome) : Except StoreError (Store ν) := do
  let outcomes ← store.outcomes.elim (.error .refused) .ok
  .ok { store with outcomes := some (outcomes ++ [outcome]) }

def history (store : Store ν) : Except StoreError (List Outcome) :=
  store.outcomes.elim (.error .refused) .ok

end Store

end Reconcile
