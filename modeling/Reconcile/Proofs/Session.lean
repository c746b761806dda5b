import Mathlib.Tactic.Common
import Reconcile.Fix.Engine

/-!
# Sessions

An engine is called again and again, while others change the files. From one call to the next only the
tree of files, the store and what the engine has learned are carried over. When the clock is read, which
ids are given out and which steps fail is another matter at each call.
-/

namespace Reconcile

variable {κ ν : Type}

/-- What a call meets with. A creation also fails where the id it is given is taken, so that any one of
the creations of a call may be the one that fails. -/
structure Circumstances where
  clock : Nat → Timestamp
  ids : Nat → String
  faults : Stage → Option FixError

inductive Request (κ ν : Type) where
  | generate (factors : Factors ν → Json) (repository : String) (conflict : Conflict) (most : Nat)
  | apply (id : String) (options : ApplyOptions)
  | validate (id : String)
  | report (strategy : String) (succeeded : Bool)
  | list (filter : SuggestionFilter)
  /-- Another engine is started on the same store. -/
  | reopen (settings : Settings ν) (chain : Chain) (reader : Outline.Reader κ)
  /-- The files are changed by others, in whatever way. -/
  | edit (disk : Disk)

structure Call (κ ν : Type) where
  request : Request κ ν
  circumstances : Circumstances

structure Session (κ ν : Type) where
  engine : Engine κ ν
  disk : Disk
  store : Store ν

namespace Session

def environment (session : Session κ ν) (circumstances : Circumstances) : Environment ν where
  disk := session.disk
  store := session.store
  clock := circumstances.clock
  readings := 0
  ids := circumstances.ids
  issued := 0
  faults := circumstances.faults
  trail := []

def left (session : Session κ ν) (after : Environment ν) : Session κ ν :=
  { session with disk := after.disk, store := after.store }

/-- The id of the suggestion that a call says it has applied. -/
def applies? (session : Session κ ν) (call : Call κ ν) : Option String :=
  match call.request with
  | .apply id options =>
    match (session.engine.apply id options (session.environment call.circumstances)).1 with
    | .ok application => if application.applied then some id else none
    | .error _ => none
  | _ => none

theorem exists_of_applies? {session : Session κ ν} {call : Call κ ν} {id : String}
    (h : session.applies? call = some id) :
    ∃ options application, call.request = .apply id options ∧ application.applied = true ∧
      (session.engine.apply id options (session.environment call.circumstances)).1 =
        .ok application := by
  unfold applies? at h
  split at h
  · rename_i other options hrequest
    split at h
    · rename_i application hresult
      split_ifs at h with happlied
      obtain rfl := Option.some.inj h
      exact ⟨options, application, hrequest, happlied, hresult⟩
    · cases h
  · cases h

variable [Scalar ν]

def step (session : Session κ ν) (call : Call κ ν) : Session κ ν :=
  let env := session.environment call.circumstances
  match call.request with
  | .generate factors repository conflict most =>
    session.left (session.engine.generate factors repository conflict most env).2
  | .apply id options => session.left (session.engine.apply id options env).2
  | .validate id => session.left (Engine.validate id env).2
  | .report strategy succeeded =>
    match session.engine.report strategy succeeded env with
    | (.ok (_, engine), after) => { session.left after with engine }
    | (.error _, after) => session.left after
  | .list _ => session
  | .reopen settings chain reader =>
    match Engine.start settings chain reader session.store with
    | .ok engine => { session with engine }
    | .error _ => session
  | .edit disk => { session with disk }

def after (session : Session κ ν) (calls : List (Call κ ν)) : Session κ ν := calls.foldl step session

theorem after_append (session : Session κ ν) (first second : List (Call κ ν)) :
    session.after (first ++ second) = (session.after first).after second :=
  List.foldl_append

/-- The ids of the suggestions that calls say they have applied. -/
def appliedIds : Session κ ν → List (Call κ ν) → List String
  | _, [] => []
  | session, call :: rest => (session.applies? call).toList ++ (session.step call).appliedIds rest

end Session

end Reconcile
