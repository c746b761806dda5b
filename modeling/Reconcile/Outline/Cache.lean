import Reconcile.Outline.Basic

/-!
Outlines kept by path. An outline is kept with a stamp of the text it was read from, and is used
again only for a text of the same stamp.
-/

namespace Reconcile

namespace Outline

structure Entry (κ : Type) where
  path : String
  stamp : κ
  outline : Outline

/-- At most one entry for each path. -/
structure Cache (κ : Type) where
  entries : List (Entry κ)

namespace Cache

variable {κ : Type}

def empty : Cache κ := ⟨[]⟩

def size (cache : Cache κ) : Nat := cache.entries.length

def isEmpty (cache : Cache κ) : Bool := cache.entries.isEmpty

def find? (cache : Cache κ) (path : String) : Option (Entry κ) :=
  cache.entries.find? (·.path = path)

def erase (cache : Cache κ) (path : String) : Cache κ := ⟨cache.entries.filter (·.path ≠ path)⟩

def insert (cache : Cache κ) (path : String) (stamp : κ) (outline : Outline) : Cache κ :=
  ⟨⟨path, stamp, outline⟩ :: (cache.erase path).entries⟩

/-- The outline kept for a path under a stamp; an entry with another stamp is dropped. -/
def get? [DecidableEq κ] (cache : Cache κ) (path : String) (stamp : κ) :
    Option Outline × Cache κ :=
  match cache.find? path with
  | none => (none, cache)
  | some entry =>
    if entry.stamp = stamp then (some entry.outline, cache) else (none, cache.erase path)

end Cache

structure Reader (κ : Type) where
  stamp : String → κ
  read? : String → String → Option Outline
  isEnabled : Bool

namespace Reader

variable {κ : Type}

def fresh? (reader : Reader κ) (path content : String) : Option Outline :=
  if reader.isEnabled then reader.read? path content else none

def cached? [DecidableEq κ] (reader : Reader κ) (path content : String) :
    StateM (Cache κ) (Option Outline) := fun cache =>
  if reader.isEnabled then
    let stamp := reader.stamp content
    match cache.get? path stamp with
    | (some outline, cache) => (some outline, cache)
    | (none, cache) =>
      match reader.read? path content with
      | some outline => (some outline, cache.insert path stamp outline)
      | none => (none, cache)
  else (none, cache)

/-- Whether a text is well-formed; nothing is said of files in no known language. -/
def isWellFormed? (reader : Reader κ) (path content : String) : Option Bool :=
  if reader.isEnabled && (Language.ofPath? path).isSome then
    some (reader.fresh? path content).isSome
  else none

end Reader

end Outline

end Reconcile
