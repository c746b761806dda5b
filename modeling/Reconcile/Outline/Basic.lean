import Reconcile.Language
import Reconcile.Outline.Declaration

/-!
Outlines of files: the declarations at their top level, and the changes from one outline to
another. Declarations are matched by kind and name; the first of several with one key counts.
-/

namespace Reconcile

structure Outline where
  language : Language
  declarations : List Declaration
  deriving DecidableEq, Repr

structure Changes where
  added : List ChangedNode
  removed : List ChangedNode
  modified : List ChangedNode
  touchesImports : Bool
  touchesExports : Bool
  deriving DecidableEq, Repr

def firstOfKey : List Declaration → List Declaration
  | [] => []
  | d :: rest => d :: (firstOfKey rest).filter (·.key ≠ d.key)

/-- The first declaration of each key, in the order of the keys. -/
def Outline.keyed (outline : Outline) : List Declaration :=
  (firstOfKey outline.declarations).mergeSort fun a b => !b.key.lt a.key

namespace Changes

def none : Changes := ⟨[], [], [], false, false⟩

def nodes (changes : Changes) : List ChangedNode := changes.added ++ changes.removed ++ changes.modified

def ofNodes (added removed modified : List ChangedNode) : Changes :=
  let nodes := added ++ removed ++ modified
  { added, removed, modified
    touchesImports := nodes.any (·.kind = .imported)
    touchesExports := nodes.any (·.kind = .exported) }

def between (before after : Outline) : Changes :=
  let old := before.keyed
  let new := after.keyed
  let namesake (ds : List Declaration) (d : Declaration) : Option Declaration :=
    ds.find? (·.key = d.key)
  ofNodes
    ((new.filter fun d => (namesake old d).isNone).map .ofDeclaration)
    ((old.filter fun d => (namesake new d).isNone).map .ofDeclaration)
    (old.filterMap fun d => match namesake new d with
      | some other => if other.fingerprint ≠ d.fingerprint then some (.ofDeclaration other) else .none
      | .none => .none)

def isEmpty (changes : Changes) : Bool :=
  changes.added.isEmpty && changes.removed.isEmpty && changes.modified.isEmpty

/-- Whether nothing was modified and only imports and exports were removed. -/
def isAdditive (changes : Changes) : Bool :=
  changes.modified.isEmpty && changes.removed.all (·.isInterface)

/-- Nodes added to a list, each only if no node of its key is there yet. -/
def extend (into : List ChangedNode) : List ChangedNode → List ChangedNode
  | [] => into
  | node :: rest =>
    if into.any (·.key = node.key) then extend into rest else extend (into ++ [node]) rest

def merge (a b : Changes) : Changes :=
  { added := extend a.added b.added
    removed := extend a.removed b.removed
    modified := extend a.modified b.modified
    touchesImports := a.touchesImports || b.touchesImports
    touchesExports := a.touchesExports || b.touchesExports }

/-- The changes that two branches make to their base, or, without one, those from one to the other. -/
def ofBranches (base : Option Outline) (ours theirs : Outline) : Changes :=
  match base with
  | some base => (between base ours).merge (between base theirs)
  | .none => between ours theirs

end Changes

end Reconcile
