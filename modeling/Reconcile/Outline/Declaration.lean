/-!
Declarations at the top level of a file.
-/

namespace Reconcile

inductive DeclarationKind where
  | imported
  | exported
  | function
  | classLike
  | binding
  deriving DecidableEq, Repr

namespace DeclarationKind

def name : DeclarationKind → String
  | imported => "ImportDeclaration"
  | exported => "ExportDeclaration"
  | function => "FunctionDeclaration"
  | classLike => "ClassDeclaration"
  | binding => "VariableDeclaration"

def all : List DeclarationKind := [imported, exported, function, classLike, binding]

def ofName? (name : String) : Option DeclarationKind := all.find? (·.name = name)

def rank : DeclarationKind → Nat
  | imported => 0
  | exported => 1
  | function => 2
  | classLike => 3
  | binding => 4

end DeclarationKind

structure LineSpan where
  first : Nat
  last : Nat
  deriving DecidableEq, Repr

/-- What a declaration is known by from one version of a file to another. -/
structure DeclarationKey where
  kind : DeclarationKind
  name : String
  deriving DecidableEq, Repr

namespace DeclarationKey

/-- The key of a declaration; those without a name share one. -/
def of (kind : DeclarationKind) (name : Option String) : DeclarationKey :=
  ⟨kind, name.getD "anonymous"⟩

def lt (a b : DeclarationKey) : Bool :=
  a.kind.rank < b.kind.rank || (a.kind.rank = b.kind.rank && a.name < b.name)

end DeclarationKey

structure Declaration where
  kind : DeclarationKind
  name : Option String
  span : LineSpan
  /-- A digest of what the declaration says apart from its layout. -/
  fingerprint : String
  deriving DecidableEq, Repr

def Declaration.key (d : Declaration) : DeclarationKey := .of d.kind d.name

structure ChangedNode where
  kind : DeclarationKind
  name : Option String
  span : Option LineSpan
  deriving DecidableEq, Repr

namespace ChangedNode

def key (node : ChangedNode) : DeclarationKey := .of node.kind node.name

def isInterface (node : ChangedNode) : Bool := node.kind = .imported || node.kind = .exported

def ofDeclaration (d : Declaration) : ChangedNode := ⟨d.kind, d.name, some d.span⟩

end ChangedNode

end Reconcile
