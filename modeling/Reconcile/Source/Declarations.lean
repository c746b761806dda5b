import Reconcile.Digest.Sha256
import Reconcile.Outline.Basic
import Reconcile.Source.Go
import Reconcile.Source.Python
import Reconcile.Source.Rust
import Reconcile.Source.TypeScript
import Reconcile.Text.Significant

/-!
The outline of a source text: which stretches of its tree are declarations, and the names they
have. Only the stretches directly below the root count.
-/

namespace Reconcile

namespace Grammar.Tree

def text (source : Source) (t : Tree) : List Char := (source.extract t.start t.stop).toList

def namedChildren (t : Tree) : List Tree := t.children.filter (·.isNamed)

def child? (t : Tree) (field : String) : Option Tree := t.children.find? (·.field = some field)

def hasChild (t : Tree) (kind : String) : Bool := t.children.any (·.kind = kind)

def fieldText? (source : Source) (t : Tree) (field : String) : Option String :=
  (t.child? field).map fun c => String.ofList (Text.squash (c.text source))

def nameOfChild? (source : Source) (t : Tree) (kind : String) : Option String :=
  t.namedChildren.findSome? fun c =>
    if c.kind = kind then c.fieldText? source "name" else none

/-- How deep a tree is looked into: group, specification and name below a declaration. -/
def outlineDepth : Nat := 6

end Grammar.Tree

namespace Source

open Grammar

abbrev Found := Option (DeclarationKind × Option String)

def isQuote (c : Char) : Bool := c = '"' || c = '\'' || c = '\x60'

def unquote (text : String) : String :=
  String.ofList ((text.toList.dropWhile isQuote).reverse.dropWhile isQuote).reverse

def named (source : Grammar.Source) (t : Tree) (kind : DeclarationKind) : Found :=
  some (kind, t.fieldText? source "name")

def scriptItem (source : Grammar.Source) (t : Tree) : Found :=
  if t.kind = "import_statement" then
    some (.imported, (t.fieldText? source "source").map unquote)
  else if ["function_declaration", "generator_function_declaration"].contains t.kind then
    named source t .function
  else if ["class_declaration", "abstract_class_declaration", "interface_declaration",
      "type_alias_declaration", "enum_declaration"].contains t.kind then
    named source t .classLike
  else if ["lexical_declaration", "variable_declaration"].contains t.kind then
    some (.binding, t.nameOfChild? source "variable_declarator")
  else none

/-- The name an export goes by: that of what it declares, else what it names. -/
def exportName? (source : Grammar.Source) (t : Tree) : Option String :=
  match (t.child? "declaration").bind (scriptItem source) with
  | some (_, some name) => some name
  | _ =>
    if t.hasChild "default" then some "default"
    else match t.fieldText? source "source" with
      | some origin => some ("from " ++ unquote origin)
      | none => (t.namedChildren.find? (·.kind = "export_clause")).map fun c =>
          String.ofList (Text.squash (c.text source))

def scriptDeclaration (source : Grammar.Source) (t : Tree) : Found :=
  if t.kind = "export_statement" then some (.exported, exportName? source t)
  else scriptItem source t

def joined? (names : List String) : Option String :=
  if names.isEmpty then none else some (", ".intercalate names)

def pythonItem (source : Grammar.Source) (t : Tree) : Found :=
  if t.kind = "import_statement" then
    let names := t.children.filter (·.field = some "name")
    some (.imported, joined? (names.map fun c => String.ofList (Text.squash (c.text source))))
  else if t.kind = "import_from_statement" then
    some (.imported, t.fieldText? source "module_name")
  else if t.kind = "future_import_statement" then some (.imported, some "__future__")
  else if t.kind = "function_definition" then named source t .function
  else if t.kind = "class_definition" then named source t .classLike
  else if t.kind = "expression_statement" then
    match t.namedChildren with
    | inner :: _ =>
      if inner.kind = "assignment" then some (.binding, inner.fieldText? source "left") else none
    | [] => none
  else none

/-- A decorated definition is what it defines. -/
def pythonDeclaration (source : Grammar.Source) (t : Tree) : Found :=
  if t.kind = "decorated_definition" then (t.child? "definition").bind (pythonItem source)
  else pythonItem source t

def rustDeclaration (source : Grammar.Source) (t : Tree) : Found :=
  if t.kind = "use_declaration" then
    some (if t.hasChild "visibility_modifier" then .exported else .imported,
      t.fieldText? source "argument")
  else if t.kind = "extern_crate_declaration" then named source t .imported
  else if t.kind = "function_item" then named source t .function
  else if ["struct_item", "enum_item", "union_item", "trait_item", "type_item"].contains t.kind then
    named source t .classLike
  else if t.kind = "impl_item" then
    (t.fieldText? source "type").map fun type =>
      (.classLike, some (match t.fieldText? source "trait" with
        | some trait => "impl " ++ trait ++ " for " ++ type
        | none => "impl " ++ type))
  else if ["const_item", "static_item"].contains t.kind then named source t .binding
  else none

def goPaths (source : Grammar.Source) : Nat → Tree → List String
  | 0, _ => []
  | depth + 1, t => t.namedChildren.flatMap fun c =>
    if c.kind = "import_spec" then ((c.fieldText? source "path").map unquote).toList
    else if c.kind = "import_spec_list" then goPaths source depth c
    else []

def goSpecName? (source : Grammar.Source) (kind : String) : Nat → Tree → Option String
  | 0, _ => none
  | depth + 1, t => t.namedChildren.findSome? fun c =>
    if c.kind = kind then c.fieldText? source "name"
    else if c.kind = kind ++ "_list" then goSpecName? source kind depth c
    else none

def goDeclaration (source : Grammar.Source) (t : Tree) : Found :=
  if t.kind = "import_declaration" then
    some (.imported, joined? (goPaths source Tree.outlineDepth t))
  else if t.kind = "function_declaration" then named source t .function
  else if t.kind = "method_declaration" then
    (t.fieldText? source "name").map fun name =>
      (.function, some ((t.fieldText? source "receiver").getD "" ++ "." ++ name))
  else if t.kind = "type_declaration" then
    some (.classLike, (t.nameOfChild? source "type_spec").or (t.nameOfChild? source "type_alias"))
  else if t.kind = "var_declaration" then
    some (.binding, goSpecName? source "var_spec" Tree.outlineDepth t)
  else if t.kind = "const_declaration" then
    some (.binding, goSpecName? source "const_spec" Tree.outlineDepth t)
  else none

end Source

namespace Language

def tree? (language : Language) (source : Grammar.Source) : Option Grammar.Tree :=
  let depth := Grammar.Tree.outlineDepth
  match language with
  | rust => Source.Rust.parse? depth source
  | javascript => Source.JavaScript.parse? depth source
  | typescript => Source.TypeScript.parse? .assertions depth source
  | tsx => Source.TypeScript.parse? .markup depth source
  | python => Source.Python.parse? depth source
  | go => Source.Go.parse? depth source

def declaration (language : Language) : Grammar.Source → Grammar.Tree → Source.Found :=
  match language with
  | rust => Source.rustDeclaration
  | javascript | typescript | tsx => Source.scriptDeclaration
  | python => Source.pythonDeclaration
  | go => Source.goDeclaration

end Language

def fingerprint (digest : String → String) (text : String) : String :=
  digest (Text.significantText text)

def lineAt (source : Grammar.Source) (offset : Nat) : Nat :=
  (source.toList.take offset).count '\n' + 1

namespace Outline

def ofTree (language : Language) (source : Grammar.Source) (root : Grammar.Tree) : Outline :=
  let stretches := root.children.flatMap (·.namedChildren)
  { language
    declarations := stretches.filterMap fun t =>
      (language.declaration source t).map fun (kind, name) =>
        { kind, name
          span := ⟨lineAt source t.start, lineAt source t.stop⟩
          fingerprint := fingerprint Digest.ofText (String.ofList (t.text source)) } }

/-- The outline of a file, if its name tells a language and its text is written in that. -/
def read? (path content : String) : Option Outline := do
  let language ← Language.ofPath? path
  let source := content.toList.toArray
  let root ← language.tree? source
  some (ofTree language source root)

end Outline

end Reconcile
