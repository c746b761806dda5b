import Reconcile.Path.Basic

/-!
The languages whose files can be read declaration by declaration.
-/

namespace Reconcile

inductive Language where
  | rust
  | javascript
  | typescript
  | tsx
  | python
  | go
  deriving DecidableEq, Repr

namespace Language

def name : Language → String
  | rust => "rust"
  | javascript => "javascript"
  | typescript => "typescript"
  | tsx => "tsx"
  | python => "python"
  | go => "go"

def ofExtension? (extension : String) : Option Language :=
  if extension = "rs" then some rust
  else if ["js", "jsx", "mjs", "cjs"].contains extension then some javascript
  else if ["ts", "mts", "cts"].contains extension then some typescript
  else if extension = "tsx" then some tsx
  else if ["py", "pyi"].contains extension then some python
  else if extension = "go" then some go
  else none

def ofPath? (path : String) : Option Language := (Path.extension? path).bind ofExtension?

def lineComment : Language → String
  | python => "#"
  | _ => "//"

end Language

end Reconcile
