import Reconcile.Json.Value

/-!
Documents of settings: tables of keys, which lines fill one after another. A table is opened once
by a header, or once by dotted keys, and no key is given twice.
-/

namespace Reconcile.Toml

/-- How a table came to be. -/
inductive Origin where
  | header
  /-- It was named on the way to a header. -/
  | passed
  /-- It was named on the way to a dotted key. -/
  | dotted
  deriving DecidableEq

inductive Item where
  | value (value : Json)
  | table (origin : Origin) (entries : List (String × Item))
  /-- Tables under one header, the last one first. -/
  | tables (last : List (List (String × Item)))

abbrev Entries := List (String × Item)

namespace Entries

def find? (entries : Entries) (key : String) : Option Item := entries.lookup key

def put (entries : Entries) (key : String) (item : Item) : Entries :=
  entries.filter (·.1 ≠ key) ++ [(key, item)]

end Entries

/-- Changes the table that a path leads to from a table. A dotted path passes only through tables
without a header; what is missing on the way is made. -/
def descend (isDotted : Bool) (change : Origin → Entries → Option Entries) :
    List String → Origin → Entries → Option Entries
  | [], origin, entries => change origin entries
  | key :: path, _, entries =>
    match entries.find? key with
    | none => do
      let origin := if isDotted then Origin.dotted else .passed
      let inner ← descend isDotted change path origin []
      some (entries.put key (.table origin inner))
    | some (.value _) => none
    | some (.table origin inner) =>
      if isDotted && origin = .header then none
      else do
        let inner ← descend isDotted change path origin inner
        some (entries.put key (.table origin inner))
    | some (.tables []) => none
    | some (.tables (last :: earlier)) => do
      let last ← descend isDotted change path .header last
      some (entries.put key (.tables (last :: earlier)))

def assign (entries : Entries) (path : List String) (key : String) (value : Json) :
    Option Entries :=
  descend true (fun origin inner =>
    if decide (origin = .dotted) = path.isEmpty then none
    else if (inner.find? key).isSome then none
    else some (inner.put key (.value value))) path .header entries

def openTable (entries : Entries) (path : List String) (key : String) : Option Entries :=
  descend false (fun _ inner =>
    match inner.find? key with
    | none => some (inner.put key (.table .header []))
    | some (.table .passed held) => some (inner.put key (.table .header held))
    | some _ => none) path .header entries

def openNext (entries : Entries) (path : List String) (key : String) : Option Entries :=
  descend false (fun _ inner =>
    match inner.find? key with
    | none => some (inner.put key (.tables [[]]))
    | some (.tables held) => some (inner.put key (.tables ([] :: held)))
    | some _ => none) path .header entries

def assignUnder (entries : Entries) (header : List String) (path : List String) (key : String)
    (value : Json) : Option Entries :=
  descend false (fun _ inner => assign inner path key value) header .header entries

mutual

def Item.toJson : Item → Json
  | .value value => value
  | .table _ entries => .obj (fieldsOf entries)
  | .tables last => .arr (tablesOf last).reverse

def fieldsOf : List (String × Item) → List (String × Json)
  | [] => []
  | (key, item) :: rest => (key, item.toJson) :: fieldsOf rest

def tablesOf : List (List (String × Item)) → List Json
  | [] => []
  | entries :: rest => .obj (fieldsOf entries) :: tablesOf rest

end

end Reconcile.Toml
