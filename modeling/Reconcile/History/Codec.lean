import Reconcile.History.Repository
import Reconcile.Json.Codec
import Reconcile.Json.Reader

/-!
Files and histories as values of the interchange format. Bytes that are not the form of a text are
written in hexadecimal.
-/

namespace Reconcile

def bytesOfHex? : List Char → Option (List UInt8)
  | [] => some []
  | a :: b :: rest => do
    let byte := 16 * (← Json.hexValue? a) + (← Json.hexValue? b)
    some (byte.toUInt8 :: (← bytesOfHex? rest))
  | _ => none

def hexOfBytes (bytes : List UInt8) : String :=
  String.ofList (bytes.flatMap fun b => [Nat.digitChar (b.toNat / 16), Nat.digitChar (b.toNat % 16)])

namespace Contents

def toJson : Contents → Json
  | text s => .str s
  | raw bytes => .obj [("hex", .str (hexOfBytes bytes))]

def ofHex? (value : Json) : Option Contents := do
  some (ofBytes (← bytesOfHex? (← value.toText?).toList))

def ofJson? : Json → Option Contents
  | .str s => some (.text s)
  | value => (value.field? "hex").bind ofHex?

end Contents

def FileTree.ofJson? (value : Json) : Option FileTree := value.toEntries? Contents.ofJson?

def Commit.ofJson? (value : Json) : Option Commit := do
  let r ← value.toRecord? 2
  some {
    files := ← r.required "files" 0 FileTree.ofJson?
    parent := ← r.optional "parent" 1 Json.toCount? }

def History.ofJson? (value : Json) : Option History := do
  let r ← value.toRecord? 2
  some {
    commits := ← r.required "commits" 0 (Json.toList? Commit.ofJson?)
    branches := ← r.required "branches" 1 (Json.toEntries? Json.toCount?) }

end Reconcile
