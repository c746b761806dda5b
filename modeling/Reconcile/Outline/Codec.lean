import Reconcile.Json.Codec
import Reconcile.Outline.Basic

/-!
Outlines and changes as values of the interchange format.
-/

namespace Reconcile

open Json (Record)

namespace DeclarationKind

def toJson (kind : DeclarationKind) : Json := .str kind.name

def ofJson? : Json → Option DeclarationKind := Json.toCase? ofName?

end DeclarationKind

namespace LineSpan

def toJson (span : LineSpan) : Json := .obj [("start", .nat span.first), ("end", .nat span.last)]

def ofJson? (value : Json) : Option LineSpan := do
  let r ← value.toRecord? 2
  some ⟨← r.required "start" 0 Json.toCount?, ← r.required "end" 1 Json.toCount?⟩

end LineSpan

def Declaration.toJson (d : Declaration) : Json := .obj [
  ("kind", d.kind.toJson), ("name", .ofOption .str d.name), ("span", d.span.toJson),
  ("fingerprint", .str d.fingerprint), ("key", .str d.key.name)]

def Outline.toJson (outline : Outline) : Json := .obj [
  ("language", .str outline.language.name),
  ("declarations", .list Declaration.toJson outline.declarations)]

namespace ChangedNode

def toJson (node : ChangedNode) : Json := .obj (
  [("type", node.kind.toJson)] ++ Json.optionalField "name" .str node.name ++
    Json.optionalField "span" LineSpan.toJson node.span)

def ofJson? (value : Json) : Option ChangedNode := do
  let r ← value.toRecord? 3
  some {
    kind := ← r.required "type" 0 DeclarationKind.ofJson?
    name := ← r.optional "name" 1 Json.toText?
    span := ← r.optional "span" 2 LineSpan.ofJson? }

end ChangedNode

namespace Changes

def toJson (changes : Changes) : Json := .obj [
  ("addedNodes", .list ChangedNode.toJson changes.added),
  ("removedNodes", .list ChangedNode.toJson changes.removed),
  ("modifiedNodes", .list ChangedNode.toJson changes.modified),
  ("hasImportChanges", .bool changes.touchesImports),
  ("hasExportChanges", .bool changes.touchesExports)]

def ofJson? (value : Json) : Option Changes := do
  let r ← value.toRecord? 5
  let nodes := Json.toList? ChangedNode.ofJson?
  some {
    added := ← r.required "addedNodes" 0 nodes
    removed := ← r.required "removedNodes" 1 nodes
    modified := ← r.required "modifiedNodes" 2 nodes
    touchesImports := ← r.required "hasImportChanges" 3 Json.toBool?
    touchesExports := ← r.required "hasExportChanges" 4 Json.toBool? }

end Changes

end Reconcile
