import Reconcile.Source.JavaScript

/-!
The grammar of TypeScript source as changes to that of JavaScript: annotations, declarations of
types, and either type assertions or elements of markup.
-/

namespace Reconcile.Source.TypeScript

open Grammar Grammar.Rule
open JavaScript (identifier expression statement literals semicolon autoEnd holes decorators
  primaryOptions operatorOptions assignableOptions assignmentOperators)

/-- What an angle bracket begins where an expression may stand. -/
inductive Dialect where
  | assertions
  | markup
  deriving DecidableEq

def type : Rule := ref "_type"

def typeParameters : Rule := opt (ref "type_parameters")

def typeArguments : Rule := opt (ref "type_arguments")

def annotation : Rule := opt (ref "type_annotation")

def accessibility : Rule := opt (ref "accessibility_modifier")

def kindPrefix : Rule := opt (choice ["get", "set", "*"])

def modifiers : Rule := seq [accessibility, opt "static", opt "override", opt "readonly", opt "async",
  kindPrefix]

def statementRules : List (String × Rule) := [
  ("export_statement", choice [
    seq ["export", choice [seq ["*", ref "_from_clause"],
      seq [ref "namespace_export", ref "_from_clause"], seq [ref "export_clause", ref "_from_clause"],
      ref "export_clause"], semicolon],
    seq [decorators, "export", choice [field "declaration" (ref "_declaration"),
      seq ["default", choice [field "declaration" (ref "_declaration"),
        seq [field "value" expression, semicolon]]]]],
    seq ["export", "type", ref "export_clause", opt (ref "_from_clause"), semicolon],
    seq ["export", "=", expression, semicolon],
    seq ["export", "as", "namespace", identifier, semicolon]]),
  ("export_specifier", seq [opt (choice ["type", "typeof"]), ref "_module_export_name",
    optSeq ["as", ref "_module_export_name"]]),
  ("_import_identifier", choice [identifier, "type"]),
  ("import_specifier", seq [opt (choice ["type", "typeof"]), choice [ref "_import_identifier",
    seq [choice [ref "_module_export_name", "default"], "as", ref "_import_identifier"]]]),
  ("import_clause", choice [ref "namespace_import", ref "named_imports",
    seq [ref "_import_identifier",
      optSeq [",", choice [ref "namespace_import", ref "named_imports"]]]]),
  ("import_statement", seq ["import", opt (choice ["type", "typeof"]), choice [
    seq [ref "import_clause", ref "_from_clause"],
    seq [identifier, "=", "require", "(", field "source" (tok "string"), ")"],
    field "source" (tok "string")], opt (ref "import_attribute"), semicolon]),
  ("_declaration", choice [ref "function_declaration", ref "generator_function_declaration",
    ref "class_declaration", ref "lexical_declaration", ref "variable_declaration",
    ref "function_signature", ref "abstract_class_declaration", ref "module", ref "internal_module",
    ref "type_alias_declaration", ref "enum_declaration", ref "interface_declaration",
    ref "import_alias", ref "ambient_declaration"]),
  ("variable_declarator", choice [
    seq [field "name" (choice [identifier, ref "_destructuring_pattern"]), annotation,
      opt (ref "_initializer")],
    seq [field "name" identifier, "!", ref "type_annotation"]]),
  ("catch_clause", seq ["catch", optSeq ["(", ref "_for_target", annotation, ")"],
    ref "statement_block"]),
  ("function_signature", seq [opt "async", "function", field "name" identifier, ref "_call_signature",
    choice [semicolon, tok "function_signature_automatic_semicolon"]]),
  ("_call_signature", seq [typeParameters, ref "formal_parameters", opt (choice [
    ref "type_annotation", seq [":", ref "_asserts"], seq [":", ref "type_predicate"]])]),
  ("_formal_parameter", seq [decorators, accessibility, opt "override", opt "readonly",
    choice [ref "_pattern", "this"], opt "?", annotation, opt (ref "_initializer")]),
  ("class", seq [decorators, "class", opt identifier, typeParameters, opt (ref "class_heritage"),
    ref "class_body"]),
  ("class_declaration", seq [decorators, "class", field "name" identifier, typeParameters,
    opt (ref "class_heritage"), ref "class_body", autoEnd]),
  ("abstract_class_declaration", seq [decorators, "abstract", "class", field "name" identifier,
    typeParameters, opt (ref "class_heritage"), ref "class_body"]),
  ("class_heritage", choice [seq [ref "extends_clause", opt (ref "implements_clause")],
    ref "implements_clause"]),
  ("extends_clause", seq ["extends", commaSep1 (seq [expression, typeArguments])]),
  ("implements_clause", seq ["implements", commaSep1 type]),
  ("class_body", seq ["\x7b", many (choice [
    seq [decorators, ref "method_definition", opt semicolon],
    seq [ref "method_signature", choice [tok "function_signature_automatic_semicolon", ","]],
    ref "class_static_block",
    seq [choice [ref "abstract_method_signature", ref "index_signature", ref "method_signature",
      ref "public_field_definition"], choice [semicolon, ","]],
    ";"]), "\x7d"]),
  ("public_field_definition", seq [decorators,
    opt (choice [seq ["declare", accessibility], seq [ref "accessibility_modifier", opt "declare"]]),
    choice [seq [opt "static", opt "override", opt "readonly"], seq [opt "abstract", opt "readonly"],
      seq [opt "readonly", opt "abstract"], "accessor"],
    ref "_property_name", opt (choice ["?", "!"]), annotation, opt (ref "_initializer")]),
  ("method_definition", seq [modifiers, ref "_property_name", opt "?", ref "_call_signature",
    ref "statement_block"]),
  ("method_signature", seq [modifiers, ref "_property_name", opt "?", ref "_call_signature"]),
  ("abstract_method_signature", seq [accessibility, "abstract", opt "override", kindPrefix,
    ref "_property_name", opt "?", ref "_call_signature"]),
  ("accessibility_modifier", choice ["public", "private", "protected"]),
  ("ambient_declaration", seq ["declare", choice [ref "_declaration",
    seq ["global", ref "statement_block"],
    seq ["module", ".", identifier, ":", type, semicolon]]]),
  ("module", seq ["module", ref "_module"]),
  ("internal_module", seq ["namespace", ref "_module"]),
  ("_module", seq [field "name" (choice [tok "string", identifier, ref "nested_identifier"]),
    opt (ref "statement_block")]),
  ("import_alias", seq ["import", identifier, "=", choice [identifier, ref "nested_identifier"],
    semicolon]),
  ("interface_declaration", seq ["interface", field "name" identifier, typeParameters,
    opt (ref "extends_type_clause"), ref "object_type"]),
  ("extends_type_clause", seq ["extends", commaSep1 (choice [identifier,
    ref "nested_type_identifier", ref "generic_type"])]),
  ("enum_declaration", seq [opt "const", "enum", field "name" identifier, "\x7b",
    optSeq [commaSep1 (seq [ref "_property_name", opt (ref "_initializer")]), opt ","], "\x7d"]),
  ("type_alias_declaration", seq ["type", field "name" identifier, typeParameters, "=", type,
    semicolon])]

def expressionRules (dialect : Dialect) : List (String × Rule) := [
  ("_expression", choice ([ref "as_expression", ref "satisfies_expression",
    ref "instantiation_expression", ref "internal_module",
    match dialect with
    | .assertions => ref "type_assertion"
    | .markup => ref "_jsx_element",
    ref "_primary_expression"] ++ operatorOptions)),
  ("_primary_expression", choice (primaryOptions ++ [ref "non_null_expression"])),
  ("_lhs_expression", choice (assignableOptions ++ [ref "non_null_expression"])),
  ("non_null_expression", seq [expression, "!"]),
  ("type_assertion", seq [ref "type_arguments", expression]),
  ("as_expression", seq [expression, "as", choice ["const", type]]),
  ("satisfies_expression", seq [expression, "satisfies", type]),
  ("instantiation_expression", seq [expression, ref "type_arguments"]),
  ("call_expression", choice [
    seq [choice [expression, "import"], typeArguments, ref "arguments"],
    seq [choice [ref "_primary_expression", ref "new_expression"], typeArguments,
      ref "template_string"],
    seq [ref "_primary_expression", "?.", typeArguments, ref "arguments"]]),
  ("new_expression", seq ["new", ref "_primary_expression", typeArguments, opt (ref "arguments")]),
  ("assignment_expression", seq [opt "using", choice [ref "parenthesized_expression",
    ref "_lhs_expression"], "=", expression]),
  ("parenthesized_expression", seq ["(", choice [seq [expression, annotation], ref "_expressions"],
    ")"]),
  ("_jsx_tag", seq [ref "_jsx_element_name", typeArguments]),
  ("_reserved_identifier", literals ["declare", "namespace", "type", "public", "private", "protected",
    "override", "readonly", "module", "any", "number", "boolean", "string", "symbol", "export",
    "object", "new", "get", "set", "async", "static", "let"])]

def typeRules : List (String × Rule) := [
  ("type_annotation", seq [":", choice [type, ref "_imported_member", ref "_imported_call"]]),
  ("_imported_member", seq [choice ["import", ref "_imported_member", ref "_imported_call"], ".",
    choice [tok "private_property_identifier", identifier]]),
  ("_imported_call", seq [choice ["import", ref "_imported_member"], ref "arguments"]),
  ("_asserts", seq ["asserts", choice [ref "type_predicate", identifier, "this"]]),
  ("type_predicate", seq [choice [identifier, "this", ref "predefined_type"], "is", type]),
  ("_type", choice [ref "_primary_type", ref "function_type", ref "readonly_type",
    ref "constructor_type", ref "infer_type"]),
  ("_tuple_member", choice [
    seq [choice [identifier, ref "rest_pattern"], opt "?", ref "type_annotation"],
    seq [type, "?"], seq ["...", type], type]),
  ("constructor_type", seq [opt "abstract", "new", typeParameters, ref "formal_parameters", "=>",
    type]),
  ("_primary_type", choice [seq ["(", type, ")"], ref "predefined_type", identifier,
    ref "nested_type_identifier", ref "generic_type", ref "object_type", ref "array_type",
    ref "tuple_type", seq ["?", ref "_primary_type"], ref "type_query",
    seq ["keyof", ref "_primary_type"], "this", "*", ref "literal_type", ref "lookup_type",
    ref "conditional_type", ref "template_literal_type", ref "intersection_type", ref "union_type",
    "const"]),
  ("template_literal_type", seq ["\x60", many (choice [tok "template_chars",
    seq ["$\x7b", choice [ref "_primary_type", ref "infer_type"], "\x7d"]]), "\x60"]),
  ("infer_type", seq ["infer", identifier, optSeq ["extends", type]]),
  ("conditional_type", seq [type, "extends", type, "?", type, ":", type]),
  ("nested_type_identifier", seq [choice [identifier, ref "nested_identifier"], ".", identifier]),
  ("generic_type", seq [choice [identifier, ref "nested_type_identifier"], ref "type_arguments"]),
  ("type_query", seq ["typeof", ref "_query"]),
  ("_query", choice [identifier, "this", seq [ref "_query", choice [".", "?."],
      choice [tok "private_property_identifier", identifier]],
    seq [ref "_query", opt "?.", "[", choice [ref "predefined_type", tok "string", tok "number"], "]"],
    seq [choice ["import", ref "_query"], ref "arguments"], seq [ref "_query", ref "type_arguments"]]),
  ("lookup_type", seq [ref "_primary_type", "[", type, "]"]),
  ("literal_type", choice [seq [choice ["-", "+"], tok "number"], tok "number", tok "string", "true",
    "false", "null", "undefined"]),
  ("predefined_type", choice ["any", "number", "boolean", "string", "symbol",
    seq ["unique", "symbol"], "void", "unknown", "never", "object"]),
  ("type_arguments", seq ["<", commaSep1 type, opt ",", ">"]),
  ("object_type", seq [choice ["\x7b", "\x7b|"], optSeq [opt (choice [",", ";"]),
    sep1 (choice [",", semicolon]) (choice [ref "export_statement", ref "property_signature",
      ref "_call_signature", ref "construct_signature", ref "index_signature",
      ref "method_signature"]), opt (choice [",", semicolon])], choice ["\x7d", "|\x7d"]]),
  ("property_signature", seq [accessibility, opt "static", opt "override", opt "readonly",
    ref "_property_name", opt "?", annotation]),
  ("type_parameters", seq ["<", commaSep1 (ref "type_parameter"), opt ",", ">"]),
  ("type_parameter", seq [opt "const", identifier, optSeq [choice ["extends", ":"], type],
    optSeq ["=", type]]),
  ("construct_signature", seq [opt "abstract", "new", typeParameters, ref "formal_parameters",
    annotation]),
  ("index_signature", seq [optSeq [opt (choice ["-", "+"]), "readonly"], "[", choice [
    seq [choice [identifier, ref "_reserved_identifier"], ":", type],
    seq [identifier, "in", type, optSeq ["as", type]]], "]",
    choice [ref "type_annotation", seq [choice ["-?:", "+?:", "?:"], type]]]),
  ("array_type", seq [ref "_primary_type", "[", "]"]),
  ("tuple_type", seq ["[", commaSep (ref "_tuple_member"), opt ",", "]"]),
  ("readonly_type", seq ["readonly", type]),
  ("union_type", seq [opt type, "|", type]),
  ("intersection_type", seq [opt type, "&", type]),
  ("function_type", seq [typeParameters, ref "formal_parameters", "=>",
    choice [type, ref "_asserts", ref "type_predicate"]])]

/-- The rules of a list with those of another put in the place of their namesakes or at the end. -/
def amend (rules changes : List (String × Rule)) : List (String × Rule) :=
  let names := rules.map (·.1)
  rules.map (fun (name, rule) => (name, (changes.lookup name).getD rule)) ++
    changes.filter fun change => !names.contains change.1

def rules (dialect : Dialect) : List (String × Rule) :=
  amend JavaScript.rules (statementRules ++ expressionRules dialect ++ typeRules)

def assertionGrammar : Grammar := .ofRules (rules .assertions)

def markupGrammar : Grammar := .ofRules (rules .markup)

def Dialect.grammar : Dialect → Grammar
  | assertions => assertionGrammar
  | markup => markupGrammar

def parse? (dialect : Dialect) (depth : Nat) (text : Grammar.Source) : Option Tree :=
  Grammar.parse? dialect.grammar (JavaScript.lexicon true) depth text

end Reconcile.Source.TypeScript
