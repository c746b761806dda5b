import Reconcile.Grammar.Chart
import Reconcile.Grammar.Pattern

/-!
The grammar of Go source. Statements may stand at the top level, so that fragments can be read.
-/

namespace Reconcile.Source.Go

open Grammar Grammar.Rule

def terminator : Rule := choice ["\n", ";", tok "nul"]

def terminated (rule : Rule) : Rule :=
  opt (seq [rule, many (seq [terminator, rule]), opt terminator])

def identifier : Rule := tok "identifier"

def multiplicative : List String := ["*", "/", "%", "<<", ">>", "&", "&^"]

def additive : List String := ["+", "-", "|", "^"]

def comparative : List String := ["==", "!=", "<", "<=", ">", ">="]

def literals (texts : List String) : Rule := choice (texts.map Rule.lit)

def result : Rule := opt (choice [ref "parameter_list", ref "_simple_type"])

def rules : List (String × Rule) := [
  ("source", seq [ref "source_file", tok endName]),
  ("source_file", seq [
    many (choice [seq [ref "_top_level_declaration", terminator], seq [ref "_statement", terminator]]),
    opt (ref "_top_level_declaration")]),
  ("_top_level_declaration", choice [ref "package_clause", ref "function_declaration",
    ref "method_declaration", ref "import_declaration"]),
  ("package_clause", seq ["package", identifier]),
  ("import_declaration", seq ["import", choice [ref "import_spec", ref "import_spec_list"]]),
  ("import_spec", seq [opt (field "name" (choice [".", identifier])), field "path" (ref "_string")]),
  ("import_spec_list", seq ["(", terminated (ref "import_spec"), ")"]),
  ("_declaration", choice [ref "const_declaration", ref "type_declaration", ref "var_declaration"]),
  ("const_declaration", seq ["const", choice [ref "const_spec",
    seq ["(", many (seq [ref "const_spec", terminator]), ")"]]]),
  ("const_spec", seq [commaSep1 (field "name" identifier),
    optSeq [opt (field "type" (ref "_type")), "=", ref "expression_list"]]),
  ("var_declaration", seq ["var", choice [ref "var_spec", ref "var_spec_list"]]),
  ("var_spec", seq [commaSep1 (field "name" identifier), choice [
    seq [field "type" (ref "_type"), optSeq ["=", ref "expression_list"]],
    seq ["=", ref "expression_list"]]]),
  ("var_spec_list", seq ["(", many (seq [ref "var_spec", terminator]), ")"]),
  ("function_declaration", seq ["func", field "name" identifier, opt (ref "type_parameter_list"),
    field "parameters" (ref "parameter_list"), result, opt (ref "block")]),
  ("method_declaration", seq ["func", field "receiver" (ref "parameter_list"),
    field "name" identifier, field "parameters" (ref "parameter_list"), result, opt (ref "block")]),
  ("type_parameter_list", seq ["[", commaSep1 (ref "type_parameter_declaration"), opt ",", "]"]),
  ("type_parameter_declaration", seq [commaSep1 (field "name" identifier), ref "type_elem"]),
  ("parameter_list", seq ["(", optSeq [
    commaSep (choice [ref "parameter_declaration", ref "variadic_parameter_declaration"]), opt ","],
    ")"]),
  ("parameter_declaration", seq [commaSep identifier, ref "_type"]),
  ("variadic_parameter_declaration", seq [opt identifier, "...", ref "_type"]),
  ("type_alias", seq [field "name" identifier, opt (ref "type_parameter_list"), "=", ref "_type"]),
  ("type_declaration", seq ["type", choice [ref "type_spec", ref "type_alias",
    seq ["(", many (seq [choice [ref "type_spec", ref "type_alias"], terminator]), ")"]]]),
  ("type_spec", seq [field "name" identifier, opt (ref "type_parameter_list"), ref "_type"]),
  ("expression_list", commaSep1 (ref "_expression")),
  ("_type", choice [ref "_simple_type", seq ["(", ref "_type", ")"]]),
  ("_simple_type", choice [identifier, ref "generic_type", ref "qualified_type", seq ["*", ref "_type"],
    ref "struct_type", ref "interface_type", ref "array_type", ref "slice_type", ref "map_type",
    ref "channel_type", ref "function_type", ref "negated_type"]),
  ("generic_type", seq [choice [identifier, ref "qualified_type", ref "negated_type"],
    ref "type_arguments"]),
  ("type_arguments", seq ["[", commaSep1 (ref "type_elem"), opt ",", "]"]),
  ("array_type", seq ["[", ref "_expression", "]", ref "_type"]),
  ("implicit_length_array_type", seq ["[", "...", "]", ref "_type"]),
  ("slice_type", seq ["[", "]", ref "_type"]),
  ("struct_type", seq ["struct", "\x7b", terminated (ref "field_declaration"), "\x7d"]),
  ("negated_type", seq ["~", ref "_type"]),
  ("field_declaration", seq [choice [
    seq [commaSep1 identifier, ref "_type"],
    seq [opt "*", choice [identifier, ref "qualified_type", ref "generic_type"]]],
    opt (ref "_string")]),
  ("interface_type", seq ["interface", "\x7b", terminated (choice [ref "method_elem", ref "type_elem"]),
    "\x7d"]),
  ("method_elem", seq [identifier, ref "parameter_list", result]),
  ("type_elem", sep1 "|" (ref "_type")),
  ("map_type", seq ["map", "[", ref "_type", "]", ref "_type"]),
  ("channel_type", choice [seq ["chan", ref "_type"], seq ["chan", "<-", ref "_type"],
    seq ["<-", "chan", ref "_type"]]),
  ("function_type", seq ["func", ref "parameter_list", result]),
  ("block", seq ["\x7b", opt (ref "_statement_list"), "\x7d"]),
  ("_statement_list", choice [
    seq [ref "_statement", many (seq [terminator, ref "_statement"]),
      optSeq [terminator, opt (ref "empty_labeled_statement")]],
    ref "empty_labeled_statement"]),
  ("_statement", choice [ref "_declaration", ref "_simple_statement", ref "return_statement",
    ref "go_statement", ref "defer_statement", ref "if_statement", ref "for_statement",
    ref "expression_switch_statement", ref "type_switch_statement", ref "select_statement",
    ref "labeled_statement", "fallthrough", ref "break_statement", ref "continue_statement",
    ref "goto_statement", ref "block", ref "empty_statement"]),
  ("empty_statement", ";"),
  ("_simple_statement", choice [ref "expression_statement", ref "send_statement",
    ref "inc_statement", ref "assignment_statement", ref "short_var_declaration"]),
  ("expression_statement", ref "_expression"),
  ("send_statement", seq [ref "_expression", "<-", ref "_expression"]),
  ("receive_statement", seq [optSeq [ref "expression_list", choice ["=", ":="]], ref "_expression"]),
  ("inc_statement", seq [ref "_expression", choice ["++", "--"]]),
  ("assignment_statement", seq [ref "expression_list",
    literals ("=" :: (multiplicative ++ additive).map (· ++ "=")), ref "expression_list"]),
  ("short_var_declaration", seq [ref "expression_list", ":=", ref "expression_list"]),
  ("labeled_statement", seq [identifier, ":", ref "_statement"]),
  ("empty_labeled_statement", seq [identifier, ":"]),
  ("break_statement", seq ["break", opt identifier]),
  ("continue_statement", seq ["continue", opt identifier]),
  ("goto_statement", seq ["goto", identifier]),
  ("return_statement", seq ["return", opt (ref "expression_list")]),
  ("go_statement", seq ["go", ref "_expression"]),
  ("defer_statement", seq ["defer", ref "_expression"]),
  ("if_statement", seq ["if", optSeq [ref "_simple_statement", ";"], ref "_expression", ref "block",
    optSeq ["else", choice [ref "block", ref "if_statement"]]]),
  ("for_statement", seq ["for", opt (choice [ref "_expression", ref "for_clause", ref "range_clause"]),
    ref "block"]),
  ("for_clause", seq [opt (ref "_simple_statement"), ";", opt (ref "_expression"), ";",
    opt (ref "_simple_statement")]),
  ("range_clause", seq [optSeq [ref "expression_list", choice ["=", ":="]], "range",
    ref "_expression"]),
  ("expression_switch_statement", seq ["switch", optSeq [ref "_simple_statement", ";"],
    opt (ref "_expression"), "\x7b", many (choice [ref "expression_case", ref "default_case"]), "\x7d"]),
  ("expression_case", seq ["case", ref "expression_list", ":", opt (ref "_statement_list")]),
  ("default_case", seq ["default", ":", opt (ref "_statement_list")]),
  ("type_switch_statement", seq ["switch", optSeq [ref "_simple_statement", ";"],
    optSeq [ref "expression_list", ":="], ref "_expression", ".", "(", "type", ")", "\x7b",
    many (choice [ref "type_case", ref "default_case"]), "\x7d"]),
  ("type_case", seq ["case", commaSep1 (ref "_type"), ":", opt (ref "_statement_list")]),
  ("select_statement", seq ["select", "\x7b", many (choice [ref "communication_case", ref "default_case"]),
    "\x7d"]),
  ("communication_case", seq ["case", choice [ref "send_statement", ref "receive_statement"], ":",
    opt (ref "_statement_list")]),
  ("_expression", choice [ref "unary_expression", ref "binary_expression", ref "selector_expression",
    ref "index_expression", ref "slice_expression", ref "call_expression",
    ref "type_assertion_expression", ref "type_conversion_expression",
    ref "type_instantiation_expression", identifier, "new", "make", ref "composite_literal",
    ref "func_literal", ref "_string", tok "int_literal", tok "float_literal",
    tok "imaginary_literal", tok "rune_literal", "nil", "true", "false", "iota",
    seq ["(", ref "_expression", ")"]]),
  ("call_expression", choice [
    seq [choice ["new", "make"], "(", optSeq [ref "_type", many (seq [",", ref "_expression"]), opt ","],
      ")"],
    seq [ref "_expression", opt (ref "type_arguments"), ref "argument_list"]]),
  ("_argument", seq [ref "_expression", opt "..."]),
  ("argument_list", seq ["(", optSeq [commaSep1 (ref "_argument"), opt ","], ")"]),
  ("selector_expression", seq [ref "_expression", ".", identifier]),
  ("index_expression", seq [ref "_expression", "[", ref "_expression", "]"]),
  ("slice_expression", seq [ref "_expression", "[", choice [
    seq [opt (ref "_expression"), ":", opt (ref "_expression")],
    seq [opt (ref "_expression"), ":", ref "_expression", ":", ref "_expression"]], "]"]),
  ("type_assertion_expression", seq [ref "_expression", ".", "(", ref "_type", ")"]),
  ("type_conversion_expression", seq [ref "_type", "(", ref "_expression", opt ",", ")"]),
  ("type_instantiation_expression", seq [ref "_type", "[", commaSep1 (ref "_type"), opt ",", "]"]),
  ("composite_literal", seq [choice [ref "map_type", ref "slice_type", ref "array_type",
    ref "implicit_length_array_type", ref "struct_type", identifier, ref "generic_type",
    ref "qualified_type"], ref "literal_value"]),
  ("literal_value", seq ["\x7b", optSeq [commaSep (choice [ref "_literal_element", ref "keyed_element"]),
    opt ","], "\x7d"]),
  ("_literal_element", choice [ref "_expression", ref "literal_value"]),
  ("keyed_element", seq [ref "_literal_element", ":", ref "_literal_element"]),
  ("func_literal", seq ["func", ref "parameter_list", result, ref "block"]),
  ("unary_expression", seq [literals ["+", "-", "!", "^", "*", "&", "<-"], ref "_expression"]),
  ("binary_expression", seq [ref "_expression",
    literals (multiplicative ++ additive ++ comparative ++ ["&&", "||"]), ref "_expression"]),
  ("qualified_type", seq [identifier, ".", identifier]),
  ("_string", choice [tok "raw_string_literal", tok "interpreted_string_literal"])]

def grammar : Grammar := .ofRules rules

namespace Literal

open Pattern

def decimalDigits : Pattern := grouped digit

def hexDigits : Pattern := grouped hexDigit

def octalDigits : Pattern := grouped octalDigit

def exponent : Pattern := seq [oneOf "eE", opt (oneOf "+-"), decimalDigits]

def int : Pattern := alt [
  seq ['0', oneOf "bB", opt '_', grouped (oneOf "01")],
  '0', seq [oneOf "123456789", opt (seq [opt '_', decimalDigits])],
  seq ['0', opt (oneOf "oO"), opt '_', octalDigits],
  seq ['0', oneOf "xX", opt '_', hexDigits]]

def hexMantissa : Pattern := alt [
  seq [opt '_', hexDigits, '.', opt hexDigits], seq [opt '_', hexDigits], seq ['.', hexDigits]]

def float : Pattern := alt [
  seq [decimalDigits, '.', opt decimalDigits, opt exponent],
  seq [decimalDigits, exponent],
  seq ['.', decimalDigits, opt exponent],
  seq ['0', oneOf "xX", hexMantissa, oneOf "pP", opt (oneOf "+-"), decimalDigits]]

def imaginary : Pattern := seq [alt [decimalDigits, int, float], 'i']

def rune : Pattern := seq ['\'', alt [
  noneOf "'\\",
  seq ['\\', alt [seq ['x', times 2 hexDigit], times 3 octalDigit, seq ['u', times 4 hexDigit],
    seq ['U', times 8 hexDigit], oneOf "abfnrtv\\'\""]]], '\'']

def rawString : Pattern := seq ['`', star (noneOf "`"), '`']

def stringEscape : Pattern := seq ['\\', alt [noneOf "xuU", between 2 3 digit,
  seq ['x', times 2 hexDigit, star hexDigit], seq ['u', times 4 hexDigit],
  seq ['U', times 8 hexDigit]]]

def interpretedString : Pattern := seq ['"', star (alt [noneOf "\"\n\\", stringEscape]), '"']

end Literal

/-- The end of the text ends a statement. -/
def layout (expected : String → Bool) (text : Grammar.Source) (i : Nat) (_ : Unit) : Layout Unit :=
  let j := span text (fun c => isPlainSpace c && c ≠ '\n') i
  ⟨if text.size ≤ j && expected "nul" then [⟨"nul", j, j, ()⟩] else [], true⟩

def lexicon : Lexicon Unit where
  initial := ()
  layout := layout
  isSpace := isPlainSpace
  comment? _ text i := (lineComment? text i).or (blockComment? text i)
  word := ⟨"identifier", identifierEnd? (fun c => Text.isLetter c || c = '_')
    (fun c => Text.isLetter c || Text.isDecimalDigit c || c = '_')⟩
  classes := [
    patternClass "int_literal" Literal.int,
    patternClass "float_literal" Literal.float,
    patternClass "imaginary_literal" Literal.imaginary,
    patternClass "rune_literal" Literal.rune,
    patternClass "raw_string_literal" Literal.rawString,
    patternClass "interpreted_string_literal" Literal.interpretedString]

def parse? (depth : Nat) (text : Grammar.Source) : Option Tree := Grammar.parse? grammar lexicon depth text

end Reconcile.Source.Go
