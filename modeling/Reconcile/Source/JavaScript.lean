import Reconcile.Grammar.Chart
import Reconcile.Grammar.Pattern

/-!
The grammar of JavaScript source, with elements of markup as expressions. A statement may end
without a semicolon where a line ends and the next cannot continue it; that end is a token of
layout, as are the characters of templates and of markup.
-/

namespace Reconcile.Source.JavaScript

open Grammar Grammar.Rule

def identifier : Rule := tok "identifier"

def expression : Rule := ref "_expression"

def statement : Rule := ref "_statement"

def literals (texts : List String) : Rule := choice (texts.map Rule.lit)

def semicolon : Rule := choice [tok "automatic_semicolon", ";"]

def autoEnd : Rule := opt (tok "automatic_semicolon")

def holes (rule : Rule) : Rule := seq [opt rule, many (seq [",", opt rule])]

def decorators : Rule := many (ref "decorator")

def statementRules : List (String × Rule) := [
  ("source", seq [ref "program", tok endName]),
  ("program", seq [opt (tok "hash_bang_line"), many statement]),
  ("export_statement", choice [
    seq ["export", choice [seq ["*", ref "_from_clause"],
      seq [ref "namespace_export", ref "_from_clause"], seq [ref "export_clause", ref "_from_clause"],
      ref "export_clause"], semicolon],
    seq [decorators, "export", choice [field "declaration" (ref "_declaration"),
      seq ["default", choice [field "declaration" (ref "_declaration"),
        seq [field "value" expression, semicolon]]]]]]),
  ("namespace_export", seq ["*", "as", ref "_module_export_name"]),
  ("export_clause", seq ["\x7b", commaSep (ref "export_specifier"), opt ",", "\x7d"]),
  ("export_specifier", seq [ref "_module_export_name", optSeq ["as", ref "_module_export_name"]]),
  ("_module_export_name", choice [identifier, tok "string", "default"]),
  ("_declaration", choice [ref "function_declaration", ref "generator_function_declaration",
    ref "class_declaration", ref "lexical_declaration", ref "variable_declaration"]),
  ("import_statement", seq ["import", choice [seq [ref "import_clause", ref "_from_clause"],
    field "source" (tok "string")], opt (ref "import_attribute"), semicolon]),
  ("import_clause", choice [ref "namespace_import", ref "named_imports",
    seq [identifier, optSeq [",", choice [ref "namespace_import", ref "named_imports"]]]]),
  ("_from_clause", seq ["from", field "source" (tok "string")]),
  ("namespace_import", seq ["*", "as", identifier]),
  ("named_imports", seq ["\x7b", commaSep (ref "import_specifier"), opt ",", "\x7d"]),
  ("import_specifier", choice [identifier,
    seq [choice [ref "_module_export_name", "default"], "as", identifier]]),
  ("import_attribute", seq ["with", ref "object"]),
  ("_statement", choice [ref "export_statement", ref "import_statement", ref "_declaration",
    seq ["debugger", semicolon], ref "expression_statement", ref "statement_block",
    ref "if_statement", ref "switch_statement", ref "for_statement", ref "for_in_statement",
    ref "while_statement", ref "do_statement", ref "try_statement", ref "with_statement",
    ref "break_statement", ref "continue_statement", ref "return_statement", ref "throw_statement",
    ref "empty_statement", ref "labeled_statement"]),
  ("expression_statement", seq [ref "_expressions", semicolon]),
  ("variable_declaration", seq ["var", commaSep1 (ref "variable_declarator"), semicolon]),
  ("lexical_declaration", seq [choice ["let", "const"], commaSep1 (ref "variable_declarator"),
    semicolon]),
  ("variable_declarator", seq [field "name" (choice [identifier, ref "_destructuring_pattern"]),
    opt (ref "_initializer")]),
  ("statement_block", seq ["\x7b", many statement, "\x7d", autoEnd]),
  ("if_statement", seq ["if", ref "parenthesized_expression", statement,
    optSeq ["else", statement]]),
  ("switch_statement", seq ["switch", ref "parenthesized_expression", ref "switch_body"]),
  ("for_statement", seq ["for", "(", choice [ref "lexical_declaration", ref "variable_declaration",
    seq [ref "_expressions", ";"], ref "empty_statement"],
    choice [seq [ref "_expressions", ";"], ref "empty_statement"], opt (ref "_expressions"), ")",
    statement]),
  ("for_in_statement", seq ["for", opt "await", ref "_for_header", statement]),
  ("_for_target", choice [identifier, ref "_destructuring_pattern"]),
  ("_for_header", seq ["(", choice [ref "_lhs_expression", ref "parenthesized_expression",
    seq ["var", ref "_for_target", opt (ref "_initializer")],
    seq [choice ["let", "const"], ref "_for_target", autoEnd]], choice ["in", "of"],
    ref "_expressions", ")"]),
  ("while_statement", seq ["while", ref "parenthesized_expression", statement]),
  ("do_statement", seq ["do", statement, "while", ref "parenthesized_expression", opt semicolon]),
  ("try_statement", seq ["try", ref "statement_block", opt (ref "catch_clause"),
    optSeq ["finally", ref "statement_block"]]),
  ("with_statement", seq ["with", ref "parenthesized_expression", statement]),
  ("break_statement", seq ["break", opt identifier, semicolon]),
  ("continue_statement", seq ["continue", opt identifier, semicolon]),
  ("return_statement", seq ["return", opt (ref "_expressions"), semicolon]),
  ("throw_statement", seq ["throw", ref "_expressions", semicolon]),
  ("empty_statement", ";"),
  ("labeled_statement", seq [choice [identifier, ref "_reserved_identifier"], ":", statement]),
  ("switch_body", seq ["\x7b", many (choice [
    seq ["case", ref "_expressions", ":", many statement],
    seq ["default", ":", many statement]]), "\x7d"]),
  ("catch_clause", seq ["catch", optSeq ["(", ref "_for_target", ")"], ref "statement_block"])]

def declarationRules : List (String × Rule) := [
  ("class", seq [decorators, "class", opt identifier, opt (ref "class_heritage"),
    ref "class_body"]),
  ("class_declaration", seq [decorators, "class", field "name" identifier,
    opt (ref "class_heritage"), ref "class_body", autoEnd]),
  ("class_heritage", seq ["extends", expression]),
  ("function_expression", seq [opt "async", "function", opt identifier, ref "_call_signature",
    ref "statement_block"]),
  ("function_declaration", seq [opt "async", "function", field "name" identifier,
    ref "_call_signature", ref "statement_block", autoEnd]),
  ("generator_function", seq [opt "async", "function", "*", opt identifier, ref "_call_signature",
    ref "statement_block"]),
  ("generator_function_declaration", seq [opt "async", "function", "*", field "name" identifier,
    ref "_call_signature", ref "statement_block", autoEnd]),
  ("arrow_function", seq [opt "async", choice [identifier, ref "_reserved_identifier",
    ref "_call_signature"], "=>", choice [expression, ref "statement_block"]]),
  ("_call_signature", ref "formal_parameters"),
  ("formal_parameters", seq ["(", optSeq [commaSep1 (ref "_formal_parameter"), opt ","], ")"]),
  ("_formal_parameter", choice [ref "_pattern", ref "assignment_pattern"]),
  ("decorator", seq ["@", choice [ref "_decorator_name", ref "decorator_call_expression",
    ref "parenthesized_expression"]]),
  ("_decorator_name", choice [identifier, seq [ref "_decorator_name", ".", identifier]]),
  ("decorator_call_expression", seq [ref "_decorator_name", ref "arguments"]),
  ("class_body", seq ["\x7b", many (choice [seq [ref "method_definition", opt ";"],
    seq [ref "field_definition", semicolon], ref "class_static_block", ";"]), "\x7d"]),
  ("field_definition", seq [decorators, opt "static", ref "_property_name",
    opt (ref "_initializer")]),
  ("class_static_block", seq ["static", ref "statement_block"]),
  ("method_definition", seq [decorators, opt "static", opt "async", opt (choice ["get", "set", "*"]),
    ref "_property_name", ref "formal_parameters", ref "statement_block"])]

def assignmentOperators : List String := ["+=", "-=", "*=", "/=", "%=", "^=", "&=", "|=", ">>=",
  ">>>=", "<<=", "**=", "&&=", "||=", "??="]

def binaryOperators : List String := ["&&", "||", ">>", ">>>", "<<", "&", "^", "|", "+", "-", "*",
  "/", "%", "**", "<", "<=", "==", "===", "!=", "!==", ">=", ">", "??", "instanceof", "in"]

def primaryOptions : List Rule := [ref "subscript_expression", ref "member_expression",
  ref "parenthesized_expression", ref "_identifier", ref "_reserved_identifier", "this", "super",
  tok "number", tok "string", ref "template_string", tok "regex", "true", "false", "null",
  ref "object", ref "array", ref "function_expression", ref "arrow_function",
  ref "generator_function", ref "class", ref "meta_property", ref "call_expression"]

def operatorOptions : List Rule := [ref "assignment_expression",
  ref "augmented_assignment_expression", seq ["await", expression], ref "unary_expression",
  ref "binary_expression", ref "ternary_expression", ref "update_expression", ref "new_expression",
  ref "yield_expression"]

def assignableOptions : List Rule := [ref "member_expression", ref "subscript_expression",
  ref "_identifier", ref "_reserved_identifier", ref "_destructuring_pattern"]

def expressionRules : List (String × Rule) := [
  ("parenthesized_expression", seq ["(", ref "_expressions", ")"]),
  ("_expressions", commaSep1 expression),
  ("_expression", choice (ref "_primary_expression" :: ref "_jsx_element" :: operatorOptions)),
  ("_primary_expression", choice primaryOptions),
  ("_identifier", choice ["undefined", identifier]),
  ("yield_expression", seq ["yield", choice [seq ["*", expression], opt expression]]),
  ("object", seq ["\x7b", holes (choice [ref "pair", ref "spread_element", ref "method_definition",
    identifier, ref "_reserved_identifier"]), "\x7d"]),
  ("object_pattern", seq ["\x7b", holes (choice [ref "pair_pattern", ref "rest_pattern",
    ref "object_assignment_pattern", identifier, ref "_reserved_identifier"]), "\x7d"]),
  ("assignment_pattern", seq [ref "_pattern", "=", expression]),
  ("object_assignment_pattern", seq [choice [identifier, ref "_reserved_identifier",
    ref "_destructuring_pattern"], "=", expression]),
  ("array", seq ["[", holes (choice [expression, ref "spread_element"]), "]"]),
  ("array_pattern", seq ["[", holes (choice [ref "_pattern", ref "assignment_pattern"]), "]"]),
  ("call_expression", choice [
    seq [choice [expression, "import"], ref "arguments"],
    seq [choice [ref "_primary_expression", ref "new_expression"], ref "template_string"],
    seq [ref "_primary_expression", "?.", ref "arguments"]]),
  ("new_expression", seq ["new", choice [ref "_primary_expression", ref "new_expression"],
    opt (ref "arguments")]),
  ("member_expression", seq [choice [expression, "import"], choice [".", "?."],
    choice [tok "private_property_identifier", identifier]]),
  ("subscript_expression", seq [expression, opt "?.", "[", ref "_expressions", "]"]),
  ("_lhs_expression", choice assignableOptions),
  ("assignment_expression", seq [choice [ref "parenthesized_expression", ref "_lhs_expression"], "=",
    expression]),
  ("augmented_assignment_expression", seq [choice [ref "parenthesized_expression",
    ref "_lhs_expression"], literals assignmentOperators, expression]),
  ("_initializer", seq ["=", expression]),
  ("_destructuring_pattern", choice [ref "object_pattern", ref "array_pattern"]),
  ("spread_element", seq ["...", expression]),
  ("ternary_expression", seq [expression, tok "ternary_mark", expression, ":", expression]),
  ("binary_expression", choice [seq [expression, literals binaryOperators, expression],
    seq [tok "private_property_identifier", "in", expression]]),
  ("unary_expression", seq [literals ["!", "~", "-", "+", "typeof", "void", "delete"], expression]),
  ("update_expression", choice [seq [expression, choice ["++", "--"]],
    seq [choice ["++", "--"], expression]]),
  ("template_string", seq ["\x60", many (choice [tok "template_chars", tok "escape_sequence",
    seq ["$\x7b", ref "_expressions", "\x7d"]]), "\x60"]),
  ("meta_property", choice [seq ["new", ".", "target"], seq ["import", ".", "meta"]]),
  ("arguments", seq ["(", holes (choice [expression, ref "spread_element"]), ")"]),
  ("_pattern", choice [ref "_lhs_expression", ref "rest_pattern"]),
  ("rest_pattern", seq ["...", ref "_lhs_expression"]),
  ("pair", seq [ref "_property_name", ":", expression]),
  ("pair_pattern", seq [ref "_property_name", ":", choice [ref "_pattern",
    ref "assignment_pattern"]]),
  ("_property_name", choice [identifier, ref "_reserved_identifier",
    tok "private_property_identifier", tok "string", tok "number", seq ["[", expression, "]"]]),
  ("_reserved_identifier", literals ["get", "set", "async", "static", "export", "let"])]

def markupRules : List (String × Rule) := [
  ("_jsx_element", choice [ref "jsx_element", ref "jsx_self_closing_element"]),
  ("jsx_element", seq [ref "jsx_opening_element", many (ref "_jsx_child"),
    ref "jsx_closing_element"]),
  ("jsx_expression", seq ["\x7b", opt (choice [ref "_expressions", ref "spread_element"]), "\x7d"]),
  ("_jsx_child", choice [tok "jsx_text", tok "html_character_reference", ref "_jsx_element",
    ref "jsx_expression"]),
  ("jsx_opening_element", seq ["<", optSeq [ref "_jsx_tag", many (ref "_jsx_attribute")], ">"]),
  ("_jsx_identifier", choice [tok "jsx_identifier", identifier]),
  ("nested_identifier", seq [choice [identifier, ref "nested_identifier"], ".", identifier]),
  ("_jsx_namespace_name", seq [ref "_jsx_identifier", ":", ref "_jsx_identifier"]),
  ("_jsx_element_name", choice [ref "_jsx_identifier", ref "nested_identifier",
    ref "_jsx_namespace_name"]),
  ("_jsx_tag", ref "_jsx_element_name"),
  ("jsx_closing_element", seq ["</", opt (ref "_jsx_element_name"), ">"]),
  ("jsx_self_closing_element", seq ["<", ref "_jsx_tag", many (ref "_jsx_attribute"), "/>"]),
  ("_jsx_attribute", choice [ref "jsx_attribute", ref "jsx_expression"]),
  ("jsx_attribute", seq [choice [ref "_jsx_identifier", ref "_jsx_namespace_name"],
    optSeq ["=", choice [tok "jsx_string", ref "jsx_expression", ref "_jsx_element"]]])]

def rules : List (String × Rule) :=
  statementRules ++ declarationRules ++ expressionRules ++ markupRules

def grammar : Grammar := .ofRules rules

namespace Literal

open Pattern

def decimalDigits : Pattern := grouped digit

def exponent : Pattern := seq [oneOf "eE", opt (oneOf "+-"), decimalDigits]

def radix (letters : String) (p : Pattern) : Pattern := seq ['0', oneOf letters, grouped p]

def decimalInteger : Pattern := alt ['0',
  seq [opt '0', oneOf "123456789", opt (seq [opt '_', decimalDigits])]]

def number : Pattern := alt [
  radix "xX" hexDigit, radix "bB" (oneOf "01"), radix "oO" octalDigit,
  seq [alt [radix "xX" hexDigit, radix "bB" (oneOf "01"), radix "oO" octalDigit, decimalDigits], 'n'],
  seq [decimalInteger, '.', opt decimalDigits, opt exponent],
  seq ['.', decimalDigits, opt exponent],
  seq [decimalInteger, exponent],
  decimalDigits]

def escape : Pattern := seq ['\\', alt [noneOf "xu01234567", between 1 3 octalDigit,
  seq ['x', times 2 hexDigit], seq ['u', times 4 hexDigit],
  seq ['u', '{', plus hexDigit, '}'], seq [oneOf "\r?", oneOf "\n\u2028\u2029"]]]

/-- A string in one kind of quotes; a line may end only directly before the closing quote. -/
def quoted (quote : Char) : Pattern :=
  seq [quote, star (alt [noneOf (String.ofList [quote, '\\', '\r', '\n']), escape]),
    opt (seq [oneOf "\r\n", star (char isPlainSpace)]), quote]

def string : Pattern := alt [quoted '"', quoted '\'']

def regexClass : Pattern := seq ['[', star (alt [seq ['\\', noneOf "\n"], noneOf "]\n\\"]), ']']

def regex : Pattern := seq ['/', plus (alt [regexClass, seq ['\\', noneOf "\n"], noneOf "/\\[\n"]), '/',
  star (char fun c => 'a' ≤ c && c ≤ 'z')]

def isMarkupLetter (c : Char) : Bool := c.isAlpha || c = '_' || c = '$'

def markupIdentifier : Pattern := seq [char isMarkupLetter,
  star (char fun c => isMarkupLetter c || c.isDigit), '-',
  star (char fun c => isMarkupLetter c || c.isDigit || c = '-')]

def markupString : Pattern := alt [seq ['"', star (noneOf "\""), '"'], seq ['\'', star (noneOf "'"), '\'']]

def characterReference : Pattern := seq ['&', alt [
  seq ['#', alt [seq [oneOf "xX", between 1 6 hexDigit], between 1 5 digit]],
  between 1 30 (char Char.isAlpha)], ';']

end Literal

def isSpace (c : Char) : Bool :=
  isPlainSpace c || c = '\u00a0' || c = '\u1680' || ('\u2000' ≤ c && c ≤ '\u200b') ||
    c = '\u2028' || c = '\u2029' || c = '\u202f' || c = '\u205f' || c = '\u2060' || c = '\u3000' ||
    c = '\ufeff'

def isLetter (c : Char) : Bool :=
  32 ≤ c.toNat && !isSpace c && !c.isDigit && !":;\x60\"'@#.,|^&<=>+-*/\\%?!~()[]\x7b\x7d".toList.contains c

def letterEnd? (accepts : Char → Bool) (text : Grammar.Source) (i : Nat) : Option Nat :=
  if i < text.size && accepts (charAt text i) then some (i + 1)
  else Pattern.stop? (.seq ['\\', 'u', .alt [.times 4 .hexDigit,
    .seq ['{', .plus .hexDigit, '}']]]) text i

def lettersEnd (text : Grammar.Source) : Nat → Nat → Nat
  | 0, i => i
  | fuel + 1, i =>
    match letterEnd? (fun c => isLetter c || c.isDigit) text i with
    | some j => lettersEnd text fuel j
    | none => i

def wordEnd? (text : Grammar.Source) (i : Nat) : Option Nat :=
  (letterEnd? isLetter text i).map (lettersEnd text (text.size - i))

def isLineEnd (c : Char) : Bool := c = '\n' || c = '\u2028' || c = '\u2029'

def lineRest (text : Grammar.Source) (i : Nat) : Nat :=
  span text (fun c => !isLineEnd c && c ≠ '\r') i

/-- Comments; a markup comment runs to the end of its line and counts where no operator may stand. -/
def comment? (expected : String → Bool) (text : Grammar.Source) (i : Nat) : Option Nat :=
  if startsAt text i ['/', '/'] then some (lineRest text i)
  else if startsAt text i ['/', '*'] then blockComment? text i
  else if !expected "||" && (startsAt text i "<!--".toList || startsAt text i "-->".toList) then
    some (lineRest text i)
  else none

/-- Passes over blanks and comments; nothing if a slash begins no comment. -/
def pastComments? (text : Grammar.Source) : Nat → Nat → Option Nat
  | 0, _ => none
  | fuel + 1, i =>
    let j := span text isSpace i
    if charAt text j ≠ '/' then some j
    else if startsAt text j ['/', '/'] then pastComments? text fuel (span text (!isLineEnd ·) j)
    else if startsAt text j ['/', '*'] then
      pastComments? text fuel ((blockEnd? text (text.size + 1) (j + 2)).getD text.size)
    else none

def isWordOperator (text : Grammar.Source) (i : Nat) : Bool :=
  ["in", "instanceof"].any fun word =>
    startsAt text i word.toList && !(charAt text (i + word.length)).isAlpha

def endsBefore (typed : Bool) (expected : String → Bool) (text : Grammar.Source) (i : Nat) : Bool :=
  let next := charAt text (i + 1)
  match charAt text i with
  | '\x60' | ',' | ':' | ';' | '*' | '%' | '>' | '<' | '=' | '?' | '^' | '|' | '&' | '/' => false
  | '.' => !typed && next.isDigit
  | '(' | '[' => typed && !expected "||"
  | '{' => !(typed && expected "function_signature_automatic_semicolon")
  | '+' => next = '+'
  | '-' => next = '-'
  | '!' => next ≠ '='
  | _ => !isWordOperator text i

/-- Whether a statement may end at an offset without a semicolon. -/
def endsHere (typed : Bool) (expected : String → Bool) (text : Grammar.Source) (i : Nat) : Bool :=
  let j := span text (fun c => isSpace c && !isLineEnd c) i
  if text.size ≤ j then true
  else if charAt text j = '}' then
    !typed || charAt text (span text isSpace (j + 1)) ≠ ':' || expected "||"
  else if isLineEnd (charAt text j) then
    match pastComments? text (text.size + 1) (j + 1) with
    | some k => text.size ≤ k || endsBefore typed expected text k
    | none => false
  else if !typed && charAt text j = '/' then
    if startsAt text j ['/', '/'] then
      match pastComments? text (text.size + 1) j with
      | some k => text.size ≤ k || (!expected "||" && !([',', '='].contains (charAt text k))) ||
          charAt text k = '}' || endsBefore typed expected text k
      | none => false
    else if startsAt text j ['/', '*'] then
      let stop := (blockEnd? text (text.size + 1) (j + 2)).getD text.size
      let k := span text isSpace stop
      let newline := (List.range (k - j)).any fun d => isLineEnd (charAt text (j + d))
      text.size ≤ k || charAt text k = '}' ||
        (newline && !expected "||" && !([',', '='].contains (charAt text k))) ||
        (newline && endsBefore typed expected text k)
    else false
  else false

def templateEnd (text : Grammar.Source) : Nat → Nat → Nat
  | 0, i => i
  | fuel + 1, i =>
    if text.size ≤ i || charAt text i = '\x60' || charAt text i = '\\' ||
        startsAt text i ['$', '{'] then i
    else templateEnd text fuel (i + 1)

/-- The end of the characters of markup, and whether more than line ends and margins is there. -/
def markupText (text : Grammar.Source) : Nat → Nat → Bool → Bool → Nat × Bool
  | 0, i, _, seen => (i, seen)
  | fuel + 1, i, newline, seen =>
    let c := charAt text i
    if text.size ≤ i || "<>\x7b\x7d&".toList.contains c then (i, seen)
    else
      let newline := if c = '\n' then true else newline && isSpace c
      markupText text fuel (i + 1) newline (seen || !newline)

/-- The mark of a conditional expression at an offset, if it is not part of another sign. -/
def ternaryMark? (typed : Bool) (text : Grammar.Source) (i : Nat) : Option Nat :=
  let j := span text isSpace i
  if charAt text j ≠ '?' || charAt text (j + 1) = '?' then none
  else if charAt text (j + 1) = '.' then
    if !typed && (charAt text (j + 2)).isDigit then some j else none
  else if typed && [':', ')', ','].contains (charAt text (span text isSpace (j + 1))) then none
  else some j

def layout (typed : Bool) (expected : String → Bool) (text : Grammar.Source) (i : Nat) (_ : Unit) :
    Layout Unit :=
  if expected "template_chars" && !expected "automatic_semicolon" then
    let stop := templateEnd text (text.size - i) i
    if i < stop then ⟨[⟨"template_chars", i, stop, ()⟩], false⟩ else ⟨[], true⟩
  else
    let markup := markupText text (text.size - i) i false false
    if expected "jsx_text" && markup.2 then ⟨[⟨"jsx_text", i, markup.1, ()⟩], false⟩
    else if expected "automatic_semicolon" && endsHere typed expected text i then
      ⟨[⟨"automatic_semicolon", i, i, ()⟩], true⟩
    else if expected "ternary_mark" then
      match ternaryMark? typed text i with
      | some j => ⟨[⟨"ternary_mark", j, j + 1, ()⟩], typed⟩
      | none => ⟨[], true⟩
    else ⟨[], true⟩

def classes : List TokenClass := [
  patternClass "number" Literal.number,
  patternClass "string" Literal.string,
  patternClass "regex" Literal.regex,
  patternClass "escape_sequence" Literal.escape,
  ⟨"private_property_identifier", fun text i =>
    if charAt text i = '#' then wordEnd? text (i + 1) else none⟩,
  ⟨"hash_bang_line", fun text i =>
    if startsAt text i ['#', '!'] then some (span text (· ≠ '\n') i) else none⟩,
  patternClass "jsx_identifier" Literal.markupIdentifier,
  patternClass "jsx_string" Literal.markupString,
  patternClass "html_character_reference" Literal.characterReference]

def lexicon (typed : Bool) : Lexicon Unit where
  initial := ()
  layout := layout typed
  isSpace := isSpace
  comment? := comment?
  word := ⟨"identifier", wordEnd?⟩
  classes := classes

def parse? (depth : Nat) (text : Grammar.Source) : Option Tree :=
  Grammar.parse? grammar (lexicon false) depth text

end Reconcile.Source.JavaScript
