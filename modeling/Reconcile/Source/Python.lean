import Reconcile.Grammar.Chart
import Reconcile.Grammar.Pattern

/-!
The grammar of Python source, of both generations: `print` and `exec` may be statements. Line ends
and indentation are tokens of layout, as are the parts of string literals, whose fields may hold
expressions.
-/

namespace Reconcile.Source.Python

open Grammar Grammar.Rule

def identifier : Rule := tok "identifier"

def expression : Rule := ref "_expression"

def primary : Rule := ref "_primary_expression"

def commaList (rule : Rule) : Rule := seq [commaSep1 rule, opt ","]

/-- Either one item and a comma, or two or more and perhaps a comma. -/
def openList (rule : Rule) : Rule :=
  seq [rule, choice [",", seq [many1 (seq [",", rule]), opt ","]]]

def literals (texts : List String) : Rule := choice (texts.map Rule.lit)

def binaryOperators : List String :=
  ["+", "-", "*", "@", "/", "%", "//", "**", "|", "&", "^", "<<", ">>"]

def optionalList (rule : Rule) : Rule := opt (commaList rule)

def statementRules : List (String × Rule) := [
  ("source", seq [ref "module", tok endName]),
  ("module", many (ref "_statement")),
  ("_statement", choice [ref "_simple_statements", ref "_compound_statement"]),
  ("_simple_statements", seq [sep1 ";" (ref "_simple_statement"), opt ";", tok "newline"]),
  ("_simple_statement", choice [ref "future_import_statement", ref "import_statement",
    ref "import_from_statement", ref "print_statement", ref "assert_statement",
    ref "expression_statement", ref "return_statement", ref "delete_statement",
    ref "raise_statement", ref "pass_statement", ref "break_statement", ref "continue_statement",
    ref "global_statement", ref "nonlocal_statement", ref "exec_statement",
    ref "type_alias_statement"]),
  ("import_statement", seq ["import", ref "_import_list"]),
  ("relative_import", seq [many1 ".", opt (ref "dotted_name")]),
  ("_imported", choice [ref "_import_list", seq ["(", ref "_import_list", ")"]]),
  ("future_import_statement", seq ["from", "__future__", "import", ref "_imported"]),
  ("import_from_statement", seq ["from",
    field "module_name" (choice [ref "relative_import", ref "dotted_name"]), "import",
    choice ["*", ref "_imported"]]),
  ("_import_list", commaList (field "name" (choice [ref "dotted_name", ref "aliased_import"]))),
  ("aliased_import", seq [ref "dotted_name", "as", identifier]),
  ("print_statement", choice [
    seq ["print", ">>", expression, many (seq [",", expression]), opt ","],
    seq ["print", commaList expression]]),
  ("assert_statement", seq ["assert", commaSep1 expression]),
  ("expression_statement", choice [ref "assignment", ref "augmented_assignment", expression,
    commaList expression, ref "yield"]),
  ("named_expression", seq [choice [identifier, ref "_keyword_identifier"], ":=", expression]),
  ("return_statement", seq ["return", opt (ref "_expressions")]),
  ("delete_statement", seq ["del", ref "_expressions"]),
  ("_expressions", choice [expression, ref "expression_list"]),
  ("raise_statement", seq ["raise", opt (ref "_expressions"), optSeq ["from", expression]]),
  ("pass_statement", "pass"),
  ("break_statement", "break"),
  ("continue_statement", "continue"),
  ("global_statement", seq ["global", commaSep1 identifier]),
  ("nonlocal_statement", seq ["nonlocal", commaSep1 identifier]),
  ("exec_statement", seq ["exec", choice [ref "string", identifier],
    optSeq ["in", commaSep1 expression]]),
  ("type_alias_statement", seq ["type", ref "type", "=", ref "type"]),
  ("_compound_statement", choice [ref "if_statement", ref "for_statement", ref "while_statement",
    ref "try_statement", ref "with_statement", ref "function_definition", ref "class_definition",
    ref "decorated_definition", ref "match_statement"]),
  ("if_statement", seq ["if", expression, ":", ref "_suite",
    many (seq ["elif", expression, ":", ref "_suite"]), opt (ref "_else_clause")]),
  ("_else_clause", seq ["else", ":", ref "_suite"]),
  ("match_statement", seq ["match", commaList expression, ":", choice [
    seq [tok "indent", many (ref "case_clause"), tok "dedent"], tok "newline"]]),
  ("case_clause", seq ["case", commaList (ref "case_pattern"), opt (ref "if_clause"), ":",
    ref "_suite"]),
  ("for_statement", seq [opt "async", "for", ref "_left_hand_side", "in", ref "_expressions", ":",
    ref "_suite", opt (ref "_else_clause")]),
  ("while_statement", seq ["while", expression, ":", ref "_suite", opt (ref "_else_clause")]),
  ("try_statement", seq ["try", ":", ref "_suite", choice [
    seq [many1 (ref "except_clause"), opt (ref "_else_clause"), opt (ref "_finally_clause")],
    seq [many1 (ref "except_group_clause"), opt (ref "_else_clause"), opt (ref "_finally_clause")],
    ref "_finally_clause"]]),
  ("except_clause", seq ["except", optSeq [expression, optSeq [choice ["as", ","], expression]], ":",
    ref "_suite"]),
  ("except_group_clause", seq ["except*", expression, optSeq ["as", expression], ":", ref "_suite"]),
  ("_finally_clause", seq ["finally", ":", ref "_suite"]),
  ("with_statement", seq [opt "async", "with", choice [commaList expression,
    seq ["(", commaList expression, ")"]], ":", ref "_suite"]),
  ("function_definition", seq [opt "async", "def", field "name" identifier,
    opt (ref "type_parameter"), ref "parameters", optSeq ["->", ref "type"], ":", ref "_suite"]),
  ("parameters", seq ["(", opt (ref "_parameters"), ")"]),
  ("class_definition", seq ["class", field "name" identifier, opt (ref "type_parameter"),
    opt (ref "argument_list"), ":", ref "_suite"]),
  ("type_parameter", seq ["[", commaList (ref "type"), "]"]),
  ("parenthesized_list_splat", seq ["(", choice [ref "parenthesized_list_splat", ref "list_splat"],
    ")"]),
  ("argument_list", seq ["(", opt (commaSep1 (choice [expression, ref "list_splat",
    ref "dictionary_splat", ref "parenthesized_list_splat", ref "keyword_argument"])), opt ",", ")"]),
  ("decorated_definition", seq [many1 (ref "decorator"),
    field "definition" (choice [ref "class_definition", ref "function_definition"])]),
  ("decorator", seq ["@", expression, tok "newline"]),
  ("_suite", choice [ref "_simple_statements", seq [tok "indent", ref "block"], tok "newline"]),
  ("block", seq [many (ref "_statement"), tok "dedent"]),
  ("dotted_name", sep1 "." identifier)]

def patternRules : List (String × Rule) := [
  ("case_pattern", choice [seq [ref "case_pattern", "as", identifier], ref "keyword_pattern",
    ref "_simple_pattern"]),
  ("_number", choice [tok "integer", tok "float"]),
  ("_simple_pattern", choice [ref "class_pattern", ref "splat_pattern", ref "union_pattern",
    seq ["[", optionalList (ref "case_pattern"), "]"],
    seq ["(", optionalList (ref "case_pattern"), ")"],
    seq ["\x7b", optionalList (choice [seq [ref "_simple_pattern", ":", ref "case_pattern"],
      ref "splat_pattern"]), "\x7d"],
    ref "string", ref "concatenated_string", "True", "False", "None",
    seq [opt "-", ref "_number"], seq [opt "-", ref "_number", choice ["+", "-"], ref "_number"],
    ref "dotted_name", "_"]),
  ("union_pattern", seq [ref "_simple_pattern", many1 (seq ["|", ref "_simple_pattern"])]),
  ("keyword_pattern", seq [identifier, "=", ref "_simple_pattern"]),
  ("splat_pattern", seq [choice ["*", "**"], choice [identifier, "_"]]),
  ("class_pattern", seq [ref "dotted_name", "(", optionalList (ref "case_pattern"), ")"]),
  ("_parameters", commaList (ref "_parameter")),
  ("_parameter", choice [identifier, ref "typed_parameter", ref "default_parameter",
    ref "typed_default_parameter", ref "list_splat_pattern", ref "tuple_pattern", "*", "/",
    ref "dictionary_splat_pattern"]),
  ("_pattern", choice [identifier, ref "_keyword_identifier", ref "subscript", ref "attribute",
    ref "list_splat_pattern", ref "tuple_pattern", ref "list_pattern"]),
  ("tuple_pattern", seq ["(", optionalList (ref "_pattern"), ")"]),
  ("list_pattern", seq ["[", optionalList (ref "_pattern"), "]"]),
  ("default_parameter", seq [choice [identifier, ref "tuple_pattern"], "=", expression]),
  ("typed_default_parameter", seq [identifier, ":", ref "type", "=", expression]),
  ("_splat_target", choice [identifier, ref "_keyword_identifier", ref "subscript",
    ref "attribute"]),
  ("list_splat_pattern", seq ["*", ref "_splat_target"]),
  ("dictionary_splat_pattern", seq ["**", ref "_splat_target"]),
  ("typed_parameter", seq [choice [identifier, ref "list_splat_pattern",
    ref "dictionary_splat_pattern"], ":", ref "type"]),
  ("type", choice [expression, seq [choice ["*", "**"], identifier],
    seq [choice [identifier, "type"], ref "type_parameter"], seq [ref "type", "|", ref "type"],
    seq [ref "type", ":", ref "type"], seq [ref "type", ".", identifier]])]

def expressionRules : List (String × Rule) := [
  ("list_splat", seq ["*", expression]),
  ("dictionary_splat", seq ["**", expression]),
  ("expression_list", openList expression),
  ("as_pattern", seq [expression, "as", expression]),
  ("_expression_in_clause", choice [expression,
    seq ["lambda", opt (ref "_parameters"), ":", ref "_expression_in_clause"]]),
  ("_expression", choice [ref "comparison_operator", seq ["not", expression],
    seq [expression, choice ["and", "or"], expression], ref "lambda", primary,
    ref "conditional_expression", ref "named_expression", ref "as_pattern"]),
  ("_primary_expression", choice [seq ["await", primary], ref "binary_operator", identifier,
    ref "_keyword_identifier", ref "string", ref "concatenated_string", tok "integer", tok "float",
    "True", "False", "None", seq [choice ["+", "-", "~"], primary], ref "attribute",
    ref "subscript", ref "call", ref "list", ref "list_comprehension", ref "dictionary",
    ref "dictionary_comprehension", ref "set", ref "set_comprehension", ref "tuple",
    ref "parenthesized_expression", ref "generator_expression", "...", ref "list_splat_pattern"]),
  ("binary_operator", seq [primary, literals binaryOperators, primary]),
  ("comparison_operator", seq [primary, many1 (seq [choice ["<", "<=", "==", "!=", ">=", ">", "<>",
    "in", seq ["not", "in"], "is", seq ["is", "not"]], primary])]),
  ("lambda", seq ["lambda", opt (ref "_parameters"), ":", expression]),
  ("assignment", seq [field "left" (ref "_left_hand_side"), choice [
    seq ["=", ref "_right_hand_side"], seq [":", ref "type"],
    seq [":", ref "type", "=", ref "_right_hand_side"]]]),
  ("augmented_assignment", seq [field "left" (ref "_left_hand_side"),
    literals (binaryOperators.map (· ++ "=")), ref "_right_hand_side"]),
  ("_left_hand_side", choice [ref "_pattern", ref "pattern_list"]),
  ("pattern_list", openList (ref "_pattern")),
  ("_right_hand_side", choice [expression, ref "expression_list", ref "assignment",
    ref "augmented_assignment", ref "pattern_list", ref "yield"]),
  ("yield", seq ["yield", choice [seq ["from", expression], opt (ref "_expressions")]]),
  ("attribute", seq [primary, ".", identifier]),
  ("subscript", seq [primary, "[", commaList (choice [expression, ref "slice"]), "]"]),
  ("slice", seq [opt expression, ":", opt expression, optSeq [":", opt expression]]),
  ("call", seq [primary, choice [ref "generator_expression", ref "argument_list"]]),
  ("keyword_argument", seq [choice [identifier, ref "_keyword_identifier"], "=", expression]),
  ("list", seq ["[", opt (ref "_collection_elements"), "]"]),
  ("set", seq ["\x7b", ref "_collection_elements", "\x7d"]),
  ("tuple", seq ["(", opt (ref "_collection_elements"), ")"]),
  ("dictionary", seq ["\x7b", opt (commaSep1 (choice [ref "pair", ref "dictionary_splat"])), opt ",",
    "\x7d"]),
  ("pair", seq [expression, ":", expression]),
  ("list_comprehension", seq ["[", expression, ref "_comprehension_clauses", "]"]),
  ("dictionary_comprehension", seq ["\x7b", ref "pair", ref "_comprehension_clauses", "\x7d"]),
  ("set_comprehension", seq ["\x7b", expression, ref "_comprehension_clauses", "\x7d"]),
  ("generator_expression", seq ["(", expression, ref "_comprehension_clauses", ")"]),
  ("_comprehension_clauses", seq [ref "for_in_clause",
    many (choice [ref "for_in_clause", ref "if_clause"])]),
  ("parenthesized_expression", seq ["(", choice [expression, ref "yield"], ")"]),
  ("_collection_elements", commaList (choice [expression, ref "yield", ref "list_splat",
    ref "parenthesized_list_splat"])),
  ("for_in_clause", seq [opt "async", "for", ref "_left_hand_side", "in",
    commaList (ref "_expression_in_clause")]),
  ("if_clause", seq ["if", expression]),
  ("conditional_expression", seq [expression, "if", expression, "else", expression]),
  ("concatenated_string", seq [ref "string", many1 (ref "string")]),
  ("string", seq [tok "string_start", many (choice [ref "interpolation", ref "_string_part"]),
    tok "string_end"]),
  ("_string_part", choice [tok "escape_interpolation", tok "escape_sequence", tok "backslash",
    tok "string_content"]),
  ("_field_expression", choice [expression, ref "expression_list", ref "pattern_list",
    ref "yield"]),
  ("interpolation", seq ["\x7b", ref "_field_expression", opt "=", opt (tok "type_conversion"),
    opt (ref "format_specifier"), "\x7d"]),
  ("format_specifier", seq [":", many (choice [tok "format_text", ref "interpolation"])]),
  ("_keyword_identifier", choice ["print", "exec", "async", "await", "type", "match"])]

def grammar : Grammar := .ofRules (statementRules ++ patternRules ++ expressionRules)

namespace Literal

open Pattern

def digits : Pattern := plus (seq [plus digit, opt '_'])

def radix (letters : String) (p : Pattern) : Pattern :=
  seq ['0', oneOf letters, plus (seq [opt '_', plus p]), opt (oneOf "Ll")]

def integer : Pattern := alt [radix "xX" hexDigit, radix "oO" octalDigit, radix "bB" (oneOf "01"),
  seq [digits, opt (oneOf "LljJ")]]

def exponent : Pattern := seq [oneOf "eE", opt (oneOf "+-"), digits]

def float : Pattern := seq [alt [
  seq [digits, '.', opt digits, opt exponent],
  seq [opt digits, '.', digits, opt exponent],
  seq [digits, exponent]], opt (oneOf "jJ")]

def escape : Pattern := seq ['\\', alt [
  seq ['u', times 4 hexDigit], seq ['U', times 8 hexDigit], seq ['x', times 2 hexDigit],
  between 1 3 digit, seq [opt '\r', '\n'], oneOf "'\"abfrntv\\",
  seq ['N', '{', plus (noneOf "\x7d"), '}']]]

end Literal

structure Quotes where
  close : Char
  isTriple : Bool
  isFormat : Bool
  isRaw : Bool
  isBytes : Bool

/-- Indentation levels, the innermost first, and the literals being read. -/
structure State where
  indents : List Nat
  quotes : List Quotes
  insideFormat : Bool

abbrev Token := LayoutToken State

/-- The end of a run of string content from `i` on, or the closing quotes, or neither. -/
def stringPart? (text : Grammar.Source) (state : State) (q : Quotes) (start : Nat) :
    Nat → Nat → Option Token
  | 0, _ => none
  | fuel + 1, i =>
    let content (stop : Nat) : Option Token :=
      if start < stop then some ⟨"string_content", start, stop, state⟩ else none
    let closing (stop : Nat) : Option Token :=
      some ⟨"string_end", start, stop, { state with quotes := state.quotes.tail, insideFormat := false }⟩
    if text.size ≤ i then none
    else
      let c := charAt text i
      if q.isFormat && (c = '{' || c = '}') then content i
      else if c = '\\' then
        if q.isRaw then
          let j := i + 1
          let j := if charAt text j = q.close || charAt text j = '\\' then j + 1 else j
          let j := if charAt text j = '\r' then (if charAt text (j + 1) = '\n' then j + 2 else j + 1)
            else if charAt text j = '\n' then j + 1 else j
          stringPart? text state q start fuel j
        else if q.isBytes && ['N', 'u', 'U'].contains (charAt text (i + 1)) then
          stringPart? text state q start fuel (i + 2)
        else content i
      else if c = q.close then
        if q.isTriple then
          if charAt text (i + 1) = q.close && charAt text (i + 2) = q.close then
            if start < i then content i else closing (i + 3)
          else some ⟨"string_content", start, i + (if charAt text (i + 1) = q.close then 2 else 1), state⟩
        else if start < i then content i else closing (i + 1)
      else if c = '\n' && start < i && !q.isTriple then none
      else stringPart? text state q start fuel (i + 1)

/-- What stands before the next token: whether a line ended, the indentation after it, the
indentation of the first comment on a line of its own, and where the token is. -/
structure Margin where
  ended : Bool
  indent : Nat
  comment : Option Nat
  offset : Nat

/-- Reads the margin; nothing if layout has no say here. -/
def margin? (text : Grammar.Source) (skipsComments : Bool) : Nat → Margin → Option Margin
  | 0, _ => none
  | fuel + 1, m =>
    if text.size ≤ m.offset then some { m with ended := true, indent := 0 }
    else
      let c := charAt text m.offset
      let next := m.offset + 1
      if c = '\n' then margin? text skipsComments fuel { m with ended := true, indent := 0, offset := next }
      else if c = ' ' then
        margin? text skipsComments fuel { m with indent := m.indent + 1, offset := next }
      else if c = '\r' || c = '\x0c' then
        margin? text skipsComments fuel { m with indent := 0, offset := next }
      else if c = '\t' then
        margin? text skipsComments fuel { m with indent := m.indent + 8, offset := next }
      else if c = '#' && skipsComments then
        if !m.ended then none
        else margin? text skipsComments fuel
          { m with
            comment := m.comment.or (some m.indent)
            indent := 0
            offset := span text (· ≠ '\n') m.offset + 1 }
      else if c = '\\' then
        let j := if charAt text next = '\r' then next + 1 else next
        if text.size ≤ j || charAt text j = '\n' then
          margin? text skipsComments fuel { m with offset := j + 1 }
        else none
      else some m

def isFlag (c : Char) : Bool := "fFrRbBuU".toList.contains c

def stringStart? (text : Grammar.Source) (state : State) (i : Nat) : Option Token :=
  let j := span text isFlag i
  let flags := (text.extract i j).toList.map Char.toLower
  let close := charAt text j
  if close = '\'' || close = '"' || close = '`' then
    let isTriple := close ≠ '`' && charAt text (j + 1) = close && charAt text (j + 2) = close
    let q : Quotes := ⟨close, isTriple, flags.contains 'f', flags.contains 'r', flags.contains 'b'⟩
    some ⟨"string_start", i, j + (if isTriple then 3 else 1),
      { state with quotes := q :: state.quotes, insideFormat := q.isFormat }⟩
  else none

/-- The token that the margin at an offset brings: a change of indentation, the end of a line, or
the opening of a string. -/
def marginToken? (expected : String → Bool) (text : Grammar.Source) (i : Nat) (state : State) :
    Option Token := do
  let comments := ["indent", "dedent", "newline", "except"].any expected
  let m ← margin? text comments (text.size + 2) ⟨false, 0, none, i⟩
  let current := state.indents.headD 0
  let next := charAt text m.offset
  let quoted := next = '"' || next = '\'' || next = '`'
  let bracketed := [")", "]", "\x7d"].any expected
  if m.ended && expected "indent" && current < m.indent then
    return ⟨"indent", i, i, { state with indents := m.indent :: state.indents }⟩
  if m.ended && m.indent < current && !state.insideFormat && m.comment.all (· < current) &&
      (expected "dedent" ||
        (!expected "newline" && !(expected "string_start" && quoted) && !bracketed)) then
    return ⟨"dedent", i, i, { state with indents := state.indents.tail }⟩
  if m.ended && expected "newline" then
    return ⟨"newline", i, i, state⟩
  if m.comment.isNone && expected "string_start" then stringStart? text state m.offset else none

def token? (expected : String → Bool) (text : Grammar.Source) (i : Nat) (state : State) :
    Option Token :=
  match state.quotes.head? with
  | none => marginToken? expected text i state
  | some q =>
    let c := charAt text i
    if q.isFormat && expected "escape_interpolation" && (c = '{' || c = '}') then
      if charAt text (i + 1) = c then some ⟨"escape_interpolation", i, i + 2, state⟩ else none
    else if expected "string_content" then stringPart? text state q i (text.size + 1) i
    else marginToken? expected text i state

def layout (expected : String → Bool) (text : Grammar.Source) (i : Nat) (state : State) :
    Layout State :=
  match token? expected text i state with
  | some token => ⟨[token], false⟩
  | none => ⟨[], true⟩

def isSpace (c : Char) : Bool :=
  isPlainSpace c || c = '\ufeff' || c = '\u2060' || c = '\u200b'

def comment? (text : Grammar.Source) (i : Nat) : Option Nat :=
  if charAt text i = '#' then some (span text (· ≠ '\n') i)
  else if charAt text i = '\\' then
    let j := if charAt text (i + 1) = '\r' then i + 2 else i + 1
    if text.size ≤ j || charAt text j = '\n' then some (j + 1) else none
  else none

def lexicon : Lexicon State where
  initial := ⟨[0], [], false⟩
  layout := layout
  isSpace := isSpace
  comment? _ := comment?
  word := ⟨"identifier", identifierEnd? (fun c => Text.startsIdentifier c || c = '_')
    (fun c => Text.continuesIdentifier c)⟩
  classes := [
    patternClass "integer" Literal.integer,
    patternClass "float" Literal.float,
    patternClass "escape_sequence" Literal.escape,
    patternClass "backslash" '\\',
    patternClass "type_conversion" (.seq ['!', .char fun c => 'a' ≤ c && c ≤ 'z']),
    patternClass "format_text" (.plus (.noneOf "\x7b\x7d\n"))]

def parse? (depth : Nat) (text : Grammar.Source) : Option Tree := Grammar.parse? grammar lexicon depth text

end Reconcile.Source.Python
