import Reconcile.Grammar.Chart
import Reconcile.Grammar.Pattern

/-!
The grammar of Rust source. Statements may stand at the top level, so that fragments can be read.
-/

namespace Reconcile.Source.Rust

open Grammar Grammar.Rule

def identifier : Rule := tok "identifier"

def expression : Rule := ref "_expression"

def type : Rule := ref "_type"

def pattern : Rule := ref "_pattern"

def literals (texts : List String) : Rule := choice (texts.map Rule.lit)

def commaItems (rule : Rule) : Rule := seq [commaSep rule, opt ","]

def attributed (rule : Rule) : Rule := seq [many (ref "attribute_item"), rule]

def primitiveTypes : List String := ["u8", "i8", "u16", "i16", "u32", "i32", "u64", "i64", "u128",
  "i128", "isize", "usize", "f32", "f64", "bool", "str", "char"]

def reserved : Rule := literals ["default", "union", "gen", "raw"]

def typeParameters : Rule := field "type_parameters" (opt (ref "type_parameters"))

def visibility : Rule := opt (ref "visibility_modifier")

def whereClause : Rule := opt (ref "where_clause")

def bracketed (rule : Rule) : Rule :=
  choice [seq ["(", rule, ")"], seq ["[", rule, "]"], seq ["\x7b", rule, "\x7d"]]

def itemRules : List (String × Rule) := [
  ("source", seq [ref "source_file", tok endName]),
  ("source_file", seq [opt (tok "shebang"), many (ref "_statement")]),
  ("_statement", choice [ref "_declaration_statement", ref "expression_statement"]),
  ("empty_statement", ";"),
  ("expression_statement", choice [seq [expression, ";"], ref "_expression_ending_with_block"]),
  ("_declaration_statement", choice [ref "const_item", ref "macro_invocation", ref "macro_definition",
    ref "empty_statement", ref "attribute_item", ref "inner_attribute_item", ref "mod_item",
    ref "foreign_mod_item", ref "struct_item", ref "union_item", ref "enum_item", ref "type_item",
    ref "function_item", ref "function_signature_item", ref "impl_item", ref "trait_item",
    ref "associated_type", ref "let_declaration", ref "use_declaration",
    ref "extern_crate_declaration", ref "static_item"]),
  ("macro_definition", seq ["macro_rules!", choice [identifier, reserved], choice [
    seq ["(", ref "_macro_rules", ")", ";"], seq ["[", ref "_macro_rules", "]", ";"],
    seq ["\x7b", ref "_macro_rules", "\x7d"]]]),
  ("_macro_rules", seq [many (seq [ref "macro_rule", ";"]), opt (ref "macro_rule")]),
  ("macro_rule", seq [ref "token_tree_pattern", "=>", ref "token_tree"]),
  ("_token_pattern", choice [ref "token_tree_pattern", ref "token_repetition_pattern",
    seq [tok "metavariable", ":", literals ["block", "expr", "expr_2021", "ident", "item", "lifetime",
      "literal", "meta", "pat", "pat_param", "path", "stmt", "tt", "ty", "vis"]],
    tok "metavariable", ref "_non_special_token"]),
  ("token_tree_pattern", bracketed (many (ref "_token_pattern"))),
  ("_repetition_end", seq [opt (tok "repetition_separator"), literals ["+", "*", "?"]]),
  ("token_repetition_pattern", seq ["$", "(", many (ref "_token_pattern"), ")",
    ref "_repetition_end"]),
  ("_token", choice [ref "token_tree", ref "token_repetition", tok "metavariable",
    ref "_non_special_token"]),
  ("token_tree", bracketed (many (ref "_token"))),
  ("token_repetition", seq ["$", "(", many (ref "_token"), ")", ref "_repetition_end"]),
  ("_non_special_token", choice [ref "_literal", identifier, "mut", "self", "super", "crate",
    literals primitiveTypes, literals ["+", "-", "*", "/", "%", "^", "!", "&", "|", "&&", "||", "<<",
      ">>", "+=", "-=", "*=", "/=", "%=", "^=", "&=", "|=", "<<=", ">>=", "=", "==", "!=", ">", "<",
      ">=", "<=", "@", "_", ".", "..", "...", "..=", ",", ";", ":", "::", "->", "=>", "#", "?"],
    "'", literals ["as", "async", "await", "break", "const", "continue", "default", "enum", "fn",
      "for", "gen", "if", "impl", "let", "loop", "match", "mod", "pub", "return", "static", "struct",
      "trait", "type", "union", "unsafe", "use", "where", "while"]]),
  ("attribute_item", seq ["#", "[", ref "attribute", "]"]),
  ("inner_attribute_item", seq ["#", "!", "[", ref "attribute", "]"]),
  ("attribute", seq [ref "_path", opt (choice [seq ["=", expression], ref "delim_token_tree"])]),
  ("mod_item", seq [visibility, "mod", field "name" identifier, choice [";", ref "declaration_list"]]),
  ("foreign_mod_item", seq [visibility, ref "extern_modifier", choice [";", ref "declaration_list"]]),
  ("declaration_list", seq ["\x7b", many (ref "_declaration_statement"), "\x7d"]),
  ("struct_item", seq [visibility, "struct", field "name" identifier, typeParameters, choice [
    seq [whereClause, ref "field_declaration_list"],
    seq [ref "ordered_field_declaration_list", whereClause, ";"], ";"]]),
  ("union_item", seq [visibility, "union", field "name" identifier, typeParameters, whereClause,
    ref "field_declaration_list"]),
  ("enum_item", seq [visibility, "enum", field "name" identifier, typeParameters, whereClause,
    "\x7b", commaItems (attributed (ref "enum_variant")), "\x7d"]),
  ("enum_variant", seq [visibility, identifier, opt (choice [ref "field_declaration_list",
    ref "ordered_field_declaration_list"]), optSeq ["=", expression]]),
  ("field_declaration_list", seq ["\x7b", commaItems (attributed (ref "field_declaration")), "\x7d"]),
  ("field_declaration", seq [visibility, identifier, ":", type]),
  ("ordered_field_declaration_list", seq ["(", commaItems (attributed (seq [visibility, type])), ")"]),
  ("extern_crate_declaration", seq [visibility, "extern", "crate", field "name" identifier,
    optSeq ["as", identifier], ";"]),
  ("const_item", seq [visibility, "const", field "name" identifier, ":", type,
    optSeq ["=", expression], ";"]),
  ("static_item", seq [visibility, "static", opt "ref", opt "mut", field "name" identifier, ":", type,
    optSeq ["=", expression], ";"]),
  ("type_item", seq [visibility, "type", field "name" identifier, typeParameters, whereClause, "=",
    type, whereClause, ";"]),
  ("_signature", seq [visibility, opt (ref "function_modifiers"), "fn",
    field "name" (choice [identifier, tok "metavariable"]), typeParameters, ref "parameters",
    optSeq ["->", type], whereClause]),
  ("function_item", seq [ref "_signature", ref "block"]),
  ("function_signature_item", seq [ref "_signature", ";"]),
  ("function_modifiers", many1 (choice ["async", "default", "const", "unsafe", "gen",
    ref "extern_modifier"])),
  ("where_clause", seq ["where", optSeq [commaSep1 (ref "where_predicate"), opt ","]]),
  ("where_predicate", seq [choice [ref "lifetime", identifier, ref "scoped_type_identifier",
    ref "generic_type", ref "reference_type", ref "pointer_type", ref "tuple_type", ref "array_type",
    ref "higher_ranked_trait_bound", literals primitiveTypes], ref "trait_bounds"]),
  ("_trait_name", choice [identifier, ref "scoped_type_identifier", ref "generic_type"]),
  ("impl_item", seq [opt "unsafe", "impl", typeParameters,
    optSeq [opt "!", field "trait" (ref "_trait_name"), "for"], field "type" type, whereClause,
    choice [ref "declaration_list", ";"]]),
  ("trait_item", seq [visibility, opt "unsafe", "trait", field "name" identifier, typeParameters,
    opt (ref "trait_bounds"), whereClause, ref "declaration_list"]),
  ("associated_type", seq ["type", field "name" identifier, typeParameters, opt (ref "trait_bounds"),
    whereClause, ";"]),
  ("trait_bounds", seq [":", sep1 "+" (choice [type, ref "lifetime",
    ref "higher_ranked_trait_bound"])]),
  ("higher_ranked_trait_bound", seq ["for", ref "type_parameters", type]),
  ("removed_trait_bound", seq ["?", type]),
  ("type_parameters", seq ["<", commaSep1 (attributed (choice [ref "lifetime", tok "metavariable",
    identifier, ref "constrained_type_parameter", ref "optional_type_parameter",
    ref "const_parameter"])), opt ",", ">"]),
  ("const_parameter", seq ["const", identifier, ":", type,
    optSeq ["=", choice [ref "block", identifier, ref "_literal", ref "negative_literal"]]]),
  ("constrained_type_parameter", seq [choice [ref "lifetime", identifier], ref "trait_bounds"]),
  ("optional_type_parameter", seq [choice [identifier, ref "constrained_type_parameter"], "=", type]),
  ("let_declaration", seq ["let", opt "mut", pattern, optSeq [":", type], optSeq ["=", expression],
    optSeq ["else", ref "block"], ";"]),
  ("use_declaration", seq [visibility, "use", field "argument" (ref "_use_clause"), ";"]),
  ("_use_clause", choice [ref "_path", ref "use_as_clause", ref "use_list", ref "scoped_use_list",
    ref "use_wildcard"]),
  ("scoped_use_list", seq [opt (ref "_path"), "::", ref "use_list"]),
  ("use_list", seq ["\x7b", commaItems (ref "_use_clause"), "\x7d"]),
  ("use_as_clause", seq [ref "_path", "as", choice [identifier, "_"]]),
  ("use_wildcard", seq [optSeq [opt (ref "_path"), "::"], "*"]),
  ("parameters", seq ["(", commaItems (seq [opt (ref "attribute_item"), choice [ref "parameter",
    ref "self_parameter", ref "variadic_parameter", "_", type]]), ")"]),
  ("self_parameter", seq [opt "&", opt (ref "lifetime"), opt "mut", "self"]),
  ("variadic_parameter", seq [opt "mut", optSeq [pattern, ":"], "..."]),
  ("parameter", seq [opt "mut", choice [pattern, "self"], ":", type]),
  ("extern_modifier", seq ["extern", opt (tok "string_literal")]),
  ("visibility_modifier", choice ["crate", seq ["pub",
    optSeq ["(", choice ["self", "super", "crate", seq ["in", ref "_path"]], ")"]]])]

def typeRules : List (String × Rule) := [
  ("_type", choice [ref "abstract_type", ref "reference_type", tok "metavariable", ref "pointer_type",
    ref "generic_type", ref "scoped_type_identifier", ref "tuple_type", ref "unit_type",
    ref "array_type", ref "function_type", identifier, ref "macro_invocation", "!",
    ref "dynamic_type", ref "bounded_type", ref "removed_trait_bound", literals primitiveTypes]),
  ("bracketed_type", seq ["<", choice [type, seq [type, "as", type]], ">"]),
  ("lifetime", seq ["'", identifier]),
  ("array_type", seq ["[", type, optSeq [";", expression], "]"]),
  ("for_lifetimes", seq ["for", "<", commaSep1 (ref "lifetime"), opt ",", ">"]),
  ("function_type", seq [opt (ref "for_lifetimes"), choice [identifier, ref "scoped_type_identifier",
    seq [opt (ref "function_modifiers"), "fn"]], ref "parameters", optSeq ["->", type]]),
  ("tuple_type", seq ["(", commaSep1 type, opt ",", ")"]),
  ("unit_type", seq ["(", ")"]),
  ("generic_function", seq [choice [identifier, ref "scoped_identifier", ref "field_expression"], "::",
    ref "type_arguments"]),
  ("generic_type", seq [choice [identifier, reserved, ref "scoped_type_identifier"],
    ref "type_arguments"]),
  ("generic_type_with_turbofish", seq [choice [identifier, ref "scoped_identifier"], "::",
    ref "type_arguments"]),
  ("_bound", choice [ref "lifetime", type, ref "use_bounds"]),
  ("bounded_type", seq [ref "_bound", "+", ref "_bound"]),
  ("use_bounds", seq ["use", "<", commaItems (choice [ref "lifetime", identifier]), ">"]),
  ("type_arguments", seq ["<", commaSep1 (seq [choice [type, ref "type_binding", ref "lifetime",
    ref "_literal", ref "block"], opt (ref "trait_bounds")]), opt ",", ">"]),
  ("type_binding", seq [identifier, opt (ref "type_arguments"), "=", type]),
  ("reference_type", seq ["&", opt (ref "lifetime"), opt "mut", type]),
  ("pointer_type", seq ["*", choice ["const", "mut"], type]),
  ("abstract_type", seq ["impl", optSeq ["for", ref "type_parameters"], choice [identifier,
    ref "scoped_type_identifier", ref "removed_trait_bound", ref "generic_type", ref "function_type",
    ref "tuple_type", ref "bounded_type"]]),
  ("dynamic_type", seq ["dyn", choice [ref "higher_ranked_trait_bound", identifier,
    ref "scoped_type_identifier", ref "generic_type", ref "function_type", ref "tuple_type"]])]

def binaryOperators : List String :=
  ["&&", "||", "&", "|", "^", "==", "!=", "<", "<=", ">", ">=", "<<", ">>", "+", "-", "*", "/", "%"]

def compoundOperators : List String :=
  ["+=", "-=", "*=", "/=", "%=", "&=", "|=", "^=", "<<=", ">>="]

def expressionRules : List (String × Rule) := [
  ("_expression_except_range", choice [seq [literals ["-", "*", "!"], expression],
    ref "reference_expression", seq [expression, "?"], ref "binary_expression",
    ref "assignment_expression", ref "type_cast_expression", ref "call_expression",
    seq ["return", opt expression], seq ["yield", opt expression], ref "_literal", identifier,
    literals primitiveTypes, reserved, "self", ref "scoped_identifier", ref "generic_function",
    seq [expression, ".", "await"], ref "field_expression", ref "array_expression",
    ref "tuple_expression", ref "macro_invocation", seq ["(", ")"], ref "break_expression",
    ref "continue_expression", ref "index_expression", tok "metavariable", ref "closure_expression",
    seq ["(", expression, ")"], ref "struct_expression", ref "_expression_ending_with_block"]),
  ("_expression", choice [ref "_expression_except_range", ref "range_expression"]),
  ("_expression_ending_with_block", choice [seq ["unsafe", ref "block"],
    seq ["async", opt "move", ref "block"], seq ["gen", opt "move", ref "block"],
    seq ["try", ref "block"], ref "block", ref "if_expression", ref "match_expression",
    ref "while_expression", ref "loop_expression", ref "for_expression", ref "const_block"]),
  ("macro_invocation", seq [choice [ref "scoped_identifier", identifier, reserved], "!",
    ref "delim_token_tree"]),
  ("delim_token_tree", bracketed (many (choice [ref "_non_special_token", "$",
    ref "delim_token_tree"]))),
  ("scoped_identifier", seq [opt (choice [ref "_path", ref "bracketed_type",
    ref "generic_type_with_turbofish"]), "::", choice [identifier, "super"]]),
  ("scoped_type_identifier", seq [opt (choice [ref "_path", ref "generic_type_with_turbofish",
    ref "bracketed_type", ref "generic_type"]), "::", identifier]),
  ("range_expression", choice [
    seq [expression, choice ["..", "...", "..="], expression], seq [expression, ".."],
    seq ["..", expression], ".."]),
  ("reference_expression", seq ["&", choice [seq ["raw", choice ["const", "mut"]], opt "mut"],
    expression]),
  ("binary_expression", seq [expression, literals binaryOperators, expression]),
  ("assignment_expression", seq [expression, literals ("=" :: compoundOperators), expression]),
  ("type_cast_expression", seq [expression, "as", type]),
  ("call_expression", seq [ref "_expression_except_range", ref "arguments"]),
  ("arguments", seq ["(", commaItems (attributed expression), ")"]),
  ("array_expression", seq ["[", many (ref "attribute_item"), choice [
    seq [expression, ";", expression], commaItems (attributed expression)], "]"]),
  ("tuple_expression", seq ["(", many (ref "attribute_item"), expression, ",",
    many (seq [expression, ","]), opt expression, ")"]),
  ("struct_expression", seq [choice [identifier, ref "scoped_type_identifier",
    ref "generic_type_with_turbofish"], "\x7b", commaItems (choice [attributed identifier,
      attributed (seq [choice [identifier, tok "integer_literal"], ":", expression]),
      seq ["..", expression]]), "\x7d"]),
  ("if_expression", seq ["if", ref "_condition", ref "block", optSeq ["else",
    choice [ref "block", ref "if_expression"]]]),
  ("let_condition", seq ["let", pattern, "=", expression]),
  ("_let_chain", seq [choice [ref "_let_chain", ref "let_condition", expression], "&&",
    choice [ref "let_condition", expression]]),
  ("_condition", choice [expression, ref "let_condition", ref "_let_chain"]),
  ("match_expression", seq ["match", expression, "\x7b",
    optSeq [many (ref "match_arm"), ref "last_match_arm"], "\x7d"]),
  ("_match_head", seq [many (choice [ref "attribute_item", ref "inner_attribute_item"]), pattern,
    optSeq ["if", ref "_condition"], "=>"]),
  ("match_arm", seq [ref "_match_head", choice [seq [expression, ","],
    ref "_expression_ending_with_block"]]),
  ("last_match_arm", seq [ref "_match_head", expression, opt ","]),
  ("_label_prefix", optSeq [ref "lifetime", ":"]),
  ("while_expression", seq [ref "_label_prefix", "while", ref "_condition", ref "block"]),
  ("loop_expression", seq [ref "_label_prefix", "loop", ref "block"]),
  ("for_expression", seq [ref "_label_prefix", "for", pattern, "in", expression, ref "block"]),
  ("const_block", seq ["const", ref "block"]),
  ("closure_expression", seq [opt "static", opt "async", opt "move", "|",
    commaSep (choice [pattern, ref "parameter"]), "|", choice [
      seq [optSeq ["->", type], ref "block"], expression, "_"]]),
  ("break_expression", seq ["break", opt (ref "lifetime"), opt expression]),
  ("continue_expression", seq ["continue", opt (ref "lifetime")]),
  ("index_expression", seq [expression, "[", expression, "]"]),
  ("field_expression", seq [expression, ".", choice [identifier, tok "integer_literal"]]),
  ("block", seq [ref "_label_prefix", "\x7b", many (ref "_statement"), opt expression, "\x7d"])]

def patternRules : List (String × Rule) := [
  ("_pattern", choice [ref "_literal_pattern", literals primitiveTypes, identifier,
    ref "scoped_identifier", ref "generic_pattern", ref "tuple_pattern", ref "tuple_struct_pattern",
    ref "struct_pattern", reserved, seq ["ref", pattern], ref "slice_pattern",
    seq [identifier, "@", pattern], seq ["&", opt "mut", pattern], "..", seq ["mut", pattern],
    ref "range_pattern", seq [opt pattern, "|", pattern], ref "const_block", ref "macro_invocation",
    "_"]),
  ("generic_pattern", seq [choice [identifier, ref "scoped_identifier"], "::", ref "type_arguments"]),
  ("tuple_pattern", seq ["(", commaItems (choice [pattern, ref "closure_expression"]), ")"]),
  ("slice_pattern", seq ["[", commaItems pattern, "]"]),
  ("tuple_struct_pattern", seq [choice [identifier, ref "scoped_identifier",
    ref "generic_type_with_turbofish"], "(", commaItems pattern, ")"]),
  ("struct_pattern", seq [choice [identifier, ref "scoped_type_identifier"], "\x7b",
    commaItems (choice [ref "field_pattern", ".."]), "\x7d"]),
  ("field_pattern", seq [opt "ref", opt "mut", choice [identifier, seq [identifier, ":", pattern]]]),
  ("_range_bound", choice [ref "_literal_pattern", ref "_path"]),
  ("range_pattern", choice [
    seq [ref "_range_bound", choice ["...", "..=", ".."], ref "_range_bound"],
    seq [ref "_range_bound", ".."], seq [choice ["..=", ".."], ref "_range_bound"]]),
  ("_literal", choice [tok "string_literal", tok "raw_string_literal", tok "char_literal", "true",
    "false", tok "integer_literal", tok "float_literal"]),
  ("_literal_pattern", choice [ref "_literal", ref "negative_literal"]),
  ("negative_literal", seq ["-", choice [tok "integer_literal", tok "float_literal"]]),
  ("_path", choice ["self", literals primitiveTypes, tok "metavariable", "super", "crate", identifier,
    ref "scoped_identifier", reserved])]

def grammar : Grammar := .ofRules (itemRules ++ typeRules ++ expressionRules ++ patternRules)

namespace Literal

open Pattern

def hexEscape : Pattern := alt [noneOf "xu", seq ['u', times 4 hexDigit],
  seq ['u', '{', plus hexDigit, '}'], seq ['x', times 2 hexDigit]]

def integer : Pattern := seq [alt [
  seq [digit, star (char fun c => c.isDigit || c = '_')],
  seq [word "0x", plus (char fun c => isHexDigit c || c = '_')],
  seq [word "0b", plus (oneOf "01_")],
  seq [word "0o", plus (oneOf "01234567_")]],
  opt (alt (["u8", "i8", "u16", "i16", "u32", "i32", "u64", "i64", "u128", "i128", "isize", "usize",
    "f32", "f64"].map word))]

def char : Pattern := seq [opt 'b', '\'', opt (alt [seq ['\\', hexEscape], noneOf "\\'"]), '\'']

def string : Pattern := seq [opt (oneOf "bc"), '"', star (alt [noneOf "\"\\", seq ['\\', hexEscape]]),
  '"']

def metavariable : Pattern := seq ['$', .char fun c => c.isAlpha || c = '_',
  star (.char fun c => Text.isAsciiAlphanumeric c || c = '_')]

def shebang : Pattern := seq ['#', '!', star (oneOf "\r\x0c\t\x0b "),
  opt (seq [noneOf "[\n", star (noneOf "\n")]), '\n']

end Literal

def isDigitOrUnderscore (c : Char) : Bool := c.isDigit || c = '_'

/-- A number with a fraction or an exponent; a dot before a letter or another dot is no fraction. -/
def floatEnd? (text : Grammar.Source) (i : Nat) : Option Nat :=
  if !(charAt text i).isDigit then none
  else
    let whole := span text isDigitOrUnderscore (i + 1)
    let hasFraction := charAt text whole = '.'
    let c := charAt text (whole + 1)
    if hasFraction && (Text.isLetter c || c = '.') then none
    else
      let mantissa := if hasFraction then span text isDigitOrUnderscore (whole + 1) else whole
      let hasExponent := charAt text mantissa = 'e' || charAt text mantissa = 'E'
      let sign := if charAt text (mantissa + 1) = '+' || charAt text (mantissa + 1) = '-'
        then mantissa + 2 else mantissa + 1
      if hasExponent && !isDigitOrUnderscore (charAt text sign) then some mantissa
      else if !hasExponent && !hasFraction then none
      else
        let number := if hasExponent then span text isDigitOrUnderscore sign else mantissa
        let suffix := charAt text number
        if (suffix = 'u' || suffix = 'i' || suffix = 'f') && (charAt text (number + 1)).isDigit then
          some (span text Char.isDigit (number + 1))
        else some number

def rawEnd? (text : Grammar.Source) (hashes : Nat) : Nat → Nat → Option Nat
  | 0, _ => none
  | fuel + 1, i =>
    if text.size ≤ i then none
    else if startsAt text i ('"' :: List.replicate hashes '#') then some (i + 1 + hashes)
    else rawEnd? text hashes fuel (i + 1)

def rawStringEnd? (text : Grammar.Source) (i : Nat) : Option Nat :=
  let r := if charAt text i = 'b' || charAt text i = 'c' then i + 1 else i
  if charAt text r ≠ 'r' then none
  else
    let quote := span text (· = '#') (r + 1)
    if charAt text quote = '"' then rawEnd? text (quote - (r + 1)) (text.size + 1) (quote + 1)
    else none

/-- The end of a comment that may hold comments, `depth` of them being open. -/
def nestedEnd? (text : Grammar.Source) : Nat → Nat → Nat → Option Nat
  | 0, _, _ => none
  | fuel + 1, depth, i =>
    if text.size ≤ i then none
    else if startsAt text i ['*', '/'] then
      if depth ≤ 1 then some (i + 2) else nestedEnd? text fuel (depth - 1) (i + 2)
    else if startsAt text i ['/', '*'] then nestedEnd? text fuel (depth + 1) (i + 2)
    else nestedEnd? text fuel depth (i + 1)

def comment? (text : Grammar.Source) (i : Nat) : Option Nat :=
  (lineComment? text i).or
    (if startsAt text i ['/', '*'] then nestedEnd? text (text.size + 1) 1 (i + 2) else none)

def wordEnd? (text : Grammar.Source) (i : Nat) : Option Nat :=
  let plain := identifierEnd? (fun c => Text.startsIdentifier c || c = '_') Text.continuesIdentifier
  if startsAt text i ['r', '#'] then (plain text (i + 2)).or (plain text i) else plain text i

def lexicon : Lexicon Unit where
  initial := ()
  layout _ _ _ _ := ⟨[], true⟩
  isSpace := isPlainSpace
  comment? _ := comment?
  word := ⟨"identifier", wordEnd?⟩
  classes := [
    patternClass "integer_literal" Literal.integer,
    ⟨"float_literal", floatEnd?⟩,
    patternClass "char_literal" Literal.char,
    patternClass "string_literal" Literal.string,
    ⟨"raw_string_literal", rawStringEnd?⟩,
    patternClass "metavariable" Literal.metavariable,
    patternClass "repetition_separator" (.plus (.noneOf "+*?")),
    patternClass "shebang" Literal.shebang]

def parse? (depth : Nat) (text : Grammar.Source) : Option Tree := Grammar.parse? grammar lexicon depth text

end Reconcile.Source.Rust
