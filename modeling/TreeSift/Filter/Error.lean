import TreeSift.Expr.Parse
import TreeSift.Filter.Context

/-!
# TreeSift.Filter.Error

Why a text is no usable filter, and the words for it.

1. A text fails to decode, to be read as tokens, to follow the grammar, or to compile, in that
   order; the first failure is the one reported.
2. Each cause has one wording.  Positions in it are byte offsets.
-/

namespace TreeSift

/-- Why a filter cannot be had. -/
inductive FilterError where
  /-- The text cannot be decoded or read as tokens. -/
  | unreadable (e : LexError)
  /-- The tokens leave the grammar. -/
  | ungrammatical (e : ParseError)
  | unknownOperator (op : Operator)
  | unknownFunction (name : String)
  | wrongArity (name : String) (accepted : Arity) (given : Nat)
  | unboundParameter (name : String)
  | invalidArgument (op : Operator) (reason : Refusal)
  | unsupportedEncoding (label : String)
deriving Repr, Inhabited

namespace Expectation

/-- What was expected, in words. -/
def message : Expectation → String
  | closingBracket => "closing ']'"
  | pathSegment => "a path segment"
  | pathCharacter => "a path character"
  | escapeSequence => "an escape sequence"
  | validEscape => "a valid escape sequence"
  | hexDigits => "four hex digits after \\u"
  | closingQuote => "closing quote"
  | parameterName => "a parameter name after '$'"
  | digit => "a digit"
  | fractionDigit => "a digit after the decimal point"
  | anyToken => "an operator, operand or keyword"
  | validText encoding => "valid " ++ encoding ++ " text"

end Expectation

namespace Wanted

/-- What was wanted, in words. -/
def message : Wanted → String
  | condition => "a comparison or a parenthesized group"
  | connective => "'and', 'or' or end of input"
  | operatorOrConnective => "a comparison operator, 'and', 'or' or end of input"
  | validDate => "a valid date"
  | number => "a number"
  | operand => "an operand"
  | openParen => "'('"
  | closeParen => "')'"
  | commaOrCloseParen => "',' or ')'"

end Wanted

namespace Found

/-- A token inside a message. -/
def describe : Lexeme → String
  | .string t => "string '" ++ t ++ "'"
  | .path t => "path [" ++ t ++ "]"
  | .parameter t => "parameter $" ++ t
  | .function t => "function " ++ t ++ "()"
  | l => "'" ++ l.text ++ "'"

/-- What stood there, in words. -/
def message : Found → String
  | endOfInput => "end of input"
  | token l => describe l
  | bareOperand e => "bare operand " ++ String.ofList e.render

end Found

namespace LexError

/-- The character found, in words. -/
def foundMessage : Option Char → String
  | none => "end of input"
  | some c => "'" ++ String.ofList (Quoted.plain c) ++ "'"

/-- The error in words. -/
def message (e : LexError) : String :=
  "lex error at offset " ++ toString e.position ++ ": expected " ++ e.expected.message ++
    ", found " ++ foundMessage e.found

end LexError

namespace ParseError

/-- The error in words. -/
def message (e : ParseError) : String :=
  "parse error at offset " ++ toString e.position ++ ": expected " ++ e.expected.message ++
    ", found " ++ e.found.message

end ParseError

namespace Arity

/-- The accepted numbers, in words. -/
def message (a : Arity) : String :=
  if a.least = a.upper then toString a.least
  else toString a.least ++ " to " ++ toString a.upper

end Arity

namespace Refusal

/-- The reason in words.  A text that is no pattern is only named: the account of what is wrong with
it would be the engine's. -/
def message : Refusal → String
  | because words => words
  | noPattern text => "not a pattern: " ++ String.ofList text

end Refusal

namespace FilterError

/-- The error in words. -/
def message : FilterError → String
  | unreadable e => e.message
  | ungrammatical e => e.message
  | unknownOperator op => "no comparison registered for operator '" ++ op.symbol ++ "'"
  | unknownFunction name => "no function registered with name '" ++ name ++ "'"
  | wrongArity name accepted given =>
    "function '" ++ name ++ "()' takes " ++ accepted.message ++ " argument(s), got " ++
      toString given
  | unboundParameter name => "parameter '$" ++ name ++ "' is not bound"
  | invalidArgument op reason => "invalid argument for '" ++ op.symbol ++ "': " ++ reason.message
  | unsupportedEncoding label => "unsupported character encoding '" ++ label ++ "'"

end FilterError

namespace Expr

/-- The expression a text denotes. -/
def ofText (text : List Char) : Except FilterError Expr :=
  match TokenList.ofText text with
  | .error e => .error (.unreadable e)
  | .ok tokens =>
    match ofTokens tokens with
    | .error e => .error (.ungrammatical e)
    | .ok e => .ok e

end Expr

end TreeSift
