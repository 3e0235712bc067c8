import DomainValues.Diagnostic

/-!
# Syntax errors

What the readers of directive arguments and of pass options report: a cause and its place.  At
the end of a row of tokens the place is that of the bracket that closes it.
-/

namespace DomainValues

/-- What a reader looked for. -/
inductive Expected where
  /-- A literal. -/
  | literal
  /-- An identifier. -/
  | identifier
  /-- An option. -/
  | option
  /-- A name in the path of an option. -/
  | segment
  /-- An operator. -/
  | operator (text : String)
  deriving DecidableEq, Repr

/-- What a reader looked for, in words. -/
def Expected.words : Expected → String
  | literal => "literal"
  | identifier => "identifier"
  | option => "nested attribute"
  | segment => "ident"
  | operator text => "`" ++ text ++ "`"

/-- Why tokens were refused. -/
inductive SyntaxFault where
  /-- Something else stands there. -/
  | missing (expected : Expected)
  /-- The tokens end there. -/
  | endOfInput (expected : Expected)
  /-- A keyword stands in the place of an identifier. -/
  | keyword (word : String)
  /-- A minus sign before a text. -/
  | negatedText
  /-- A literal that no argument takes. -/
  | unsupportedLiteral
  /-- A directive with a value, given by the directive's name. -/
  | directiveValue (directive : String)
  /-- Something other than a name, in the place of an option's name. -/
  | optionToken
  /-- A literal in the place of an option's name. -/
  | optionLiteral
  /-- A path that depends on where it stands. -/
  | relativeRuntime
  /-- A name that no option has. -/
  | unknownOption (path : String)
  deriving DecidableEq, Repr

/-- The cause in words. -/
def SyntaxFault.message : SyntaxFault → String
  | missing expected => "expected " ++ expected.words
  | endOfInput expected => "unexpected end of input, expected " ++ expected.words
  | keyword word => "expected identifier, found keyword `" ++ word ++ "`"
  | negatedText => "a string literal cannot be negated"
  | unsupportedLiteral => "expected an integer, float, or string literal"
  | directiveValue directive =>
      "expected `#[" ++ directive ++ "]` or `#[" ++ directive ++ "(...)]`"
  | optionToken => "unexpected token in nested attribute, expected ident"
  | optionLiteral => "unexpected literal in nested attribute, expected ident"
  | relativeRuntime => "`runtime` must be an absolute path (`::name` or `crate::...`)"
  | unknownOption path =>
      "unknown option `" ++ path ++ "`; expected `registry` or `runtime`"

/-- A refusal and its place. -/
structure SyntaxError where
  /-- The cause. -/
  fault : SyntaxFault
  /-- The place. -/
  position : Position
  deriving DecidableEq, Repr

/-- The report of a refusal under a code. -/
def SyntaxError.diagnostic (code : ErrorCode) (e : SyntaxError) : Diagnostic :=
  { code, message := e.fault.message, position := e.position, notes := [], help := [] }

end DomainValues
