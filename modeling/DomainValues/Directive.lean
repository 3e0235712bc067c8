import DomainValues.Kind
import DomainValues.Source.Attribute
import DomainValues.Source.LiteralValue
import DomainValues.Source.SyntaxError

/-!
# Directives

A directive is an attribute whose path is the name of a kind.  Its arguments are a
comma-separated list of literals, each with an optional name in front.  A number may have one
minus sign before it.  Here only the form is read; what the arguments mean is decided when the
configuration is.
-/

namespace DomainValues

/-- The literal of an argument.  The digits of a number are its numeral in base ten. -/
inductive ArgumentValue where
  /-- A whole number. -/
  | integer (negative : Bool) (numeral suffix : String)
  /-- A real number. -/
  | real (negative : Bool) (numeral suffix : String)
  /-- A text. -/
  | text (value : String)
  deriving DecidableEq, Repr

/-- An argument of a directive. -/
structure Argument where
  /-- The name, if it has one. -/
  name : Option Name
  /-- The literal. -/
  value : ArgumentValue
  /-- Where the literal starts, after the minus sign. -/
  valuePosition : Position
  deriving DecidableEq, Repr

/-- Where the argument starts: at its name, or else at its literal. -/
def Argument.position (a : Argument) : Position :=
  match a.name with
  | some name => name.position
  | none => a.valuePosition

/-- A directive. -/
structure Directive where
  /-- The kind it selects. -/
  kind : Kind
  /-- Where its path starts. -/
  position : Position
  /-- Its arguments. -/
  arguments : List Argument
  deriving DecidableEq, Repr

/-- The kind that an attribute selects, if it is a directive. -/
def Attribute.kind? (a : Attribute) : Option Kind :=
  a.name?.bind fun i => Kind.ofDirective? i.text

namespace Directive

open Source

/-- A literal in the place of an argument. -/
inductive Found where
  /-- A literal that denotes this. -/
  | value (v : LiteralValue)
  /-- A truth value. -/
  | truth

/-- Reads the literal of an argument after its minus sign: a literal, `true`, `false`, or one
more minus sign and a number, which are read as one. -/
def readLiteral (closes : Position) :
    List Token → Except SyntaxError (Found × Position × List Token)
  | [] => .error ⟨.endOfInput .literal, closes⟩
  | .literal text p :: rest => .ok (.value (literalValue text), p, rest)
  | .word i p :: rest =>
      if i = .plain "true" ∨ i = .plain "false" then .ok (.truth, p, rest)
      else .error ⟨.missing .literal, p⟩
  | .mark '-' _ p :: .literal text _ :: rest =>
      match numberValue? true text with
      | some v => .ok (.value v, p, rest)
      | none => .error ⟨.missing .literal, p⟩
  | t :: _ => .error ⟨.missing .literal, t.position⟩

/-- The value of an argument: a number with or without its sign, or a text without. -/
def argumentValue (negative : Bool) (found : Found) (p : Position) :
    Except SyntaxError ArgumentValue :=
  match found with
  | .value (.integer numeral suffix) => .ok (.integer negative numeral suffix)
  | .value (.real numeral suffix) => .ok (.real negative numeral suffix)
  | .value (.text value) => if negative then .error ⟨.negatedText, p⟩ else .ok (.text value)
  | _ => .error ⟨.unsupportedLiteral, p⟩

/-- Drops a minus sign and tells whether there was one. -/
def takeMinus : List Token → Bool × List Token
  | .mark '-' _ _ :: rest => (true, rest)
  | tokens => (false, tokens)

/-- Takes a name and the equals sign after it. -/
def takeName : List Token → Option Name × List Token
  | .word i p :: .mark '=' joint q :: rest =>
      if Rule.isName i then (some ⟨i, p⟩, rest)
      else (none, .word i p :: .mark '=' joint q :: rest)
  | tokens => (none, tokens)

/-- Reads one argument. -/
def readArgument (closes : Position) (tokens : List Token) :
    Except SyntaxError (Argument × List Token) := do
  let (name, tokens) := takeName tokens
  let (negative, tokens) := takeMinus tokens
  let (found, p, rest) ← readLiteral closes tokens
  let value ← argumentValue negative found p
  pure (⟨name, value, p⟩, rest)

/-- Reads the arguments up to the end of the row.  The fuel bounds their number. -/
def readArguments (closes : Position) :
    (fuel : Nat) → List Token → Except SyntaxError (List Argument)
  | _, [] => .ok []
  | 0, t :: _ => .error ⟨.missing (.operator ","), t.position⟩
  | fuel + 1, t :: tokens => do
      let (argument, rest) ← readArgument closes (t :: tokens)
      match rest with
      | [] => pure [argument]
      | .mark ',' _ _ :: rest => do
          let more ← readArguments closes fuel rest
          pure (argument :: more)
      | u :: _ => .error ⟨.missing (.operator ","), u.position⟩

/-- Reads an attribute as a directive of a kind, whatever its path. -/
def ofAttribute (kind : Kind) (a : Attribute) : Except SyntaxError Directive :=
  match a.arguments with
  | .none => .ok ⟨kind, a.path.position, []⟩
  | .list _ tokens _ closes =>
      (readArguments closes (tokens.length + 1) tokens).map fun arguments =>
        ⟨kind, a.path.position, arguments⟩
  | .value _ => .error ⟨.directiveValue kind.directiveName, a.path.position⟩

end Directive
end DomainValues
