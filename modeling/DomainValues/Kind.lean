import DomainValues.Number.Text

/-!
# Kinds of value types

A value type wraps one primitive and is of one of four *kinds*.  A declaration selects its
kind by a *directive*, an attribute with the kind's name, and configures it by the directive's
arguments, which fill the kind's *parameters* by position or by name.

`Params` is a kind with a value for each of its parameters.
-/

namespace DomainValues

/-- What a value type is. -/
inductive Kind where
  /-- An opaque 128-bit identifier. -/
  | identifier
  /-- Text with an inclusive range of lengths and an optional pattern. -/
  | boundedText
  /-- A 32-bit integer with an inclusive range. -/
  | boundedInteger
  /-- A finite 64-bit real with an inclusive range. -/
  | boundedReal
  deriving DecidableEq, Repr

/-- What a parameter takes. -/
inductive ParameterType where
  /-- A length. -/
  | length
  /-- A 32-bit integer. -/
  | int32
  /-- A finite real; integer literals count. -/
  | real
  /-- The text of a pattern. -/
  | pattern
  deriving DecidableEq, Repr

/-- The words for what a parameter takes. -/
def ParameterType.describe : ParameterType → String
  | length => "a non-negative integer literal"
  | int32 => "an integer literal within the `i32` range"
  | real => "a finite numeric literal"
  | pattern => "a string literal"

/-- A parameter of a kind. -/
structure Parameter where
  /-- The name an argument may give. -/
  name : String
  /-- What it takes. -/
  type : ParameterType
  /-- Whether an argument must fill it. -/
  required : Bool
  deriving DecidableEq, Repr

namespace Kind

/-- The kinds, in their order. -/
def all : List Kind := [identifier, boundedText, boundedInteger, boundedReal]

/-- The name of the directive that selects the kind.  It also stands for the kind in
messages. -/
def directiveName : Kind → String
  | identifier => "identifier"
  | boundedText => "bounded_text"
  | boundedInteger => "bounded_integer"
  | boundedReal => "bounded_real"

/-- The kind that a directive's name selects. -/
def ofDirective? (name : String) : Option Kind :=
  all.find? fun kind => kind.directiveName == name

/-- The name by which generated code refers to the kind. -/
def variantName : Kind → String
  | identifier => "Identifier"
  | boundedText => "BoundedText"
  | boundedInteger => "BoundedInteger"
  | boundedReal => "BoundedReal"

/-- The parameters, in positional order. -/
def parameters : Kind → List Parameter
  | identifier => []
  | boundedText =>
      [⟨"min_length", .length, true⟩, ⟨"max_length", .length, true⟩,
        ⟨"pattern", .pattern, false⟩]
  | boundedInteger => [⟨"min", .int32, true⟩, ⟨"max", .int32, true⟩]
  | boundedReal => [⟨"min", .real, true⟩, ⟨"max", .real, true⟩]

theorem ofDirective?_directiveName (kind : Kind) :
    ofDirective? kind.directiveName = some kind := by
  cases kind <;> decide

end Kind

/-- A kind and the values of its parameters. -/
inductive Params where
  /-- An identifier has no parameters. -/
  | identifier
  /-- The inclusive bounds of the length and the pattern, if any. -/
  | boundedText (minLength maxLength : UInt64) (pattern : Option String)
  /-- The inclusive bounds. -/
  | boundedInteger (min max : Int32)
  /-- The inclusive bounds. -/
  | boundedReal (min max : Binary64)
  deriving DecidableEq, Repr

/-- The kind that is configured. -/
def Params.kind : Params → Kind
  | identifier => .identifier
  | boundedText .. => .boundedText
  | boundedInteger .. => .boundedInteger
  | boundedReal .. => .boundedReal

end DomainValues
