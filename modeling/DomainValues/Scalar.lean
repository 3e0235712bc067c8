import DomainValues.Constraint
import DomainValues.Json.Value
import DomainValues.Text.Quoted

/-!
# Scalars

A scalar is the one JSON string or number that a value is exchanged as.  Whole numbers that
fit 64 bits with sign are kept apart from reals, so that nothing with a fraction is taken for a
whole number.

A document becomes a scalar by what it is (`Scalar.ofJson`); a document that nobody else needs
gives its text away (`Scalar.takeJson`).
-/

namespace DomainValues

/-- One JSON string or number. -/
inductive Scalar where
  | integer (value : Int64)
  | real (value : Binary64)
  | text (value : String)
  deriving DecidableEq

/-- The shape of a scalar. -/
inductive ScalarShape where
  | integer
  | real
  | text
  deriving DecidableEq, Repr

/-- The word for a shape. -/
def ScalarShape.word : ScalarShape → String
  | integer => "integer"
  | real => "real"
  | text => "text"

/-- Why a scalar or a document holds no value of a type. -/
inductive DecodeError where
  /-- The scalar has the wrong shape. -/
  | unexpectedScalar (typeName : String) (expected found : ScalarShape)
  /-- The text is not a literal of the primitive. -/
  | malformed (typeName : String) (text : String)
  /-- The document is neither a string nor a number. -/
  | notAScalar (found : String)
  /-- The type refuses the value. -/
  | violation (violation : ConstraintViolation)
  deriving DecidableEq

/-- The error in words. -/
def DecodeError.message : DecodeError → String
  | unexpectedScalar typeName expected found =>
      typeName ++ ": expected " ++ expected.word ++ " scalar, found " ++ found.word
  | malformed typeName text => typeName ++ " cannot be parsed from " ++ Text.quoted text
  | notAScalar found => "expected a JSON scalar, found " ++ found
  | violation v => v.message

namespace Scalar

/-- The shape. -/
def shape : Scalar → ScalarShape
  | integer _ => .integer
  | real _ => .real
  | text _ => .text

/-- The text of a text. -/
def asText? : Scalar → Option String
  | text value => some value
  | _ => none

/-- The number of a whole number. -/
def asInteger? : Scalar → Option Int64
  | integer value => some value
  | _ => none

/-- The number of a real, or of a whole number after rounding. -/
def asReal? : Scalar → Option Binary64
  | real value => some value
  | integer value => some (Binary64.ofInt value.toInt)
  | text _ => none

/-- What is there, or the error that it is not of the expected shape. -/
def require (expected : ScalarShape) (typeName : String) (s : Scalar) {α : Type} :
    Option α → Except DecodeError α
  | some a => .ok a
  | none => .error (.unexpectedScalar typeName expected s.shape)

/-- The text, for a type that is exchanged as one. -/
def requireText (typeName : String) (s : Scalar) : Except DecodeError String :=
  s.require .text typeName s.asText?

/-- The whole number, for a type that is exchanged as one. -/
def requireInteger (typeName : String) (s : Scalar) : Except DecodeError Int64 :=
  s.require .integer typeName s.asInteger?

/-- The real, for a type that is exchanged as one. -/
def requireReal (typeName : String) (s : Scalar) : Except DecodeError Binary64 :=
  s.require .real typeName s.asReal?

/-! ## Documents -/

/-- The document of a scalar.  A real that is not finite has none and becomes `null`. -/
def toJson : Scalar → Json
  | integer value => .integer value.toInt
  | real value => if value.isFinite then .real value else .null
  | text value => .string value

/-- The scalar that a document is.  A whole number beyond 64 bits with sign is a real. -/
def ofJson (document : Json) : Except DecodeError Scalar :=
  match document with
  | .string value => .ok (text value)
  | .null => .error (.notAScalar "null")
  | .bool _ => .error (.notAScalar "a boolean")
  | .array _ => .error (.notAScalar "an array")
  | .object _ => .error (.notAScalar "an object")
  | number =>
      match number.int64?, number.real? with
      | some i, _ => .ok (integer i)
      | none, some x => .ok (real x)
      | none, none => .error (.notAScalar "number")

/-- The scalar that is taken out of a document: a text as it stands, anything else by what it
is. -/
def takeJson (document : Json) : Except DecodeError Scalar :=
  match document with
  | .string value => .ok (text value)
  | other => ofJson other

/-- The JSON text of the scalar. -/
def display (s : Scalar) : String := s.toJson.text

end Scalar
end DomainValues
