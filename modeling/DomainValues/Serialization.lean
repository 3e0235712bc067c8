import DomainValues.Value

/-!
# Serialization

The serialization library writes a value as the document of its primitive and reads a primitive
from a document before the constraint is checked.  Each kind of primitive says which documents it
is read from; what it refuses is described by what the document is.

A scalar is written as the document of what it holds, and is read as the first shape that takes
the document (`Scalar.deserialize`).
-/

namespace DomainValues

/-- What a document is, in words. -/
def Json.describe : Json → String
  | null => "null"
  | bool value => "boolean `" ++ (if value then "true" else "false") ++ "`"
  | integer value => s!"integer `{value}`"
  | real value => "floating point `" ++ Layout.pointed.text value ++ "`"
  | string value => "string " ++ Text.quoted value
  | array _ => "sequence"
  | object _ => "map"

/-- Why a document holds no value of a type. -/
inductive ReadError where
  /-- The document is of another sort than the primitive. -/
  | wrongType (found : String) (expected : String)
  /-- The number is out of the range of the primitive. -/
  | outOfRange (found : String) (expected : String)
  /-- No shape of a scalar takes the document. -/
  | noShape
  /-- The type refuses the primitive. -/
  | refused (error : DecodeError)
  deriving DecidableEq

/-- The error in words. -/
def ReadError.message : ReadError → String
  | wrongType found expected => "invalid type: " ++ found ++ ", expected " ++ expected
  | outOfRange found expected => "invalid value: " ++ found ++ ", expected " ++ expected
  | noShape => "data did not match any variant of untagged enum Scalar"
  | refused e => e.message

namespace Json

/-- The text that a document is. -/
def readText : Json → Except ReadError String
  | string value => .ok value
  | document => .error (.wrongType document.describe "a string")

/-- The whole number that a document is, within the limits of a type of whole numbers. -/
def readWhole (type : String) (least greatest : Int) : Json → Except ReadError Int
  | integer value =>
      if least ≤ value ∧ value ≤ greatest then .ok value
      else .error (.outOfRange (integer value).describe type)
  | document => .error (.wrongType document.describe type)

/-- The whole number of 32 bits that a document is. -/
def readInt32 (document : Json) : Except ReadError Int32 :=
  (document.readWhole "i32" Int32.minValue.toInt Int32.maxValue.toInt).map Int32.ofInt

/-- The whole number of 64 bits that a document is. -/
def readInt64 (document : Json) : Except ReadError Int64 :=
  (document.readWhole "i64" Int64.minValue.toInt Int64.maxValue.toInt).map Int64.ofInt

/-- The real that a document is; whole numbers are rounded. -/
def readReal : Json → Except ReadError Binary64
  | integer value => .ok (Binary64.ofInt value)
  | real value => .ok value
  | document => .error (.wrongType document.describe "f64")

end Json

/-- The shapes, in the order in which a document is tried for them. -/
def ScalarShape.all : List ScalarShape := [.integer, .real, .text]

/-- The scalar of a shape that a document is. -/
def ScalarShape.read (shape : ScalarShape) (document : Json) : Except ReadError Scalar :=
  match shape with
  | .integer => document.readInt64.map Scalar.integer
  | .real => document.readReal.map Scalar.real
  | .text => document.readText.map Scalar.text

namespace Scalar

/-- The document that the serialization library writes. -/
def serialize : Scalar → Json
  | integer value => .integer value.toInt
  | real value => if value.isFinite then .real value else .null
  | text value => .string value

/-- The scalar that the serialization library reads: the one of the first shape that takes the
document. -/
def deserialize (document : Json) : Except ReadError Scalar :=
  match ScalarShape.all.findSome? fun shape => (shape.read document).toOption with
  | some s => .ok s
  | none => .error .noShape

end Scalar

namespace Value

/-- The document that the serialization library writes. -/
def serialize {t : ValueType} (v : Value t) : Json :=
  match t, v with
  | ⟨_, _, .identifier⟩, ⟨id⟩ => .string id.text
  | ⟨_, _, .boundedText ..⟩, ⟨text⟩ => .string text
  | ⟨_, _, .boundedInteger ..⟩, ⟨i⟩ => .integer i.toInt
  | ⟨_, _, .boundedReal ..⟩, ⟨x⟩ => if x.isFinite then .real x else .null

/-- The value that the serialization library reads. -/
def deserialize (t : ValueType) (document : Json) : Except ReadError (Value t) :=
  match t with
  | ⟨path, name, .identifier⟩ => do
      (ofText ⟨path, name, .identifier⟩ (← document.readText)).mapError .refused
  | ⟨path, name, .boundedText min max pattern⟩ => do
      let text ← document.readText
      (ofPrimitive ⟨path, name, .boundedText min max pattern⟩ text).mapError fun e =>
        .refused (.violation e)
  | ⟨path, name, .boundedInteger min max⟩ => do
      let i ← document.readInt32
      (ofPrimitive ⟨path, name, .boundedInteger min max⟩ i).mapError fun e =>
        .refused (.violation e)
  | ⟨path, name, .boundedReal min max⟩ => do
      let x ← document.readReal
      (ofPrimitive ⟨path, name, .boundedReal min max⟩ x).mapError fun e =>
        .refused (.violation e)

end Value
end DomainValues
