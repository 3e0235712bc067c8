import DomainValues.Kind
import DomainValues.Pattern
import DomainValues.Scalar
import DomainValues.Text.Quoted
import DomainValues.Uuid

/-!
# Values

A value type has a name and the parameters of its kind; where it is declared tells it apart from
others of the same name.  A value of it wraps a primitive that meets the constraint that the
parameters state.

Whatever a value is made from, a primitive, a text or a scalar, the constraint is checked first.
The canonical text and the canonical scalar of a value read back as it.
-/

namespace DomainValues

/-- The primitive that a value with given parameters wraps. -/
abbrev Params.Primitive : Params → Type
  | .identifier => Uuid
  | .boundedText .. => String
  | .boundedInteger .. => Int32
  | .boundedReal .. => Binary64

/-- A value type. -/
structure ValueType where
  /-- Where it is declared. -/
  path : String
  /-- Its name. -/
  name : String
  /-- The parameters of its kind. -/
  params : Params
  deriving DecidableEq, Repr

/-- The kind of a value type. -/
def ValueType.kind (t : ValueType) : Kind := t.params.kind

/-- A value of a type. -/
structure Value (t : ValueType) where
  /-- What it wraps. -/
  primitive : t.params.Primitive

/-! ## Primitives -/

namespace Params

instance : (p : Params) → DecidableEq p.Primitive
  | .identifier => inferInstanceAs (DecidableEq Uuid)
  | .boundedText .. => inferInstanceAs (DecidableEq String)
  | .boundedInteger .. => inferInstanceAs (DecidableEq Int32)
  | .boundedReal .. => inferInstanceAs (DecidableEq Binary64)

/-- Whether a text has a match of a pattern, on behalf of a type. -/
def matchPattern (name source text : String) : Except ConstraintViolation Unit :=
  match Pattern.compile source with
  | .ok pattern => if pattern.isMatch text then .ok () else .error ⟨name, .pattern source⟩
  | .error e => .error ⟨name, .patternUnavailable source (e.text source)⟩

/-- Whether a text has a length within bounds, and a match of the pattern if there is one, on
behalf of a type. -/
def validateText (name : String) (min max : UInt64) (pattern : Option String) (text : String) :
    Except ConstraintViolation Unit := do
  Constraint.length name text min max
  match pattern with
  | some source => matchPattern name source text
  | none => pure ()

/-- The primitive that is wrapped for one that meets the constraint, on behalf of a type. -/
def check (name : String) : (p : Params) → p.Primitive → Except ConstraintViolation p.Primitive
  | .identifier, id => .ok id
  | .boundedText min max pattern, text => do
      validateText name min max pattern text
      pure text
  | .boundedInteger min max, i => do
      Constraint.integer name i min max
      pure i
  | .boundedReal min max, x => do
      Constraint.real name x min max
      pure x.withoutNegativeZero

/-- The primitive of which a text is a literal.  Every text is a literal of itself, and a number
may stand between blanks. -/
def read? : (p : Params) → String → Option p.Primitive
  | .identifier, text => Uuid.read? text
  | .boundedText .., text => some text
  | .boundedInteger .., text =>
      (readInt? Int32.minValue.toInt Int32.maxValue.toInt (Text.trim text.toList)).map
        Int32.ofInt
  | .boundedReal .., text => Binary64.read? (Text.trim text.toList)

/-- The canonical text of a primitive. -/
def format : (p : Params) → p.Primitive → String
  | .identifier, id => id.text
  | .boundedText .., text => text
  | .boundedInteger .., i => toString i.toInt
  | .boundedReal .., x => Layout.plain.text x

/-- The text of a primitive as it is shown to programmers. -/
def debug : (p : Params) → p.Primitive → String
  | .identifier, id => id.text
  | .boundedText .., text => Text.quoted text
  | .boundedInteger .., i => toString i.toInt
  | .boundedReal .., x => Layout.debug.text x

/-- The order of primitives. -/
def order : (p : Params) → p.Primitive → p.Primitive → Ordering
  | .identifier, u, v => u.order v
  | .boundedText .., s, t => compare s t
  | .boundedInteger .., i, j => compare i.toInt j.toInt
  | .boundedReal .., x, y => x.total y

/-- The scalar of a primitive. -/
def encode : (p : Params) → p.Primitive → Scalar
  | .identifier, id => .text id.text
  | .boundedText .., text => .text text
  | .boundedInteger .., i => .integer (Int64.ofInt i.toInt)
  | .boundedReal .., x => .real x

end Params

/-! ## Making values -/

namespace Value

variable {t : ValueType}

instance : DecidableEq (Value t) := fun v w =>
  decidable_of_iff (v.primitive = w.primitive)
    ⟨fun h => by cases v; cases w; simp_all, fun h => h ▸ rfl⟩

/-- The value of a primitive, if the primitive meets the constraint. -/
def ofPrimitive (t : ValueType) (primitive : t.params.Primitive) :
    Except ConstraintViolation (Value t) :=
  (t.params.check t.name primitive).map Value.mk

/-- The value of a text: the text must be a literal of the primitive. -/
def ofText (t : ValueType) (text : String) : Except DecodeError (Value t) :=
  match t.params.read? text with
  | none => .error (.malformed t.name text)
  | some primitive => (ofPrimitive t primitive).mapError .violation

/-- The value of a text, without a reason where there is none. -/
def ofText? (t : ValueType) (text : String) : Option (Value t) :=
  match t with
  | ⟨_, _, .identifier⟩ => (Uuid.read? text).map fun id => ⟨id⟩
  | ⟨_, name, .boundedText min max pattern⟩ =>
      (Params.validateText name min max pattern text).toOption.map fun _ => ⟨text⟩
  | ⟨path, name, .boundedInteger min max⟩ =>
      (Params.read? (.boundedInteger min max) text).bind fun i =>
        (ofPrimitive ⟨path, name, .boundedInteger min max⟩ i).toOption
  | ⟨path, name, .boundedReal min max⟩ =>
      (Params.read? (.boundedReal min max) text).bind fun x =>
        (ofPrimitive ⟨path, name, .boundedReal min max⟩ x).toOption

/-- The value of a scalar.  A whole number is compared with the bounds before it is narrowed. -/
def ofScalar (t : ValueType) (s : Scalar) : Except DecodeError (Value t) :=
  match t with
  | ⟨path, name, .identifier⟩ => do ofText ⟨path, name, .identifier⟩ (← s.requireText name)
  | ⟨path, name, .boundedText min max pattern⟩ => do
      ofText ⟨path, name, .boundedText min max pattern⟩ (← s.requireText name)
  | ⟨path, name, .boundedInteger min max⟩ => do
      let wide ← s.requireInteger name
      let narrow ← (Constraint.narrowInteger name wide min max).mapError DecodeError.violation
      (ofPrimitive ⟨path, name, .boundedInteger min max⟩ narrow).mapError .violation
  | ⟨path, name, .boundedReal min max⟩ => do
      let x ← s.requireReal name
      (ofPrimitive ⟨path, name, .boundedReal min max⟩ x).mapError .violation

/-- The value of a document: the document must be a scalar. -/
def ofJson (t : ValueType) (document : Json) : Except DecodeError (Value t) := do
  ofScalar t (← Scalar.ofJson document)

/-- The nil value of an identifier type. -/
def nil? : (t : ValueType) → Option (Value t)
  | ⟨_, _, .identifier⟩ => some ⟨Uuid.nil⟩
  | _ => none

/-! ## Showing values -/

/-- The canonical text. -/
def format (v : Value t) : String := t.params.format v.primitive

/-- The text for programmers: the name of the type and the primitive. -/
def debug (v : Value t) : String := t.name ++ "(" ++ t.params.debug v.primitive ++ ")"

/-- The scalar of a value. -/
def toScalar (v : Value t) : Scalar := t.params.encode v.primitive

/-- The document of a value. -/
def toJson (v : Value t) : Json := v.toScalar.toJson

/-- The order of values. -/
def order (v w : Value t) : Ordering := t.params.order v.primitive w.primitive

/-- Values in their order. -/
def sort (values : List (Value t)) : List (Value t) :=
  values.mergeSort fun v w => v.order w != .gt

end Value
end DomainValues
