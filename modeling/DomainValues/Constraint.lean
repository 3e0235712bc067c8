import DomainValues.Number.Text

/-!
# Constraints

The checks that a value passes before it becomes a value of a type: length, whole range, real
range.  A value that fails is reported by the name of the type and the reason (`Violation`).
-/

namespace DomainValues

/-- What a value failed. -/
inductive Violation where
  /-- The length of a text is out of its bounds. -/
  | length (length : Nat) (min max : UInt64)
  /-- A text does not match its pattern. -/
  | pattern (pattern : String)
  /-- A whole number is out of its bounds. -/
  | integerRange (value : Int64) (min max : Int32)
  /-- A real is out of its bounds. -/
  | realRange (value min max : Binary64)
  /-- A real is not finite. -/
  | notFinite (value : Binary64)
  /-- The pattern itself does not compile. -/
  | patternUnavailable (pattern : String) (reason : String)
  deriving DecidableEq

/-- The failure in words. -/
def Violation.message : Violation → String
  | length n min max => s!"length {n} is outside {min}..={max}"
  | pattern p => "text does not match " ++ "`" ++ p ++ "`"
  | integerRange value min max => s!"{value.toInt} is outside {min.toInt}..={max.toInt}"
  | realRange value min max =>
      Layout.plain.text value ++ " is outside " ++ Layout.plain.text min ++ "..=" ++
        Layout.plain.text max
  | notFinite value => Layout.plain.text value ++ " is not a finite number"
  | patternUnavailable p reason =>
      "pattern " ++ "`" ++ p ++ "`" ++ " cannot be compiled: " ++ reason

/-- A value that a type refuses. -/
structure ConstraintViolation where
  /-- The name of the type. -/
  typeName : String
  /-- What the value failed. -/
  reason : Violation
  deriving DecidableEq

/-- The refusal in words. -/
def ConstraintViolation.message (v : ConstraintViolation) : String :=
  "invalid " ++ v.typeName ++ ": " ++ v.reason.message

namespace Constraint

/-- The length of a text, in scalar values, is within inclusive bounds. -/
def length (typeName : String) (value : String) (min max : UInt64) :
    Except ConstraintViolation Unit :=
  let n := value.length
  if min.toNat ≤ n ∧ n ≤ max.toNat then .ok ()
  else .error ⟨typeName, .length n min max⟩

/-- A wide whole number as a narrow one, if it fits. -/
def narrow? (value : Int64) : Option Int32 :=
  if Int32.minValue.toInt ≤ value.toInt ∧ value.toInt ≤ Int32.maxValue.toInt then
    some (Int32.ofInt value.toInt)
  else none

/-- A wide whole number that lies within inclusive 32-bit bounds, as a narrow one. -/
def narrowInteger (typeName : String) (value : Int64) (min max : Int32) :
    Except ConstraintViolation Int32 :=
  match (narrow? value).filter fun narrow => decide (min ≤ narrow) && decide (narrow ≤ max) with
  | some narrow => .ok narrow
  | none => .error ⟨typeName, .integerRange value min max⟩

/-- A 32-bit whole number is within inclusive bounds. -/
def integer (typeName : String) (value min max : Int32) : Except ConstraintViolation Unit :=
  (narrowInteger typeName (Int64.ofInt value.toInt) min max).map fun _ => ()

/-- A real is finite and within inclusive bounds. -/
def real (typeName : String) (value min max : Binary64) : Except ConstraintViolation Unit :=
  if !value.isFinite then .error ⟨typeName, .notFinite value⟩
  else if Binary64.le min value && Binary64.le value max then .ok ()
  else .error ⟨typeName, .realRange value min max⟩

end Constraint
end DomainValues
