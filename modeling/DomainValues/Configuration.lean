import DomainValues.Directive
import DomainValues.Pattern

/-!
# Configurations

The arguments of a directive, read as values of the kind's parameters.

The n-th argument without a name, wherever it stands, fills the n-th parameter, and a named one
fills the parameter of its name (`Directive.bind`).  Faults of this assignment are reported in
the order of the arguments, missing arguments after them.  Then the values are read in the order
of the parameters, and last the lower bound is compared with the upper one.

Which patterns compile is for the compiler of patterns to say.  A directive is read with any
(`Directive.paramsBy`), and a pass reads it with `Pattern.compile`.

The sign of a whole number is applied in 64 bits, and this can overflow.  `Directive.params` is the
configuration where numbers wrap around.  A build of the program may check for overflow instead, and
then it stops (`Directive.paramsIn`).
-/

namespace DomainValues

/-- Why the arguments of a directive are refused. -/
inductive ConfigurationFault where
  /-- The bounds are out of order, or a length is negative. -/
  | invalidBounds (detail : String)
  /-- The pattern does not compile. -/
  | invalidPattern (pattern : String) (error : Pattern.CompileError)
  /-- A required parameter is not filled. -/
  | missingArgument (parameter directive : String)
  /-- No parameter has the argument's name. -/
  | unknownArgument (name directive : String)
  /-- A parameter is filled twice. -/
  | duplicateArgument (parameter : String)
  /-- There are more arguments without a name than parameters. -/
  | tooManyArguments (directive : String) (expected found : Nat)
  /-- The literal is not what the parameter takes. -/
  | invalidLiteral (parameter : String) (expected : ParameterType)
  deriving DecidableEq

namespace ConfigurationFault

/-- Text between backticks. -/
def ticked (text : String) : String := "`" ++ text ++ "`"

/-- A directive as it is written. -/
def attributed (directive : String) : String := ticked ("#[" ++ directive ++ "]")

/-- The fault in words. -/
def message : ConfigurationFault → String
  | invalidBounds detail => "invalid bounds: " ++ detail
  | invalidPattern pattern error => "invalid pattern " ++ ticked pattern ++ ": " ++ error.reason
  | missingArgument parameter directive =>
      "missing required argument " ++ ticked parameter ++ " for " ++ attributed directive
  | unknownArgument name directive =>
      "unknown argument " ++ ticked name ++ " for " ++ attributed directive
  | duplicateArgument parameter => "argument " ++ ticked parameter ++ " is given more than once"
  | tooManyArguments directive expected found =>
      attributed directive ++ s!" takes at most {expected} argument(s), found {found}"
  | invalidLiteral parameter expected => ticked parameter ++ " expects " ++ expected.describe

/-- The code of the fault. -/
def code : ConfigurationFault → ErrorCode
  | invalidBounds .. => .v2001
  | invalidPattern .. => .v2002
  | missingArgument .. => .v2003
  | unknownArgument .. => .v2004
  | duplicateArgument .. => .v2005
  | tooManyArguments .. => .v2006
  | invalidLiteral .. => .v2007

end ConfigurationFault

/-- A refused configuration. -/
structure ConfigurationError where
  /-- Why. -/
  fault : ConfigurationFault
  /-- Where. -/
  position : Position
  deriving DecidableEq

/-- The report of a refused configuration of a declaration. -/
def ConfigurationError.diagnostic (e : ConfigurationError) (declaration : String) : Diagnostic :=
  { code := e.fault.code
    message := e.fault.message
    position := e.position
    notes := ["no value type is generated for " ++ ConfigurationFault.ticked declaration]
    help := [] }

namespace Directive

/-! ## Assigning arguments -/

/-- The place of the parameter that an argument fills.  `positional` is the number of arguments
without a name before it. -/
def slotOf (d : Directive) (positional : Nat) (a : Argument) : Except ConfigurationError Nat :=
  let parameters := d.kind.parameters
  match a.name with
  | some name =>
      match parameters.findIdx? fun p => name.text == p.name with
      | some i => .ok i
      | none => .error ⟨.unknownArgument name.text d.kind.directiveName, name.position⟩
  | none =>
      if positional < parameters.length then .ok positional
      else .error ⟨.tooManyArguments d.kind.directiveName parameters.length d.arguments.length,
        a.position⟩

/-- Fills the slots of the parameters with arguments, in their order. -/
def fill (d : Directive) : (positional : Nat) → List (Option Argument) → List Argument →
    Except ConfigurationError (List (Option Argument))
  | _, slots, [] => .ok slots
  | positional, slots, a :: rest => do
      let i ← d.slotOf positional a
      if (slots[i]?.join).isSome then
        .error
          ⟨.duplicateArgument ((d.kind.parameters[i]?.map Parameter.name).getD ""), a.position⟩
      else d.fill (if a.name.isNone then positional + 1 else positional) (slots.set i (some a)) rest

/-- The first required parameter whose slot is empty. -/
def missing? : List Parameter → List (Option Argument) → Option Parameter
  | p :: ps, slot :: slots => if slot.isNone && p.required then some p else missing? ps slots
  | _, _ => none

/-- The arguments in the slots of the parameters.  Every required slot is filled. -/
def bind (d : Directive) : Except ConfigurationError (List (Option Argument)) := do
  let parameters := d.kind.parameters
  let slots ← d.fill 0 (parameters.map fun _ => none) d.arguments
  match missing? parameters slots with
  | some p => .error ⟨.missingArgument p.name d.kind.directiveName, d.position⟩
  | none => .ok slots

/-! ## Reading values -/

/-- The refusal of a literal. -/
def invalidLiteral (p : Parameter) (a : Argument) : ConfigurationError :=
  ⟨.invalidLiteral p.name p.type, a.valuePosition⟩

/-- A length: a whole number below `2 ^ 64`.  A minus sign stands only before zero. -/
def readLength (p : Parameter) (a : Argument) : Except ConfigurationError UInt64 :=
  match a.value with
  | .integer negative numeral _ =>
      match readNat? UInt64.size numeral.toList with
      | none => .error (invalidLiteral p a)
      | some n =>
          if negative ∧ n ≠ 0 then
            .error ⟨.invalidBounds
              (ConfigurationFault.ticked p.name ++ s!" must not be negative (found -{n})"),
              a.valuePosition⟩
          else .ok (UInt64.ofNat n)
  | _ => .error (invalidLiteral p a)

/-- The number of 64 bits that a numeral writes, if it is one. -/
def magnitude? (numeral : String) : Option Int64 :=
  (readInt? Int64.minValue.toInt Int64.maxValue.toInt numeral.toList).map Int64.ofInt

/-- A number of 64 bits, negated if there is a sign.  Numbers wrap around, so the least one stays
itself. -/
def applySign (negative : Bool) (magnitude : Int64) : Int64 :=
  if negative then -magnitude else magnitude

/-- A whole number of 32 bits, with its sign.  The sign is applied in 64 bits. -/
def readInt32 (p : Parameter) (a : Argument) : Except ConfigurationError Int32 :=
  match a.value with
  | .integer negative numeral _ =>
      match magnitude? numeral with
      | none => .error (invalidLiteral p a)
      | some magnitude =>
          let value := applySign negative magnitude
          if Int32.minValue.toInt64 ≤ value ∧ value ≤ Int32.maxValue.toInt64 then .ok value.toInt32
          else .error (invalidLiteral p a)
  | _ => .error (invalidLiteral p a)

/-- The numeral of a number with its sign. -/
def numeral? : ArgumentValue → Option (Bool × String)
  | .integer negative numeral _ => some (negative, numeral)
  | .real negative numeral _ => some (negative, numeral)
  | .text _ => none

/-- A finite real, rounded to the nearest. -/
def readReal (p : Parameter) (a : Argument) : Except ConfigurationError Binary64 :=
  match numeral? a.value with
  | none => .error (invalidLiteral p a)
  | some (negative, numeral) =>
      match Binary64.read? numeral.toList with
      | none => .error (invalidLiteral p a)
      | some magnitude =>
          let value := if negative then magnitude.negate else magnitude
          if value.isFinite then .ok value else .error (invalidLiteral p a)

/-- A compiler of patterns. -/
abbrev PatternCompiler := String → Except Pattern.CompileError Pattern

/-- A pattern that compiles. -/
def readPattern (compile : PatternCompiler) (p : Parameter) (a : Argument) :
    Except ConfigurationError String :=
  match a.value with
  | .text source =>
      match compile source with
      | .ok _ => .ok source
      | .error e => .error ⟨.invalidPattern source e, a.valuePosition⟩
  | _ => .error (invalidLiteral p a)

/-- A value read from the argument of a required parameter. -/
def required {α : Type} (d : Directive)
    (read : Parameter → Argument → Except ConfigurationError α) (p : Parameter) :
    Option Argument → Except ConfigurationError α
  | some a => read p a
  | none => .error ⟨.missingArgument p.name d.kind.directiveName, d.position⟩

/-- A value read from the argument of an optional parameter, if there is one. -/
def optional {α : Type} (read : Parameter → Argument → Except ConfigurationError α)
    (p : Parameter) : Option Argument → Except ConfigurationError (Option α)
  | some a => (read p a).map some
  | none => .ok none

/-- The refusal of bounds that are out of order. -/
def outOfOrder (d : Directive) (lower lowerText upper upperText : String) : ConfigurationError :=
  ⟨.invalidBounds (ConfigurationFault.ticked lower ++ " (" ++ lowerText ++ ") must not exceed " ++
    ConfigurationFault.ticked upper ++ " (" ++ upperText ++ ")"), d.position⟩

/-- The values of the kind's parameters, read from the arguments in their slots. -/
def readParams (d : Directive) (compile : PatternCompiler) (slots : List (Option Argument)) :
    Except ConfigurationError Params :=
  let slot (i : Nat) : Option Argument := slots[i]?.join
  match d.kind with
  | .identifier => .ok .identifier
  | .boundedText => do
      let min ← d.required readLength ⟨"min_length", .length, true⟩ (slot 0)
      let max ← d.required readLength ⟨"max_length", .length, true⟩ (slot 1)
      let pattern ← optional (readPattern compile) ⟨"pattern", .pattern, false⟩ (slot 2)
      if max < min then
        .error (d.outOfOrder "min_length" (toString min.toNat) "max_length" (toString max.toNat))
      else .ok (.boundedText min max pattern)
  | .boundedInteger => do
      let min ← d.required readInt32 ⟨"min", .int32, true⟩ (slot 0)
      let max ← d.required readInt32 ⟨"max", .int32, true⟩ (slot 1)
      if max < min then
        .error (d.outOfOrder "min" (toString min.toInt) "max" (toString max.toInt))
      else .ok (.boundedInteger min max)
  | .boundedReal => do
      let min ← d.required readReal ⟨"min", .real, true⟩ (slot 0)
      let max ← d.required readReal ⟨"max", .real, true⟩ (slot 1)
      if Binary64.lt max min then
        .error (d.outOfOrder "min" (Layout.debug.text min) "max" (Layout.debug.text max))
      else .ok (.boundedReal min max)

/-- The configuration that a directive gives with a compiler of patterns. -/
def paramsBy (d : Directive) (compile : PatternCompiler) : Except ConfigurationError Params := do
  let slots ← d.bind
  d.readParams compile slots

/-- The configuration that a directive gives. -/
def params (d : Directive) : Except ConfigurationError Params := d.paramsBy Pattern.compile

/-! ## Builds -/

end Directive

/-- What a build of the program does where a number overflows. -/
inductive Build where
  /-- The number wraps around. -/
  | wrapping
  /-- The program stops. -/
  | checked
  deriving DecidableEq

/-- What is evaluated in a build: a value, a refusal, or nothing if the program stops. -/
abbrev Evaluation (α : Type) := ExceptT ConfigurationError Option α

/-- What is evaluated without a chance to stop. -/
def Evaluation.of {α : Type} (result : Except ConfigurationError α) : Evaluation α :=
  ExceptT.mk (some result)

namespace Directive

/-- A number of 64 bits, negated if there is a sign, in a build.  The opposite of the least one
overflows. -/
def applySignIn? (b : Build) (negative : Bool) (magnitude : Int64) : Option Int64 :=
  if b = .checked ∧ negative = true ∧ magnitude = Int64.minValue then none
  else some (applySign negative magnitude)

/-- A whole number of 32 bits, with its sign, in a build. -/
def readInt32In (b : Build) (p : Parameter) (a : Argument) : Evaluation Int32 :=
  match a.value with
  | .integer negative numeral _ =>
      match magnitude? numeral with
      | none => throw (invalidLiteral p a)
      | some magnitude => do
          let value ← ExceptT.lift (applySignIn? b negative magnitude)
          if Int32.minValue.toInt64 ≤ value ∧ value ≤ Int32.maxValue.toInt64 then
            pure value.toInt32
          else throw (invalidLiteral p a)
  | _ => throw (invalidLiteral p a)

/-- A whole number of 32 bits that is required, in a build. -/
def requiredIn (d : Directive) (b : Build) (p : Parameter) : Option Argument → Evaluation Int32
  | some a => readInt32In b p a
  | none => throw ⟨.missingArgument p.name d.kind.directiveName, d.position⟩

/-- The configuration that a directive gives in a build. -/
def paramsIn (d : Directive) (b : Build) : Evaluation Params :=
  match d.kind with
  | .boundedInteger => do
      let slots ← Evaluation.of d.bind
      let min ← d.requiredIn b ⟨"min", .int32, true⟩ slots[0]?.join
      let max ← d.requiredIn b ⟨"max", .int32, true⟩ slots[1]?.join
      if max < min then
        throw (d.outOfOrder "min" (toString min.toInt) "max" (toString max.toInt))
      else pure (.boundedInteger min max)
  | _ => Evaluation.of d.params

end Directive
end DomainValues
