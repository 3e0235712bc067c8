import DomainValues.Code.Vocabulary
import DomainValues.Configuration
import DomainValues.Declaration
import DomainValues.Options

/-!
# Implementations

The implementation of a declaration is the code of its type, made from the values of the
parameters of its kind.

Every generated type is a struct around a primitive.  Whatever the primitive is, the type shows
itself as text, reads itself from text, converts to and from the primitive, and tells the runtime
its name and kind.  The kinds differ in the rest:

* an identifier wraps 128 bits that mean nothing; building one never fails, a new one is random and
  the nil one is the default;
* a bounded text wraps a text whose length in scalar values lies between two bounds, both included,
  and if a pattern is given, some part of the text must match it;
* a bounded number wraps a whole number of 32 bits or a finite real between two bounds, both
  included, and its text may stand between blanks.

Reals that are not finite are never wrapped and negative zero is wrapped as zero, so that order,
equality and hash of the wrapped bits agree.
-/

namespace DomainValues

open Code

/-! ## Parts of every implementation -/

/-- A declaration and the options it is generated under. -/
structure Target where
  /-- The declaration. -/
  declaration : Declaration
  /-- The path of the runtime. -/
  runtime : List Token
  /-- The path of what only generated code uses. -/
  hidden : List Token
  deriving Repr

namespace Target

/-- A declaration under options. -/
def of (d : Declaration) (o : Options) : Target := ⟨d, o.runtime, o.hidden⟩

/-- The identifier of the declared type. -/
def name (t : Target) : Ident := t.declaration.name.ident

/-- The declared type. -/
def type (t : Target) : TypeExpr := generatedType t.name

/-- The name of the declared type, as text. -/
def nameText (t : Target) : Expr := textOf t.declaration.name.bare

/-- A type of the runtime. -/
def provided (t : Target) (name : Ident) : TypeExpr := runtimeType t.runtime [name]

/-- A function of the runtime. -/
def helper (t : Target) (segments : List Ident) : Expr := runtimeItem t.runtime segments

/-- A value, or a violation. -/
def checked (t : Target) (value : TypeExpr) : TypeExpr :=
  result value (t.provided "ConstraintViolation")

/-- The error of a text that is no literal of the primitive. -/
def malformed (t : Target) : Expr :=
  .call (t.helper ["DecodeError", "malformed"]) [t.nameText, var "text"]

/-- A violation as the error of decoding. -/
def fromViolation (t : Target) : Expr := t.helper ["DecodeError", "from"]

/-- The struct around the primitive, with the user's attributes. -/
def wrapper (t : Target) (derives : List String) (field : TypeExpr) : Code.Item :=
  .struct t.declaration.attributes .nothing derives t.declaration.visibility t.name (some field)

/-- The function that writes the text of something inside. -/
def showing (inner : Expr) : Function :=
  (fn "fmt" [("f", refMut (core ["fmt", "Formatter"] [.lifetime "_"]))] (core ["fmt", "Result"] [])
    (.ofExpr (.call (coreItem ["fmt", "Display", "fmt"]) [inner, var "f"]))).shared

/-- The canonical text is that of something inside. -/
def display (t : Target) (inner : Expr) : Code.Item :=
  implement (core ["fmt", "Display"] []) t.type [showing inner]

/-- The function that reads a text, with a reason for failure. -/
def reading (body : Block) : Function :=
  fn "from_str" [("text", ref str)] (result selfType (associated "Err")) body

/-- Reading a text, with a reason for failure. -/
def fromText (t : Target) (body : Block) : Code.Item :=
  implement (core ["str", "FromStr"] []) t.type
    [.alias "Err" (t.provided "DecodeError"), reading body]

/-- The function that leaves the check of a primitive to the one that makes a value of it. -/
def converting (primitive : TypeExpr) : Function :=
  fn "try_from" [("value", primitive)] (result selfType (associated "Error"))
    (Expr.call (selfItem "new") [var "value"])

/-- Conversions to the primitive and, with a check, from it. -/
def conversions (t : Target) (primitive : TypeExpr) : List Code.Item :=
  [implement (core ["convert", "From"] [t.type]) primitive
    [fn "from" [("value", t.type)] selfType (Expr.wrapped (var "value"))],
   implement (core ["convert", "TryFrom"] [primitive]) t.type
    [.alias "Error" (t.provided "ConstraintViolation"), converting primitive]]

/-- The function that leaves reading to the one that the type has on its own. -/
def reparsing (t : Target) : Function :=
  fn "try_parse" [("text", ref str)] (option selfType)
    (Expr.call (generatedItem t.name "try_parse") [var "text"])

/-- The function that gives the primitive of a value. -/
def unwrapping (toPrimitive : Expr) : Function :=
  (fn "to_primitive" [] (associated "Primitive") toPrimitive).shared

/-- The function that makes a value of a primitive. -/
def wrapping (t : Target) (fromPrimitive : Expr) : Function :=
  (fn "try_from_primitive" [("value", associated "Primitive")] (t.checked selfType)
    fromPrimitive).wide

/-- What the runtime knows of the type: the primitive, the name, the kind, and how to get from
text and the primitive to the type and back. -/
def valueType (t : Target) (primitive : TypeExpr) (toPrimitive fromPrimitive : Expr) : Code.Item :=
  implement (t.provided "ValueType") t.type
    [.alias "Primitive" primitive,
     .constant none false "NAME" (refStatic str) t.nameText,
     .constant none false "KIND" (t.provided "ValueKind")
      (t.helper ["ValueKind", .plain t.declaration.directive.kind.variantName]),
     t.reparsing, unwrapping toPrimitive, t.wrapping fromPrimitive]

end Target

/-- A generated type. -/
structure Implementation where
  /-- Its name. -/
  name : Name
  /-- Who may name it. -/
  visibility : Visibility
  /-- The names of the modules around it. -/
  scope : List Name
  /-- Its kind. -/
  kind : Kind
  /-- Its code. -/
  code : List Code.Item
  deriving Repr

namespace Implementation

/-! ## Identifiers -/

/-- A function of the runtime's identifiers. -/
def ofUuid (t : Target) (name : Ident) (arguments : List Expr) : Expr :=
  .call (t.helper ["Uuid", name]) arguments

/-- The function that reads an identifier. -/
def identifierParse (t : Target) : Function :=
  (fn "try_parse" [("text", ref str)] (option selfType)
    (on (on (ofUuid t "parse_str" [var "text"]) "ok" []) "map" [.path .self []])
    ).exported.documented "Parse the textual UUID form; `None` if it is not one."

/-- How an identifier is read, with a reason for failure. -/
def identifierRead (t : Target) : Block :=
  on (.call (selfItem "try_parse") [var "text"]) "ok_or_else" [.closure .nothing t.malformed]

/-- The code of an identifier type. -/
def identifier (t : Target) : List Code.Item :=
  let uuid := t.provided "Uuid"
  let nil := wrap (ofUuid t "nil" [])
  let random := wrap (ofUuid t "new_v4" [])
  [t.wrapper ["Clone", "Copy", "PartialEq", "Eq", "Hash", "PartialOrd", "Ord", "Debug"] uuid,
   inherent t.type
    [.constant (some "The nil identifier, distinct from every generated one.") true "EMPTY" selfType
      nil,
     ((fn "new" [] selfType random).exported).documented "A fresh random identifier.",
     (fn "empty" [] selfType (selfItem "EMPTY")).exported.inConstants,
     (fn "from_uuid" [("uuid", uuid)] selfType (wrap (var "uuid"))).exported.inConstants,
     (fn "is_empty" [] (primitive "bool") (on own "is_nil" [])).shared.exported,
     (fn "as_uuid" [] (ref uuid) (Expr.borrow own)).shared.exported.inConstants,
     (fn "into_inner" [] uuid own).owned.exported.inConstants,
     identifierParse t],
   implement (core ["default", "Default"] []) t.type [fn "default" [] selfType (selfItem "EMPTY")],
   implement (core ["convert", "From"] [uuid]) t.type
    [fn "from" [("uuid", uuid)] selfType (wrap (var "uuid"))],
   implement (core ["convert", "From"] [t.type]) uuid
    [fn "from" [("value", t.type)] selfType (Expr.wrapped (var "value"))],
   implement (t.provided "IdentifierValue") t.type
    [.constant none false "EMPTY" selfType nil,
     fn "generate" [] selfType random,
     (fn "as_uuid" [] (ref uuid) (Expr.borrow own)).shared],
   t.display (.borrow (on own "hyphenated" [])),
   t.fromText (identifierRead t),
   t.valueType uuid own (success (wrap (var "value")))]

/-! ## Bounded text -/

/-- The constants that state the constraint.  The flag makes them public. -/
def textConstants (isPublic : Bool) (min max : UInt64) (pattern : Option String) : List Member :=
  let known := match pattern with
    | some source => Expr.call (coreItem ["option", "Option", "Some"]) [textOf source]
    | none => coreItem ["option", "Option", "None"]
  [.constant none isPublic "MIN_LENGTH" (primitive "usize") (.literal (.length min)),
   .constant none isPublic "MAX_LENGTH" (primitive "usize") (.literal (.length max)),
   .constant none isPublic "PATTERN" (option (refStatic str)) known]

/-- The statements that check the pattern, if there is one. -/
def patternCheck (t : Target) : Option String → List Statement
  | none => []
  | some source =>
      [.static "PATTERN" (runtimeType t.hidden ["CompiledPattern"])
        (.call (runtimeItem t.hidden ["CompiledPattern", "new"]) [textOf source]),
       .perform (.propagate (on (var "PATTERN") "check" [t.nameText, var "value"]))]

/-- The function that checks a text. -/
def textValidate (t : Target) (min max : UInt64) (pattern : Option String) : Function :=
  fn "validate" [("value", ref str)] (t.checked .unit)
    ⟨.perform (.propagate (.call (t.helper ["check", "length"])
        [t.nameText, var "value", .literal (.length min), .literal (.length max)])) ::
      patternCheck t pattern,
     some (success .unit)⟩

/-- A call of the check. -/
def validated (value : Expr) : Expr := .call (selfItem "validate") [value]

/-- The function that makes a value of a text. -/
def textNew (t : Target) : Function :=
  (fn "new" [("value", .any (core ["convert", "Into"] [string]))] (t.checked selfType)
    ⟨[.bind "value" (on (var "value") "into" []),
      .perform (.propagate (validated (.borrow (var "value"))))],
     some (success (wrap (var "value")))⟩).exported.wide.documented "Validate and wrap `value`."

/-- The function that reads a text. -/
def textParse : Function :=
  (fn "try_parse" [("text", ref str)] (option selfType)
    (on (on (validated (var "text")) "ok" []) "map"
      [.closure .unit (wrap (on (var "text") "to_owned" []))])).exported.documented
    "`None` if `text` violates the length or pattern constraint."

/-- How a text is read, with a reason for failure. -/
def textRead (t : Target) : Block :=
  on (.call (selfItem "new") [var "text"]) "map_err" [t.fromViolation]

/-- The code of a bounded text type. -/
def boundedText (t : Target) (min max : UInt64) (pattern : Option String) : List Code.Item :=
  let asText := (fn "as_str" [] (ref str) (Expr.borrow own)).shared
  [t.wrapper ["Clone", "PartialEq", "Eq", "Hash", "PartialOrd", "Ord", "Debug"] string,
   inherent t.type
    (textConstants true min max pattern ++
    ([textNew t, textParse, asText.exported, (fn "into_inner" [] string own).owned.exported,
      textValidate t min max pattern] : List Member)),
   implement (core ["convert", "AsRef"] [str]) t.type
    [(fn "as_ref" [] (ref str) (Expr.borrow own)).shared],
   implement (t.provided "TextValue") t.type
    (textConstants false min max pattern ++ [.function asText]),
   t.display (on own "as_str" []),
   t.fromText (textRead t)] ++
  t.conversions string ++
  [t.valueType string (.call (coreItem ["clone", "Clone", "clone"]) [.borrow own])
    (.call (selfItem "new") [var "value"])]

/-! ## Bounded numbers -/

/-- What the two sorts of numbers differ in. -/
structure NumberForm where
  /-- The primitive. -/
  wrapped : Ident
  /-- The trait of the runtime. -/
  trait : Ident
  /-- The check of the runtime. -/
  check : Ident
  /-- The documentation of the check. -/
  doc : String
  /-- The lower bound. -/
  min : Literal
  /-- The upper bound. -/
  max : Literal
  /-- What is wrapped for a value. -/
  kept : Expr

namespace NumberForm

/-- The whole numbers within bounds. -/
def integer (min max : Int32) : NumberForm :=
  { wrapped := "i32", trait := "IntegerValue", check := "integer"
    doc := "Wrap `value` if it lies within `MIN..=MAX`.", min := .int32 min, max := .int32 max
    kept := var "value" }

/-- The finite reals within bounds. -/
def real (min max : Binary64) : NumberForm :=
  { wrapped := "f64", trait := "RealValue", check := "real"
    doc := "Wrap `value` if it is finite and lies within `MIN..=MAX`.", min := .real min
    max := .real max, kept := .infixed "+" (var "value") (.literal (.decimal "0.0")) }

variable (form : NumberForm)

/-- The bounds as constants.  The flag makes them public. -/
def constants (isPublic : Bool) : List Member :=
  [.constant none isPublic "MIN" (primitive form.wrapped) (.literal form.min),
   .constant none isPublic "MAX" (primitive form.wrapped) (.literal form.max)]

/-- The literal of the primitive in a text between blanks. -/
def parsed : Expr := .method (on (var "text") "trim" []) "parse" [primitive form.wrapped] []

/-- The function that makes a value of a number. -/
def new (t : Target) : Function :=
  (fn "new" [("value", primitive form.wrapped)] (t.checked selfType)
    ⟨[.perform (.propagate (.call (t.helper ["check", form.check])
      [t.nameText, var "value", .literal form.min, .literal form.max]))],
     some (success (wrap form.kept))⟩).exported.documented form.doc

/-- The function that reads a number. -/
def parse : Function :=
  (fn "try_parse" [("text", ref str)] (option selfType)
    (on (on form.parsed "ok" []) "and_then"
      [.closure (.named "value") (on (.call (selfItem "new") [var "value"]) "ok" [])])
    ).exported.documented
    "Parse decimal text (surrounding whitespace ignored) and check the bounds."

/-- How a number is read, with a reason for failure. -/
def read (t : Target) : Block :=
  ⟨[.bind "value" (.propagate (on form.parsed "map_err" [.closure .ignored t.malformed]))],
   some (on (.call (selfItem "new") [var "value"]) "map_err" [t.fromViolation])⟩

end NumberForm

/-- What a number has on its own. -/
def numberInherent (t : Target) (form : NumberForm) : Code.Item :=
  inherent t.type
    (form.constants true ++
    ([form.new t, form.parse,
      (fn "value" [] (primitive form.wrapped) own).owned.exported.inConstants] : List Member))

/-- What the runtime's trait asks of a number. -/
def numberTrait (t : Target) (form : NumberForm) : Code.Item :=
  implement (t.provided form.trait) t.type
    (form.constants false ++ [.function (fn "value" [] (primitive form.wrapped) own).shared])

/-- What every number has apart from that. -/
def numberText (t : Target) (form : NumberForm) : List Code.Item :=
  [t.display (.borrow own), t.fromText (form.read t)] ++
  t.conversions (primitive form.wrapped) ++
  [t.valueType (primitive form.wrapped) own (.call (selfItem "new") [var "value"])]

/-- The code of a bounded integer type. -/
def boundedInteger (t : Target) (min max : Int32) : List Code.Item :=
  let form := NumberForm.integer min max
  [t.wrapper ["Clone", "Copy", "PartialEq", "Eq", "Hash", "PartialOrd", "Ord", "Debug"]
    (primitive "i32"),
   numberInherent t form, numberTrait t form] ++ numberText t form

/-- The bits of a real. -/
def bits (real : Expr) : Expr := on (.wrapped real) "to_bits" []

/-- The other operand of a comparison. -/
def other : String × TypeExpr := ("other", ref selfType)

/-- The type of what a comparison finds. -/
def ordering : TypeExpr := core ["cmp", "Ordering"] []

/-- The function that tells whether two reals are the same. -/
def realEqual : Function :=
  (fn "eq" [other] (primitive "bool")
    (Expr.infixed "==" (bits .receiver) (bits (var "other")))).shared

/-- The function that compares two reals. -/
def realCompare : Function :=
  (fn "cmp" [other] ordering (on own "total_cmp" [.borrow (.wrapped (var "other"))])).shared

/-- The function that compares two reals, which can always be compared. -/
def realPartialCompare : Function :=
  (fn "partial_cmp" [other] (option ordering)
    (Expr.call (coreItem ["option", "Option", "Some"])
      [.call (coreItem ["cmp", "Ord", "cmp"]) [.receiver, var "other"]])).shared

/-- Order, equality and hash of reals by their bits. -/
def realOrder (t : Target) : List Code.Item :=
  [implement (core ["cmp", "PartialEq"] []) t.type [realEqual],
   implement (core ["cmp", "Eq"] []) t.type [],
   implement (core ["cmp", "PartialOrd"] []) t.type [realPartialCompare],
   implement (core ["cmp", "Ord"] []) t.type [realCompare],
   implement (core ["hash", "Hash"] []) t.type
    [((fn "hash" [("state", refMut (parameterType "H"))] .unit
      ⟨[.perform (.call (coreItem ["hash", "Hash", "hash"])
        [.borrow (bits .receiver), var "state"])], none⟩).shared.silent).withParameter
      ⟨"H", core ["hash", "Hasher"] [], false⟩]]

/-- The code of a bounded real type. -/
def boundedReal (t : Target) (min max : Binary64) : List Code.Item :=
  let form := NumberForm.real min max
  [t.wrapper ["Clone", "Copy", "Debug"] (primitive "f64"), numberInherent t form] ++ realOrder t ++
  [numberTrait t form] ++ numberText t form

/-! ## Declarations -/

/-- The code of a type with given parameters. -/
def codeOf (t : Target) : Params → List Code.Item
  | .identifier => identifier t
  | .boundedText min max pattern => boundedText t min max pattern
  | .boundedInteger min max => boundedInteger t min max
  | .boundedReal min max => boundedReal t min max

/-- The implementation of a declaration with given parameters. -/
def ofDeclaration (o : Options) (d : Declaration) (params : Params) : Implementation :=
  { name := d.name
    visibility := d.visibility
    scope := d.scope
    kind := params.kind
    code := codeOf (.of d o) params }

/-- The tokens of an implementation. -/
def tokens (i : Implementation) : List Token := i.code.flatMap Code.Item.tokens

end Implementation
end DomainValues
