import DomainValues.Collision
import DomainValues.Implementation

/-!
# Adapters

The adapter of a generated type converts its values to and from one scalar: a text for
identifiers and texts, a number for numbers.  Writing goes through the canonical text or the
wrapped number, and reading checks the constraint again.

With the adapter come the conversions that serialization needs, to the same scalar.
-/

namespace DomainValues

open Code

/-- The adapter of a generated type. -/
structure Adapter where
  /-- Its name. -/
  name : Ident
  /-- The name of the type. -/
  value : Name
  /-- The names of the modules around both. -/
  scope : List Name
  /-- The code. -/
  code : List Code.Item
  deriving Repr

/-- The path of an adapter from the root. -/
def Adapter.path (a : Adapter) : Expr := .path .root (a.scope.map Name.ident ++ [a.name])

/-- The tokens of an adapter. -/
def Adapter.tokens (a : Adapter) : List Token := a.code.flatMap Code.Item.tokens

namespace Target

/-- A trait or a type of the serialization library. -/
def serialTrait (t : Target) (segments : List Ident) (arguments : List TypeExpr) : TypeExpr :=
  .path (.runtime t.hidden) ("serde" :: segments) arguments

/-- The type, read from a text. -/
def readText (t : Target) (text : Expr) : Expr :=
  .call (.qualified t.type (core ["str", "FromStr"] []) "from_str") [text]

/-- How a value is written. -/
def serialize : Kind → Expr
  | .identifier => on (var "serializer") "collect_str" [.receiver]
  | .boundedText => on (var "serializer") "serialize_str" [.borrow own]
  | .boundedInteger => on (var "serializer") "serialize_i32" [own]
  | .boundedReal => on (var "serializer") "serialize_f64" [own]

/-- The primitive that a value is read through. -/
def serialized : Kind → TypeExpr
  | .identifier | .boundedText => string
  | .boundedInteger => primitive "i32"
  | .boundedReal => primitive "f64"

/-- The value of a primitive that was read. -/
def restore (t : Target) : Kind → Expr
  | .identifier => t.readText (.borrow (var "value"))
  | _ => .call (generatedItem t.name "new") [var "value"]

/-- The function that writes a value. -/
def writing (t : Target) (kind : Kind) : Function :=
  ((fn "serialize" [("serializer", parameterType "S")]
    (result (.path (.parameter "S") ["Ok"] []) (.path (.parameter "S") ["Error"] []))
    (serialize kind)).shared).withParameter ⟨"S", t.serialTrait ["Serializer"] [], true⟩

/-- The function that restores a value. -/
def restoring (t : Target) (kind : Kind) : Function :=
  let de := TypeExpr.lifetime "de"
  let read := Expr.qualified (serialized kind) (t.serialTrait ["Deserialize"] [de]) "deserialize"
  (fn "deserialize" [("deserializer", parameterType "D")]
    (result selfType (.path (.parameter "D") ["Error"] []))
    ⟨[.bind "value" (.propagate (.call read [var "deserializer"]))],
     some (on (t.restore kind) "map_err"
      [.qualified (.path (.parameter "D") ["Error"] []) (t.serialTrait ["de", "Error"] [])
        "custom"])⟩
    ).withParameter ⟨"D", t.serialTrait ["Deserializer"] [de], true⟩

/-- Writing and reading by the serialization library. -/
def serialization (t : Target) (kind : Kind) : List Code.Item :=
  [implement (t.serialTrait ["Serialize"] []) t.type [t.writing kind],
   .implementation (some "de") (some (t.serialTrait ["Deserialize"] [.lifetime "de"])) t.type
    [t.restoring kind]]

/-- The scalar of a value. -/
def encode (t : Target) : Kind → Expr
  | .identifier | .boundedText =>
      .call (t.helper ["Scalar", "Text"])
        [.call (.path (.crate "std") ["string", "ToString", "to_string"]) [var "value"]]
  | .boundedInteger =>
      .call (t.helper ["Scalar", "Integer"])
        [.call (.path (.builtin "i64") ["from"]) [.wrapped (var "value")]]
  | .boundedReal => .call (t.helper ["Scalar", "Real"]) [.wrapped (var "value")]

/-- The value of a scalar. -/
def decode (t : Target) (kind : Kind) : Block :=
  let required (method : String) :=
    Expr.propagate (on (var "scalar") method [t.nameText])
  let new := on (.call (generatedItem t.name "new") [var "value"]) "map_err" [t.fromViolation]
  match kind with
  | .identifier | .boundedText =>
      ⟨[.bind "text" (required "require_text")], some (t.readText (var "text"))⟩
  | .boundedInteger =>
      ⟨[.bind "raw" (required "require_integer"),
        .bind "value" (.propagate (.call (t.helper ["check", "narrow_integer"])
          [t.nameText, var "raw", generatedItem t.name "MIN", generatedItem t.name "MAX"]))],
       some new⟩
  | .boundedReal => ⟨[.bind "value" (required "require_real")], some new⟩

/-- The function that gives the scalar of a value. -/
def encoding (t : Target) (kind : Kind) : Function :=
  (fn "encode" [("value", ref t.type)] (t.provided "Scalar") (t.encode kind)).shared

/-- The function that gives the value of a scalar. -/
def decoding (t : Target) (kind : Kind) : Function :=
  (fn "decode" [("scalar", ref (t.provided "Scalar"))] (result t.type (t.provided "DecodeError"))
    (t.decode kind)).shared

/-- The adapter of the type. -/
def adapter (t : Target) (kind : Kind) : List Code.Item :=
  let name := t.declaration.adapter
  [.struct [] (.composed ("Converts [`" ++ t.declaration.name.bare ++
      "`] to and from a single JSON scalar."))
    ["Clone", "Copy", "Debug", "Default"] t.declaration.visibility name none,
   implement (t.provided "ScalarAdapter") (generatedType name)
    [.alias "Value" t.type, t.encoding kind, t.decoding kind]]

end Target

/-- The adapter of a declaration with given parameters. -/
def Adapter.ofDeclaration (o : Options) (d : Declaration) (params : Params) : Adapter :=
  let t := Target.of d o
  { name := d.adapter
    value := d.name
    scope := d.scope
    code := t.serialization params.kind ++ t.adapter params.kind }

end DomainValues
