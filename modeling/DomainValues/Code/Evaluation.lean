import DomainValues.Code.Vocabulary
import DomainValues.Serialization

/-!
# Running generated code

What the functions of generated code answer when they are called.  The answer is computed from
the trees of their bodies (`Expr.eval`, `Block.eval`) and from what the libraries do that they
call: the checks and the errors of the runtime, the parsers and printers of the core library, the
reader and writer of documents.

A call of a function of a generated type looks the function up among the items (`function?`) and
runs its body one level deeper; the fuel of `run` bounds that depth.  Code that does what no
library function here is said to do has no answer.

A formatter or a serializer is a place to write to (`Datum.sink`): writing succeeds with what was
written.
-/

namespace DomainValues

namespace Code

/-! ## Data -/

/-- What an expression of generated code stands for. -/
inductive Datum where
  /-- The empty tuple. -/
  | unit
  /-- A truth value. -/
  | flag (value : Bool)
  /-- The outcome of a comparison. -/
  | ordering (value : Ordering)
  /-- A text, borrowed or owned. -/
  | text (value : String)
  /-- An identifier. -/
  | uuid (value : Uuid)
  /-- A length. -/
  | length (value : UInt64)
  /-- A whole number of 32 bits. -/
  | int32 (value : Int32)
  /-- A whole number of 64 bits. -/
  | int64 (value : Int64)
  /-- A real. -/
  | real (value : Binary64)
  /-- The bits of a real. -/
  | word (value : BitVec 64)
  /-- A scalar. -/
  | scalar (value : Scalar)
  /-- A document. -/
  | document (value : Json)
  /-- A pattern, which is compiled when it is first used. -/
  | pattern (source : String)
  /-- The error of a text that a parser of the libraries refuses. -/
  | unparsed
  /-- A constraint that a value fails. -/
  | violation (value : ConstraintViolation)
  /-- The error of a scalar that holds no value. -/
  | decodeError (value : DecodeError)
  /-- The error of a document that holds no value. -/
  | readError (value : ReadError)
  /-- A place to write to. -/
  | sink
  /-- A value of a generated type. -/
  | wrapped (type : Ident) (primitive : Datum)
  /-- No value. -/
  | none
  /-- A value that might be missing. -/
  | some (value : Datum)
  /-- Success. -/
  | ok (value : Datum)
  /-- Failure. -/
  | error (error : Datum)

namespace Datum

/-- An optional value. -/
def ofOption {α : Type} (value : α → Datum) : Option α → Datum
  | .some a => some (value a)
  | .none => none

/-- A value or an error. -/
def ofExcept {ε α : Type} (failure : ε → Datum) (value : α → Datum) : Except ε α → Datum
  | .ok a => ok (value a)
  | .error e => error (failure e)

/-- What a parser of the libraries makes of a text. -/
def ofParsed {α : Type} (value : α → Datum) : Option α → Datum
  | .some a => ok (value a)
  | .none => error unparsed

/-- A check that a value meets a constraint. -/
def ofCheck : Except ConstraintViolation Unit → Datum := ofExcept violation fun _ => unit

/-- The text that shows a primitive. -/
def shown? : Datum → Option String
  | text value => .some value
  | int32 value => .some (toString value.toInt)
  | real value => .some (Layout.plain.text value)
  | _ => .none

end Datum

/-! ## Names -/

/-- The name at the end of a path. -/
def TypeExpr.lastName : TypeExpr → String
  | .path (.builtin name) [] _ => name.name
  | .path _ segments _ => (segments.getLast?.map Ident.name).getD ""
  | _ => ""

/-- A function or a constant of a generated type. -/
structure Callee where
  /-- The type. -/
  type : Ident
  /-- The trait it belongs to, if it does not belong to the type on its own. -/
  trait : Option String
  /-- Its name. -/
  name : String

/-- The members of an implementation of a trait for a type, or of what it has on its own. -/
def Item.membersFor (type : Ident) (trait : Option String) : Item → List Member
  | .implementation _ of (.path (.generated name) [] []) members =>
      if name = type ∧ of.map TypeExpr.lastName = trait then members else []
  | _ => []

/-- The function that is called. -/
def function? (items : List Item) (callee : Callee) : Option Function :=
  (items.flatMap (Item.membersFor callee.type callee.trait)).findSome?
    (Member.function? callee.name)

/-- The value of the constant that is named. -/
def constant? (items : List Item) (callee : Callee) : Option Expr :=
  (items.flatMap (Item.membersFor callee.type callee.trait)).findSome?
    (Member.constant? callee.name)

/-! ## The libraries -/

/-- The answer of a function of a generated type. -/
abbrev Calls := Callee → List Datum → Option Datum

namespace Library

/-- The text of a value of a generated type, which its own code writes. -/
def textOf? (call : Calls) : Datum → Option String
  | .wrapped type primitive =>
      match call ⟨type, some "Display", "fmt"⟩ [.wrapped type primitive, .sink] with
      | some (.ok (.text written)) => some written
      | _ => none
  | _ => none

/-- A function of the core or the standard library. -/
def core (call : Calls) : List String → List Datum → Option Datum
  | ["result", "Result", "Ok"], [value] => some (.ok value)
  | ["option", "Option", "Some"], [value] => some (.some value)
  | ["clone", "Clone", "clone"], [value] => some value
  | ["fmt", "Display", "fmt"], [value, .sink] => value.shown?.map fun text => .ok (.text text)
  | ["string", "ToString", "to_string"], [value] => (textOf? call value).map .text
  | ["cmp", "Ord", "cmp"], [.wrapped type left, right] =>
      call ⟨type, some "Ord", "cmp"⟩ [.wrapped type left, right]
  | _, _ => none

/-- A function that makes an error of decoding. -/
def decodeError : String → List Datum → Option Datum
  | "malformed", [.text name, .text text] => some (.decodeError (.malformed name text))
  | "from", [.violation v] => some (.decodeError (.violation v))
  | _, _ => none

/-- A function that makes an identifier. -/
def uuid : String → List Datum → Option Datum
  | "nil", [] => some (.uuid Uuid.nil)
  | "parse_str", [.text text] => some (.ofParsed .uuid (Uuid.read? text))
  | _, _ => none

/-- A check of a constraint. -/
def check : String → List Datum → Option Datum
  | "length", [.text name, .text text, .length min, .length max] =>
      some (.ofCheck (Constraint.length name text min max))
  | "integer", [.text name, .int32 i, .int32 min, .int32 max] =>
      some (.ofCheck (Constraint.integer name i min max))
  | "real", [.text name, .real x, .real min, .real max] =>
      some (.ofCheck (Constraint.real name x min max))
  | "narrow_integer", [.text name, .int64 i, .int32 min, .int32 max] =>
      some (.ofExcept .violation .int32 (Constraint.narrowInteger name i min max))
  | _, _ => none

/-- A shape of a scalar. -/
def scalar : String → List Datum → Option Datum
  | "Text", [.text text] => some (.scalar (.text text))
  | "Integer", [.int64 i] => some (.scalar (.integer i))
  | "Real", [.real x] => some (.scalar (.real x))
  | _, _ => none

/-- A function of the runtime. -/
def runtime : List String → List Datum → Option Datum
  | ["DecodeError", name], arguments => decodeError name arguments
  | ["Uuid", name], arguments => uuid name arguments
  | ["check", name], arguments => check name arguments
  | ["Scalar", name], arguments => scalar name arguments
  | ["CompiledPattern", "new"], [.text source] => some (.pattern source)
  | _, _ => none

/-- The primitive that a document is. -/
def deserialize (type : String) (document : Json) : Option Datum :=
  match type with
  | "String" => some (.ofExcept .readError .text document.readText)
  | "i32" => some (.ofExcept .readError .int32 document.readInt32)
  | "f64" => some (.ofExcept .readError .real document.readReal)
  | _ => none

/-- The error of a reader of documents about a value that is refused. -/
def custom : Datum → Option Datum
  | .decodeError e => some (.readError (.refused e))
  | .violation v => some (.readError (.refused (.violation v)))
  | _ => none

/-- The whole number of 32 bits of which a text is a literal. -/
def int32? (text : String) : Option Int32 :=
  (readInt? Int32.minValue.toInt Int32.maxValue.toInt text.toList).map Int32.ofInt

/-- The real of which a text is a literal. -/
def real? (text : String) : Option Binary64 := Binary64.read? text.toList

/-- The number of which a text is a literal. -/
def parse (type : String) (text : String) : Option Datum :=
  match type with
  | "i32" => some (.ofParsed .int32 (int32? text))
  | "f64" => some (.ofParsed .real (real? text))
  | _ => none

/-- A method of texts. -/
def textMethod (name : String) (types : List TypeExpr) (text : String) : Option Datum :=
  match name, types with
  | "into", [] | "as_str", [] | "to_owned", [] => some (.text text)
  | "trim", [] => some (.text (String.ofList (Text.trim text.toList)))
  | "parse", [type] => parse type.lastName text
  | _, _ => none

/-- A method of reals. -/
def realMethod (name : String) (x : Binary64) : List Datum → Option Datum
  | [] => if name = "to_bits" then some (.word x.word) else none
  | [.real y] => if name = "total_cmp" then some (.ordering (x.total y)) else none
  | _ => none

/-- A method of scalars, which takes the name of a type. -/
def scalarMethod (name : String) (s : Scalar) (typeName : String) : Option Datum :=
  match name with
  | "require_text" => some (.ofExcept .decodeError .text (s.requireText typeName))
  | "require_integer" => some (.ofExcept .decodeError .int64 (s.requireInteger typeName))
  | "require_real" => some (.ofExcept .decodeError .real (s.requireReal typeName))
  | _ => none

/-- A method of serializers. -/
def sinkMethod (call : Calls) (name : String) (written : Datum) : Option Datum :=
  match name, written with
  | "collect_str", value => (textOf? call value).map fun text => .ok (.document (.string text))
  | "serialize_str", .text text => some (.ok (.document (.string text)))
  | "serialize_i32", .int32 i => some (.ok (.document (.integer i.toInt)))
  | "serialize_f64", .real x => some (.ok (.document (if x.isFinite then .real x else .null)))
  | _, _ => none

/-- A method that is called on a value. -/
def method (call : Calls) (name : String) (types : List TypeExpr) :
    Datum → List Datum → Option Datum
  | .text text, [] => textMethod name types text
  | .real x, arguments => realMethod name x arguments
  | .scalar s, [.text typeName] => scalarMethod name s typeName
  | .sink, [written] => sinkMethod call name written
  | .uuid id, [] => if name = "hyphenated" then some (.text id.text) else none
  | .pattern source, [.text typeName, .text text] =>
      if name = "check" then some (.ofCheck (Params.matchPattern typeName source text)) else none
  | .ok value, [] => if name = "ok" then some (.some value) else none
  | .error _, [] => if name = "ok" then some .none else none
  | _, _ => none

/-- An operator.  Of the sums only those with positive zero are needed. -/
def infixed (operator : String) (left right : Datum) : Option Datum :=
  match operator, left, right with
  | "==", .word v, .word w => some (.flag (v == w))
  | "+", .real x, .real y => if y = .zero then some (.real x.withoutNegativeZero) else none
  | _, _, _ => none

end Library

/-! ## Expressions -/

/-- What comes of running code. -/
inductive Outcome (α : Type) where
  /-- It goes on with a value. -/
  | value (value : α)
  /-- The function around it answers. -/
  | answer (answer : Datum)
  /-- It means nothing. -/
  | stuck

namespace Outcome

/-- What is there, if anything is. -/
def ofOption {α : Type} : Option α → Outcome α
  | some a => value a
  | none => stuck

instance : Monad Outcome where
  pure := value
  bind
    | value a, f => f a
    | answer d, _ => answer d
    | stuck, _ => stuck

/-- The answer, as far as there is one. -/
def answer? : Outcome Datum → Option Datum
  | value d => some d
  | answer d => some d
  | stuck => none

variable {α β : Type}

@[simp] theorem ofOption_some (a : α) : ofOption (some a) = value a := rfl

@[simp] theorem pure_eq_value (a : α) : (pure a : Outcome α) = value a := rfl

/-- What goes on with a value is looked at when there is one. -/
@[simp ↓] theorem bind_eq_match (x : Outcome α) (f : α → Outcome β) :
    (x >>= f) = match x with
      | value a => f a
      | answer d => answer d
      | stuck => stuck := by
  cases x <;> rfl

end Outcome

/-- What stands around an expression. -/
structure Frame where
  /-- The type that the `impl` block is for. -/
  self : Ident
  /-- The receiver of the method. -/
  receiver : Option Datum
  /-- The variables, the last one first. -/
  locals : List (Ident × Datum)

/-- What stands around the body of a closure. -/
def Frame.enter (frame : Frame) : Binder → List Datum → Option Frame
  | .nothing, [] => some frame
  | .unit, [.unit] => some frame
  | .ignored, [_] => some frame
  | .named name, [value] => some { frame with locals := (↑name, value) :: frame.locals }
  | _, _ => none

/-- What a path stands for that is not called: a variable or a constant. -/
def Frame.path (frame : Frame) (call : Calls) : Origin → List Ident → Option Datum
  | .variable name, [] => (frame.locals.find? fun known => known.1 = name).map (·.2)
  | .self, [name] => call ⟨frame.self, none, name.name⟩ []
  | .generated type, [name] => call ⟨type, none, name.name⟩ []
  | _, _ => none

/-- The answer of a function that is called by its path. -/
def Frame.invoke (frame : Frame) (call : Calls) : Expr → List Datum → Option Datum
  | .path .self [], [value] => some (.wrapped frame.self value)
  | .path .self [name], arguments => call ⟨frame.self, none, name.name⟩ arguments
  | .path (.generated type) [name], arguments => call ⟨type, none, name.name⟩ arguments
  | .path (.crate _) segments, arguments => Library.core call (segments.map Ident.name) arguments
  | .path (.runtime _) segments, arguments => Library.runtime (segments.map Ident.name) arguments
  | .path (.builtin _) _, [.int32 i] => some (.int64 (Int64.ofInt i.toInt))
  | .qualified (.path (.generated type) [] []) trait name, arguments =>
      call ⟨type, some trait.lastName, name⟩ arguments
  | .qualified (.path (.parameter _) _ _) _ _, [error] => Library.custom error
  | .qualified type _ _, [.document d] => Library.deserialize type.lastName d
  | _, _ => none

/-- A literal. -/
def Literal.datum? : Literal → Option Datum
  | length value => some (.length value)
  | int32 value => some (.int32 value)
  | real value => some (.real value)
  | decimal digits => (Binary64.read? digits.toList).map .real
  | text value => some (.text value)

/-- The methods that take a function. -/
def combinators : List String := ["map", "and_then", "map_err", "ok_or_else"]

/-- What a method does that takes a function. -/
def combine (name : String) (target : Datum) (function : List Datum → Outcome Datum) :
    Outcome Datum :=
  match name, target with
  | "map", .some value => do
      let made ← function [value]
      pure (.some made)
  | "map", .none => .value .none
  | "and_then", .some value => function [value]
  | "and_then", .none => .value .none
  | "map_err", .ok value => .value (.ok value)
  | "map_err", .error e => do
      let made ← function [e]
      pure (.error made)
  | "ok_or_else", .some value => .value (.ok value)
  | "ok_or_else", .none => do
      let made ← function []
      pure (.error made)
  | _, _ => .stuck

mutual

/-- Runs an expression. -/
def Expr.eval (call : Calls) : Expr → Frame → Outcome Datum
  | .path origin segments, frame => .ofOption (frame.path call origin segments)
  | .qualified .., _ => .stuck
  | .receiver, frame => .ofOption frame.receiver
  | .unit, _ => .value .unit
  | .literal l, _ => .ofOption l.datum?
  | .wrapped e, frame => do
      match ← e.eval call frame with
      | .wrapped _ primitive => .value primitive
      | _ => .stuck
  | .call f arguments, frame => do
      let given ← evalAll call arguments frame
      .ofOption (frame.invoke call f given)
  | .method e name types arguments, frame => do
      let target ← e.eval call frame
      if combinators.contains name then
        match functions call arguments frame with
        | [f] => combine name target f
        | _ => .stuck
      else
        let given ← evalAll call arguments frame
        .ofOption (Library.method call name types target given)
  | .borrow e, frame => e.eval call frame
  | .propagate e, frame => do
      match ← e.eval call frame with
      | .ok value => .value value
      | .error e => .answer (.error e)
      | _ => .stuck
  | .closure .., _ => .stuck
  | .infixed operator left right, frame => do
      let l ← left.eval call frame
      let r ← right.eval call frame
      .ofOption (Library.infixed operator l r)
  | .array _, _ => .stuck

/-- Runs expressions from left to right. -/
def Expr.evalAll (call : Calls) : List Expr → Frame → Outcome (List Datum)
  | [], _ => .value []
  | e :: rest, frame => do
      let d ← e.eval call frame
      let more ← evalAll call rest frame
      .value (d :: more)

/-- Applies an expression that stands for a function. -/
def Expr.apply (call : Calls) : Expr → Frame → List Datum → Outcome Datum
  | .closure binder body, frame, arguments => do
      let inside ← .ofOption (frame.enter binder arguments)
      body.eval call inside
  | f, frame, arguments => .ofOption (frame.invoke call f arguments)

/-- The functions that expressions stand for. -/
def Expr.functions (call : Calls) : List Expr → Frame → List (List Datum → Outcome Datum)
  | [], _ => []
  | f :: rest, frame => f.apply call frame :: functions call rest frame

end

/-! ## Functions -/

/-- Runs statements, each with the variables of those before it. -/
def Statement.evalAll (call : Calls) : List Statement → Frame → Outcome Frame
  | [], frame => .value frame
  | .bind name e :: rest, frame | .static name _ e :: rest, frame => do
      let d ← e.eval call frame
      evalAll call rest { frame with locals := (↑name, d) :: frame.locals }
  | .perform e :: rest, frame => do
      let _ ← e.eval call frame
      evalAll call rest frame

/-- Runs a block. -/
def Block.eval (call : Calls) (block : Block) (frame : Frame) : Outcome Datum := do
  let inside ← Statement.evalAll call block.statements frame
  match block.value with
  | some e => e.eval call inside
  | none => .value .unit

/-- What stands around the body of a function that is called. -/
def Function.frame? (f : Function) (type : Ident) (arguments : List Datum) : Option Frame :=
  let named (given : List Datum) (receiver : Option Datum) : Option Frame :=
    if given.length = f.arguments.length then
      some ⟨type, receiver, (f.arguments.map fun (name, _) => (name : Ident)).zip given⟩
    else none
  match f.receiver, arguments with
  | .absent, given => named given none
  | _, receiver :: given => named given (some receiver)
  | _, [] => none

/-- The answer of a function that returns early.  A violation becomes an error of decoding where
the result of the function names that error. -/
def Function.returned (f : Function) : Datum → Datum
  | .error (.violation v) =>
      match f.result with
      | some (.path _ _ [_, error]) =>
          if error.lastName = "DecodeError" then .error (.decodeError (.violation v))
          else .error (.violation v)
      | _ => .error (.violation v)
  | d => d

/-- The answer of a function. -/
def Function.answer? (f : Function) (call : Calls) (type : Ident) (arguments : List Datum) :
    Option Datum :=
  match f.frame? type arguments with
  | none => none
  | some frame =>
      match f.body.eval call frame with
      | .value d => some d
      | .answer d => some (f.returned d)
      | .stuck => none

/-- The answer of a function, or the value of a constant, among items that call one another no
deeper than the fuel says. -/
def run (items : List Item) : (depth : Nat) → Calls
  | 0, _, _ => none
  | depth + 1, callee, arguments =>
      match function? items callee, constant? items callee with
      | some f, _ => f.answer? (run items depth) callee.type arguments
      | none, some e => (e.eval (run items depth) ⟨callee.type, none, []⟩).answer?
      | none, none => none

end Code

/-! ## Values -/

/-- A primitive in generated code. -/
def Params.datum : (p : Params) → p.Primitive → Code.Datum
  | .identifier, id => .uuid id
  | .boundedText .., text => .text text
  | .boundedInteger .., i => .int32 i
  | .boundedReal .., x => .real x

/-- A value in generated code. -/
def Value.datum {t : ValueType} (type : Ident) (v : Value t) : Code.Datum :=
  .wrapped type (t.params.datum v.primitive)

end DomainValues
