import DomainValues.Code.Syntax

/-!
# Words of generated code

Short names for the types and expressions that generated code is made of.
-/

namespace DomainValues.Code

/-! ## Types -/

/-- A type of the core library. -/
def core (segments : List Ident) (arguments : List TypeExpr) : TypeExpr :=
  .path (.crate "core") segments arguments

/-- A type that is always in scope. -/
def primitive (name : Ident) : TypeExpr := .path (.builtin name) [] []

/-- The type that an `impl` block is for. -/
def selfType : TypeExpr := .path .self [] []

/-- A type that belongs to the type that an `impl` block is for. -/
def associated (name : Ident) : TypeExpr := .path .self [name] []

/-- A type that a pass generates. -/
def generatedType (name : Ident) : TypeExpr := .path (.generated name) [] []

/-- A type of the runtime. -/
def runtimeType (runtime : List Token) (segments : List Ident) : TypeExpr :=
  .path (.runtime runtime) segments []

/-- A type parameter. -/
def parameterType (name : Ident) : TypeExpr := .path (.parameter name) [] []

/-- A shared reference. -/
def ref (target : TypeExpr) : TypeExpr := .reference none false target

/-- An exclusive reference. -/
def refMut (target : TypeExpr) : TypeExpr := .reference none true target

/-- A reference that is always valid. -/
def refStatic (target : TypeExpr) : TypeExpr := .reference (some "static") false target

/-- The type of texts. -/
def str : TypeExpr := primitive "str"

/-- The type of owned texts. -/
def string : TypeExpr := .path (.crate "std") ["string", "String"] []

/-- The type of options. -/
def option (element : TypeExpr) : TypeExpr := core ["option", "Option"] [element]

/-- The type of results. -/
def result (value error : TypeExpr) : TypeExpr := core ["result", "Result"] [value, error]

/-! ## Expressions -/

/-- A function or a constant of the core library. -/
def coreItem (segments : List Ident) : Expr := .path (.crate "core") segments

/-- A function or a constant of the runtime. -/
def runtimeItem (runtime : List Token) (segments : List Ident) : Expr :=
  .path (.runtime runtime) segments

/-- A variable. -/
def var (name : Ident) : Expr := .path (.variable name) []

/-- A function or a constant of the type that an `impl` block is for. -/
def selfItem (name : Ident) : Expr := .path .self [name]

/-- A function or a constant of a type that a pass generates. -/
def generatedItem (type name : Ident) : Expr := .path (.generated type) [name]

/-- The wrapper around a value. -/
def wrap (value : Expr) : Expr := .call (.path .self []) [value]

/-- The value in the receiver. -/
def own : Expr := .wrapped .receiver

/-- Success. -/
def success (value : Expr) : Expr := .call (coreItem ["result", "Result", "Ok"]) [value]

/-- A call of a method without type arguments. -/
def on (target : Expr) (name : String) (arguments : List Expr) : Expr :=
  .method target name [] arguments

/-- A text. -/
def textOf (value : String) : Expr := .literal (.text value)

/-! ## Members -/

/-- A function that is neither documented nor public, without a receiver. -/
def fn (name : String) (arguments : List (String × TypeExpr)) (result : TypeExpr) (body : Block) :
    Function :=
  { doc := none, isPublic := false, isConst := false, name, parameter := none, receiver := .absent
    arguments, trailing := false, result := some result, body }

namespace Function

/-- The function, for everyone. -/
def exported (f : Function) : Function := { f with isPublic := true }

/-- The function, for constants too. -/
def inConstants (f : Function) : Function := { f with isConst := true }

/-- The function with documentation. -/
def documented (f : Function) (doc : String) : Function := { f with doc := some doc }

/-- The function as a method that takes a reference. -/
def shared (f : Function) : Function := { f with receiver := .shared }

/-- The function as a method that takes the value. -/
def owned (f : Function) : Function := { f with receiver := .owned }

/-- The function with a comma after its last parameter. -/
def wide (f : Function) : Function := { f with trailing := true }

/-- The function without a result. -/
def silent (f : Function) : Function := { f with result := none }

/-- The function with a type parameter. -/
def withParameter (f : Function) (parameter : TypeParameter) : Function :=
  { f with parameter := some parameter }

end Function

/-- The implementation of a trait. -/
def implement (trait type : TypeExpr) (members : List Member) : Item :=
  .implementation none (some trait) type members

/-- The implementation of what a type has on its own. -/
def inherent (type : TypeExpr) (members : List Member) : Item :=
  .implementation none none type members

instance : Coe Function Member := ⟨Member.function⟩

end DomainValues.Code
