import DomainValues.Number.Binary64
import DomainValues.Source.Visibility

/-!
# Generated code

The code that a pass puts in the place of a declaration, as a tree: structs and `impl` blocks,
whose members are constants, type aliases and functions, whose bodies are statements and
expressions.

A path knows what it starts from (`Origin`), so that the name of a declared type and the name of
a type parameter stay apart even where they are spelled alike.
-/

namespace DomainValues

instance : Coe String Ident := ⟨Ident.plain⟩

namespace Code

/-- What a path starts from. -/
inductive Origin where
  /-- The root of a crate that is always there, such as `::core`. -/
  | crate (name : Ident)
  /-- The path of the runtime. -/
  | runtime (path : List Token)
  /-- The module at the root of the pass. -/
  | root
  /-- A type that the pass generates. -/
  | generated (name : Ident)
  /-- The type that an `impl` block is for. -/
  | self
  /-- A type parameter of the function around it. -/
  | parameter (name : Ident)
  /-- A name that is always in scope: a primitive type, a trait that can be derived. -/
  | builtin (name : Ident)
  /-- A variable or a static. -/
  | variable (name : Ident)
  deriving Repr

/-- A type, a trait, or another argument of one. -/
inductive TypeExpr where
  /-- A path with the generic arguments of its last segment. -/
  | path (origin : Origin) (segments : List Ident) (arguments : List TypeExpr)
  /-- A reference. -/
  | reference (lifetime : Option String) (mutable : Bool) (target : TypeExpr)
  /-- A slice. -/
  | slice (element : TypeExpr)
  /-- The empty tuple. -/
  | unit
  /-- Any type with a bound. -/
  | any (bound : TypeExpr)
  /-- A lifetime. -/
  | lifetime (name : String)
  deriving Repr

/-- A literal. -/
inductive Literal where
  /-- A length. -/
  | length (value : UInt64)
  /-- A whole number of 32 bits. -/
  | int32 (value : Int32)
  /-- A finite real. -/
  | real (value : Binary64)
  /-- A real number as it is written. -/
  | decimal (text : String)
  /-- A text. -/
  | text (value : String)
  deriving Repr

/-- The parameters of a closure. -/
inductive Binder where
  /-- None. -/
  | nothing
  /-- One, which is the empty tuple. -/
  | unit
  /-- One, which is not used. -/
  | ignored
  /-- One with a name. -/
  | named (name : String)
  deriving Repr

/-- An expression. -/
inductive Expr where
  /-- A path. -/
  | path (origin : Origin) (segments : List Ident)
  /-- A function of a trait, for a type. -/
  | qualified (type trait : TypeExpr) (name : String)
  /-- The receiver of a method. -/
  | receiver
  /-- The empty tuple. -/
  | unit
  /-- A literal. -/
  | literal (value : Literal)
  /-- The wrapped value. -/
  | wrapped (of : Expr)
  /-- A call. -/
  | call (function : Expr) (arguments : List Expr)
  /-- A call of a method. -/
  | method (of : Expr) (name : String) (types : List TypeExpr) (arguments : List Expr)
  /-- A reference. -/
  | borrow (of : Expr)
  /-- A value, or a return with its error. -/
  | propagate (of : Expr)
  /-- A closure. -/
  | closure (binder : Binder) (body : Expr)
  /-- An operator between two operands. -/
  | infixed (operator : String) (left right : Expr)
  /-- An array. -/
  | array (elements : List Expr)
  deriving Repr

/-- A statement. -/
inductive Statement where
  /-- A variable. -/
  | bind (name : String) (value : Expr)
  /-- An expression whose value is not used. -/
  | perform (action : Expr)
  /-- A static. -/
  | static (name : String) (type : TypeExpr) (value : Expr)
  deriving Repr

/-- Statements, and the value of the block if it has one. -/
structure Block where
  /-- The statements. -/
  statements : List Statement
  /-- The value. -/
  value : Option Expr
  deriving Repr

/-- The block that has a value and nothing else. -/
def Block.ofExpr (value : Expr) : Block := ⟨[], some value⟩

instance : Coe Expr Block := ⟨Block.ofExpr⟩

/-- How a function takes its receiver. -/
inductive Receiver where
  /-- Not at all. -/
  | absent
  /-- By value. -/
  | owned
  /-- By reference. -/
  | shared
  deriving Repr

/-- A type parameter of a function, with a bound in the brackets or in a `where` clause. -/
structure TypeParameter where
  /-- Its name. -/
  name : Ident
  /-- Its bound. -/
  bound : TypeExpr
  /-- Whether the bound stands in a `where` clause. -/
  deferred : Bool
  deriving Repr

/-- A function. -/
structure Function where
  /-- The documentation. -/
  doc : Option String
  /-- Whether everyone may call it. -/
  isPublic : Bool
  /-- Whether it may be called in constants. -/
  isConst : Bool
  /-- Its name. -/
  name : String
  /-- Its type parameter, if it has one. -/
  parameter : Option TypeParameter
  /-- Its receiver. -/
  receiver : Receiver
  /-- Its other parameters. -/
  arguments : List (String × TypeExpr)
  /-- Whether a comma follows the last parameter. -/
  trailing : Bool
  /-- The type of its result. -/
  result : Option TypeExpr
  /-- Its body. -/
  body : Block
  deriving Repr

/-- A member of an `impl` block. -/
inductive Member where
  /-- A constant. -/
  | constant (doc : Option String) (isPublic : Bool) (name : String) (type : TypeExpr)
      (value : Expr)
  /-- A type alias. -/
  | alias (name : String) (type : TypeExpr)
  /-- A function. -/
  | function (f : Function)
  deriving Repr

/-- The documentation of a struct. -/
inductive Doc where
  /-- None. -/
  | nothing
  /-- A text that is the same for every struct of its sort, written raw. -/
  | fixed (text : String)
  /-- A text that is made for the struct. -/
  | composed (text : String)
  deriving Repr

/-- An item. -/
inductive Item where
  /-- A struct, with the attributes of the user, and one field or none. -/
  | struct (attributes : List Attribute) (doc : Doc) (derives : List String)
      (visibility : Visibility) (name : Ident) (field : Option TypeExpr)
  /-- An `impl` block.  The inherent one may have members that nobody uses. -/
  | implementation (lifetime : Option String) (trait : Option TypeExpr) (type : TypeExpr)
      (members : List Member)
  deriving Repr

/-- The value of a constant with a name. -/
def Member.constant? (name : String) : Member → Option Expr
  | constant _ _ found _ value => if found = name then some value else none
  | _ => none

/-- A function with a name. -/
def Member.function? (name : String) : Member → Option Function
  | function f => if f.name = name then some f else none
  | _ => none

/-- The members of an item. -/
def Item.members : Item → List Member
  | struct .. => []
  | implementation _ _ _ members => members

/-- The name that an item introduces. -/
def Item.name? : Item → Option Ident
  | struct _ _ _ _ name _ => some name
  | implementation .. => none

end Code
end DomainValues
