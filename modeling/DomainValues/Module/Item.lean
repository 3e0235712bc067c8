import DomainValues.Code.Tokens

/-!
# Items of a module

An item is read as far as a pass has to know it: its attributes, what it names, and, of a struct,
what makes it more than a name.  All else is kept as tokens in uniform form.

An item that no other form fits passes through verbatim, attributes and all.
-/

namespace DomainValues

/-- What an import names. -/
inductive ImportTree where
  /-- What a tree names in a module. -/
  | path (module : Name) (tree : ImportTree)
  /-- One item; `self` is the module around it. -/
  | item (name : Name)
  /-- One item under a new name. -/
  | renamed (name newName : Name)
  /-- All items. -/
  | everything
  /-- What several trees name. -/
  | group (trees : List ImportTree)
  deriving Repr

/-- The sorts of items of which little more than the attributes is read, with what they name. -/
inductive ItemKind where
  | constant (name : Name)
  | enumeration (name : Name)
  | externCrate (name : Name) (newName : Option Name)
  | externBlock (members : List Name)
  | function (name : Name)
  | implementation
  | macroCall
  | declaredModule (name : Name)
  | static (name : Name)
  | trait (name : Name)
  | traitAlias (name : Name)
  | typeAlias (name : Name)
  | union (name : Name)
  | import (tree : ImportTree)
  deriving Repr

/-- An item of one of these sorts. -/
structure PlainItem where
  /-- Its sort. -/
  kind : ItemKind
  /-- Its attributes. -/
  attributes : List Attribute
  /-- What follows the outer attributes, up to the braces of the body if there is one. -/
  head : List Token
  /-- What follows the inner attributes in the body. -/
  body : Option (List Token)
  deriving Repr

/-- The fields of a struct. -/
inductive Fields where
  /-- None, and no brackets. -/
  | unit
  /-- Without names, in parentheses. -/
  | unnamed (content : List Token) (opens closes : Position)
  /-- With names, in braces. -/
  | named (content : List Token) (opens closes : Position)
  deriving Repr

/-- Where the fields start, if there are any. -/
def Fields.position? : Fields → Option Position
  | unit => none
  | unnamed _ opens _ => some opens
  | named _ opens _ => some opens

/-- A struct. -/
structure StructItem where
  /-- Its attributes. -/
  attributes : List Attribute
  /-- Who may name it. -/
  visibility : Visibility
  /-- Its name. -/
  name : Name
  /-- Its generic parameters in their brackets; nothing if there are none. -/
  generics : List Token
  /-- The `where` clause, if it is written; empty without conditions. -/
  condition : Option (List Token)
  /-- Its fields. -/
  fields : Fields
  deriving Repr

/-- What a module has apart from its items. -/
structure ModuleHead where
  /-- The attributes before and inside it. -/
  attributes : List Attribute
  /-- Who may name it. -/
  visibility : Visibility
  /-- Whether it is marked `unsafe`. -/
  isUnsafe : Bool
  /-- Its name. -/
  name : Name
  deriving Repr

/-- An item. -/
inductive Item where
  /-- A module with its items. -/
  | inlineModule (head : ModuleHead) (items : List Item)
  /-- A struct. -/
  | struct (s : StructItem)
  /-- An item of another sort. -/
  | plain (p : PlainItem)
  /-- What passes through unread. -/
  | verbatim (tokens : List Token)
  /-- What a pass puts in the place of a declaration, or after the last item. -/
  | generated (code : List Code.Item)
  deriving Repr

/-- A module that a pass is run on.  Its body may be elsewhere. -/
structure Module where
  /-- All but the items. -/
  head : ModuleHead
  /-- The items, if they are there. -/
  items? : Option (List Item)
  deriving Repr

mutual

/-- The names that a tree of imports introduces, with the module around the tree. -/
def ImportTree.names (parent : Option Name) : ImportTree → List Name
  | .path module tree => tree.names (some module)
  | .item name => if name.text = "self" then parent.toList else [name]
  | .renamed _ newName => [newName]
  | .everything => []
  | .group trees => ImportTree.namesAll parent trees

/-- The names that trees of imports introduce. -/
def ImportTree.namesAll (parent : Option Name) : List ImportTree → List Name
  | [] => []
  | tree :: rest => tree.names parent ++ ImportTree.namesAll parent rest

end

/-- The names that are listed for an item of a sort. -/
def ItemKind.names : ItemKind → List Name
  | .constant name | .enumeration name | .function name | .declaredModule name | .static name
  | .trait name | .traitAlias name | .typeAlias name | .union name => [name]
  | .import tree => tree.names none
  | .externCrate .. | .externBlock _ | .implementation | .macroCall => []

namespace Item

/-- The attributes of an item. -/
def attributes : Item → List Attribute
  | inlineModule head _ => head.attributes
  | struct s => s.attributes
  | plain p => p.attributes
  | verbatim _ => []
  | generated _ => []

/-- The names that are listed for an item. -/
def names : Item → List Name
  | inlineModule head _ => [head.name]
  | struct s => [s.name]
  | plain p => p.kind.names
  | verbatim _ => []
  | generated code => code.filterMap fun c => c.name?.map fun i => ⟨i, .start⟩

/-- What an item is, in words. -/
def describe : Item → String
  | inlineModule .. => "a module"
  | plain p => match p.kind with
      | .constant _ => "a const"
      | .enumeration _ => "an enum"
      | .function _ => "a function"
      | .implementation => "an impl block"
      | .declaredModule _ => "a module"
      | .static _ => "a static"
      | .trait _ => "a trait"
      | .typeAlias _ => "a type alias"
      | .union _ => "a union"
      | .import _ => "a use declaration"
      | .externCrate .. | .externBlock _ | .macroCall | .traitAlias _ => "an unsupported item"
  | struct _ | verbatim _ | generated _ => "an unsupported item"

end Item

/-! ## Tokens -/

/-- The attributes that stand before an item. -/
def outerTokens (attributes : List Attribute) : List Token :=
  Attribute.tokensAll (Attribute.outer attributes)

/-- A body in braces, with the attributes that stand in it. -/
def bodyTokens (attributes : List Attribute) (content : List Token) : Token :=
  .inGroup .brace (Attribute.tokensAll (Attribute.inners attributes) ++ content)

/-- The tokens of a plain item. -/
def PlainItem.tokens (p : PlainItem) : List Token :=
  outerTokens p.attributes ++ p.head ++ (p.body.map fun content =>
    [bodyTokens p.attributes content]).getD []

/-- The tokens of a struct. -/
def StructItem.tokens (s : StructItem) : List Token :=
  let condition := s.condition.getD []
  outerTokens s.attributes ++ s.visibility.tokens ++ [.ofWord "struct", .ofName s.name] ++
    s.generics ++ match s.fields with
      | .unit => condition ++ Token.symbol ";"
      | .unnamed content opens closes =>
          [.group .parenthesis content opens closes] ++ condition ++ Token.symbol ";"
      | .named content opens closes => condition ++ [.group .brace content opens closes]

/-- The tokens of a module up to its body. -/
def ModuleHead.tokens (h : ModuleHead) : List Token :=
  outerTokens h.attributes ++ h.visibility.tokens ++
    (if h.isUnsafe then [.ofWord "unsafe"] else []) ++ [.ofWord "mod", .ofName h.name]

mutual

/-- The tokens of an item. -/
def Item.tokens : Item → List Token
  | .inlineModule head items => head.tokens ++ [bodyTokens head.attributes (Item.tokensAll items)]
  | .struct s => s.tokens
  | .plain p => p.tokens
  | .verbatim tokens => tokens
  | .generated code => code.flatMap Code.Item.tokens

/-- The tokens of items. -/
def Item.tokensAll : List Item → List Token
  | [] => []
  | item :: rest => item.tokens ++ Item.tokensAll rest

end

/-- The tokens of a module. -/
def Module.tokens (m : Module) : List Token :=
  m.head.tokens ++ match m.items? with
    | some items => [bodyTokens m.head.attributes (Item.tokensAll items)]
    | none => Token.symbol ";"

end DomainValues
