import DomainValues.Source.Grammar

/-!
# Attributes

An attribute is `#[path]`, `#[path(..)]` with any brackets, or `#[path = value]`; an inner one
has `!` after the `#`.  The tokens of arguments are kept as they are, and a value is an
expression in uniform form.

A directive is an attribute whose path is a single name, the name of a kind.  Which attribute is
one is decided elsewhere; here is only `Attribute.name?`.
-/

namespace DomainValues

/-- The path of an attribute: names joined by `::`. -/
structure NamePath where
  /-- Where the path starts. -/
  position : Position
  /-- Whether it starts with `::`. -/
  absolute : Bool
  /-- Its names. -/
  names : List Name
  deriving Repr

/-- What follows the path of an attribute. -/
inductive AttributeArguments where
  /-- Nothing. -/
  | none
  /-- Tokens in brackets, with the places of the brackets. -/
  | list (delimiter : Delimiter) (tokens : List Token) (opens closes : Position)
  /-- An equals sign and a value. -/
  | value (tokens : List Token)
  deriving Repr

/-- An attribute. -/
structure Attribute where
  /-- Where it starts. -/
  position : Position
  /-- Whether it applies to what it stands in. -/
  inner : Bool
  /-- Its path. -/
  path : NamePath
  /-- What follows the path. -/
  arguments : AttributeArguments
  deriving Repr

namespace NamePath

/-- The tokens of the names, joined by `::`. -/
def nameTokens : List Name → List Token
  | [] => []
  | [n] => [.ofName n]
  | n :: rest => .ofName n :: Token.symbol "::" ++ nameTokens rest

/-- The tokens of the path. -/
def tokens (p : NamePath) : List Token :=
  (if p.absolute then Token.symbol "::" else []) ++ nameTokens p.names

/-- The name of a path that is a single name. -/
def single? (p : NamePath) : Option Ident :=
  match p.absolute, p.names with
  | false, [n] => some n.ident
  | _, _ => none

/-- The names in the tokens of a path. -/
def namesOf (tokens : List Token) : List Name :=
  tokens.filterMap fun
    | .word i p => some ⟨i, p⟩
    | _ => none

/-- The path whose tokens these are. -/
def ofTokens (tokens : List Token) : NamePath :=
  { position := (tokens.head?.map Token.position).getD .start
    absolute := tokens.head?.any fun
      | .mark .. => true
      | _ => false
    names := namesOf tokens }

end NamePath

namespace Attribute

/-- The name of an attribute whose path is a single name. -/
def name? (a : Attribute) : Option Ident := a.path.single?

/-- What stands after the path. -/
def argumentTokens : AttributeArguments → List Token
  | .none => []
  | .list d content opens closes => [.group d content opens closes]
  | .value content => Token.symbol "=" ++ content

/-- The tokens of an attribute. -/
def tokens (a : Attribute) : List Token :=
  .mark '#' false a.position ::
    ((if a.inner then Token.symbol "!" else []) ++
      [.inGroup .bracket (a.path.tokens ++ argumentTokens a.arguments)])

/-- The tokens of attributes. -/
def tokensAll (as : List Attribute) : List Token := as.flatMap tokens

/-- The outer ones, in order. -/
def outer (as : List Attribute) : List Attribute := as.filter fun a => !a.inner

/-- The inner ones, in order. -/
def inners (as : List Attribute) : List Attribute := as.filter fun a => a.inner

open Source in
/-- Reads the content of the brackets of an attribute. -/
def ofContent? (position : Position) (inner : Bool) (content : List Token) : Option Attribute := do
  let (path, rest) ← Grammar.take? (.either (.word "unsafe") Grammar.namePath) content
  let arguments ← match rest with
    | [] => some AttributeArguments.none
    | [.group d tokens p q] => some (.list d tokens p q)
    | _ => do
        let (value, []) ← Grammar.take? (.both (Rule.op "=") Grammar.expression) rest | none
        pure (.value (value.drop 1))
  pure { position, inner, path := .ofTokens path, arguments }

/-- Reads the outer attributes at the start of a row.  A `#` there always starts one. -/
def readOuter? : List Token → Option (List Attribute × List Token)
  | .mark '#' _ p :: .group .bracket content _ _ :: rest => do
      let first ← ofContent? p false content
      let (more, rest) ← readOuter? rest
      pure (first :: more, rest)
  | .mark '#' _ _ :: _ => none
  | tokens => some ([], tokens)

/-- Reads the inner attributes at the start of a body. -/
def readInner? : List Token → Option (List Attribute × List Token)
  | .mark '#' _ p :: .mark '!' _ _ :: .group .bracket content _ _ :: rest => do
      let first ← ofContent? p true content
      let (more, rest) ← readInner? rest
      pure (first :: more, rest)
  | .mark '#' _ _ :: .mark '!' _ _ :: _ => none
  | tokens => some ([], tokens)

end Attribute
end DomainValues
