import DomainValues.Source.Attribute

/-!
# Visibilities

An item is visible to its module, everywhere, or inside the module that a path names.
-/

namespace DomainValues

/-- Who may name an item. -/
inductive Visibility where
  /-- The module it stands in. -/
  | inherited
  /-- Everyone. -/
  | everywhere
  /-- The module of a path, which is written after `in` unless it is a single keyword. -/
  | inside (path : NamePath) (spelled : Bool)
  deriving Repr

namespace Visibility

/-- The tokens of a visibility. -/
def tokens : Visibility → List Token
  | inherited => []
  | everywhere => [.ofWord "pub"]
  | inside path spelled =>
      [.ofWord "pub",
        .inGroup .parenthesis ((if spelled then [.ofWord "in"] else []) ++ path.tokens)]

/-- The visibility whose tokens these are. -/
def ofTokens : List Token → Visibility
  | [.word _ _, .group _ (.word i p :: path) _ _] =>
      if i = .plain "in" then .inside (.ofTokens path) true
      else .inside (.ofTokens (.word i p :: path)) false
  | [] => .inherited
  | _ => .everywhere

open Source in
/-- Takes the visibility at the start of a row. -/
def take (tokens : List Token) : Visibility × List Token :=
  match Grammar.take? Grammar.visibility tokens with
  | some (found, rest) => (ofTokens found, rest)
  | none => (inherited, tokens)

/-- Whether code at the root can name an item of this visibility that stands so many modules
deep.  A path is taken to lead to the root or above it, apart from `self` and `super`. -/
def reaches (v : Visibility) (depth : Nat) : Bool :=
  depth == 0 || match v with
    | inherited => false
    | everywhere => true
    | inside path _ => match path.single? with
        | some i => i != .plain "self" && (i != .plain "super" || depth == 1)
        | none => true

end Visibility
end DomainValues
