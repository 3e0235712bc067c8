import DomainValues.Generation
import DomainValues.Registry

/-!
# Installing what a pass generated

A generated declaration is a value type.  The code of a registration has a table of names, and a
function that registers adapters one after the other, each by its path from the root.  To install
what a pass generated is to run this function, where each path leads to the standard adapter of the
type whose generated adapter stands there.
-/

namespace DomainValues

/-- The value type that a product declares. -/
def Product.valueType (p : Product) : ValueType :=
  ⟨p.declaration.qualified, p.declaration.name.bare, p.params⟩

namespace Code

/-- The adapter that a statement registers, stopping with the error if it is refused. -/
def Statement.registered? : Statement → Option Expr
  | .perform (.propagate (.method (.path (.variable registry) []) method [] [adapter])) =>
      if registry = .plain "registry" ∧ method = "register" then some adapter else none
  | _ => none

/-- The text of a literal. -/
def Expr.text? : Expr → Option String
  | .literal (.text value) => some value
  | _ => none

end Code

namespace Registration

/-- The adapters that a member registers when it is run to install. -/
def callsOf : Code.Member → List Code.Expr
  | .function f =>
      if f.name = "install_into" then f.body.statements.filterMap Code.Statement.registered? else []
  | _ => []

/-- The adapters that the code of a registration registers, in the order of the calls. -/
def calls (r : Registration) : List Code.Expr :=
  (r.code.flatMap Code.Item.members).flatMap callsOf

/-- The names in a member, if it is the table of names. -/
def namesOf : Code.Member → List String
  | .constant _ _ name _ (.borrow (.array texts)) =>
      if name = "NAMES" then texts.filterMap Code.Expr.text? else []
  | _ => []

/-- The names in the table of a registration. -/
def nameTable (r : Registration) : List String :=
  (r.code.flatMap Code.Item.members).flatMap namesOf

end Registration

namespace Generation

/-- The adapter of the type whose generated adapter stands at a path. -/
def adapterAt? (g : Generation) : Code.Expr → Option (ScalarAdapter ValueType)
  | .path .root segments =>
      (g.products.find? fun p =>
        p.adapter.scope.map Name.ident ++ [p.adapter.name] == segments).map
          fun p => .standard p.valueType
  | _ => none

/-- What the registration of a pass installs, if there is one and its paths lead to adapters. -/
def installer? (g : Generation) : Option (Installer ValueType) := do
  let r ← g.registration
  let adapters ← r.calls.mapM g.adapterAt?
  pure (.ofAdapters adapters)

end Generation
end DomainValues
