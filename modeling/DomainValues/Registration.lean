import DomainValues.Adapter

/-!
# Registrations

The registration of a pass is one type that installs all adapters of the pass.  Its entries are
sorted by the names of the types without `r#`.
-/

namespace DomainValues

open Code

/-- One adapter of a registration. -/
structure RegistrationEntry where
  /-- The name of the type, without `r#`. -/
  name : String
  /-- The path of the adapter from the root. -/
  adapter : Expr
  deriving Repr

/-- The registration of a pass. -/
structure Registration where
  /-- The name of the registration type. -/
  registry : Ident
  /-- Its entries. -/
  entries : List RegistrationEntry
  /-- Its code. -/
  code : List Code.Item
  deriving Repr

namespace Registration

/-- The entry of an adapter. -/
def entryOf (a : Adapter) : RegistrationEntry := ⟨a.value.bare, a.path⟩

/-- The entries of adapters, in the order of their names; those of one name keep their order. -/
def entriesOf (adapters : List Adapter) : List RegistrationEntry :=
  (adapters.map entryOf).mergeSort fun a b => decide (a.name ≤ b.name)

/-- The code of a registration. -/
def codeOf (o : Options) (entries : List RegistrationEntry) : List Code.Item :=
  let type := generatedType o.registry
  let register (e : RegistrationEntry) :=
    Statement.perform (.propagate (on (var "registry") "register" [e.adapter]))
  [.struct [] (.fixed "Installs the serialization adapter of every value type in this module.")
    ["Clone", "Copy", "Debug", "Default"] .everywhere o.registry none,
   inherent type
    [.constant (some "Registered value type names, sorted.") true "NAMES"
      (refStatic (.slice (refStatic str)))
      (.borrow (.array (entries.map fun e => textOf e.name)))],
   implement (runtimeType o.runtime ["Installable"]) type
    [(fn "install_into" [("registry", refMut (runtimeType o.runtime ["AdapterRegistry"]))]
      (result .unit (runtimeType o.runtime ["RegistryError"]))
      ⟨entries.map register, some (success .unit)⟩).shared.wide]]

/-- The registration of adapters, if there are any. -/
def ofAdapters? (o : Options) (adapters : List Adapter) : Option Registration :=
  match entriesOf adapters with
  | [] => none
  | entries => some ⟨o.registry, entries, codeOf o entries⟩

/-- The tokens of a registration. -/
def tokens (r : Registration) : List Token := r.code.flatMap Code.Item.tokens

end Registration
end DomainValues
