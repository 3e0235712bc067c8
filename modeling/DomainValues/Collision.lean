import DomainValues.Declaration

/-!
# Collisions

Names are compared without `r#`.  A declaration is kept if its name is declared once in the
whole tree of modules, and if neither it nor its adapter takes a name that something else has: the
registration type at the root, or an item of the same module.

An item at the root that is named like the registration type keeps the registration from being
made.  It is reported unless a declaration of that name has been.
-/

namespace DomainValues

/-- The identifier of the adapter of a type. -/
def Ident.adapter (i : Ident) : Ident := .plain (i.name ++ "JsonAdapter")

/-- The identifier of the adapter of a declared type. -/
def Declaration.adapter (d : Declaration) : Ident := d.name.ident.adapter

/-- Names without `r#`. -/
def bareNames (names : List Name) : List String := names.map Name.bare

/-- The key by which modules are told apart: the names of a module and of those around it, joined
by `::`. -/
def namespaceKey (scope : List Name) : String := "::".intercalate (bareNames scope)

/-- The report of a name that the registration type has. -/
def registryClash (name : Name) : Diagnostic :=
  { code := .v3002
    message := "`" ++ name.bare ++ "` collides with the generated registration type"
    position := name.position
    notes := []
    help := ["rename the item or pass `registry = OtherName`"] }

/-- The report of a name that is declared more than once, given the other declarations. -/
def duplicateName (name : Name) (others : List Declaration) : Diagnostic :=
  { code := .v3001
    message := "value type `" ++ name.bare ++ "` is declared more than once"
    position := name.position
    notes := ["also declared as " ++
      ", ".intercalate (others.map fun d => "`" ++ d.qualified ++ "`")]
    help := ["value type names must be unique across the annotated module"] }

/-- The report of an adapter whose name is taken. -/
def adapterClash (name : Name) : Diagnostic :=
  let adapter := name.ident.adapter.name
  { code := .v3002
    message := "adapter `" ++ adapter ++ "` generated for `" ++ name.bare ++
      "` collides with an item of the same name"
    position := name.position
    notes := []
    help := ["rename `" ++ name.bare ++ "` or the item named `" ++ adapter ++ "`"] }

/-- Whether an item of a module introduces a name. -/
def isTaken (names : List NamedItem) (scope : List Name) (name : String) : Bool :=
  names.any fun n => namespaceKey n.scope == namespaceKey scope && n.name.bare == name

/-- The declarations at other indices that have the name of one. -/
def namesakes (declarations : List Declaration) (index : Nat) (d : Declaration) :
    List Declaration :=
  (declarations.zipIdx.filter fun (other, i) => i != index && other.name.bare == d.name.bare).map
    Prod.fst

/-- The report of a declaration that collides with something, if it does. -/
def clash? (declarations : List Declaration) (names : List NamedItem) (registry : Ident)
    (index : Nat) (d : Declaration) : Option Diagnostic :=
  let others := namesakes declarations index d
  let atRoot := d.scope.isEmpty
  if !others.isEmpty then some (duplicateName d.name others)
  else if atRoot && d.name.bare == registry.name then some (registryClash d.name)
  else if isTaken names d.scope d.adapter.name || (atRoot && d.adapter.name == registry.name) then
    some (adapterClash d.name)
  else none

/-- Declarations sorted by whether they collide with something. -/
structure Collisions where
  /-- Those that do not. -/
  kept : List Declaration
  /-- Those that do, with the reports. -/
  rejected : List (Declaration × Diagnostic)
  /-- The reports of other items that are named like the registration type. -/
  clashes : List Diagnostic
  /-- Whether nothing at the root is named like the registration type. -/
  registryAvailable : Bool
  deriving Repr

/-- All reports. -/
def Collisions.diagnostics (c : Collisions) : List Diagnostic :=
  c.rejected.map Prod.snd ++ c.clashes

/-- Looks for collisions among declarations, the names of items, and the registration type. -/
def findCollisions (declarations : List Declaration) (names : List NamedItem) (registry : Ident) :
    Collisions :=
  let judged := declarations.zipIdx.map fun (d, i) => (d, clash? declarations names registry i d)
  let takers := names.filter fun n => n.scope.isEmpty && n.name.bare == registry.name
  { kept := judged.filterMap fun (d, clash) => if clash.isNone then some d else none
    rejected := judged.filterMap fun (d, clash) => clash.map fun report => (d, report)
    clashes := if declarations.any fun d => d.name.bare == registry.name then []
      else takers.map fun n => registryClash n.name
    registryAvailable := takers.isEmpty }

/-- Looks for collisions in what a module declares. -/
def Discovery.collisions (d : Discovery) (registry : Ident) : Collisions :=
  findCollisions d.declarations d.names registry

end DomainValues
