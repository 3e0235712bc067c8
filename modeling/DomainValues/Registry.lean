import DomainValues.Log
import DomainValues.Value

/-!
# Registries

A registry holds adapters, at most one for a type and at most one for a name.  An adapter
converts the values of its type to and from scalars; the standard one goes through the canonical
scalar.  Whoever knows a type converts its values; whoever knows only a name has a scalar checked
and brought into canonical form.

The types belong to a family, in which several types may have one name (`TypeFamily`).  The value
types that a pass generates are one such family.

Adapters stand in the order of registration, and two maps give the index of the adapter of a name
and of a type.  What is installed registers adapters one after the other, and is told of each
whether it was refused (`Installer`).
-/

namespace DomainValues

/-- A family of types with values, which are told apart by more than their names. -/
class TypeFamily (τ : Type) where
  /-- The name of a type. -/
  name : τ → String
  /-- The kind of a type. -/
  kind : τ → Kind
  /-- The values of a type. -/
  Carrier : τ → Type

instance : TypeFamily ValueType := ⟨ValueType.name, ValueType.kind, Value⟩

/-- How the values of a type are exchanged. -/
structure ScalarAdapter (τ : Type) [TypeFamily τ] where
  /-- The type. -/
  type : τ
  /-- The scalar of a value. -/
  encode : TypeFamily.Carrier type → Scalar
  /-- The value of a scalar. -/
  decode : Scalar → Except DecodeError (TypeFamily.Carrier type)

namespace ScalarAdapter

/-- The adapter that goes through the canonical scalar. -/
def standard (t : ValueType) : ScalarAdapter ValueType := ⟨t, Value.toScalar, Value.ofScalar t⟩

/-- The adapter that goes through the canonical text. -/
def textual (t : ValueType) : ScalarAdapter ValueType where
  type := t
  encode v := .text (Value.format v)
  decode s := do Value.ofText t (← s.requireText t.name)

variable {τ : Type} [TypeFamily τ]

/-- The name of the type. -/
def name (a : ScalarAdapter τ) : String := TypeFamily.name a.type

/-- The kind of the type. -/
def kind (a : ScalarAdapter τ) : Kind := TypeFamily.kind a.type

/-- The canonical form of a scalar. -/
def canonical (a : ScalarAdapter τ) (s : Scalar) : Except DecodeError Scalar :=
  (a.decode s).map a.encode

/-- The document of a value. -/
def encodeJson (a : ScalarAdapter τ) (v : TypeFamily.Carrier a.type) : Json := (a.encode v).toJson

/-- The value of a document: the document must be a scalar. -/
def decodeJson (a : ScalarAdapter τ) (document : Json) :
    Except DecodeError (TypeFamily.Carrier a.type) := do
  a.decode (← Scalar.ofJson document)

/-- The adapter as an adapter of a given type, if it is one. -/
def of? [DecidableEq τ] (t : τ) (a : ScalarAdapter τ) :
    Option { b : ScalarAdapter τ // b.type = t } :=
  if h : a.type = t then some ⟨a, h⟩ else none

theorem of?_eq_some_iff [DecidableEq τ] {t : τ} {a : ScalarAdapter τ}
    {b : { b : ScalarAdapter τ // b.type = t }} : a.of? t = some b ↔ a = b.1 := by
  obtain ⟨b, same⟩ := b
  unfold of?
  split
  case isTrue => simp
  case isFalse different =>
    refine ⟨nofun, ?_⟩
    rintro rfl
    exact absurd same different

end ScalarAdapter

/-- Why a registry gives no answer. -/
inductive RegistryError where
  /-- The name or the type of an adapter has one already. -/
  | alreadyRegistered (name : String)
  /-- Nothing is registered for a type or a name. -/
  | unknownType (name : String)
  /-- The adapter that is found for a type is of another type. -/
  | typeMismatch (name : String)
  /-- The scalar holds no value. -/
  | decode (error : DecodeError)
  /-- An index lies beyond the adapters.  This is no answer: the program stops. -/
  | outOfBounds (index size : Nat)
  deriving DecidableEq

/-- The error in words. -/
def RegistryError.message : RegistryError → String
  | alreadyRegistered name => "an adapter for `" ++ name ++ "` is already registered"
  | unknownType name => "no adapter is registered for `" ++ name ++ "`"
  | typeMismatch name =>
      "the adapter registered as `" ++ name ++ "` does not convert the requested type"
  | decode e => e.message
  | outOfBounds index size =>
      s!"index out of bounds: the len is {size} but the index is {index}"

/-- Registered adapters, and the maps that lead to them. -/
structure Registry (τ : Type) [TypeFamily τ] where
  /-- The adapters, in the order of registration. -/
  entries : List (ScalarAdapter τ)
  /-- The index of the adapter of a name, the newest first. -/
  byName : List (String × Nat)
  /-- The index of the adapter of a type, the newest first. -/
  byType : List (τ × Nat)

namespace Registry

variable {τ : Type} [TypeFamily τ]

/-- The registry without an adapter. -/
def empty : Registry τ := ⟨[], [], []⟩

/-- The number of adapters. -/
def size (r : Registry τ) : Nat := r.entries.length

/-- The names of the types that have adapters. -/
def names (r : Registry τ) : List String := r.entries.map ScalarAdapter.name

/-- Whether a name has an adapter. -/
def contains (r : Registry τ) (name : String) : Bool := (r.byName.lookup name).isSome

/-- The adapter at an index. -/
def entryAt (r : Registry τ) (index : Nat) : Except RegistryError (ScalarAdapter τ) :=
  match r.entries[index]? with
  | some a => .ok a
  | none => .error (.outOfBounds index r.size)

/-- The adapter of a name, if it has one. -/
def find? (r : Registry τ) (name : String) : Except RegistryError (Option (ScalarAdapter τ)) :=
  match r.byName.lookup name with
  | some index => (r.entryAt index).map some
  | none => .ok none

/-- The kind of the type of a name, if the name has an adapter. -/
def kind? (r : Registry τ) (name : String) : Except RegistryError (Option Kind) :=
  (r.find? name).map (Option.map ScalarAdapter.kind)

/-- The registry with one more adapter, which the maps lead to. -/
def push (r : Registry τ) (a : ScalarAdapter τ) : Registry τ where
  entries := r.entries ++ [a]
  byName := (a.name, r.size) :: r.byName
  byType := (a.type, r.size) :: r.byType

section

variable [DecidableEq τ]

/-- Whether a type has an adapter. -/
def containsType (r : Registry τ) (t : τ) : Bool := (r.byType.lookup t).isSome

/-- The adapter of a type. -/
def adapterOf (r : Registry τ) (t : τ) :
    Except RegistryError { a : ScalarAdapter τ // a.type = t } :=
  match r.byType.lookup t with
  | none => .error (.unknownType (TypeFamily.name t))
  | some index => do
      let a ← r.entryAt index
      match a.of? t with
      | some typed => .ok typed
      | none => .error (.typeMismatch a.name)

end

/-- The adapter of a type is the one that its index leads to. -/
theorem adapterOf_eq_ok_iff [DecidableEq τ] {r : Registry τ} {t : τ}
    {a : { a : ScalarAdapter τ // a.type = t }} :
    r.adapterOf t = .ok a ↔
      ∃ index, r.byType.lookup t = some index ∧ r.entries[index]? = some a.1 := by
  unfold adapterOf entryAt
  cases r.byType.lookup t with
  | none => simp
  | some index =>
      simp only [Option.some.injEq, exists_eq_left']
      cases r.entries[index]? with
      | none => simp [bind, Except.bind]
      | some b =>
          rw [Option.some.injEq, ← ScalarAdapter.of?_eq_some_iff]
          simp only [bind, Except.bind]
          cases b.of? t <;> simp

/-! ## Registering -/

/-- The outcome of registering adapters. -/
structure Installation (τ : Type) [TypeFamily τ] where
  /-- The registry after it. -/
  registry : Registry τ
  /-- Why it failed, if it did. -/
  error : Option RegistryError
  /-- What happened. -/
  events : List Event

section

variable [DecidableEq τ]

/-- Whether an adapter is refused. -/
def refuses (r : Registry τ) (a : ScalarAdapter τ) : Bool :=
  r.contains a.name || r.containsType a.type

/-- Registers an adapter, unless it is refused. -/
def register (r : Registry τ) (a : ScalarAdapter τ) : Installation τ :=
  if r.refuses a then ⟨r, some (.alreadyRegistered a.name), [.alreadyRegistered a.name]⟩
  else ⟨r.push a, none, [.registered a.name a.kind]⟩

end
end Registry

/-- What is installed into a registry. -/
inductive Installer (τ : Type) [TypeFamily τ] where
  /-- Nothing more, with a result. -/
  | finish (error : Option RegistryError)
  /-- What follows from the state of the registry. -/
  | look (next : Registry τ → Installer τ)
  /-- An adapter, and then what follows from its being refused or not. -/
  | register (adapter : ScalarAdapter τ) (next : Option RegistryError → Installer τ)

namespace Installer

variable {τ : Type} [TypeFamily τ]

/-- Adapters in their order, up to the first that is refused. -/
def ofAdapters : List (ScalarAdapter τ) → Installer τ
  | [] => .finish none
  | a :: rest => .register a fun
      | none => ofAdapters rest
      | some e => .finish (some e)

/-- The standard adapters of types, in the order of their names. -/
def ofTypes (types : List ValueType) : Installer ValueType :=
  ofAdapters ((types.mergeSort fun t u => decide (t.name ≤ u.name)).map ScalarAdapter.standard)

/-- Installs into a registry. -/
def run [DecidableEq τ] : Installer τ → Registry τ → Registry.Installation τ
  | .finish error, r => ⟨r, error, []⟩
  | .look next, r => (next r).run r
  | .register a next, r =>
      let first := r.register a
      let rest := (next first.error).run first.registry
      { rest with events := first.events ++ rest.events }

end Installer

namespace Registry

variable {τ : Type} [TypeFamily τ]

section

variable [DecidableEq τ]

/-- Installs something. -/
def install (r : Registry τ) (i : Installer τ) : Installation τ := i.run r

/-! ## Converting -/

/-- The scalar of a value. -/
def encode (r : Registry τ) {t : τ} (v : TypeFamily.Carrier t) : Except RegistryError Scalar :=
  (r.adapterOf t).map fun ⟨a, same⟩ => a.encode (same ▸ v)

/-- The document of a value. -/
def encodeJson (r : Registry τ) {t : τ} (v : TypeFamily.Carrier t) : Except RegistryError Json :=
  (r.encode v).map Scalar.toJson

/-- The value of a scalar. -/
def decode (r : Registry τ) (t : τ) (s : Scalar) :
    Except RegistryError (TypeFamily.Carrier t) := do
  let ⟨a, same⟩ ← r.adapterOf t
  same ▸ (a.decode s).mapError RegistryError.decode

end

/-- The scalar of a document. -/
def scalarOf (document : Json) : Except RegistryError Scalar :=
  (Scalar.ofJson document).mapError .decode

/-- The value of a document. -/
def decodeJson [DecidableEq τ] (r : Registry τ) (t : τ) (document : Json) :
    Except RegistryError (TypeFamily.Carrier t) := do
  r.decode t (← scalarOf document)

/-- The canonical form of a scalar, as a value of the type of a name. -/
def decodeByName (r : Registry τ) (name : String) (s : Scalar) : Except RegistryError Scalar := do
  match ← r.find? name with
  | some a => (a.canonical s).mapError .decode
  | none => .error (.unknownType name)

/-- The canonical form of a document, as a value of the type of a name. -/
def validateJson (r : Registry τ) (name : String) (document : Json) :
    Except RegistryError Json := do
  (r.decodeByName name (← scalarOf document)).map Scalar.toJson

/-! ## Showing -/

/-- An entry as it is shown to programmers. -/
def entryText (a : ScalarAdapter τ) : String :=
  Text.quoted a.name ++ ": " ++ a.kind.variantName

/-- The entries in braces, on one line. -/
def debug (r : Registry τ) : String :=
  "\x7b" ++ ", ".intercalate (r.entries.map entryText) ++ "\x7d"

/-- The entries in braces, one a line. -/
def debugLines (r : Registry τ) : String :=
  if r.entries.isEmpty then "\x7b\x7d"
  else "\x7b\n" ++ String.join (r.entries.map fun a => "    " ++ entryText a ++ ",\n") ++ "\x7d"

end Registry
end DomainValues
