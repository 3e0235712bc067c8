import DomainValues.Proofs.Rediscovery
import DomainValues.Proofs.Scoping

/-!
# What generated code refers to

Generated code names other generated code of its module, and the registration names adapters by
their paths from the root (`Code.Reference`).  What is generated for a declaration refers to its
type and to its adapter and to nothing else.  A registration refers to its own type and to the
adapters of its entries.

Main statements:

* `Product.Made.references`, `Product.Made.exists_reference`: what the code of a product refers to.
* `Registration.references_codeOf`, `Registration.exists_reference`: what a registration refers to.
-/

namespace DomainValues

open Code

/-! ## What code refers to -/

namespace Code

/-- How code refers to generated code. -/
inductive Reference where
  /-- By the name of an item of the same module. -/
  | sibling (name : Ident)
  /-- By a path from the root. -/
  | fromRoot (path : List Ident)
  deriving DecidableEq, Repr

/-- The generated code that a path refers to. -/
def Mention.reference? (p : Mention) : Option Reference :=
  match p.origin with
  | .generated name => some (.sibling name)
  | .root => some (.fromRoot p.segments)
  | _ => none

/-- What an item refers to. -/
def Item.references (item : Item) : List Reference :=
  item.uses.filterMap fun u => u.toMention.reference?

/-- What a reference from a site leads to: an item of the name in the same module, or in the
modules of the path. -/
def Reference.LeadsTo (site : Site) : Reference → Site × Item → Prop
  | .sibling name, target => target.1.slot.modules = site.slot.modules ∧ target.2.name? = some name
  | .fromRoot path, target => ∃ name, target.2.name? = some name ∧
      target.1.scope.map Name.ident ++ [name] = path

end Code

/-! ## The code of a product -/

namespace Product.Made

variable {o : Options} {p : Product} (made : p.Made o)
include made

/-- The only names that are introduced are those of the type, whose struct has the attributes of
the user, and of the adapter, whose struct has none. -/
theorem named_eq :
    p.code.filterMap (fun c => c.name?.map fun i => (i, c.kept)) =
      [(p.declaration.name.ident, p.declaration.attributes), (p.declaration.adapter, [])] := by
  rw [Product.code, made.implementation, made.adapter]
  cases p.params <;> rfl

end Product.Made

section

attribute [local simp] Code.Item.references Mention.reference? Code.Item.uses Member.uses
  Function.mentions TypeExpr.mentions typeMentions Expr.mentions exprMentions Statement.mentions
  core primitive selfType associated generatedType runtimeType parameterType ref refMut refStatic
  str string option result coreItem runtimeItem var selfItem generatedItem wrap own success on
  textOf fn Function.exported Function.inConstants Function.documented Function.shared
  Function.owned Function.wide Function.silent Function.withParameter implement inherent
  Block.ofExpr Target.type Target.nameText Target.provided Target.helper Target.checked
  Target.malformed Target.fromViolation Target.showing Target.reading Target.converting
  Target.reparsing Target.unwrapping Target.wrapping Target.writing Target.restoring
  Target.encoding Target.decoding

namespace Target

open Implementation (NumberForm)

/-- The code of a type refers to the type only. -/
theorem references_codeOf (t : Target) (params : Params) :
    ∀ c ∈ Implementation.codeOf t params, ∀ r ∈ c.references, r = .sibling t.name := by
  cases params with
  | identifier =>
      simp [Implementation.codeOf, Implementation.identifier, Implementation.ofUuid,
        Implementation.identifierParse, Implementation.identifierRead, wrapper, display, fromText,
        valueType]
  | boundedText min max pattern =>
      cases pattern <;>
        simp [Implementation.codeOf, Implementation.boundedText, Implementation.textConstants,
          Implementation.textNew, Implementation.textParse, Implementation.textValidate,
          Implementation.textRead, Implementation.validated, Implementation.patternCheck, wrapper,
          display, fromText, conversions, valueType]
  | boundedInteger min max =>
      simp [Implementation.codeOf, Implementation.boundedInteger, Implementation.numberInherent,
        Implementation.numberTrait, Implementation.numberText, NumberForm.integer,
        NumberForm.constants, NumberForm.new, NumberForm.parse, NumberForm.read, NumberForm.parsed,
        wrapper, display, fromText, conversions, valueType]
  | boundedReal min max =>
      simp [Implementation.codeOf, Implementation.boundedReal, Implementation.numberInherent,
        Implementation.numberTrait, Implementation.numberText, NumberForm.real,
        NumberForm.constants, NumberForm.new, NumberForm.parse, NumberForm.read, NumberForm.parsed,
        Implementation.realOrder, Implementation.realEqual, Implementation.realCompare,
        Implementation.realPartialCompare, Implementation.bits, Implementation.other,
        Implementation.ordering, wrapper, display, fromText, conversions, valueType]

/-- So does the code for serialization. -/
theorem references_serialization (t : Target) (kind : Kind) :
    ∀ c ∈ t.serialization kind, ∀ r ∈ c.references, r = .sibling t.name := by
  cases kind <;> simp [serialization, serialTrait, serialize, serialized, restore, readText]

/-- The code of an adapter refers to the type and to the adapter. -/
theorem references_adapter (t : Target) (kind : Kind) :
    ∀ c ∈ t.adapter kind, ∀ r ∈ c.references,
      r = .sibling t.declaration.adapter ∨ r = .sibling t.name := by
  intro c written r refers
  rcases List.mem_cons.1 written with rfl | written
  · cases refers
  · obtain rfl := List.mem_singleton.1 written
    cases kind <;> simpa [encode, decode, readText] using refers

/-- The implementation of writing refers to the type. -/
theorem exists_reference (t : Target) (kind : Kind) :
    ∃ c ∈ t.serialization kind, c.kept = [] ∧ .sibling t.name ∈ c.references :=
  ⟨_, List.mem_cons_self, rfl, by simp⟩

end Target

namespace Registration

theorem mentions_names (entries : List RegistrationEntry) :
    exprMentions (entries.map fun e => .literal (.text e.name)) = [] := by
  induction entries with
  | nil => rfl
  | cons e rest ih =>
      rw [List.map_cons, exprMentions, ih]
      rfl

/-- A registration introduces no name but its own. -/
theorem named_codeOf {o : Options} {entries : List RegistrationEntry} {c : Code.Item} {i : Ident}
    (written : c ∈ codeOf o entries) (name : c.name? = some i) : i = o.registry := by
  rcases List.mem_cons.1 written with rfl | written
  · exact (Option.some.inj name).symm
  · rcases List.mem_cons.1 written with rfl | written
    · cases name
    · obtain rfl := List.mem_singleton.1 written
      cases name

/-- The adapter of an entry is referred to where it is registered. -/
theorem exists_reference (o : Options) {entries : List RegistrationEntry} {e : RegistrationEntry}
    (listed : e ∈ entries) {path : List Ident} (adapter : e.adapter = .path .root path) :
    ∃ c ∈ codeOf o entries, c.kept = [] ∧ .fromRoot path ∈ c.references := by
  refine ⟨_, List.mem_cons_of_mem _ (List.mem_cons_of_mem _ List.mem_cons_self), rfl, ?_⟩
  have mentioned : ∃ e ∈ entries, (⟨.root, path, path.isEmpty⟩ : Mention) ∈ e.adapter.mentions :=
    ⟨e, listed, by rw [adapter]; exact List.mem_singleton_self _⟩
  exact List.mem_filterMap.2 ⟨⟨⟨.root, path, path.isEmpty⟩, []⟩, by simpa using mentioned, rfl⟩

/-- A registration refers to its own type and to the adapters of its entries. -/
theorem references_codeOf (o : Options) (entries : List RegistrationEntry) :
    ∀ c ∈ codeOf o entries, ∀ r ∈ c.references, r = .sibling o.registry ∨
      ∃ e ∈ entries, r ∈ e.adapter.mentions.filterMap Mention.reference? := by
  intro c written r refers
  simp only [codeOf, List.mem_cons, List.not_mem_nil, or_false] at written
  rcases written with rfl | rfl | rfl
  · cases refers
  · exact .inl (by simpa [mentions_names] using refers)
  · have found : r = .sibling o.registry ∨ ∃ p : Mention, (∃ e ∈ entries,
        p = ⟨.variable "registry", [], true⟩ ∨ p ∈ e.adapter.mentions) ∧ p.reference? = some r := by
      simpa using refers
    rcases found with own | ⟨p, ⟨e, listed, rfl | mentioned⟩, given⟩
    · exact .inl own
    · cases given
    · exact .inr ⟨e, listed, List.mem_filterMap.2 ⟨p, mentioned, given⟩⟩

end Registration

end

namespace Product.Made

variable {o : Options} {p : Product} (made : p.Made o)
include made

/-- What is generated for a declaration refers to its type and to its adapter. -/
theorem references {c : Code.Item} (written : c ∈ p.code) {r : Reference}
    (refers : r ∈ c.references) :
    r = .sibling p.declaration.name.ident ∨ r = .sibling p.declaration.adapter := by
  rw [Product.code, made.implementation, made.adapter] at written
  rcases List.mem_append.1 written with written | written
  · exact .inl (Target.references_codeOf _ p.params c written r refers)
  · rcases List.mem_append.1 written with written | written
    · exact .inl (Target.references_serialization _ p.params.kind c written r refers)
    · exact (Target.references_adapter _ p.params.kind c written r refers).symm

/-- Some of it refers to the type whatever is left of the type itself. -/
theorem exists_reference :
    ∃ c ∈ p.code, c.kept = [] ∧ .sibling p.declaration.name.ident ∈ c.references := by
  obtain ⟨c, written, kept, refers⟩ :=
    Target.exists_reference (Target.of p.declaration o) p.params.kind
  refine ⟨c, ?_, kept, refers⟩
  rw [Product.code, made.adapter]
  exact List.mem_append_right _ (List.mem_append_left _ written)

/-- A name in the code of a product is that of the type, on the struct with the attributes of the
user, or that of the adapter. -/
theorem named_cases {c : Code.Item} (written : c ∈ p.code) {i : Ident} (name : c.name? = some i) :
    (i = p.declaration.name.ident ∧ c.kept = p.declaration.attributes) ∨
      i = p.declaration.adapter := by
  have named : (i, c.kept) ∈ p.code.filterMap fun c => c.name?.map fun i => (i, c.kept) :=
    List.mem_filterMap.2 ⟨c, written, by rw [name]; rfl⟩
  rw [made.named_eq] at named
  rcases List.mem_cons.1 named with same | named
  · exact .inl (Prod.mk.inj same)
  · exact .inr (Prod.mk.inj (List.mem_singleton.1 named)).1

/-- Both names are there. -/
theorem exists_named {i : Ident} {attributes : List Attribute}
    (h : (i, attributes) ∈ [(p.declaration.name.ident, p.declaration.attributes),
      (p.declaration.adapter, [])]) :
    ∃ c ∈ p.code, c.name? = some i ∧ c.kept = attributes := by
  rw [← made.named_eq] at h
  obtain ⟨c, written, given⟩ := List.mem_filterMap.1 h
  obtain ⟨i', name, same⟩ := Option.map_eq_some_iff.1 given
  obtain ⟨rfl, kept⟩ := Prod.mk.inj same
  exact ⟨c, written, name, kept⟩

end Product.Made

end DomainValues
