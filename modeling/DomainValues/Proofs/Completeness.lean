import DomainValues.Proofs.Generation

/-!
# What a quiet pass produced

A pass is *quiet* if it reports nothing.  It is *complete* if it generated a type and an adapter
for every item with a directive, in source order, and registered all of them
(`Generation.Complete`).

A quiet pass need not be complete.  There are two ways to lose something without a report, and
`Module.complete_iff_of_quiet` says that there is no third:

* an item that passes through unread may carry a directive (`Module.HidesDirective`);
* an item at the root may be named like the registration type.  Then nothing is registered.  It is
  reported only if no declaration has that name, and below the root a declaration may have it
  (`Module.HidesRegistry`).
-/

namespace DomainValues

/-! ## Items with directives -/

namespace Item

/-- The attributes that are written on an item.  What passes through unread has them in its
tokens. -/
def writtenAttributes : Item → List Attribute
  | verbatim tokens => ((Attribute.readOuter? tokens).map Prod.fst).getD []
  | item => item.attributes

/-- Whether an item carries a directive. -/
def isMarked (item : Item) : Bool := item.writtenAttributes.any Attribute.isDirective

/-- Whether an item passes through unread. -/
def isVerbatim : Item → Bool
  | verbatim _ => true
  | _ => false

theorem isMarked_of_read {item : Item} (h : item.isVerbatim = false) :
    item.isMarked = item.attributes.any Attribute.isDirective := by
  cases item with
  | verbatim tokens => cases h
  | inlineModule head items => rfl
  | struct s => rfl
  | plain p => rfl
  | generated code => rfl

/-- A pass sees no attributes of what passes through unread. -/
theorem attributes_of_unread {item : Item} (h : item.isVerbatim = true) : item.attributes = [] := by
  cases item with
  | verbatim tokens => rfl
  | inlineModule head items => cases h
  | struct s => cases h
  | plain p => cases h
  | generated code => cases h

end Item

namespace Module

/-- The items with directives, in source order. -/
def marked (m : Module) : List Site := m.inOrder.filter fun site => site.item.isMarked

theorem mem_marked_iff {m : Module} {site : Site} :
    site ∈ m.marked ↔ site ∈ m.sites ∧ site.item.isMarked = true := by
  rw [marked, List.mem_filter, mem_inOrder_iff]

/-- An item that passes through unread carries a directive. -/
def HidesDirective (m : Module) : Prop :=
  ∃ site ∈ m.sites, site.item.isVerbatim = true ∧ site.item.isMarked = true

/-- An item at the root is named like the registration type, and so is an item with a directive
below the root. -/
def HidesRegistry (m : Module) (o : Options) : Prop :=
  (∃ site ∈ m.sites, site.scope = [] ∧ ∃ n ∈ site.item.names, n.bare = o.registry.name) ∧
    ∃ site ∈ m.sites, site.scope ≠ [] ∧ site.item.isMarked = true ∧
      ∃ n ∈ site.item.names, n.bare = o.registry.name

instance (m : Module) : Decidable m.HidesDirective :=
  inferInstanceAs (Decidable (∃ site ∈ m.sites, _ ∧ _))

instance (m : Module) (o : Options) : Decidable (m.HidesRegistry o) :=
  inferInstanceAs (Decidable ((∃ site ∈ m.sites, _ ∧ _) ∧ ∃ site ∈ m.sites, _ ∧ _ ∧ _))

/-- If nothing with a directive passes through unread, the marked items are those that a pass looks
at. -/
theorem marked_of_not_hidesDirective {m : Module} (h : ¬ m.HidesDirective) :
    m.marked = m.inOrder.filter fun site => site.item.attributes.any Attribute.isDirective := by
  refine List.filter_congr fun site found => ?_
  cases unread : site.item.isVerbatim with
  | false => rw [Item.isMarked_of_read unread]
  | true =>
      have unmarked : site.item.isMarked = false := by
        refine Bool.eq_false_iff.2 fun marked => h ⟨site, ?_, unread, marked⟩
        exact mem_inOrder_iff.1 found
      rw [unmarked, Item.attributes_of_unread unread]
      rfl

end Module

/-! ## Complete passes -/

/-- A product is made from the struct at a site: type and adapter are for it, and stand there. -/
structure Product.IsOf (p : Product) (site : Site) : Prop where
  /-- The type and the adapter have the name of the struct. -/
  names : ∃ s, site.item = .struct s ∧ p.implementation.name = s.name ∧ p.adapter.value = s.name
  /-- The type is in the modules around the struct. -/
  implementationScope : p.implementation.scope = site.scope
  /-- So is the adapter. -/
  adapterScope : p.adapter.scope = site.scope
  /-- Both take the place of the struct. -/
  slot : p.declaration.slot = site.slot

/-- A pass lost nothing. -/
structure Generation.Complete (g : Generation) (m : Module) : Prop where
  /-- It generated the items with directives, in order. -/
  products : List.Forall₂ Product.IsOf g.products m.marked
  /-- It registered them by name, if there is one. -/
  registered : m.marked ≠ [] → ∃ r, g.registration = some r ∧
    (r.entries.map RegistrationEntry.name).Perm
      (m.marked.flatMap fun site => site.item.names.map Name.bare)

section

variable {m : Module} {o : Options} {limit : Option Nat}

theorem Product.Made.isOf {p : Product} {site : Site} {s : StructItem} (made : p.Made o)
    (declares : site.Declares s p.declaration) : p.IsOf site where
  names := ⟨s, declares.item, made.implementation_name.trans declares.name,
    made.adapter_value.trans declares.name⟩
  implementationScope := made.implementation_scope.trans declares.scope
  adapterScope := made.adapter_scope.trans declares.scope
  slot := declares.slot

theorem names_of_forall₂_isOf {products : List Product} {sites : List Site}
    (h : List.Forall₂ Product.IsOf products sites) :
    (products.map fun p => p.adapter.value.bare) =
      sites.flatMap fun site => site.item.names.map Name.bare := by
  induction h with
  | nil => rfl
  | cons first rest ih =>
      obtain ⟨s, item, -, value⟩ := first.names
      rw [List.map_cons, List.flatMap_cons, ih, item, value]
      rfl

theorem struct_of_forall₂_isOf {products : List Product} {sites : List Site} {site : Site}
    (h : List.Forall₂ Product.IsOf products sites) (found : site ∈ sites) :
    ∃ s, site.item = .struct s := by
  induction h with
  | nil => cases found
  | cons first rest ih =>
      cases found with
      | head =>
          obtain ⟨s, item, -⟩ := first.names
          exact ⟨s, item⟩
      | tail _ found => exact ih found

namespace Module

/-- A quiet pass has products for the items with directives that it looks at. -/
theorem products_of_quiet (done : (m.generate o limit).cancelled = false)
    (quiet : (m.generate o limit).diagnostics = []) :
    List.Forall₂ Product.IsOf (m.generate o limit).products
      (m.inOrder.filter fun site => site.item.attributes.any Attribute.isDirective) := by
  have declared := declarations_inOrder (diagnostics_eq_nil_iff.1 quiet).1
  rw [← declarations_of_products done quiet, List.forall₂_map_left_iff] at declared
  have made : ∀ p ∈ (m.generate o limit).products, p.Made o := fun p h => (mem_products h).2
  refine ((List.forall₂_and_left _ _).2 ⟨made, declared⟩).imp ?_
  rintro p site ⟨made, s, declares⟩
  exact made.isOf declares

/-- In a quiet pass, an item that takes the name of the registration type hides it. -/
theorem hidesRegistry_of_quiet
    (quiet : (m.generate o limit).diagnostics = [])
    (taken : (m.discover.collisions o.registry).registryAvailable = false) :
    m.HidesRegistry o := by
  obtain ⟨-, rejected, clashes, -⟩ := diagnostics_eq_nil_iff.1 quiet
  constructor
  · have some : ¬ ∀ n ∈ m.discover.names, n.scope = [] → n.name.bare ≠ o.registry.name := by
      intro none
      have available : (m.discover.collisions o.registry).registryAvailable = true :=
        registryAvailable_iff.2 none
      exact absurd (taken.symm.trans available) nofun
    push Not at some
    obtain ⟨n, listed, root, same⟩ := some
    obtain ⟨site, found, scope, named⟩ := mem_names_iff.1 listed
    exact ⟨site, found, scope.symm.trans root, n.name, named, same⟩
  · obtain ⟨d, declared, same⟩ := exists_declared_of_no_clashes clashes taken
    have kept : d ∈ (m.discover.collisions o.registry).kept :=
      (kept_of_no_rejections rejected).symm ▸ declared
    obtain ⟨i, -, clear⟩ := mem_kept_iff.1 kept
    obtain ⟨site, found, s, declares⟩ := mem_declarations_iff.1 declared
    refine ⟨site, found, ?_, ?_, s.name, ?_, ?_⟩
    · intro root
      exact clear.notRegistry (declares.scope.trans root) same
    · rw [Item.isMarked_of_read (by rw [declares.item]; rfl), ← Site.isSome_verdict?,
        Site.verdict?_eq_ok_iff.2 ⟨s, declares⟩]
      rfl
    · rw [declares.item]
      exact List.mem_singleton_self _
    · rw [← declares.name]
      exact same

/-- A quiet pass is complete unless it lost something in one of the two ways. -/
theorem complete_iff_of_quiet (done : (m.generate o limit).cancelled = false)
    (quiet : (m.generate o limit).diagnostics = []) :
    (m.generate o limit).Complete m ↔ ¬ m.HidesDirective ∧ ¬ m.HidesRegistry o := by
  constructor
  · intro complete
    constructor
    · rintro ⟨site, found, unread, marked⟩
      obtain ⟨s, item⟩ :=
        struct_of_forall₂_isOf complete.products (mem_marked_iff.2 ⟨found, marked⟩)
      rw [item] at unread
      cases unread
    · rintro ⟨⟨taker, found, root, n, named, same⟩, below, foundBelow, -, marked, -⟩
      have some := List.ne_nil_of_mem (mem_marked_iff.2 ⟨foundBelow, marked⟩)
      obtain ⟨r, registered, -⟩ := complete.registered some
      obtain ⟨available, -⟩ := registration_eq_some registered
      exact registryAvailable_iff.1 available ⟨taker.scope, n⟩
        (mem_names_iff.2 ⟨taker, found, rfl, named⟩) root same
  · rintro ⟨noDirective, noRegistry⟩
    have products := products_of_quiet done quiet
    rw [← marked_of_not_hidesDirective noDirective] at products
    refine ⟨products, fun some => ?_⟩
    have available : (m.discover.collisions o.registry).registryAvailable = true := by
      refine eq_true_of_ne_false fun taken => noRegistry ?_
      exact hidesRegistry_of_quiet quiet taken
    have nonempty : (m.generate o limit).products ≠ [] := by
      intro none
      rw [none, List.forall₂_nil_left_iff] at products
      exact some products
    obtain ⟨r, registered⟩ :=
      Option.isSome_iff_exists.1 (isSome_registration.2 ⟨available, nonempty⟩)
    refine ⟨r, registered, ?_⟩
    have entries := (registration_eq_some registered).2.2.map RegistrationEntry.name
    rw [List.map_map] at entries
    rw [← names_of_forall₂_isOf products]
    exact entries

/-- A declaration below the root is generated and registered. -/
theorem nested_complete :
    let g := generate (ofItems [.moduleOf .everywhere "orders"
      [.unitStruct [.directive .identifier] .everywhere "OrderId"]]) .default none
    g.cancelled = false ∧ g.diagnostics = [] ∧ g.Complete (ofItems [.moduleOf .everywhere "orders"
      [.unitStruct [.directive .identifier] .everywhere "OrderId"]]) :=
  ⟨rfl, rfl, (complete_iff_of_quiet rfl rfl).2 (by decide)⟩

/-- A plain item at the root that is named like the registration type, and a declaration of that
name below the root: nothing is registered, and nothing is reported. -/
theorem shadowed_registry_not_complete :
    let m := ofItems [.unitStruct [] .inherited "ValueTypes", .moduleOf .everywhere "inner"
      [.unitStruct [.directive .identifier] .everywhere "ValueTypes"]]
    let g := m.generate .default none
    g.cancelled = false ∧ g.diagnostics = [] ∧ g.registration = none ∧ ¬ g.Complete m := by
  refine ⟨rfl, rfl, rfl, fun complete => ?_⟩
  obtain ⟨r, registered, -⟩ := complete.registered (by decide)
  cases registered

end Module
end
end DomainValues
