import DomainValues.Generation
import DomainValues.Proofs.Collisions

/-!
# What a pass produces

A product is made from a declaration: its parameters are those of the directive, and type and
adapter are the generated ones (`Product.Made`).

Main statements:

* `Module.mem_products`: every product is made from a kept declaration.
* `Module.products_distinct`, `Module.products_apart`: products have pairwise distinct names and
  slots.
* `Module.declarations_of_products`: a pass without reports has a product for every declaration.
* `Module.registration_eq_some`, `Module.isSome_registration`: what is registered, and when.
-/

namespace DomainValues

/-! ## Products -/

namespace Product

/-- A product is what generation makes from its declaration. -/
structure Made (o : Options) (p : Product) : Prop where
  /-- The parameters are those of the directive. -/
  params : p.declaration.directive.params = .ok p.params
  /-- The type is the generated one. -/
  implementation : p.implementation = .ofDeclaration o p.declaration p.params
  /-- The adapter is the generated one. -/
  adapter : p.adapter = .ofDeclaration o p.declaration p.params

variable {o : Options} {p : Product}

theorem Made.implementation_name (h : p.Made o) :
    p.implementation.name = p.declaration.name := by
  rw [h.implementation]
  rfl

theorem Made.implementation_scope (h : p.Made o) :
    p.implementation.scope = p.declaration.scope := by
  rw [h.implementation]
  rfl

theorem Made.adapter_value (h : p.Made o) : p.adapter.value = p.declaration.name := by
  rw [h.adapter]
  rfl

theorem Made.adapter_scope (h : p.Made o) : p.adapter.scope = p.declaration.scope := by
  rw [h.adapter]
  rfl

theorem Made.adapter_name (h : p.Made o) : p.adapter.name = p.declaration.adapter := by
  rw [h.adapter]
  rfl

end Product

theorem product?_eq_some_iff {o : Options} {d : Declaration} {p : Product} :
    product? o d.configured = some p ↔ p.declaration = d ∧ p.Made o := by
  unfold Declaration.configured
  constructor
  · intro h
    cases given : d.directive.params with
    | error e =>
        rw [given] at h
        cases h
    | ok params =>
        rw [given] at h
        obtain rfl := Option.some.inj h
        exact ⟨rfl, ⟨given, rfl, rfl⟩⟩
  · rintro ⟨rfl, made⟩
    rw [made.params, product?, ← made.implementation, ← made.adapter]

theorem refusal?_eq_none_iff {d : Declaration} :
    refusal? d.configured = none ↔ ∃ params, d.directive.params = .ok params := by
  unfold Declaration.configured
  cases d.directive.params with
  | error e => simp [refusal?]
  | ok params => simp [refusal?]

/-! ## Registrations -/

namespace Registration

theorem entriesOf_perm (adapters : List Adapter) :
    (entriesOf adapters).Perm (adapters.map entryOf) :=
  List.mergeSort_perm ..

theorem ofAdapters?_nil (o : Options) : ofAdapters? o [] = none := by
  simp [ofAdapters?, entriesOf]

theorem ofAdapters?_eq_some {o : Options} {adapters : List Adapter} {r : Registration}
    (h : ofAdapters? o adapters = some r) :
    r = ⟨o.registry, entriesOf adapters, codeOf o (entriesOf adapters)⟩ := by
  unfold ofAdapters? at h
  cases sorted : entriesOf adapters with
  | nil =>
      rw [sorted] at h
      cases h
  | cons entry rest =>
      rw [sorted] at h
      exact (Option.some.inj h).symm

theorem isSome_ofAdapters? (o : Options) (adapters : List Adapter) :
    (ofAdapters? o adapters).isSome = true ↔ adapters ≠ [] := by
  have length := (entriesOf_perm adapters).length_eq
  unfold ofAdapters?
  cases sorted : entriesOf adapters with
  | nil =>
      rw [sorted, List.length_map] at length
      simp [List.length_eq_zero_iff.1 length.symm]
  | cons entry rest =>
      rw [sorted, List.length_map] at length
      simp only [Option.isSome_some, true_iff]
      rintro rfl
      cases length

end Registration

/-! ## Passes -/

namespace Module

/-- The declarations that a pass configures. -/
def processed (m : Module) (o : Options) (limit : Option Nat) : List Declaration :=
  match limit with
  | some n => (m.discover.collisions o.registry).kept.take n
  | none => (m.discover.collisions o.registry).kept

section

variable {m : Module} {o : Options} {limit : Option Nat}

theorem processed_sublist :
    (m.processed o limit).Sublist (m.discover.collisions o.registry).kept := by
  cases limit with
  | none => exact List.Sublist.refl _
  | some n => exact List.take_sublist n _

theorem cancelled_iff :
    (m.generate o limit).cancelled = true ↔
      (m.processed o limit).length < (m.discover.collisions o.registry).kept.length :=
  decide_eq_true_iff

/-- A pass that is not cancelled configures all that is kept. -/
theorem processed_of_not_cancelled (done : (m.generate o limit).cancelled = false) :
    m.processed o limit = (m.discover.collisions o.registry).kept := by
  refine processed_sublist.eq_of_length_le (Nat.le_of_not_lt fun less => ?_)
  rw [cancelled_iff.2 less] at done
  cases done

theorem products_eq (done : (m.generate o limit).cancelled = false) :
    (m.generate o limit).products =
      (m.discover.collisions o.registry).kept.filterMap fun d => product? o d.configured := by
  rw [← processed_of_not_cancelled done, ← Function.comp_def, ← List.filterMap_map]
  exact if_neg (ne_true_of_eq_false done)

theorem products_of_cancelled (stopped : (m.generate o limit).cancelled = true) :
    (m.generate o limit).products = [] :=
  if_pos stopped

/-- Every product is made from a kept declaration. -/
theorem mem_products {p : Product} (h : p ∈ (m.generate o limit).products) :
    p.declaration ∈ (m.discover.collisions o.registry).kept ∧ p.Made o := by
  cases done : (m.generate o limit).cancelled with
  | true =>
      rw [products_of_cancelled done] at h
      cases h
  | false =>
      rw [products_eq done] at h
      obtain ⟨d, kept, given⟩ := List.mem_filterMap.1 h
      obtain ⟨rfl, made⟩ := product?_eq_some_iff.1 given
      exact ⟨kept, made⟩

/-- The site of a product. -/
theorem exists_site_of_product {p : Product} (h : p ∈ (m.generate o limit).products) :
    ∃ site ∈ m.sites, ∃ s, site.Declares s p.declaration :=
  mem_declarations_iff.1 (mem_of_mem_kept (mem_products h).1)

/-- Products have pairwise distinct names. -/
theorem products_distinct :
    (m.generate o limit).products.Pairwise fun p q =>
      p.declaration.name.bare ≠ q.declaration.name.bare := by
  cases done : (m.generate o limit).cancelled with
  | true =>
      rw [products_of_cancelled done]
      exact .nil
  | false =>
      rw [products_eq done, List.pairwise_filterMap]
      refine kept_distinct.imp fun ne p given q given' => ?_
      obtain ⟨rfl, -⟩ := product?_eq_some_iff.1 given
      obtain ⟨rfl, -⟩ := product?_eq_some_iff.1 given'
      exact ne

/-- Products stand in different places, since a place has one item and with it one name. -/
theorem products_apart :
    (m.generate o limit).products.Pairwise fun p q => p.declaration.slot ≠ q.declaration.slot := by
  refine products_distinct.imp_of_mem fun {p q} producedP producedQ distinct same => distinct ?_
  obtain ⟨site, found, s, declares⟩ := exists_site_of_product producedP
  obtain ⟨site', found', s', declares'⟩ := exists_site_of_product producedQ
  obtain rfl := site_ext found found' (declares.slot.symm.trans (same.trans declares'.slot))
  obtain rfl : s = s' := Item.struct.inj (declares.item.symm.trans declares'.item)
  rw [declares.name, declares'.name]

/-! ### Reports -/

theorem diagnostics_eq_nil_iff :
    (m.generate o limit).diagnostics = [] ↔
      m.discover.diagnostics = [] ∧ (m.discover.collisions o.registry).rejected = [] ∧
        (m.discover.collisions o.registry).clashes = [] ∧
          ∀ d ∈ m.processed o limit, ∃ params, d.directive.params = .ok params := by
  have parts : (m.generate o limit).diagnostics =
      m.discover.diagnostics ++ (m.discover.collisions o.registry).diagnostics ++
        ((m.processed o limit).map Declaration.configured).filterMap refusal? := rfl
  rw [parts]
  simp only [Collisions.diagnostics, List.append_eq_nil_iff, List.map_eq_nil_iff,
    List.filterMap_eq_nil_iff, List.forall_mem_map, refusal?_eq_none_iff, and_assoc]

theorem mem_diagnostics_of_discover {report : Diagnostic} (h : report ∈ m.discover.diagnostics) :
    report ∈ (m.generate o limit).diagnostics :=
  List.mem_append_left _ (List.mem_append_left _ h)

/-- A pass without reports has a product for every declaration, in order. -/
theorem declarations_of_products (done : (m.generate o limit).cancelled = false)
    (quiet : (m.generate o limit).diagnostics = []) :
    (m.generate o limit).products.map Product.declaration = m.discover.declarations := by
  obtain ⟨-, rejected, -, configured⟩ := diagnostics_eq_nil_iff.1 quiet
  rw [processed_of_not_cancelled done] at configured
  calc (m.generate o limit).products.map Product.declaration
    _ = (m.discover.collisions o.registry).kept.filterMap some := by
      rw [products_eq done, List.map_filterMap]
      refine List.filterMap_congr fun d kept => ?_
      obtain ⟨params, given⟩ := configured d kept
      have made := product?_eq_some_iff.2
        ⟨rfl, (⟨given, rfl, rfl⟩ : Product.Made o
          ⟨d, params, .ofDeclaration o d params, .ofDeclaration o d params⟩)⟩
      rw [made]
      rfl
    _ = m.discover.declarations := by
      rw [List.filterMap_some]
      exact kept_of_no_rejections rejected

/-! ### What is registered -/

theorem registration_eq :
    (m.generate o limit).registration =
      if (m.discover.collisions o.registry).registryAvailable = true then
        Registration.ofAdapters? o ((m.generate o limit).products.map Product.adapter)
      else none :=
  rfl

/-- A registration is made of the adapters of the products. -/
theorem registration_eq_some_made {r : Registration}
    (h : (m.generate o limit).registration = some r) :
    (m.discover.collisions o.registry).registryAvailable = true ∧
      Registration.ofAdapters? o ((m.generate o limit).products.map Product.adapter) = some r := by
  rw [registration_eq] at h
  split at h
  case isTrue available => exact ⟨available, h⟩
  case isFalse => cases h

/-- A registration has the entries of the products. -/
theorem registration_eq_some {r : Registration} (h : (m.generate o limit).registration = some r) :
    (m.discover.collisions o.registry).registryAvailable = true ∧ r.registry = o.registry ∧
      r.entries.Perm
        ((m.generate o limit).products.map fun p => Registration.entryOf p.adapter) := by
  obtain ⟨available, made⟩ := registration_eq_some_made h
  obtain rfl := Registration.ofAdapters?_eq_some made
  have entries := Registration.entriesOf_perm
    ((m.generate o limit).products.map Product.adapter)
  rw [List.map_map] at entries
  exact ⟨available, rfl, entries⟩

/-- Something is registered if something is generated and the name of the registration type is
free. -/
theorem isSome_registration :
    (m.generate o limit).registration.isSome = true ↔
      (m.discover.collisions o.registry).registryAvailable = true ∧
        (m.generate o limit).products ≠ [] := by
  rw [registration_eq]
  split
  case isTrue available =>
    rw [Registration.isSome_ofAdapters?, Ne, List.map_eq_nil_iff]
    exact ⟨fun some => ⟨available, some⟩, And.right⟩
  case isFalse taken =>
    constructor
    · intro some
      cases some
    · rintro ⟨available, -⟩
      exact absurd available taken

end
end Module
end DomainValues
