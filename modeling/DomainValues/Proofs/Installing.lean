import DomainValues.Installation
import DomainValues.Proofs.ByteOrder
import DomainValues.Proofs.Cancellation
import DomainValues.Proofs.Completeness
import DomainValues.Proofs.Names
import DomainValues.Proofs.Registering
import DomainValues.Proofs.Validation

/-!
# Registrations that install

A registration lists what a pass generated (`Registration.Lists`): its entries are those of the
generated types, in the order of the bytes of their names.  Its code calls for the adapters of the
entries, and to run it installs them once (`Installer.InstallsOnce`).

Both come from the products in the order of their names (`Module.inNameOrder`).  Their names are
pairwise distinct, so their types are, and a registry takes adapters of new names and new types
one after the other (`Installer.run_ofAdapters_of_fresh`).

Main statement: `Module.registration_installs`.
-/

namespace DomainValues

/-! ## Installing adapters -/

namespace Installer

variable {τ : Type} [TypeFamily τ] [DecidableEq τ] {r : Registry τ}

/-- Adapters of new names and new types are all registered. -/
theorem run_ofAdapters_of_fresh {adapters : List (ScalarAdapter τ)} (coherent : r.Coherent)
    (names : (r.names ++ adapters.map ScalarAdapter.name).Nodup)
    (types : (r.types ++ adapters.map ScalarAdapter.type).Nodup) :
    ((ofAdapters adapters).run r).error = none ∧
      ((ofAdapters adapters).run r).registry.Coherent ∧
      ((ofAdapters adapters).run r).registry.entries = r.entries ++ adapters := by
  induction adapters generalizing r with
  | nil => exact ⟨rfl, coherent, (List.append_nil _).symm⟩
  | cons a rest ih =>
      have newName : a.name ∉ r.names := fun listed =>
        List.disjoint_of_nodup_append names listed List.mem_cons_self
      have newType : a.type ∉ r.types := fun listed =>
        List.disjoint_of_nodup_append types listed List.mem_cons_self
      rcases coherent.register_cases a with ⟨taken, -⟩ | ⟨-, -, pushed, error⟩
      · exact absurd taken (not_or.2 ⟨newName, newType⟩)
      · have namesAfter : (r.push a).names = r.names ++ [a.name] := List.map_append
        have typesAfter : (r.push a).types = r.types ++ [a.type] := List.map_append
        have after := ih (r := r.push a) (coherent.push newName newType)
          (by rw [namesAfter, List.append_assoc]; exact names)
          (by rw [typesAfter, List.append_assoc]; exact types)
        have entriesAfter : (r.push a).entries ++ rest = r.entries ++ a :: rest :=
          List.append_assoc ..
        rw [ofAdapters, run]
        dsimp only
        rw [pushed, error, ← entriesAfter]
        exact after

/-- An adapter whose name or type is taken ends the installation. -/
theorem run_ofAdapters_of_taken {a : ScalarAdapter τ} (rest : List (ScalarAdapter τ))
    (coherent : r.Coherent) (taken : a.name ∈ r.names ∨ a.type ∈ r.types) :
    ((ofAdapters (a :: rest)).run r).error = some (.alreadyRegistered a.name) ∧
      ((ofAdapters (a :: rest)).run r).registry = r := by
  rcases coherent.register_cases a with ⟨-, same, error⟩ | ⟨newName, newType, -⟩
  · rw [ofAdapters, run]
    dsimp only
    rw [same, error]
    exact ⟨rfl, rfl⟩
  · exact absurd taken (not_or.2 ⟨newName, newType⟩)

/-- Adapters of distinct names and distinct types go into an empty registry, and the first of them
is refused afterwards. -/
theorem install_ofAdapters {a : ScalarAdapter τ} {rest : List (ScalarAdapter τ)}
    (names : ((a :: rest).map ScalarAdapter.name).Nodup)
    (types : ((a :: rest).map ScalarAdapter.type).Nodup) :
    let once := Registry.empty.install (ofAdapters (a :: rest))
    let twice := once.registry.install (ofAdapters (a :: rest))
    once.error = none ∧ once.registry.Coherent ∧ once.registry.entries = a :: rest ∧
      twice.error = some (.alreadyRegistered a.name) ∧ twice.registry = once.registry := by
  intro once twice
  have newNames : ((Registry.empty : Registry τ).names ++
      (a :: rest).map ScalarAdapter.name).Nodup := names
  have newTypes : ((Registry.empty : Registry τ).types ++
      (a :: rest).map ScalarAdapter.type).Nodup := types
  obtain ⟨succeeds, coherent, entries⟩ :=
    run_ofAdapters_of_fresh Registry.empty_coherent newNames newTypes
  have taken : a.name ∈ once.registry.names :=
    List.mem_map_of_mem (entries.symm ▸ List.mem_cons_self)
  exact ⟨succeeds, coherent, entries, run_ofAdapters_of_taken rest coherent (.inl taken)⟩

end Installer

/-! ## The code of a registration -/

/-- What leads everywhere to a result leads to the results. -/
theorem mapM_eq_some_map {α β : Type} {f : α → Option β} {g : α → β} {row : List α}
    (leads : ∀ a ∈ row, f a = some (g a)) : row.mapM f = some (row.map g) := by
  induction row with
  | nil => rfl
  | cons a rest ih =>
      rw [List.mapM_cons, leads a List.mem_cons_self,
        ih fun b listed => leads b (List.mem_cons_of_mem a listed)]
      rfl

namespace Registration

variable {registry : Ident} {o : Options} {entries : List RegistrationEntry}

/-- The code calls for the adapters of the entries. -/
theorem calls_codeOf :
    calls ⟨registry, entries, codeOf o entries⟩ = entries.map RegistrationEntry.adapter := by
  induction entries with
  | nil => rfl
  | cons e rest ih => exact congrArg (e.adapter :: ·) ih

/-- The code has a table of the names of the entries. -/
theorem nameTable_codeOf :
    nameTable ⟨registry, entries, codeOf o entries⟩ = entries.map RegistrationEntry.name := by
  induction entries with
  | nil => rfl
  | cons e rest ih => exact congrArg (e.name :: ·) ih

end Registration

/-! ## Products in the order of their names -/

namespace Product

/-- Products in the order of their names. -/
def inNameOrder (products : List Product) : List Product :=
  products.mergeSort fun p q => decide (p.adapter.value.bare ≤ q.adapter.value.bare)

/-- The standard adapters of the types of products, in this order. -/
def standardAdapters (products : List Product) : List (ScalarAdapter ValueType) :=
  (inNameOrder products).map fun p => .standard p.valueType

variable {products : List Product}

theorem inNameOrder_perm : (inNameOrder products).Perm products := List.mergeSort_perm ..

theorem standardAdapters_perm (products : List Product) :
    (standardAdapters products).Perm (products.map fun p => .standard p.valueType) :=
  inNameOrder_perm.map _

/-- The entries of a registration come from the products in this order. -/
theorem entriesOf_adapters :
    Registration.entriesOf (products.map Product.adapter) =
      (inNameOrder products).map fun p => Registration.entryOf p.adapter := by
  rw [Registration.entriesOf, List.map_map]
  exact (List.map_mergeSort (f := Registration.entryOf ∘ adapter) fun _ _ _ _ => rfl).symm

/-- Names that are distinct increase strictly. -/
theorem inNameOrder_increasing (distinct : (products.map fun p => p.adapter.value.bare).Nodup) :
    (inNameOrder products).Pairwise fun p q => p.adapter.value.bare < q.adapter.value.bare := by
  have sorted : (inNameOrder products).Pairwise fun p q =>
      decide (p.adapter.value.bare ≤ q.adapter.value.bare) = true := by
    refine List.pairwise_mergeSort (fun _ _ _ first second => ?_) (fun p q => ?_) products
    · exact decide_eq_true ((of_decide_eq_true first).trans (of_decide_eq_true second))
    · simpa using String.le_total p.adapter.value.bare q.adapter.value.bare
  have apart : (inNameOrder products).Pairwise fun p q =>
      p.adapter.value.bare ≠ q.adapter.value.bare :=
    List.pairwise_map.1 ((inNameOrder_perm.map _).nodup_iff.2 distinct)
  exact (sorted.and apart).imp fun ⟨atMost, ne⟩ => lt_of_le_of_ne (of_decide_eq_true atMost) ne

end Product

/-! ## What a registration lists -/

/-- A registration lists the types that a pass generated. -/
structure Registration.Lists (r : Registration) (g : Generation) : Prop where
  /-- The names increase strictly, by their bytes. -/
  increasing : (r.nameTable.map Text.bytes).Pairwise (· < ·)
  /-- The table has the names of the entries. -/
  nameTable : r.nameTable = r.entries.map RegistrationEntry.name
  /-- The code calls for the adapters of the entries. -/
  calls : r.calls = r.entries.map RegistrationEntry.adapter
  /-- Each generated type has one entry, with the path of its adapter from the root. -/
  entries : r.entries.Perm (g.implementations.map fun i =>
    ⟨i.name.bare, .path .root (i.scope.map Name.ident ++ [.plain (i.name.bare ++ "JsonAdapter")])⟩)

/-- What a registration installs goes into an empty registry, once. -/
structure Installer.InstallsOnce (i : Installer ValueType) (r : Registration) (g : Generation) :
    Prop where
  /-- The first time it succeeds. -/
  succeeds : (Registry.empty.install i).error = none
  /-- The registry has the names of the table, in their order. -/
  names : (Registry.empty.install i).registry.names = r.nameTable
  /-- It has as many adapters as types were generated. -/
  size : (Registry.empty.install i).registry.size = g.implementations.length
  /-- It knows the kind of each declaration. -/
  kinds : ∀ p ∈ g.products,
    (Registry.empty.install i).registry.kind? p.declaration.name.bare =
      .ok (some p.declaration.directive.kind)
  /-- The second time it fails with the first name. -/
  refused : ∃ name rest, r.nameTable = name :: rest ∧
    ((Registry.empty.install i).registry.install i).error = some (.alreadyRegistered name)
  /-- Nothing changes then. -/
  unchanged : ((Registry.empty.install i).registry.install i).registry =
    (Registry.empty.install i).registry

namespace Module

variable {m : Module} {o : Options} {limit : Option Nat}

theorem names_nodup :
    ((m.generate o limit).products.map fun p => p.adapter.value.bare).Nodup := by
  refine List.pairwise_map.2 (products_distinct.imp_of_mem fun {p q} producedP producedQ ne => ?_)
  rw [(mem_products producedP).2.adapter_value, (mem_products producedQ).2.adapter_value]
  exact ne

/-- The entry of a product. -/
theorem entryOf_product {p : Product} (produced : p ∈ (m.generate o limit).products) :
    Registration.entryOf p.adapter =
      ⟨p.implementation.name.bare, .path .root (p.implementation.scope.map Name.ident ++
        [.plain (p.implementation.name.bare ++ "JsonAdapter")])⟩ := by
  have made := (mem_products produced).2
  rw [made.implementation_name, made.implementation_scope, Registration.entryOf, Adapter.path,
    made.adapter_value, made.adapter_scope, made.adapter_name]
  rfl

theorem registration_lists {r : Registration}
    (yields : (m.generate o limit).registration = some r) : r.Lists (m.generate o limit) := by
  obtain ⟨-, -, perm⟩ := registration_eq_some yields
  obtain ⟨-, made⟩ := registration_eq_some_made yields
  obtain rfl := Registration.ofAdapters?_eq_some made
  refine ⟨?_, Registration.nameTable_codeOf, Registration.calls_codeOf, ?_⟩
  · rw [Registration.nameTable_codeOf, Product.entriesOf_adapters, List.map_map, List.map_map]
    exact List.pairwise_map.2 ((Product.inNameOrder_increasing names_nodup).imp Text.bytes_lt)
  · refine perm.trans (.of_eq ?_)
    rw [Generation.implementations, List.map_map]
    exact List.map_congr_left fun p produced => entryOf_product produced

/-! ## What a registration installs -/

/-- Products whose adapters have one name are the same. -/
theorem product_eq_of_adapter_name {p q : Product} (producedP : p ∈ (m.generate o limit).products)
    (producedQ : q ∈ (m.generate o limit).products) (same : p.adapter.name = q.adapter.name) :
    p = q := by
  refine List.inj_on_of_nodup_map names_nodup producedP producedQ ?_
  rw [(mem_products producedP).2.adapter_name, (mem_products producedQ).2.adapter_name] at same
  rw [(mem_products producedP).2.adapter_value, (mem_products producedQ).2.adapter_value]
  exact adapter_name_inj (congrArg Ident.name same)

/-- The path of an adapter leads to it. -/
theorem adapterAt?_path {p : Product} (produced : p ∈ (m.generate o limit).products) :
    (m.generate o limit).adapterAt? p.adapter.path = some (.standard p.valueType) := by
  unfold Adapter.path Generation.adapterAt?
  dsimp only
  cases found : (m.generate o limit).products.find? fun q =>
      q.adapter.scope.map Name.ident ++ [q.adapter.name] ==
        p.adapter.scope.map Name.ident ++ [p.adapter.name] with
  | none =>
      have missed := List.find?_eq_none.1 found p produced
      simp at missed
  | some q =>
      have samePath := List.find?_some found
      have same := List.append_inj_right' (eq_of_beq samePath) rfl
      have here := product_eq_of_adapter_name (List.mem_of_find?_eq_some found) produced
        (List.head_eq_of_cons_eq same)
      rw [here]
      rfl

/-- The calls of a registration lead to the adapters of the products, in the order of their
names. -/
theorem calls_lead {r : Registration} (yields : (m.generate o limit).registration = some r) :
    r.calls.mapM (m.generate o limit).adapterAt? =
      some (Product.standardAdapters (m.generate o limit).products) := by
  obtain ⟨-, made⟩ := registration_eq_some_made yields
  have calls : r.calls =
      (Product.inNameOrder (m.generate o limit).products).map fun p => p.adapter.path := by
    obtain rfl := Registration.ofAdapters?_eq_some made
    rw [Registration.calls_codeOf, Product.entriesOf_adapters, List.map_map]
    rfl
  rw [calls, List.mapM_map]
  exact mapM_eq_some_map fun p listed =>
    adapterAt?_path (Product.inNameOrder_perm.mem_iff.1 listed)

theorem installer?_eq {r : Registration} (yields : (m.generate o limit).registration = some r) :
    (m.generate o limit).installer? =
      some (.ofAdapters (Product.standardAdapters (m.generate o limit).products)) := by
  rw [Generation.installer?, yields]
  simp only [Option.bind_eq_bind, Option.bind_some, calls_lead yields]
  rfl

theorem standardAdapters_ne_nil {r : Registration}
    (yields : (m.generate o limit).registration = some r) :
    Product.standardAdapters (m.generate o limit).products ≠ [] := by
  intro none
  have listed := Product.standardAdapters_perm (m.generate o limit).products
  rw [none] at listed
  have produced := (isSome_registration.1 (Option.isSome_of_eq_some yields)).2
  exact produced (List.map_eq_nil_iff.1 (List.nil_perm.1 listed))

theorem nameTable_eq {r : Registration} (yields : (m.generate o limit).registration = some r) :
    r.nameTable =
      (Product.standardAdapters (m.generate o limit).products).map ScalarAdapter.name := by
  obtain ⟨-, made⟩ := registration_eq_some_made yields
  obtain rfl := Registration.ofAdapters?_eq_some made
  rw [Registration.nameTable_codeOf, Product.entriesOf_adapters, List.map_map,
    Product.standardAdapters, List.map_map]
  refine List.map_congr_left fun p listed => ?_
  have produced := Product.inNameOrder_perm.mem_iff.1 listed
  exact congrArg Name.bare (mem_products produced).2.adapter_value

variable (m o limit) in
/-- The adapters have distinct names. -/
theorem adapterNames_nodup :
    ((Product.standardAdapters (m.generate o limit).products).map ScalarAdapter.name).Nodup := by
  rw [((Product.standardAdapters_perm _).map ScalarAdapter.name).nodup_iff, List.map_map]
  exact List.pairwise_map.2 products_distinct

variable (m o limit) in
/-- Types of distinct names are distinct. -/
theorem adapterTypes_nodup :
    ((Product.standardAdapters (m.generate o limit).products).map ScalarAdapter.type).Nodup := by
  refine .of_map TypeFamily.name ?_
  rw [List.map_map]
  exact adapterNames_nodup m o limit

/-- What a registration installs goes into an empty registry, once. -/
theorem installsOnce {r : Registration} (yields : (m.generate o limit).registration = some r) :
    (Installer.ofAdapters (Product.standardAdapters (m.generate o limit).products)).InstallsOnce r
      (m.generate o limit) := by
  have table := nameTable_eq yields
  have listed := Product.standardAdapters_perm (m.generate o limit).products
  have names := adapterNames_nodup m o limit
  have types := adapterTypes_nodup m o limit
  have nonempty := standardAdapters_ne_nil yields
  generalize Product.standardAdapters (m.generate o limit).products = adapters at *
  obtain ⟨a, rest, rfl⟩ := List.exists_cons_of_ne_nil nonempty
  obtain ⟨succeeds, coherent, entries, refused, unchanged⟩ :=
    Installer.install_ofAdapters names types
  exact
    { succeeds
      names := (congrArg (List.map ScalarAdapter.name) entries).trans table.symm
      size := by
        have length := (congrArg List.length entries).trans listed.length_eq
        rw [List.length_map] at length
        exact length.trans (List.length_map _).symm
      kinds := by
        intro p produced
        have registered := listed.mem_iff.2 (List.mem_map_of_mem produced)
        rw [← entries] at registered
        have found := coherent.find?_of_mem registered
        have kind := Directive.kind_of_params (mem_products produced).2.params
        rw [← kind]
        exact congrArg (Except.map (Option.map ScalarAdapter.kind)) found
      refused := ⟨a.name, rest.map ScalarAdapter.name, table, refused⟩
      unchanged }

/-- Whatever the module, the options and the flag: a registration lists the generated types, and
its code installs their adapters once. -/
theorem registration_installs {m : Module} {o : Options} {flag : Nat → Bool} {r : Registration}
    (yields : (m.run o flag).registration = some r) :
    r.Lists (m.run o flag) ∧
      ∃ installer, (m.run o flag).installer? = some installer ∧
        installer.InstallsOnce r (m.run o flag) := by
  obtain ⟨limit, same⟩ := exists_limit m o flag
  rw [same] at yields ⊢
  exact ⟨registration_lists yields, _, installer?_eq yields, installsOnce yields⟩

/-- A declaration at the root and one in a module. -/
theorem two_installed :
    let m := ofItems [.moduleOf .everywhere "orders"
        [.unitStruct [.directive .identifier] .everywhere "OrderId"],
      .unitStruct [.directive .identifier] .everywhere "CustomerId"]
    let g := m.run .default fun _ => false
    ∃ r installer, g.registration = some r ∧ g.installer? = some installer ∧
      (Registry.empty.install installer).error = none ∧
      (Registry.empty.install installer).registry.size = 2 := by
  intro m g
  have unlimited : g = m.generate .default none := run_of_unset fun _ _ => rfl
  have listed : g.registration.isSome = true := by
    rw [unlimited, isSome_registration]
    exact ⟨by decide, nofun⟩
  obtain ⟨r, yields⟩ := Option.isSome_iff_exists.1 listed
  obtain ⟨-, installer, installs, once⟩ := registration_installs yields
  exact ⟨r, installer, yields, installs, once.succeeds, once.size⟩

end Module
end DomainValues
