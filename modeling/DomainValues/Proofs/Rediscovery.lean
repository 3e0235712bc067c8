import DomainValues.Proofs.ReadBack
import DomainValues.Proofs.Sources

/-!
# Discovery after a pass

What a pass returns is settled: no attribute of its items is a directive, in generated code either.
So nothing is discovered in it again, and the names in it are those of the module, with the name of
the adapter after that of each generated declaration, and last that of the registration
(`Generation.Settles`).

Main statement: `Module.rediscovery_exact`, every run of a module that was read settles it.
-/

namespace DomainValues

/-! ## After a run -/

theorem filter_eq_singleton {α β : Type} [BEq β] [LawfulBEq β] {f : α → β} {l : List α} {a : α}
    (apart : l.Pairwise fun a b => f a ≠ f b) (found : a ∈ l) :
    (l.filter fun b => f b == f a) = [a] := by
  induction l with
  | nil => cases found
  | cons b rest ih =>
      obtain ⟨first, others⟩ := List.pairwise_cons.1 apart
      rcases List.mem_cons.1 found with rfl | later
      · have alone : (rest.filter fun b => f b == f a) = [] :=
          List.filter_eq_nil_iff.2 fun c listed => by simpa using (first c listed).symm
        rw [List.filter_cons, if_pos (beq_self_eq_true _), alone]
      · rw [List.filter_cons_of_neg (by simpa using first a later), ih others later]

/-- The names at a site after a pass: those that were there, and then the adapter of what is
generated there. -/
def Generation.namesAt (g : Generation) (site : Site) : List NamedItem :=
  site.names ++ (g.products.filter fun p => p.declaration.slot == site.slot).map fun p =>
    ⟨site.scope, ⟨p.declaration.adapter, .start⟩⟩

/-- What is discovered after a pass. -/
structure Generation.Settles (g : Generation) (m : Module) : Prop where
  /-- What is read back has the tokens that the pass returns. -/
  tokens : g.module.readBack.tokens = g.module.tokens
  /-- It declares nothing. -/
  declarations : g.module.readBack.discover.declarations = []
  /-- Nothing in it is reported. -/
  diagnostics : g.module.readBack.discover.diagnostics = []
  /-- What is generated has the name of its site, and only this name is listed there. -/
  placed : ∀ p ∈ g.products, ∃ site ∈ m.inOrder, site.slot = p.declaration.slot ∧
    site.names = [⟨p.declaration.scope, p.declaration.name⟩]
  /-- The names of the module are those at its sites. -/
  before : m.discover.names = m.inOrder.flatMap Site.names
  /-- The names afterwards are those at the sites after the pass, and that of the registration. -/
  names : g.module.readBack.discover.names.map NamedItem.unplaced = (m.inOrder.flatMap g.namesAt ++
    (g.registration.map fun r => (⟨[], ⟨r.registry, .start⟩⟩ : NamedItem)).toList).map
      NamedItem.unplaced
  /-- A cancelled pass leaves the names as they are. -/
  unchanged : g.cancelled = true → g.module.readBack.discover.names = m.discover.names

/-- The attributes of the user on generated code. -/
def Code.Item.kept : Code.Item → List Attribute
  | .struct attributes .. => attributes
  | .implementation .. => []

/-- The attributes that code is generated with are no directives and stand before it. -/
theorem Code.Item.mem_kept_of_spelled {c : Code.Item} {a : Attribute}
    (h : a ∈ c.spelled.attributes) : a ∈ c.kept ∨ a.inner = false ∧ a.isDirective = false := by
  have written {name : String} {arguments : AttributeArguments}
      (other : (Kind.all.map Kind.directiveName).contains name = false)
      (is : a = .written name arguments) : a.inner = false ∧ a.isDirective = false := by
    rw [is]
    exact ⟨rfl, other⟩
  cases c with
  | struct attributes doc derives visibility name field =>
      rcases List.mem_append.1 h with h | h
      · rcases List.mem_append.1 h with h | h
        · exact .inl h
        · cases doc with
          | nothing => cases h
          | fixed text => exact .inr (written (by decide) (List.mem_singleton.1 h))
          | composed text => exact .inr (written (by decide) (List.mem_singleton.1 h))
      · exact .inr (written (by decide) (List.mem_singleton.1 h))
  | implementation l trait type members =>
      cases trait with
      | none => exact .inr (written (by decide) (List.mem_singleton.1 h))
      | some trait => exact .inr (written (by decide) (List.mem_singleton.1 h))

/-- No attribute of an item is a directive, and in generated code the attributes of the user stand
before the items. -/
def Item.Settled : Item → Prop
  | .generated code => ∀ c ∈ code, ∀ a ∈ c.kept, a.inner = false ∧ a.isDirective = false
  | item => item.attributes.any Attribute.isDirective = false

theorem Item.Settled.outerCode {item : Item} (h : item.Settled) : item.OuterCode := by
  cases item with
  | generated code =>
      intro c found a written
      exact (Code.Item.mem_kept_of_spelled written).elim (fun kept => (h c found a kept).1) And.left
  | _ => trivial

theorem Item.Settled.undirected {item : Item} (h : item.Settled) : item.Undirected := by
  cases item with
  | generated code =>
      intro c found
      refine List.any_eq_false.2 fun a written => ?_
      rw [(Code.Item.mem_kept_of_spelled written).elim (fun kept => (h c found a kept).2) And.right]
      exact Bool.false_ne_true
  | _ => exact h

/-- The only name at the site of a declaration is its own. -/
theorem Site.Declares.names {site : Site} {s : StructItem} {d : Declaration}
    (h : site.Declares s d) : site.names = [⟨site.scope, d.name⟩] := by
  rw [Site.names, h.item, h.name]
  rfl

namespace Product.Made

variable {o : Options} {p : Product} (made : p.Made o)
include made

theorem names (scope : List Name) :
    namesOfItem scope (.generated p.code) =
      [⟨scope, ⟨p.declaration.name.ident, .start⟩⟩, ⟨scope, ⟨p.declaration.adapter, .start⟩⟩] := by
  rw [Product.code, made.implementation, made.adapter]
  cases p.params <;> rfl

theorem kept : p.code.flatMap Code.Item.kept = p.declaration.attributes := by
  rw [Product.code, made.implementation, made.adapter]
  cases p.params <;> exact List.append_nil _

end Product.Made

namespace Module

variable {m : Module} {o : Options} {limit : Option Nat}

theorem names_cleared (m : Module) : m.cleared.discover.names = m.discover.names := by
  have names (m : Module) : m.discover.names = namesOfItems [] m.items := rfl
  rw [names, names_eq, items, cleared]
  cases body : m.items? with
  | none =>
      rw [inOrder, items, body]
      rfl
  | some inside =>
      rw [Option.map_some, Option.getD_some, ← substituteItems_none [] 0,
        namesOfItems_substituteItems, inOrder, items, body, Option.getD_some]
      refine List.flatMap_congr fun site _ => ?_
      rw [Site.names, Site.names, Site.substitute, (stripped_substituteItem site.item rfl).names]

/-- The code of a product is settled, for the attributes in it are others than the directive. -/
theorem settled_of_product (source : m.IsSource) {site : Site} (listed : site ∈ m.sites)
    {s : StructItem} {p : Product} (made : p.Made o) (declares : site.Declares s p.declaration) :
    (Item.generated p.code).Settled := by
  intro c written a kept
  have user : a ∈ p.declaration.attributes := by
    rw [← made.kept]
    exact List.mem_flatMap.2 ⟨c, written, kept⟩
  rw [declares.attributes] at user
  obtain ⟨user, other⟩ := List.mem_filter.1 user
  have read := source site listed
  rw [declares.item] at read
  refine ⟨read a user, ?_⟩
  rw [← Attribute.isSome_kind?]
  simpa using other

/-- What was read and is not replaced is settled, for it loses its directives. -/
theorem settled_of_untouched {replacement : Slot → Option (List Code.Item)} {site : Site}
    (read : site.item.IsRead) (untouched : replacement site.slot = none) :
    (site.substitute replacement).item.Settled := by
  have stripped := stripped_substituteItem site.item untouched
  have undirected : (site.substitute replacement).item.attributes.any Attribute.isDirective =
      false := any_attributes_substituteItem
  rw [Site.substitute] at undirected ⊢
  dsimp only at undirected stripped ⊢
  generalize substituteItem _ _ _ site.item = after at undirected stripped ⊢
  generalize site.item = before at read stripped
  cases stripped with
  | generated => cases read
  | _ => exact undirected

/-- The code of a registration is settled, for the user has no attributes on it. -/
theorem settled_codeOf (o : Options) (entries : List RegistrationEntry) :
    (Item.generated (Registration.codeOf o entries)).Settled := by
  have none : (Registration.codeOf o entries).flatMap Code.Item.kept = [] := rfl
  intro c written a kept
  have user := List.mem_flatMap.2 ⟨c, written, kept⟩
  rw [none] at user
  cases user

/-- What a pass returns is settled at every site. -/
theorem settled_generate (o : Options) (limit : Option Nat) (source : m.IsSource) :
    ∀ site ∈ (m.generate o limit).module.sites, site.item.Settled := by
  intro after found
  rw [sites_generate] at found
  rcases List.mem_append.1 found with found | found
  · obtain ⟨site, listed, rfl⟩ := List.mem_map.1 found
    rcases substitute_cases o limit listed with ⟨p, produced, s, declares, same⟩ | untouched
    · rw [same]
      exact settled_of_product source listed (mem_products produced).2 declares
    · exact settled_of_untouched (source site listed) untouched
  · obtain ⟨r, registered, rfl⟩ := Option.map_eq_some_iff.1 (Option.mem_toList.1 found)
    obtain rfl := Registration.ofAdapters?_eq_some (registration_eq_some_made registered).2
    exact settled_codeOf o _

/-- The names at a site after a pass. -/
theorem names_substitute {site : Site} (listed : site ∈ m.sites) :
    (site.substitute (replacement (m.generate o limit).products)).names.map NamedItem.unplaced =
      ((m.generate o limit).namesAt site).map NamedItem.unplaced := by
  rcases substitute_cases o limit listed with
    ⟨p, produced, s, declares, same⟩ | untouched
  · have only : (m.generate o limit).products.filter
        (fun q => q.declaration.slot == site.slot) = [p] := by
      rw [← declares.slot]
      exact filter_eq_singleton products_apart produced
    have code : (⟨site.scope, site.slot, .generated p.code⟩ : Site).names = _ :=
      (mem_products produced).2.names site.scope
    rw [same, Generation.namesAt, only, declares.names, code]
    rfl
  · have none : (m.generate o limit).products.filter
        (fun q => q.declaration.slot == site.slot) = [] := by
      rw [List.filter_eq_nil_iff]
      simpa using replacement_eq_none_iff.1 untouched
    have stripped := stripped_substituteItem site.item untouched
    rw [Generation.namesAt, none, List.map_nil, List.append_nil, Site.names, Site.names,
      Site.substitute]
    dsimp only
    rw [stripped.names]

/-- The names after a pass. -/
theorem names_generate : (m.generate o limit).module.discover.names.map NamedItem.unplaced =
    (m.inOrder.flatMap (m.generate o limit).namesAt ++
      ((m.generate o limit).registration.map fun r =>
        (⟨[], ⟨r.registry, .start⟩⟩ : NamedItem)).toList).map NamedItem.unplaced := by
  have names : (m.generate o limit).module.discover.names =
      namesOfItems [] (m.generate o limit).module.items := rfl
  rw [names, items_generate, itemsAfter, namesOfItems_append, namesOfItems_substituteItems,
    List.map_append, List.map_append, List.map_flatMap, List.map_flatMap]
  congr 1
  · exact List.flatMap_congr fun site found => names_substitute (mem_inOrder_iff.1 found)
  · cases registered : (m.generate o limit).registration with
    | none => rfl
    | some r =>
        obtain rfl := Registration.ofAdapters?_eq_some (registration_eq_some_made registered).2
        rfl

theorem settles_generate (source : m.IsSource) : (m.generate o limit).Settles m := by
  have settled := settled_generate o limit source
  obtain ⟨declarations, diagnostics⟩ := discover_of_undirected
    (undirected_readBack fun site found => (settled site found).undirected)
  exact {
    tokens := tokens_readBack fun site found => (settled site found).outerCode
    declarations
    diagnostics
    placed := fun p produced => by
      obtain ⟨site, listed, s, declares⟩ := exists_site_of_product produced
      refine ⟨site, mem_inOrder_iff.2 listed, declares.slot.symm, ?_⟩
      rw [declares.names, declares.scope]
    before := names_eq m
    names := by rw [names_readBack, names_generate]
    unchanged := fun stopped => by
      rw [names_readBack, module_of_cancelled stopped, names_cleared] }

/-- Nothing is discovered in what a run returns, and its names are those of the module with the
names of the adapters and of the registration. -/
theorem rediscovery_exact (source : m.IsSource) (o : Options) (flag : Nat → Bool) :
    (m.run o flag).Settles m := by
  obtain ⟨limit, same⟩ := exists_limit m o flag
  rw [same]
  exact settles_generate source

theorem nested_settled :
    let m := ofItems [.moduleOf .everywhere "inner"
      [.unitStruct [.directive .identifier] .everywhere "OrderId"]]
    m.IsSource ∧ (m.run .default fun _ => false).Settles m := by
  intro m
  have source : m.IsSource := by
    intro site found
    rcases List.mem_cons.1 found with rfl | found
    · intro a written
      rw [List.mem_singleton.1 written]
      rfl
    · rw [List.mem_singleton.1 found]
      trivial
  exact ⟨source, rediscovery_exact source .default fun _ => false⟩

end Module

end DomainValues
