import DomainValues.Proofs.Cancellation
import DomainValues.Proofs.Completeness

/-!
# The module after a pass

A pass takes the items of the module one by one and never moves one: the sites of the module after
it are the sites of the module before, in the same order and at the same slots, and then that of
the registration.  At each site stands either the code of a product made from the struct there, or
the item that stood there without its directives (`Site.Rewritten`).

Main statements:

* `sitesOfItems_substituteItems`: replacing items commutes with listing the sites.
* `Module.rewriting_exact`: every run rewrites the module so (`Generation.Rewrites`), and it leaves
  no directive behind exactly if no item that passes through unread carries one.
-/

namespace DomainValues

/-! ## Sites of what was replaced -/

/-- A site after its item was replaced. -/
def Site.substitute (replacement : Slot → Option (List Code.Item)) (site : Site) : Site :=
  { site with item := substituteItem replacement site.slot.modules site.slot.item site.item }

section

variable (replacement : Slot → Option (List Code.Item))

mutual

/-- Replacing commutes with listing: it changes neither the slots nor the names of modules. -/
theorem sitesOfItem_substituteItem (scope : List Name) (modules : List Nat) (index : Nat) :
    (item : Item) →
      sitesOfItem scope modules index (substituteItem replacement modules index item) =
        (sitesOfItem scope modules index item).map (Site.substitute replacement)
  | .inlineModule head items => by
      have below :=
        sitesOfItems_substituteItems (scope ++ [head.name]) (modules ++ [index]) 0 items
      rw [substituteItem, sitesOfItem, sitesOfItem, below, List.map_append, List.map_singleton,
        Site.substitute, substituteItem]
  | .struct s => by
      cases found : replacement ⟨modules, index⟩ <;>
        simp [substituteItem, sitesOfItem, Site.substitute, found]
  | .plain _ | .verbatim _ | .generated _ => by
      rw [substituteItem]
      rfl

theorem sitesOfItems_substituteItems (scope : List Name) (modules : List Nat) (index : Nat) :
    (items : List Item) →
      sitesOfItems scope modules index (substituteItems replacement modules index items) =
        (sitesOfItems scope modules index items).map (Site.substitute replacement)
  | [] => by rw [substituteItems, sitesOfItems, List.map_nil]
  | item :: rest => by
      rw [substituteItems, sitesOfItems, sitesOfItems, List.map_append,
        sitesOfItem_substituteItem scope modules index item,
        sitesOfItems_substituteItems scope modules (index + 1) rest]

end

theorem length_substituteItems (modules : List Nat) (index : Nat) (items : List Item) :
    (substituteItems replacement modules index items).length = items.length := by
  induction items generalizing index with
  | nil => rw [substituteItems]
  | cons item rest ih => rw [substituteItems, List.length_cons, ih, List.length_cons]

end

theorem sitesOfItems_append (scope : List Name) (modules : List Nat) (index : Nat)
    (items more : List Item) :
    sitesOfItems scope modules index (items ++ more) =
      sitesOfItems scope modules index items ++
        sitesOfItems scope modules (index + items.length) more := by
  induction items generalizing index with
  | nil => rfl
  | cons item rest ih =>
      rw [List.cons_append, sitesOfItems, sitesOfItems, ih, List.append_assoc, List.length_cons,
        Nat.add_assoc, Nat.add_comm 1]

/-! ## What stands at a site -/

theorem replacement_eq_none_iff {products : List Product} {slot : Slot} :
    replacement products slot = none ↔ ∀ p ∈ products, p.declaration.slot ≠ slot := by
  simp [replacement, List.find?_eq_none]

theorem exists_of_replacement_eq_some {products : List Product} {slot : Slot}
    {code : List Code.Item} (h : replacement products slot = some code) :
    ∃ p ∈ products, p.declaration.slot = slot ∧ p.code = code := by
  obtain ⟨p, found, same⟩ := Option.map_eq_some_iff.1 h
  exact ⟨p, List.mem_of_find?_eq_some found, by simpa using List.find?_some found, same⟩

/-- The second item is the first without its directives.  The items in an inline module have sites
of their own, so of them only the number is compared. -/
inductive Item.Stripped : Item → Item → Prop where
  /-- An inline module. -/
  | inlineModule {head : ModuleHead} {items after : List Item} : after.length = items.length →
      Stripped (.inlineModule head items)
        (.inlineModule { head with attributes := Attribute.withoutDirectives head.attributes }
          after)
  /-- A struct. -/
  | struct {s : StructItem} : Stripped (.struct s)
      (.struct { s with attributes := Attribute.withoutDirectives s.attributes })
  /-- An item of another sort. -/
  | plain {p : PlainItem} : Stripped (.plain p)
      (.plain { p with attributes := Attribute.withoutDirectives p.attributes })
  /-- What passes through unread. -/
  | verbatim {tokens : List Token} : Stripped (.verbatim tokens) (.verbatim tokens)
  /-- Generated code. -/
  | generated {code : List Code.Item} : Stripped (.generated code) (.generated code)

theorem stripped_substituteItem {replacement : Slot → Option (List Code.Item)}
    {modules : List Nat} {index : Nat} (item : Item) (h : replacement ⟨modules, index⟩ = none) :
    item.Stripped (substituteItem replacement modules index item) := by
  cases item with
  | inlineModule head items =>
      rw [substituteItem]
      exact .inlineModule (length_substituteItems ..)
  | struct s =>
      rw [substituteItem, h]
      exact .struct
  | plain p =>
      rw [substituteItem]
      exact .plain
  | verbatim tokens =>
      rw [substituteItem]
      exact .verbatim
  | generated code =>
      rw [substituteItem]
      exact .generated

section

variable {replacement : Slot → Option (List Code.Item)} {modules : List Nat} {index : Nat}
  {item : Item}

theorem substituteItem_of_unread (h : item.isVerbatim = true) :
    substituteItem replacement modules index item = item := by
  cases item with
  | verbatim tokens => rw [substituteItem]
  | inlineModule head items => cases h
  | struct s => cases h
  | plain p => cases h
  | generated code => cases h

theorem isVerbatim_substituteItem :
    (substituteItem replacement modules index item).isVerbatim = item.isVerbatim := by
  cases item with
  | struct s =>
      rw [substituteItem]
      cases replacement ⟨modules, index⟩ <;> rfl
  | inlineModule _ _ | plain _ =>
      rw [substituteItem]
      rfl
  | verbatim _ | generated _ => rw [substituteItem]

/-- No attribute that a pass sees is a directive after it. -/
theorem any_attributes_substituteItem :
    (substituteItem replacement modules index item).attributes.any Attribute.isDirective =
      false := by
  cases item with
  | struct s =>
      rw [substituteItem]
      cases replacement ⟨modules, index⟩ with
      | none => exact Attribute.any_withoutDirectives _
      | some code => rfl
  | inlineModule _ _ | plain _ =>
      rw [substituteItem]
      exact Attribute.any_withoutDirectives _
  | verbatim _ | generated _ =>
      rw [substituteItem]
      rfl

/-- An item that carries a directive after a pass is one that passes through unread. -/
theorem unread_of_isMarked
    (h : (substituteItem replacement modules index item).isMarked = true) :
    item.isVerbatim = true := by
  cases unread : item.isVerbatim with
  | true => rfl
  | false =>
      rw [Item.isMarked_of_read (isVerbatim_substituteItem.trans unread),
        any_attributes_substituteItem] at h
      cases h

end

/-- What a pass puts at a site. -/
inductive Site.Rewritten (g : Generation) : Site → Site → Prop where
  /-- A struct that was generated gives way to its code: the tokens of the type, and then those of
  the adapter. -/
  | replaced {site : Site} {p : Product} {code : List Code.Item} : p ∈ g.products → p.IsOf site →
      (Item.generated code).tokens = p.implementation.tokens ++ p.adapter.tokens →
      Rewritten g site { site with item := .generated code }
  /-- Every other item stays, without its directives. -/
  | stayed {site : Site} {item : Item} : (∀ p ∈ g.products, p.declaration.slot ≠ site.slot) →
      site.item.Stripped item → Rewritten g site { site with item }

/-- The site of the registration in a module. -/
def Registration.site (r : Registration) (m : Module) : Site :=
  ⟨[], ⟨[], m.items.length⟩, .generated r.code⟩

/-- A pass changed a module in the places of its products only. -/
structure Generation.Rewrites (g : Generation) (m : Module) : Prop where
  /-- All but the items is as it was. -/
  head : g.module.head = m.head
  /-- There are items if there were. -/
  body : g.module.items?.isSome = m.items?.isSome
  /-- The sites are those from before, rewritten, and then that of the registration. -/
  sites : ∃ rewritten, List.Forall₂ (Site.Rewritten g) m.sites rewritten ∧
    g.module.sites = rewritten ++ (g.registration.map fun r => r.site m).toList
  /-- Every product has its place. -/
  placed : ∀ p ∈ g.products, ∃ site ∈ m.sites, p.IsOf site
  /-- No two products have one place. -/
  apart : g.products.Pairwise fun p q => p.declaration.slot ≠ q.declaration.slot
  /-- A declaration that was not generated is a plain unit struct with its other attributes. -/
  rejected : ∀ d ∈ m.discover.declarations, (∀ p ∈ g.products, p.declaration.slot ≠ d.slot) →
    ⟨d.scope, d.slot, .struct ⟨d.attributes, d.visibility, d.name, [], none, .unit⟩⟩ ∈
      g.module.sites

/-! ## Rewriting -/

namespace Module

variable {m : Module} {o : Options} {limit : Option Nat}

/-- The items after a pass.  If the body is elsewhere, there are none. -/
theorem items_generate : (m.generate o limit).module.items =
    itemsAfter (m.generate o limit).products (m.generate o limit).registration m.items := by
  have after : (m.generate o limit).module.items? = m.items?.map (itemsAfter
    (m.generate o limit).products (m.generate o limit).registration) := rfl
  cases body : m.items? with
  | none =>
      have nothing : m.sites = [] := by
        rw [sites, items, body]
        rfl
      have unregistered : (m.generate o limit).registration = none := by
        refine Option.not_isSome_iff_eq_none.1 fun some => ?_
        obtain ⟨p, produced⟩ := List.exists_mem_of_ne_nil _ (isSome_registration.1 some).2
        obtain ⟨site, found, -⟩ := exists_site_of_product produced
        rw [nothing] at found
        cases found
      rw [unregistered, items, items, after, body]
      rfl
  | some inside =>
      rw [items, items, after, body, Option.map_some, Option.getD_some, Option.getD_some]

/-- The sites after a pass. -/
theorem sites_generate : (m.generate o limit).module.sites =
    m.sites.map (Site.substitute (replacement (m.generate o limit).products)) ++
      ((m.generate o limit).registration.map fun r => r.site m).toList := by
  rw [sites, sites, items_generate, itemsAfter, sitesOfItems_append, sitesOfItems_substituteItems,
    length_substituteItems, Nat.zero_add]
  congr 1
  cases (m.generate o limit).registration with
  | none => rfl
  | some r => simp [sitesOfItems, sitesOfItem, Registration.site]

/-- Every site is there after a pass, with what was put there. -/
theorem substitute_mem_sites (o : Options) (limit : Option Nat) {site : Site}
    (found : site ∈ m.sites) :
    site.substitute (replacement (m.generate o limit).products) ∈
      (m.generate o limit).module.sites := by
  rw [sites_generate]
  exact List.mem_append_left _ (List.mem_map_of_mem found)

/-- At a site stands the code of the product that has its slot, or there is no such product. -/
theorem substitute_cases (o : Options) (limit : Option Nat) {site : Site}
    (found : site ∈ m.sites) :
    (∃ p ∈ (m.generate o limit).products, ∃ s, site.Declares s p.declaration ∧
      site.substitute (replacement (m.generate o limit).products) =
        { site with item := .generated p.code }) ∨
      replacement (m.generate o limit).products site.slot = none := by
  cases given : replacement (m.generate o limit).products site.slot with
  | none => exact .inr rfl
  | some code =>
      obtain ⟨p, produced, same, rfl⟩ := exists_of_replacement_eq_some given
      obtain ⟨site', found', s, declares⟩ := exists_site_of_product produced
      obtain rfl : site' = site := site_ext found' found (declares.slot.symm.trans same)
      exact .inl ⟨p, produced, s, declares, by
        rw [Site.substitute, declares.item, substituteItem, given]⟩

/-- At each site stands what the pass puts there. -/
theorem rewritten_substitute {site : Site} (found : site ∈ m.sites) :
    Site.Rewritten (m.generate o limit) site
      (site.substitute (replacement (m.generate o limit).products)) := by
  rcases substitute_cases o limit found with
    ⟨p, produced, s, declares, replaced⟩ | given
  · rw [replaced]
    refine .replaced produced ((mem_products produced).2.isOf declares) ?_
    rw [Item.tokens, Product.code, List.flatMap_append]
    rfl
  · exact .stayed (replacement_eq_none_iff.1 given) (stripped_substituteItem site.item given)

/-- A declaration that was not generated stays. -/
theorem mem_sites_of_rejected {d : Declaration} (declared : d ∈ m.discover.declarations)
    (rejected : ∀ p ∈ (m.generate o limit).products, p.declaration.slot ≠ d.slot) :
    ⟨d.scope, d.slot, .struct ⟨d.attributes, d.visibility, d.name, [], none, .unit⟩⟩ ∈
      (m.generate o limit).module.sites := by
  obtain ⟨site, found, s, declares⟩ := mem_declarations_iff.1 declared
  have shape := Site.shapeFaults_eq_nil_iff.1 declares.shape
  have unit : s.fields = .unit := by
    cases fields : s.fields with
    | unit => rfl
    | unnamed _ _ _ | named _ _ _ => simp [fields, Fields.position?] at shape
  have given : replacement (m.generate o limit).products site.slot = none :=
    replacement_eq_none_iff.2 (declares.slot ▸ rejected)
  have stays : site.substitute (replacement (m.generate o limit).products) =
      ⟨d.scope, d.slot, .struct ⟨d.attributes, d.visibility, d.name, [], none, .unit⟩⟩ := by
    rw [Site.substitute, declares.item, substituteItem, given, declares.scope, declares.slot,
      declares.attributes, declares.visibility, declares.name, ← shape.2.2.1.1, ← shape.2.2.1.2,
      ← unit]
  exact stays ▸ substitute_mem_sites o limit found

theorem rewrites_generate : (m.generate o limit).Rewrites m where
  head := rfl
  body := Option.isSome_map ..
  sites := by
    refine ⟨_, ?_, sites_generate⟩
    rw [List.forall₂_map_right_iff, List.forall₂_same]
    exact fun site found => rewritten_substitute found
  placed p produced := by
    obtain ⟨site, found, s, declares⟩ := exists_site_of_product produced
    exact ⟨site, found, (mem_products produced).2.isOf declares⟩
  apart := products_apart
  rejected d declared rejected := mem_sites_of_rejected declared rejected

/-! ## Directives that are left -/

/-- What passes through unread is left as it was. -/
theorem mem_sites_of_unread {site : Site} (found : site ∈ m.sites)
    (unread : site.item.isVerbatim = true) : site ∈ (m.generate o limit).module.sites := by
  obtain ⟨scope, slot, item⟩ := site
  have stays : Site.substitute (replacement (m.generate o limit).products) ⟨scope, slot, item⟩ =
      ⟨scope, slot, item⟩ := by
    rw [Site.substitute, substituteItem_of_unread unread]
  exact stays ▸ substitute_mem_sites o limit found

/-- After a pass, only what passes through unread carries directives. -/
theorem unread_of_left {site : Site} (left : site ∈ (m.generate o limit).module.sites)
    (marked : site.item.isMarked = true) :
    site ∈ m.sites ∧ site.item.isVerbatim = true := by
  rw [sites_generate] at left
  rcases List.mem_append.1 left with left | left
  · obtain ⟨⟨scope, slot, item⟩, found, rfl⟩ := List.mem_map.1 left
    rw [Site.substitute] at marked ⊢
    have unread := unread_of_isMarked marked
    rw [substituteItem_of_unread unread]
    exact ⟨found, unread⟩
  · obtain ⟨r, -, rfl⟩ := Option.map_eq_some_iff.1 (Option.mem_toList.1 left)
    cases marked

theorem unmarked_iff :
    (∀ site ∈ (m.generate o limit).module.sites, site.item.isMarked = false) ↔
      ¬ m.HidesDirective := by
  constructor
  · rintro unmarked ⟨site, found, unread, marked⟩
    rw [unmarked site (mem_sites_of_unread found unread)] at marked
    cases marked
  · intro unhidden site left
    refine Bool.eq_false_iff.2 fun marked => unhidden ?_
    obtain ⟨found, unread⟩ := unread_of_left left marked
    exact ⟨site, found, unread, marked⟩

/-- Every run rewrites the module in the places of its products only.  It leaves no directive
behind, in no item of the module, exactly if no item that passes through unread carries one. -/
theorem rewriting_exact (m : Module) (o : Options) (flag : Nat → Bool) :
    (m.run o flag).Rewrites m ∧
      ((∀ site ∈ (m.run o flag).module.sites, site.item.isMarked = false) ↔
        ¬ m.HidesDirective) := by
  obtain ⟨limit, same⟩ := exists_limit m o flag
  rw [same]
  exact ⟨rewrites_generate, unmarked_iff⟩

/-- A declared macro passes through unread, and its directive stays. -/
theorem unread_keeps_directive :
    let m := ofItems [.unreadMacro [.directive .identifier] "make"]
    let g := m.run .default fun _ => false
    g.diagnostics = [] ∧ ∃ site ∈ g.module.sites, site.item.isMarked = true :=
  ⟨rfl, by decide +kernel⟩

end Module
end DomainValues
