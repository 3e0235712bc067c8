import DomainValues.Proofs.Names
import DomainValues.Proofs.Reachability
import DomainValues.Proofs.References

/-!
# Items under conditions

An attribute `#[cfg(..)]` of the user makes an item conditional: whether it is left depends on what
holds where the module is compiled.  A pass looks at no condition.  Of what it generates for a
declaration, only the struct around the primitive has the attributes of the user, and the
registration has none.

So an assignment of truth values may leave code and take away what the code refers to.  That does
not happen exactly if each declaration in modules that are left is left too, and, when something is
registered, the modules around all declarations are (`Module.consistent_iff`).
-/

namespace DomainValues

open Code

/-! ## Conditions -/

namespace Attribute

/-- The condition of an attribute that makes what carries it conditional. -/
def condition? (a : Attribute) : Option (List Token) :=
  match a.name?, a.arguments with
  | some i, .list _ condition _ _ => if i.name = "cfg" then some condition else none
  | _, _ => none

/-- Whether an assignment leaves what carries some attributes. -/
def admitted (holds : List Token → Bool) (attributes : List Attribute) : Bool :=
  attributes.all fun a => a.condition?.all holds

variable {holds : List Token → Bool}

theorem condition?_of_isDirective {a : Attribute} (h : a.isDirective = true) :
    a.condition? = none := by
  unfold isDirective at h
  unfold condition?
  split
  case h_1 i delimiter condition opens closes name _ =>
    rw [name, Option.any_some] at h
    refine if_neg fun isCfg => ?_
    obtain ⟨raw, spelled⟩ := i
    obtain rfl : spelled = "cfg" := isCfg
    cases raw <;> exact absurd h (by decide)
  case h_2 => rfl

/-- A directive is no condition. -/
theorem admitted_withoutDirectives (attributes : List Attribute) :
    admitted holds (withoutDirectives attributes) = admitted holds attributes := by
  induction attributes with
  | nil => rfl
  | cons a rest ih =>
      rw [withoutDirectives, List.filter_cons]
      cases directive : a.isDirective with
      | true =>
          have given : a.kind?.isNone = false := by
            rw [← Option.not_isSome, isSome_kind?, directive]
            rfl
          rw [given, if_neg Bool.false_ne_true, ← withoutDirectives, ih, admitted, admitted,
            List.all_cons, condition?_of_isDirective directive]
          rfl
      | false =>
          have given : a.kind?.isNone = true := by
            rw [← Option.not_isSome, isSome_kind?, directive]
            rfl
          rw [given, if_pos rfl, ← withoutDirectives, admitted, List.all_cons, ← admitted, ih]
          rfl

/-- The attribute with a condition. -/
def conditional (condition : List Token) : Attribute :=
  ⟨.start, false, ⟨.start, false, [⟨.plain "cfg", .start⟩]⟩,
    .list .parenthesis condition .start .start⟩

end Attribute

open Attribute (admitted)

/-! ## What is left -/

/-- The code that stands at an item, if it is generated. -/
def Item.code : Item → List Code.Item
  | .generated code => code
  | _ => []

namespace Module

/-- Whether an assignment leaves the module and the inline modules around a slot. -/
def keepsAround (m : Module) (holds : List Token → Bool) (slot : Slot) : Bool :=
  admitted holds m.head.attributes &&
    (m.headsAt? slot).any fun heads => heads.all fun head => admitted holds head.attributes

/-- The generated items that an assignment leaves in a module, with the sites where they stand. -/
def codeLeft (m : Module) (holds : List Token → Bool) : List (Site × Code.Item) :=
  m.sites.flatMap fun site =>
    if m.keepsAround holds site.slot then
      (site.item.code.filter fun c => admitted holds c.kept).map fun c => (site, c)
    else []

variable {m : Module} {holds : List Token → Bool}

theorem mem_codeLeft_iff {site : Site} {c : Code.Item} :
    (site, c) ∈ m.codeLeft holds ↔ (site ∈ m.sites ∧ c ∈ site.item.code) ∧
      m.keepsAround holds site.slot = true ∧ admitted holds c.kept = true := by
  unfold codeLeft
  rw [List.mem_flatMap]
  constructor
  · rintro ⟨site', found, left⟩
    split at left
    case isTrue around =>
      obtain ⟨c', kept, same⟩ := List.mem_map.1 left
      obtain ⟨rfl, rfl⟩ := Prod.mk.inj same
      obtain ⟨written, admits⟩ := List.mem_filter.1 kept
      exact ⟨⟨found, written⟩, around, admits⟩
    case isFalse => cases left
  · rintro ⟨⟨found, written⟩, around, admits⟩
    refine ⟨site, found, ?_⟩
    rw [if_pos around]
    exact List.mem_map_of_mem (List.mem_filter.2 ⟨written, admits⟩)

end Module

/-- All that an assignment leaves of the generated code in a module refers to what it leaves. -/
def Module.Consistent (m : Module) (holds : List Token → Bool) : Prop :=
  ∀ site c, (site, c) ∈ m.codeLeft holds → ∀ r ∈ c.references,
    ∃ target ∈ m.codeLeft holds, r.LeadsTo site target

/-! ## Modules around a slot after a pass -/

section

variable (replacement : Slot → Option (List Code.Item))

theorem getElem?_substituteItems (modules : List Nat) (start index : Nat) (items : List Item) :
    (substituteItems replacement modules start items)[index]? =
      items[index]?.map (substituteItem replacement modules (start + index)) := by
  induction items generalizing start index with
  | nil =>
      rw [substituteItems]
      rfl
  | cons item rest ih =>
      rw [substituteItems]
      cases index with
      | zero => rfl
      | succ index =>
          rw [List.getElem?_cons_succ, List.getElem?_cons_succ, ih, Nat.add_assoc,
            Nat.add_comm 1 index]

/-- The modules around a slot stay, without their directives. -/
theorem headsAlong?_substituteItems (modules down : List Nat) (items : List Item) :
    headsAlong? (substituteItems replacement modules 0 items) down =
      (headsAlong? items down).map (List.map fun head =>
        { head with attributes := Attribute.withoutDirectives head.attributes }) := by
  induction down generalizing modules items with
  | nil => rfl
  | cons i down ih =>
      rw [headsAlong?, headsAlong?, getElem?_substituteItems]
      cases items[i]? with
      | none => rfl
      | some item =>
          rw [Option.map_some]
          cases item with
          | inlineModule head inner =>
              rw [substituteItem]
              dsimp only
              rw [ih, Option.map_map, Option.map_map]
              rfl
          | struct s =>
              rw [substituteItem]
              cases replacement ⟨modules, 0 + i⟩ <;> rfl
          | plain _ | verbatim _ | generated _ =>
              rw [substituteItem]
              rfl

end

/-- Generated code after other items is around nothing. -/
theorem headsAlong?_append_generated (items : List Item) (code : List Code.Item)
    (down : List Nat) : headsAlong? (items ++ [.generated code]) down = headsAlong? items down := by
  cases down with
  | nil => rfl
  | cons i down =>
      rw [headsAlong?, headsAlong?]
      rcases Nat.lt_or_ge i items.length with inside | outside
      · rw [List.getElem?_append_left inside]
      · rw [List.getElem?_append_right outside, List.getElem?_eq_none outside]
        cases i - items.length <;> rfl

namespace Module

variable {m : Module} {o : Options} {limit : Option Nat} {holds : List Token → Bool}

/-- A pass changes nothing in what is left around a slot. -/
theorem keepsAround_generate (slot : Slot) :
    (m.generate o limit).module.keepsAround holds slot = m.keepsAround holds slot := by
  have heads : (m.generate o limit).module.headsAt? slot = (m.headsAt? slot).map (List.map
      fun head => { head with attributes := Attribute.withoutDirectives head.attributes }) := by
    rw [headsAt?, headsAt?, items_generate, itemsAfter, ← headsAlong?_substituteItems]
    cases (m.generate o limit).registration with
    | none =>
        rw [Option.map_none, Option.toList_none, List.append_nil]
    | some r => exact headsAlong?_append_generated _ r.code slot.modules
  rw [keepsAround, keepsAround, heads]
  congr 1
  cases m.headsAt? slot with
  | none => rfl
  | some along =>
      simp only [Option.map_some, Option.any_some, List.all_map, Function.comp_def,
        Attribute.admitted_withoutDirectives]

end Module

/-! ## Generated code in a module -/

/-- The code of a product and its place after a pass. -/
def Product.site (p : Product) : Site :=
  ⟨p.declaration.scope, p.declaration.slot, .generated p.code⟩

namespace Module

variable {m : Module} {o : Options} {limit : Option Nat} {holds : List Token → Bool}

/-- The name of a product tells it. -/
theorem product_ext {p q : Product} (producedP : p ∈ (m.generate o limit).products)
    (producedQ : q ∈ (m.generate o limit).products)
    (same : p.declaration.name.bare = q.declaration.name.bare) : p = q := by
  have distinct : ((m.generate o limit).products.map fun p => p.declaration.name.bare).Nodup :=
    List.pairwise_map.2 products_distinct
  exact List.inj_on_of_nodup_map distinct producedP producedQ same

/-- The name of a product is listed. -/
theorem listed_of_product {p : Product} (produced : p ∈ (m.generate o limit).products) :
    ⟨p.declaration.scope, p.declaration.name⟩ ∈ m.discover.names := by
  obtain ⟨site, found, s, declares⟩ := exists_site_of_product produced
  refine mem_names_iff.2 ⟨site, found, declares.scope, ?_⟩
  rw [declares.item, declares.name]
  exact List.mem_singleton_self _

/-- Products in the same modules have the same scope. -/
theorem scope_eq_of_modules {p q : Product} (producedP : p ∈ (m.generate o limit).products)
    (producedQ : q ∈ (m.generate o limit).products)
    (same : p.declaration.slot.modules = q.declaration.slot.modules) :
    p.declaration.scope = q.declaration.scope := by
  obtain ⟨site, found, s, declares⟩ := exists_site_of_product producedP
  obtain ⟨site', found', s', declares'⟩ := exists_site_of_product producedQ
  obtain ⟨heads, along, scope⟩ := exists_heads found
  obtain ⟨heads', along', scope'⟩ := exists_heads found'
  rw [headsAt?, ← declares.slot, same, declares'.slot, ← headsAt?, along'] at along
  obtain rfl := Option.some.inj along
  rw [declares.scope, declares'.scope, ← scope, ← scope']

/-- The code of a product stands at its site. -/
theorem site_of_product {p : Product} (produced : p ∈ (m.generate o limit).products) :
    p.site ∈ (m.generate o limit).module.sites := by
  obtain ⟨site, found, s, declares⟩ := exists_site_of_product produced
  have rewritten : site.substitute (replacement (m.generate o limit).products) = p.site := by
    rcases substitute_cases o limit found with ⟨q, producedQ, s', declares', same⟩ | given
    · obtain rfl : s = s' := Item.struct.inj (declares.item.symm.trans declares'.item)
      obtain rfl : p = q := product_ext produced producedQ (by rw [declares.name, declares'.name])
      rw [same, Product.site, declares.scope, declares.slot]
    · exact absurd declares.slot (replacement_eq_none_iff.1 given p produced)
  rw [sites_generate, ← rewritten]
  exact List.mem_append_left _ (List.mem_map_of_mem found)

theorem site_of_registration {r : Registration}
    (registered : (m.generate o limit).registration = some r) :
    r.site m ∈ (m.generate o limit).module.sites := by
  rw [sites_generate, registered]
  exact List.mem_append_right _ (List.mem_singleton_self _)

/-- The code in a module after a pass is that of its products and that of the registration. -/
theorem code_cases (source : m.IsSource) {site : Site} {c : Code.Item}
    (found : site ∈ (m.generate o limit).module.sites) (written : c ∈ site.item.code) :
    (∃ p ∈ (m.generate o limit).products, site = p.site ∧ c ∈ p.code) ∨
      ∃ r, (m.generate o limit).registration = some r ∧ site = r.site m ∧ c ∈ r.code := by
  rw [sites_generate] at found
  rcases List.mem_append.1 found with found | found
  · obtain ⟨before, listed, rfl⟩ := List.mem_map.1 found
    rcases substitute_cases o limit listed with ⟨p, produced, s, declares, same⟩ | given
    · have placed : before.substitute (replacement (m.generate o limit).products) = p.site := by
        rw [same, Product.site, declares.scope, declares.slot]
      rw [placed] at written ⊢
      exact .inl ⟨p, produced, rfl, written⟩
    · have stripped := stripped_substituteItem before.item given
      have read := source before listed
      rw [Site.substitute] at written
      -- What stayed holds code only if it held code before.
      revert stripped read
      generalize before.item = item at written ⊢
      intro stripped read
      generalize substituteItem _ _ _ item = after at written stripped
      cases stripped with
      | generated => cases read
      | inlineModule | struct | plain | verbatim => cases written
  · obtain ⟨r, registered, rfl⟩ := Option.map_eq_some_iff.1 (Option.mem_toList.1 found)
    exact .inr ⟨r, registered, rfl, written⟩

/-- Who introduces a name that is left. -/
theorem owner_of_name (source : m.IsSource) {site : Site} {c : Code.Item} {i : Ident}
    (left : (site, c) ∈ (m.generate o limit).module.codeLeft holds) (name : c.name? = some i) :
    (∃ p ∈ (m.generate o limit).products, site = p.site ∧
      m.keepsAround holds p.declaration.slot = true ∧
        ((i = p.declaration.name.ident ∧ admitted holds p.declaration.attributes = true) ∨
          i = p.declaration.adapter)) ∨
      ∃ r, (m.generate o limit).registration = some r ∧ site = r.site m ∧ i = r.registry := by
  obtain ⟨⟨found, written⟩, around, admits⟩ := mem_codeLeft_iff.1 left
  rw [keepsAround_generate] at around
  rcases code_cases source found written with
    ⟨p, produced, rfl, written⟩ | ⟨r, registered, rfl, written⟩
  · refine .inl ⟨p, produced, rfl, around, ?_⟩
    refine ((mem_products produced).2.named_cases written name).imp (fun own => ?_) id
    exact ⟨own.1, own.2 ▸ admits⟩
  · refine .inr ⟨r, registered, rfl, ?_⟩
    obtain rfl := Registration.ofAdapters?_eq_some (registration_eq_some_made registered).2
    exact Registration.named_codeOf written name

/-- What is referred to by the name of a product is its type, which is left only if the product is
left on its own. -/
theorem admitted_of_sibling (source : m.IsSource) {p : Product}
    (produced : p ∈ (m.generate o limit).products) {target : Site × Code.Item}
    (left : target ∈ (m.generate o limit).module.codeLeft holds)
    (leads : (Reference.sibling p.declaration.name.ident).LeadsTo p.site target) :
    admitted holds p.declaration.attributes = true := by
  obtain ⟨modules, name⟩ := leads
  rcases owner_of_name source left name with
    ⟨q, producedQ, place, -, ⟨same, admits⟩ | same⟩ | ⟨r, registered, place, same⟩
  · obtain rfl := product_ext produced producedQ (congrArg Ident.name same)
    exact admits
  · rw [place] at modules
    have adapter : (q.adapter.scope, q.adapter.name) ∈ (m.generate o limit).newNames :=
      mem_newNames_iff.2 (.inl ⟨q, producedQ, rfl⟩)
    have scopes := scope_eq_of_modules producedQ produced modules
    have made := (mem_products producedQ).2
    refine absurd ?_ (newName_not_listed adapter (listed_of_product produced) ?_)
    · rw [made.adapter_name, ← same]
      rfl
    · rw [made.adapter_scope, scopes]
  · rw [place] at modules
    obtain ⟨site, found, s, declares⟩ := exists_site_of_product produced
    obtain ⟨heads, along, scope⟩ := exists_heads found
    rw [headsAt?, ← declares.slot, show p.declaration.slot.modules = [] from modules.symm] at along
    obtain rfl : [] = heads := Option.some.inj along
    have registry : ([], r.registry) ∈ (m.generate o limit).newNames :=
      mem_newNames_iff.2 (.inr ⟨r, registered, rfl⟩)
    refine absurd ?_ (newName_not_listed registry (listed_of_product produced) ?_)
    · exact congrArg Ident.name same
    · rw [declares.scope, ← scope]
      rfl

/-- What is referred to by the path of an adapter is that adapter, which is left only with the
modules around it. -/
theorem around_of_path (source : m.IsSource) {p : Product}
    (produced : p ∈ (m.generate o limit).products) {site : Site} {target : Site × Code.Item}
    (left : target ∈ (m.generate o limit).module.codeLeft holds)
    (leads : (Reference.fromRoot (p.declaration.scope.map Name.ident ++
      [p.declaration.adapter])).LeadsTo site target) :
    m.keepsAround holds p.declaration.slot = true := by
  obtain ⟨i, name, path⟩ := leads
  obtain ⟨scopes, same⟩ := List.append_inj' path rfl
  obtain rfl : i = p.declaration.adapter := List.singleton_inj.1 same
  have bares : bareNames target.1.scope = bareNames p.declaration.scope := by
    have names := congrArg (List.map Ident.name) scopes
    rwa [List.map_map, List.map_map] at names
  have made := (mem_products produced).2
  rcases owner_of_name source left name with
    ⟨q, producedQ, place, around, ⟨same, -⟩ | same⟩ | ⟨r, registered, place, same⟩
  · rw [place] at bares
    have adapter : (p.adapter.scope, p.adapter.name) ∈ (m.generate o limit).newNames :=
      mem_newNames_iff.2 (.inl ⟨p, produced, rfl⟩)
    refine absurd ?_ (newName_not_listed adapter (listed_of_product producedQ) ?_)
    · rw [made.adapter_name, same]
      rfl
    · rw [made.adapter_scope, ← bares]
      rfl
  · obtain rfl := product_ext produced producedQ (adapter_name_inj (congrArg Ident.name same))
    exact around
  · rw [place] at bares
    have root : p.adapter.scope = [] := by
      rw [made.adapter_scope]
      exact scope_eq_nil bares.symm
    refine absurd ?_ ((adapter_free produced).2 root)
    rw [made.adapter_name, same, (registration_eq_some registered).2.1]

/-- The code of a product that an assignment leaves. -/
theorem mem_codeLeft_of_product {p : Product} (produced : p ∈ (m.generate o limit).products)
    (around : m.keepsAround holds p.declaration.slot = true) {c : Code.Item}
    (written : c ∈ p.code) (admits : admitted holds c.kept = true) :
    (p.site, c) ∈ (m.generate o limit).module.codeLeft holds :=
  mem_codeLeft_iff.2 ⟨⟨site_of_product produced, written⟩,
    (keepsAround_generate p.declaration.slot).trans around, admits⟩

/-- The code of a registration is left with the module. -/
theorem mem_codeLeft_of_registration {r : Registration}
    (registered : (m.generate o limit).registration = some r)
    (root : admitted holds m.head.attributes = true) {c : Code.Item} (written : c ∈ r.code)
    (plain : c.kept = []) :
    (r.site m, c) ∈ (m.generate o limit).module.codeLeft holds := by
  have around : m.keepsAround holds (r.site m).slot = true := by
    rw [keepsAround, root]
    rfl
  refine mem_codeLeft_iff.2 ⟨⟨site_of_registration registered, written⟩,
    (keepsAround_generate _).trans around, ?_⟩
  rw [plain]
  rfl

/-- The entries of a registration are the paths of the adapters of the products. -/
theorem mem_entries_iff {r : Registration} (registered : (m.generate o limit).registration = some r)
    {e : RegistrationEntry} : e ∈ r.entries ↔ ∃ p ∈ (m.generate o limit).products,
      e = ⟨p.declaration.name.bare,
        .path .root (p.declaration.scope.map Name.ident ++ [p.declaration.adapter])⟩ := by
  rw [(registration_eq_some registered).2.2.mem_iff, List.mem_map]
  refine exists_congr fun p => and_congr_right fun produced => ?_
  have made := (mem_products produced).2
  rw [Registration.entryOf, Adapter.path, made.adapter_value, made.adapter_scope,
    made.adapter_name]
  exact eq_comm

theorem code_of_registration {r : Registration}
    (registered : (m.generate o limit).registration = some r) :
    r.code = Registration.codeOf o r.entries := by
  rw [Registration.ofAdapters?_eq_some (registration_eq_some_made registered).2]

/-- What a reference in the code of a product leads to is left, if the product is. -/
theorem leads_of_product {p : Product} (produced : p ∈ (m.generate o limit).products)
    (around : m.keepsAround holds p.declaration.slot = true)
    (admits : admitted holds p.declaration.attributes = true) {c : Code.Item}
    (written : c ∈ p.code) {r : Reference} (refers : r ∈ c.references) :
    ∃ target ∈ (m.generate o limit).module.codeLeft holds, r.LeadsTo p.site target := by
  have made := (mem_products produced).2
  rcases made.references written refers with rfl | rfl
  · obtain ⟨c, written, name, kept⟩ := made.exists_named List.mem_cons_self
    exact ⟨_, mem_codeLeft_of_product produced around written (kept ▸ admits), rfl, name⟩
  · obtain ⟨c, written, name, kept⟩ := made.exists_named
      (List.mem_cons_of_mem _ (List.mem_singleton_self _))
    exact ⟨_, mem_codeLeft_of_product produced around written (kept ▸ rfl), rfl, name⟩

/-- What a reference in a registration leads to is left, if the modules around all products are. -/
theorem leads_of_registration {r : Registration}
    (registered : (m.generate o limit).registration = some r)
    (root : admitted holds m.head.attributes = true)
    (around : ∀ p ∈ (m.generate o limit).products,
      m.keepsAround holds p.declaration.slot = true)
    {c : Code.Item} (written : c ∈ r.code) {q : Reference} (refers : q ∈ c.references) :
    ∃ target ∈ (m.generate o limit).module.codeLeft holds, q.LeadsTo (r.site m) target := by
  rw [code_of_registration registered] at written
  rcases Registration.references_codeOf o r.entries c written q refers with rfl | ⟨e, listed, given⟩
  · have struct : ∃ c ∈ r.code, c.name? = some o.registry ∧ c.kept = [] := by
      rw [code_of_registration registered]
      exact ⟨_, List.mem_cons_self, rfl, rfl⟩
    obtain ⟨c, written, name, kept⟩ := struct
    exact ⟨_, mem_codeLeft_of_registration registered root written kept, rfl, name⟩
  · obtain ⟨p, produced, rfl⟩ := (mem_entries_iff registered).1 listed
    obtain rfl := List.mem_singleton.1 given
    obtain ⟨c, written, name, kept⟩ := (mem_products produced).2.exists_named
      (List.mem_cons_of_mem _ (List.mem_singleton_self _))
    exact ⟨_, mem_codeLeft_of_product produced (around p produced) written (kept ▸ rfl), _, name,
      rfl⟩

/-- An assignment leaves code that refers to what it leaves. -/
theorem consistent_generate_iff (source : m.IsSource) :
    (m.generate o limit).module.Consistent holds ↔
      (∀ p ∈ (m.generate o limit).products, m.keepsAround holds p.declaration.slot = true →
        admitted holds p.declaration.attributes = true) ∧
      ((m.generate o limit).registration.isSome = true →
        admitted holds m.head.attributes = true → ∀ p ∈ (m.generate o limit).products,
          m.keepsAround holds p.declaration.slot = true) := by
  constructor
  · intro consistent
    constructor
    · intro p produced around
      obtain ⟨c, written, kept, refers⟩ := (mem_products produced).2.exists_reference
      have left := mem_codeLeft_of_product produced around written
        (show admitted holds c.kept = true by rw [kept]; rfl)
      obtain ⟨target, found, leads⟩ := consistent _ _ left _ refers
      exact admitted_of_sibling source produced found leads
    · intro registered root p produced
      obtain ⟨r, registered⟩ := Option.isSome_iff_exists.1 registered
      have listed := (mem_entries_iff registered).2 ⟨p, produced, rfl⟩
      obtain ⟨c, written, kept, refers⟩ := Registration.exists_reference o listed rfl
      rw [← code_of_registration registered] at written
      have left := mem_codeLeft_of_registration registered root written kept
      obtain ⟨target, found, leads⟩ := consistent _ _ left _ refers
      exact around_of_path source produced found leads
  · rintro ⟨whole, together⟩ site c left r refers
    obtain ⟨⟨found, written⟩, around, -⟩ := mem_codeLeft_iff.1 left
    rw [keepsAround_generate] at around
    rcases code_cases source found written with
      ⟨p, produced, rfl, written⟩ | ⟨registration, registered, rfl, written⟩
    · exact leads_of_product produced around (whole p produced around) written refers
    · have root : admitted holds m.head.attributes = true := (Bool.and_eq_true_iff.1 around).1
      exact leads_of_registration registered root
        (together (Option.isSome_iff_exists.2 ⟨_, registered⟩) root) written refers

/-- Whatever an assignment of truth values to conditions takes away from what a run returns, the
code that is left refers to what is left, exactly if

* each product in modules that are left is left on its own, and
* when there is a registration in a module that is left, so are the modules around all products. -/
theorem consistent_iff (source : m.IsSource) (o : Options) (flag : Nat → Bool)
    (holds : List Token → Bool) :
    (m.run o flag).module.Consistent holds ↔
      (∀ p ∈ (m.run o flag).products, m.keepsAround holds p.declaration.slot = true →
        admitted holds p.declaration.attributes = true) ∧
      ((m.run o flag).registration.isSome = true → admitted holds m.head.attributes = true →
        ∀ p ∈ (m.run o flag).products, m.keepsAround holds p.declaration.slot = true) := by
  obtain ⟨limit, same⟩ := exists_limit m o flag
  rw [same]
  exact consistent_generate_iff source

/-- A declaration under a condition, in a module under another one. -/
theorem nested_consistent :
    let m := ofItems [.inlineModule
      ⟨[.conditional [.ofWord "unix"]], .everywhere, false, ⟨.plain "inner", .start⟩⟩
      [.unitStruct [.conditional [.ofWord "test"], .directive .identifier] .everywhere "OrderId"]]
    m.IsSource ∧ (m.run .default fun _ => false).module.Consistent fun _ => true := by
  intro m
  have source : m.IsSource := by
    intro site found
    rcases List.mem_cons.1 found with rfl | found
    · show ∀ a ∈ [Attribute.conditional _, .directive .identifier], a.inner = false
      decide
    · rw [List.mem_singleton.1 found]
      trivial
  have all {l : List Attribute} : admitted (fun _ => true) l = true := by
    refine List.all_eq_true.2 fun a _ => ?_
    cases a.condition? <;> rfl
  refine ⟨source, (consistent_iff source .default (fun _ => false) fun _ => true).2
    ⟨fun _ _ _ => all, fun _ _ p produced => ?_⟩⟩
  rw [List.mem_singleton.1 produced]
  decide

/-- Where the condition of a declaration does not hold, what is generated for it is left without
its type. -/
theorem conditional_not_consistent :
    let m := ofItems [.unitStruct
      [.conditional [.ofWord "any", .inGroup .parenthesis []], .directive .identifier]
      .everywhere "OrderId"]
    let g := m.run .default fun _ => false
    g.cancelled = false ∧ g.diagnostics = [] ∧ ¬ g.module.Consistent fun _ => false := by
  intro m g
  have source : m.IsSource := by
    intro site found
    rw [List.mem_singleton.1 found]
    show ∀ a ∈ [Attribute.conditional _, .directive .identifier], a.inner = false
    decide
  refine ⟨rfl, rfl, fun consistent => ?_⟩
  have limited : g = m.generate .default none := run_of_unset fun _ _ => rfl
  rw [limited] at consistent
  have admits := ((consistent_generate_iff source).1 consistent).1 _ List.mem_cons_self rfl
  exact absurd admits (by decide)

end Module

end DomainValues
