import DomainValues.Proofs.Generation

/-!
# Names that a pass introduces

A pass introduces the names of the adapters, each in the modules of its declaration, and the name
of the registration type at the root (`Generation.newNames`).  All of them are names of structs
without fields, which are types and values.

Which names an item introduces into the types or the values of its module is said by
`Item.Introduces`.  A pass compares new names with the names that are listed for items, and these
leave out two sorts of items that introduce names, and what passes through unread
(`Item.isUnlisted`).

Main statements:

* `ImportTree.mem_names_iff`: of an import, exactly what it introduces is listed.
* `Item.Introduces.mem_names`: of all items but the unlisted ones, what they introduce is listed.
* `Module.noClash_iff`: new names clash with nothing unless an unlisted item introduces one.
-/

namespace DomainValues

/-! ## What an import introduces -/

/-- A name that a tree of imports introduces, given the module around the tree. -/
inductive ImportTree.Introduces : Option Name → ImportTree → Name → Prop where
  /-- What is imported from a module. -/
  | path {parent : Option Name} {module n : Name} {tree : ImportTree} :
      Introduces (some module) tree n → Introduces parent (.path module tree) n
  /-- An item under its own name. -/
  | item {parent : Option Name} {n : Name} : n.text ≠ "self" → Introduces parent (.item n) n
  /-- The module around the tree. -/
  | parent {module name : Name} : name.text = "self" → Introduces (some module) (.item name) module
  /-- An item under a new name. -/
  | renamed {parent : Option Name} {name n : Name} : Introduces parent (.renamed name n) n
  /-- What one of several trees introduces. -/
  | group {parent : Option Name} {n : Name} {tree : ImportTree} {trees : List ImportTree} :
      tree ∈ trees → Introduces parent tree n → Introduces parent (.group trees) n

namespace ImportTree

mutual

theorem introduces_of_mem_names {parent : Option Name} {n : Name} :
    (tree : ImportTree) → n ∈ tree.names parent → tree.Introduces parent n
  | .path module tree, h => .path (introduces_of_mem_names tree h)
  | .item name, h => by
      rw [names] at h
      split at h
      case isTrue own =>
        obtain rfl := Option.mem_toList.1 h
        exact .parent own
      case isFalse other =>
        obtain rfl := List.mem_singleton.1 h
        exact .item other
  | .renamed name newName, h => by
      obtain rfl := List.mem_singleton.1 h
      exact .renamed
  | .everything, h => by cases h
  | .group trees, h => by
      obtain ⟨tree, found, introduced⟩ := introduces_of_mem_namesAll trees h
      exact .group found introduced

theorem introduces_of_mem_namesAll {parent : Option Name} {n : Name} :
    (trees : List ImportTree) → n ∈ namesAll parent trees →
      ∃ tree ∈ trees, tree.Introduces parent n
  | [], h => by cases h
  | tree :: rest, h => by
      rcases List.mem_append.1 h with h | h
      · exact ⟨tree, List.mem_cons_self, introduces_of_mem_names tree h⟩
      · obtain ⟨other, found, introduced⟩ := introduces_of_mem_namesAll rest h
        exact ⟨other, List.mem_cons_of_mem _ found, introduced⟩

end

theorem mem_namesAll_of_mem {parent : Option Name} {n : Name} {tree : ImportTree}
    {trees : List ImportTree} (found : tree ∈ trees) (h : n ∈ tree.names parent) :
    n ∈ namesAll parent trees := by
  induction trees with
  | nil => cases found
  | cons first rest ih =>
      rw [namesAll, List.mem_append]
      cases found with
      | head => exact .inl h
      | tail _ found => exact .inr (ih found)

theorem Introduces.mem_names {parent : Option Name} {tree : ImportTree} {n : Name}
    (h : tree.Introduces parent n) : n ∈ tree.names parent := by
  induction h with
  | path _ ih => exact ih
  | item other =>
      rw [names, if_neg other]
      exact List.mem_singleton_self _
  | parent own =>
      rw [names, if_pos own]
      exact List.mem_singleton_self _
  | renamed => exact List.mem_singleton_self _
  | group found _ ih => exact mem_namesAll_of_mem found ih

/-- Of an import, exactly what it introduces is listed. -/
theorem mem_names_iff {parent : Option Name} {tree : ImportTree} {n : Name} :
    n ∈ tree.names parent ↔ tree.Introduces parent n :=
  ⟨introduces_of_mem_names tree, Introduces.mem_names⟩

end ImportTree

/-! ## What an item introduces -/

/-- A name that an item of a sort introduces.  An underscore is no name. -/
inductive ItemKind.Introduces : ItemKind → Name → Prop where
  | constant {n : Name} : n.bare ≠ "_" → Introduces (.constant n) n
  | enumeration {n : Name} : Introduces (.enumeration n) n
  | externCrate {n : Name} : Introduces (.externCrate n none) n
  | renamedCrate {name n : Name} : n.bare ≠ "_" → Introduces (.externCrate name (some n)) n
  | externMember {members : List Name} {n : Name} : n ∈ members →
      Introduces (.externBlock members) n
  | function {n : Name} : Introduces (.function n) n
  | declaredModule {n : Name} : Introduces (.declaredModule n) n
  | static {n : Name} : Introduces (.static n) n
  | trait {n : Name} : Introduces (.trait n) n
  | traitAlias {n : Name} : Introduces (.traitAlias n) n
  | typeAlias {n : Name} : Introduces (.typeAlias n) n
  | union {n : Name} : Introduces (.union n) n
  | imported {tree : ImportTree} {n : Name} : n.bare ≠ "_" → tree.Introduces none n →
      Introduces (.import tree) n

/-- The sorts of items whose names are not listed. -/
def ItemKind.isUnlisted : ItemKind → Bool
  | .externCrate .. | .externBlock _ => true
  | _ => false

theorem ItemKind.Introduces.mem_names {kind : ItemKind} {n : Name} (h : kind.Introduces n)
    (listed : kind.isUnlisted = false) : n ∈ kind.names := by
  cases h with
  | externCrate => cases listed
  | renamedCrate => cases listed
  | externMember => cases listed
  | imported _ introduced => exact introduced.mem_names
  | _ => exact List.mem_singleton_self _

/-- The keyword that says what an item is that passes through unread. -/
def unreadKeyword? (tokens : List Token) : Option String :=
  tokens.findSome? fun
    | .word i _ =>
        if !i.raw && ["use", "impl", "macro", "fn", "static", "type", "const"].contains i.name then
          some i.name
        else none
    | _ => none

/-- The names that an item introduces that passes through unread: an import, a function without a
body, or a static, a type or a constant without a value.  The keyword of a constant may be that
of a function. -/
def unreadNames (tokens : List Token) : List Name :=
  match unreadKeyword? tokens with
  | some "use" => ((readImport? tokens).map (ImportTree.names none)).getD []
  | some "const" =>
      let next := nameAfter? ["const"] tokens
      if next.any fun n => ["async", "unsafe", "extern", "fn"].contains n.text then
        (nameAfter? ["fn"] tokens).toList
      else next.toList
  | some keyword => if keyword = "impl" ∨ keyword = "macro" then []
      else (nameAfter? [keyword] tokens).toList
  | none => []

/-- A name that an item introduces into the types or the values of its module. -/
inductive Item.Introduces : Item → Name → Prop where
  | inlineModule {head : ModuleHead} {items : List Item} :
      Introduces (.inlineModule head items) head.name
  | struct {s : StructItem} : Introduces (.struct s) s.name
  | plain {p : PlainItem} {n : Name} : p.kind.Introduces n → Introduces (.plain p) n
  | verbatim {tokens : List Token} {n : Name} : n.bare ≠ "_" → n ∈ unreadNames tokens →
      Introduces (.verbatim tokens) n
  | generated {code : List Code.Item} {i : Ident} : i ∈ code.filterMap Code.Item.name? →
      Introduces (.generated code) ⟨i, .start⟩

namespace Item

/-- The items whose names are not listed although they may introduce some. -/
def isUnlisted : Item → Bool
  | plain p => p.kind.isUnlisted
  | verbatim _ => true
  | _ => false

/-- Of all items but the unlisted ones, what they introduce is listed. -/
theorem Introduces.mem_names {item : Item} {n : Name} (h : item.Introduces n)
    (listed : item.isUnlisted = false) : n ∈ item.names := by
  cases h with
  | inlineModule => exact List.mem_singleton_self _
  | struct => exact List.mem_singleton_self _
  | plain introduced => exact introduced.mem_names listed
  | verbatim => cases listed
  | generated found =>
      obtain ⟨c, inCode, named⟩ := List.mem_filterMap.1 found
      exact List.mem_filterMap.2 ⟨c, inCode, by rw [named]; rfl⟩

end Item

/-! ## New names -/

/-- The names that a pass introduces, with the names of the modules around them. -/
def Generation.newNames (g : Generation) : List (List Name × Ident) :=
  g.products.map (fun p => (p.adapter.scope, p.adapter.name)) ++
    (g.registration.map fun r => ([], r.registry)).toList

/-- The new names of a pass over a module clash with nothing.  Names are compared without `r#`. -/
structure Generation.NoClash (g : Generation) (m : Module) : Prop where
  /-- In one module they are pairwise distinct. -/
  distinct : g.newNames.Pairwise fun a b => bareNames a.1 = bareNames b.1 → a.2.name ≠ b.2.name
  /-- No item of the module introduces one. -/
  free : ∀ new ∈ g.newNames, ∀ site ∈ m.sites, bareNames site.scope = bareNames new.1 →
    ∀ n, site.item.Introduces n → n.bare ≠ new.2.name

/-- An unlisted item introduces a new name of a pass. -/
def Module.HidesName (m : Module) (g : Generation) : Prop :=
  ∃ site ∈ m.sites, site.item.isUnlisted = true ∧ ∃ n, site.item.Introduces n ∧
    ∃ new ∈ g.newNames, bareNames site.scope = bareNames new.1 ∧ n.bare = new.2.name

/-! ## Clashes -/

theorem adapter_name_inj {d e : Declaration} (h : d.adapter.name = e.adapter.name) :
    d.name.bare = e.name.bare :=
  (String.append_left_inj _).1 h

theorem scope_eq_nil {scope : List Name} (h : bareNames scope = []) : scope = [] :=
  List.map_eq_nil_iff.1 h

section

variable {m : Module} {o : Options} {limit : Option Nat}

/-- A new name is that of an adapter of a product, or that of the registration type. -/
theorem mem_newNames_iff {g : Generation} {new : List Name × Ident} :
    new ∈ g.newNames ↔ (∃ p ∈ g.products, new = (p.adapter.scope, p.adapter.name)) ∨
      ∃ r, g.registration = some r ∧ new = ([], r.registry) := by
  rw [Generation.newNames, List.mem_append, List.mem_map, Option.mem_toList, Option.map_eq_some_iff]
  simp only [@eq_comm _ new]

namespace Module

/-- What is known of a product's adapter: nothing around it has its name. -/
theorem adapter_free {p : Product} (h : p ∈ (m.generate o limit).products) :
    (∀ n ∈ m.discover.names, namespaceKey n.scope = namespaceKey p.adapter.scope →
      n.name.bare ≠ p.adapter.name.name) ∧
    (p.adapter.scope = [] → p.adapter.name.name ≠ o.registry.name) := by
  obtain ⟨kept, made⟩ := mem_products h
  obtain ⟨i, -, clear⟩ := mem_kept_iff.1 kept
  rw [made.adapter_scope, made.adapter_name]
  exact ⟨clear.adapterFree, clear.adapterNotRegistry⟩

theorem newNames_distinct :
    (m.generate o limit).newNames.Pairwise fun a b =>
      bareNames a.1 = bareNames b.1 → a.2.name ≠ b.2.name := by
  refine List.pairwise_append.2 ⟨?_, ?_, ?_⟩
  · rw [List.pairwise_map]
    refine products_distinct.imp_of_mem fun {p q} foundP foundQ ne _ same => ne ?_
    rw [(mem_products foundP).2.adapter_name, (mem_products foundQ).2.adapter_name] at same
    exact adapter_name_inj same
  · cases (m.generate o limit).registration with
    | none => exact .nil
    | some r => exact List.pairwise_singleton _ _
  · intro a inProducts b inRegistration sameScope
    obtain ⟨p, found, rfl⟩ := List.mem_map.1 inProducts
    obtain ⟨r, registered, rfl⟩ := Option.map_eq_some_iff.1 (Option.mem_toList.1 inRegistration)
    rw [(registration_eq_some registered).2.1]
    exact (adapter_free found).2 (scope_eq_nil sameScope)

/-- A new name is not listed for an item around it. -/
theorem newName_not_listed {new : List Name × Ident} (h : new ∈ (m.generate o limit).newNames)
    {n : NamedItem} (listed : n ∈ m.discover.names)
    (sameScope : bareNames n.scope = bareNames new.1) : n.name.bare ≠ new.2.name := by
  rcases mem_newNames_iff.1 h with ⟨p, found, rfl⟩ | ⟨r, registered, rfl⟩
  · refine (adapter_free found).1 n listed ?_
    rw [namespaceKey, sameScope]
    rfl
  · obtain ⟨available, registry, -⟩ := registration_eq_some registered
    rw [registry]
    exact registryAvailable_iff.1 available n listed (scope_eq_nil sameScope)

/-- New names clash with nothing unless an unlisted item introduces one. -/
theorem noClash_iff {m : Module} {o : Options} {limit : Option Nat} :
    (m.generate o limit).NoClash m ↔ ¬ m.HidesName (m.generate o limit) := by
  constructor
  · rintro noClash ⟨site, found, -, n, introduced, new, isNew, sameScope, same⟩
    exact noClash.free new isNew site found sameScope n introduced same
  · intro notHidden
    refine ⟨newNames_distinct, fun new isNew site found sameScope n introduced same => ?_⟩
    cases unlisted : site.item.isUnlisted with
    | true =>
        exact notHidden ⟨site, found, unlisted, n, introduced, new, isNew, sameScope, same⟩
    | false =>
        have listed : (⟨site.scope, n⟩ : NamedItem) ∈ m.discover.names :=
          mem_names_iff.2 ⟨site, found, rfl, introduced.mem_names unlisted⟩
        exact newName_not_listed isNew listed sameScope same

/-- An external crate may be renamed to the name of an adapter. -/
theorem renamed_crate_clashes :
    let m := ofItems
      [.plain ⟨.externCrate ⟨.plain "core", .start⟩ (some ⟨.plain "OrderIdJsonAdapter", .start⟩),
        [], [], none⟩,
       .unitStruct [.directive .identifier] .everywhere "OrderId"]
    let g := m.generate .default none
    g.cancelled = false ∧ g.diagnostics = [] ∧ ¬ g.NoClash m := by
  refine ⟨rfl, rfl, fun noClash => ?_⟩
  exact noClash.free ([], .plain "OrderIdJsonAdapter") (by decide) _ List.mem_cons_self rfl _
    (.plain (.renamedCrate (by decide))) rfl

end Module
end
end DomainValues
