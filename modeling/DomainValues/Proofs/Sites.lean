import DomainValues.Declaration
import Mathlib.Data.List.Nodup

/-!
# The tree of items and its listings

A pass lists the items of a module with every inline module after what it contains.  A reader
meets them in *source order*, every inline module before what it contains (`Module.inOrder`).

Main statements:

* `Module.filter_sites`: apart from inline modules, both listings have the same items in the same
  order.
* `Module.inOrder_perm`: both listings have the same sites.
* `Module.mem_names_iff`: the listed names are those of the items at the sites.
* `Module.site_ext`, `Module.slots_nodup`: a slot belongs to one site, and is listed once.
-/

namespace DomainValues

/-! ## Source order -/

mutual

/-- An item and the items in it, in source order. -/
def orderedItem (scope : List Name) (modules : List Nat) (index : Nat) : Item → List Site
  | .inlineModule head items =>
      ⟨scope, ⟨modules, index⟩, .inlineModule head items⟩ ::
        orderedItems (scope ++ [head.name]) (modules ++ [index]) 0 items
  | item => [⟨scope, ⟨modules, index⟩, item⟩]

/-- Items that are numbered from an index and the items in them, in source order. -/
def orderedItems (scope : List Name) (modules : List Nat) (index : Nat) : List Item → List Site
  | [] => []
  | item :: rest =>
      orderedItem scope modules index item ++ orderedItems scope modules (index + 1) rest

end

/-- All items below a module, in source order. -/
def Module.inOrder (m : Module) : List Site := orderedItems [] [] 0 m.items

/-- Whether an item is an inline module. -/
def Item.isInlineModule : Item → Bool
  | .inlineModule .. => true
  | _ => false

mutual

theorem filter_sitesOfItem {keep : Site → Bool}
    (skips : ∀ site, site.item.isInlineModule = true → keep site = false) (scope : List Name)
    (modules : List Nat) (index : Nat) : (item : Item) →
      (sitesOfItem scope modules index item).filter keep =
        (orderedItem scope modules index item).filter keep
  | .inlineModule head items => by
      have skipped := skips ⟨scope, ⟨modules, index⟩, .inlineModule head items⟩ rfl
      have below := filter_sitesOfItems skips (scope ++ [head.name]) (modules ++ [index]) 0 items
      simp [sitesOfItem, orderedItem, skipped, below]
  | .struct _ | .plain _ | .verbatim _ | .generated _ => rfl

theorem filter_sitesOfItems {keep : Site → Bool}
    (skips : ∀ site, site.item.isInlineModule = true → keep site = false) (scope : List Name)
    (modules : List Nat) (index : Nat) : (items : List Item) →
      (sitesOfItems scope modules index items).filter keep =
        (orderedItems scope modules index items).filter keep
  | [] => rfl
  | item :: rest => by
      simp only [sitesOfItems, orderedItems, List.filter_append]
      rw [filter_sitesOfItem skips scope modules index item,
        filter_sitesOfItems skips scope modules (index + 1) rest]

end

/-- Apart from inline modules, the listing of a pass is in source order. -/
theorem Module.filter_sites {keep : Site → Bool}
    (skips : ∀ site, site.item.isInlineModule = true → keep site = false) (m : Module) :
    m.sites.filter keep = m.inOrder.filter keep :=
  filter_sitesOfItems skips ..

mutual

theorem orderedItem_perm (scope : List Name) (modules : List Nat) (index : Nat) : (item : Item) →
    (orderedItem scope modules index item).Perm (sitesOfItem scope modules index item)
  | .inlineModule head items => by
      have below := orderedItems_perm (scope ++ [head.name]) (modules ++ [index]) 0 items
      rw [sitesOfItem, orderedItem]
      exact (below.cons _).trans (List.perm_append_singleton _ _).symm
  | .struct _ | .plain _ | .verbatim _ | .generated _ => List.Perm.refl _

theorem orderedItems_perm (scope : List Name) (modules : List Nat) (index : Nat) :
    (items : List Item) →
      (orderedItems scope modules index items).Perm (sitesOfItems scope modules index items)
  | [] => List.Perm.refl _
  | item :: rest =>
      (orderedItem_perm scope modules index item).append
        (orderedItems_perm scope modules (index + 1) rest)

end

/-- Both listings have the same sites. -/
theorem Module.inOrder_perm (m : Module) : m.inOrder.Perm m.sites := orderedItems_perm ..

theorem Module.mem_inOrder_iff {m : Module} {site : Site} : site ∈ m.inOrder ↔ site ∈ m.sites :=
  m.inOrder_perm.mem_iff

/-! ## Names -/

mutual

theorem mem_namesOfItem_iff {scope : List Name} {n : NamedItem} (modules : List Nat)
    (index : Nat) : (item : Item) →
      (n ∈ namesOfItem scope item ↔
        ∃ site ∈ sitesOfItem scope modules index item,
          n.scope = site.scope ∧ n.name ∈ site.item.names)
  | .inlineModule head items => by
      obtain ⟨nScope, nName⟩ := n
      have below : (⟨nScope, nName⟩ : NamedItem) ∈ namesOfItems (scope ++ [head.name]) items ↔ _ :=
        mem_namesOfItems_iff (modules ++ [index]) 0 items
      constructor
      · intro h
        rcases List.mem_cons.1 h with h | h
        · refine ⟨⟨scope, ⟨modules, index⟩, .inlineModule head items⟩, by simp [sitesOfItem], ?_⟩
          cases h
          exact ⟨rfl, by simp [Item.names]⟩
        · obtain ⟨site, found, named⟩ := below.1 h
          exact ⟨site, List.mem_append_left _ found, named⟩
      · rintro ⟨site, found, sameScope, named⟩
        rcases List.mem_append.1 found with found | found
        · exact List.mem_cons_of_mem _ (below.2 ⟨site, found, sameScope, named⟩)
        · obtain rfl := List.mem_singleton.1 found
          obtain rfl := List.mem_singleton.1 named
          cases sameScope
          exact List.mem_cons_self
  | .struct _ | .plain _ | .verbatim _ | .generated _ => by
      obtain ⟨nScope, nName⟩ := n
      simp only [namesOfItem, sitesOfItem, List.mem_map, List.mem_singleton, exists_eq_left,
        NamedItem.mk.injEq]
      exact ⟨fun ⟨_, named, same, equal⟩ => ⟨same.symm, equal ▸ named⟩,
        fun ⟨same, named⟩ => ⟨_, named, same.symm, rfl⟩⟩

theorem mem_namesOfItems_iff {scope : List Name} {n : NamedItem} (modules : List Nat)
    (index : Nat) : (items : List Item) →
      (n ∈ namesOfItems scope items ↔
        ∃ site ∈ sitesOfItems scope modules index items,
          n.scope = site.scope ∧ n.name ∈ site.item.names)
  | [] => by simp [namesOfItems, sitesOfItems]
  | item :: rest => by
      rw [namesOfItems, List.mem_append, mem_namesOfItem_iff modules index item,
        mem_namesOfItems_iff modules (index + 1) rest]
      simp only [sitesOfItems, List.mem_append, or_and_right, exists_or]

end

/-- The listed names are those of the items at the sites. -/
theorem Module.mem_names_iff {m : Module} {n : NamedItem} :
    n ∈ m.discover.names ↔
      ∃ site ∈ m.sites, n.scope = site.scope ∧ n.name ∈ site.item.names :=
  mem_namesOfItems_iff ..

mutual

/-- The names listed for an item have the modules around the item around them. -/
theorem scope_of_mem_namesOfItem {scope : List Name} {n : NamedItem} :
    (item : Item) → n ∈ namesOfItem scope item → ∃ down, n.scope = scope ++ down
  | .inlineModule head items, h => by
      rcases List.mem_cons.1 h with rfl | h
      · exact ⟨[], (List.append_nil scope).symm⟩
      · obtain ⟨down, same⟩ := scope_of_mem_namesOfItems items h
        exact ⟨head.name :: down, by rw [same, List.append_assoc, List.singleton_append]⟩
  | .struct _, h | .plain _, h | .verbatim _, h | .generated _, h => by
      obtain ⟨name, -, rfl⟩ := List.mem_map.1 h
      exact ⟨[], (List.append_nil scope).symm⟩

theorem scope_of_mem_namesOfItems {scope : List Name} {n : NamedItem} :
    (items : List Item) → n ∈ namesOfItems scope items → ∃ down, n.scope = scope ++ down
  | item :: rest, h => by
      rcases List.mem_append.1 h with h | h
      · exact scope_of_mem_namesOfItem item h
      · exact scope_of_mem_namesOfItems rest h

end

/-- The listed names that no module is around are those of the items at the root. -/
theorem filter_namesOfItems (items : List Item) :
    (namesOfItems [] items).filter (fun n => n.scope.isEmpty) =
      (items.flatMap Item.names).map fun name => ⟨[], name⟩ := by
  have root (item : Item) : (namesOfItem [] item).filter (fun n => n.scope.isEmpty) =
      item.names.map fun name => ⟨[], name⟩ := by
    cases item with
    | inlineModule head inside =>
        have deeper : (namesOfItems [head.name] inside).filter (fun n => n.scope.isEmpty) = [] := by
          refine List.filter_eq_nil_iff.2 fun n listed => ?_
          obtain ⟨down, same⟩ := scope_of_mem_namesOfItems inside listed
          simp [same]
        rw [namesOfItem, List.filter_cons]
        simp [deeper, Item.names]
    | struct _ | plain _ | verbatim _ | generated _ => simp [namesOfItem]
  induction items with
  | nil => rfl
  | cons item rest ih =>
      rw [namesOfItems, List.filter_append, root, ih, List.flatMap_cons, List.map_append]

/-! ## Slots -/

/-- A slot belongs to one site. -/
theorem Module.site_ext {m : Module} {site other : Site} (h : site ∈ m.sites)
    (h' : other ∈ m.sites) (slot : site.slot = other.slot) : site = other := by
  have found := Module.siteAt?_of_mem_sites h
  rw [slot, Module.siteAt?_of_mem_sites h'] at found
  exact (Option.some.inj found).symm

/-- The indices on the way to a site, the last one that of its item. -/
def Slot.path (slot : Slot) : List Nat := slot.modules ++ [slot.item]

mutual

/-- The paths to the sites in an item begin with the path to the item. -/
theorem path_of_mem_sitesOfItem {scope : List Name} {modules : List Nat} {index : Nat}
    {site : Site} : (item : Item) → site ∈ sitesOfItem scope modules index item →
      ∃ down, site.slot.path = modules ++ index :: down
  | .inlineModule head items, h => by
      rcases List.mem_append.1 h with h | h
      · obtain ⟨i, -, down, path⟩ := path_of_mem_sitesOfItems items h
        exact ⟨i :: down, by rw [path, List.append_assoc, List.singleton_append]⟩
      · obtain rfl := List.mem_singleton.1 h
        exact ⟨[], rfl⟩
  | .struct _, h | .plain _, h | .verbatim _, h | .generated _, h => by
      obtain rfl := List.mem_singleton.1 h
      exact ⟨[], rfl⟩

/-- The paths to the sites in items pass through one of their indices. -/
theorem path_of_mem_sitesOfItems {scope : List Name} {modules : List Nat} {index : Nat}
    {site : Site} : (items : List Item) → site ∈ sitesOfItems scope modules index items →
      ∃ i, index ≤ i ∧ ∃ down, site.slot.path = modules ++ i :: down
  | item :: rest, h => by
      rcases List.mem_append.1 h with h | h
      · exact ⟨index, Nat.le_refl _, path_of_mem_sitesOfItem item h⟩
      · obtain ⟨i, le, path⟩ := path_of_mem_sitesOfItems rest h
        exact ⟨i, Nat.le_of_succ_le le, path⟩

end

mutual

theorem slots_nodup_of_item (scope : List Name) (modules : List Nat) (index : Nat) :
    (item : Item) → ((sitesOfItem scope modules index item).map Site.slot).Nodup
  | .inlineModule head items => by
      rw [sitesOfItem, List.map_append]
      refine (slots_nodup_of_items _ _ 0 items).append (List.nodup_singleton _) ?_
      -- The path to the module itself is shorter than the paths to what it contains.
      intro slot inside here
      obtain ⟨site, found, rfl⟩ := List.mem_map.1 inside
      obtain ⟨i, -, down, path⟩ := path_of_mem_sitesOfItems items found
      rw [List.mem_singleton.1 here] at path
      simpa [Slot.path] using congrArg List.length path
  | .struct _ | .plain _ | .verbatim _ | .generated _ => List.nodup_singleton _

theorem slots_nodup_of_items (scope : List Name) (modules : List Nat) (index : Nat) :
    (items : List Item) → ((sitesOfItems scope modules index items).map Site.slot).Nodup
  | [] => List.nodup_nil
  | item :: rest => by
      rw [sitesOfItems, List.map_append]
      refine (slots_nodup_of_item scope modules index item).append
        (slots_nodup_of_items scope modules (index + 1) rest) ?_
      -- The paths to later items pass through a later index.
      intro slot first later
      obtain ⟨site, found, rfl⟩ := List.mem_map.1 first
      obtain ⟨site', found', same⟩ := List.mem_map.1 later
      obtain ⟨down, path⟩ := path_of_mem_sitesOfItem item found
      obtain ⟨i, le, down', path'⟩ := path_of_mem_sitesOfItems rest found'
      rw [same, path] at path'
      have index_eq := (List.cons.inj (List.append_cancel_left path')).1
      omega

end

/-- The slots of a module are distinct. -/
theorem Module.slots_nodup (m : Module) : (m.sites.map Site.slot).Nodup :=
  slots_nodup_of_items ..

end DomainValues
