import DomainValues.Module.Item

/-!
# Sites

A site is an item somewhere in a tree of inline modules, with its slot and the names of the
modules around it.  `Module.sites` lists all sites, an inline module after what it contains.
`Module.siteAt?` looks one up by its slot.

Main statement: `siteAt?_of_mem_sites`, a listed site is found at its slot.
-/

namespace DomainValues

/-- The place of an item in a tree of modules: the index of each module on the way down, and the
index of the item in the innermost one. -/
structure Slot where
  /-- The indices of the modules. -/
  modules : List Nat
  /-- The index of the item. -/
  item : Nat
  deriving DecidableEq, Repr

/-- An item and its place. -/
structure Site where
  /-- The names of the modules around it. -/
  scope : List Name
  /-- Its place. -/
  slot : Slot
  /-- The item. -/
  item : Item
  deriving Repr

mutual

/-- The sites in an item, and last the item itself. -/
def sitesOfItem (scope : List Name) (modules : List Nat) (index : Nat) : Item → List Site
  | .inlineModule head items =>
      sitesOfItems (scope ++ [head.name]) (modules ++ [index]) 0 items ++
        [⟨scope, ⟨modules, index⟩, .inlineModule head items⟩]
  | item => [⟨scope, ⟨modules, index⟩, item⟩]

/-- The sites in items that are numbered from an index. -/
def sitesOfItems (scope : List Name) (modules : List Nat) (index : Nat) : List Item → List Site
  | [] => []
  | item :: rest =>
      sitesOfItem scope modules index item ++ sitesOfItems scope modules (index + 1) rest

end

/-- The site at an index, some inline modules down. -/
def siteBelow? (items : List Item) (scope : List Name) (passed : List Nat) :
    List Nat → (index : Nat) → Option Site
  | [], index => items[index]?.map fun item => ⟨scope, ⟨passed, index⟩, item⟩
  | i :: down, index =>
      match items[i]? with
      | some (.inlineModule head inner) =>
          siteBelow? inner (scope ++ [head.name]) (passed ++ [i]) down index
      | _ => none

namespace Module

/-- The items of a module, none if its body is elsewhere. -/
def items (m : Module) : List Item := m.items?.getD []

/-- All items below a module, in all its inline modules. -/
def sites (m : Module) : List Site := sitesOfItems [] [] 0 m.items

/-- The site at a slot, if there is an item. -/
def siteAt? (m : Module) (slot : Slot) : Option Site :=
  siteBelow? m.items [] [] slot.modules slot.item

end Module

/-! ## Looking up what is listed -/

mutual

/-- A site listed for the item at an index is found from the modules passed so far. -/
theorem siteBelow?_of_mem_sitesOfItem (all : List Item) {scope : List Name} {passed : List Nat}
    {index : Nat} {site : Site} : (item : Item) → all[index]? = some item →
      site ∈ sitesOfItem scope passed index item →
      ∃ down, site.slot.modules = passed ++ down ∧
        siteBelow? all scope passed down site.slot.item = some site
  | .inlineModule head inner, found, h => by
      rcases List.mem_append.1 h with h | h
      · obtain ⟨down, slot, below⟩ :=
          siteBelow?_of_mem_sitesOfItems inner inner (List.drop_zero ..) h
        exact ⟨index :: down, by simp [slot], by simp [siteBelow?, found, below]⟩
      · obtain rfl := List.mem_singleton.1 h
        exact ⟨[], by simp, by simp [siteBelow?, found]⟩
  | .struct s, found, h => by
      obtain rfl := List.mem_singleton.1 h
      exact ⟨[], by simp, by simp [siteBelow?, found]⟩
  | .plain p, found, h => by
      obtain rfl := List.mem_singleton.1 h
      exact ⟨[], by simp, by simp [siteBelow?, found]⟩
  | .verbatim tokens, found, h => by
      obtain rfl := List.mem_singleton.1 h
      exact ⟨[], by simp, by simp [siteBelow?, found]⟩
  | .generated code, found, h => by
      obtain rfl := List.mem_singleton.1 h
      exact ⟨[], by simp, by simp [siteBelow?, found]⟩

/-- A site listed for the items from an index on is found from the modules passed so far. -/
theorem siteBelow?_of_mem_sitesOfItems (all : List Item) {scope : List Name} {passed : List Nat}
    {index : Nat} {site : Site} : (items : List Item) → all.drop index = items →
      site ∈ sitesOfItems scope passed index items →
      ∃ down, site.slot.modules = passed ++ down ∧
        siteBelow? all scope passed down site.slot.item = some site
  | [], _, h => by cases h
  | item :: rest, dropped, h => by
      have found : all[index]? = some item := by
        rw [← List.head?_drop, dropped]
        rfl
      have tail : all.drop (index + 1) = rest := by
        rw [← List.tail_drop, dropped]
        rfl
      rcases List.mem_append.1 h with h | h
      · exact siteBelow?_of_mem_sitesOfItem all item found h
      · exact siteBelow?_of_mem_sitesOfItems all rest tail h

end

/-- A listed site is found at its slot. -/
theorem Module.siteAt?_of_mem_sites {m : Module} {site : Site} (h : site ∈ m.sites) :
    m.siteAt? site.slot = some site := by
  obtain ⟨down, slot, below⟩ :=
    siteBelow?_of_mem_sitesOfItems m.items m.items (List.drop_zero ..) h
  rw [Module.siteAt?, slot]
  exact below

end DomainValues
