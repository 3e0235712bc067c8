import DomainValues.Collision
import DomainValues.Proofs.DirectivePositions
import Mathlib.Data.List.Basic

/-!
# Outlines

The outline of a site has no positions, no slot and, if its item is a module, nothing in it.  It
gives the verdict and the names that the site itself gives, without positions
(`Site.verdict?_outline`, `Site.names_outline`).

Main statements: `Module.verdicts_outline` and `Module.names_outline`, what a module declares is
found in the outlines of its sites.
-/

namespace DomainValues

/-! ## Items without positions -/

/-- Fields without positions. -/
def Fields.unplaced : Fields → Fields
  | .unit => .unit
  | .unnamed content _ _ => .unnamed (content.map Token.unplaced) .start .start
  | .named content _ _ => .named (content.map Token.unplaced) .start .start

/-- A struct without positions. -/
def StructItem.unplaced (s : StructItem) : StructItem where
  attributes := s.attributes.map Attribute.unplaced
  visibility := s.visibility.unplaced
  name := s.name.unplaced
  generics := s.generics.map Token.unplaced
  condition := s.condition.map (List.map Token.unplaced)
  fields := s.fields.unplaced

mutual

/-- What an import names, without positions. -/
def ImportTree.unplaced : ImportTree → ImportTree
  | .path module tree => .path module.unplaced tree.unplaced
  | .item name => .item name.unplaced
  | .renamed name newName => .renamed name.unplaced newName.unplaced
  | .everything => .everything
  | .group trees => .group (ImportTree.allUnplaced trees)

/-- What imports name, without positions. -/
def ImportTree.allUnplaced : List ImportTree → List ImportTree
  | [] => []
  | tree :: rest => tree.unplaced :: ImportTree.allUnplaced rest

end

/-- A sort of items, with what they name, without positions. -/
def ItemKind.unplaced : ItemKind → ItemKind
  | .constant name => .constant name.unplaced
  | .enumeration name => .enumeration name.unplaced
  | .externCrate name newName => .externCrate name.unplaced (newName.map Name.unplaced)
  | .externBlock members => .externBlock (members.map Name.unplaced)
  | .function name => .function name.unplaced
  | .implementation => .implementation
  | .macroCall => .macroCall
  | .declaredModule name => .declaredModule name.unplaced
  | .static name => .static name.unplaced
  | .trait name => .trait name.unplaced
  | .traitAlias name => .traitAlias name.unplaced
  | .typeAlias name => .typeAlias name.unplaced
  | .union name => .union name.unplaced
  | .import tree => .import tree.unplaced

/-- An item of another sort without positions. -/
def PlainItem.unplaced (p : PlainItem) : PlainItem where
  kind := p.kind.unplaced
  attributes := p.attributes.map Attribute.unplaced
  head := p.head.map Token.unplaced
  body := p.body.map (List.map Token.unplaced)

/-- What a module has apart from its items, without positions. -/
def ModuleHead.unplaced (h : ModuleHead) : ModuleHead where
  attributes := h.attributes.map Attribute.unplaced
  visibility := h.visibility.unplaced
  isUnsafe := h.isUnsafe
  name := h.name.unplaced

mutual

/-- An item without positions. -/
def Item.unplaced : Item → Item
  | .inlineModule head items => .inlineModule head.unplaced (Item.allUnplaced items)
  | .struct s => .struct s.unplaced
  | .plain p => .plain p.unplaced
  | .verbatim tokens => .verbatim (tokens.map Token.unplaced)
  | .generated code => .generated code

/-- Items without positions. -/
def Item.allUnplaced : List Item → List Item
  | [] => []
  | item :: rest => item.unplaced :: Item.allUnplaced rest

end

/-! ## Names -/

mutual

theorem ImportTree.names_unplaced (parent : Option Name) : (tree : ImportTree) →
    tree.unplaced.names (parent.map Name.unplaced) = (tree.names parent).map Name.unplaced
  | .path module tree => by
      rw [unplaced, names, names]
      exact ImportTree.names_unplaced (some module) tree
  | .item name => by
      rw [unplaced, names, names]
      have text : name.unplaced.text = name.text := rfl
      rw [text]
      split
      · cases parent <;> rfl
      · rfl
  | .renamed name newName => by
      rw [unplaced, names, names]
      rfl
  | .everything => by
      rw [unplaced, names]
      rfl
  | .group trees => by
      rw [unplaced, names, names]
      exact ImportTree.namesAll_unplaced parent trees

theorem ImportTree.namesAll_unplaced (parent : Option Name) : (trees : List ImportTree) →
    ImportTree.namesAll (parent.map Name.unplaced) (ImportTree.allUnplaced trees) =
      (ImportTree.namesAll parent trees).map Name.unplaced
  | [] => by
      rw [allUnplaced, namesAll, namesAll]
      rfl
  | tree :: rest => by
      rw [allUnplaced, namesAll, namesAll, List.map_append, ImportTree.names_unplaced parent tree,
        ImportTree.namesAll_unplaced parent rest]

end

theorem ItemKind.names_unplaced (kind : ItemKind) :
    kind.unplaced.names = kind.names.map Name.unplaced := by
  cases kind with
  | «import» tree => exact ImportTree.names_unplaced none tree
  | _ => rfl

/-- A name in a module, without positions. -/
def NamedItem.unplaced (n : NamedItem) : NamedItem := ⟨n.scope.map Name.unplaced, n.name.unplaced⟩

/-! ## Outlines -/

/-- An item without positions and, if it is a module, without the items in it. -/
def Item.outline : Item → Item
  | .inlineModule head _ => .inlineModule head.unplaced []
  | item => item.unplaced

/-- A site without positions and without its slot. -/
def Site.outline (site : Site) : Site :=
  ⟨site.scope.map Name.unplaced, ⟨[], 0⟩, site.item.outline⟩

mutual

/-- The outlines of the sites in an item that has no positions. -/
def outlinesOfItem (scope : List Name) : Item → List Site
  | .inlineModule head items =>
      outlinesOfItems (scope ++ [head.name]) items ++ [⟨scope, ⟨[], 0⟩, .inlineModule head []⟩]
  | item => [⟨scope, ⟨[], 0⟩, item⟩]

/-- The outlines of the sites in items that have no positions. -/
def outlinesOfItems (scope : List Name) : List Item → List Site
  | [] => []
  | item :: rest => outlinesOfItem scope item ++ outlinesOfItems scope rest

end

mutual

theorem outline_sitesOfItem (scope : List Name) (modules : List Nat) (index : Nat) :
    (item : Item) → (sitesOfItem scope modules index item).map Site.outline =
      outlinesOfItem (scope.map Name.unplaced) item.unplaced
  | .inlineModule head items => by
      have inner := outline_sitesOfItems (scope ++ [head.name]) (modules ++ [index]) 0 items
      rw [List.map_append] at inner
      rw [sitesOfItem, List.map_append, inner, Item.unplaced, outlinesOfItem]
      rfl
  | .struct _ | .plain _ | .verbatim _ | .generated _ => by
      simp [sitesOfItem, Site.outline, Item.outline, Item.unplaced, outlinesOfItem]

theorem outline_sitesOfItems (scope : List Name) (modules : List Nat) (index : Nat) :
    (items : List Item) → (sitesOfItems scope modules index items).map Site.outline =
      outlinesOfItems (scope.map Name.unplaced) (Item.allUnplaced items)
  | [] => by
      rw [sitesOfItems, Item.allUnplaced, outlinesOfItems, List.map_nil]
  | item :: rest => by
      rw [sitesOfItems, Item.allUnplaced, outlinesOfItems, List.map_append,
        outline_sitesOfItem scope modules index item,
        outline_sitesOfItems scope modules (index + 1) rest]

end

/-! ### Names -/

/-- The names that the item at a site introduces. -/
def Site.names (site : Site) : List NamedItem := site.item.names.map fun n => ⟨site.scope, n⟩

mutual

/-- The names in an item are those of the sites in it, in another order. -/
theorem namesOfItem_perm (scope : List Name) (modules : List Nat) (index : Nat) :
    (item : Item) →
      (namesOfItem scope item).Perm ((sitesOfItem scope modules index item).flatMap Site.names)
  | .inlineModule head items => by
      rw [namesOfItem, sitesOfItem, List.flatMap_append, List.flatMap_singleton]
      refine .trans (List.perm_append_singleton _ _).symm ?_
      exact (namesOfItems_perm (scope ++ [head.name]) (modules ++ [index]) 0 items).append_right _
  | .struct _ | .plain _ | .verbatim _ | .generated _ => by
      simp [namesOfItem, sitesOfItem, Site.names]

theorem namesOfItems_perm (scope : List Name) (modules : List Nat) (index : Nat) :
    (items : List Item) →
      (namesOfItems scope items).Perm ((sitesOfItems scope modules index items).flatMap Site.names)
  | [] => by
      rw [namesOfItems, sitesOfItems]
      exact .refl _
  | item :: rest => by
      rw [namesOfItems, sitesOfItems, List.flatMap_append]
      exact (namesOfItem_perm scope modules index item).append
        (namesOfItems_perm scope modules (index + 1) rest)

end

theorem Item.names_outline (item : Item) : item.outline.names = item.names.map Name.unplaced := by
  cases item with
  | inlineModule head items => rfl
  | struct s => rfl
  | plain p => exact ItemKind.names_unplaced p.kind
  | verbatim tokens => rfl
  | generated code =>
      rw [outline, unplaced, names, List.map_filterMap]
      · refine List.filterMap_congr fun c _ => ?_
        cases c.name? <;> rfl
      · intro head items same
        cases same

theorem Site.names_outline (site : Site) :
    site.outline.names = site.names.map NamedItem.unplaced := by
  rw [names, outline, Item.names_outline, names, List.map_map, List.map_map]
  rfl

/-! ## Verdicts -/

/-- A report without its place. -/
def Diagnostic.unplaced (report : Diagnostic) : Diagnostic := { report with position := .start }

/-- A declaration without positions and without its slot. -/
def Declaration.unplaced (d : Declaration) : Declaration where
  name := d.name.unplaced
  scope := d.scope.map Name.unplaced
  directive := d.directive.unplaced
  visibility := d.visibility.unplaced
  attributes := d.attributes.map Attribute.unplaced
  slot := ⟨[], 0⟩

theorem joinNames_unplaced (names : List Name) :
    joinNames (names.map Name.unplaced) = joinNames names := by
  rw [joinNames, joinNames, List.map_map]
  rfl

namespace Site

variable (site : Site) (s : StructItem)

theorem directives_outline (item : Item) :
    item.outline.directives =
      item.directives.map fun (a, kind) => (a.unplaced, kind) := by
  have attributes : item.outline.attributes = item.attributes.map Attribute.unplaced := by
    cases item <;> rfl
  rw [Item.directives, attributes, List.filterMap_map, Item.directives, List.map_filterMap]
  refine List.filterMap_congr fun a _ => ?_
  rw [Function.comp_apply, Attribute.kind?_unplaced]
  cases a.kind? <;> rfl

theorem generatedDerive?_unplaced :
    generatedDerive? s.unplaced = (generatedDerive? s).map Name.unplaced := by
  have derived : s.unplaced.attributes.flatMap Attribute.derived =
      (s.attributes.flatMap Attribute.derived).map Name.unplaced := by
    rw [List.map_flatMap, StructItem.unplaced, List.flatMap_map]
    exact List.flatMap_congr fun a _ => a.derived_unplaced
  rw [generatedDerive?, derived, List.find?_map]
  rfl

/-- A struct has the same faults, in other places. -/
theorem shapeFaults_outline (others : List (Attribute × Kind)) :
    site.outline.shapeFaults s.unplaced (others.map fun (a, kind) => (a.unplaced, kind)) =
      (site.shapeFaults s others).map fun (fault, _) => (fault, .start) := by
  have fields : s.unplaced.fields.position? = s.fields.position?.map fun _ => .start := by
    rw [StructItem.unplaced]
    cases s.fields <;> rfl
  have generics : s.unplaced.generics.isEmpty = s.generics.isEmpty := List.isEmpty_map
  have condition : s.unplaced.condition.isNone = s.condition.isNone := Option.isNone_map
  have genericsStart : genericsPosition s.unplaced = .start := by
    rw [genericsPosition, StructItem.unplaced]
    cases s.generics with
    | nil => rfl
    | cons t rest => cases t <;> simp [Token.position]
  have reaches : s.unplaced.visibility.reaches site.outline.scope.length =
      s.visibility.reaches site.scope.length := by
    rw [StructItem.unplaced, Visibility.reaches_unplaced, outline, List.length_map]
  have scope : joinNames site.outline.scope = joinNames site.scope := joinNames_unplaced site.scope
  rw [shapeFaults, shapeFaults, fields, generics, condition, genericsStart, reaches, scope,
    generatedDerive?_unplaced]
  simp only [List.map_append, List.head?_map, Option.map_map, apply_ite (List.map _), List.map_nil,
    List.map_singleton, Option.toList_map, List.map_map, Function.comp_def]
  rfl

theorem ofStruct_outline (first : Attribute × Kind) (others : List (Attribute × Kind)) :
    site.outline.ofStruct s.unplaced (first.1.unplaced, first.2)
        (others.map fun (a, kind) => (a.unplaced, kind)) =
      mapBoth Diagnostic.unplaced Declaration.unplaced (site.ofStruct s first others) := by
  rw [ofStruct, ofStruct, shapeFaults_outline]
  cases site.shapeFaults s others with
  | cons fault rest => rfl
  | nil =>
      dsimp only [List.map_nil]
      rw [Directive.ofAttribute_unplaced]
      cases Directive.ofAttribute first.2 first.1 with
      | error e => rfl
      | ok directive =>
          have attributes := Attribute.withoutDirectives_unplaced s.attributes
          simp only [List.map_nil, mapBoth_ok, Declaration.unplaced, StructItem.unplaced,
            attributes, outline]

theorem describe_outline (item : Item) : item.outline.describe = item.describe := by
  cases item with
  | plain p =>
      obtain ⟨kind, _, _, _⟩ := p
      cases kind <;> rfl
  | _ => rfl

/-- The outline of a site gives what the site gives, without positions. -/
theorem verdict?_outline :
    site.outline.verdict? =
      site.verdict?.map (mapBoth Diagnostic.unplaced Declaration.unplaced) := by
  have directives : site.outline.item.directives =
      site.item.directives.map fun (a, kind) => (a.unplaced, kind) :=
    directives_outline site.item
  rw [verdict?, verdict?, directives]
  cases site.item.directives with
  | nil => rfl
  | cons first others =>
      dsimp only [List.map_cons, Option.map_some]
      cases item : site.item with
      | struct s =>
          have same : site.outline.item = .struct s.unplaced := by
            rw [outline, item, Item.outline, Item.unplaced]
            nofun
          rw [same]
          exact congrArg some (site.ofStruct_outline s first others)
      | _ =>
          have words := describe_outline site.item
          have same : site.outline.item = Item.outline _ := congrArg Item.outline item
          rw [item] at words
          rw [same]
          exact congrArg (fun words => some (Except.error
            ((ShapeFault.notAStruct first.2.directiveName words).diagnostic .start))) words

end Site

/-! ## What a module declares -/

namespace Module

/-- The outlines of the sites of a module. -/
def outlines (m : Module) : List Site := outlinesOfItems [] (Item.allUnplaced m.items)

theorem outline_sites (m : Module) : m.sites.map Site.outline = m.outlines :=
  outline_sitesOfItems [] [] 0 m.items

theorem verdicts_outline (m : Module) :
    m.verdicts.map (mapBoth Diagnostic.unplaced Declaration.unplaced) =
      m.outlines.filterMap Site.verdict? := by
  rw [verdicts, ← outline_sites, List.filterMap_map, List.map_filterMap]
  exact List.filterMap_congr fun site _ => site.verdict?_outline.symm

theorem names_outline (m : Module) :
    (m.discover.names.map NamedItem.unplaced).Perm (m.outlines.flatMap Site.names) := by
  rw [← outline_sites, List.flatMap_map]
  have names := (namesOfItems_perm [] [] 0 m.items).map NamedItem.unplaced
  rw [List.map_flatMap] at names
  refine names.trans (.of_eq (List.flatMap_congr fun site _ => ?_))
  exact site.names_outline.symm

end Module
end DomainValues
