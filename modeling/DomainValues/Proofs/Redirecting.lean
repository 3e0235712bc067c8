import DomainValues.Proofs.ReadBack

/-!
# Replacing a directive

In a module, another attribute takes the place of the directive of a declaration
(`Module.redirected`).  If it can be read as a directive, then positions aside the module that
results declares the same (`Module.Redirects`): every site gives the verdict that it gave, and the
declaration has its new directive.  For an attribute that is a directive derives nothing, and no
other attribute changes.

Main statements: `Module.Redirects.sites`, `Module.Redirects.names`, and from them
`Module.Redirects.declarations` and `Module.Redirects.diagnostics`.
-/

namespace DomainValues

theorem filterMap_eq_of_forall₂ {α β γ : Type} {R : α → β → Prop} {f : α → Option γ}
    {g : β → Option γ} (same : ∀ a b, R a b → f a = g b) {l : List α} {l' : List β}
    (related : List.Forall₂ R l l') : l.filterMap f = l'.filterMap g := by
  induction related with
  | nil => rfl
  | cons first _ ih => rw [List.filterMap_cons, List.filterMap_cons, same _ _ first, ih]

theorem exists_of_forall₂ {α β : Type} {R : α → β → Prop} {l : List α} {l' : List β} {a : α}
    (related : List.Forall₂ R l l') (found : a ∈ l) : ∃ b ∈ l', R a b := by
  induction related with
  | nil => cases found
  | cons first _ ih =>
      rcases List.mem_cons.1 found with rfl | found
      · exact ⟨_, List.mem_cons_self, first⟩
      · obtain ⟨b, found', same⟩ := ih found
        exact ⟨b, List.mem_cons_of_mem _ found', same⟩

/-! ## Replacing -/

/-- Attributes with an attribute in the place of the directives. -/
def Attribute.redirect (a : Attribute) (attributes : List Attribute) : List Attribute :=
  attributes.map fun other => if other.isDirective then a else other

mutual

/-- An item in which the struct at a slot has another directive. -/
def redirectItem (target : Slot) (a : Attribute) (modules : List Nat) (index : Nat) : Item → Item
  | .inlineModule head items =>
      .inlineModule head (redirectItems target a (modules ++ [index]) 0 items)
  | .struct s =>
      if ⟨modules, index⟩ = target then .struct { s with attributes := a.redirect s.attributes }
      else .struct s
  | item => item

/-- Items, numbered from an index, in which the struct at a slot has another directive. -/
def redirectItems (target : Slot) (a : Attribute) (modules : List Nat) (index : Nat) :
    List Item → List Item
  | [] => []
  | item :: rest =>
      redirectItem target a modules index item :: redirectItems target a modules (index + 1) rest

end

/-- A module in which the struct at a slot has another directive. -/
def Module.redirected (m : Module) (target : Slot) (a : Attribute) : Module :=
  { m with items? := m.items?.map (redirectItems target a [] 0) }

/-- A module without positions. -/
def Module.unplaced (m : Module) : Module := ⟨m.head.unplaced, m.items?.map Item.allUnplaced⟩

/-! ## Sites -/

/-- A site at which the struct has another directive, if it is at a slot. -/
def Site.redirect (target : Slot) (a : Attribute) (site : Site) : Site :=
  { site with item := redirectItem target a site.slot.modules site.slot.item site.item }

mutual

theorem sitesOfItem_redirectItem (target : Slot) (a : Attribute) (scope : List Name)
    (modules : List Nat) (index : Nat) : (item : Item) →
      sitesOfItem scope modules index (redirectItem target a modules index item) =
        (sitesOfItem scope modules index item).map (Site.redirect target a)
  | .inlineModule head items => by
      rw [redirectItem, sitesOfItem, sitesOfItem, List.map_append,
        sitesOfItems_redirectItems target a _ _ 0 items, List.map_singleton, Site.redirect,
        redirectItem]
  | .struct s => by
      by_cases here : (⟨modules, index⟩ : Slot) = target <;>
        simp [redirectItem, sitesOfItem, Site.redirect, here]
  | .plain _ | .verbatim _ | .generated _ => by
      simp [redirectItem, sitesOfItem, Site.redirect]

theorem sitesOfItems_redirectItems (target : Slot) (a : Attribute) (scope : List Name)
    (modules : List Nat) (index : Nat) : (items : List Item) →
      sitesOfItems scope modules index (redirectItems target a modules index items) =
        (sitesOfItems scope modules index items).map (Site.redirect target a)
  | [] => by rw [redirectItems, sitesOfItems, List.map_nil]
  | item :: rest => by
      rw [redirectItems, sitesOfItems, sitesOfItems, List.map_append,
        sitesOfItem_redirectItem target a scope modules index item,
        sitesOfItems_redirectItems target a scope modules (index + 1) rest]

end

theorem Module.sites_redirected (m : Module) (target : Slot) (a : Attribute) :
    (m.redirected target a).sites = m.sites.map (Site.redirect target a) := by
  rw [sites, sites, items, redirected, items]
  cases m.items? with
  | none => rfl
  | some items => exact sitesOfItems_redirectItems target a [] [] 0 items

/-- A site without positions. -/
def Site.unplaced (site : Site) : Site :=
  ⟨site.scope.map Name.unplaced, site.slot, site.item.unplaced⟩

mutual

/-- Items without positions have the sites of the items, without positions. -/
theorem sitesOfItem_unplaced (scope : List Name) (modules : List Nat) (index : Nat) :
    (item : Item) → sitesOfItem (scope.map Name.unplaced) modules index item.unplaced =
      (sitesOfItem scope modules index item).map Site.unplaced
  | .inlineModule head items => by
      have below := sitesOfItems_unplaced (scope ++ [head.name]) (modules ++ [index]) 0 items
      rw [List.map_append] at below
      rw [Item.unplaced, sitesOfItem, sitesOfItem, List.map_append, ← below]
      simp [Site.unplaced, Item.unplaced, ModuleHead.unplaced]
  | .struct _ | .plain _ | .verbatim _ | .generated _ => by
      simp [Item.unplaced, sitesOfItem, Site.unplaced]

theorem sitesOfItems_unplaced (scope : List Name) (modules : List Nat) (index : Nat) :
    (items : List Item) →
      sitesOfItems (scope.map Name.unplaced) modules index (Item.allUnplaced items) =
        (sitesOfItems scope modules index items).map Site.unplaced
  | [] => by
      rw [Item.allUnplaced, sitesOfItems, sitesOfItems, List.map_nil]
  | item :: rest => by
      rw [Item.allUnplaced, sitesOfItems, sitesOfItems, List.map_append,
        sitesOfItem_unplaced scope modules index item,
        sitesOfItems_unplaced scope modules (index + 1) rest]

end

theorem Module.sites_unplaced (m : Module) : m.unplaced.sites = m.sites.map Site.unplaced := by
  rw [sites, sites, items, unplaced, items]
  cases m.items? with
  | none => rfl
  | some items => exact sitesOfItems_unplaced [] [] 0 items

/-- An item without what is in it, if it is a module. -/
def Item.shell : Item → Item
  | .inlineModule head _ => .inlineModule head []
  | item => item

theorem Item.shell_unplaced (item : Item) : item.unplaced.shell = item.outline := by
  cases item <;> simp [unplaced, shell, outline]

/-- Sites that differ in positions only have one outline. -/
theorem Site.outline_of_unplaced {site site' : Site} (same : site.unplaced = site'.unplaced) :
    site.outline = site'.outline := by
  obtain ⟨scope, -, item⟩ := Site.mk.inj same
  rw [outline, outline, ← Item.shell_unplaced, ← Item.shell_unplaced, scope, item]

/-- Elsewhere a site keeps its outline. -/
theorem Site.outline_redirect {target : Slot} {a : Attribute} {site : Site}
    (elsewhere : site.slot ≠ target) : (site.redirect target a).outline = site.outline := by
  obtain ⟨scope, slot, item⟩ := site
  cases item with
  | inlineModule head items => rw [redirect, redirectItem]; rfl
  | struct s => rw [redirect, redirectItem, if_neg elsewhere]
  | plain _ | verbatim _ | generated _ => simp [redirect, redirectItem]

/-! ## Verdicts -/

/-- A directive derives nothing. -/
theorem Attribute.derived_of_isDirective {a : Attribute} (h : a.isDirective = true) :
    a.derived = [] := by
  unfold isDirective at h
  unfold derived
  cases name : a.name? with
  | none => rfl
  | some i =>
      rw [name, Option.any_some] at h
      have other : i.text ≠ "derive" := by
        intro same
        rw [same] at h
        revert h
        decide
      cases a.arguments with
      | list d tokens p q => exact if_neg other
      | none => rfl
      | value tokens => rfl

section

variable {a : Attribute} {kind : Kind} (given : a.kind? = some kind)
include given

theorem Attribute.isDirective_of_kind? : a.isDirective = true := by
  rw [← isSome_kind?, given]
  rfl

theorem Attribute.derived_redirect (attributes : List Attribute) :
    (a.redirect attributes).flatMap derived = attributes.flatMap derived := by
  rw [redirect, List.flatMap_map]
  refine List.flatMap_congr fun other _ => ?_
  cases directive : other.isDirective with
  | true =>
      rw [if_pos rfl, derived_of_isDirective directive,
        derived_of_isDirective (isDirective_of_kind? given)]
  | false => rfl

theorem Attribute.withoutDirectives_redirect (attributes : List Attribute) :
    withoutDirectives (a.redirect attributes) = withoutDirectives attributes := by
  have keeps (other : Attribute) : other.kind?.isNone = !other.isDirective := by
    rw [← isSome_kind?, Option.not_isSome]
  simp only [withoutDirectives, keeps]
  induction attributes with
  | nil => rfl
  | cons other rest ih =>
      cases directive : other.isDirective with
      | true => simpa [redirect, directive, isDirective_of_kind? given] using ih
      | false => simpa [redirect, directive] using ih

theorem Item.directives_redirect (s : StructItem) :
    (Item.struct { s with attributes := a.redirect s.attributes }).directives =
      (Item.struct s).directives.map fun _ => (a, kind) := by
  rw [directives, directives, List.map_filterMap, attributes, attributes, Attribute.redirect,
    List.filterMap_map]
  refine List.filterMap_congr fun other _ => ?_
  rw [Function.comp_apply, Option.map_map]
  cases directive : other.isDirective with
  | true =>
      rw [← Attribute.isSome_kind?] at directive
      obtain ⟨kind', same⟩ := Option.isSome_iff_exists.1 directive
      rw [if_pos rfl, given, same]
      rfl
  | false =>
      rw [← Attribute.isSome_kind?, Option.isSome_eq_false_iff,
        Option.isNone_iff_eq_none] at directive
      rw [if_neg Bool.false_ne_true, directive]
      rfl

theorem Site.Declares.redirect {site : Site} {s : StructItem} {d : Declaration}
    {directive : Directive} (declares : site.Declares s d)
    (read : Directive.ofAttribute kind a = .ok directive) :
    (site.redirect site.slot a).Declares { s with attributes := a.redirect s.attributes }
      { d with directive } := by
  have item : (site.redirect site.slot a).item =
      .struct { s with attributes := a.redirect s.attributes } := by
    rw [Site.redirect, declares.item, redirectItem, if_pos rfl]
  obtain ⟨first, one, -⟩ := declares.directive
  refine ⟨item, ?_, ⟨(a, kind), ?_, read⟩, declares.name, declares.scope, declares.visibility, ?_,
    declares.slot⟩
  · have derives : generatedDerive? { s with attributes := a.redirect s.attributes } =
        generatedDerive? s := by
      rw [generatedDerive?, Attribute.derived_redirect given, generatedDerive?]
    have shape := declares.shape
    rw [shapeFaults_eq_nil_iff] at shape ⊢
    rw [derives]
    exact shape
  · rw [item, Item.directives_redirect given, ← declares.item, one]
    rfl
  · rw [Attribute.withoutDirectives_redirect given]
    exact declares.attributes

end

/-- Declarations that differ in positions only, or at a slot also in the directive. -/
structure Declaration.Counterpart (target : Slot) (d e : Declaration) : Prop where
  /-- They have one place. -/
  slot : e.slot = d.slot
  /-- All but the directive is the same. -/
  but : e.unplaced = { d.unplaced with directive := e.unplaced.directive }
  /-- Elsewhere the directive is the same. -/
  elsewhere : d.slot ≠ target → e.unplaced = d.unplaced

/-- Two verdicts of which both are reports, or both are declarations that differ in positions only
or at a slot also in the directive. -/
inductive SameVerdict (target : Slot) :
    Except Diagnostic Declaration → Except Diagnostic Declaration → Prop where
  | reported {report report' : Diagnostic} : report'.unplaced = report.unplaced →
      SameVerdict target (.error report) (.error report')
  | declared {d e : Declaration} : d.Counterpart target e → SameVerdict target (.ok d) (.ok e)

theorem Site.sameVerdict_of_outline {target : Slot} {site site' : Site}
    (slot : site'.slot = site.slot) (same : site'.outline = site.outline) :
    Option.Rel (SameVerdict target) site.verdict? site'.verdict? := by
  have verdicts := congrArg verdict? same
  rw [verdict?_outline, verdict?_outline] at verdicts
  cases given : site.verdict? with
  | none =>
      rw [given, Option.map_none, Option.map_eq_none_iff] at verdicts
      rw [verdicts]
      exact .none
  | some verdict =>
      rw [given, Option.map_some, Option.map_eq_some_iff] at verdicts
      obtain ⟨verdict', given', verdicts⟩ := verdicts
      rw [given']
      cases verdict with
      | error report =>
          cases verdict' with
          | error report' => exact .some (.reported (Except.error.inj verdicts))
          | ok e => cases verdicts
      | ok d =>
          cases verdict' with
          | error report' => cases verdicts
          | ok e =>
              obtain ⟨s, declares⟩ := verdict?_eq_ok_iff.1 given
              obtain ⟨s', declares'⟩ := verdict?_eq_ok_iff.1 given'
              have unplaced := Except.ok.inj verdicts
              exact .some (.declared ⟨by rw [declares'.slot, slot, declares.slot],
                by rw [unplaced], fun _ => unplaced⟩)

/-- Where another directive stands, what was declared still is, but for the directive. -/
theorem Site.Declares.sameVerdict_of_redirect {site site' : Site} {s : StructItem}
    {d : Declaration} {a : Attribute} {kind : Kind} {directive : Directive}
    (declares : site.Declares s d) (given : a.kind? = some kind)
    (read : Directive.ofAttribute kind a = .ok directive) (slot : site'.slot = site.slot)
    (outline : site'.outline = (site.redirect site.slot a).outline) :
    Option.Rel (SameVerdict site.slot) site.verdict? site'.verdict? := by
  have redirected : Option.Rel (SameVerdict site.slot) (site.redirect site.slot a).verdict?
    site'.verdict? := sameVerdict_of_outline slot outline
  rw [verdict?_eq_ok_iff.2 ⟨_, declares.redirect given read⟩] at redirected
  rw [verdict?_eq_ok_iff.2 ⟨s, declares⟩]
  generalize site'.verdict? = verdict' at redirected ⊢
  cases redirected with
  | some same =>
      cases same with
      | declared counterpart =>
          exact .some (.declared ⟨counterpart.slot, counterpart.but,
            fun elsewhere => absurd declares.slot elsewhere⟩)

/-! ## Names -/

mutual

theorem namesOfItem_redirectItem (target : Slot) (a : Attribute) (modules : List Nat) (index : Nat)
    (scope : List Name) : (item : Item) →
      namesOfItem scope (redirectItem target a modules index item) = namesOfItem scope item
  | .inlineModule head items => by
      rw [redirectItem, namesOfItem, namesOfItem,
        namesOfItems_redirectItems target a (modules ++ [index]) 0 (scope ++ [head.name]) items]
  | .struct s => by
      rw [redirectItem]
      split <;> rfl
  | .plain _ | .verbatim _ | .generated _ => by rw [redirectItem] <;> nofun

theorem namesOfItems_redirectItems (target : Slot) (a : Attribute) (modules : List Nat)
    (index : Nat) (scope : List Name) : (items : List Item) →
      namesOfItems scope (redirectItems target a modules index items) = namesOfItems scope items
  | [] => by rw [redirectItems]
  | item :: rest => by
      rw [redirectItems, namesOfItems, namesOfItems,
        namesOfItem_redirectItem target a modules index scope item,
        namesOfItems_redirectItems target a modules (index + 1) scope rest]

end

theorem Module.names_redirected (m : Module) (target : Slot) (a : Attribute) :
    (m.redirected target a).discover.names = m.discover.names := by
  rw [discover, discover, items, redirected, items]
  cases m.items? with
  | none => rfl
  | some items => exact namesOfItems_redirectItems target a [] 0 [] items

mutual

theorem namesOfItem_unplaced (scope : List Name) : (item : Item) →
    namesOfItem (scope.map Name.unplaced) item.unplaced =
      (namesOfItem scope item).map NamedItem.unplaced
  | .inlineModule head items => by
      have below := namesOfItems_unplaced (scope ++ [head.name]) items
      rw [List.map_append] at below
      rw [Item.unplaced, namesOfItem, namesOfItem, List.map_cons, ← below]
      rfl
  | .struct s => rfl
  | .plain p => by
      have names := ItemKind.names_unplaced p.kind
      simp [Item.unplaced, namesOfItem, Item.names, PlainItem.unplaced, names, NamedItem.unplaced]
  | .verbatim _ => rfl
  | .generated code => by
      have names : (Item.generated code).names.map Name.unplaced = (Item.generated code).names := by
        rw [← Item.names_outline, Item.outline, Item.unplaced]
        nofun
      rw [Item.unplaced, namesOfItem, namesOfItem, List.map_map, ← names, List.map_map, names]
      · rfl
      · nofun
      · nofun

theorem namesOfItems_unplaced (scope : List Name) : (items : List Item) →
    namesOfItems (scope.map Name.unplaced) (Item.allUnplaced items) =
      (namesOfItems scope items).map NamedItem.unplaced
  | [] => by
      rw [Item.allUnplaced, namesOfItems, namesOfItems, List.map_nil]
  | item :: rest => by
      rw [Item.allUnplaced, namesOfItems, namesOfItems, List.map_append,
        namesOfItem_unplaced scope item, namesOfItems_unplaced scope rest]

end

theorem Module.names_unplaced (m : Module) :
    m.unplaced.discover.names = m.discover.names.map NamedItem.unplaced := by
  rw [discover, discover, items, unplaced, items]
  cases m.items? with
  | none => rfl
  | some items => exact namesOfItems_unplaced [] items

/-! ## Two modules -/

/-- Sites that differ in positions only, or at a slot also in the directive. -/
structure Site.Counterpart (target : Slot) (site site' : Site) : Prop where
  /-- They have one slot. -/
  slot : site'.slot = site.slot
  /-- They give the same verdict. -/
  verdict : Option.Rel (SameVerdict target) site.verdict? site'.verdict?
  /-- Elsewhere they have one outline. -/
  elsewhere : site.slot ≠ target → site'.outline = site.outline

/-- The second module is the first with another directive at a declaration, positions aside. -/
structure Module.Redirects (m m' : Module) (d : Declaration) : Prop where
  /-- The declaration is one of the first module. -/
  declared : d ∈ m.discover.declarations
  /-- Another attribute stands for its directive, which can be read as one. -/
  replaced : ∃ a kind directive, a.kind? = some kind ∧
    Directive.ofAttribute kind a = .ok directive ∧
      m'.unplaced = (m.redirected d.slot a).unplaced

namespace Module.Redirects

variable {m m' : Module} {d : Declaration} (redirects : m.Redirects m' d)
include redirects

theorem names : m'.discover.names.map NamedItem.unplaced =
    m.discover.names.map NamedItem.unplaced := by
  obtain ⟨a, kind, directive, -, -, same⟩ := redirects.replaced
  rw [← names_unplaced, same, names_unplaced, names_redirected]

/-- Both modules have the same sites, but for the directive. -/
theorem sites : List.Forall₂ (Site.Counterpart d.slot) m.sites m'.sites := by
  obtain ⟨a, kind, directive, given, read, same⟩ := redirects.replaced
  obtain ⟨site₀, found₀, s, declares⟩ := mem_declarations_iff.1 redirects.declared
  have placed : m.sites.map (fun site => (site.redirect d.slot a).unplaced) =
      m'.sites.map Site.unplaced := by
    rw [← sites_unplaced, same, sites_unplaced, sites_redirected, List.map_map]
    rfl
  have pairs : List.Forall₂ (fun site site' => site ∈ m.sites ∧
      (site.redirect d.slot a).unplaced = site'.unplaced) m.sites m'.sites := by
    rw [List.forall₂_and_left]
    refine ⟨fun site found => found, ?_⟩
    rwa [← List.forall₂_eq_eq_eq, List.forall₂_map_left_iff, List.forall₂_map_right_iff] at placed
  refine pairs.imp fun site site' pair => ?_
  obtain ⟨found, unplaced⟩ := pair
  have slot : site'.slot = site.slot := (Site.mk.inj unplaced).2.1.symm
  have outline : site'.outline = (site.redirect d.slot a).outline :=
    (Site.outline_of_unplaced unplaced).symm
  by_cases here : site.slot = d.slot
  · obtain rfl : site = site₀ := site_ext found found₀ (here.trans declares.slot)
    rw [← here] at outline ⊢
    exact ⟨slot, declares.sameVerdict_of_redirect given read slot outline,
      fun elsewhere => absurd rfl elsewhere⟩
  · rw [Site.outline_redirect here] at outline
    exact ⟨slot, Site.sameVerdict_of_outline slot outline, fun _ => outline⟩

theorem verdicts : List.Forall₂ (SameVerdict d.slot) m.verdicts m'.verdicts :=
  List.rel_filterMap (fun _ _ same => same.verdict) redirects.sites

/-- The same is declared, but for the directive. -/
theorem declarations : List.Forall₂ (Declaration.Counterpart d.slot) m.discover.declarations
    m'.discover.declarations := by
  refine List.rel_filterMap (fun verdict verdict' same => ?_) redirects.verdicts
  cases same with
  | reported => exact .none
  | declared counterpart => exact .some counterpart

/-- The same is reported of what is not declared. -/
theorem diagnostics : m'.discover.diagnostics.map Diagnostic.unplaced =
    m.discover.diagnostics.map Diagnostic.unplaced := by
  rw [discover, discover, List.map_filterMap, List.map_filterMap]
  refine (filterMap_eq_of_forall₂ (fun verdict verdict' same => ?_) redirects.verdicts).symm
  cases same with
  | reported same => exact congrArg some same.symm
  | declared => rfl

end Module.Redirects

end DomainValues
