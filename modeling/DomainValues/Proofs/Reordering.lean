import DomainValues.Proofs.Installing
import DomainValues.Proofs.ProductPositions

/-!
# Passes over reordered modules

Two modules may differ in the order of their items, at any depth, and in the positions of all that
is written there (`Module.Reordered`).  Then the outlines of their sites are the same, each as
often, and with them what is declared, what collides, what is generated and what is reported.

The entries of a registration are sorted by their names, which are distinct, so there is one order
for them (`Module.Reordered.entriesOf`).

Main statement: `Module.order_irrelevant`.
-/

namespace DomainValues

/-! ## Reordered modules -/

/-- Items in another order, and the items of every inline module among them too. -/
inductive Item.Reordered : List Item → List Item → Prop
  /-- There are none. -/
  | nil : Reordered [] []
  /-- The first stays. -/
  | keep (item : Item) {items items' : List Item} :
      Reordered items items' → Reordered (item :: items) (item :: items')
  /-- The first is a module, in which items are reordered. -/
  | inside (head : ModuleHead) {inner inner' items items' : List Item} :
      Reordered inner inner' → Reordered items items' →
        Reordered (.inlineModule head inner :: items) (.inlineModule head inner' :: items')
  /-- The first two change places. -/
  | swap (first second : Item) (items : List Item) :
      Reordered (first :: second :: items) (second :: first :: items)
  /-- One order after the other. -/
  | trans {items items' items'' : List Item} :
      Reordered items items' → Reordered items' items'' → Reordered items items''

/-- Modules whose items differ in their order, at any depth, and in the positions. -/
def Module.Reordered (m m' : Module) : Prop :=
  Item.Reordered (Item.allUnplaced m.items) (Item.allUnplaced m'.items)

theorem Item.Reordered.outlines_perm {items items' : List Item} (reordered : Reordered items items')
    (scope : List Name) : (outlinesOfItems scope items).Perm (outlinesOfItems scope items') := by
  induction reordered generalizing scope with
  | nil => exact .refl _
  | keep item _ ih =>
      rw [outlinesOfItems, outlinesOfItems]
      exact (ih scope).append_left _
  | inside head _ _ inner ih =>
      rw [outlinesOfItems, outlinesOfItems, outlinesOfItem, outlinesOfItem]
      exact ((inner _).append_right _).append (ih scope)
  | swap first second items =>
      simp only [outlinesOfItems, ← List.append_assoc]
      exact List.perm_append_comm.append_right _
  | trans _ _ first second => exact (first scope).trans (second scope)

namespace Module

variable {m m' : Module}

/-! ## What is declared -/

/-- The code and the message of the report in a verdict, if the site is refused. -/
def refusalSummary? : Except Diagnostic Declaration → Option (ErrorCode × String)
  | .error report => some report.summary
  | .ok _ => none

section

variable (reordered : m.Reordered m')
include reordered

theorem Reordered.verdicts :
    (m.verdicts.map (mapBoth Diagnostic.unplaced Declaration.unplaced)).Perm
      (m'.verdicts.map (mapBoth Diagnostic.unplaced Declaration.unplaced)) := by
  rw [verdicts_outline, verdicts_outline]
  exact (reordered.outlines_perm []).filterMap _

theorem Reordered.declarations :
    (m.discover.declarations.map Declaration.unplaced).Perm
      (m'.discover.declarations.map Declaration.unplaced) := by
  have accepted (m : Module) : m.discover.declarations.map Declaration.unplaced =
      (m.verdicts.map (mapBoth Diagnostic.unplaced Declaration.unplaced)).filterMap
        Except.toOption := by
    rw [discover, List.map_filterMap, List.filterMap_map]
    refine List.filterMap_congr fun verdict _ => ?_
    cases verdict <;> rfl
  rw [accepted, accepted]
  exact reordered.verdicts.filterMap _

theorem Reordered.reports :
    (m.discover.diagnostics.map Diagnostic.summary).Perm
      (m'.discover.diagnostics.map Diagnostic.summary) := by
  have refused (m : Module) : m.discover.diagnostics.map Diagnostic.summary =
      (m.verdicts.map (mapBoth Diagnostic.unplaced Declaration.unplaced)).filterMap
        refusalSummary? := by
    rw [discover, List.map_filterMap, List.filterMap_map]
    refine List.filterMap_congr fun verdict _ => ?_
    cases verdict <;> rfl
  rw [refused, refused]
  exact reordered.verdicts.filterMap _

theorem Reordered.names :
    (m.discover.names.map NamedItem.unplaced).Perm (m'.discover.names.map NamedItem.unplaced) :=
  (names_outline m).trans
    (((reordered.outlines_perm []).flatMap_right _).trans (names_outline m').symm)

theorem Reordered.kept (registry : Ident) :
    ((m.discover.collisions registry).kept.map Declaration.unplaced).Perm
      ((m'.discover.collisions registry).kept.map Declaration.unplaced) :=
  kept_perm registry reordered.declarations reordered.names

theorem Reordered.registryAvailable (registry : Ident) :
    (m.discover.collisions registry).registryAvailable =
      (m'.discover.collisions registry).registryAvailable :=
  registryAvailable_eq_of_perm registry reordered.names

end

/-! ## What is generated -/

section

variable {o : Options} {limit limit' : Option Nat} (reordered : m.Reordered m')
  (done : (m.generate o limit).cancelled = false)
  (done' : (m'.generate o limit').cancelled = false)
include reordered done done'

theorem Reordered.outputs :
    ((m.generate o limit).products.map Product.output).Perm
      ((m'.generate o limit').products.map Product.output) := by
  have outputs {m : Module} {limit : Option Nat} (done : (m.generate o limit).cancelled = false) :
      (m.generate o limit).products.map Product.output =
        ((m.discover.collisions o.registry).kept.map Declaration.unplaced).filterMap fun d =>
          (product? o d.configured).map Product.output := by
    rw [products_eq done, List.map_filterMap, List.filterMap_map]
    exact List.filterMap_congr fun d _ => (product?_unplaced o d).symm
  rw [outputs done, outputs done']
  exact (reordered.kept o.registry).filterMap _

theorem Reordered.diagnostics :
    ((m.generate o limit).diagnostics.map Diagnostic.summary).Perm
      ((m'.generate o limit').diagnostics.map Diagnostic.summary) := by
  have summaries {m : Module} {limit : Option Nat}
      (done : (m.generate o limit).cancelled = false) :
      (m.generate o limit).diagnostics.map Diagnostic.summary =
        m.discover.diagnostics.map Diagnostic.summary ++
          ((m.discover.collisions o.registry).rejected.map (fun r => r.2.summary) ++
            (m.discover.collisions o.registry).clashes.map Diagnostic.summary) ++
          ((m.discover.collisions o.registry).kept.map Declaration.unplaced).filterMap fun d =>
            (refusal? d.configured).map Diagnostic.summary := by
    have parts : (m.generate o limit).diagnostics =
        m.discover.diagnostics ++ (m.discover.collisions o.registry).diagnostics ++
          ((m.processed o limit).map Declaration.configured).filterMap refusal? := rfl
    rw [parts, processed_of_not_cancelled done, Collisions.diagnostics]
    simp only [List.map_append, List.map_map, List.filterMap_map, List.map_filterMap,
      Function.comp_def, refusal?_unplaced]
  have rejected := rejected_perm o.registry reordered.declarations reordered.names
  have clashes := clashes_perm o.registry reordered.declarations reordered.names
  have refusals := (reordered.kept o.registry).filterMap fun d =>
    (refusal? d.configured).map Diagnostic.summary
  rw [summaries done, summaries done']
  exact (reordered.reports.append (rejected.append clashes)).append refusals

end

/-! ## What is registered -/

/-- The entries of a registration increase strictly by their names. -/
theorem entries_increasing {o : Options} {limit : Option Nat} :
    (Registration.entriesOf ((m.generate o limit).products.map Product.adapter)).Pairwise
      fun e f => e.name < f.name := by
  rw [Product.entriesOf_adapters]
  exact List.pairwise_map.2 (Product.inNameOrder_increasing names_nodup)

/-- The same entries are registered, and in one order. -/
theorem Reordered.entriesOf {o : Options} {limit limit' : Option Nat} (reordered : m.Reordered m')
    (done : (m.generate o limit).cancelled = false)
    (done' : (m'.generate o limit').cancelled = false) :
    Registration.entriesOf ((m.generate o limit).products.map Product.adapter) =
      Registration.entriesOf ((m'.generate o limit').products.map Product.adapter) := by
  have perm := (reordered.outputs done done').map fun
    | (_, name, value, scope, _) => RegistrationEntry.mk value.name (.path .root (scope ++ [name]))
  rw [List.map_map, List.map_map] at perm
  have entries : ∀ m : Module, ∀ limit : Option Nat,
      (Registration.entriesOf ((m.generate o limit).products.map Product.adapter)).Perm
        ((m.generate o limit).products.map fun p => Registration.entryOf p.adapter) := by
    intro m limit
    have listed := Registration.entriesOf_perm ((m.generate o limit).products.map Product.adapter)
    rw [List.map_map] at listed
    exact listed
  have same := (entries m limit).trans (perm.trans (entries m' limit').symm)
  refine same.eq_of_pairwise (fun e f _ _ less greater => ?_) entries_increasing
    entries_increasing
  exact absurd greater (lt_asymm less)

theorem Reordered.registration {o : Options} {limit limit' : Option Nat}
    (reordered : m.Reordered m') (done : (m.generate o limit).cancelled = false)
    (done' : (m'.generate o limit').cancelled = false) :
    (m.generate o limit).registration = (m'.generate o limit').registration := by
  rw [registration_eq, registration_eq, reordered.registryAvailable, Registration.ofAdapters?,
    Registration.ofAdapters?, reordered.entriesOf done done']

/-- Whatever the options and the flags: runs that are not cancelled, over modules that differ in the
order of their items at any depth and in positions, generate the same types and adapters and report
the same faults, each as often, and they make the same registration. -/
theorem order_irrelevant {m m' : Module} {o : Options} {flag flag' : Nat → Bool}
    (reordered : m.Reordered m') (done : (m.run o flag).cancelled = false)
    (done' : (m'.run o flag').cancelled = false) :
    ((m.run o flag).implementations.map Implementation.output).Perm
      ((m'.run o flag').implementations.map Implementation.output) ∧
    ((m.run o flag).adapters.map Adapter.output).Perm
      ((m'.run o flag').adapters.map Adapter.output) ∧
    ((m.run o flag).diagnostics.map fun report => (report.code, report.message)).Perm
      ((m'.run o flag').diagnostics.map fun report => (report.code, report.message)) ∧
    (m.discover.collisions o.registry).registryAvailable =
      (m'.discover.collisions o.registry).registryAvailable ∧
    (m.run o flag).registration = (m'.run o flag').registration := by
  obtain ⟨limit, same⟩ := exists_limit m o flag
  obtain ⟨limit', same'⟩ := exists_limit m' o flag'
  rw [same] at done ⊢
  rw [same'] at done' ⊢
  have outputs := reordered.outputs done done'
  have implementations := outputs.map Prod.fst
  have adapters := outputs.map Prod.snd
  rw [List.map_map, List.map_map] at implementations adapters
  refine ⟨?_, ?_, reordered.diagnostics done done', reordered.registryAvailable o.registry,
    reordered.registration done done'⟩
  · rw [Generation.implementations, Generation.implementations, List.map_map, List.map_map]
    exact implementations
  · rw [Generation.adapters, Generation.adapters, List.map_map, List.map_map]
    exact adapters

/-- A declaration and a module change places, and so do a declaration and a refused one in the
module. -/
theorem two_orders :
    let customer := Item.unitStruct [.directive .identifier] .everywhere "CustomerId"
    let order := Item.unitStruct [.directive .identifier] .everywhere "OrderId"
    let amount := Item.unitStruct [.directive .boundedInteger] .everywhere "Amount"
    let m := ofItems [customer, .moduleOf .everywhere "orders" [order, amount]]
    let m' := ofItems [.moduleOf .everywhere "orders" [amount, order], customer]
    let g := m.run .default fun _ => false
    let g' := m'.run .default fun _ => false
    g.registration = g'.registration ∧
      (g.diagnostics.map fun report => (report.code, report.message)).Perm
        (g'.diagnostics.map fun report => (report.code, report.message)) := by
  intro customer order amount m m' g g'
  have reordered : m.Reordered m' :=
    .trans (.swap _ _ _) (.inside _ (.swap _ _ _) (.keep _ .nil))
  have done (m : Module) : (m.run .default fun _ => false).cancelled = false := by
    rw [run_of_unset fun _ _ => rfl]
    exact cancelled_of_no_limit
  obtain ⟨-, -, reports, -, registration⟩ := order_irrelevant reordered (done m) (done m')
  exact ⟨registration, reports⟩

end Module
end DomainValues
