import DomainValues.Proofs.Cancellation
import DomainValues.Proofs.Completeness

/-!
# What becomes of every directive

A run that is not cancelled gives every item with a directive one of two ends: one generated type
with its adapter, or one report that rejects it (`Generation.AccountsFor`).  The reports that reject
something are those of the scan, of collisions and of refused configurations
(`Module.rejections`); each has the slot of the item that it is about.

The three steps split what they are given in the same way, so one lemma serves them all
(`filterMap_perm_append`), and together they show that the slots of what is generated and of what
is rejected are the slots of the items with directives that a pass sees (`Module.slots_perm`).
Slots are distinct, so nothing is counted twice.

Main statement: `Module.accounting_exact`, with the number of reports.
-/

namespace DomainValues

/-! ## Splitting a list -/

/-- If each element of a list goes one of two ways, the two parts have the elements of the whole. -/
theorem filterMap_perm_append {α β : Type} {whole left right : α → Option β} (l : List α)
    (split : ∀ a ∈ l, (left a = none ∧ whole a = right a) ∨ (right a = none ∧ whole a = left a)) :
    (l.filterMap whole).Perm (l.filterMap left ++ l.filterMap right) := by
  induction l with
  | nil => exact List.Perm.refl _
  | cons a rest ih =>
      have tail := ih fun b found => split b (List.mem_cons_of_mem _ found)
      rcases split a List.mem_cons_self with ⟨none, same⟩ | ⟨none, same⟩
      · rw [List.filterMap_cons, List.filterMap_cons, List.filterMap_cons, none, same]
        cases right a with
        | none => exact tail
        | some b => exact (tail.cons b).trans List.perm_middle.symm
      · rw [List.filterMap_cons, List.filterMap_cons, List.filterMap_cons, none, same]
        cases left a with
        | none => exact tail
        | some b => exact tail.cons b

/-- Where the images of the elements of a list are distinct, one image is that of one element. -/
theorem index_unique {α β : Type} {f : α → β} {l : List α} {i j : Nat} {a b : α}
    (nodup : (l.map f).Nodup) (atI : l[i]? = some a) (atJ : l[j]? = some b) (same : f a = f b) :
    i = j := by
  obtain ⟨less, -⟩ := List.getElem?_eq_some_iff.1 atI
  refine (List.getElem?_inj (by rwa [List.length_map]) nodup).1 ?_
  rw [List.getElem?_map, List.getElem?_map, atI, atJ, Option.map_some, Option.map_some, same]

/-- A declaration is kept or collides with something. -/
theorem kept_append_rejected_perm (declarations : List Declaration) (names : List NamedItem)
    (registry : Ident) :
    declarations.Perm ((findCollisions declarations names registry).kept ++
      (findCollisions declarations names registry).rejected.map Prod.fst) := by
  let judged := declarations.zipIdx.map fun a => (a.1, clash? declarations names registry a.2 a.1)
  have whole : (judged.filterMap fun j => some j.1) = declarations := by
    rw [List.filterMap_eq_map', List.map_map]
    exact List.zipIdx_map_fst ..
  have parts : (judged.filterMap fun j => some j.1).Perm
      ((judged.filterMap fun j => if j.2.isNone then some j.1 else none) ++
        judged.filterMap fun j => j.2.map fun _ => j.1) := by
    refine filterMap_perm_append _ fun j _ => ?_
    obtain ⟨d, clash⟩ := j
    cases clash with
    | none => exact .inr ⟨rfl, rfl⟩
    | some report => exact .inl ⟨rfl, rfl⟩
  have rejected : (findCollisions declarations names registry).rejected.map Prod.fst =
      judged.filterMap fun j => j.2.map fun _ => j.1 := by
    rw [findCollisions, List.map_filterMap]
    refine List.filterMap_congr fun j _ => ?_
    rw [Option.map_map]
    rfl
  rw [whole] at parts
  rw [rejected]
  exact parts

/-! ## Reports that reject -/

/-- The slot of a declaration that a site gives. -/
def Site.declaredSlot? (site : Site) : Option Slot :=
  match site.verdict? with
  | some (.ok d) => some d.slot
  | _ => none

/-- The report of a site that has a directive and gives no declaration, with its slot. -/
def Site.rejection? (site : Site) : Option (Slot × Diagnostic) :=
  match site.verdict? with
  | some (.error report) => some (site.slot, report)
  | _ => none

/-- The report of a declaration whose configuration is refused, with its slot. -/
def Declaration.rejection? (d : Declaration) : Option (Slot × Diagnostic) :=
  (refusal? d.configured).map fun report => (d.slot, report)

/-- The reports of a pass that reject something with a directive, each with the slot of what it
rejects. -/
def Module.rejections (m : Module) (o : Options) : List (Slot × Diagnostic) :=
  let c := m.discover.collisions o.registry
  m.sites.filterMap Site.rejection? ++ c.rejected.map (fun (d, report) => (d.slot, report)) ++
    c.kept.filterMap Declaration.rejection?

/-- How often items at the root take the name of the registration type, if nothing declared has
it. -/
def Module.registryTakers (m : Module) (o : Options) : Nat :=
  if m.discover.declarations.any fun d => d.name.bare == o.registry.name then 0
  else (m.items.flatMap Item.names).countP fun n => n.bare == o.registry.name

/-- The item at a site is accounted for once. -/
inductive Generation.AccountsFor (g : Generation) (rejections : List (Slot × Diagnostic))
    (site : Site) : Prop where
  /-- It has one generated type, an adapter at the same index, and no report. -/
  | generated {i : Nat} {p : Product} : g.products[i]? = some p → p.IsOf site →
      g.implementations[i]? = some p.implementation → g.adapters[i]? = some p.adapter →
      (∀ j q, g.products[j]? = some q → q.declaration.slot = site.slot → j = i) →
      (∀ r ∈ rejections, r.1 ≠ site.slot) → AccountsFor g rejections site
  /-- It has one report that rejects it, and no generated type. -/
  | rejected {i : Nat} {r : Slot × Diagnostic} : rejections[i]? = some r → r.1 = site.slot →
      (∀ j s, rejections[j]? = some s → s.1 = site.slot → j = i) →
      (∀ p ∈ g.products, p.declaration.slot ≠ site.slot) → AccountsFor g rejections site

/-! ## Slots -/

namespace Module

variable {m : Module} {o : Options} {limit : Option Nat}

/-- The sites that a pass sees a directive at. -/
def seen (m : Module) : List Site := m.sites.filter fun site => site.verdict?.isSome

/-- A site with a directive gives a declaration or a report. -/
theorem slots_of_seen (m : Module) :
    (m.seen.map Site.slot).Perm (m.discover.declarations.map Declaration.slot ++
      (m.sites.filterMap Site.rejection?).map Prod.fst) := by
  have declared : m.discover.declarations.map Declaration.slot =
      m.sites.filterMap Site.declaredSlot? := by
    rw [discover, verdicts, List.map_filterMap, List.filterMap_filterMap]
    refine List.filterMap_congr fun site _ => ?_
    rw [Site.declaredSlot?]
    cases site.verdict? with
    | none => rfl
    | some verdict => cases verdict <;> rfl
  rw [declared, List.map_filterMap, seen, ← List.filterMap_eq_map, List.filterMap_filter]
  refine filterMap_perm_append _ fun site found => ?_
  rw [Site.declaredSlot?, Site.rejection?]
  cases given : site.verdict? with
  | none => exact .inl ⟨rfl, rfl⟩
  | some verdict =>
      cases verdict with
      | error report => exact .inl ⟨rfl, rfl⟩
      | ok d =>
          obtain ⟨s, declares⟩ := Site.verdict?_eq_ok_iff.1 given
          exact .inr ⟨rfl, congrArg some declares.slot.symm⟩

theorem slots_of_declarations (m : Module) :
    (m.discover.declarations.map Declaration.slot).Nodup := by
  have seen := (slots_of_seen m).nodup_iff.1 (m.slots_nodup.sublist (List.filter_sublist.map _))
  exact (List.nodup_append.1 seen).1

/-- A kept declaration is generated or its configuration is refused. -/
theorem slots_of_kept (declarations : List Declaration) (o : Options) :
    (declarations.map Declaration.slot).Perm
      ((declarations.filterMap fun d => product? o d.configured).map
          (fun p => p.declaration.slot) ++
        (declarations.filterMap Declaration.rejection?).map Prod.fst) := by
  rw [List.map_filterMap, List.map_filterMap, ← List.filterMap_eq_map]
  refine filterMap_perm_append _ fun d _ => ?_
  rw [Declaration.rejection?, Declaration.configured]
  cases d.directive.params with
  | ok params => exact .inr ⟨rfl, rfl⟩
  | error e => exact .inl ⟨rfl, rfl⟩

/-- What is generated and what is rejected stand at the slots of the items with directives that a
pass sees. -/
theorem slots_perm (done : (m.generate o limit).cancelled = false) :
    (m.seen.map Site.slot).Perm
      ((m.generate o limit).products.map (fun p => p.declaration.slot) ++
        (m.rejections o).map Prod.fst) := by
  -- The sites split, then the declarations among them, then the kept ones among those.
  have declarations := (kept_append_rejected_perm m.discover.declarations m.discover.names
    o.registry).map Declaration.slot
  have kept := slots_of_kept (m.discover.collisions o.registry).kept o
  rw [← products_eq done] at kept
  rw [List.map_append, List.map_map] at declarations
  rw [rejections, List.map_append, List.map_append, List.map_map]
  generalize (m.generate o limit).products.map (fun p => p.declaration.slot) = generated at kept ⊢
  generalize ((m.discover.collisions o.registry).kept.filterMap Declaration.rejection?).map
    Prod.fst = refused at kept ⊢
  have split := (slots_of_seen m).trans ((declarations.trans (kept.append_right _)).append_right _)
  rw [List.append_assoc, List.append_assoc] at split
  refine split.trans (List.Perm.append_left _ ?_)
  exact List.perm_append_comm.trans (List.perm_append_comm.append_right _)

/-- No slot is that of two products, of two rejections, or of a product and a rejection. -/
theorem accounts_nodup (done : (m.generate o limit).cancelled = false) :
    ((m.generate o limit).products.map (fun p => p.declaration.slot) ++
      (m.rejections o).map Prod.fst).Nodup := by
  refine (slots_perm done).nodup_iff.1 (m.slots_nodup.sublist ?_)
  exact List.filter_sublist.map _

/-! ## One end for each -/

/-- The items with directives that a pass sees are those that do not pass through unread. -/
theorem seen_perm (m : Module) :
    (m.marked.filter fun site => !site.item.isVerbatim).Perm m.seen := by
  have same :
      (m.sites.filter fun site => !site.item.isVerbatim && site.item.isMarked) = m.seen := by
    refine List.filter_congr fun site _ => ?_
    rw [Site.isSome_verdict?]
    cases unread : site.item.isVerbatim with
    | true => rw [Item.attributes_of_unread unread]; rfl
    | false => rw [Item.isMarked_of_read unread]; rfl
  rw [marked, List.filter_filter, ← same]
  exact m.inOrder_perm.filter _

theorem accountsFor_of_seen (done : (m.generate o limit).cancelled = false) {site : Site}
    (found : site ∈ m.seen) : (m.generate o limit).AccountsFor (m.rejections o) site := by
  obtain ⟨generatedOnce, rejectedOnce, apart⟩ := List.nodup_append.1 (accounts_nodup done)
  have ends := (slots_perm done).mem_iff.1 (List.mem_map_of_mem found)
  rcases List.mem_append.1 ends with ends | ends
  · obtain ⟨p, produced, slot⟩ := List.mem_map.1 ends
    obtain ⟨i, at'⟩ := List.mem_iff_getElem?.1 produced
    obtain ⟨site', found', s, declares⟩ := exists_site_of_product produced
    obtain rfl := site_ext found' (List.mem_of_mem_filter found) (declares.slot.symm.trans slot)
    refine .generated at' ((mem_products produced).2.isOf declares) ?_ ?_ ?_ ?_
    · rw [Generation.implementations, List.getElem?_map, at', Option.map_some]
    · rw [Generation.adapters, List.getElem?_map, at', Option.map_some]
    · intro j q at'' same
      exact index_unique generatedOnce at'' at' (same.trans slot.symm)
    · intro r rejected same
      exact apart _ ends _ (List.mem_map_of_mem rejected) same.symm
  · obtain ⟨r, rejected, slot⟩ := List.mem_map.1 ends
    obtain ⟨i, at'⟩ := List.mem_iff_getElem?.1 rejected
    refine .rejected at' slot ?_ ?_
    · intro j s at'' same
      exact index_unique rejectedOnce at'' at' (same.trans slot.symm)
    · intro p produced same
      exact apart _ (List.mem_map_of_mem produced) _ ends same

/-- What passes through unread has no end. -/
theorem read_of_accountsFor (done : (m.generate o limit).cancelled = false) {site : Site}
    (found : site ∈ m.sites)
    (accounts : (m.generate o limit).AccountsFor (m.rejections o) site) :
    site.item.isVerbatim = false := by
  cases accounts with
  | generated _ isOf =>
      obtain ⟨s, item, -⟩ := isOf.names
      rw [item]
      rfl
  | rejected at' slot =>
      have ends : site.slot ∈ m.seen.map Site.slot := by
        rw [(slots_perm done).mem_iff, ← slot]
        exact List.mem_append_right _ (List.mem_map_of_mem (List.mem_of_getElem? at'))
      obtain ⟨site', seen, same⟩ := List.mem_map.1 ends
      obtain rfl := site_ext (List.mem_of_mem_filter seen) found same
      simpa using (List.mem_filter.1 ((seen_perm m).mem_iff.2 seen)).2

/-! ## Reports -/

/-- The reports of the scan are those of the sites that give no declaration. -/
theorem discover_diagnostics_eq (m : Module) :
    m.discover.diagnostics = (m.sites.filterMap Site.rejection?).map Prod.snd := by
  rw [List.map_filterMap]
  refine (List.filterMap_filterMap ..).trans (List.filterMap_congr fun site _ => ?_)
  rw [Site.rejection?]
  cases site.verdict? with
  | none => rfl
  | some verdict => cases verdict <;> rfl

/-- The reports of a pass are those that reject something and those of a taken name of the
registration type. -/
theorem diagnostics_perm (done : (m.generate o limit).cancelled = false) :
    (m.generate o limit).diagnostics.Perm
      ((m.rejections o).map Prod.snd ++ (m.discover.collisions o.registry).clashes) := by
  have refused : ((m.processed o limit).map Declaration.configured).filterMap refusal? =
      ((m.discover.collisions o.registry).kept.filterMap Declaration.rejection?).map Prod.snd := by
    rw [processed_of_not_cancelled done, List.filterMap_map, List.map_filterMap]
    refine List.filterMap_congr fun d _ => ?_
    rw [Declaration.rejection?, Option.map_map]
    exact (Option.map_id' ..).symm
  have parts : (m.generate o limit).diagnostics =
      m.discover.diagnostics ++ (m.discover.collisions o.registry).diagnostics ++
        ((m.processed o limit).map Declaration.configured).filterMap refusal? := rfl
  rw [parts, discover_diagnostics_eq, refused, Collisions.diagnostics, rejections, List.map_append,
    List.map_append, List.map_map]
  simp only [List.append_assoc]
  exact (List.perm_append_comm.append_left _).append_left _

/-- The reports of a taken name are those of the items at the root that have it. -/
theorem length_clashes (m : Module) (o : Options) :
    (m.discover.collisions o.registry).clashes.length = m.registryTakers o := by
  have takers : (m.discover.names.filter fun n =>
      n.scope.isEmpty && n.name.bare == o.registry.name).length =
      (m.items.flatMap Item.names).countP fun n => n.bare == o.registry.name := by
    calc (m.discover.names.filter fun n => n.scope.isEmpty && n.name.bare == o.registry.name).length
      _ = ((m.discover.names.filter fun n => n.scope.isEmpty).filter fun n =>
          n.name.bare == o.registry.name).length := by
        rw [List.filter_filter]
        simp only [Bool.and_comm]
      _ = (m.items.flatMap Item.names).countP fun n => n.bare == o.registry.name := by
        rw [discover, filter_namesOfItems, ← List.countP_eq_length_filter, List.countP_map]
        rfl
  unfold Discovery.collisions findCollisions registryTakers
  dsimp only
  split
  · rfl
  · rw [List.length_map, takers]

/-- Every run that is not cancelled accounts once for the items with directives, for each exactly if
it does not pass through unread. -/
theorem accounting_exact {m : Module} {o : Options} {flag : Nat → Bool}
    (done : (m.run o flag).cancelled = false) :
    (∀ site ∈ m.marked, (m.run o flag).AccountsFor (m.rejections o) site ↔
      site.item.isVerbatim = false) ∧
    (m.run o flag).diagnostics.Perm
      ((m.rejections o).map Prod.snd ++ (m.discover.collisions o.registry).clashes) ∧
    (m.run o flag).diagnostics.length + (m.run o flag).implementations.length +
        (m.marked.filter fun site => site.item.isVerbatim).length =
      m.marked.length + m.registryTakers o := by
  obtain ⟨limit, same⟩ := exists_limit m o flag
  rw [same] at done ⊢
  have reports := diagnostics_perm done
  refine ⟨?_, reports, ?_⟩
  · intro site marked
    constructor
    · exact read_of_accountsFor done (mem_marked_iff.1 marked).1
    · intro read
      refine accountsFor_of_seen done ((seen_perm m).mem_iff.1 ?_)
      exact List.mem_filter.2 ⟨marked, by rw [read]; rfl⟩
  · have ends := (slots_perm done).length_eq
    have unread := List.length_eq_length_filter_add (l := m.marked) fun site =>
      site.item.isVerbatim
    rw [List.length_map, List.length_append, List.length_map, List.length_map,
      ← (seen_perm m).length_eq] at ends
    rw [reports.length_eq, List.length_append, List.length_map, length_clashes,
      Generation.implementations, List.length_map]
    omega

/-- One declaration that is refused, and one that is generated. -/
theorem two_accounted :
    let m := ofItems [.unitStruct [.directive .boundedReal] .everywhere "Rate",
      .unitStruct [.directive .identifier] .everywhere "OrderId"]
    let g := m.run .default fun _ => false
    g.cancelled = false ∧ g.diagnostics.length + g.implementations.length = 2 := by
  intro m g
  have done : g.cancelled = false := rfl
  have counted := (accounting_exact done).2.2
  have unread : (m.marked.filter fun site => site.item.isVerbatim).length = 0 := by
    decide +kernel
  have marked : m.marked.length + m.registryTakers .default = 2 := by decide +kernel
  rw [unread, marked, Nat.add_zero] at counted
  exact ⟨done, counted⟩

/-- A declared macro with a directive passes through unread: it is neither generated nor
reported. -/
theorem unread_not_accounted :
    let m := ofItems [.unreadMacro [.directive .identifier] "make"]
    let g := m.run .default fun _ => false
    g.cancelled = false ∧
      (∃ site ∈ m.marked, ¬ g.AccountsFor (m.rejections .default) site) ∧
      g.diagnostics.length + g.implementations.length ≠
        m.marked.length + m.registryTakers .default := by
  intro m g
  have run : g = m.generate .default none := run_of_unset fun _ _ => rfl
  have found : ⟨[], ⟨[], 0⟩, .unreadMacro [.directive .identifier] "make"⟩ ∈ m.sites :=
    List.mem_singleton_self _
  refine ⟨rfl, ⟨_, mem_marked_iff.2 ⟨found, by decide +kernel⟩, fun accounts => ?_⟩,
    by decide +kernel⟩
  rw [run] at accounts
  cases read_of_accountsFor cancelled_of_no_limit found accounts

end Module
end DomainValues
