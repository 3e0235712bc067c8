import DomainValues.Proofs.Cancellation

/-!
# What the root can name

The registration names every adapter by a path from the root.  Code at the root can name what a
path leads to if it sees the item, and every module on the way, from the module that the item or
the next module stands in (`Nameable`).

A pass admits a declaration by the visibility of the declaration itself, from the depth where it
stands (`Generation.OwnReach`).  It does not look at the modules around it, so a path can be named
exactly if no module on the way is hidden.

Main statements:

* `Visibility.reaches_iff`: the test of a pass decides what the root sees of one item.
* `Module.exists_heads`: the modules on the way to a site are those of its scope.
* `Module.reachability_exact`: what is registered and what is reported, and when all that is
  registered can be named.
-/

namespace DomainValues

/-! ## Single items -/

/-- The root sees an item of a visibility that stands so many modules below it.  A path other than
`self` and `super` is taken to lead to the root or above it. -/
inductive Visibility.SeenFromRoot : Visibility → Nat → Prop where
  /-- What stands at the root. -/
  | atRoot {v : Visibility} : SeenFromRoot v 0
  /-- What everyone sees. -/
  | everywhere {depth : Nat} : SeenFromRoot .everywhere depth
  /-- What the module around a module at the root sees. -/
  | above {path : NamePath} {spelled : Bool} :
      path.single? = some (.plain "super") → SeenFromRoot (.inside path spelled) 1
  /-- What the module of a path sees. -/
  | trusted {path : NamePath} {spelled : Bool} {depth : Nat} :
      path.single? ≠ some (.plain "self") → path.single? ≠ some (.plain "super") →
        SeenFromRoot (.inside path spelled) depth

namespace Visibility

theorem reaches_inside_iff {path : NamePath} {spelled : Bool} {depth : Nat} :
    (inside path spelled).reaches depth = true ↔
      depth = 0 ∨ path.single? ≠ some (.plain "self") ∧
        (path.single? = some (.plain "super") → depth = 1) := by
  simp only [reaches, Bool.or_eq_true, beq_iff_eq]
  cases path.single? with
  | none => simp
  | some i =>
      by_cases isSuper : i = .plain "super"
      · simp [isSuper, Ident.plain]
      · simp [isSuper]

/-- The test of a pass decides what the root sees of one item. -/
theorem reaches_iff {v : Visibility} {depth : Nat} :
    v.reaches depth = true ↔ v.SeenFromRoot depth := by
  cases v with
  | inherited =>
      constructor
      · intro reaches
        obtain rfl : depth = 0 := by simpa [Visibility.reaches] using reaches
        exact .atRoot
      · intro seen
        cases seen with
        | atRoot => rfl
  | everywhere => exact ⟨fun _ => .everywhere, fun _ => by simp [Visibility.reaches]⟩
  | inside path spelled =>
      rw [reaches_inside_iff]
      constructor
      · rintro (rfl | ⟨notSelf, ifSuper⟩)
        · exact .atRoot
        · by_cases isSuper : path.single? = some (.plain "super")
          · obtain rfl := ifSuper isSuper
            exact .above isSuper
          · exact .trusted notSelf isSuper
      · intro seen
        cases seen with
        | atRoot => exact .inl rfl
        | above isSuper =>
            refine .inr ⟨?_, fun _ => rfl⟩
            rw [isSuper]
            decide
        | trusted notSelf notSuper =>
            exact .inr ⟨notSelf, fun isSuper => absurd isSuper notSuper⟩

end Visibility

/-! ## Paths -/

/-- The root can name an item of a visibility that stands in modules, given from the outermost on.
The first of them stands at the root. -/
structure Nameable (heads : List ModuleHead) (v : Visibility) : Prop where
  /-- It sees the item. -/
  item : v.SeenFromRoot heads.length
  /-- It sees each module from where the module stands. -/
  modules : ∀ (depth : Nat) (head : ModuleHead), heads[depth]? = some head →
    head.visibility.SeenFromRoot depth

/-- The inline modules on the way down, given their indices. -/
def headsAlong? : List Item → List Nat → Option (List ModuleHead)
  | _, [] => some []
  | items, i :: down =>
      match items[i]? with
      | some (.inlineModule head inner) => (headsAlong? inner down).map fun below => head :: below
      | _ => none

theorem headsAlong?_of_siteBelow? {items : List Item} {scope : List Name} {passed down : List Nat}
    {index : Nat} {site : Site} (h : siteBelow? items scope passed down index = some site) :
    ∃ heads, headsAlong? items down = some heads ∧
      site.scope = scope ++ heads.map ModuleHead.name := by
  induction down generalizing items scope passed with
  | nil =>
      obtain ⟨item, -, rfl⟩ := Option.map_eq_some_iff.1 h
      exact ⟨[], rfl, (List.append_nil _).symm⟩
  | cons i down ih =>
      rw [siteBelow?] at h
      split at h
      case h_1 head inner found =>
        obtain ⟨heads, along, scope'⟩ := ih h
        refine ⟨head :: heads, ?_, ?_⟩
        · rw [headsAlong?, found]
          simp only [along, Option.map_some]
        · rw [scope', List.map_cons, List.append_assoc]
          rfl
      case h_2 => cases h

namespace Module

/-- The inline modules around a slot, from the outermost on. -/
def headsAt? (m : Module) (slot : Slot) : Option (List ModuleHead) :=
  headsAlong? m.items slot.modules

/-- The modules on the way to a site are those of its scope. -/
theorem exists_heads {m : Module} {site : Site} (h : site ∈ m.sites) :
    ∃ heads, m.headsAt? site.slot = some heads ∧ heads.map ModuleHead.name = site.scope := by
  obtain ⟨heads, along, scope⟩ := headsAlong?_of_siteBelow? (siteAt?_of_mem_sites h)
  exact ⟨heads, along, scope.symm⟩

end Module

/-! ## Declarations but for their place -/

namespace Site

/-- The struct at a site is a declaration if the root can name it. -/
structure Intends (site : Site) (s : StructItem) : Prop where
  /-- The struct stands there. -/
  item : site.item = .struct s
  /-- It has no fields. -/
  unit : s.fields.position? = none
  /-- It has no parameters and no conditions. -/
  closed : s.generics = [] ∧ s.condition = none
  /-- It derives nothing that is generated. -/
  derives : generatedDerive? s = none
  /-- Its one directive can be read. -/
  directive : ∃ first directive, site.item.directives = [first] ∧
    Directive.ofAttribute first.2 first.1 = .ok directive

/-- The report of a struct that the root does not see. -/
def unreachable (site : Site) (s : StructItem) : Diagnostic :=
  (ShapeFault.unreachable s.name.text (joinNames site.scope)).diagnostic s.name.position

variable {site : Site} {s : StructItem}

theorem Declares.intends {d : Declaration} (h : site.Declares s d) : site.Intends s := by
  obtain ⟨-, unit, closed, derives, -⟩ := shapeFaults_eq_nil_iff.1 h.shape
  obtain ⟨first, directives, read⟩ := h.directive
  exact ⟨h.item, unit, closed, derives, first, d.directive, directives, read⟩

theorem Intends.declares (h : site.Intends s)
    (seen : s.visibility.SeenFromRoot site.scope.length) : ∃ d, site.Declares s d := by
  obtain ⟨first, directive, directives, read⟩ := h.directive
  have shape : site.shapeFaults s [] = [] :=
    shapeFaults_eq_nil_iff.2 ⟨rfl, h.unit, h.closed, h.derives, Visibility.reaches_iff.2 seen⟩
  exact ⟨⟨s.name, site.scope, directive, s.visibility,
    Attribute.withoutDirectives s.attributes, site.slot⟩,
    h.item, shape, ⟨first, directives, read⟩, rfl, rfl, rfl, rfl, rfl⟩

theorem Intends.unreachable (h : site.Intends s)
    (unseen : ¬ s.visibility.SeenFromRoot site.scope.length) :
    site.verdict? = some (.error (site.unreachable s)) := by
  obtain ⟨first, directive, directives, -⟩ := h.directive
  rw [← Visibility.reaches_iff, Bool.not_eq_true] at unseen
  have faults : site.shapeFaults s [] =
      [(.unreachable s.name.text (joinNames site.scope), s.name.position)] := by
    simp [shapeFaults, h.unit, h.closed.1, h.closed.2, h.derives, unseen]
  have failed : site.ofStruct s first [] = .error (site.unreachable s) := by
    rw [ofStruct, faults]
    rfl
  rw [verdict?, directives]
  simp only [h.item, failed]

end Site

/-! ## Passes -/

/-- An entry of a registration leads through the inline modules around a product to the adapter that
is generated there, with the visibility of the declaration. -/
structure RegistrationEntry.LeadsTo (entry : RegistrationEntry) (m : Module) (p : Product)
    (heads : List ModuleHead) : Prop where
  /-- These are the modules. -/
  along : m.headsAt? p.declaration.slot = some heads
  /-- The entry names them, and then the adapter. -/
  adapter : entry.adapter =
    .path .root (heads.map (fun head => head.name.ident) ++ [p.adapter.name])
  /-- The adapter is a type of that visibility. -/
  type : ∃ doc derives, .struct [] doc derives p.declaration.visibility p.adapter.name none ∈
    p.adapter.code

/-- A pass admits what the root sees by its own visibility, whatever the modules around it are, and
reports the rest. -/
structure Generation.OwnReach (g : Generation) (m : Module) : Prop where
  /-- An entry leads to an adapter with a visibility that reaches the root from where it stands.
  The root can name it exactly if the modules on the way reach the root too. -/
  registered : ∀ r, g.registration = some r → ∀ entry ∈ r.entries, ∃ p ∈ g.products, ∃ heads,
    entry.LeadsTo m p heads ∧ p.declaration.visibility.SeenFromRoot heads.length ∧
      (Nameable heads p.declaration.visibility ↔ ∀ (depth : Nat) (head : ModuleHead),
        heads[depth]? = some head → head.visibility.SeenFromRoot depth)
  /-- A struct with the form of a declaration that the root sees is one. -/
  declared : ∀ site ∈ m.sites, ∀ s, site.Intends s →
    s.visibility.SeenFromRoot site.scope.length →
      ∃ d ∈ m.discover.declarations, site.Declares s d ∧ site.verdict? = some (.ok d)
  /-- One that the root does not see is reported and not generated. -/
  reported : ∀ site ∈ m.sites, ∀ s, site.Intends s →
    ¬ s.visibility.SeenFromRoot site.scope.length →
      site.verdict? = some (.error (site.unreachable s)) ∧ site.unreachable s ∈ g.diagnostics ∧
        ∀ p ∈ g.products, p.declaration.slot ≠ site.slot

/-- All that a pass over a module registers can be named by code at the root, and what cannot be
named is reported and not generated. -/
structure Generation.Reachable (g : Generation) (m : Module) : Prop where
  /-- The root can name what an entry leads to. -/
  registered : ∀ r, g.registration = some r → ∀ entry ∈ r.entries, ∃ p ∈ g.products, ∃ heads,
    entry.LeadsTo m p heads ∧ Nameable heads p.declaration.visibility
  /-- A struct that is a declaration but cannot be named is reported and not generated. -/
  reported : ∀ site ∈ m.sites, ∀ s, site.Intends s → ∀ heads, m.headsAt? site.slot = some heads →
    ¬ Nameable heads s.visibility →
      site.verdict? = some (.error (site.unreachable s)) ∧ site.unreachable s ∈ g.diagnostics ∧
        ∀ p ∈ g.products, p.declaration.slot ≠ site.slot

/-- A declaration that the root sees stands in a module that the root does not see. -/
def Module.HidesDeclaration (m : Module) : Prop :=
  ∃ site ∈ m.sites, ∃ s d, site.Declares s d ∧ ∃ heads, m.headsAt? site.slot = some heads ∧
    ∃ (depth : Nat) (head : ModuleHead), heads[depth]? = some head ∧
      ¬ head.visibility.SeenFromRoot depth

theorem Product.Made.adapter_struct {o : Options} {p : Product} (h : p.Made o) :
    ∃ doc derives, .struct [] doc derives p.declaration.visibility p.adapter.name none ∈
      p.adapter.code := by
  rw [h.adapter]
  exact ⟨_, _, List.mem_append_right _ List.mem_cons_self⟩

namespace Module

variable {m : Module} {o : Options} {limit : Option Nat}

/-- An entry leads to a product, at the site of its declaration. -/
theorem exists_product_of_entry {r : Registration}
    (registered : (m.generate o limit).registration = some r) {entry : RegistrationEntry}
    (listed : entry ∈ r.entries) :
    ∃ p ∈ (m.generate o limit).products, ∃ site ∈ m.sites, ∃ s heads,
      site.Declares s p.declaration ∧ entry.LeadsTo m p heads ∧
        p.declaration.visibility.SeenFromRoot heads.length := by
  have ofProduct := (registration_eq_some registered).2.2.mem_iff.1 listed
  obtain ⟨p, produced, rfl⟩ := List.mem_map.1 ofProduct
  have made := (mem_products produced).2
  obtain ⟨site, found, s, declares⟩ := exists_site_of_product produced
  obtain ⟨heads, along, scope⟩ := exists_heads found
  refine ⟨p, produced, site, found, s, heads, declares, ⟨?_, ?_, made.adapter_struct⟩, ?_⟩
  · rw [declares.slot]
    exact along
  · rw [Registration.entryOf, Adapter.path, made.adapter_scope, declares.scope, ← scope,
      List.map_map]
    rfl
  · rw [declares.visibility, ← List.length_map (f := ModuleHead.name), scope]
    exact Visibility.reaches_iff.1 declares.reaches

/-- What the root does not see by its own visibility is reported and not generated. -/
theorem reported_of_unseen {site : Site} (found : site ∈ m.sites) {s : StructItem}
    (intends : site.Intends s) (unseen : ¬ s.visibility.SeenFromRoot site.scope.length) :
    site.verdict? = some (.error (site.unreachable s)) ∧
      site.unreachable s ∈ (m.generate o limit).diagnostics ∧
        ∀ p ∈ (m.generate o limit).products, p.declaration.slot ≠ site.slot := by
  have failed := intends.unreachable unseen
  have reported : site.unreachable s ∈ m.discover.diagnostics :=
    mem_diagnostics_iff.2 ⟨site, found, failed⟩
  refine ⟨failed, mem_diagnostics_of_discover reported, fun p produced sameSlot => ?_⟩
  obtain ⟨site', found', s', declares⟩ := exists_site_of_product produced
  obtain rfl := site_ext found' found (declares.slot.symm.trans sameSlot)
  rw [Site.verdict?_eq_ok_iff.2 ⟨s', declares⟩] at failed
  cases failed

theorem ownReach_generate : (m.generate o limit).OwnReach m where
  registered r registered entry listed := by
    obtain ⟨p, produced, -, -, -, heads, -, leads, seen⟩ :=
      exists_product_of_entry registered listed
    exact ⟨p, produced, heads, leads, seen, Nameable.modules, fun modules => ⟨seen, modules⟩⟩
  declared site found s intends seen := by
    obtain ⟨d, declares⟩ := intends.declares seen
    exact ⟨d, mem_declarations_iff.2 ⟨site, found, s, declares⟩, declares,
      Site.verdict?_eq_ok_iff.2 ⟨s, declares⟩⟩
  reported _ found _ intends unseen := reported_of_unseen found intends unseen

theorem nameable_of_not_hidden (h : ¬ m.HidesDeclaration) {site : Site} (found : site ∈ m.sites)
    {s : StructItem} {d : Declaration} (declares : site.Declares s d) {heads : List ModuleHead}
    (along : m.headsAt? site.slot = some heads) : Nameable heads s.visibility := by
  obtain ⟨heads', along', scope⟩ := exists_heads found
  obtain rfl := Option.some.inj (along.symm.trans along')
  refine ⟨?_, fun depth head at' => ?_⟩
  · rw [← List.length_map (f := ModuleHead.name), scope]
    exact Visibility.reaches_iff.1 declares.reaches
  · by_contra unseen
    exact h ⟨site, found, s, d, declares, heads, along, depth, head, at', unseen⟩

/-- All that is registered can be named, and all else is reported, exactly if no declaration stands
in a hidden module. -/
theorem reachable_iff : (m.generate o limit).Reachable m ↔ ¬ m.HidesDeclaration := by
  constructor
  · rintro reachable ⟨site, found, s, d, declares, heads, along, depth, head, at', unseen⟩
    have failed := (reachable.reported site found s declares.intends heads along
      fun nameable => unseen (nameable.modules depth head at')).1
    rw [Site.verdict?_eq_ok_iff.2 ⟨s, declares⟩] at failed
    cases failed
  · intro notHidden
    refine ⟨?_, ?_⟩
    · intro r registered entry listed
      obtain ⟨p, produced, site, found, s, heads, declares, leads, -⟩ :=
        exists_product_of_entry registered listed
      refine ⟨p, produced, heads, leads, ?_⟩
      rw [declares.visibility]
      exact nameable_of_not_hidden notHidden found declares (declares.slot ▸ leads.along)
    · intro site found s intends heads along notNameable
      refine reported_of_unseen found intends fun seen => ?_
      obtain ⟨d, declares⟩ := intends.declares seen
      exact notNameable (nameable_of_not_hidden notHidden found declares along)

/-- A run admits declarations by their own visibility.  All that it registers can be named from the
root exactly if no declaration stands in a hidden module. -/
theorem reachability_exact (m : Module) (o : Options) (flag : Nat → Bool) :
    (m.run o flag).OwnReach m ∧ ((m.run o flag).Reachable m ↔ ¬ m.HidesDeclaration) := by
  obtain ⟨limit, same⟩ := exists_limit m o flag
  rw [same]
  exact ⟨ownReach_generate, reachable_iff⟩

/-- A declaration that everyone sees may stand in a module that the root does not see. -/
theorem private_module_not_reachable :
    let m := ofItems [.moduleOf .inherited "outer" [.moduleOf .inherited "inner"
      [.unitStruct [.directive .identifier] .everywhere "OrderId"]]]
    let g := m.generate .default none
    g.cancelled = false ∧ g.diagnostics = [] ∧ g.registration.isSome = true ∧ ¬ g.Reachable m := by
  intro m g
  have some : g.registration.isSome = true := isSome_registration.2 ⟨rfl, List.cons_ne_nil _ _⟩
  refine ⟨rfl, rfl, some, fun reachable => ?_⟩
  obtain ⟨r, registered⟩ := Option.isSome_iff_exists.1 some
  have listed := (registration_eq_some registered).2.2.mem_iff.2 List.mem_cons_self
  obtain ⟨p, produced, heads, leads, nameable⟩ := reachable.registered r registered _ listed
  cases List.mem_singleton.1 produced
  cases Option.some.inj leads.along
  cases nameable.modules 1 _ rfl

end Module
end DomainValues
