import DomainValues.Proofs.Completeness
import Mathlib.Data.Nat.Find

/-!
# Runs that are cancelled

A run looks at the cancellation flag before each declaration that collides with nothing.  It
handles those before the first check that shows the flag set, and what it handles adds up to what a
limited pass produces (`Module.run_of_unset`, `Module.run_of_set`).

What passes through unread keeps its directives, so a stopped run returns the module without its
directives exactly if none is hidden there (`Module.cleared_eq_iff`).

Main statement: `Module.cancellation_exact`.  A run that sees the flag generates and registers
nothing, and of the items it only removes the directives that it looks at; what it reports for the
declarations handled before stays.  A run that does not see the flag is as a run without one.
-/

namespace DomainValues

/-! ## Declarations one by one -/

namespace Progress

variable {o : Options} {flag : Nat → Bool} {check : Nat}

/-- The declarations that are handled add what they give, each in its turn. -/
theorem foldl_step (g : Progress) (declarations : List Declaration) :
    declarations.foldl (step o) g =
      { g with
        products := g.products ++ (declarations.map Declaration.configured).filterMap (product? o)
        refusals := g.refusals ++ (declarations.map Declaration.configured).filterMap refusal?
        events := g.events ++ (declarations.map Declaration.configured).map eventOf } := by
  induction declarations generalizing g with
  | nil => simp
  | cons d rest ih =>
      rw [List.foldl_cons, ih]
      cases given : product? o d.configured <;> cases refused : refusal? d.configured <;>
        simp [step, add, given, refused]

/-- While the flag is not set, declarations are handled. -/
theorem handle_append {first : List Declaration} (g : Progress) (rest : List Declaration)
    (unset : ∀ i < first.length, flag (check + i) = false) :
    handle o flag check g (first ++ rest) =
      handle o flag (check + first.length) (first.foldl (step o) g) rest := by
  induction first generalizing check g with
  | nil => rfl
  | cons d first ih =>
      have now : flag check = false := unset 0 (Nat.zero_lt_succ _)
      have later : ∀ i < first.length, flag (check + 1 + i) = false := by
        intro i less
        rw [Nat.add_assoc, Nat.add_comm 1 i]
        exact unset (i + 1) (Nat.succ_lt_succ less)
      rw [List.cons_append, handle, if_neg (ne_true_of_eq_false now), ih _ later, List.foldl_cons,
        List.length_cons, Nat.add_assoc, Nat.add_comm 1]

theorem handle_of_unset {declarations : List Declaration} (g : Progress)
    (unset : ∀ i < declarations.length, flag (check + i) = false) :
    handle o flag check g declarations = declarations.foldl (step o) g := by
  have handled := handle_append (o := o) g [] unset
  rwa [List.append_nil] at handled

/-- A flag that is set before one of the declarations keeps that one and the later ones from being
handled. -/
theorem handle_of_set {declarations : List Declaration} (g : Progress) {n : Nat}
    (less : n < declarations.length) (unset : ∀ i < n, flag (check + i) = false)
    (set : flag (check + n) = true) :
    handle o flag check g declarations =
      { (declarations.take n).foldl (step o) g with cancelled := true } := by
  have length : (declarations.take n).length = n := List.length_take_of_le (Nat.le_of_lt less)
  calc handle o flag check g declarations
    _ = handle o flag check g (declarations.take n ++ declarations.drop n) := by
      rw [List.take_append_drop]
    _ = handle o flag (check + n) ((declarations.take n).foldl (step o) g)
          (declarations.drop n) := by
      rw [handle_append g _ (length.symm ▸ unset), length]
    _ = { (declarations.take n).foldl (step o) g with cancelled := true } := by
      rw [List.drop_eq_getElem_cons less, handle, if_pos set]

end Progress

/-! ## Runs and limited passes -/

namespace Module

variable {m : Module} {o : Options} {flag : Nat → Bool}

/-- A run that handles the declarations of a limited pass, and sees the flag if that pass is
cancelled, produces the same. -/
theorem run_eq_generate {limit : Option Nat}
    (handled : Progress.start.handle o flag 0 (m.discover.collisions o.registry).kept =
      { (m.processed o limit).foldl (Progress.step o) .start with
        cancelled := (m.generate o limit).cancelled }) :
    m.run o flag = m.generate o limit := by
  rw [Progress.foldl_step] at handled
  -- A cancelled pass has no adapters to register.
  have registered (stopped available : Bool) (products : List Product) :
      (if stopped || !available then none
        else Registration.ofAdapters? o ((if stopped then [] else products).map Product.adapter)) =
      if available then
        Registration.ofAdapters? o ((if stopped then [] else products).map Product.adapter)
      else none := by
    cases stopped <;> cases available <;> simp [Registration.ofAdapters?_nil]
  unfold run finish
  dsimp only
  rw [handled]
  simp only [registered]
  rfl

theorem cancelled_of_limit {n : Nat} (less : n < (m.discover.collisions o.registry).kept.length) :
    (m.generate o (some n)).cancelled = true := by
  rw [cancelled_iff, processed, List.length_take]
  omega

theorem cancelled_of_no_limit : (m.generate o none).cancelled = false :=
  decide_eq_false (Nat.lt_irrefl _)

theorem run_of_unset
    (unset : ∀ i < (m.discover.collisions o.registry).kept.length, flag i = false) :
    m.run o flag = m.generate o none := by
  refine run_eq_generate ?_
  have all : m.processed o none = (m.discover.collisions o.registry).kept := rfl
  rw [Progress.handle_of_unset _ (by simpa using unset), cancelled_of_no_limit, all,
    Progress.foldl_step]
  rfl

theorem run_of_set {n : Nat} (less : n < (m.discover.collisions o.registry).kept.length)
    (unset : ∀ i < n, flag i = false) (set : flag n = true) :
    m.run o flag = m.generate o (some n) := by
  refine run_eq_generate ?_
  rw [Progress.handle_of_set _ less (by simpa using unset) (by simpa using set),
    cancelled_of_limit less]
  rfl

/-- A run that sees the flag is a limited pass. -/
theorem exists_limit_of_set
    (seen : ∃ n, n < (m.discover.collisions o.registry).kept.length ∧ flag n = true) :
    ∃ n < (m.discover.collisions o.registry).kept.length, m.run o flag = m.generate o (some n) := by
  obtain ⟨less, set⟩ := Nat.find_spec seen
  refine ⟨Nat.find seen, less, run_of_set less (fun i below => ?_) set⟩
  exact Bool.eq_false_iff.2 fun set' => Nat.find_min seen below ⟨Nat.lt_trans below less, set'⟩

/-- A run that is not cancelled does not see the flag. -/
theorem unset_of_done (done : (m.run o flag).cancelled = false) :
    ∀ i < (m.discover.collisions o.registry).kept.length, flag i = false := by
  intro i less
  refine Bool.eq_false_iff.2 fun set => ?_
  obtain ⟨n, less, stopped⟩ := exists_limit_of_set ⟨i, less, set⟩
  rw [stopped, cancelled_of_limit less] at done
  cases done

/-- What a run produces, a limited pass does. -/
theorem exists_limit (m : Module) (o : Options) (flag : Nat → Bool) :
    ∃ limit, m.run o flag = m.generate o limit := by
  by_cases seen : ∃ n, n < (m.discover.collisions o.registry).kept.length ∧ flag n = true
  · obtain ⟨n, -, same⟩ := exists_limit_of_set seen
    exact ⟨some n, same⟩
  · refine ⟨none, run_of_unset fun i less => ?_⟩
    exact Bool.eq_false_iff.2 fun set => seen ⟨i, less, set⟩

end Module

/-! ## Attributes without directives -/

namespace Attribute

/-- The outer attributes at the start of a row, but for the directives, and what follows them. -/
def dropDirectives? : List Token → Option (List Token)
  | .mark '#' joint p :: .group .bracket content opens closes :: rest => do
      let first ← ofContent? p false content
      let kept ← dropDirectives? rest
      pure (if first.isDirective then kept
        else .mark '#' joint p :: .group .bracket content opens closes :: kept)
  | .mark '#' _ _ :: _ => none
  | tokens => some tokens

theorem dropDirectives?_eq_none {tokens : List Token} (h : readOuter? tokens = none) :
    dropDirectives? tokens = none := by
  induction tokens using readOuter?.induct with
  | case1 joint p content opens closes after ih =>
      rw [readOuter?] at h
      rw [dropDirectives?]
      cases read : ofContent? p false content with
      | none => rfl
      | some first =>
          rw [read, Option.bind_eq_bind, Option.bind_some] at h
          cases others : readOuter? after with
          | none =>
              rw [ih others]
              rfl
          | some found =>
              rw [others] at h
              cases h
  | case2 p joint rest other =>
      rw [dropDirectives?]
      exact other
  | case3 tokens other other' =>
      rw [readOuter?] at h
      · cases h
      · exact other
      · exact other'

/-- Dropping reads the attributes, and the others are read again from what it leaves. -/
theorem dropDirectives?_of_readOuter? {tokens rest : List Token} {attributes : List Attribute}
    (h : readOuter? tokens = some (attributes, rest)) :
    ∃ kept, dropDirectives? tokens = some kept ∧
      readOuter? kept = some (withoutDirectives attributes, rest) ∧
        (attributes.any isDirective = false → kept = tokens) := by
  induction tokens using readOuter?.induct generalizing attributes rest with
  | case1 joint p content opens closes after ih =>
      rw [readOuter?] at h
      obtain ⟨first, read, h⟩ := Option.bind_eq_some_iff.1 h
      obtain ⟨⟨more, rest'⟩, others, h⟩ := Option.bind_eq_some_iff.1 h
      cases h
      obtain ⟨kept, dropped, again, untouched⟩ := ih others
      have step : dropDirectives? (.mark '#' joint p :: .group .bracket content opens closes ::
          after) = some (if first.isDirective then kept
            else .mark '#' joint p :: .group .bracket content opens closes :: kept) := by
        rw [dropDirectives?, read, dropped]
        rfl
      have isNone : first.kind?.isNone = !first.isDirective := by
        rw [← isSome_kind?, Option.not_isSome]
      refine ⟨_, step, ?_, ?_⟩
      · cases directive : first.isDirective with
        | true =>
            rw [if_pos rfl, again, withoutDirectives, withoutDirectives, List.filter_cons_of_neg]
            simp [isNone, directive]
        | false =>
            rw [if_neg (by decide), readOuter?, read, again, withoutDirectives, withoutDirectives,
              List.filter_cons_of_pos]
            · rfl
            · simp [isNone, directive]
      · intro unmarked
        rw [List.any_cons, Bool.or_eq_false_iff] at unmarked
        rw [unmarked.1, untouched unmarked.2, if_neg (by decide)]
  | case2 p joint rest other =>
      rw [readOuter?] at h
      · cases h
      · exact other
  | case3 tokens other other' =>
      rw [readOuter?] at h
      · cases h
        refine ⟨tokens, ?_, ?_, fun _ => rfl⟩
        · rw [dropDirectives?]
          · exact other
          · exact other'
        · rw [readOuter?]
          · rfl
          · exact other
          · exact other'
      · exact other
      · exact other'

end Attribute

/-! ## Items without directives -/

mutual

/-- An item without directives, and so are the items in it.  What passes through unread has its
attributes in its tokens. -/
def Item.withoutDirectives : Item → Item
  | .inlineModule head items =>
      .inlineModule { head with attributes := Attribute.withoutDirectives head.attributes }
        (Item.allWithoutDirectives items)
  | .struct s => .struct { s with attributes := Attribute.withoutDirectives s.attributes }
  | .plain p => .plain { p with attributes := Attribute.withoutDirectives p.attributes }
  | .verbatim tokens => .verbatim ((Attribute.dropDirectives? tokens).getD tokens)
  | .generated code => .generated code

/-- Items without directives. -/
def Item.allWithoutDirectives : List Item → List Item
  | [] => []
  | item :: rest => item.withoutDirectives :: Item.allWithoutDirectives rest

end

/-- A module whose items have no directives.  Its own attributes stay. -/
def Module.withoutDirectives (m : Module) : Module :=
  { m with items? := m.items?.map Item.allWithoutDirectives }

mutual

/-- An item without the directives that a pass looks at, and so are the items in it. -/
def Item.cleared : Item → Item
  | .inlineModule head items =>
      .inlineModule { head with attributes := Attribute.withoutDirectives head.attributes }
        (Item.allCleared items)
  | .struct s => .struct { s with attributes := Attribute.withoutDirectives s.attributes }
  | .plain p => .plain { p with attributes := Attribute.withoutDirectives p.attributes }
  | .verbatim tokens => .verbatim tokens
  | .generated code => .generated code

/-- Items without the directives that a pass looks at. -/
def Item.allCleared : List Item → List Item
  | [] => []
  | item :: rest => item.cleared :: Item.allCleared rest

end

/-- A module whose items are without the directives that a pass looks at. -/
def Module.cleared (m : Module) : Module := { m with items? := m.items?.map Item.allCleared }

mutual

/-- If nothing is generated, only directives go. -/
theorem substituteItem_none (modules : List Nat) (index : Nat) : (item : Item) →
    substituteItem (fun _ => none) modules index item = item.cleared
  | .inlineModule head items => by
      rw [substituteItem, Item.cleared, substituteItems_none (modules ++ [index]) 0 items]
  | .struct _ | .plain _ | .verbatim _ | .generated _ => by
      rw [substituteItem, Item.cleared]

theorem substituteItems_none (modules : List Nat) (index : Nat) : (items : List Item) →
    substituteItems (fun _ => none) modules index items = Item.allCleared items
  | [] => by rw [substituteItems, Item.allCleared]
  | item :: rest => by
      rw [substituteItems, Item.allCleared, substituteItem_none modules index item,
        substituteItems_none modules (index + 1) rest]

end

namespace Item

/-- What passes through unread stays as it is without directives exactly if it carries none. -/
theorem withoutDirectives_verbatim {tokens : List Token} :
    (verbatim tokens).withoutDirectives = verbatim tokens ↔
      (verbatim tokens).isMarked = false := by
  rw [withoutDirectives, isMarked, writtenAttributes]
  cases read : Attribute.readOuter? tokens with
  | none =>
      have unread : Attribute.dropDirectives? tokens = none :=
        Attribute.dropDirectives?_eq_none read
      simp [unread]
  | some found =>
      obtain ⟨attributes, rest⟩ := found
      obtain ⟨kept, dropped, again, untouched⟩ := Attribute.dropDirectives?_of_readOuter? read
      rw [dropped, Option.getD_some, Option.map_some, Option.getD_some]
      constructor
      · intro same
        cases same
        have kept : attributes = Attribute.withoutDirectives attributes := by
          simpa using congrArg (Option.map Prod.fst) (read.symm.trans again)
        rw [kept]
        exact Attribute.any_withoutDirectives _
      · exact fun unmarked => congrArg verbatim (untouched unmarked)

/-- Without its directives, an item carries none. -/
theorem isMarked_withoutDirectives (item : Item) : item.withoutDirectives.isMarked = false := by
  cases item with
  | inlineModule _ _ | struct _ | plain _ =>
      rw [withoutDirectives]
      exact Attribute.any_withoutDirectives _
  | generated code => rfl
  | verbatim tokens =>
      rw [withoutDirectives, isMarked, writtenAttributes]
      cases read : Attribute.readOuter? tokens with
      | none =>
          rw [Attribute.dropDirectives?_eq_none read, Option.getD_none, read]
          rfl
      | some found =>
          obtain ⟨kept, dropped, again, -⟩ := Attribute.dropDirectives?_of_readOuter? read
          rw [dropped, Option.getD_some, again]
          exact Attribute.any_withoutDirectives _

end Item

/-- An item that passes through unread and carries a directive. -/
def Site.Hides (site : Site) : Prop := site.item.isVerbatim = true ∧ site.item.isMarked = true

mutual

/-- The directives that a pass looks at are all that there are exactly if none is hidden. -/
theorem cleared_eq_iff_of_item (scope : List Name) (modules : List Nat) (index : Nat) :
    (item : Item) → (item.cleared = item.withoutDirectives ↔
      ∀ site ∈ sitesOfItem scope modules index item, ¬ site.Hides)
  | .inlineModule head items => by
      have inside := cleared_eq_iff_of_items (scope ++ [head.name]) (modules ++ [index]) 0 items
      have shown : ¬ (⟨scope, ⟨modules, index⟩, .inlineModule head items⟩ : Site).Hides := nofun
      rw [Item.cleared, Item.withoutDirectives, sitesOfItem, List.forall_mem_append,
        List.forall_mem_singleton, Item.inlineModule.injEq, eq_self_iff_true, true_and, inside]
      exact (and_iff_left shown).symm
  | .struct _ | .plain _ | .generated _ => by
      rw [Item.cleared, Item.withoutDirectives, sitesOfItem, List.forall_mem_singleton]
      · exact iff_of_true rfl nofun
      · nofun
  | .verbatim tokens => by
      rw [Item.cleared, sitesOfItem, List.forall_mem_singleton, eq_comm,
        Item.withoutDirectives_verbatim]
      · simp [Site.Hides, Item.isVerbatim]
      · nofun

theorem cleared_eq_iff_of_items (scope : List Name) (modules : List Nat) (index : Nat) :
    (items : List Item) → (Item.allCleared items = Item.allWithoutDirectives items ↔
      ∀ site ∈ sitesOfItems scope modules index items, ¬ site.Hides)
  | [] => iff_of_true rfl nofun
  | item :: rest => by
      rw [Item.allCleared, Item.allWithoutDirectives, sitesOfItems, List.forall_mem_append,
        List.cons.injEq, cleared_eq_iff_of_item scope modules index item,
        cleared_eq_iff_of_items scope modules (index + 1) rest]

end

theorem Module.cleared_eq_iff {m : Module} : m.cleared = m.withoutDirectives ↔
    ¬ m.HidesDirective := by
  have below := cleared_eq_iff_of_items [] [] 0 m.items
  have hidden : (∀ site ∈ m.sites, ¬ site.Hides) ↔ ¬ m.HidesDirective := by
    simp [HidesDirective, Site.Hides]
  rw [← hidden, sites, ← below, cleared, withoutDirectives, Module.mk.injEq, items]
  cases m.items? with
  | none => exact iff_of_true ⟨rfl, rfl⟩ rfl
  | some items => simp

/-! ## Cancelled runs -/

namespace Module

variable {m : Module} {o : Options} {limit : Option Nat}

theorem registration_of_cancelled (stopped : (m.generate o limit).cancelled = true) :
    (m.generate o limit).registration = none := by
  rw [registration_eq, products_of_cancelled stopped, List.map_nil, Registration.ofAdapters?_nil,
    ite_self]

theorem module_of_cancelled (stopped : (m.generate o limit).cancelled = true) :
    (m.generate o limit).module = m.cleared := by
  have items : itemsAfter [] none = Item.allCleared := by
    funext items
    rw [itemsAfter, Option.map_none, Option.toList_none, List.append_nil]
    exact substituteItems_none [] 0 items
  have after : (m.generate o limit).module = { m with
      items? := m.items?.map (itemsAfter (m.generate o limit).products
        (m.generate o limit).registration) } := rfl
  rw [after, products_of_cancelled stopped, registration_of_cancelled stopped, items]
  rfl

/-- A run that sees the flag before one of the declarations that it would handle, after `n` of
them, generates nothing: of the module it only takes the directives that it looks at, which are all
exactly if no item that passes through unread carries one, and it reports what was found, what
collides, and why the first `n` are refused.  Otherwise the run is as one without a flag. -/
theorem cancellation_exact (m : Module) (o : Options) (flag : Nat → Bool) :
    let c := m.discover.collisions o.registry
    let g := m.run o flag
    (∀ n < c.kept.length, (∀ i < n, flag i = false) → flag n = true →
      g.cancelled = true ∧ g.implementations = [] ∧ g.adapters = [] ∧ g.registration = none ∧
        g.module = m.cleared ∧ (g.module = m.withoutDirectives ↔ ¬ m.HidesDirective) ∧
          g.diagnostics = m.discover.diagnostics ++ c.diagnostics ++
            (c.kept.take n).filterMap fun d => refusal? d.configured) ∧
    ((∀ i < c.kept.length, flag i = false) →
      g.cancelled = false ∧ g = m.run o fun _ => false) := by
  intro c g
  constructor
  · intro n less unset set
    have run : g = m.generate o (some n) := run_of_set less unset set
    have stopped : (m.generate o (some n)).cancelled = true := cancelled_of_limit less
    have none : (m.generate o (some n)).products = [] := products_of_cancelled stopped
    have module : (m.generate o (some n)).module = m.cleared := module_of_cancelled stopped
    rw [run]
    refine ⟨stopped, ?_, ?_, registration_of_cancelled stopped, module, ?_, ?_⟩
    · rw [Generation.implementations, none, List.map_nil]
    · rw [Generation.adapters, none, List.map_nil]
    · rw [module, cleared_eq_iff]
    · rw [← Function.comp_def, ← List.filterMap_map]
      rfl
  · intro unset
    have run : g = m.generate o none := run_of_unset unset
    refine ⟨?_, run.trans (run_of_unset fun _ _ => rfl).symm⟩
    rw [run]
    exact cancelled_of_no_limit

/-- Two declarations, and a flag that is set after the first. -/
theorem stopped_after_first :
    let m := ofItems [.unitStruct [.directive .boundedReal] .everywhere "Rate",
      .unitStruct [.directive .identifier] .everywhere "OrderId"]
    let g := m.run .default fun i => decide (1 ≤ i)
    g.cancelled = true ∧ g.module = m.withoutDirectives ∧ g.diagnostics.length = 1 := by
  intro m g
  obtain ⟨stopped, -, -, -, -, module, reports⟩ :=
    (cancellation_exact m .default fun i => decide (1 ≤ i)).1 1 (by decide) (by decide) rfl
  exact ⟨stopped, module.2 (by decide), by rw [reports]; rfl⟩

/-- A flag that is set from the start, and a declared macro: its directive stays. -/
theorem stopped_keeps_directive :
    let m := ofItems [.unreadMacro [.directive .identifier] "make",
      .unitStruct [.directive .identifier] .everywhere "OrderId"]
    let g := m.run .default fun _ => true
    g.cancelled = true ∧ g.module ≠ m.withoutDirectives ∧
      ∃ site ∈ g.module.sites, site.item.isMarked = true := by
  intro m g
  have run : g = m.generate .default (some 0) := run_of_set (by decide) nofun rfl
  have stopped : (m.generate .default (some 0)).cancelled = true := rfl
  refine ⟨rfl, ?_, by decide +kernel⟩
  rw [run, module_of_cancelled stopped, ne_eq, cleared_eq_iff, not_not]
  decide

end Module
end DomainValues
