import DomainValues.Proofs.Sites
import Mathlib.Data.List.Forall2

/-!
# What a module declares

A site declares a struct if its item is that struct, the struct has the shape of a declaration,
and its one directive can be read (`Site.Declares`).

Main statements:

* `Site.verdict?_eq_ok_iff`: the sites that declare something are those that give a declaration.
* `Module.declarations_inOrder`: if nothing is reported, the declarations are those of the sites
  with directives, in source order.
-/

namespace DomainValues

/-! ## Directives -/

/-- Whether an attribute is a directive: its path is a single name, the name of a kind. -/
def Attribute.isDirective (a : Attribute) : Bool :=
  a.name?.any fun i => (Kind.all.map Kind.directiveName).contains i.text

theorem Attribute.isSome_kind? (a : Attribute) : a.kind?.isSome = a.isDirective := by
  unfold Attribute.kind? Attribute.isDirective Kind.ofDirective?
  cases a.name? with
  | none => rfl
  | some i =>
      rw [Bool.eq_iff_iff, Option.bind_some, List.find?_isSome]
      simp only [Option.any_some, List.contains_iff_mem, List.mem_map, beq_iff_eq]

theorem Attribute.any_withoutDirectives (attributes : List Attribute) :
    (Attribute.withoutDirectives attributes).any Attribute.isDirective = false := by
  simp [Attribute.withoutDirectives, ← Attribute.isSome_kind?]

theorem Item.directives_eq_nil_iff {item : Item} :
    item.directives = [] ↔ item.attributes.any Attribute.isDirective = false := by
  simp only [Item.directives, List.filterMap_eq_nil_iff, Option.map_eq_none_iff,
    List.any_eq_false, ← Attribute.isSome_kind?, Option.not_isSome_iff_eq_none]

/-! ## Verdicts -/

namespace Site

theorem shapeFaults_eq_nil_iff {site : Site} {s : StructItem}
    {others : List (Attribute × Kind)} :
    site.shapeFaults s others = [] ↔
      others = [] ∧ s.fields.position? = none ∧ (s.generics = [] ∧ s.condition = none) ∧
        generatedDerive? s = none ∧ s.visibility.reaches site.scope.length = true := by
  simp [shapeFaults, and_assoc]

/-- The struct at a site has the shape of a declaration, and with its directive it is the
declaration. -/
structure Declares (site : Site) (s : StructItem) (d : Declaration) : Prop where
  /-- The struct stands there. -/
  item : site.item = .struct s
  /-- Nothing keeps it from being a declaration. -/
  shape : site.shapeFaults s [] = []
  /-- Its one directive can be read. -/
  directive : ∃ first, site.item.directives = [first] ∧
    Directive.ofAttribute first.2 first.1 = .ok d.directive
  /-- The declaration has the name of the struct. -/
  name : d.name = s.name
  /-- It stands in the same modules. -/
  scope : d.scope = site.scope
  /-- It is visible as the struct is. -/
  visibility : d.visibility = s.visibility
  /-- It keeps the other attributes. -/
  attributes : d.attributes = Attribute.withoutDirectives s.attributes
  /-- It has the same place. -/
  slot : d.slot = site.slot

theorem Declares.reaches {site : Site} {s : StructItem} {d : Declaration}
    (h : site.Declares s d) : s.visibility.reaches site.scope.length = true :=
  (shapeFaults_eq_nil_iff.1 h.shape).2.2.2.2

theorem ofStruct_eq_ok_iff {site : Site} {s : StructItem} {first : Attribute × Kind}
    {others : List (Attribute × Kind)} {d : Declaration} :
    site.ofStruct s first others = .ok d ↔
      site.shapeFaults s others = [] ∧ ∃ directive,
        Directive.ofAttribute first.2 first.1 = .ok directive ∧
          d = ⟨s.name, site.scope, directive, s.visibility,
            Attribute.withoutDirectives s.attributes, site.slot⟩ := by
  unfold ofStruct
  cases faults : site.shapeFaults s others with
  | cons fault rest => simp
  | nil =>
      cases read : Directive.ofAttribute first.2 first.1 with
      | error e => simp
      | ok directive => simp [eq_comm]

theorem verdict?_eq_ok_iff {site : Site} {d : Declaration} :
    site.verdict? = some (.ok d) ↔ ∃ s, site.Declares s d := by
  constructor
  · intro h
    unfold verdict? at h
    split at h
    · cases h
    case h_2 first others directives =>
      split at h
      case h_2 => cases h
      case h_1 s item =>
        obtain ⟨faults, directive, read, rfl⟩ := ofStruct_eq_ok_iff.1 (Option.some.inj h)
        obtain rfl := (shapeFaults_eq_nil_iff.1 faults).1
        exact ⟨s, item, faults, ⟨first, directives, read⟩, rfl, rfl, rfl, rfl, rfl⟩
  · rintro ⟨s, item, shape, ⟨first, directives, read⟩, rest⟩
    have ok : site.ofStruct s first [] = .ok d :=
      ofStruct_eq_ok_iff.2 ⟨shape, d.directive, read, by cases d; simp_all⟩
    rw [verdict?, directives]
    simp [item, ok]

theorem isSome_verdict? (site : Site) :
    site.verdict?.isSome = site.item.attributes.any Attribute.isDirective := by
  cases directives : site.item.directives with
  | nil =>
      rw [Item.directives_eq_nil_iff.1 directives]
      simp [verdict?, directives]
  | cons first others =>
      have marked : site.item.attributes.any Attribute.isDirective ≠ false := by
        intro none
        rw [Item.directives_eq_nil_iff.2 none] at directives
        cases directives
      rw [eq_true_of_ne_false marked]
      simp [verdict?, directives]

end Site

/-! ## Declarations and reports -/

namespace Module

theorem mem_declarations_iff {m : Module} {d : Declaration} :
    d ∈ m.discover.declarations ↔ ∃ site ∈ m.sites, ∃ s, site.Declares s d := by
  simp only [discover, verdicts, List.mem_filterMap, ← Site.verdict?_eq_ok_iff]
  constructor
  · rintro ⟨verdict, ⟨site, found, given⟩, ok⟩
    cases verdict with
    | error e => cases ok
    | ok d' => cases ok; exact ⟨site, found, given⟩
  · rintro ⟨site, found, given⟩
    exact ⟨.ok d, ⟨site, found, given⟩, rfl⟩

theorem mem_diagnostics_iff {m : Module} {report : Diagnostic} :
    report ∈ m.discover.diagnostics ↔
      ∃ site ∈ m.sites, site.verdict? = some (.error report) := by
  simp only [discover, verdicts, List.mem_filterMap]
  constructor
  · rintro ⟨verdict, ⟨site, found, given⟩, failed⟩
    cases verdict with
    | error e => cases failed; exact ⟨site, found, given⟩
    | ok d => cases failed
  · rintro ⟨site, found, given⟩
    exact ⟨.error report, ⟨site, found, given⟩, rfl⟩

/-- The accepted ones of some verdicts, next to the sites that have a verdict, if none is an
error. -/
theorem forall₂_accepted (sites : List Site)
    (accepted : ∀ site ∈ sites, ∀ report, site.verdict? ≠ some (.error report)) :
    List.Forall₂ (fun d site => ∃ s, site.Declares s d)
      ((sites.filterMap Site.verdict?).filterMap Except.toOption)
      (sites.filter fun site => site.verdict?.isSome) := by
  induction sites with
  | nil => exact .nil
  | cons site rest ih =>
      have tail := ih fun other found => accepted other (List.mem_cons_of_mem _ found)
      cases given : site.verdict? with
      | none => simpa [given] using tail
      | some verdict =>
          cases verdict with
          | error report => exact absurd given (accepted site List.mem_cons_self report)
          | ok d =>
              simp only [List.filterMap_cons, List.filter_cons, given, Option.isSome_some, if_true]
              exact .cons (Site.verdict?_eq_ok_iff.1 given) tail

/-- If nothing is reported, the declarations are those of the sites with directives, in source
order. -/
theorem declarations_inOrder {m : Module} (h : m.discover.diagnostics = []) :
    List.Forall₂ (fun d site => ∃ s, site.Declares s d) m.discover.declarations
      (m.inOrder.filter fun site => site.item.attributes.any Attribute.isDirective) := by
  have accepted : ∀ site ∈ m.sites, ∀ report, site.verdict? ≠ some (.error report) := by
    intro site found report failed
    have reported : report ∈ m.discover.diagnostics := mem_diagnostics_iff.2 ⟨site, found, failed⟩
    rw [h] at reported
    cases reported
  -- An inline module with a directive would have been reported.
  have noModule : ∀ site ∈ m.sites, site.verdict?.isSome = true →
      site.item.isInlineModule = false := by
    intro site found judged
    obtain ⟨verdict, given⟩ := Option.isSome_iff_exists.1 judged
    cases verdict with
    | error report => exact absurd given (accepted site found report)
    | ok d =>
        obtain ⟨s, declares⟩ := Site.verdict?_eq_ok_iff.1 given
        rw [declares.item]
        rfl
  let keep (site : Site) : Bool := site.verdict?.isSome && !site.item.isInlineModule
  have kept : ∀ site ∈ m.sites, site.verdict?.isSome = keep site := by
    intro site found
    cases judged : site.verdict?.isSome with
    | false => simp [keep, judged]
    | true => simp [keep, judged, noModule site found judged]
  have same : (m.sites.filter fun site => site.verdict?.isSome) =
      m.inOrder.filter fun site => site.item.attributes.any Attribute.isDirective := by
    calc (m.sites.filter fun site => site.verdict?.isSome)
      _ = m.sites.filter keep := List.filter_congr kept
      _ = m.inOrder.filter keep := m.filter_sites fun site inline => by simp [keep, inline]
      _ = m.inOrder.filter fun site => site.item.attributes.any Attribute.isDirective := by
        refine List.filter_congr fun site found => ?_
        rw [← kept site (mem_inOrder_iff.1 found), Site.isSome_verdict?]
  rw [← same]
  exact forall₂_accepted m.sites accepted

end Module

/-! ## Modules written out -/

/-- A directive without arguments. -/
def Attribute.directive (kind : Kind) : Attribute :=
  { position := .start
    inner := false
    path := ⟨.start, false, [⟨.plain kind.directiveName, .start⟩]⟩
    arguments := .none }

/-- A struct without fields. -/
def Item.unitStruct (attributes : List Attribute) (visibility : Visibility) (name : String) :
    Item :=
  .struct ⟨attributes, visibility, ⟨.plain name, .start⟩, [], none, .unit⟩

/-- A declared macro without rules, which passes through unread. -/
def Item.unreadMacro (attributes : List Attribute) (name : String) : Item :=
  .verbatim (Attribute.tokensAll attributes ++
    [.ofWord "macro", .ofWord name, .inGroup .parenthesis [], .inGroup .brace []])

/-- An inline module. -/
def Item.moduleOf (visibility : Visibility) (name : String) (items : List Item) : Item :=
  .inlineModule ⟨[], visibility, false, ⟨.plain name, .start⟩⟩ items

/-- A module to run a pass on. -/
def Module.ofItems (items : List Item) : Module :=
  ⟨⟨[], .inherited, false, ⟨.plain "domain", .start⟩⟩, some items⟩

end DomainValues
