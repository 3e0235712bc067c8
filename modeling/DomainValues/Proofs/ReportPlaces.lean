import DomainValues.Proofs.Accounting
import DomainValues.Proofs.ErrorPlaces
import DomainValues.Proofs.Spans

/-!
# Where reports point

Every report is about an item: it rejects the item, or the item takes the name of the registration
type (`Module.Concerns`).  It points into that item (`PointsInto`), with one exception.  A struct
that has no generic parameters but a `where` clause is reported at its generic parameters, and so at
the start of the text (`Item.OnlyCondition`).

Main statement: `Module.reports_point_exactly`.
-/

namespace DomainValues

open Source Token

/-! ## Reports of the scan -/

/-- The item is a struct with one directive and without fields and generic parameters, and it has a
`where` clause. -/
def Item.OnlyCondition : Item → Prop
  | .struct s => s.generics = [] ∧ s.condition.isSome = true ∧ s.fields.position? = none ∧
      (Item.struct s).directives.length = 1
  | _ => False

instance : DecidablePred Item.OnlyCondition
  | .struct s => inferInstanceAs (Decidable (s.generics = [] ∧ s.condition.isSome = true ∧
      s.fields.position? = none ∧ (Item.struct s).directives.length = 1))
  | .inlineModule .. | .plain _ | .verbatim _ | .generated _ => inferInstanceAs (Decidable False)

namespace Site

variable {site : Site} {s : StructItem} {others : List (Attribute × Kind)}

theorem mem_attributes_of_mem_directives {item : Item} {directive : Attribute × Kind}
    (h : directive ∈ item.directives) :
    directive.1 ∈ item.attributes ∧ directive.1.name?.isSome = true := by
  obtain ⟨a, listed, given⟩ := List.mem_filterMap.1 h
  obtain ⟨kind, selects, rfl⟩ := Option.map_eq_some_iff.1 given
  obtain ⟨i, named, -⟩ := Option.bind_eq_some_iff.1 selects
  exact ⟨listed, by rw [named]; rfl⟩

/-- A fault of a struct points into it, unless it is in generic parameters that are not there. -/
theorem places_of_mem_shapeFaults {fault : ShapeFault} {p : Position}
    (item : site.item = .struct s) (directives : ∀ x ∈ others, x ∈ site.item.directives)
    (h : (fault, p) ∈ site.shapeFaults s others) :
    p ∈ site.item.places ∨ fault = .generic s.name.text ∧ s.generics = [] ∧ p = .start := by
  simp only [shapeFaults, List.mem_append, or_assoc] at h
  rcases h with h | h | h | h | h
  · obtain ⟨second, found, same⟩ := Option.map_eq_some_iff.1 (Option.mem_toList.1 h)
    cases same
    have listed := directives second (List.mem_of_mem_head? found)
    exact .inl (Item.places_of_attribute (mem_attributes_of_mem_directives listed).1
      List.mem_cons_self)
  · obtain ⟨position, found, same⟩ := Option.map_eq_some_iff.1 (Option.mem_toList.1 h)
    cases same
    refine .inl (Item.places_of_shape ?_)
    rw [item]
    exact List.mem_append_left _ (Option.mem_toList.2 found)
  · split at h
    · cases h
    · cases List.mem_singleton.1 h
      cases generics : s.generics with
      | nil => exact .inr ⟨rfl, rfl, by simp [genericsPosition, generics]⟩
      | cons t rest =>
          refine .inl (Item.places_of_shape ?_)
          rw [item, Item.shapePlaces, StructItem.shapePlaces, genericsPosition, generics]
          exact List.mem_append_right _ (position_mem_places t rest)
  · obtain ⟨derive, found, same⟩ := Option.map_eq_some_iff.1 (Option.mem_toList.1 h)
    cases same
    obtain ⟨a, listed, derived⟩ := List.mem_flatMap.1 (List.mem_of_find?_eq_some found)
    refine .inl (Item.places_of_attribute ?_ (Attribute.position_of_mem_derived derived))
    rw [item]
    exact listed
  · split at h
    · cases h
    · cases List.mem_singleton.1 h
      refine .inl (Item.places_of_name ?_)
      rw [item]
      exact List.mem_singleton_self _

/-- If the first fault is in generic parameters that are not there, the struct has a condition and
nothing else that is wrong before it. -/
theorem condition_of_first_generic {name : String} {p : Position}
    {rest : List (ShapeFault × Position)} (generics : s.generics = [])
    (h : site.shapeFaults s others = (.generic name, p) :: rest) :
    others = [] ∧ s.fields.position? = none ∧ s.condition.isSome = true := by
  cases others with
  | cons second others => simp [shapeFaults] at h
  | nil =>
      cases fields : s.fields.position? with
      | some position => simp [shapeFaults, fields] at h
      | none =>
          refine ⟨rfl, rfl, ?_⟩
          cases condition : s.condition with
          | some tokens => rfl
          | none =>
              -- Without a condition only a derived trait and the visibility are left to be wrong.
              cases derive : generatedDerive? s with
              | some n => simp [shapeFaults, fields, generics, condition, derive] at h
              | none =>
                  cases reaches : s.visibility.reaches site.scope.length <;>
                    simp [shapeFaults, fields, generics, condition, derive, reaches] at h

/-- A report of the scan points into the item, or the item has a condition only. -/
theorem places_of_verdict? {report : Diagnostic} (h : site.verdict? = some (.error report)) :
    report.position ∈ site.item.places ∨ site.item.OnlyCondition := by
  unfold verdict? at h
  split at h
  · cases h
  case h_2 first others directives =>
    have listed : ∀ x ∈ first :: others, x ∈ site.item.directives := fun x here => directives ▸ here
    obtain ⟨carried, named⟩ := mem_attributes_of_mem_directives (listed first List.mem_cons_self)
    split at h
    case h_1 s item =>
      have given : site.ofStruct s first others = .error report := Option.some.inj h
      unfold ofStruct at given
      split at given
      case h_1 fault p rest faults =>
        cases given
        have reported : (fault, p) ∈ site.shapeFaults s others := faults ▸ List.mem_cons_self
        rcases places_of_mem_shapeFaults item
          (fun x here => listed x (List.mem_cons_of_mem _ here)) reported with
          here | ⟨rfl, generics, -⟩
        · exact .inl here
        · obtain ⟨rfl, fields, condition⟩ := condition_of_first_generic generics faults
          rw [item] at directives ⊢
          exact .inr ⟨generics, condition, fields, by rw [directives]; rfl⟩
      case h_2 =>
        split at given
        case h_1 e read =>
          cases given
          exact .inl (Item.places_of_attribute carried
            (Directive.ofAttribute_errorsAt named e read))
        case h_2 => cases given
    case h_2 =>
      cases Except.error.inj (Option.some.inj h)
      exact .inl (Item.places_of_attribute carried List.mem_cons_self)

/-- A struct with a condition only is reported at the start of the text. -/
theorem position_of_onlyCondition {report : Diagnostic} (only : site.item.OnlyCondition)
    (h : site.verdict? = some (.error report)) : report.position = .start := by
  unfold verdict? at h
  split at h
  · cases h
  case h_2 first others directives =>
    split at h
    case h_1 s item =>
      rw [item] at only directives
      obtain ⟨generics, condition, fields, one⟩ := only
      obtain rfl : others = [] := by
        rw [directives] at one
        exact List.length_eq_zero_iff.1 (Nat.succ.inj one)
      have head : (site.shapeFaults s []).head? = some (.generic s.name.text, .start) := by
        have bounded : s.condition.isNone = false := by simpa using condition
        simp [shapeFaults, fields, generics, bounded, genericsPosition]
      obtain ⟨rest, faults⟩ := List.head?_eq_some_iff.1 head
      simp only [ofStruct, faults] at h
      cases h
      rfl
    case h_2 other =>
      cases item : site.item with
      | struct s => exact absurd item (other s)
      | inlineModule | plain | verbatim | generated => rw [item] at only; cases only

/-- What is declared at a site keeps its places in the item. -/
theorem Declares.places {d : Declaration} (h : site.Declares s d) :
    d.name.position ∈ site.item.places ∧ ∀ p ∈ d.directive.places, p ∈ site.item.places := by
  obtain ⟨first, only, read⟩ := h.directive
  have listed : first ∈ site.item.directives := only ▸ List.mem_singleton_self first
  obtain ⟨carried, named⟩ := mem_attributes_of_mem_directives listed
  refine ⟨Item.places_of_name ?_, fun p here => ?_⟩
  · rw [h.item, h.name]
    exact List.mem_singleton_self _
  · exact Item.places_of_attribute carried (Directive.ofAttribute_places named read p here)

end Site

/-! ## Reports of a pass -/

theorem position_of_clash? {declarations : List Declaration} {names : List NamedItem}
    {registry : Ident} {index : Nat} {d : Declaration} {report : Diagnostic}
    (h : clash? declarations names registry index d = some report) :
    report.position = d.name.position := by
  unfold clash? at h
  dsimp only at h
  split at h
  · cases h
    rfl
  · split at h
    · cases h
      rfl
    · split at h
      · cases h
        rfl
      · cases h

namespace Module

variable {m : Module} {o : Options} {site : Site} {report : Diagnostic}

/-- A report of a pass is about the item at a site. -/
inductive Concerns (m : Module) (o : Options) (site : Site) (report : Diagnostic) : Prop where
  /-- It rejects the item. -/
  | rejects (h : (site.slot, report) ∈ m.rejections o) : Concerns m o site report
  /-- It says that the item takes the name of the registration type. -/
  | takes {n : Name} (root : site.scope = []) (named : n ∈ site.item.names)
      (same : n.bare = o.registry.name) (h : report = registryClash n) : Concerns m o site report

theorem rejection?_eq_some_iff {slot : Slot} :
    site.rejection? = some (slot, report) ↔
      slot = site.slot ∧ site.verdict? = some (.error report) := by
  unfold Site.rejection?
  split
  case h_1 report' verdict => simp [verdict, eq_comm]
  case h_2 other => exact ⟨nofun, fun ⟨_, verdict⟩ => absurd verdict (other report)⟩

/-- Every report is about an item. -/
theorem exists_concerned {limit : Option Nat} (h : report ∈ (m.generate o limit).diagnostics) :
    ∃ site ∈ m.sites, m.Concerns o site report := by
  have ofDeclared {d : Declaration} (declared : d ∈ m.discover.declarations)
      (rejected : (d.slot, report) ∈ m.rejections o) :
      ∃ site ∈ m.sites, m.Concerns o site report := by
    obtain ⟨site, found, s, declares⟩ := mem_declarations_iff.1 declared
    exact ⟨site, found, .rejects (declares.slot ▸ rejected)⟩
  rcases List.mem_append.1 h with h | h
  · rcases List.mem_append.1 h with h | h
    · rw [discover_diagnostics_eq] at h
      obtain ⟨⟨slot, report'⟩, rejected, rfl⟩ := List.mem_map.1 h
      obtain ⟨site, found, given⟩ := List.mem_filterMap.1 rejected
      obtain ⟨rfl, -⟩ := rejection?_eq_some_iff.1 given
      exact ⟨site, found, .rejects (List.mem_append_left _ (List.mem_append_left _ rejected))⟩
    · rcases List.mem_append.1 h with h | h
      · obtain ⟨⟨d, report'⟩, rejected, rfl⟩ := List.mem_map.1 h
        obtain ⟨i, declared, -⟩ := mem_rejected_iff.1 rejected
        exact ofDeclared (List.mem_of_getElem? declared)
          (List.mem_append_left _ (List.mem_append_right _
            (List.mem_map.2 ⟨(d, report'), rejected, rfl⟩)))
      · obtain ⟨n, known, root, same, rfl⟩ := exists_taker_of_mem_clashes h
        obtain ⟨site, found, scope, named⟩ := mem_names_iff.1 known
        exact ⟨site, found, .takes (scope ▸ root) named same rfl⟩
  · obtain ⟨configured, processed, refused⟩ := List.mem_filterMap.1 h
    obtain ⟨d, handled, rfl⟩ := List.mem_map.1 processed
    have kept := processed_sublist.subset handled
    refine ofDeclared (mem_of_mem_kept kept) (List.mem_append_right _ ?_)
    exact List.mem_filterMap.2 ⟨d, kept, by rw [Declaration.rejection?, refused]; rfl⟩

/-- A report about an item points to something that is kept of it, or it is a report of the scan
about a struct with a condition only. -/
theorem places_of_concerns (found : site ∈ m.sites) (h : m.Concerns o site report) :
    report.position ∈ site.item.places ∨
      site.item.OnlyCondition ∧ site.verdict? = some (.error report) := by
  have ofDeclared {d : Declaration} (declared : d ∈ m.discover.declarations)
      (slot : d.slot = site.slot) : ∃ s, site.Declares s d := by
    obtain ⟨site', found', s, declares⟩ := mem_declarations_iff.1 declared
    obtain rfl := site_ext found found' (slot.symm.trans declares.slot)
    exact ⟨s, declares⟩
  cases h with
  | takes root named same h =>
      rw [h]
      exact .inl (Item.places_of_name named)
  | rejects h =>
      rcases List.mem_append.1 h with h | h
      · rcases List.mem_append.1 h with h | h
        · obtain ⟨site', found', given⟩ := List.mem_filterMap.1 h
          obtain ⟨slot, verdict⟩ := rejection?_eq_some_iff.1 given
          obtain rfl := site_ext found found' slot
          exact (Site.places_of_verdict? verdict).imp_right fun only => ⟨only, verdict⟩
        · obtain ⟨⟨d, report'⟩, rejected, same⟩ := List.mem_map.1 h
          obtain ⟨slot, rfl⟩ := Prod.mk.inj same
          obtain ⟨i, declared, clashes⟩ := mem_rejected_iff.1 rejected
          obtain ⟨s, declares⟩ := ofDeclared (List.mem_of_getElem? declared) slot
          rw [position_of_clash? clashes]
          exact .inl declares.places.1
      · obtain ⟨d, kept, given⟩ := List.mem_filterMap.1 h
        obtain ⟨report', refused, same⟩ := Option.map_eq_some_iff.1 given
        obtain ⟨slot, rfl⟩ := Prod.mk.inj same
        obtain ⟨s, declares⟩ := ofDeclared (mem_of_mem_kept kept) slot
        unfold Declaration.configured at refused
        cases params : d.directive.params with
        | ok params' =>
            rw [params] at refused
            cases refused
        | error e =>
            rw [params] at refused
            cases refused
            exact .inl (declares.places.2 _ (Directive.params_errorsAt e params))

/-- The spans of the items of a module that is read from a text. -/
def spansIn (text : String) : List Span := ((tokens? text).map spansOf).getD []

/-- In every run over a module that is read from a text, every report is about an item, and points
into each item that it is about.  Only the report of the scan about a struct with a condition and
nothing else points elsewhere, to the start of the text, which is in no item. -/
theorem reports_point_exactly {text : String} (read : Module.read? text = some m) (o : Options)
    (flag : Nat → Bool) :
    ∀ report ∈ (m.run o flag).diagnostics,
      (∃ site ∈ m.sites, m.Concerns o site report) ∧
      ∀ site ∈ m.sites, m.Concerns o site report →
        (¬ (site.item.OnlyCondition ∧ site.verdict? = some (.error report)) →
          PointsInto (spansIn text) site report.position) ∧
        (site.item.OnlyCondition ∧ site.verdict? = some (.error report) →
          report.position = .start ∧ ∀ s ∈ spansIn text, ¬ s.Covers report.position) := by
  intro report reported
  obtain ⟨limit, same⟩ := exists_limit m o flag
  rw [same] at reported
  refine ⟨exists_concerned reported, fun site found concerns => ?_⟩
  obtain ⟨tokens, lexed, parsed⟩ := Option.bind_eq_some_iff.1 read
  have spans : spansIn text = spansOf tokens := by rw [spansIn, lexed]; rfl
  rw [spans]
  constructor
  · intro ordinary
    have kept := (places_of_concerns found concerns).resolve_right ordinary
    exact pointsInto_of_mem_places lexed parsed found kept
  · rintro ⟨only, verdict⟩
    have start := Site.position_of_onlyCondition only verdict
    rw [start]
    exact ⟨rfl, not_covers_start lexed parsed⟩

/-- The report about a struct with fields points into it. -/
theorem fields_pointed :
    let text := "mod domain \x7b #[identifier] pub struct OrderId \x7b id: u8 \x7d \x7d"
    ∃ m, Module.read? text = some m ∧ (m.run .default fun _ => false).diagnostics.length = 1 ∧
      ∀ report ∈ (m.run .default fun _ => false).diagnostics, ∃ site ∈ m.sites,
        m.Concerns .default site report ∧ PointsInto (spansIn text) site report.position := by
  intro text
  have facts : ((Module.read? text).map fun m =>
      ((m.run .default fun _ => false).diagnostics.length,
        m.sites.any fun site => decide site.item.OnlyCondition)) = some (1, false) := by
    decide +kernel
  obtain ⟨m, read, known⟩ := Option.map_eq_some_iff.1 facts
  obtain ⟨one, ordinary⟩ := Prod.mk.inj known
  refine ⟨m, read, one, fun report reported => ?_⟩
  obtain ⟨⟨site, found, concerns⟩, points⟩ := reports_point_exactly read .default _ report reported
  refine ⟨site, found, concerns, (points site found concerns).1 fun only => ?_⟩
  exact List.any_eq_false.1 ordinary site found (decide_eq_true only.1)

/-- A struct with a condition only is reported at the start of the text, which is not in it. -/
theorem condition_not_pointed :
    let text := "mod domain \x7b #[identifier] pub struct OrderId where u8: Copy; \x7d"
    ∃ m, Module.read? text = some m ∧ ∃ report ∈ (m.run .default fun _ => false).diagnostics,
      ∃ site ∈ m.sites, m.Concerns .default site report ∧ report.position = .start ∧
        ¬ PointsInto (spansIn text) site report.position := by
  intro text
  have ran : (Module.read? text).map (fun m =>
      (m.run .default fun _ => false).diagnostics.map Diagnostic.position) = some [.start] := by
    decide +kernel
  obtain ⟨m, read, positions⟩ := Option.map_eq_some_iff.1 ran
  obtain ⟨report, reported, position⟩ := List.mem_map.1 (positions ▸ List.mem_singleton_self _)
  obtain ⟨limit, same⟩ := exists_limit m .default fun _ => false
  obtain ⟨site, found, concerns⟩ := exists_concerned (same ▸ reported)
  exact ⟨m, read, report, reported, site, found, concerns, position,
    fun points => points.notStart position⟩

end Module
end DomainValues
