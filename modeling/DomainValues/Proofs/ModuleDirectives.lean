import DomainValues.Proofs.CodeParts
import DomainValues.Proofs.Rewriting

/-!
# Directives on modules

A directive on a module is a mistake.  A pass deals with it (`Generation.DealsWith`) on each inline
module below the root: it reports the first directive there, and leaves none.

It does not deal with the directives of the root.  A pass looks at the items of a module, and the
root is not an item of any.  So its attributes come out as they went in, and nothing else depends on
them.

Main statement: `Module.moduleDirectives_exact`, for every run.
-/

namespace DomainValues

/-- A pass deals with the directives of a module, given what the module has apart from its items
before the pass and after it. -/
structure Generation.DealsWith (g : Generation) (before after : ModuleHead) : Prop where
  /-- The first directive is reported, where it stands. -/
  reported : ∀ a kind, before.attributes.find? Attribute.isDirective = some a →
    a.kind? = some kind → ∃ report ∈ g.diagnostics,
      report.code = .v1001 ∧ report.position = a.position ∧
      report.message = "`#[" ++ kind.directiveName ++
        "]` can only be applied to a struct, found a module"
  /-- All is left but the directives. -/
  removed : after =
    { before with attributes := before.attributes.filter fun a => !a.isDirective }

/-- A pass deals with the directives below the root and not with those of the root. -/
structure Generation.SparesRoot (g : Generation) (m : Module) : Prop where
  /-- It deals with each inline module below the root, which stays where it is. -/
  below : ∀ scope slot head items, ⟨scope, slot, .inlineModule head items⟩ ∈ m.sites →
    ∃ after inside, ⟨scope, slot, .inlineModule after inside⟩ ∈ g.module.sites ∧
      g.DealsWith head after
  /-- It deals with the root only if the root has no directive. -/
  root : g.DealsWith m.head g.module.head ↔ m.head.attributes.any Attribute.isDirective = false
  /-- The attributes of the root are among the tokens, the inner ones if there is a body. -/
  printed : ∀ a ∈ m.head.attributes, (a.inner = true → m.items?.isSome = true) →
    Token.Within a.tokens g.module.tokens
  /-- No directive is left exactly if the root has none, and nothing that passes through unread. -/
  clean : g.module.head.attributes.any Attribute.isDirective = false ∧
      (∀ site ∈ g.module.sites, site.item.isMarked = false) ↔
    m.head.attributes.any Attribute.isDirective = false ∧ ¬ m.HidesDirective

/-! ## Below the root -/

/-- The directives of an item start with the first attribute that is one. -/
theorem Item.directives_of_find? (item : Item) {a : Attribute} {kind : Kind}
    (first : item.attributes.find? Attribute.isDirective = some a) (selects : a.kind? = some kind) :
    ∃ others, item.directives = (a, kind) :: others := by
  obtain ⟨-, before, after, split, others⟩ := List.find?_eq_some_iff_append.1 first
  have none : before.filterMap (fun b => b.kind?.map fun kind => (b, kind)) = [] := by
    refine List.filterMap_eq_nil_iff.2 fun b found => ?_
    have other := others b found
    rw [← Attribute.isSome_kind?, Bool.not_eq_true', Option.isSome_eq_false_iff,
      Option.isNone_iff_eq_none] at other
    rw [other, Option.map_none]
  refine ⟨after.filterMap fun b => b.kind?.map fun kind => (b, kind), ?_⟩
  rw [Item.directives, split, List.filterMap_append, none, List.nil_append, List.filterMap_cons,
    selects]
  rfl

/-- What is no directive stays. -/
theorem Attribute.withoutDirectives_eq (attributes : List Attribute) :
    withoutDirectives attributes = attributes.filter fun a => !a.isDirective := by
  refine List.filter_congr fun a _ => ?_
  rw [← isSome_kind?]
  cases a.kind? <;> rfl

section

variable {m : Module} {o : Options} {limit : Option Nat} {scope : List Name} {slot : Slot}
  {head : ModuleHead} {items : List Item}

/-- An inline module stays where it is, without its directives. -/
theorem Module.mem_sites_of_inlineModule (o : Options) (limit : Option Nat)
    (found : ⟨scope, slot, .inlineModule head items⟩ ∈ m.sites) :
    ∃ inside, ⟨scope, slot, .inlineModule
      { head with attributes := Attribute.withoutDirectives head.attributes } inside⟩ ∈
        (m.generate o limit).module.sites := by
  have stays := substitute_mem_sites o limit found
  rw [Site.substitute, substituteItem] at stays
  exact ⟨_, stays⟩

/-- The first directive of an inline module is reported. -/
theorem Module.mem_diagnostics_of_inlineModule {a : Attribute} {kind : Kind}
    (found : ⟨scope, slot, .inlineModule head items⟩ ∈ m.sites)
    (first : head.attributes.find? Attribute.isDirective = some a) (selects : a.kind? = some kind) :
    (ShapeFault.notAStruct kind.directiveName "a module").diagnostic a.position ∈
      (m.generate o limit).diagnostics := by
  refine mem_diagnostics_of_discover (mem_diagnostics_iff.2 ⟨_, found, ?_⟩)
  obtain ⟨others, directives⟩ :=
    (Item.inlineModule head items).directives_of_find? first selects
  rw [Site.verdict?, directives]
  rfl

theorem Module.dealsWith_of_inlineModule
    (found : ⟨scope, slot, .inlineModule head items⟩ ∈ m.sites) :
    (m.generate o limit).DealsWith head
      { head with attributes := Attribute.withoutDirectives head.attributes } where
  reported a kind first selects := by
    refine ⟨_, mem_diagnostics_of_inlineModule found first selects, rfl, rfl, ?_⟩
    rw [ShapeFault.diagnostic, ShapeFault.message, String.append_assoc]
    rfl
  removed := by rw [Attribute.withoutDirectives_eq]

end

/-! ## The root -/

/-- What comes out as it went in was dealt with only if there was nothing to do. -/
theorem Generation.dealsWith_self_iff {g : Generation} {head : ModuleHead} :
    g.DealsWith head head ↔ head.attributes.any Attribute.isDirective = false := by
  constructor
  · intro h
    have kept := congrArg ModuleHead.attributes h.removed
    rw [List.any_eq_false]
    intro a found
    simpa using List.filter_eq_self.1 kept.symm a found
  · intro unmarked
    have none := List.any_eq_false.1 unmarked
    refine ⟨fun a _ first _ => absurd (List.find?_some first) (none a ?_), ?_⟩
    · exact List.mem_of_find?_eq_some first
    · rw [List.filter_eq_self.2 fun a found => by simpa using none a found]

/-- The attributes of a module are among its tokens, the inner ones if there is a body. -/
theorem Module.within_tokens {m : Module} {a : Attribute} (found : a ∈ m.head.attributes)
    (body : a.inner = true → m.items?.isSome = true) : Token.Within a.tokens m.tokens := by
  have listed {as : List Attribute} (found : a ∈ as) :
      Token.Within a.tokens (Attribute.tokensAll as) := by
    obtain ⟨before, after, rfl⟩ := List.append_of_mem found
    rw [Attribute.tokensAll, List.flatMap_append, List.flatMap_cons]
    exact Token.Within.self.left.right
  cases inner : a.inner with
  | false =>
      have outer : a ∈ Attribute.outer m.head.attributes :=
        List.mem_filter.2 ⟨found, by rw [inner]; rfl⟩
      exact (listed outer).left.left.left.left
  | true =>
      have inside : a ∈ Attribute.inners m.head.attributes := List.mem_filter.2 ⟨found, inner⟩
      obtain ⟨items, present⟩ := Option.isSome_iff_exists.1 (body inner)
      rw [tokens, present]
      exact (listed inside).left.group.right

namespace Module

theorem sparesRoot_generate (m : Module) (o : Options) (limit : Option Nat) :
    (m.generate o limit).SparesRoot m where
  below scope slot head items found := by
    obtain ⟨inside, stays⟩ := mem_sites_of_inlineModule o limit found
    exact ⟨_, inside, stays, dealsWith_of_inlineModule found⟩
  root := Generation.dealsWith_self_iff
  printed a found body := within_tokens found fun inner => by
    rw [rewrites_generate.body, body inner]
  clean := and_congr_right fun _ => unmarked_iff

/-- Every run deals with the directives of the inline modules below the root and not with those of
the root.  All that a run does with the attributes of the root is to keep them. -/
theorem moduleDirectives_exact (m : Module) (o : Options) (flag : Nat → Bool) :
    (m.run o flag).SparesRoot m ∧
      ∀ attributes, ({ m with head.attributes := attributes } : Module).run o flag =
        { m.run o flag with module.head.attributes := attributes } := by
  obtain ⟨limit, same⟩ := exists_limit m o flag
  refine ⟨?_, fun attributes => rfl⟩
  rw [same]
  exact sparesRoot_generate m o limit

/-- A directive on the root is not reported, and it stays. -/
theorem markedRoot_not_dealtWith :
    let m : Module := { ofItems [] with head.attributes := [.directive .identifier] }
    let g := m.run .default fun _ => false
    g.diagnostics = [] ∧ g.module.head.attributes.any Attribute.isDirective = true ∧
      ¬ g.DealsWith m.head g.module.head := by
  refine ⟨rfl, by decide +kernel, fun dealt => ?_⟩
  have removed := congrArg (fun head => head.attributes.length) dealt.removed
  exact absurd removed (by decide +kernel)

end Module
end DomainValues
