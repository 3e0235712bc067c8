import DomainValues.Proofs.ReadBack

/-!
# Addresses

Indices lead down from the items of a module through inline modules (`LeadsTo`), and a site stands
where its slot leads, in the modules of its scope (`Site.StandsIn`).  What a pass lists are the
sites that stand in a module, no more and no fewer (`Module.mem_sites_iff_standsIn`).

In source order the paths of slots increase, and only the path to an inline module is a prefix of a
later one (`Site.Before`).  A declaration is no inline module, so no two declarations stand at one
place or in each other.

Main statement: `Module.addresses_exact`, what the declarations and the names of a module say of
their places is so.
-/

namespace DomainValues

/-! ## Following indices -/

/-- Indices lead from items to those of an inline module below them, through inline modules of these
names. -/
inductive LeadsTo : List Item → List Nat → List Name → List Item → Prop where
  /-- To the items themselves. -/
  | here {items : List Item} : LeadsTo items [] [] items
  /-- Into the inline module at the first index, and on from its items. -/
  | down {items inner below : List Item} {head : ModuleHead} {index : Nat} {indices : List Nat}
      {names : List Name} : items[index]? = some (.inlineModule head inner) →
      LeadsTo inner indices names below →
      LeadsTo items (index :: indices) (head.name :: names) below

/-- An item stands where its slot leads, in the modules of its scope. -/
def Site.StandsIn (site : Site) (m : Module) : Prop :=
  ∃ items, LeadsTo m.items site.slot.modules site.scope items ∧
    items[site.slot.item]? = some site.item

theorem siteBelow?_eq_some_iff {items : List Item} {scope : List Name} {passed down : List Nat}
    {index : Nat} {site : Site} :
    siteBelow? items scope passed down index = some site ↔
      ∃ names below item, LeadsTo items down names below ∧ below[index]? = some item ∧
        site = ⟨scope ++ names, ⟨passed ++ down, index⟩, item⟩ := by
  induction down generalizing items scope passed with
  | nil =>
      constructor
      · intro found
        obtain ⟨item, at', rfl⟩ := Option.map_eq_some_iff.1 found
        exact ⟨[], items, item, .here, at', by simp⟩
      · rintro ⟨names, below, item, leads, at', rfl⟩
        cases leads with
        | here => simp [siteBelow?, at']
  | cons i down ih =>
      constructor
      · intro found
        rw [siteBelow?] at found
        split at found
        case h_1 head inner module =>
          obtain ⟨names, below, item, leads, at', rfl⟩ := ih.1 found
          exact ⟨head.name :: names, below, item, .down module leads, at', by simp⟩
        case h_2 => cases found
      · rintro ⟨names, below, item, leads, at', rfl⟩
        cases leads with
        | @down _ inner _ head _ _ names module leads =>
            simp only [siteBelow?, module]
            exact ih.2 ⟨names, below, item, leads, at', by simp⟩

/-- An item is listed first or last among the sites in it. -/
theorem mem_sitesOfItem_self (scope : List Name) (modules : List Nat) (index : Nat) (item : Item) :
    ⟨scope, ⟨modules, index⟩, item⟩ ∈ sitesOfItem scope modules index item := by
  cases item <;> simp [sitesOfItem]

/-- The sites in one of some items are listed for the items. -/
theorem mem_sitesOfItems_of_getElem? {scope : List Name} {modules : List Nat} {items : List Item}
    {item : Item} {start offset : Nat} {site : Site} (at' : items[offset]? = some item)
    (inside : site ∈ sitesOfItem scope modules (start + offset) item) :
    site ∈ sitesOfItems scope modules start items := by
  induction items generalizing start offset with
  | nil => cases at'
  | cons first rest ih =>
      rw [sitesOfItems, List.mem_append]
      cases offset with
      | zero =>
          obtain rfl := Option.some.inj at'
          exact .inl inside
      | succ offset =>
          refine .inr (ih at' ?_)
          rwa [Nat.add_assoc, Nat.add_comm 1]

theorem LeadsTo.mem_sitesOfItems {items below : List Item} {down : List Nat} {names : List Name}
    {index : Nat} {item : Item} (leads : LeadsTo items down names below)
    (at' : below[index]? = some item) (scope : List Name) (passed : List Nat) :
    ⟨scope ++ names, ⟨passed ++ down, index⟩, item⟩ ∈ sitesOfItems scope passed 0 items := by
  induction leads generalizing scope passed with
  | here =>
      refine mem_sitesOfItems_of_getElem? at' ?_
      simpa using mem_sitesOfItem_self scope passed index item
  | @down _ _ _ head i _ _ module _ ih =>
      have inside := ih at' (scope ++ [head.name]) (passed ++ [i])
      refine mem_sitesOfItems_of_getElem? module ?_
      rw [Nat.zero_add, sitesOfItem]
      refine List.mem_append_left _ ?_
      simpa using inside

/-- What a pass lists are the sites that stand in a module. -/
theorem Module.mem_sites_iff_standsIn {m : Module} {site : Site} :
    site ∈ m.sites ↔ site.StandsIn m := by
  constructor
  · intro listed
    obtain ⟨names, below, item, leads, at', same⟩ :=
      siteBelow?_eq_some_iff.1 (siteAt?_of_mem_sites listed)
    refine ⟨below, ?_, ?_⟩
    · rwa [show site.scope = names by rw [same]; rfl]
    · rwa [show site.item = item by rw [same]]
  · rintro ⟨below, leads, at'⟩
    exact leads.mem_sitesOfItems at' [] []

/-! ## Order -/

/-- A site comes before another one in source order: its path is smaller, and only the path to an
inline module leads on to the other. -/
def Site.Before (a b : Site) : Prop :=
  a.slot.path < b.slot.path ∧
    (a.item.isInlineModule = false → ¬ a.slot.path <+: b.slot.path)

/-- A path through an earlier index is smaller, and no prefix. -/
theorem Site.before_of_index_lt {a b : Site} {modules down down' : List Nat} {i j : Nat}
    (pathA : a.slot.path = modules ++ i :: down) (pathB : b.slot.path = modules ++ j :: down')
    (less : i < j) : a.Before b := by
  refine ⟨?_, fun _ isPrefix => ?_⟩
  · rw [pathA, pathB]
    exact List.append_left_lt (List.Lex.rel less)
  · rw [pathA, pathB, List.prefix_append_right_inj] at isPrefix
    exact Nat.ne_of_lt less (List.cons_prefix_cons.1 isPrefix).1

/-- The path to an inline module is smaller than the paths to what it contains. -/
theorem Site.before_of_inside {a b : Site} {i : Nat} {down : List Nat}
    (module : a.item.isInlineModule = true) (path : b.slot.path = a.slot.path ++ i :: down) :
    a.Before b := by
  refine ⟨?_, fun other => ?_⟩
  · have longer : a.slot.path ++ [] < a.slot.path ++ i :: down := List.append_left_lt List.Lex.nil
    rwa [List.append_nil, ← path] at longer
  · rw [module] at other
    cases other

mutual

theorem pairwise_orderedItem (scope : List Name) (modules : List Nat) (index : Nat) :
    (item : Item) → (orderedItem scope modules index item).Pairwise Site.Before
  | .inlineModule head items => by
      rw [orderedItem, List.pairwise_cons]
      refine ⟨fun site inside => ?_, pairwise_orderedItems _ _ 0 items⟩
      obtain ⟨i, -, down, path⟩ :=
        path_of_mem_sitesOfItems items ((orderedItems_perm ..).mem_iff.1 inside)
      exact Site.before_of_inside rfl path
  | .struct _ | .plain _ | .verbatim _ | .generated _ => List.pairwise_singleton ..

theorem pairwise_orderedItems (scope : List Name) (modules : List Nat) (index : Nat) :
    (items : List Item) → (orderedItems scope modules index items).Pairwise Site.Before
  | [] => .nil
  | item :: rest => by
      rw [orderedItems, List.pairwise_append]
      refine ⟨pairwise_orderedItem scope modules index item,
        pairwise_orderedItems scope modules (index + 1) rest, fun a first b later => ?_⟩
      obtain ⟨down, pathA⟩ :=
        path_of_mem_sitesOfItem item ((orderedItem_perm ..).mem_iff.1 first)
      obtain ⟨i, le, down', pathB⟩ :=
        path_of_mem_sitesOfItems rest ((orderedItems_perm ..).mem_iff.1 later)
      exact Site.before_of_index_lt pathA pathB le

end

/-- Every site comes before all that follow it in source order. -/
theorem Module.pairwise_inOrder (m : Module) : m.inOrder.Pairwise Site.Before :=
  pairwise_orderedItems [] [] 0 m.items

/-- No smaller path leads on from a path. -/
theorem not_prefix_of_lt {a b : List Nat} (less : a < b) : ¬ b <+: a := by
  rintro ⟨down, rfl⟩
  exact List.not_lt.2 List.le_append_left less

/-! ## Declarations -/

/-- The declaration that a site gives. -/
def Site.declared? (site : Site) : Option Declaration := site.verdict?.bind Except.toOption

theorem Site.declared?_eq_some_iff {site : Site} {d : Declaration} :
    site.declared? = some d ↔ ∃ s, site.Declares s d := by
  rw [← Site.verdict?_eq_ok_iff, declared?, Option.bind_eq_some_iff]
  constructor
  · rintro ⟨_ | d', given, same⟩
    · cases same
    · cases same
      exact given
  · intro given
    exact ⟨.ok d, given, rfl⟩

theorem Module.declarations_eq_sites (m : Module) :
    m.discover.declarations = m.sites.filterMap Site.declared? := List.filterMap_filterMap ..

/-- The declarations are those of the sites in source order. -/
theorem Module.declarations_eq (m : Module) :
    m.discover.declarations = m.inOrder.filterMap Site.declared? := by
  have onlyGiven (sites : List Site) : sites.filterMap Site.declared? =
      (sites.filter fun site => site.declared?.isSome).filterMap Site.declared? := by
    rw [List.filterMap_filter]
    refine List.filterMap_congr fun site _ => ?_
    cases site.declared? <;> rfl
  have notModule (site : Site) (module : site.item.isInlineModule = true) :
      site.declared?.isSome = false := by
    cases given : site.declared? with
    | none => rfl
    | some d =>
        obtain ⟨s, declares⟩ := Site.declared?_eq_some_iff.1 given
        rw [declares.item] at module
        cases module
  rw [declarations_eq_sites, onlyGiven, m.filter_sites notModule, ← onlyGiven]

theorem Directive.kind_of_ofAttribute {kind : Kind} {a : Attribute} {d : Directive}
    (read : Directive.ofAttribute kind a = .ok d) : d.kind = kind := by
  unfold ofAttribute at read
  cases arguments : a.arguments with
  | none =>
      simp only [arguments, Except.ok.injEq] at read
      rw [← read]
  | list delimiter tokens opens closes =>
      simp only [arguments] at read
      cases given : readArguments closes (tokens.length + 1) tokens with
      | error e => simp [given, Except.map] at read
      | ok arguments =>
          simp only [given, Except.map, Except.ok.injEq] at read
          rw [← read]
  | value tokens => simp [arguments] at read

theorem Fields.position?_eq_none_iff {fields : Fields} :
    fields.position? = none ↔ fields = .unit := by
  cases fields <;> simp [position?]

/-- Around the one element that something comes of stand those that nothing comes of. -/
theorem split_of_filterMap_singleton {α β : Type} {f : α → Option β} {l : List α} {b : β}
    (single : l.filterMap f = [b]) :
    ∃ before a after, l = before ++ a :: after ∧ f a = some b ∧
      ∀ other ∈ before ++ after, f other = none := by
  induction l with
  | nil => cases single
  | cons a rest ih =>
      rw [List.filterMap_cons] at single
      split at single
      case h_1 none =>
        obtain ⟨before, a', after, rfl, given, others⟩ := ih single
        refine ⟨a :: before, a', after, rfl, given, fun other found => ?_⟩
        rcases List.mem_cons.1 found with rfl | found
        · exact none
        · exact others other found
      case h_2 c given =>
        obtain ⟨rfl, nothing⟩ := List.cons.inj single
        exact ⟨[], a, rest, rfl, given, List.filterMap_eq_nil_iff.1 nothing⟩

/-- A struct without fields is declared: apart from its directive, the declaration says of it what
is written. -/
structure StructItem.Gives (s : StructItem) (d : Declaration) : Prop where
  /-- It has no list of fields. -/
  unit : s.fields = .unit
  /-- The declaration has its name. -/
  name : d.name = s.name
  /-- It is visible to the same code. -/
  visibility : d.visibility = s.visibility
  /-- Without its only directive, the attributes are those of the declaration, in order. -/
  attributes : ∃ before directive after, s.attributes = before ++ directive :: after ∧
    directive.kind? = some d.directive.kind ∧
    Directive.ofAttribute d.directive.kind directive = .ok d.directive ∧
    (∀ a ∈ before ++ after, a.isDirective = false) ∧ d.attributes = before ++ after

theorem Site.Declares.gives {site : Site} {s : StructItem} {d : Declaration}
    (declares : site.Declares s d) : s.Gives d := by
  obtain ⟨-, unit, -⟩ := Site.shapeFaults_eq_nil_iff.1 declares.shape
  refine ⟨Fields.position?_eq_none_iff.1 unit, declares.name, declares.visibility, ?_⟩
  obtain ⟨first, directives, read⟩ := declares.directive
  rw [Item.directives, declares.item] at directives
  obtain ⟨before, a, after, split, given, others⟩ := split_of_filterMap_singleton directives
  obtain ⟨kind, hasKind, rfl⟩ := Option.map_eq_some_iff.1 given
  have same := Directive.kind_of_ofAttribute read
  have plain : ∀ other ∈ before ++ after, other.kind? = none := fun other found =>
    Option.map_eq_none_iff.1 (others other found)
  refine ⟨before, a, after, split, by rw [hasKind, same], by rw [same]; exact read, ?_, ?_⟩
  · intro other found
    rw [← Attribute.isSome_kind?, plain other found]
    rfl
  · have isSplit : s.attributes = before ++ a :: after := split
    have kept : (before ++ after).filter (fun a => a.kind?.isNone) = before ++ after :=
      List.filter_eq_self.2 fun other found => by rw [plain other found]; rfl
    rw [declares.attributes, isSplit, Attribute.withoutDirectives]
    rw [List.filter_append] at kept ⊢
    simp [hasKind, ← kept]

/-! ## Whole modules -/

/-- What was found in a module says where it stands. -/
structure Discovery.AddressedIn (found : Discovery) (m : Module) : Prop where
  /-- The paths of declarations increase, and none is a prefix of another one. -/
  increasing : found.declarations.Pairwise fun d e =>
    d.slot.path < e.slot.path ∧ ¬ d.slot.path <+: e.slot.path ∧ ¬ e.slot.path <+: d.slot.path
  /-- A declaration is that of the struct where its slot leads, through the modules of its scope. -/
  declared : ∀ d ∈ found.declarations, ∃ s, Site.StandsIn ⟨d.scope, d.slot, .struct s⟩ m ∧ s.Gives d
  /-- The names are those of all items of the module, each item with the modules on the way to it,
  in the order of their paths. -/
  named : ∃ sites : List Site, (∀ site, site ∈ sites ↔ site.StandsIn m) ∧
    sites.Pairwise (fun a b => a.slot.path < b.slot.path) ∧
    found.names = sites.flatMap fun site => site.item.names.map fun name => ⟨site.scope, name⟩

/-- Two declarations never stand at one place or one in the other. -/
theorem Module.increasing_declarations (m : Module) :
    m.discover.declarations.Pairwise fun d e =>
      d.slot.path < e.slot.path ∧ ¬ d.slot.path <+: e.slot.path ∧
        ¬ e.slot.path <+: d.slot.path := by
  rw [declarations_eq, List.pairwise_filterMap]
  refine m.pairwise_inOrder.imp fun {a b} before d givenA e givenB => ?_
  obtain ⟨s, declares⟩ := Site.declared?_eq_some_iff.1 givenA
  obtain ⟨s', declares'⟩ := Site.declared?_eq_some_iff.1 givenB
  obtain ⟨less, notPrefix⟩ := before
  rw [declares.slot, declares'.slot]
  exact ⟨less, notPrefix (by rw [declares.item]; rfl), not_prefix_of_lt less⟩

/-- What the declarations and the names of a module say of their places is so. -/
theorem Module.addresses_exact (m : Module) : m.discover.AddressedIn m where
  increasing := m.increasing_declarations
  declared := by
    intro d declared
    obtain ⟨site, found, s, declares⟩ := mem_declarations_iff.1 declared
    refine ⟨s, ?_, declares.gives⟩
    rw [← mem_sites_iff_standsIn, declares.scope, declares.slot, ← declares.item]
    exact found
  named :=
    ⟨m.inOrder, fun _ => mem_inOrder_iff.trans mem_sites_iff_standsIn,
      m.pairwise_inOrder.imp And.left, m.names_eq⟩

end DomainValues
