import DomainValues.Proofs.Outlines
import DomainValues.Proofs.Rewriting

/-!
# Generated code, read back

A pass puts generated code into the module as tokens.  Read back, these tokens are items again: a
struct for each generated struct, and an `impl` block for each generated one (`Code.Item.spelled`,
`Module.readBack`).

Main statements:

* `Module.tokens_readBack`: reading back changes no token, if the attributes on generated structs
  stand before them.
* `Module.undirected_readBack`: it makes no directive.
* `Module.names_readBack`: it changes no listed name.
-/

namespace DomainValues

/-! ## Reading back generated code -/

/-- An outer attribute of generated code. -/
def Attribute.written (name : String) (arguments : AttributeArguments) : Attribute where
  position := .start
  inner := false
  path := ⟨.start, false, [⟨.plain name, .start⟩]⟩
  arguments := arguments

namespace Code

/-- The attribute that documentation is. -/
def Doc.attributes : Doc → List Attribute
  | .nothing => []
  | .fixed text => [.written "doc" (.value [.literal ("r\" " ++ text ++ "\"") .start])]
  | .composed text => [.written "doc" (.value [.literal (Text.literal (" " ++ text)) .start])]

/-- The attribute that derives traits. -/
def deriveAttribute (derives : List String) : Attribute :=
  .written "derive"
    (.list .parenthesis (commas (derives.map fun d => [.ofWord d])) .start .start)

/-- The attribute of an `impl` block, which tells whether it implements a trait. -/
def implAttribute (trait : Option TypeExpr) : Attribute :=
  if trait.isSome then .written "automatically_derived" .none
  else .written "allow" (.list .parenthesis [.ofWord "dead_code"] .start .start)

/-- What an `impl` block has before its braces. -/
def implHead (l : Option String) (trait : Option TypeExpr) (type : TypeExpr) : List Token :=
  [.ofWord "impl"] ++
    (l.map fun name => Token.symbol "<" ++ Token.lifetime name ++ Token.symbol ">").getD [] ++
    (trait.map fun t => t.tokens ++ [.ofWord "for"]).getD [] ++ type.tokens

/-- The item that generated code spells. -/
def Item.spelled : Code.Item → DomainValues.Item
  | .struct attributes doc derives visibility name field => .struct
      { attributes := attributes ++ doc.attributes ++ [deriveAttribute derives]
        visibility
        name := ⟨name, .start⟩
        generics := []
        condition := none
        fields := match field with
          | some type => .unnamed type.tokens .start .start
          | none => .unit }
  | .implementation l trait type members =>
      .plain ⟨.implementation, [implAttribute trait], implHead l trait type,
        some (members.flatMap Member.tokens)⟩

end Code

mutual

/-- An item with the items that the generated code in it spells. -/
def readBackItem : Item → List Item
  | .inlineModule head items => [.inlineModule head (readBackItems items)]
  | .generated code => code.map Code.Item.spelled
  | .struct s => [.struct s]
  | .plain p => [.plain p]
  | .verbatim tokens => [.verbatim tokens]

/-- Items with the items that the generated code in them spells. -/
def readBackItems : List Item → List Item
  | [] => []
  | item :: rest => readBackItem item ++ readBackItems rest

end

/-- A module with the items that the generated code in it spells. -/
def Module.readBack (m : Module) : Module := { m with items? := m.items?.map readBackItems }

/-! ## Tokens -/

namespace Code

theorem tokens_written (name : String) (arguments : AttributeArguments) :
    (Attribute.written name arguments).tokens =
      bracketed (.ofWord name :: Attribute.argumentTokens arguments) := rfl

theorem Doc.tokens_attributes (doc : Doc) : Attribute.tokensAll doc.attributes = doc.tokens := by
  cases doc <;> rfl

/-- What is spelled has the tokens of the code, if the attributes of the user stand before it. -/
theorem Item.tokens_spelled (c : Code.Item)
    (outer : ∀ a ∈ c.spelled.attributes, a.inner = false) : c.spelled.tokens = c.tokens := by
  have all {attributes : List Attribute} (outer : ∀ a ∈ attributes, a.inner = false) :
      outerTokens attributes = Attribute.tokensAll attributes := by
    rw [outerTokens, Attribute.outer, List.filter_eq_self.2]
    exact fun a found => by rw [outer a found]; rfl
  cases c with
  | struct attributes doc derives visibility name field =>
      have before : outerTokens (attributes ++ doc.attributes ++ [deriveAttribute derives]) =
          Attribute.tokensAll attributes ++ doc.tokens ++ (deriveAttribute derives).tokens := by
        rw [all (by exact outer), Attribute.tokensAll, List.flatMap_append, List.flatMap_append,
          List.flatMap_singleton, ← Doc.tokens_attributes]
        rfl
      have derive : (deriveAttribute derives).tokens = bracketed
          [.ofWord "derive", .inGroup .parenthesis (commas (derives.map fun d => [.ofWord d]))] :=
        tokens_written ..
      rw [derive] at before
      cases field with
      | none =>
          rw [spelled, DomainValues.Item.tokens, StructItem.tokens]
          dsimp only
          rw [before, tokens, List.append_nil]
          simp [Token.ofName, word]
      | some type =>
          rw [spelled, DomainValues.Item.tokens, StructItem.tokens]
          dsimp only
          rw [before, tokens, List.append_nil]
          simp [Token.ofName, word, Token.inGroup]
  | implementation l trait type members =>
      rw [spelled, DomainValues.Item.tokens, PlainItem.tokens]
      dsimp only
      have written : Attribute.tokensAll [implAttribute trait] =
          bracketed (if trait.isSome then [.ofWord "automatically_derived"]
            else [.ofWord "allow", .inGroup .parenthesis [.ofWord "dead_code"]]) := by
        cases trait <;> rfl
      have body (content : List Token) :
          bodyTokens [implAttribute trait] content = .inGroup .brace content := by
        cases trait <;> rfl
      rw [all (by exact outer), tokens, written, Option.map_some, Option.getD_some, body, implHead]
      simp only [List.append_assoc]

end Code

theorem Item.tokensAll_eq (items : List Item) :
    Item.tokensAll items = items.flatMap Item.tokens := by
  induction items with
  | nil => rw [tokensAll, List.flatMap_nil]
  | cons item rest ih => rw [tokensAll, ih, List.flatMap_cons]

/-- The attributes that generated code has stand before its items. -/
def Item.OuterCode : Item → Prop
  | .generated code => ∀ c ∈ code, ∀ a ∈ c.spelled.attributes, a.inner = false
  | _ => True

mutual

theorem tokens_readBackItem {scope : List Name} {modules : List Nat} {index : Nat} : (item : Item) →
    (∀ site ∈ sitesOfItem scope modules index item, site.item.OuterCode) →
      Item.tokensAll (readBackItem item) = item.tokens
  | .inlineModule head items, outer => by
      have below := tokens_readBackItems items fun site found =>
        outer site (List.mem_append_left _ found)
      rw [readBackItem, Item.tokensAll, Item.tokens, Item.tokens, below, Item.tokensAll,
        List.append_nil]
  | .generated code, outer => by
      have outer : ∀ c ∈ code, ∀ a ∈ c.spelled.attributes, a.inner = false :=
        outer ⟨scope, ⟨modules, index⟩, .generated code⟩ (List.mem_singleton_self _)
      rw [readBackItem, Item.tokensAll_eq, Item.tokens, List.flatMap_map]
      exact List.flatMap_congr fun c found => c.tokens_spelled (outer c found)
  | .struct _, _ | .plain _, _ | .verbatim _, _ => by
      rw [readBackItem, Item.tokensAll, Item.tokensAll, List.append_nil]

theorem tokens_readBackItems {scope : List Name} {modules : List Nat} {index : Nat} :
    (items : List Item) →
    (∀ site ∈ sitesOfItems scope modules index items, site.item.OuterCode) →
      Item.tokensAll (readBackItems items) = Item.tokensAll items
  | [], _ => by rw [readBackItems]
  | item :: rest, outer => by
      have first := tokens_readBackItem item fun site found =>
        outer site (List.mem_append_left _ found)
      have others := tokens_readBackItems rest fun site found =>
        outer site (List.mem_append_right _ found)
      rw [readBackItems, Item.tokensAll_eq, List.flatMap_append, ← Item.tokensAll_eq,
        ← Item.tokensAll_eq, first, others, Item.tokensAll]

end

/-- Reading back changes no token. -/
theorem Module.tokens_readBack {m : Module} (outer : ∀ site ∈ m.sites, site.item.OuterCode) :
    m.readBack.tokens = m.tokens := by
  cases body : m.items? with
  | none => simp [tokens, readBack, body]
  | some items =>
      have same := tokens_readBackItems items (by simpa [sites, Module.items, body] using outer)
      simp [tokens, readBack, body, same]

/-! ## What is discovered in what is read back -/

/-- No attribute is a directive, in generated code either. -/
def Item.Undirected : Item → Prop
  | .generated code => ∀ c ∈ code, c.spelled.attributes.any Attribute.isDirective = false
  | item => item.attributes.any Attribute.isDirective = false

theorem undirected_of_spelled {scope : List Name} {modules : List Nat} {index : Nat}
    {code : List Code.Item}
    (undirected : ∀ c ∈ code, c.spelled.attributes.any Attribute.isDirective = false) :
    ∀ site ∈ sitesOfItems scope modules index (code.map Code.Item.spelled),
      site.item.attributes.any Attribute.isDirective = false := by
  induction code generalizing index with
  | nil => nofun
  | cons c code ih =>
      intro site found
      rw [List.map_cons, sitesOfItems] at found
      rcases List.mem_append.1 found with found | found
      · have alone : sitesOfItem scope modules index c.spelled =
            [⟨scope, ⟨modules, index⟩, c.spelled⟩] := by
          cases c <;> rfl
        rw [alone] at found
        rw [List.mem_singleton.1 found]
        exact undirected c List.mem_cons_self
      · exact ih (fun c found => undirected c (List.mem_cons_of_mem _ found)) site found

mutual

/-- In what is read back, no attribute is a directive if none was before. -/
theorem undirected_readBackItem {scope : List Name} {modules : List Nat} {index : Nat}
    (scope' : List Name) (modules' : List Nat) (index' : Nat) : (item : Item) →
      (∀ site ∈ sitesOfItem scope modules index item, site.item.Undirected) →
      ∀ site ∈ sitesOfItems scope' modules' index' (readBackItem item),
        site.item.attributes.any Attribute.isDirective = false
  | .inlineModule head items, undirected => by
      have below := undirected_readBackItems (scope' ++ [head.name]) (modules' ++ [index']) 0 items
        fun site found => undirected site (List.mem_append_left _ found)
      intro site found
      rw [readBackItem, sitesOfItems, sitesOfItem, sitesOfItems, List.append_nil] at found
      rcases List.mem_append.1 found with found | found
      · exact below site found
      · rw [List.mem_singleton.1 found]
        exact undirected _ (List.mem_append_right _ (List.mem_singleton_self _))
  | .generated code, undirected => by
      rw [readBackItem]
      exact undirected_of_spelled
        (undirected ⟨scope, ⟨modules, index⟩, .generated code⟩ (List.mem_singleton_self _))
  | .struct _, undirected | .plain _, undirected | .verbatim _, undirected => by
      intro site found
      rw [readBackItem] at found
      rw [List.mem_singleton.1 found]
      exact undirected _ (List.mem_singleton_self _)

theorem undirected_readBackItems {scope : List Name} {modules : List Nat} {index : Nat}
    (scope' : List Name) (modules' : List Nat) (index' : Nat) : (items : List Item) →
      (∀ site ∈ sitesOfItems scope modules index items, site.item.Undirected) →
      ∀ site ∈ sitesOfItems scope' modules' index' (readBackItems items),
        site.item.attributes.any Attribute.isDirective = false
  | [], _ => by
      intro site found
      rw [readBackItems] at found
      cases found
  | item :: rest, undirected => by
      intro site found
      rw [readBackItems, sitesOfItems_append] at found
      rcases List.mem_append.1 found with found | found
      · exact undirected_readBackItem scope' modules' _ item
          (fun site found => undirected site (List.mem_append_left _ found)) site found
      · exact undirected_readBackItems scope' modules' _ rest
          (fun site found => undirected site (List.mem_append_right _ found)) site found

end

theorem Module.undirected_readBack {m : Module}
    (undirected : ∀ site ∈ m.sites, site.item.Undirected) :
    ∀ site ∈ m.readBack.sites, site.item.attributes.any Attribute.isDirective = false := by
  intro site found
  rw [sites, items, readBack] at found
  cases body : m.items? with
  | none =>
      rw [body] at found
      cases found
  | some inside =>
      rw [body] at found
      have before : ∀ site ∈ sitesOfItems [] [] 0 inside, site.item.Undirected := by
        rwa [sites, items, body] at undirected
      exact undirected_readBackItems [] [] 0 inside before site found

/-- Nothing is discovered where no attribute is a directive. -/
theorem Module.discover_of_undirected {m : Module}
    (undirected : ∀ site ∈ m.sites, site.item.attributes.any Attribute.isDirective = false) :
    m.discover.declarations = [] ∧ m.discover.diagnostics = [] := by
  have none : m.verdicts = [] := by
    refine List.filterMap_eq_nil_iff.2 fun site found => ?_
    rw [Site.verdict?, Item.directives_eq_nil_iff.2 (undirected site found)]
  exact ⟨by rw [discover, none]; rfl, by rw [discover, none]; rfl⟩

/-! ## Names -/

mutual

/-- Listed names are those of the sites in source order. -/
theorem namesOfItem_eq (scope : List Name) (modules : List Nat) (index : Nat) : (item : Item) →
    namesOfItem scope item = (orderedItem scope modules index item).flatMap Site.names
  | .inlineModule head items => by
      rw [namesOfItem, orderedItem, List.flatMap_cons,
        namesOfItems_eq (scope ++ [head.name]) (modules ++ [index]) 0 items]
      rfl
  | .struct _ | .plain _ | .verbatim _ | .generated _ => by
      simp [namesOfItem, orderedItem, Site.names]

theorem namesOfItems_eq (scope : List Name) (modules : List Nat) (index : Nat) :
    (items : List Item) →
      namesOfItems scope items = (orderedItems scope modules index items).flatMap Site.names
  | [] => by rw [namesOfItems, orderedItems, List.flatMap_nil]
  | item :: rest => by
      rw [namesOfItems, orderedItems, List.flatMap_append,
        namesOfItem_eq scope modules index item, namesOfItems_eq scope modules (index + 1) rest]

end

theorem Module.names_eq (m : Module) : m.discover.names = m.inOrder.flatMap Site.names :=
  namesOfItems_eq [] [] 0 m.items

theorem namesOfItems_append (scope : List Name) (items more : List Item) :
    namesOfItems scope (items ++ more) = namesOfItems scope items ++ namesOfItems scope more := by
  induction items with
  | nil => rfl
  | cons item rest ih =>
      rw [List.cons_append, namesOfItems, namesOfItems, ih, List.append_assoc]

theorem namesOfItems_spelled (scope : List Name) (code : List Code.Item) :
    namesOfItems scope (code.map Code.Item.spelled) = namesOfItem scope (.generated code) := by
  induction code with
  | nil => rfl
  | cons c code ih =>
      rw [List.map_cons, namesOfItems, ih]
      cases c <;> rfl

mutual

/-- Generated code and what it spells have the same names. -/
theorem namesOfItems_readBackItem (scope : List Name) : (item : Item) →
    namesOfItems scope (readBackItem item) = namesOfItem scope item
  | .inlineModule head items => by
      rw [readBackItem, namesOfItems, namesOfItem, namesOfItems, List.append_nil, namesOfItem,
        namesOfItems_readBackItems (scope ++ [head.name]) items]
  | .generated code => by rw [readBackItem, namesOfItems_spelled]
  | .struct _ | .plain _ | .verbatim _ => by
      rw [readBackItem, namesOfItems, namesOfItems, List.append_nil]

theorem namesOfItems_readBackItems (scope : List Name) : (items : List Item) →
    namesOfItems scope (readBackItems items) = namesOfItems scope items
  | [] => by rw [readBackItems]
  | item :: rest => by
      rw [readBackItems, namesOfItems_append, namesOfItems,
        namesOfItems_readBackItem scope item, namesOfItems_readBackItems scope rest]

end

theorem Module.names_readBack (m : Module) : m.readBack.discover.names = m.discover.names := by
  have names (m : Module) : m.discover.names = namesOfItems [] m.items := rfl
  rw [names, names, items, items, readBack]
  cases m.items? with
  | none => rfl
  | some items => exact namesOfItems_readBackItems [] items

section

variable (replacement : Slot → Option (List Code.Item))

mutual

/-- Replacing commutes with listing in source order. -/
theorem orderedItem_substituteItem (scope : List Name) (modules : List Nat) (index : Nat) :
    (item : Item) →
      orderedItem scope modules index (substituteItem replacement modules index item) =
        (orderedItem scope modules index item).map (Site.substitute replacement)
  | .inlineModule head items => by
      have below :=
        orderedItems_substituteItems (scope ++ [head.name]) (modules ++ [index]) 0 items
      rw [substituteItem, orderedItem, orderedItem, below, List.map_cons, Site.substitute,
        substituteItem]
  | .struct s => by
      cases found : replacement ⟨modules, index⟩ <;>
        simp [substituteItem, orderedItem, Site.substitute, found]
  | .plain _ | .verbatim _ | .generated _ => by
      rw [substituteItem]
      rfl

theorem orderedItems_substituteItems (scope : List Name) (modules : List Nat) (index : Nat) :
    (items : List Item) →
      orderedItems scope modules index (substituteItems replacement modules index items) =
        (orderedItems scope modules index items).map (Site.substitute replacement)
  | [] => by rw [substituteItems, orderedItems, List.map_nil]
  | item :: rest => by
      rw [substituteItems, orderedItems, orderedItems, List.map_append,
        orderedItem_substituteItem scope modules index item,
        orderedItems_substituteItems scope modules (index + 1) rest]

end

theorem namesOfItems_substituteItems (items : List Item) :
    namesOfItems [] (substituteItems replacement [] 0 items) =
      (orderedItems [] [] 0 items).flatMap fun site => (site.substitute replacement).names := by
  rw [namesOfItems_eq [] [] 0, orderedItems_substituteItems, List.flatMap_map]

end

theorem Item.Stripped.names {before after : Item} (h : before.Stripped after) :
    after.names = before.names := by
  cases h <;> rfl

end DomainValues
