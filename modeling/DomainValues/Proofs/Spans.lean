import DomainValues.Proofs.ItemPlaces
import DomainValues.Proofs.Sites
import Mathlib.Data.List.Pairwise

/-!
# The source ranges of items

An item is read from a row of tokens, from its first attribute to its last token.  `spansOf` lists
these rows for the items of a module, an inline module after what it contains.  The rows of two
items lie apart, or one item is in the other, and then all that is kept of the outer one stands
before the inner one (`Span.Apart`).

Main statement: `Module.pointsInto_of_mem_places`, what is kept of an item stands in the range of
the item, and otherwise only in the ranges of the modules around it.
-/

namespace DomainValues

open Source Token

/-- An item and the tokens that it is read from, from its first attribute on. -/
structure Span where
  /-- The item in its place. -/
  site : Site
  /-- The tokens. -/
  row : List Token

/-- A place lies in the range of an item if it is between two places of the item's tokens. -/
def Span.Covers (s : Span) (p : Position) : Prop :=
  (∃ q ∈ places s.row, q ≤ p) ∧ ∃ q ∈ places s.row, p ≤ q

/-- What stands in the braces at the end of a row, after the attributes there. -/
def bodyOf (row : List Token) : List Token :=
  match row.getLast? with
  | some (.group _ content _ _) => ((Attribute.readInner? content).map Prod.snd).getD []
  | _ => []

mutual

/-- The spans in an item that is read from a row, and last that of the item itself.  The fuel is
that of the reader. -/
def spansOfItem (scope : List Name) (modules : List Nat) (index : Nat) (row : List Token) :
    (fuel : Nat) → Item → List Span
  | fuel + 1, .inlineModule head items =>
      spansOfItems (scope ++ [head.name]) (modules ++ [index]) 0 fuel (bodyOf row) ++
        [⟨⟨scope, ⟨modules, index⟩, .inlineModule head items⟩, row⟩]
  | _, item => [⟨⟨scope, ⟨modules, index⟩, item⟩, row⟩]

/-- The spans of items that are numbered from an index. -/
def spansOfItems (scope : List Name) (modules : List Nat) (index : Nat) :
    (fuel : Nat) → List Token → List Span
  | _, [] => []
  | 0, _ :: _ => []
  | fuel + 1, t :: tokens => match readItem? fuel (t :: tokens) with
      | none => []
      | some (item, rest) =>
          let row := (t :: tokens).take ((t :: tokens).length - rest.length)
          spansOfItem scope modules index row fuel item ++
            spansOfItems scope modules (index + 1) fuel rest

end

/-- The spans of the items of a module, which is given by its tokens. -/
def spansOf (tokens : List Token) : List Span :=
  spansOfItems [] [] 0 (2 * Token.sizes (bodyOf tokens) + 1) (bodyOf tokens)

/-- The rows of two items lie apart.  What is kept of an item that the first one is in stands before
the first one. -/
def Span.Apart (a b : Span) : Prop :=
  (∀ p ∈ places a.row, ∀ q ∈ places b.row, p < q) ∨
    (b.site.slot.path <+: a.site.slot.path ∧
      ∀ p ∈ b.site.item.places, ∀ q ∈ places a.row, p < q)

/-! ## Reading with spans -/

/-- The spans of some sites that are read from a row. -/
structure Spanned (row : List Token) (sites : List Site) (spans : List Span) : Prop where
  /-- They are spans of these sites. -/
  sites : spans.map Span.site = sites
  /-- They lie in the row. -/
  inside : ∀ s ∈ spans, ∀ p ∈ places s.row, p ∈ places row
  /-- What is kept of an item stands in its span. -/
  stands : ∀ s ∈ spans, ∀ p ∈ s.site.item.places, p ∈ places s.row
  /-- They lie apart. -/
  apart : spans.Pairwise Span.Apart

namespace Spanned

variable {row more : List Token} {sites others : List Site} {spans spans' : List Span}

theorem nil : Spanned [] [] [] := ⟨rfl, nofun, nofun, .nil⟩

theorem single {site : Site} (stands : ∀ p ∈ site.item.places, p ∈ places row) :
    Spanned row [site] [⟨site, row⟩] where
  sites := rfl
  inside := by simp
  stands := by simpa using stands
  apart := List.pairwise_singleton ..

/-- Items that follow others lie apart from them. -/
theorem append (first : Spanned row sites spans) (rest : Spanned more others spans')
    (before : ∀ p ∈ places row, ∀ q ∈ places more, p < q) :
    Spanned (row ++ more) (sites ++ others) (spans ++ spans') where
  sites := by rw [List.map_append, first.sites, rest.sites]
  inside s listed p here := by
    rw [places_append]
    rcases List.mem_append.1 listed with listed | listed
    · exact List.mem_append_left _ (first.inside s listed p here)
    · exact List.mem_append_right _ (rest.inside s listed p here)
  stands s listed := by
    rcases List.mem_append.1 listed with listed | listed
    · exact first.stands s listed
    · exact rest.stands s listed
  apart := by
    refine List.pairwise_append.2 ⟨first.apart, rest.apart, fun a listed b listed' => .inl ?_⟩
    intro p here q after
    exact before p (first.inside a listed p here) q (rest.inside b listed' q after)

/-- A module around other items. -/
theorem around {site : Site} (inner : Spanned more others spans')
    (within : ∀ p ∈ places more, p ∈ places row)
    (stands : ∀ p ∈ site.item.places, p ∈ places row)
    (encloses : ∀ s ∈ others, site.slot.path <+: s.slot.path)
    (before : ∀ p ∈ site.item.places, ∀ q ∈ places more, p < q) :
    Spanned row (others ++ [site]) (spans' ++ [⟨site, row⟩]) where
  sites := by rw [List.map_append, inner.sites, List.map_singleton]
  inside s listed p here := by
    rcases List.mem_append.1 listed with listed | listed
    · exact within p (inner.inside s listed p here)
    · rwa [List.mem_singleton.1 listed] at here
  stands s listed := by
    rcases List.mem_append.1 listed with listed | listed
    · exact inner.stands s listed
    · rwa [List.mem_singleton.1 listed]
  apart := by
    refine List.pairwise_append.2 ⟨inner.apart, List.pairwise_singleton .., ?_⟩
    intro a listed b last
    obtain rfl := List.mem_singleton.1 last
    have found : a.site ∈ others := inner.sites ▸ List.mem_map_of_mem listed
    exact .inr ⟨encloses a.site found, fun p here q after =>
      before p here q (inner.inside a listed q after)⟩

end Spanned

theorem isInlineModule_of_readFlatItem? {attributes : List Attribute} {tokens rest : List Token}
    {item : Item} (h : readFlatItem? attributes tokens = some (item, rest)) :
    item.isInlineModule = false := by
  unfold readFlatItem? at h
  split at h
  · cases h
    rfl
  · obtain ⟨form, -, found⟩ := List.exists_of_findSome?_eq_some h
    obtain ⟨⟨p, _⟩, -, same⟩ := Option.map_eq_some_iff.1 found
    cases same
    rfl

/-- What is read as an item is spanned by the tokens that it takes, and the last of them is firm. -/
def ItemSpanned (fuel : Nat) (tokens rest : List Token) (item : Item) : Prop :=
  ∃ row, tokens = row ++ rest ∧ EndsFirm row ∧ ∀ scope modules index,
    Spanned row (sitesOfItem scope modules index item)
      (spansOfItem scope modules index row fuel item)

/-- What is read as items is spanned by their tokens. -/
def ItemsSpanned (fuel : Nat) (tokens : List Token) (items : List Item) : Prop :=
  ∀ scope modules index,
    Spanned tokens (sitesOfItems scope modules index items)
      (spansOfItems scope modules index fuel tokens)

theorem itemSpanned_flat {fuel : Nat} {tokens rest : List Token} {item : Item}
    (flat : item.isInlineModule = false) (passes : Passes tokens rest item.places)
    (firm : StopsFirm tokens rest) : ItemSpanned (fuel + 1) tokens rest item := by
  obtain ⟨row, same, stands⟩ := passes
  obtain ⟨row', same', firm⟩ := firm
  obtain rfl : row = row' := List.append_cancel_right (same.symm.trans same')
  refine ⟨row, same, firm, fun scope modules index => ?_⟩
  cases item with
  | inlineModule head items => cases flat
  | struct s => exact .single stands
  | plain p => exact .single stands
  | verbatim tokens => exact .single stands
  | generated code => exact .single stands

/-- The braces at the end of a row hold inner attributes and then a body. -/
theorem bodyOf_eq {front content body : List Token} {d : Delimiter} {p q : Position}
    {inner : List Attribute} (h : Attribute.readInner? content = some (inner, body)) :
    bodyOf (front ++ [.group d content p q]) = body := by
  simp [bodyOf, h]

section

variable {front content body : List Token} {p q : Position} {attributes inner : List Attribute}
  (head : ModuleHead) (items : List Item)
  (stands : ∀ r ∈ attributes.flatMap Attribute.places ++ [head.name.position], r ∈ places front)
  (innerRead : Attribute.readInner? content = some (inner, body))
include stands innerRead

/-- What is kept of a module stands in it, before its body. -/
theorem lt_of_mem_modulePlaces (ordered : Ordered (front ++ [.group .brace content p q])) :
    ∀ r ∈ (Item.inlineModule { head with attributes := attributes ++ inner } items).places,
      r ∈ places (front ++ [.group .brace content p q]) ∧ ∀ s ∈ places body, r < s := by
  obtain ⟨innerPasses, stops⟩ := Attribute.readInner?_passes innerRead
  have inContent := innerPasses.places_rest
  have ofFront (r : Position) (here : r ∈ places front) :
      r ∈ places (front ++ [.group .brace content p q]) ∧ ∀ s ∈ places body, r < s := by
    rw [places_append]
    exact ⟨List.mem_append_left _ here, fun s after =>
      ordered.lt_content nofun r here s (inContent s after)⟩
  refine Item.forall_mem_places.2 ⟨?_, ?_, nofun⟩
  · intro r here
    simp only [Item.attributes, List.flatMap_append, List.mem_append] at here
    rcases here with here | here
    · exact ofFront r (stands r (List.mem_append_left _ here))
    · -- Inner attributes stand in the braces, and the body after them.
      obtain ⟨used, same, innerStands⟩ := innerPasses
      have inUsed := innerStands r here
      constructor
      · simp only [same, places_append, places_group, List.mem_append, List.mem_cons]
        tauto
      · rcases stops with rfl | ⟨used', same', firm⟩
        · have empty : used = [] := by simpa using same
          rw [empty] at inUsed
          cases inUsed
        · obtain rfl : used = used' := List.append_cancel_right (same.symm.trans same')
          have ordered' : Ordered (used ++ body) := same ▸ ordered.right.content
          exact ordered'.lt firm r inUsed
  · intro n named
    obtain rfl := List.mem_singleton.1 named
    exact ofFront _ (stands _ (by simp))

theorem itemSpanned_module {fuel : Nat} {rest : List Token}
    (spanned : Ordered body → ItemsSpanned fuel body items)
    (ordered : Ordered (front ++ .group .brace content p q :: rest)) :
    ItemSpanned (fuel + 1) (front ++ .group .brace content p q :: rest) rest
      (.inlineModule { head with attributes := attributes ++ inner } items) := by
  have split : front ++ .group .brace content p q :: rest =
      front ++ [.group .brace content p q] ++ rest := by simp
  rw [split] at ordered ⊢
  have bodyPasses := (Attribute.readInner?_passes innerRead).1
  have kept := lt_of_mem_modulePlaces head items stands innerRead ordered.left
  refine ⟨_, rfl, endsFirm_group.append front, fun scope modules index => ?_⟩
  rw [spansOfItem, bodyOf_eq innerRead]
  refine (spanned (bodyPasses.ordered_rest ordered.left.right.content) _ _ 0).around ?_
    (fun r here => (kept r here).1) (fun s inside => ?_) fun r here => (kept r here).2
  · intro r here
    have inContent := bodyPasses.places_rest r here
    simp only [places_append, places_group, List.mem_append, List.mem_cons]
    tauto
  · obtain ⟨i, -, down, path⟩ := path_of_mem_sitesOfItems items inside
    exact ⟨i :: down, path.symm⟩

end

section

variable {fuel : Nat}
  (ofItems : ∀ tokens items, readItems? fuel tokens = some items → Ordered tokens →
    ItemsSpanned fuel tokens items)
include ofItems

theorem itemSpanned_of_readItem? {tokens rest : List Token} {item : Item}
    (h : readItem? (fuel + 1) tokens = some (item, rest)) (ordered : Ordered tokens) :
    ItemSpanned (fuel + 1) tokens rest item := by
  rw [readItem?] at h
  obtain ⟨⟨attributes, after⟩, outer, h⟩ := Option.bind_eq_some_iff.1 h
  have before := Attribute.readOuter?_passes outer
  dsimp only at h
  split at h
  case h_1 head content opens closes rest' headRead =>
    obtain ⟨⟨inner, body⟩, innerRead, h⟩ := Option.bind_eq_some_iff.1 h
    obtain ⟨items, read, h⟩ := Option.bind_eq_some_iff.1 h
    cases h
    obtain ⟨-, headPasses⟩ := ModuleHead.read?_passes headRead
    obtain ⟨front, rfl, stands⟩ := before.append headPasses
    exact itemSpanned_module head items stands innerRead (ofItems body items read) ordered
  case h_2 =>
    split at h
    case h_1 found flat =>
      cases h
      obtain ⟨passes, firm⟩ := readFlatItem?_passes before flat
      exact itemSpanned_flat (isInlineModule_of_readFlatItem? flat) passes firm
    case h_2 =>
      obtain ⟨⟨taken, left⟩, read, h⟩ := Option.bind_eq_some_iff.1 h
      cases h
      exact itemSpanned_flat rfl (before.append (Rule.take?_passes read)).unplaced
        (before.stopsFirm (unreadItem_stopsFirm read))

theorem itemsSpanned_of_readItems?
    (ofItem : ∀ tokens item rest, readItem? fuel tokens = some (item, rest) → Ordered tokens →
      ItemSpanned fuel tokens rest item)
    {tokens : List Token} {items : List Item} (h : readItems? (fuel + 1) tokens = some items)
    (ordered : Ordered tokens) : ItemsSpanned (fuel + 1) tokens items := by
  intro scope modules index
  cases tokens with
  | nil =>
      rw [readItems?] at h
      cases h
      exact .nil
  | cons t tokens =>
      rw [readItems?] at h
      obtain ⟨⟨item, rest⟩, first, h⟩ := Option.bind_eq_some_iff.1 h
      obtain ⟨others, read, h⟩ := Option.bind_eq_some_iff.1 h
      cases h
      obtain ⟨row, same, firm, spanned⟩ := ofItem _ item rest first ordered
      have taken : (t :: tokens).take ((t :: tokens).length - rest.length) = row := by simp [same]
      rw [same] at ordered
      rw [spansOfItems, first]
      dsimp only
      rw [taken, same]
      exact (spanned scope modules index).append
        (ofItems rest others read ordered.right scope modules (index + 1)) (ordered.lt firm)

end

/-- Whatever the fuel, what is read as items is spanned. -/
theorem spanned_of_read (fuel : Nat) :
    (∀ tokens item rest, readItem? fuel tokens = some (item, rest) → Ordered tokens →
      ItemSpanned fuel tokens rest item) ∧
      ∀ tokens items, readItems? fuel tokens = some items → Ordered tokens →
        ItemsSpanned fuel tokens items := by
  induction fuel with
  | zero =>
      refine ⟨fun tokens item rest h => ?_, fun tokens items h => ?_⟩
      · rw [readItem?] at h
        cases h
      · cases tokens with
        | nil =>
            rw [readItems?] at h
            cases h
            exact fun _ _ _ _ => .nil
        | cons t tokens =>
            rw [readItems?] at h
            cases h
  | succ fuel ih =>
      obtain ⟨ofItem, ofItems⟩ := ih
      exact ⟨fun _ _ _ => itemSpanned_of_readItem? ofItems,
        fun _ _ => itemsSpanned_of_readItems? ofItems ofItem⟩

/-! ## Modules -/

/-- A place points into an item: it lies in the range of the item, in the range of no other item
but those around it, and it is not the start of the text. -/
structure PointsInto (spans : List Span) (site : Site) (p : Position) : Prop where
  /-- It lies in the range of the item. -/
  covered : ∃ s ∈ spans, s.site = site ∧ s.Covers p
  /-- An item whose range it lies in is the item or around it. -/
  innermost : ∀ s ∈ spans, s.Covers p → s.site.slot.path <+: site.slot.path
  /-- It is not where what stands nowhere is placed. -/
  notStart : p ≠ .start

theorem Span.Covers.of_mem {s : Span} {p : Position} (here : p ∈ places s.row) : s.Covers p :=
  ⟨⟨p, here, le_refl p⟩, ⟨p, here, le_refl p⟩⟩

/-- What is kept of an item stands in no range but that of the item and those around it. -/
theorem Spanned.innermost {row : List Token} {sites : List Site} {spans : List Span}
    (h : Spanned row sites spans) {s other : Span} (listed : s ∈ spans) (listed' : other ∈ spans)
    {p : Position} (kept : p ∈ s.site.item.places) (covers : other.Covers p) :
    other.site.slot.path <+: s.site.slot.path := by
  obtain ⟨⟨first, inFirst, le⟩, ⟨last, inLast, ge⟩⟩ := covers
  have here := h.stands s listed p kept
  let sides (a b : Span) : Prop := a = b ∨ a.Apart b ∨ b.Apart a
  have symmetric : Std.Symm sides := ⟨fun a b given => given.imp Eq.symm Or.symm⟩
  have apart : spans.Pairwise sides := h.apart.imp fun given => .inr (.inl given)
  have given : sides s other := apart.forall_of_forall (fun _ _ => .inl rfl) listed listed'
  rcases given with same | apart | apart
  · exact same ▸ List.prefix_refl _
  · rcases apart with before | ⟨around, -⟩
    · exact absurd le (not_le_of_gt (before p here first inFirst))
    · exact around
  · rcases apart with before | ⟨-, before⟩
    · exact absurd ge (not_le_of_gt (before last inLast p here))
    · exact absurd le (not_le_of_gt (before p kept first inFirst))

namespace Module

variable {text : String} {tokens : List Token} {m : Module}

/-- The items of a module that is read from a text lie apart in the body of the module, after the
start of the text. -/
theorem spanned_of_ofTokens? (h : tokens? text = some tokens) (read : ofTokens? tokens = some m) :
    Spanned (bodyOf tokens) m.sites (spansOf tokens) ∧
      ∀ p ∈ places (bodyOf tokens), Position.start < p := by
  obtain ⟨ordered, fromStart⟩ := ordered_of_tokens? h
  unfold ofTokens? at read
  obtain ⟨⟨attributes, after⟩, outer, rest⟩ := Option.bind_eq_some_iff.1 read
  obtain ⟨⟨head, braces⟩, headRead, kept⟩ := Option.bind_eq_some_iff.1 rest
  obtain ⟨-, headPasses⟩ := ModuleHead.read?_passes headRead
  obtain ⟨front, rfl, stands⟩ := (Attribute.readOuter?_passes outer).append headPasses
  dsimp only at kept
  split at kept
  · obtain ⟨⟨inner, body⟩, innerRead, kept⟩ := Option.bind_eq_some_iff.1 kept
    obtain ⟨items, itemsRead, kept⟩ := Option.bind_eq_some_iff.1 kept
    cases kept
    have bodyPasses := (Attribute.readInner?_passes innerRead).1
    have bodyOrdered := bodyPasses.ordered_rest ordered.right.content
    rw [spansOf, bodyOf_eq innerRead]
    refine ⟨(spanned_of_read _).2 body items itemsRead bodyOrdered [] [] 0, fun p here => ?_⟩
    -- The name of the module stands before its body.
    have named := stands head.name.position (by simp)
    refine (fromStart _ ?_).trans_lt
      (ordered.lt_content nofun _ named p (bodyPasses.places_rest p here))
    rw [places_append]
    exact List.mem_append_left _ named
  · cases kept
    have empty (joint : Bool) (p : Position) : bodyOf (front ++ [.mark ';' joint p]) = [] := by
      simp [bodyOf]
    rw [spansOf, empty]
    exact ⟨.nil, nofun⟩
  · cases kept

/-- What is kept of an item of a module points into the item. -/
theorem pointsInto_of_mem_places (h : tokens? text = some tokens)
    (read : ofTokens? tokens = some m) {site : Site} (found : site ∈ m.sites) {p : Position}
    (kept : p ∈ site.item.places) : PointsInto (spansOf tokens) site p := by
  obtain ⟨spanned, afterStart⟩ := spanned_of_ofTokens? h read
  rw [← spanned.sites] at found
  obtain ⟨s, listed, rfl⟩ := List.mem_map.1 found
  have here := spanned.stands s listed p kept
  exact
    { covered := ⟨s, listed, rfl, .of_mem here⟩
      innermost := fun other listed' covers => spanned.innermost listed listed' kept covers
      notStart := (afterStart p (spanned.inside s listed p here)).ne' }

/-- The start of the text lies in no item. -/
theorem not_covers_start (h : tokens? text = some tokens) (read : ofTokens? tokens = some m) :
    ∀ s ∈ spansOf tokens, ¬ s.Covers .start := by
  obtain ⟨spanned, afterStart⟩ := spanned_of_ofTokens? h read
  rintro s listed ⟨⟨p, here, le⟩, -⟩
  exact absurd le (not_le_of_gt (afterStart p (spanned.inside s listed p here)))

end Module
end DomainValues
