import DomainValues.Module.Reader
import DomainValues.Module.Site

/-!
# Modules that are read

A module that is read from tokens holds no generated code, and the attributes of its structs stand
before them (`Module.IsSource`).

Main statement: `Module.isSource_of_ofTokens?`.
-/

namespace DomainValues

open Source

/-- An item that was read is no generated code, and the attributes of a struct stand before it. -/
def Item.IsRead : Item → Prop
  | .generated _ => False
  | .struct s => ∀ a ∈ s.attributes, a.inner = false
  | _ => True

/-- All items of a module were read. -/
def Module.IsSource (m : Module) : Prop := ∀ site ∈ m.sites, site.item.IsRead

namespace Attribute

theorem inner_of_ofContent? {p : Position} {inner : Bool} {content : List Token} {a : Attribute}
    (h : ofContent? p inner content = some a) : a.inner = inner := by
  unfold ofContent? at h
  obtain ⟨⟨path, rest⟩, -, h⟩ := Option.bind_eq_some_iff.1 h
  dsimp only at h
  split at h
  · obtain rfl := Option.some.inj h
    rfl
  · obtain rfl := Option.some.inj h
    rfl
  · obtain ⟨⟨value, after⟩, -, h⟩ := Option.bind_eq_some_iff.1 h
    split at h
    · obtain rfl := Option.some.inj h
      rfl
    · cases h

/-- What is read before an item stands before it. -/
theorem outer_of_readOuter? {tokens rest : List Token} {attributes : List Attribute}
    (h : readOuter? tokens = some (attributes, rest)) : ∀ a ∈ attributes, a.inner = false := by
  induction tokens using readOuter?.induct generalizing attributes rest with
  | case1 joint p content opens closes after ih =>
      rw [readOuter?] at h
      obtain ⟨first, read, h⟩ := Option.bind_eq_some_iff.1 h
      obtain ⟨⟨more, rest'⟩, others, h⟩ := Option.bind_eq_some_iff.1 h
      obtain ⟨rfl, -⟩ := Prod.mk.inj (Option.some.inj h)
      intro a found
      rcases List.mem_cons.1 found with rfl | found
      · exact inner_of_ofContent? read
      · exact ih others a found
  | case2 p joint rest other =>
      rw [readOuter?] at h
      · cases h
      · exact other
  | case3 tokens other other' =>
      rw [readOuter?] at h
      · obtain ⟨rfl, -⟩ := Prod.mk.inj (Option.some.inj h)
        nofun
      · exact other
      · exact other'

end Attribute

theorem StructItem.attributes_of_read? {attributes : List Attribute} {tokens rest : List Token}
    {s : StructItem} (h : StructItem.read? attributes tokens = some (s, rest)) :
    s.attributes = attributes := by
  unfold read? at h
  obtain ⟨⟨_, _⟩, -, h⟩ := Option.bind_eq_some_iff.1 h
  obtain ⟨⟨_, _⟩, -, h⟩ := Option.bind_eq_some_iff.1 h
  dsimp only at h
  split at h
  case h_1 =>
    obtain ⟨⟨_, _⟩, -, h⟩ := Option.bind_eq_some_iff.1 h
    obtain ⟨⟨_, _, _⟩, -, h⟩ := Option.bind_eq_some_iff.1 h
    obtain ⟨rfl, -⟩ := Prod.mk.inj (Option.some.inj h)
    rfl
  case h_2 => cases h

theorem isRead_of_readFlatItem? {attributes : List Attribute} {tokens rest : List Token}
    {item : Item} (outer : ∀ a ∈ attributes, a.inner = false)
    (h : readFlatItem? attributes tokens = some (item, rest)) :
    item.IsRead ∧ ∀ scope modules index,
      sitesOfItem scope modules index item = [⟨scope, ⟨modules, index⟩, item⟩] := by
  unfold readFlatItem? at h
  split at h
  case h_1 s _ read =>
    obtain ⟨rfl, -⟩ := Prod.mk.inj (Option.some.inj h)
    refine ⟨?_, fun _ _ _ => rfl⟩
    rw [Item.IsRead, StructItem.attributes_of_read? read]
    exact outer
  case h_2 =>
    obtain ⟨form, -, found⟩ := List.exists_of_findSome?_eq_some h
    obtain ⟨⟨p, _⟩, -, same⟩ := Option.map_eq_some_iff.1 found
    obtain ⟨rfl, -⟩ := Prod.mk.inj same
    exact ⟨trivial, fun _ _ _ => rfl⟩

/-- An item and all in it were read. -/
def Item.AllRead (item : Item) : Prop :=
  ∀ scope modules index, ∀ site ∈ sitesOfItem scope modules index item, site.item.IsRead

/-- Items and all in them were read. -/
def AllRead (items : List Item) : Prop :=
  ∀ scope modules index, ∀ site ∈ sitesOfItems scope modules index items, site.item.IsRead

theorem AllRead.nil : AllRead [] := nofun

theorem AllRead.cons {item : Item} {rest : List Item} (first : item.AllRead)
    (others : AllRead rest) : AllRead (item :: rest) := by
  intro scope modules index site found
  rcases List.mem_append.1 found with found | found
  · exact first scope modules index site found
  · exact others scope modules (index + 1) site found

section

variable {fuel : Nat}
  (ofItems : ∀ tokens items, readItems? fuel tokens = some items → AllRead items)
include ofItems

theorem allRead_of_readItem? {tokens rest : List Token} {item : Item}
    (h : readItem? (fuel + 1) tokens = some (item, rest)) : item.AllRead := by
  intro scope modules index site found
  rw [readItem?] at h
  obtain ⟨⟨attributes, after⟩, outer, h⟩ := Option.bind_eq_some_iff.1 h
  dsimp only at h
  split at h
  case h_1 =>
    obtain ⟨⟨inner, content⟩, -, h⟩ := Option.bind_eq_some_iff.1 h
    obtain ⟨items, read, h⟩ := Option.bind_eq_some_iff.1 h
    obtain ⟨rfl, -⟩ := Prod.mk.inj (Option.some.inj h)
    rcases List.mem_append.1 found with found | found
    · exact ofItems content items read _ _ _ site found
    · rw [List.mem_singleton.1 found]
      trivial
  case h_2 =>
    split at h
    case h_1 flat =>
      obtain rfl := Option.some.inj h
      obtain ⟨read, alone⟩ := isRead_of_readFlatItem? (Attribute.outer_of_readOuter? outer) flat
      rw [alone] at found
      rw [List.mem_singleton.1 found]
      exact read
    case h_2 =>
      obtain ⟨⟨_, _⟩, -, h⟩ := Option.bind_eq_some_iff.1 h
      obtain ⟨rfl, -⟩ := Prod.mk.inj (Option.some.inj h)
      rw [List.mem_singleton.1 found]
      trivial

theorem allRead_of_readItems?
    (ofItem : ∀ tokens item rest, readItem? fuel tokens = some (item, rest) → item.AllRead)
    {tokens : List Token} {items : List Item}
    (h : readItems? (fuel + 1) tokens = some items) : AllRead items := by
  cases tokens with
  | nil =>
      rw [readItems?] at h
      obtain rfl := Option.some.inj h
      exact .nil
  | cons t tokens =>
      rw [readItems?] at h
      obtain ⟨⟨item, rest⟩, first, h⟩ := Option.bind_eq_some_iff.1 h
      obtain ⟨others, read, h⟩ := Option.bind_eq_some_iff.1 h
      obtain rfl := Option.some.inj h
      exact .cons (ofItem _ item rest first) (ofItems rest others read)

end

/-- Whatever the fuel, what is read as items was read, with all in it. -/
theorem allRead_of_read (fuel : Nat) :
    (∀ tokens item rest, readItem? fuel tokens = some (item, rest) → item.AllRead) ∧
      ∀ tokens items, readItems? fuel tokens = some items → AllRead items := by
  induction fuel with
  | zero =>
      refine ⟨fun tokens item rest h => ?_, fun tokens items h => ?_⟩
      · rw [readItem?] at h
        cases h
      · cases tokens with
        | nil =>
            rw [readItems?] at h
            obtain rfl := Option.some.inj h
            exact .nil
        | cons t tokens =>
            rw [readItems?] at h
            cases h
  | succ fuel ih =>
      obtain ⟨ofItem, ofItems⟩ := ih
      exact ⟨fun _ _ _ => allRead_of_readItem? ofItems,
        fun _ _ => allRead_of_readItems? ofItems ofItem⟩

namespace Module

/-- A module that is read holds what was read. -/
theorem isSource_of_ofTokens? {tokens : List Token} {m : Module} (h : ofTokens? tokens = some m) :
    m.IsSource := by
  unfold ofTokens? at h
  obtain ⟨⟨attributes, rest⟩, -, h⟩ := Option.bind_eq_some_iff.1 h
  obtain ⟨⟨head, rest'⟩, -, h⟩ := Option.bind_eq_some_iff.1 h
  dsimp only at h
  split at h
  · obtain ⟨⟨inner, content⟩, -, h⟩ := Option.bind_eq_some_iff.1 h
    obtain ⟨items, read, h⟩ := Option.bind_eq_some_iff.1 h
    obtain rfl := Option.some.inj h
    exact (allRead_of_read _).2 content items read [] [] 0
  · obtain rfl := Option.some.inj h
    nofun
  · cases h

end Module
end DomainValues
