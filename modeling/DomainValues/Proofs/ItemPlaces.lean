import DomainValues.Module.Reader
import DomainValues.Proofs.Taking

/-!
# The places of items

What is read of an item stands where the item is read: its attributes, the names that it
introduces, the brackets of its fields and its generic parameters (`Item.places`).  Every item ends
in a group or a semicolon, so that the next one starts after it.

Main statements: `readFlatItem?_passes`, `ModuleHead.read?_passes` and `unreadItem_stopsFirm`.
-/

namespace DomainValues

open Source Source.Grammar Token

/-! ## Places that are kept -/

/-- The places that are kept of what makes a struct more than a name. -/
def StructItem.shapePlaces (s : StructItem) : List Position :=
  s.fields.position?.toList ++ Token.places s.generics

namespace Item

/-- The places that are kept of what makes an item more than its names. -/
def shapePlaces : Item → List Position
  | .struct s => s.shapePlaces
  | _ => []

/-- The places that are kept of an item. -/
def places (item : Item) : List Position :=
  item.attributes.flatMap Attribute.places ++ item.names.map Name.position ++ item.shapePlaces

theorem forall_mem_places {item : Item} {holds : Position → Prop} :
    (∀ p ∈ item.places, holds p) ↔
      (∀ p ∈ item.attributes.flatMap Attribute.places, holds p) ∧
        (∀ n ∈ item.names, holds n.position) ∧ ∀ p ∈ item.shapePlaces, holds p := by
  simp only [places, List.forall_mem_append, List.forall_mem_map, and_assoc]

theorem places_of_attribute {item : Item} {a : Attribute} {p : Position}
    (listed : a ∈ item.attributes) (h : p ∈ a.places) : p ∈ item.places :=
  List.mem_append_left _ (List.mem_append_left _ (List.mem_flatMap.2 ⟨a, listed, h⟩))

theorem places_of_name {item : Item} {n : Name} (named : n ∈ item.names) :
    n.position ∈ item.places :=
  List.mem_append_left _ (List.mem_append_right _ (List.mem_map_of_mem named))

theorem places_of_shape {item : Item} {p : Position} (h : p ∈ item.shapePlaces) :
    p ∈ item.places :=
  List.mem_append_right _ h

end Item

/-! ## Names -/

theorem position_of_nameAfter? {keywords : List String} {row : List Token} {n : Name}
    (h : nameAfter? keywords row = some n) : n.position ∈ places row := by
  induction row using nameAfter?.induct keywords with
  | case1 i p keyword q k r tail =>
      rw [nameAfter?, if_pos keyword] at h
      cases h
      simp
  | case2 i p keyword q rest nameless =>
      rw [nameAfter?, if_pos keyword] at h
      · cases h
      · exact nameless
  | case3 i p keyword k r tail ordinary =>
      simp only [nameAfter?, if_pos keyword, if_neg ordinary] at h
      cases h
      simp
  | case4 i p rest keyword nameless =>
      rw [nameAfter?, if_pos keyword] at h
      · cases h
      · exact nameless
  | case5 i p rest ordinary ih =>
      unfold nameAfter? at h
      rw [if_neg ordinary] at h
      exact places_mono (List.subset_cons_self _ rest) _ (ih h)
  | case6 t rest noWord ih =>
      rw [nameAfter?] at h
      · exact places_mono (List.subset_cons_self t rest) _ (ih h)
      · exact noWord
  | case7 => cases h

theorem subset_of_mem_splitMarks {separator : Char} {row part : List Token}
    (h : part ∈ splitMarks separator row) : part ⊆ row := by
  induction row generalizing part with
  | nil =>
      rw [List.mem_singleton.1 h]
      exact List.Subset.refl _
  | cons t rest ih =>
      unfold splitMarks at h
      extract_lets isSeparator at h
      split at h
      case h_1 first parts split =>
        have inRest : ∀ q ∈ first :: parts, q ⊆ rest := fun q listed => ih (split ▸ listed)
        have grown := inRest first List.mem_cons_self
        have later : ∀ q ∈ parts, q ⊆ t :: rest := fun q listed =>
          List.subset_cons_of_subset t (inRest q (List.mem_cons_of_mem _ listed))
        split at h
        · rcases List.mem_cons.1 h with rfl | h
          · exact List.nil_subset _
          · rcases List.mem_cons.1 h with rfl | h
            · exact List.subset_cons_of_subset t grown
            · exact later part h
        · rcases List.mem_cons.1 h with rfl | h
          · exact List.cons_subset_cons t grown
          · exact later part h
      case h_2 =>
        rw [List.mem_singleton.1 h]
        exact List.cons_subset_cons t (List.nil_subset _)

theorem mem_namesAll_iff {parent : Option Name} {trees : List ImportTree} {n : Name} :
    n ∈ ImportTree.namesAll parent trees ↔ ∃ tree ∈ trees, n ∈ tree.names parent := by
  induction trees with
  | nil => simp [ImportTree.namesAll]
  | cons tree rest ih => simp [ImportTree.namesAll, ih]

theorem exists_of_mem_mapM {α β : Type} {f : α → Option β} {row : List α} {read : List β}
    (h : row.mapM f = some read) : ∀ b ∈ read, ∃ a ∈ row, f a = some b := by
  induction row generalizing read with
  | nil =>
      cases h
      nofun
  | cons a row ih =>
      rw [List.mapM_cons] at h
      obtain ⟨first, given, h⟩ := Option.bind_eq_some_iff.1 h
      obtain ⟨others, rest, h⟩ := Option.bind_eq_some_iff.1 h
      cases h
      intro b listed
      rcases List.mem_cons.1 listed with rfl | listed
      · exact ⟨a, List.mem_cons_self, given⟩
      · obtain ⟨a', found, given'⟩ := ih rest b listed
        exact ⟨a', List.mem_cons_of_mem _ found, given'⟩

/-- The names that an import introduces stand in it, apart from the module around it. -/
theorem position_of_readImportTree? {fuel : Nat} {row : List Token} {tree : ImportTree}
    (h : readImportTree? fuel row = some tree) (parent : Option Name) :
    ∀ n ∈ tree.names parent, n ∈ parent ∨ n.position ∈ places row := by
  induction fuel generalizing row tree parent with
  | zero => cases h
  | succ fuel ih =>
      unfold readImportTree? at h
      split at h
      · intro n named
        refine (ih h parent n named).imp_right fun here => ?_
        simp only [places_mark, List.mem_cons]
        exact .inr (.inr here)
      · cases h
        intro n named
        rw [ImportTree.names] at named
        split at named
        · exact .inl (Option.mem_toList.1 named)
        · rw [List.mem_singleton.1 named]
          exact .inr (by simp)
      · cases h
        intro n named
        rw [ImportTree.names, List.mem_singleton] at named
        rw [named]
        exact .inr (by simp)
      · obtain ⟨below, read, rfl⟩ := Option.map_eq_some_iff.1 h
        intro n named
        rw [ImportTree.names] at named
        simp only [places_word, places_mark, List.mem_cons]
        rcases ih read _ n named with inner | here
        · obtain rfl := Option.some.inj inner
          exact .inr (.inl rfl)
        · exact .inr (.inr (.inr (.inr here)))
      · cases h
        intro n named
        rw [ImportTree.names] at named
        cases named
      · obtain ⟨trees, read, rfl⟩ := Option.map_eq_some_iff.1 h
        intro n named
        rw [ImportTree.names] at named
        obtain ⟨below, listed, named⟩ := mem_namesAll_iff.1 named
        obtain ⟨part, kept, read⟩ := exists_of_mem_mapM read below listed
        refine (ih read parent n named).imp_right fun here => ?_
        have inContent := places_mono (subset_of_mem_splitMarks (List.mem_filter.1 kept).1) _ here
        simp only [places_group, List.mem_cons, List.mem_append]
        exact .inr (.inl inContent)
      · cases h

theorem position_of_readImport? {row : List Token} {tree : ImportTree}
    (h : readImport? row = some tree) : ∀ n ∈ tree.names none, n.position ∈ places row := by
  intro n named
  rcases position_of_readImportTree? h none n named with parent | here
  · cases parent
  · refine places_mono ?_ _ here
    exact ((List.dropLast_sublist _).trans ((List.drop_sublist 1 _).trans
      (List.dropWhile_sublist _))).subset

/-! ## Forms -/

/-- The names of the items of a form stand in their heads. -/
def Form.NamesStand (form : Form) : Prop :=
  ∀ head body kind, form.kind head body = some kind →
    ∀ n ∈ kind.names, n.position ∈ places head

theorem namesStand_named {rule : Part} {body : Option Part} {keyword : String}
    {kind : Name → ItemKind} (single : ∀ n, (kind n).names = [n]) :
    Form.NamesStand ⟨rule, body, named keyword kind⟩ := by
  intro head _ sort given n listed
  obtain ⟨name, found, rfl⟩ := Option.map_eq_some_iff.1 given
  rw [single, List.mem_singleton] at listed
  exact listed ▸ position_of_nameAfter? found

theorem namesStand_of_mem_forms : ∀ form ∈ forms, form.NamesStand := by
  simp only [forms, List.forall_mem_cons]
  refine ⟨namesStand_named fun _ => rfl, ?_, ?_, ?_, namesStand_named fun _ => rfl,
    namesStand_named fun _ => rfl, namesStand_named fun _ => rfl, namesStand_named fun _ => rfl,
    namesStand_named fun _ => rfl, namesStand_named fun _ => rfl, namesStand_named fun _ => rfl,
    namesStand_named fun _ => rfl, ?_, ?_, nofun⟩
  · intro head body kind given
    obtain ⟨name, -, rfl⟩ := Option.map_eq_some_iff.1 given
    nofun
  · intro head body kind given
    cases given
    nofun
  · intro head body kind given
    obtain ⟨tree, read, rfl⟩ := Option.map_eq_some_iff.1 given
    exact position_of_readImport? read
  · intro head body kind given
    cases given
    nofun
  · intro head body kind given
    cases given
    nofun

/-- An item without a body in braces ends in a group or a semicolon. -/
theorem endsFirm_of_mem_forms :
    ∀ form ∈ forms, form.body = none → form.head.endsFirm = true := by
  have all : forms.all (fun form => form.body.isSome || form.head.endsFirm) = true := by rfl
  intro form listed flat
  have holds := List.all_eq_true.1 all form listed
  rw [flat] at holds
  exact holds

section

variable {start row rest : List Token} {attributes : List Attribute}
  (before : Passes start row (attributes.flatMap Attribute.places))
include before

/-- A plain item stands where it is read, and the next item after it. -/
theorem Form.read?_passes {form : Form} (listed : form ∈ forms) {p : PlainItem}
    (h : form.read? attributes row = some (p, rest)) :
    Passes start rest (Item.plain p).places ∧ StopsFirm start rest := by
  unfold Form.read? at h
  obtain ⟨⟨head, mid⟩, read, h⟩ := Option.bind_eq_some_iff.1 h
  have headPasses := Rule.take?_passes read
  dsimp only at h
  split at h
  case h_1 flat =>
    obtain ⟨kind, given, h⟩ := Option.bind_eq_some_iff.1 h
    cases h
    have firm : StopsFirm row rest :=
      Rule.run_stopsFirm (endsFirm_of_mem_forms form listed flat) read
    refine ⟨(before.append headPasses).mono (Item.forall_mem_places.2 ⟨?_, ?_, nofun⟩),
      before.stopsFirm firm⟩
    · exact fun p here => List.mem_append_left _ here
    · exact fun n named => List.mem_append_right _
        (namesStand_of_mem_forms form listed head [] kind given n named)
  case h_2 rule braced =>
    split at h
    case h_1 content opens closes rest' =>
      obtain ⟨⟨inner, content'⟩, attributesRead, h⟩ := Option.bind_eq_some_iff.1 h
      obtain ⟨⟨body, left⟩, -, h⟩ := Option.bind_eq_some_iff.1 h
      dsimp only at h
      split at h
      case h_1 =>
        obtain ⟨kind, given, h⟩ := Option.bind_eq_some_iff.1 h
        cases h
        have innerPlaces := (Attribute.readInner?_passes attributesRead).1.mem_places
        have all := before.append (headPasses.append (.one _))
        refine ⟨all.mono (Item.forall_mem_places.2 ⟨?_, ?_, nofun⟩),
          before.stopsFirm (headPasses.stopsFirm ⟨[_], rfl, endsFirm_group⟩)⟩
        · intro p here
          simp only [Item.attributes, List.flatMap_append, List.mem_append] at here
          have known := innerPlaces p
          simp only [List.mem_append, places_group, List.mem_cons]
          tauto
        · intro n named
          have known := namesStand_of_mem_forms form listed head _ kind given n named
          simp only [List.mem_append]
          exact .inr (.inl known)
      case h_2 => cases h
    case h_2 => cases h

omit before in
theorem readCondition_passes (row : List Token) : Passes row (readCondition row).2 [] := by
  unfold readCondition
  split
  case h_1 i p tail condition rest read =>
    split
    · exact (Rule.take?_passes read).unplaced
    · exact .nothing
  case h_2 => exact .nothing

omit before in
theorem stopsFirm_of_semicolon {taken : List Token}
    (h : Grammar.take? (Rule.op ";") row = some (taken, rest)) : StopsFirm row rest :=
  Rule.run_stopsFirm rfl h

omit before in
/-- The fields of a struct stand where they are read, and the next item after them. -/
theorem readFields?_passes {condition : Option (List Token)} {fields : Fields}
    (h : readFields? row = some (condition, fields, rest)) :
    Passes row rest fields.position?.toList ∧ StopsFirm row rest := by
  unfold readFields? at h
  split at h
  case h_1 content opens closes tail =>
    obtain ⟨⟨content', left⟩, -, h⟩ := Option.bind_eq_some_iff.1 h
    dsimp only at h
    split at h
    case h_1 =>
      obtain ⟨⟨semicolon, rest'⟩, read, h⟩ := Option.bind_eq_some_iff.1 h
      cases h
      have opening : Passes (.group .parenthesis content opens closes :: tail)
          (readCondition tail).2 _ := (Passes.one _).append (readCondition_passes tail)
      refine ⟨(opening.append (Rule.take?_passes read)).mono ?_,
        opening.stopsFirm (stopsFirm_of_semicolon read)⟩
      simp [Fields.position?]
    case h_2 => cases h
  case h_2 =>
    have opening := readCondition_passes row
    obtain ⟨⟨written, left⟩, given⟩ : ∃ given, readCondition row = given := ⟨_, rfl⟩
    rw [given] at opening
    simp only [given] at h
    split at h
    case h_1 content opens closes tail =>
      obtain ⟨⟨content', left⟩, -, h⟩ := Option.bind_eq_some_iff.1 h
      split at h
      case h_1 =>
        cases h
        refine ⟨(opening.append (.one _)).mono ?_, opening.stopsFirm ⟨[_], rfl, endsFirm_group⟩⟩
        simp [Fields.position?]
      case h_2 => cases h
    case h_2 =>
      obtain ⟨⟨semicolon, rest'⟩, read, h⟩ := Option.bind_eq_some_iff.1 h
      cases h
      exact ⟨(opening.append (Rule.take?_passes read)).unplaced,
        opening.stopsFirm (stopsFirm_of_semicolon read)⟩

/-- A struct stands where it is read, and the next item after it. -/
theorem StructItem.read?_passes {s : StructItem}
    (h : StructItem.read? attributes row = some (s, rest)) :
    Passes start rest (Item.struct s).places ∧ StopsFirm start rest := by
  unfold StructItem.read? at h
  obtain ⟨⟨keyword, afterKeyword⟩, keywordRead, h⟩ := Option.bind_eq_some_iff.1 h
  obtain ⟨⟨name, afterName⟩, nameRead, h⟩ := Option.bind_eq_some_iff.1 h
  dsimp only at h
  split at h
  case h_1 i p after same =>
    cases same
    obtain ⟨⟨generics, afterGenerics⟩, genericsRead, h⟩ := Option.bind_eq_some_iff.1 h
    obtain ⟨⟨condition, fields, rest'⟩, fieldsRead, h⟩ := Option.bind_eq_some_iff.1 h
    cases h
    obtain ⟨fieldsPass, firm⟩ := readFields?_passes fieldsRead
    have head := before.append ((Visibility.take_passes row).append
      ((Rule.take?_passes keywordRead).append ((Rule.take?_passes nameRead).append
        (Rule.take?_passes genericsRead))))
    refine ⟨(head.append fieldsPass).mono (Item.forall_mem_places.2 ⟨?_, ?_, ?_⟩),
      head.stopsFirm firm⟩
    · intro p here
      simp only [List.mem_append]
      exact .inl (.inl here)
    · intro n named
      rw [List.mem_singleton.1 named]
      simp
    · intro p here
      simp only [Item.shapePlaces, StructItem.shapePlaces, List.mem_append] at here
      simp only [List.mem_append]
      tauto
  case h_2 => cases h

/-- An item that is no module stands where it is read, and the next item after it. -/
theorem readFlatItem?_passes {item : Item}
    (h : readFlatItem? attributes row = some (item, rest)) :
    Passes start rest item.places ∧ StopsFirm start rest := by
  unfold readFlatItem? at h
  split at h
  case h_1 s rest' read =>
    cases h
    exact StructItem.read?_passes before read
  case h_2 =>
    obtain ⟨form, listed, found⟩ := List.exists_of_findSome?_eq_some h
    obtain ⟨⟨p, rest'⟩, read, same⟩ := Option.map_eq_some_iff.1 found
    cases same
    exact Form.read?_passes before listed read

omit before in
/-- After what passes through verbatim, too, the next item stands. -/
theorem unreadItem_stopsFirm {taken : List Token}
    (h : Grammar.take? unreadItem row = some (taken, rest)) : StopsFirm row rest :=
  Rule.run_stopsFirm rfl h

omit before in
/-- The name of a module stands where the module is read up to its body. -/
theorem ModuleHead.read?_passes {head : ModuleHead}
    (h : ModuleHead.read? attributes row = some (head, rest)) :
    head.attributes = attributes ∧ Passes row rest [head.name.position] := by
  unfold ModuleHead.read? at h
  obtain ⟨⟨mark, afterMark⟩, markRead, h⟩ := Option.bind_eq_some_iff.1 h
  obtain ⟨⟨keyword, afterKeyword⟩, keywordRead, h⟩ := Option.bind_eq_some_iff.1 h
  obtain ⟨⟨name, afterName⟩, nameRead, h⟩ := Option.bind_eq_some_iff.1 h
  split at h
  case h_1 i p after same =>
    cases same
    cases h
    refine ⟨rfl, ?_⟩
    refine ((Visibility.take_passes row).append ((Rule.take?_passes markRead).append
      ((Rule.take?_passes keywordRead).append (Rule.take?_passes nameRead)))).mono ?_
    simp
  case h_2 => cases h

end

end DomainValues
