import DomainValues.Proofs.Accounting
import DomainValues.Proofs.Addresses
import DomainValues.Proofs.Reachability
import DomainValues.Proofs.Redirecting

/-!
# What becomes a declaration

A struct with a directive is judged by rules in a fixed order, and the first one that it breaks is
reported (`StructItem.Judged`, one constructor for each verdict).  So an item is a declaration
exactly if it is a struct that breaks none (`Item.DeclaredAt`), and the code of a report says up to
which rule all went well (`Item.RejectedFor`).  The rules look at the item and at how deep it
stands.

A verdict depends neither on other items nor on where the directives stand among the other
attributes (`Site.verdict?_alike`, by cases on two items that are alike).

What passes through unread carries its attributes in its tokens, and a pass sees no directive there.

Main statement: `Module.acceptance_exact`.
-/

namespace DomainValues

/-! ## The rules -/

namespace StructItem

/-- The attributes that are directives. -/
def directives (s : StructItem) : List Attribute := s.attributes.filter Attribute.isDirective

/-- All that is asked of the form of a struct, wherever it stands. -/
structure WellShaped (s : StructItem) : Prop where
  /-- It has one directive. -/
  single : s.directives.length = 1
  /-- It has no list of fields. -/
  unit : s.fields = .unit
  /-- It has no parameters and no `where` clause. -/
  closed : s.generics = [] ∧ s.condition = none
  /-- It derives nothing that is generated. -/
  derives : ∀ a ∈ s.attributes, ∀ n ∈ a.derived, n.text ∉ generatedTraits

/-- The arguments of every directive can be read. -/
def Readable (s : StructItem) : Prop :=
  ∀ a ∈ s.directives, ∀ kind, a.kind? = some kind → ∃ d, Directive.ofAttribute kind a = .ok d

/-- A struct that stands so many modules deep is a declaration. -/
structure DeclaredAt (s : StructItem) (depth : Nat) : Prop where
  /-- It has the form of one. -/
  shape : s.WellShaped
  /-- The root sees it. -/
  seen : s.visibility.SeenFromRoot depth
  /-- Its arguments can be read. -/
  readable : s.Readable

/-- The verdict on a struct with directives that stands so many modules deep, by the first rule that
it breaks. -/
inductive Judged (s : StructItem) (depth : Nat) : Except Diagnostic Declaration → Prop where
  /-- It has several directives. -/
  | conflicting {report : Diagnostic} : 2 ≤ s.directives.length → report.code = .v1002 →
      Judged s depth (.error report)
  /-- It has one directive, and another form. -/
  | misshapen {report : Diagnostic} : s.directives.length = 1 → ¬ s.WellShaped →
      report.code = .v1001 → Judged s depth (.error report)
  /-- It has the form of a declaration, and the root does not see it. -/
  | unseen {report : Diagnostic} : s.WellShaped → ¬ s.visibility.SeenFromRoot depth →
      report.code = .v1003 → Judged s depth (.error report)
  /-- The root sees it, and its arguments cannot be read. -/
  | unreadable {report : Diagnostic} : s.WellShaped → s.visibility.SeenFromRoot depth →
      ¬ s.Readable → report.code = .v1004 → Judged s depth (.error report)
  /-- It is a declaration. -/
  | declared {d : Declaration} : s.DeclaredAt depth → Judged s depth (.ok d)

end StructItem

/-- An item that stands so many modules deep is a declaration. -/
def Item.DeclaredAt (item : Item) (depth : Nat) : Prop :=
  ∃ s, item = .struct s ∧ s.DeclaredAt depth

/-- The code of a report says which rule an item breaks first. -/
structure Item.RejectedFor (item : Item) (depth : Nat) (code : ErrorCode) : Prop where
  /-- It is a code of the scan. -/
  scan : code.isScan = true
  /-- A struct has several directives. -/
  conflicting : code = .v1002 ↔ ∃ s, item = .struct s ∧ 2 ≤ s.directives.length
  /-- A struct has the form of a declaration, and the root does not see it. -/
  unseen : code = .v1003 ↔
    ∃ s, item = .struct s ∧ s.WellShaped ∧ ¬ s.visibility.SeenFromRoot depth
  /-- The root sees such a struct, and its arguments cannot be read. -/
  unreadable : code = .v1004 ↔
    ∃ s, item = .struct s ∧ s.WellShaped ∧ s.visibility.SeenFromRoot depth ∧ ¬ s.Readable

/-! ## Verdicts -/

theorem Item.map_fst_directives (item : Item) :
    item.directives.map Prod.fst = item.attributes.filter Attribute.isDirective := by
  rw [directives, List.map_filterMap, ← List.filterMap_eq_filter]
  refine List.filterMap_congr fun a _ => ?_
  rw [Option.map_map, Option.guard, ← Attribute.isSome_kind?]
  cases a.kind? <;> rfl

theorem Item.kind?_of_mem_directives {item : Item} {directive : Attribute × Kind}
    (h : directive ∈ item.directives) : directive.1.kind? = some directive.2 := by
  obtain ⟨a, -, given⟩ := List.mem_filterMap.1 h
  obtain ⟨kind, hasKind, rfl⟩ := Option.map_eq_some_iff.1 given
  exact hasKind

namespace Site

theorem generatedDerive?_eq_none_iff {s : StructItem} :
    generatedDerive? s = none ↔
      ∀ a ∈ s.attributes, ∀ n ∈ a.derived, n.text ∉ generatedTraits := by
  simp only [generatedDerive?, List.find?_eq_none, List.mem_flatMap, decide_eq_true_eq]
  constructor
  · intro none a found n listed
    exact none n ⟨a, found, listed⟩
  · rintro none n ⟨a, found, listed⟩
    exact none a found n listed

theorem wellShaped_iff {s : StructItem} :
    s.WellShaped ↔ s.directives.length = 1 ∧ s.fields.position? = none ∧
      (s.generics = [] ∧ s.condition = none) ∧ generatedDerive? s = none := by
  rw [Fields.position?_eq_none_iff, generatedDerive?_eq_none_iff]
  exact ⟨fun ⟨single, unit, closed, derives⟩ => ⟨single, unit, closed, derives⟩,
    fun ⟨single, unit, closed, derives⟩ => ⟨single, unit, closed, derives⟩⟩

/-- A struct that a rule keeps from the form of a declaration has a fault of its form. -/
theorem code_of_not_wellShaped (site : Site) {s : StructItem} (first : Attribute × Kind)
    (single : s.directives.length = 1) (misshapen : ¬ s.WellShaped) :
    ∃ report, site.ofStruct s first [] = .error report ∧ report.code = .v1001 := by
  unfold ofStruct shapeFaults
  cases fields : s.fields.position? with
  | some position => exact ⟨_, rfl, rfl⟩
  | none =>
      by_cases closed : s.generics = [] ∧ s.condition = none
      · cases derives : generatedDerive? s with
        | some derive => exact ⟨_, by simp [closed]; rfl, rfl⟩
        | none => exact absurd (wellShaped_iff.2 ⟨single, fields, closed, derives⟩) misshapen
      · have open' : ¬ (s.generics.isEmpty && s.condition.isNone) = true := by simpa using closed
        exact ⟨_, by simp [open']; rfl, rfl⟩

/-- The verdict on a struct follows the rules. -/
theorem judged_ofStruct {site : Site} {s : StructItem} {first : Attribute × Kind}
    {others : List (Attribute × Kind)} (directives : (Item.struct s).directives = first :: others) :
    s.Judged site.scope.length (site.ofStruct s first others) := by
  have attributes : s.directives = first.1 :: others.map Prod.fst := by
    have mapped := Item.map_fst_directives (.struct s)
    rw [directives] at mapped
    exact mapped.symm
  have kind : first.1.kind? = some first.2 :=
    Item.kind?_of_mem_directives (directives ▸ List.mem_cons_self)
  cases others with
  | cons second more => exact .conflicting (by simp [attributes]) rfl
  | nil =>
      have single : s.directives.length = 1 := by simp [attributes]
      by_cases shaped : s.WellShaped
      case neg =>
        obtain ⟨report, failed, code⟩ := code_of_not_wellShaped site first single shaped
        rw [failed]
        exact .misshapen single shaped code
      obtain ⟨-, unit, closed, derives⟩ := wellShaped_iff.1 shaped
      by_cases seen : s.visibility.SeenFromRoot site.scope.length
      case neg =>
        have unseen := Visibility.reaches_iff.not.2 seen
        have faults : site.shapeFaults s [] =
            [(.unreachable s.name.text (joinNames site.scope), s.name.position)] := by
          simp [shapeFaults, unit, closed, derives, unseen]
        rw [ofStruct, faults]
        exact .unseen shaped seen rfl
      have faults : site.shapeFaults s [] = [] :=
        shapeFaults_eq_nil_iff.2 ⟨rfl, unit, closed, derives, Visibility.reaches_iff.2 seen⟩
      rw [ofStruct, faults]
      dsimp only
      cases read : Directive.ofAttribute first.2 first.1 with
      | error e =>
          refine .unreadable shaped seen (fun readable => ?_) rfl
          obtain ⟨d, ok⟩ := readable first.1 (by simp [attributes]) first.2 kind
          rw [read] at ok
          cases ok
      | ok directive =>
          refine .declared ⟨shaped, seen, fun a found kind' given => ?_⟩
          rw [attributes, List.map_nil, List.mem_singleton] at found
          subst found
          obtain rfl := Option.some.inj (kind.symm.trans given)
          exact ⟨directive, read⟩

/-- An item with directives that is no struct is reported as such. -/
theorem verdict?_of_not_struct {site : Site}
    (marked : site.item.attributes.any Attribute.isDirective = true)
    (other : ∀ s, site.item ≠ .struct s) :
    ∃ report, site.verdict? = some (.error report) ∧ report.code = .v1001 := by
  unfold verdict?
  split
  case h_1 none =>
    rw [Item.directives_eq_nil_iff.1 none] at marked
    cases marked
  case h_2 first others _ =>
    split
    case h_1 s item => exact absurd item (other s)
    case h_2 => exact ⟨_, rfl, rfl⟩

/-- A struct with a directive has the verdict of the rules. -/
theorem verdict?_of_struct {site : Site} {s : StructItem} (item : site.item = .struct s)
    (marked : site.item.attributes.any Attribute.isDirective = true) :
    ∃ verdict, site.verdict? = some verdict ∧ s.Judged site.scope.length verdict := by
  unfold verdict?
  split
  case h_1 none =>
    rw [Item.directives_eq_nil_iff.1 none] at marked
    cases marked
  case h_2 first others directives =>
    rw [item] at directives ⊢
    exact ⟨_, rfl, judged_ofStruct directives⟩

end Site

/-- A struct that is reported breaks the rule that the code says. -/
theorem StructItem.Judged.rejectedFor {s : StructItem} {depth : Nat} {report : Diagnostic}
    (judged : s.Judged depth (.error report)) :
    ¬ s.DeclaredAt depth ∧ (Item.struct s).RejectedFor depth report.code := by
  cases judged with
  | conflicting several code =>
      have misshapen : ¬ s.WellShaped := fun shape => by
        have := shape.single
        omega
      refine ⟨fun declared => misshapen declared.shape, by rw [code]; rfl, ?_, ?_, ?_⟩
      all_goals simp [code, several, misshapen]
  | misshapen single misshapen code =>
      refine ⟨fun declared => misshapen declared.shape, by rw [code]; rfl, ?_, ?_, ?_⟩
      all_goals simp [code, single, misshapen]
  | unseen shape unseen code =>
      refine ⟨fun declared => unseen declared.seen, by rw [code]; rfl, ?_, ?_, ?_⟩
      all_goals simp [code, shape.single, shape, unseen]
  | unreadable shape seen unreadable code =>
      refine ⟨fun declared => unreadable declared.readable, by rw [code]; rfl, ?_, ?_, ?_⟩
      all_goals simp [code, shape.single, shape, seen, unreadable]

/-- What the rules say of an item at a depth. -/
inductive Item.Treated (item : Item) (depth : Nat) :
    Option (Except Diagnostic Declaration) → Prop where
  /-- It has no directive that a pass sees. -/
  | ignored : item.attributes.any Attribute.isDirective = false → ¬ item.DeclaredAt depth →
      Treated item depth none
  /-- It has one and is reported. -/
  | rejected {report : Diagnostic} : item.attributes.any Attribute.isDirective = true →
      ¬ item.DeclaredAt depth → item.RejectedFor depth report.code →
      Treated item depth (some (.error report))
  /-- It is a declaration. -/
  | declared {d : Declaration} : item.DeclaredAt depth → Treated item depth (some (.ok d))

/-- A site treats its item by the rules. -/
theorem Site.treated (site : Site) : site.item.Treated site.scope.length site.verdict? := by
  cases marked : site.item.attributes.any Attribute.isDirective with
  | false =>
      have none := Option.isNone_iff_eq_none.1 (by simpa [marked] using site.isSome_verdict?)
      rw [none]
      refine .ignored marked ?_
      rintro ⟨s, item, declared⟩
      have single := declared.shape.single
      rw [item] at marked
      have nothing : s.directives = [] := List.filter_eq_nil_iff.2 (List.any_eq_false.1 marked)
      rw [nothing] at single
      cases single
  | true =>
      by_cases isStruct : ∃ s, site.item = .struct s
      · obtain ⟨s, item⟩ := isStruct
        obtain ⟨verdict, given, judged⟩ := verdict?_of_struct item marked
        rw [given]
        cases verdict with
        | error report =>
            obtain ⟨notDeclared, rejected⟩ := judged.rejectedFor
            refine .rejected marked ?_ (item ▸ rejected)
            rintro ⟨s', item', declared⟩
            cases item.symm.trans item'
            exact notDeclared declared
        | ok d =>
            cases judged with
            | declared declared => exact .declared ⟨s, item, declared⟩
      · push Not at isStruct
        obtain ⟨report, given, code⟩ := verdict?_of_not_struct marked isStruct
        rw [given]
        refine .rejected marked (fun ⟨s, item, _⟩ => isStruct s item) ?_
        refine ⟨by rw [code]; rfl, ?_, ?_, ?_⟩
        all_goals simp [code, isStruct]

/-! ## What a verdict does not depend on -/

/-- Two lists of attributes have the same directives and the same other attributes, each in the same
order. -/
structure Attribute.Shuffled (attributes others : List Attribute) : Prop where
  /-- They have the same directives. -/
  directives : attributes.filter isDirective = others.filter isDirective
  /-- They have the same other attributes. -/
  plain : withoutDirectives attributes = withoutDirectives others

/-- Two items are alike but for their positions, for where the directives stand among the other
attributes, and for what a scan has no rule about. -/
inductive Item.Alike : Item → Item → Prop where
  /-- Modules, whatever is in them. -/
  | module {head head' : ModuleHead} {items items' : List Item} :
      Attribute.Shuffled (head.attributes.map Attribute.unplaced)
        (head'.attributes.map Attribute.unplaced) →
      Alike (.inlineModule head items) (.inlineModule head' items')
  /-- Structs that are the same apart from their attributes. -/
  | struct {s s' : StructItem} :
      Attribute.Shuffled s.unplaced.attributes s'.unplaced.attributes →
      { s.unplaced with attributes := [] } = { s'.unplaced with attributes := [] } →
      Alike (.struct s) (.struct s')
  /-- Other items of one sort. -/
  | plain {p p' : PlainItem} :
      Attribute.Shuffled p.unplaced.attributes p'.unplaced.attributes →
      p.unplaced.kind = p'.unplaced.kind → Alike (.plain p) (.plain p')
  /-- What passes through unread. -/
  | verbatim {tokens tokens' : List Token} : Alike (.verbatim tokens) (.verbatim tokens')
  /-- What a pass put there. -/
  | generated {code code' : List Code.Item} : Alike (.generated code) (.generated code')

/-- Alike items stand in modules of the same names. -/
structure Site.Alike (site other : Site) : Prop where
  /-- The modules around them have the same names. -/
  scope : site.scope.map Name.unplaced = other.scope.map Name.unplaced
  /-- The items are alike. -/
  item : site.item.Alike other.item

/-- No directive derives anything. -/
theorem Attribute.flatMap_derived (attributes : List Attribute) :
    (withoutDirectives attributes).flatMap derived = attributes.flatMap derived := by
  induction attributes with
  | nil => rfl
  | cons a rest ih =>
      rw [withoutDirectives, List.filter_cons, List.flatMap_cons, ← ih]
      split
      case isTrue => rfl
      case isFalse directive =>
        have derives : a.derived = [] := by
          refine derived_of_isDirective ?_
          rw [← isSome_kind?]
          exact Option.isSome_iff_ne_none.2 (by simpa using directive)
        rw [derives]
        rfl

theorem Attribute.Shuffled.directives_eq {item item' : Item}
    (shuffled : Shuffled item.attributes item'.attributes) :
    item.directives = item'.directives := by
  have ofFilter (item : Item) : item.directives = (item.attributes.filter isDirective).filterMap
      fun a => a.kind?.map fun kind => (a, kind) := by
    rw [List.filterMap_filter, Item.directives]
    refine List.filterMap_congr fun a _ => ?_
    rw [← isSome_kind?]
    cases a.kind? <;> rfl
  rw [ofFilter, ofFilter, shuffled.directives]

/-- The verdict on a struct does not depend on where its directives stand among the other
attributes. -/
theorem Site.ofStruct_shuffled {scope : List Name} {slot : Slot} {s s' : StructItem}
    (shuffled : Attribute.Shuffled s.attributes s'.attributes)
    (same : { s with attributes := [] } = { s' with attributes := [] })
    (first : Attribute × Kind) (others : List (Attribute × Kind)) :
    (⟨scope, slot, .struct s⟩ : Site).ofStruct s first others =
      (⟨scope, slot, .struct s'⟩ : Site).ofStruct s' first others := by
  obtain ⟨attributes, visibility, name, generics, condition, fields⟩ := s
  obtain ⟨attributes', _, _, _, _, _⟩ := s'
  cases same
  have derives : generatedDerive? ⟨attributes, visibility, name, generics, condition, fields⟩ =
      generatedDerive? ⟨attributes', visibility, name, generics, condition, fields⟩ := by
    rw [generatedDerive?, generatedDerive?, ← Attribute.flatMap_derived, shuffled.plain,
      Attribute.flatMap_derived]
  unfold ofStruct shapeFaults
  rw [derives]
  have plain : Attribute.withoutDirectives attributes = Attribute.withoutDirectives attributes' :=
    shuffled.plain
  simp only [plain]
  rfl

/-- Alike items in modules of the same names have the same verdict, up to positions. -/
theorem Site.verdict?_alike {site other : Site} (alike : site.Alike other) :
    site.verdict?.map (mapBoth Diagnostic.unplaced Declaration.unplaced) =
      other.verdict?.map (mapBoth Diagnostic.unplaced Declaration.unplaced) := by
  obtain ⟨scope, slot, item⟩ := site
  obtain ⟨scope', slot', item'⟩ := other
  obtain ⟨scopes, items⟩ := alike
  dsimp only at scopes items
  rw [← verdict?_outline, ← verdict?_outline]
  have directives : item.outline.directives = item'.outline.directives := by
    refine Attribute.Shuffled.directives_eq ?_
    cases items with
    | module shuffled => exact shuffled
    | struct shuffled => exact shuffled
    | plain shuffled => exact shuffled
    | verbatim => exact ⟨rfl, rfl⟩
    | generated => exact ⟨rfl, rfl⟩
  unfold verdict?
  rw [outline, outline, scopes]
  dsimp only
  rw [directives]
  cases item'.outline.directives with
  | nil => rfl
  | cons first others =>
      cases items with
      | module => rfl
      | struct shuffled same => exact congrArg some (ofStruct_shuffled shuffled same first others)
      | @plain p p' _ same =>
          have words : (Item.plain p.unplaced).describe = (Item.plain p'.unplaced).describe := by
            simp only [Item.describe, same]
          let verdict (words : String) : Except Diagnostic Declaration :=
            .error ((ShapeFault.notAStruct first.2.directiveName words).diagnostic first.1.position)
          exact congrArg (fun words => some (verdict words)) words
      | verbatim => rfl
      | generated => rfl

/-! ## Whole modules -/

namespace Module

variable {m : Module}

/-- The declarations of a module that stand at a slot. -/
def declarationsAt (m : Module) (slot : Slot) : List Declaration :=
  m.discover.declarations.filter fun d => d.slot = slot

/-- The reports of the scan, each with the slot of the item that it is about. -/
def scanReports (m : Module) : List (Slot × Diagnostic) := m.sites.filterMap Site.rejection?

/-- The reports of the scan that are about the item at a slot. -/
def reportsAt (m : Module) (slot : Slot) : List Diagnostic :=
  (m.scanReports.filter fun r => r.1 = slot).map Prod.snd

/-- What is said of the item at a site is what the rules say, and it is said once. -/
structure JudgesByRules (m : Module) (site : Site) : Prop where
  /-- An item that is a declaration gives one and is not reported. -/
  declared : site.item.DeclaredAt site.scope.length →
    (∃ d, m.declarationsAt site.slot = [d]) ∧ m.reportsAt site.slot = []
  /-- No other item gives a declaration. -/
  notDeclared : ¬ site.item.DeclaredAt site.scope.length → m.declarationsAt site.slot = []
  /-- Another item with a directive has one report, which says what rule it breaks, exactly if it
  does not pass through unread. -/
  rejected : site.item.isMarked = true → ¬ site.item.DeclaredAt site.scope.length →
    ((∃ report, m.reportsAt site.slot = [report] ∧
      site.item.RejectedFor site.scope.length report.code) ↔ site.item.isVerbatim = false)
  /-- Nothing else is reported. -/
  unmarked : site.item.isMarked = false ∨ site.item.isVerbatim = true → m.reportsAt site.slot = []

/-- Where a key is found once, what comes of the element with the key is all that has the key. -/
theorem filter_filterMap_of_nodup {α β γ : Type} [DecidableEq γ] {key : α → γ} {keyOf : β → γ}
    {f : α → Option β} (keeps : ∀ a b, f a = some b → keyOf b = key a) {l : List α} {a : α}
    (nodup : (l.map key).Nodup) (found : a ∈ l) :
    (l.filterMap f).filter (fun b => keyOf b = key a) = (f a).toList := by
  induction l with
  | nil => cases found
  | cons first rest ih =>
      obtain ⟨fresh, nodup⟩ := List.nodup_cons.1 nodup
      rcases List.mem_cons.1 found with rfl | found
      · have later : (rest.filterMap f).filter (fun b => keyOf b = key a) = [] := by
          refine List.filter_eq_nil_iff.2 fun b given same => fresh ?_
          obtain ⟨other, inRest, given⟩ := List.mem_filterMap.1 given
          rw [← of_decide_eq_true same, keeps other b given]
          exact List.mem_map_of_mem inRest
        cases given : f a with
        | none => simpa [given] using later
        | some b => simp [given, keeps a b given, later]
      · have apart : key first ≠ key a := fun same => fresh (same ▸ List.mem_map_of_mem found)
        cases given : f first with
        | none => simpa [given] using ih nodup found
        | some b => simpa [given, keeps first b given, apart] using ih nodup found

theorem declarationsAt_eq {site : Site} (found : site ∈ m.sites) :
    m.declarationsAt site.slot = site.declared?.toList := by
  rw [declarationsAt, declarations_eq_sites]
  refine filter_filterMap_of_nodup (fun other d given => ?_) m.slots_nodup found
  obtain ⟨s, declares⟩ := Site.declared?_eq_some_iff.1 given
  exact declares.slot

theorem reportsAt_eq {site : Site} (found : site ∈ m.sites) :
    m.reportsAt site.slot = (site.rejection?.map Prod.snd).toList := by
  have kept : m.scanReports.filter (fun r => r.1 = site.slot) = site.rejection?.toList := by
    refine filter_filterMap_of_nodup (fun other r given => ?_) m.slots_nodup found
    unfold Site.rejection? at given
    split at given
    case h_1 => rw [← Option.some.inj given]
    case h_2 => cases given
  rw [reportsAt, kept]
  cases site.rejection? <;> rfl

/-- A scan judges every item by the rules. -/
theorem judgesByRules {site : Site} (found : site ∈ m.sites) : m.JudgesByRules site := by
  have declarations := declarationsAt_eq found
  have reports := reportsAt_eq found
  have treated := site.treated
  unfold Site.declared? at declarations
  unfold Site.rejection? at reports
  generalize site.verdict? = verdict at declarations reports treated
  cases treated with
  | ignored unseen notDeclared =>
      refine ⟨fun declared => absurd declared notDeclared, fun _ => declarations,
        fun marked _ => ⟨?_, fun read => ?_⟩, fun _ => reports⟩
      · rintro ⟨report, some, -⟩
        rw [reports] at some
        cases some
      · rw [Item.isMarked_of_read read, unseen] at marked
        cases marked
  | @rejected report seen notDeclared rejected =>
      have read : site.item.isVerbatim = false := by
        refine Bool.eq_false_iff.2 fun unread => ?_
        rw [Item.attributes_of_unread unread] at seen
        cases seen
      refine ⟨fun declared => absurd declared notDeclared, fun _ => declarations,
        fun _ _ => ⟨fun _ => read, fun _ => ⟨report, reports, rejected⟩⟩, ?_⟩
      rintro (unmarked | unread)
      · rw [Item.isMarked_of_read read, seen] at unmarked
        cases unmarked
      · rw [read] at unread
        cases unread
  | @declared d declared =>
      exact ⟨fun _ => ⟨⟨d, declarations⟩, reports⟩, absurd declared,
        fun _ notDeclared => absurd declared notDeclared, fun _ => reports⟩

/-- Alike items have the same declarations and reports in whatever modules they stand. -/
theorem same_of_alike {m' : Module} {site other : Site} (found : site ∈ m.sites)
    (found' : other ∈ m'.sites) (alike : site.Alike other) :
    (m.declarationsAt site.slot).map Declaration.unplaced =
        (m'.declarationsAt other.slot).map Declaration.unplaced ∧
      (m.reportsAt site.slot).map Diagnostic.unplaced =
        (m'.reportsAt other.slot).map Diagnostic.unplaced := by
  have same := Site.verdict?_alike alike
  rw [declarationsAt_eq found, declarationsAt_eq found', reportsAt_eq found, reportsAt_eq found',
    Site.declared?, Site.declared?, Site.rejection?, Site.rejection?]
  generalize site.verdict? = verdict at same ⊢
  generalize other.verdict? = verdict' at same ⊢
  -- Verdicts that agree up to positions are of one sort.
  rcases verdict with _ | report | d <;> rcases verdict' with _ | report' | d' <;>
    simp_all [Except.toOption]

/-- A scan judges every item once, by the rules about the item and its depth.  Neither other items
nor the arrangement of its attributes make a difference, and nothing else is reported. -/
theorem acceptance_exact (m : Module) :
    (∀ site : Site, site.StandsIn m → m.JudgesByRules site) ∧
    (m.discover.diagnostics = m.scanReports.map Prod.snd ∧
      ∀ r ∈ m.scanReports, ∃ site : Site, site.StandsIn m ∧ site.slot = r.1) ∧
    ∀ (m' : Module) (site other : Site), site.StandsIn m → other.StandsIn m' → site.Alike other →
      (m.declarationsAt site.slot).map Declaration.unplaced =
          (m'.declarationsAt other.slot).map Declaration.unplaced ∧
        (m.reportsAt site.slot).map Diagnostic.unplaced =
          (m'.reportsAt other.slot).map Diagnostic.unplaced := by
  simp only [← mem_sites_iff_standsIn]
  refine ⟨fun site found => judgesByRules found, ⟨m.discover_diagnostics_eq, fun r reported => ?_⟩,
    fun m' site other found found' alike => same_of_alike found found' alike⟩
  obtain ⟨site, found, given⟩ := List.mem_filterMap.1 reported
  unfold Site.rejection? at given
  split at given
  case h_1 => exact ⟨site, found, by rw [← Option.some.inj given]⟩
  case h_2 => cases given

/-- A declared macro with a directive is no declaration, and nothing is said of it. -/
theorem unread_not_rejected :
    let m := ofItems [.unreadMacro [.directive .identifier] "make"]
    ∃ site : Site, site.StandsIn m ∧ site.item.isMarked = true ∧
      ¬ site.item.DeclaredAt site.scope.length ∧ m.declarationsAt site.slot = [] ∧
        m.reportsAt site.slot = [] ∧ m.discover.diagnostics = [] := by
  intro m
  refine ⟨⟨[], ⟨[], 0⟩, .unreadMacro [.directive .identifier] "make"⟩, ⟨_, .here, rfl⟩,
    by decide +kernel, ?_, rfl, rfl, rfl⟩
  rintro ⟨s, item, -⟩
  cases item

end Module
end DomainValues
