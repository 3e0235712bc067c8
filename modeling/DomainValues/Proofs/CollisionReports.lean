import DomainValues.Proofs.UnorderedCollisions

/-!
# What is kept, and why the rest is not

A declaration is *uncontested* if its name is declared once in the whole tree of modules and nothing
around it has its name or that of its adapter (`Uncontested`).  Unlike the test of a pass, which
compares the joined keys of modules, this compares the names around a declaration with those around
an item one by one.  For names that can be identifiers both are the same (`namespaceKey_eq_iff`).

Every other declaration is reported once.  The report of a name that is declared more than once
lists the other declarations of that name in order (`Explains`).

Main statement: `findCollisions_exact`.
-/

namespace DomainValues

/-! ## Keys of modules -/

/-- A name can be an identifier: it has a character, and no colon. -/
def Name.IsSegment (n : Name) : Prop := n.bare ≠ "" ∧ ':' ∉ n.bare.toList

instance (n : Name) : Decidable n.IsSegment := inferInstanceAs (Decidable (_ ∧ _))

/-- What stands before the first colon of a text is found again. -/
theorem append_colon_inj {a b rest rest' : List Char} (noneA : ':' ∉ a) (noneB : ':' ∉ b)
    (same : a ++ ':' :: rest = b ++ ':' :: rest') : a = b ∧ rest = rest' := by
  induction a generalizing b with
  | nil =>
      cases b with
      | nil => exact ⟨rfl, (List.cons.inj same).2⟩
      | cons c b =>
          obtain ⟨rfl, -⟩ := List.cons.inj same
          exact absurd List.mem_cons_self noneB
  | cons c a ih =>
      cases b with
      | nil =>
          obtain ⟨rfl, -⟩ := List.cons.inj same
          exact absurd List.mem_cons_self noneA
      | cons d b =>
          obtain ⟨rfl, tail⟩ := List.cons.inj same
          simp only [List.mem_cons, not_or] at noneA noneB
          obtain ⟨rfl, rest⟩ := ih noneA.2 noneB.2 tail
          exact ⟨rfl, rest⟩

/-- Texts with characters and without colons are found again where they are joined by `::`. -/
theorem intercalate_colons_inj {a b : List (List Char)} (inA : ∀ s ∈ a, s ≠ [] ∧ ':' ∉ s)
    (inB : ∀ s ∈ b, s ≠ [] ∧ ':' ∉ s)
    (same : [':', ':'].intercalate a = [':', ':'].intercalate b) : a = b := by
  induction a generalizing b with
  | nil =>
      rcases b with _ | ⟨t, _ | ⟨u, b⟩⟩
      · rfl
      · exact absurd (by simpa using same.symm) (inB t List.mem_cons_self).1
      · simp at same
  | cons s a ih =>
      have first := inA s List.mem_cons_self
      rcases b with _ | ⟨t, b⟩
      · rcases a with _ | ⟨u, a⟩
        · exact absurd (by simpa using same) first.1
        · simp at same
      have other := inB t List.mem_cons_self
      rcases a with _ | ⟨u, a⟩ <;> rcases b with _ | ⟨v, b⟩
      · simpa using same
      · simp only [List.intercalate_singleton, List.intercalate_cons_cons] at same
        exact absurd (by simp [same]) first.2
      · simp only [List.intercalate_singleton, List.intercalate_cons_cons] at same
        exact absurd (by simp [← same]) other.2
      · simp only [List.intercalate_cons_cons, List.append_assoc, List.cons_append,
          List.nil_append] at same
        obtain ⟨rfl, rest⟩ := append_colon_inj first.2 other.2 same
        have below := ih (fun w found => inA w (List.mem_cons_of_mem _ found))
          (fun w found => inB w (List.mem_cons_of_mem _ found)) (List.cons.inj rest).2
        rw [below]

/-- Modules have one key exactly if the names around and of them are the same without `r#`. -/
theorem namespaceKey_eq_iff {a b : List Name} (inA : ∀ n ∈ a, n.IsSegment)
    (inB : ∀ n ∈ b, n.IsSegment) : namespaceKey a = namespaceKey b ↔ bareNames a = bareNames b := by
  have texts {scope : List Name} (segments : ∀ n ∈ scope, n.IsSegment) :
      ∀ s ∈ (bareNames scope).map String.toList, s ≠ [] ∧ ':' ∉ s := by
    intro s found
    obtain ⟨_, named, rfl⟩ := List.mem_map.1 found
    obtain ⟨n, inScope, rfl⟩ := List.mem_map.1 named
    exact ⟨fun none => (segments n inScope).1 (String.toList_eq_nil_iff.1 none),
      (segments n inScope).2⟩
  constructor
  · intro same
    have rows := congrArg String.toList same
    rw [namespaceKey, namespaceKey, String.toList_intercalate, String.toList_intercalate] at rows
    have lists := intercalate_colons_inj (texts inA) (texts inB) rows
    exact List.map_injective_iff.2 (fun _ _ => String.toList_inj.1) lists
  · intro same
    rw [namespaceKey, namespaceKey, same]

/-! ## Uncontested declarations -/

/-- How many declarations have a name. -/
def timesDeclared (declarations : List Declaration) (name : String) : Nat :=
  (declarations.map fun e => e.name.bare).count name

/-- Nothing has the names that a declaration needs.  Names are compared without `r#`. -/
structure Uncontested (declarations : List Declaration) (names : List NamedItem) (registry : Ident)
    (d : Declaration) : Prop where
  /-- Its name is declared once, in whatever module. -/
  once : timesDeclared declarations d.name.bare = 1
  /-- It is no declaration at the root that is named like the registration type. -/
  notRegistry : ¬ (d.scope = [] ∧ d.name.bare = registry.name)
  /-- Its adapter is not named like an item of its module. -/
  adapterFree : ∀ n ∈ names, bareNames n.scope = bareNames d.scope → n.name.bare ≠ d.adapter.name
  /-- It is no declaration at the root whose adapter is named like the registration type. -/
  adapterNotRegistry : ¬ (d.scope = [] ∧ d.adapter.name = registry.name)

theorem uncontested_iff {declarations : List Declaration} {names : List NamedItem}
    {registry : Ident} {d : Declaration} :
    Uncontested declarations names registry d ↔
      timesDeclared declarations d.name.bare = 1 ∧
        ¬ (d.scope = [] ∧ d.name.bare = registry.name) ∧
        (∀ n ∈ names, bareNames n.scope = bareNames d.scope → n.name.bare ≠ d.adapter.name) ∧
        ¬ (d.scope = [] ∧ d.adapter.name = registry.name) :=
  ⟨fun ⟨once, own, free, adapter⟩ => ⟨once, own, free, adapter⟩,
    fun ⟨once, own, free, adapter⟩ => ⟨once, own, free, adapter⟩⟩

instance (declarations : List Declaration) (names : List NamedItem) (registry : Ident)
    (d : Declaration) : Decidable (Uncontested declarations names registry d) :=
  decidable_of_iff' _ uncontested_iff

/-- The declarations at other places that have the name of one. -/
def otherSites (declarations : List Declaration) (index : Nat) (d : Declaration) :
    List Declaration :=
  (declarations.eraseIdx index).filter fun e => e.name.bare == d.name.bare

/-- Whether a report says what a declaration collides with.  A name that is declared more than once
comes first. -/
structure Explains (declarations : List Declaration) (index : Nat) (d : Declaration)
    (report : Diagnostic) : Prop where
  /-- It stands at the name. -/
  position : report.position = d.name.position
  /-- A name that is declared more than once has a code of its own, and the note lists the other
  declarations of it. -/
  repeated : 1 < timesDeclared declarations d.name.bare →
    report.code = .v3001 ∧ otherSites declarations index d ≠ [] ∧
      report.notes = ["also declared as " ++ ", ".intercalate
        ((otherSites declarations index d).map fun e => "`" ++ e.qualified ++ "`")]
  /-- All else that is taken has another code. -/
  taken : timesDeclared declarations d.name.bare = 1 → report.code = .v3002 ∧ report.notes = []

/-- A declaration at an index has a report that explains why it is not kept. -/
structure RejectedAs (declarations : List Declaration) (a : Declaration × Nat)
    (r : Declaration × Diagnostic) : Prop where
  /-- The report is that of this declaration. -/
  declaration : r.1 = a.1
  /-- It explains why. -/
  explains : Explains declarations a.2 a.1 r.2

/-- What was found out about some declarations. -/
structure Collisions.Judges (c : Collisions) (declarations : List Declaration)
    (names : List NamedItem) (registry : Ident) : Prop where
  /-- The uncontested declarations are kept, in their order. -/
  kept : c.kept = declarations.filter fun d => Uncontested declarations names registry d
  /-- The others are rejected, in their order. -/
  rejected : c.rejected.map Prod.fst =
    declarations.filter fun d => ¬ Uncontested declarations names registry d
  /-- Each of them has one report, which says why. -/
  explained : List.Forall₂ (RejectedAs declarations)
    (declarations.zipIdx.filter fun a => ¬ Uncontested declarations names registry a.1) c.rejected
  /-- Their reports come before those of other items, which are at the root and named like the
  registration type. -/
  first : ∃ others, c.diagnostics = c.rejected.map Prod.snd ++ others ∧
    ∀ report ∈ others, ∃ n ∈ names, n.scope = [] ∧ n.name.bare = registry.name ∧
      report = registryClash n.name
  /-- Of the declarations of one name that is declared more than once, none is kept and all are
  reported as such. -/
  allOrNone : ∀ name, 1 < timesDeclared declarations name →
    timesDeclared c.kept name = 0 ∧
      timesDeclared ((c.rejected.filter fun r => r.2.code == .v3001).map Prod.fst) name =
        timesDeclared declarations name

/-! ## Verdicts -/

/-- Elements that are chosen without looking at their indices. -/
theorem map_fst_filter_zipIdx {α : Type} (keep : α → Bool) (l : List α) (start : Nat) :
    ((l.zipIdx start).filter fun a => keep a.1).map Prod.fst = l.filter keep := by
  rw [← Function.comp_def keep Prod.fst, ← List.filter_map, List.zipIdx_map_fst]

/-- Leaving out the index of an element is leaving out the element at this index. -/
theorem filter_zipIdx_ne {α : Type} (keep : α → Bool) (l : List α) (start index : Nat) :
    ((l.zipIdx start).filter fun a => a.2 != start + index && keep a.1).map Prod.fst =
      (l.eraseIdx index).filter keep := by
  induction l generalizing start index with
  | nil => rfl
  | cons a rest ih =>
      cases index with
      | zero =>
          -- The first element is left out, and no later one has its index.
          have later : ((rest.zipIdx (start + 1)).filter fun b => b.2 != start && keep b.1) =
              (rest.zipIdx (start + 1)).filter fun b => keep b.1 := by
            refine List.filter_congr fun b found => ?_
            have := List.le_snd_of_mem_zipIdx found
            have ne : (b.2 != start) = true := by simp; omega
            rw [ne, Bool.true_and]
          simp only [List.zipIdx_cons, List.filter_cons, Nat.add_zero, bne_self_eq_false,
            Bool.false_and, Bool.false_eq_true, if_false, List.eraseIdx_cons_zero, later,
            map_fst_filter_zipIdx]
      | succ index =>
          have next := ih (start + 1) index
          have shifted : start + 1 + index = start + (index + 1) := by omega
          have ne : (start != start + (index + 1)) = true := by simp
          rw [shifted] at next
          simp only [List.zipIdx_cons, List.filter_cons, List.eraseIdx_cons_succ, ne, Bool.true_and,
            ← next]
          cases keep a <;> rfl

theorem namesakes_eq_otherSites (declarations : List Declaration) (index : Nat) (d : Declaration) :
    namesakes declarations index d = otherSites declarations index d := by
  have whole := filter_zipIdx_ne (fun e => e.name.bare == d.name.bare) declarations 0 index
  rw [Nat.zero_add] at whole
  exact whole

section

variable {declarations : List Declaration} {names : List NamedItem} {registry : Ident}

theorem timesDeclared_pos {d : Declaration} (found : d ∈ declarations) :
    0 < timesDeclared declarations d.name.bare :=
  List.count_pos_iff.2 (List.mem_map_of_mem found)

/-- Every name around a declaration or an item can be an identifier. -/
def ScopesSpelled (declarations : List Declaration) (names : List NamedItem) : Prop :=
  (∀ d ∈ declarations, ∀ n ∈ d.scope, n.IsSegment) ∧ ∀ item ∈ names, ∀ n ∈ item.scope, n.IsSegment

instance (declarations : List Declaration) (names : List NamedItem) :
    Decidable (ScopesSpelled declarations names) :=
  inferInstanceAs (Decidable ((∀ d ∈ declarations, ∀ n ∈ d.scope, n.IsSegment) ∧ _))

/-- The test of a pass finds nothing exactly if a declaration is uncontested. -/
theorem clash?_eq_none_iff_uncontested (spelled : ScopesSpelled declarations names) {index : Nat}
    {d : Declaration} (found : declarations[index]? = some d) :
    clash? declarations names registry index d = none ↔
      Uncontested declarations names registry d := by
  have inList := List.mem_of_getElem? found
  have alone := Iff.trans namesakes_eq_nil_iff.symm (namesakes_eq_nil_iff_count found)
  have positive := timesDeclared_pos inList
  have key {n : NamedItem} (listed : n ∈ names) :=
    namespaceKey_eq_iff (spelled.2 n listed) (spelled.1 d inList)
  rw [clash?_eq_none_iff]
  constructor
  · intro clear
    have single := alone.1 clear.unique
    refine ⟨?_, fun ⟨root, same⟩ => clear.notRegistry root same,
      fun n listed scope => clear.adapterFree n listed ((key listed).2 scope),
      fun ⟨root, same⟩ => clear.adapterNotRegistry root same⟩
    unfold timesDeclared at positive ⊢
    omega
  · intro free
    have once := free.once
    unfold timesDeclared at once
    refine ⟨alone.2 (by omega), fun root same => free.notRegistry ⟨root, same⟩,
      fun n listed scope => free.adapterFree n listed ((key listed).1 scope),
      fun root same => free.adapterNotRegistry ⟨root, same⟩⟩

/-- What a pass reports of a declaration explains why it is not kept. -/
theorem explains_of_clash? {index : Nat} {d : Declaration} {report : Diagnostic}
    (found : declarations[index]? = some d)
    (clash : clash? declarations names registry index d = some report) :
    Explains declarations index d report := by
  have alone := namesakes_eq_nil_iff_count found
  have others := namesakes_eq_otherSites declarations index d
  unfold clash? at clash
  dsimp only at clash
  split at clash
  case isTrue some =>
    obtain rfl := Option.some.inj clash
    have some : namesakes declarations index d ≠ [] := by simpa using some
    refine ⟨rfl, fun _ => ⟨rfl, others ▸ some, by rw [← others]; rfl⟩, fun once => ?_⟩
    unfold timesDeclared at once
    exact absurd (alone.2 (by omega)) some
  case isFalse none =>
    have none : namesakes declarations index d = [] := by simpa using none
    have single := alone.1 none
    have notRepeated : ¬ 1 < timesDeclared declarations d.name.bare := by
      unfold timesDeclared
      omega
    have taken {r : Diagnostic} (position : r.position = d.name.position) (code : r.code = .v3002)
        (notes : r.notes = []) : Explains declarations index d r :=
      ⟨position, fun repeated => absurd repeated notRepeated, fun _ => ⟨code, notes⟩⟩
    split at clash
    case isTrue =>
      obtain rfl := Option.some.inj clash
      exact taken rfl rfl rfl
    case isFalse =>
      split at clash
      case isTrue =>
        obtain rfl := Option.some.inj clash
        exact taken rfl rfl rfl
      case isFalse => cases clash

/-! ## All declarations -/

/-- What comes of the elements of a list, next to those that something comes of. -/
theorem forall₂_filterMap {α β : Type} (f : α → Option β) (l : List α) :
    List.Forall₂ (fun a b => a ∈ l ∧ f a = some b) (l.filter fun a => (f a).isSome)
      (l.filterMap f) := by
  induction l with
  | nil => exact .nil
  | cons a rest ih =>
      have tail := ih.imp fun b c (found : b ∈ rest ∧ f b = some c) =>
        And.intro (List.mem_cons_of_mem a found.1) found.2
      cases result : f a with
      | none => simpa [result] using tail
      | some b =>
          simp only [List.filterMap_cons, List.filter_cons, result, Option.isSome_some, if_true]
          exact .cons ⟨List.mem_cons_self, result⟩ tail

variable (registry) in
/-- A contested declaration is rejected with a report that explains why. -/
theorem rejected_explained (spelled : ScopesSpelled declarations names) :
    List.Forall₂ (RejectedAs declarations)
      (declarations.zipIdx.filter fun a => ¬ Uncontested declarations names registry a.1)
      (findCollisions declarations names registry).rejected := by
  let found (a : Declaration × Nat) : Option (Declaration × Diagnostic) :=
    (clash? declarations names registry a.2 a.1).map fun report => (a.1, report)
  have rejected : (findCollisions declarations names registry).rejected =
      declarations.zipIdx.filterMap found := List.filterMap_map ..
  have contested : (declarations.zipIdx.filter fun a => (found a).isSome) =
      declarations.zipIdx.filter fun a => ¬ Uncontested declarations names registry a.1 := by
    refine List.filter_congr fun a listed => ?_
    have judged : clash? declarations names registry a.2 a.1 = none ↔
        Uncontested declarations names registry a.1 :=
      clash?_eq_none_iff_uncontested spelled (List.mem_zipIdx_iff_getElem?.1 listed)
    rw [Option.isSome_map, Bool.eq_iff_iff, Option.isSome_iff_ne_none, decide_eq_true_iff]
    exact not_congr judged
  have paired := forall₂_filterMap found declarations.zipIdx
  rw [contested, ← rejected] at paired
  refine paired.imp fun a r ⟨listed, result⟩ => ?_
  obtain ⟨report, clash, rfl⟩ := Option.map_eq_some_iff.1 result
  exact ⟨rfl, explains_of_clash? (List.mem_zipIdx_iff_getElem?.1 listed) clash⟩

/-- Rejected declarations are those that have the reports. -/
theorem map_fst_of_rejectedAs {l : List (Declaration × Nat)} {l' : List (Declaration × Diagnostic)}
    (h : List.Forall₂ (RejectedAs declarations) l l') : l'.map Prod.fst = l.map Prod.fst := by
  induction h with
  | nil => rfl
  | cons first _ ih => rw [List.map_cons, List.map_cons, first.declaration, ih]

/-- A declaration that is rejected is declared once or more than once, and its report has the one
code or the other. -/
theorem filter_rejectedAs {l : List (Declaration × Nat)} {l' : List (Declaration × Diagnostic)}
    (inList : ∀ a ∈ l, a.1 ∈ declarations) (h : List.Forall₂ (RejectedAs declarations) l l') :
    List.Forall₂ (RejectedAs declarations)
      (l.filter fun a => 1 < timesDeclared declarations a.1.name.bare)
      (l'.filter fun r => r.2.code == .v3001) := by
  induction h with
  | nil => exact .nil
  | @cons a r l l' first _ ih =>
      have tail := ih fun b found => inList b (List.mem_cons_of_mem a found)
      have positive := timesDeclared_pos (inList a List.mem_cons_self)
      by_cases repeated : 1 < timesDeclared declarations a.1.name.bare
      · have code := (first.explains.repeated repeated).1
        simp only [List.filter_cons, repeated, code, decide_true, beq_self_eq_true, if_true]
        exact .cons first tail
      · have code := (first.explains.taken (by omega)).1
        simp only [List.filter_cons, repeated, code, decide_false]
        exact tail

/-- The declarations of names that are declared more than once are those whose reports say so. -/
theorem repeated_of_explained {rejected : List (Declaration × Diagnostic)}
    (explained : List.Forall₂ (RejectedAs declarations)
      (declarations.zipIdx.filter fun a => ¬ Uncontested declarations names registry a.1)
      rejected) :
    (rejected.filter fun r => r.2.code == .v3001).map Prod.fst =
      declarations.filter fun d => 1 < timesDeclared declarations d.name.bare := by
  have inList : ∀ a ∈ declarations.zipIdx.filter fun a =>
      ¬ Uncontested declarations names registry a.1, a.1 ∈ declarations := by
    intro a found
    exact List.mem_of_getElem? (List.mem_zipIdx_iff_getElem?.1 (List.mem_of_mem_filter found))
  have whole (d : Declaration) : (decide (1 < timesDeclared declarations d.name.bare) &&
      decide ¬ Uncontested declarations names registry d) =
        decide (1 < timesDeclared declarations d.name.bare) := by
    by_cases repeated : 1 < timesDeclared declarations d.name.bare
    · have contested : ¬ Uncontested declarations names registry d := by
        intro free
        have := free.once
        omega
      simp [repeated, contested]
    · simp [repeated]
  rw [map_fst_of_rejectedAs (filter_rejectedAs inList explained), List.filter_filter]
  simp only [whole]
  exact map_fst_filter_zipIdx
    (fun d => decide (1 < timesDeclared declarations d.name.bare)) declarations 0

/-- What is kept and what is reported of any declarations and names, exactly. -/
theorem findCollisions_exact (spelled : ScopesSpelled declarations names) :
    (findCollisions declarations names registry).Judges declarations names registry := by
  have explained := rejected_explained registry spelled
  have kept : (findCollisions declarations names registry).kept =
      declarations.filter fun d => Uncontested declarations names registry d := by
    have judged : ∀ a ∈ declarations.zipIdx,
        (clash? declarations names registry a.2 a.1).isNone =
          decide (Uncontested declarations names registry a.1) := by
      intro a listed
      rw [Bool.eq_iff_iff, Option.isNone_iff_eq_none, decide_eq_true_iff]
      exact clash?_eq_none_iff_uncontested spelled (List.mem_zipIdx_iff_getElem?.1 listed)
    rw [kept_eq_filter, List.filter_congr judged]
    exact map_fst_filter_zipIdx (fun d => decide (Uncontested declarations names registry d)) _ 0
  refine ⟨kept, ?_, explained, ⟨_, rfl, ?_⟩, ?_⟩
  · rw [map_fst_of_rejectedAs explained]
    exact map_fst_filter_zipIdx (fun d => decide ¬ Uncontested declarations names registry d) _ 0
  · intro report reported
    unfold findCollisions at reported
    dsimp only at reported
    split at reported
    case isTrue => cases reported
    case isFalse =>
      obtain ⟨n, taker, rfl⟩ := List.mem_map.1 reported
      obtain ⟨listed, taker⟩ := List.mem_filter.1 taker
      simp only [Bool.and_eq_true, List.isEmpty_iff, beq_iff_eq] at taker
      exact ⟨n, listed, taker.1, taker.2, rfl⟩
  · intro name repeated
    constructor
    · refine List.count_eq_zero.2 fun found => ?_
      obtain ⟨d, inKept, rfl⟩ := List.mem_map.1 found
      rw [kept, List.mem_filter, decide_eq_true_iff] at inKept
      have := inKept.2.once
      omega
    · have own : ((declarations.filter fun d => 1 < timesDeclared declarations d.name.bare).map
          fun e => e.name.bare) = (declarations.map fun e => e.name.bare).filter fun other =>
            1 < timesDeclared declarations other := by
        rw [List.filter_map]
        rfl
      rw [repeated_of_explained explained, timesDeclared, own]
      exact List.count_filter (by simpa using repeated)

/-- A name that is declared at the root and in a module is kept in neither, and an adapter collides
with an item of its own module only. -/
theorem nested_judged :
    let m := Module.ofItems
      [.unitStruct [.directive .identifier] .everywhere "OrderId",
       .unitStruct [] .everywhere "TotalJsonAdapter",
       .moduleOf .everywhere "shop"
        [.unitStruct [.directive .identifier] .everywhere "OrderId",
         .unitStruct [.directive .identifier] .everywhere "Total",
         .unitStruct [] .everywhere "RateJsonAdapter",
         .unitStruct [.directive .identifier] .everywhere "Rate"]]
    let found := m.discover
    let c := found.collisions (.plain "ValueTypes")
    ScopesSpelled found.declarations found.names ∧
      c.kept.map Declaration.qualified = ["shop::Total"] ∧
      c.rejected.map (fun r => r.1.qualified) = ["OrderId", "shop::OrderId", "shop::Rate"] := by
  intro m found c
  have spelled : ScopesSpelled found.declarations found.names := by decide +kernel
  have judged : c.Judges found.declarations found.names (.plain "ValueTypes") :=
    findCollisions_exact spelled
  have kept : c.kept = _ := judged.kept
  have rejected : c.rejected.map Prod.fst = _ := judged.rejected
  refine ⟨spelled, ?_, ?_⟩
  · rw [kept]
    decide +kernel
  · rw [← Function.comp_def Declaration.qualified Prod.fst, ← List.map_map, rejected]
    decide +kernel

end
end DomainValues
