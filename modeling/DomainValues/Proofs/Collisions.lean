import DomainValues.Collision
import DomainValues.Proofs.Discovery

/-!
# What collides

A declaration is *clear* at its index if its name is declared once, and neither the name nor the
name of its adapter is taken (`Clear`).

Main statements:

* `clash?_eq_none_iff`: the declarations without a report are the clear ones.
* `mem_kept_iff`, `kept_distinct`: the kept declarations are the clear ones, and their names are
  pairwise distinct.
* `kept_of_no_rejections`: if none is reported, all are kept.
-/

namespace DomainValues

/-! ## Clear declarations -/

theorem isTaken_iff {names : List NamedItem} {scope : List Name} {name : String} :
    isTaken names scope name = true ↔
      ∃ n ∈ names, namespaceKey n.scope = namespaceKey scope ∧ n.name.bare = name := by
  simp [isTaken]

theorem namesakes_eq_nil_iff {declarations : List Declaration} {index : Nat} {d : Declaration} :
    namesakes declarations index d = [] ↔
      ∀ i other, declarations[i]? = some other → other.name.bare = d.name.bare → i = index := by
  simp only [namesakes, List.map_eq_nil_iff, List.filter_eq_nil_iff, Prod.forall,
    List.mem_zipIdx_iff_getElem?, Bool.and_eq_true, bne_iff_ne, beq_iff_eq, not_and]
  exact ⟨fun h i other found same => by_contra fun ne => h other i found ne same,
    fun h other i found ne same => ne (h i other found same)⟩

/-- Nothing collides with a declaration at an index. -/
structure Clear (declarations : List Declaration) (names : List NamedItem) (registry : Ident)
    (index : Nat) (d : Declaration) : Prop where
  /-- No other declaration has its name. -/
  unique : ∀ i other, declarations[i]? = some other → other.name.bare = d.name.bare → i = index
  /-- At the root it is not named like the registration type. -/
  notRegistry : d.scope = [] → d.name.bare ≠ registry.name
  /-- No item around it is named like its adapter. -/
  adapterFree : ∀ n ∈ names, namespaceKey n.scope = namespaceKey d.scope →
    n.name.bare ≠ d.adapter.name
  /-- At the root its adapter is not named like the registration type. -/
  adapterNotRegistry : d.scope = [] → d.adapter.name ≠ registry.name

theorem clash?_eq_none_iff {declarations : List Declaration} {names : List NamedItem}
    {registry : Ident} {index : Nat} {d : Declaration} :
    clash? declarations names registry index d = none ↔
      Clear declarations names registry index d := by
  have free : Clear declarations names registry index d ↔
      namesakes declarations index d = [] ∧ ¬ (d.scope = [] ∧ d.name.bare = registry.name) ∧
        ¬ isTaken names d.scope d.adapter.name = true ∧
          ¬ (d.scope = [] ∧ d.adapter.name = registry.name) := by
    rw [namesakes_eq_nil_iff, isTaken_iff]
    constructor
    · intro clear
      exact ⟨clear.unique, fun ⟨root, same⟩ => clear.notRegistry root same,
        fun ⟨n, listed, scope, same⟩ => clear.adapterFree n listed scope same,
        fun ⟨root, same⟩ => clear.adapterNotRegistry root same⟩
    · rintro ⟨unique, notRegistry, free, adapterNotRegistry⟩
      exact ⟨unique, fun root same => notRegistry ⟨root, same⟩,
        fun n listed scope same => free ⟨n, listed, scope, same⟩,
        fun root same => adapterNotRegistry ⟨root, same⟩⟩
  rw [free]
  unfold clash?
  dsimp only
  cases namesakes declarations index d with
  | cons other rest => simp
  | nil =>
      by_cases root : d.scope = [] <;> by_cases named : d.name.bare = registry.name <;>
        cases isTaken names d.scope d.adapter.name <;> simp [root, named]

/-! ## Kept declarations -/

section

variable {declarations : List Declaration} {names : List NamedItem} {registry : Ident}

theorem mem_kept_iff {d : Declaration} :
    d ∈ (findCollisions declarations names registry).kept ↔
      ∃ i, declarations[i]? = some d ∧ Clear declarations names registry i d := by
  simp only [findCollisions, List.mem_filterMap, List.mem_map, Prod.exists,
    List.mem_zipIdx_iff_getElem?, ← clash?_eq_none_iff]
  constructor
  · rintro ⟨d', _, ⟨_, i, found, same⟩, kept⟩
    obtain ⟨rfl, rfl⟩ := Prod.mk.inj same
    split at kept
    case isTrue clear =>
      obtain rfl := Option.some.inj kept
      exact ⟨i, found, Option.isNone_iff_eq_none.1 clear⟩
    case isFalse => cases kept
  · rintro ⟨i, found, clear⟩
    exact ⟨d, none, ⟨d, i, found, by rw [clear]⟩, by simp⟩

theorem mem_of_mem_kept {d : Declaration}
    (h : d ∈ (findCollisions declarations names registry).kept) : d ∈ declarations := by
  obtain ⟨i, found, -⟩ := mem_kept_iff.1 h
  exact List.mem_of_getElem? found

theorem mem_rejected_iff {d : Declaration} {report : Diagnostic} :
    (d, report) ∈ (findCollisions declarations names registry).rejected ↔
      ∃ i, declarations[i]? = some d ∧
        clash? declarations names registry i d = some report := by
  simp only [findCollisions, List.mem_filterMap, List.mem_map, Prod.exists,
    List.mem_zipIdx_iff_getElem?]
  constructor
  · rintro ⟨d', _, ⟨_, i, found, same⟩, given⟩
    obtain ⟨rfl, rfl⟩ := Prod.mk.inj same
    obtain ⟨report', clashes, same⟩ := Option.map_eq_some_iff.1 given
    obtain ⟨rfl, rfl⟩ := Prod.mk.inj same
    exact ⟨i, found, clashes⟩
  · rintro ⟨i, found, clashes⟩
    exact ⟨d, some report, ⟨d, i, found, by rw [clashes]⟩, rfl⟩

/-- The kept declarations as those at some of the indices. -/
theorem kept_eq_filter :
    (findCollisions declarations names registry).kept =
      (declarations.zipIdx.filter fun (d, i) =>
        (clash? declarations names registry i d).isNone).map Prod.fst := by
  simp only [findCollisions, List.filterMap_map]
  rw [← List.filterMap_eq_map, ← List.filterMap_eq_filter, List.filterMap_filterMap]
  refine List.filterMap_congr fun (d, i) _ => ?_
  cases clear : clash? declarations names registry i d <;> simp [Option.guard, clear]

theorem kept_sublist : (findCollisions declarations names registry).kept.Sublist declarations := by
  have indices := (List.filter_sublist (l := declarations.zipIdx) (p := fun (d, i) =>
    (clash? declarations names registry i d).isNone)).map Prod.fst
  rwa [← kept_eq_filter, List.zipIdx_map_fst] at indices

/-- The names of kept declarations are pairwise distinct, wherever they stand. -/
theorem kept_distinct :
    (findCollisions declarations names registry).kept.Pairwise fun d e =>
      d.name.bare ≠ e.name.bare := by
  rw [kept_eq_filter, List.pairwise_map]
  have indices : declarations.zipIdx.Pairwise fun a b => a.2 ≠ b.2 := by
    rw [← List.pairwise_map (f := Prod.snd) (R := (· ≠ ·)), List.zipIdx_map_snd]
    exact List.nodup_range'
  refine (indices.filter _).imp_of_mem fun {a b} inA inB ne same => ne ?_
  obtain ⟨foundA, -⟩ := List.mem_filter.1 inA
  obtain ⟨-, clearB⟩ := List.mem_filter.1 inB
  have unique := (clash?_eq_none_iff.1 (Option.isNone_iff_eq_none.1 clearB)).unique
  exact unique a.2 a.1 (List.mem_zipIdx_iff_getElem?.1 foundA) same

/-- If no declaration is reported, all are kept. -/
theorem kept_of_no_rejections
    (h : (findCollisions declarations names registry).rejected = []) :
    (findCollisions declarations names registry).kept = declarations := by
  have clear : ∀ a ∈ declarations.zipIdx, clash? declarations names registry a.2 a.1 = none := by
    simpa [findCollisions] using h
  rw [kept_eq_filter, List.filter_eq_self.2 fun a found => by simp [clear a found],
    List.zipIdx_map_fst]

/-! ## The registration type -/

theorem registryAvailable_iff :
    (findCollisions declarations names registry).registryAvailable = true ↔
      ∀ n ∈ names, n.scope = [] → n.name.bare ≠ registry.name := by
  simp [findCollisions]

theorem exists_taker_of_mem_clashes {report : Diagnostic}
    (h : report ∈ (findCollisions declarations names registry).clashes) :
    ∃ n ∈ names, n.scope = [] ∧ n.name.bare = registry.name ∧ report = registryClash n.name := by
  unfold findCollisions at h
  dsimp only at h
  split at h
  · cases h
  · obtain ⟨n, listed, rfl⟩ := List.mem_map.1 h
    obtain ⟨known, taken⟩ := List.mem_filter.1 listed
    simp only [Bool.and_eq_true, List.isEmpty_iff, beq_iff_eq] at taken
    exact ⟨n, known, taken.1, taken.2, rfl⟩

/-- A taken name of the registration type is reported unless something declared has it. -/
theorem exists_declared_of_no_clashes
    (h : (findCollisions declarations names registry).clashes = [])
    (taken : (findCollisions declarations names registry).registryAvailable = false) :
    ∃ d ∈ declarations, d.name.bare = registry.name := by
  by_contra none
  have undeclared : (declarations.any fun d => d.name.bare == registry.name) = false := by
    simpa using none
  have noTakers := h
  simp only [findCollisions, undeclared, Bool.false_eq_true, if_false, List.map_eq_nil_iff]
    at noTakers taken
  rw [noTakers] at taken
  cases taken

end
end DomainValues
