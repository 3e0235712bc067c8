import DomainValues.Proofs.Collisions
import DomainValues.Proofs.Outlines
import Mathlib.Data.List.NodupEquivFin

/-!
# Collisions without order

What collides with a declaration follows from how often its name is declared and from the names
that items introduce (`clashSummary?`), whatever the order of the declarations and the positions.

Main statements: `kept_perm`, `rejected_perm`, `clashes_perm` and `registryAvailable_eq_of_perm`.
Declarations and names that differ in order and positions have the same collisions.
-/

namespace DomainValues

/-- The code and the message of a report. -/
def Diagnostic.summary (report : Diagnostic) : ErrorCode × String := (report.code, report.message)

/-! ## Judging a declaration by its name -/

/-- What collides with a declaration, given the names of all declarations. -/
def clashSummary? (declared : List String) (names : List NamedItem) (registry : Ident)
    (d : Declaration) : Option (ErrorCode × String) :=
  if 2 ≤ declared.count d.name.bare then some (duplicateName d.name []).summary
  else (clash? [] names registry 0 d).map Diagnostic.summary

section

variable {declarations : List Declaration} {names : List NamedItem} {registry : Ident}

/-- A declaration has namesakes exactly if its name is declared twice. -/
theorem namesakes_eq_nil_iff_count {index : Nat} {d : Declaration}
    (found : declarations[index]? = some d) :
    namesakes declarations index d = [] ↔
      ¬ 2 ≤ (declarations.map fun e => e.name.bare).count d.name.bare := by
  rw [namesakes_eq_nil_iff, ← List.duplicate_iff_two_le_count,
    List.duplicate_iff_exists_distinct_get]
  constructor
  · rintro unique ⟨⟨i, inI⟩, ⟨j, inJ⟩, less, first, second⟩
    rw [List.length_map] at inI inJ
    simp only [List.get_eq_getElem, List.getElem_map] at first second
    have atI := unique i declarations[i] (List.getElem?_eq_getElem inI) first.symm
    have atJ := unique j declarations[j] (List.getElem?_eq_getElem inJ) second.symm
    exact Nat.ne_of_lt less (atI.trans atJ.symm)
  · intro single i other at_i same
    by_contra ne
    obtain ⟨inI, rfl⟩ := List.getElem?_eq_some_iff.1 at_i
    obtain ⟨inIndex, rfl⟩ := List.getElem?_eq_some_iff.1 found
    refine single ?_
    rcases Nat.lt_or_gt_of_ne ne with less | less
    · exact ⟨⟨i, by simpa using inI⟩, ⟨index, by simpa using inIndex⟩, less,
        by simpa using same.symm, by simp⟩
    · exact ⟨⟨index, by simpa using inIndex⟩, ⟨i, by simpa using inI⟩, less, by simp,
        by simpa using same.symm⟩

theorem summary_clash? {index : Nat} {d : Declaration} (found : declarations[index]? = some d) :
    (clash? declarations names registry index d).map Diagnostic.summary =
      clashSummary? (declarations.map fun e => e.name.bare) names registry d := by
  have alone := namesakes_eq_nil_iff_count found
  rw [clashSummary?]
  split
  case isTrue twice =>
    obtain ⟨other, rest, some⟩ := List.exists_cons_of_ne_nil (mt alone.1 (not_not.2 twice))
    rw [clash?, some]
    rfl
  case isFalse once =>
    rw [clash?, alone.2 once, clash?]
    rfl

theorem kept_eq_filter_summary :
    (findCollisions declarations names registry).kept = declarations.filter fun d =>
      (clashSummary? (declarations.map fun e => e.name.bare) names registry d).isNone := by
  have judged : ∀ a ∈ declarations.zipIdx, (clash? declarations names registry a.2 a.1).isNone =
      (clashSummary? (declarations.map fun e => e.name.bare) names registry a.1).isNone := by
    intro a listed
    rw [← summary_clash? (List.mem_zipIdx_iff_getElem?.1 listed), Option.isNone_map]
  rw [kept_eq_filter, List.filter_congr judged, ← Function.comp_def (fun d =>
    (clashSummary? (declarations.map fun e => e.name.bare) names registry d).isNone) Prod.fst,
    ← List.filter_map, List.zipIdx_map_fst]

theorem rejected_summaries :
    ((findCollisions declarations names registry).rejected.map fun r => r.2.summary) =
      declarations.filterMap
        (clashSummary? (declarations.map fun e => e.name.bare) names registry) := by
  have judged : ∀ a ∈ declarations.zipIdx,
      (clash? declarations names registry a.2 a.1).map Diagnostic.summary =
        clashSummary? (declarations.map fun e => e.name.bare) names registry a.1 :=
    fun a listed => summary_clash? (List.mem_zipIdx_iff_getElem?.1 listed)
  calc ((findCollisions declarations names registry).rejected.map fun r => r.2.summary)
    _ = declarations.zipIdx.filterMap fun a =>
          clashSummary? (declarations.map fun e => e.name.bare) names registry a.1 := by
      simp only [findCollisions, List.filterMap_map, List.map_filterMap]
      refine List.filterMap_congr fun a listed => ?_
      rw [← judged a listed]
      simp only [Function.comp_apply, Option.map_map]
      rfl
    _ = (declarations.zipIdx.map Prod.fst).filterMap
          (clashSummary? (declarations.map fun e => e.name.bare) names registry) := by
      rw [List.filterMap_map]
      rfl
    _ = _ := by rw [List.zipIdx_map_fst]

end

/-! ## Without positions -/

theorem namespaceKey_unplaced (scope : List Name) :
    namespaceKey (scope.map Name.unplaced) = namespaceKey scope := by
  rw [namespaceKey, namespaceKey, bareNames, bareNames, List.map_map]
  rfl

theorem isTaken_unplaced (names : List NamedItem) (scope : List Name) (name : String) :
    isTaken (names.map NamedItem.unplaced) (scope.map Name.unplaced) name =
      isTaken names scope name := by
  rw [isTaken, isTaken, List.any_map]
  simp only [Function.comp_def, NamedItem.unplaced, namespaceKey_unplaced]
  rfl

theorem clashSummary?_unplaced (declared : List String) (names : List NamedItem) (registry : Ident)
    (d : Declaration) :
    clashSummary? declared (names.map NamedItem.unplaced) registry d.unplaced =
      clashSummary? declared names registry d := by
  have root : d.unplaced.scope.isEmpty = d.scope.isEmpty := List.isEmpty_map
  have taken : isTaken (names.map NamedItem.unplaced) d.unplaced.scope d.unplaced.adapter.name =
      isTaken names d.scope d.adapter.name :=
    isTaken_unplaced names d.scope d.adapter.name
  have bare : d.unplaced.name.bare = d.name.bare := rfl
  have adapter : d.unplaced.adapter = d.adapter := rfl
  have alone (e : Declaration) : namesakes [] 0 e = [] := rfl
  rw [clashSummary?, clashSummary?, clash?, clash?, taken, root, bare, adapter, alone, alone]
  (repeat' split) <;> rfl

/-! ## In another order -/

theorem clashSummary?_perm {declared declared' : List String} {names names' : List NamedItem}
    (sameDeclared : declared.Perm declared') (sameNames : names.Perm names') (registry : Ident)
    (d : Declaration) :
    clashSummary? declared names registry d = clashSummary? declared' names' registry d := by
  have taken : isTaken names d.scope d.adapter.name = isTaken names' d.scope d.adapter.name :=
    sameNames.any_eq
  rw [clashSummary?, clashSummary?, sameDeclared.count_eq, clash?, clash?, taken]

section

variable {declarations declarations' : List Declaration} {names names' : List NamedItem}
  (registry : Ident)
  (declared : (declarations.map Declaration.unplaced).Perm (declarations'.map Declaration.unplaced))
  (named : (names.map NamedItem.unplaced).Perm (names'.map NamedItem.unplaced))

/-- What collides with a declaration without positions. -/
def judge (declarations : List Declaration) (names : List NamedItem) (registry : Ident)
    (d : Declaration) : Option (ErrorCode × String) :=
  clashSummary? (declarations.map fun e => e.name.bare) (names.map NamedItem.unplaced) registry d

theorem judge_unplaced (d : Declaration) :
    judge declarations names registry d.unplaced =
      clashSummary? (declarations.map fun e => e.name.bare) names registry d :=
  clashSummary?_unplaced _ names registry d

include declared named in
theorem judge_eq_of_perm :
    judge declarations names registry = judge declarations' names' registry := by
  have bare := declared.map fun e => e.name.bare
  rw [List.map_map, List.map_map] at bare
  exact funext (clashSummary?_perm bare named registry)

include declared named in
/-- The same declarations are kept. -/
theorem kept_perm :
    ((findCollisions declarations names registry).kept.map Declaration.unplaced).Perm
      ((findCollisions declarations' names' registry).kept.map Declaration.unplaced) := by
  have kept (declarations : List Declaration) (names : List NamedItem) :
      (findCollisions declarations names registry).kept.map Declaration.unplaced =
        (declarations.map Declaration.unplaced).filter fun d =>
          (judge declarations names registry d).isNone := by
    rw [kept_eq_filter_summary, List.filter_map]
    simp only [Function.comp_def, judge_unplaced]
  rw [kept, kept, judge_eq_of_perm registry declared named]
  exact declared.filter _

include declared named in
/-- The same collisions of declarations are reported. -/
theorem rejected_perm :
    ((findCollisions declarations names registry).rejected.map fun r => r.2.summary).Perm
      ((findCollisions declarations' names' registry).rejected.map fun r => r.2.summary) := by
  have rejected (declarations : List Declaration) (names : List NamedItem) :
      ((findCollisions declarations names registry).rejected.map fun r => r.2.summary) =
        (declarations.map Declaration.unplaced).filterMap (judge declarations names registry) := by
    rw [rejected_summaries, List.filterMap_map]
    exact List.filterMap_congr fun d _ => (judge_unplaced registry d).symm
  rw [rejected, rejected, judge_eq_of_perm registry declared named]
  exact declared.filterMap _

/-- The names at the root that are like the registration type's. -/
theorem takers_unplaced (names : List NamedItem) :
    (names.filter fun n => n.scope.isEmpty && n.name.bare == registry.name).map NamedItem.unplaced =
      (names.map NamedItem.unplaced).filter fun n =>
        n.scope.isEmpty && n.name.bare == registry.name := by
  rw [List.filter_map]
  refine congrArg _ (List.filter_congr fun n _ => ?_)
  have root : n.unplaced.scope.isEmpty = n.scope.isEmpty := List.isEmpty_map
  rw [Function.comp_apply, root]
  rfl

include declared named in
/-- The same items named like the registration type are reported. -/
theorem clashes_perm :
    ((findCollisions declarations names registry).clashes.map Diagnostic.summary).Perm
      ((findCollisions declarations' names' registry).clashes.map Diagnostic.summary) := by
  have any : (declarations.any fun d => d.name.bare == registry.name) =
      declarations'.any fun d => d.name.bare == registry.name := by
    have same := declared.any_eq (f := fun d => d.name.bare == registry.name)
    rw [List.any_map, List.any_map] at same
    exact same
  have takers := (named.filter fun n => n.scope.isEmpty && n.name.bare == registry.name).map
    fun n => (registryClash n.name).summary
  rw [← takers_unplaced, ← takers_unplaced, List.map_map, List.map_map] at takers
  unfold findCollisions
  dsimp only
  rw [any]
  split
  · exact .refl _
  · rw [List.map_map, List.map_map]
    exact takers

include named in
theorem registryAvailable_eq_of_perm :
    (findCollisions declarations names registry).registryAvailable =
      (findCollisions declarations' names' registry).registryAvailable := by
  have takers := (named.filter fun n => n.scope.isEmpty && n.name.bare == registry.name).isEmpty_eq
  rw [← takers_unplaced, ← takers_unplaced, List.isEmpty_map, List.isEmpty_map] at takers
  exact takers

end
end DomainValues
