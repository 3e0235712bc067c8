import DomainValues.Proofs.ProductPositions
import DomainValues.Proofs.Redirecting

/-!
# Counterparts

Two modules that differ in the directive of one declaration declare counterparts
(`Declaration.Counterpart`).  Collisions are found by names (`clash?_of_label`), so counterparts
collide with the same; and apart from the one whose directive differs, their configurations are
refused for the same reasons.

Main statements: `kept_of_counterparts`, `rejected_of_counterparts`, `clashes_of_counterparts` and
`exists_around_refusals`.
-/

namespace DomainValues

/-! ## Collisions -/

/-- The name of a declaration in its modules, without positions. -/
def Declaration.label (d : Declaration) : NamedItem := NamedItem.unplaced ⟨d.scope, d.name⟩

theorem Declaration.Counterpart.label {target : Slot} {d e : Declaration}
    (h : d.Counterpart target e) : e.label = d.label := by
  have name := congrArg Declaration.name h.but
  have scope := congrArg Declaration.scope h.but
  exact congrArg₂ NamedItem.mk scope name

theorem Declaration.qualified_label (d : Declaration) : d.label.qualified = d.qualified := by
  rw [qualified, ← joinNames_unplaced, List.map_append]
  rfl

section

variable {declarations declarations' : List Declaration} {names names' : List NamedItem}
  (registry : Ident)
  (declared : declarations'.map Declaration.label = declarations.map Declaration.label)
  (named : names'.map NamedItem.unplaced = names.map NamedItem.unplaced)

theorem namesakes_label (index : Nat) (d : Declaration) :
    (namesakes declarations index d).map Declaration.label =
      (((declarations.map Declaration.label).zipIdx.filter fun (other, i) =>
        i != index && other.name.bare == d.label.name.bare).map Prod.fst) := by
  rw [namesakes, List.map_map, List.zipIdx_map, List.filter_map, List.map_map]
  rfl

include declared named in
/-- What collides with a declaration follows from the labels. -/
theorem clash?_of_label (index : Nat) {d d' : Declaration} (same : d'.label = d.label) :
    (clash? declarations' names' registry index d').map Diagnostic.unplaced =
      (clash? declarations names registry index d).map Diagnostic.unplaced := by
  have namesakes : (namesakes declarations' index d').map Declaration.label =
      (namesakes declarations index d).map Declaration.label := by
    rw [namesakes_label, namesakes_label, declared, same]
  have alone := congrArg List.isEmpty namesakes
  rw [List.isEmpty_map, List.isEmpty_map] at alone
  have others := congrArg (List.map fun n => "`" ++ NamedItem.qualified n ++ "`") namesakes
  simp only [List.map_map, Function.comp_def, Declaration.qualified_label] at others
  obtain ⟨scope, name⟩ : d'.scope.map Name.unplaced = d.scope.map Name.unplaced ∧
      d'.name.unplaced = d.name.unplaced := NamedItem.mk.inj same
  have bare : d'.name.bare = d.name.bare := (congrArg Name.bare name :)
  have adapter : d'.adapter.name = d.adapter.name :=
    (congrArg (fun n : Name => n.ident.adapter.name) name :)
  have root := congrArg List.isEmpty scope
  rw [List.isEmpty_map, List.isEmpty_map] at root
  have taken : isTaken names' d'.scope d.adapter.name = isTaken names d.scope d.adapter.name := by
    rw [← isTaken_unplaced, named, scope, isTaken_unplaced]
  have duplicate :
      (duplicateName d'.name (DomainValues.namesakes declarations' index d')).unplaced =
        (duplicateName d.name (DomainValues.namesakes declarations index d)).unplaced := by
    rw [duplicateName, duplicateName, bare, others]
    rfl
  rw [clash?, clash?, alone, root, bare, adapter, taken]
  split
  · exact congrArg some duplicate
  · split
    · exact congrArg (fun n => some (registryClash n)) name
    · split
      · exact congrArg (fun n => some (adapterClash n)) name
      · rfl

end

theorem forall₂_zipIdx {α β : Type} {R : α → β → Prop} {l : List α} {l' : List β}
    (related : List.Forall₂ R l l') (start : Nat) :
    List.Forall₂ (fun a b => R a.1 b.1 ∧ b.2 = a.2) (l.zipIdx start) (l'.zipIdx start) := by
  induction related generalizing start with
  | nil => exact .nil
  | cons first _ ih => exact .cons ⟨first, rfl⟩ (ih (start + 1))

section

variable {target : Slot} {declarations declarations' : List Declaration}
  {names names' : List NamedItem} (registry : Ident)
  (counterparts : List.Forall₂ (Declaration.Counterpart target) declarations declarations')
  (named : names'.map NamedItem.unplaced = names.map NamedItem.unplaced)
include counterparts

theorem labels_of_counterparts :
    declarations'.map Declaration.label = declarations.map Declaration.label := by
  induction counterparts with
  | nil => rfl
  | cons first _ ih => rw [List.map_cons, List.map_cons, first.label, ih]

include named

/-- At each index the same collides, or nothing. -/
theorem clash?_of_counterparts : List.Forall₂ (fun a b =>
    (a.1.Counterpart target b.1 ∧ b.2 = a.2) ∧
      (clash? declarations' names' registry b.2 b.1).map Diagnostic.unplaced =
        (clash? declarations names registry a.2 a.1).map Diagnostic.unplaced)
      declarations.zipIdx declarations'.zipIdx := by
  refine (forall₂_zipIdx counterparts 0).imp fun a b pair => ⟨pair, ?_⟩
  rw [pair.2]
  exact clash?_of_label registry (labels_of_counterparts counterparts) named a.2 pair.1.label

theorem kept_of_counterparts : List.Forall₂ (Declaration.Counterpart target)
    (findCollisions declarations names registry).kept
    (findCollisions declarations' names' registry).kept := by
  rw [kept_eq_filter, kept_eq_filter, List.forall₂_map_left_iff, List.forall₂_map_right_iff]
  refine .imp (fun _ _ pair => pair.1.1) (List.rel_filter (fun a b pair => ?_)
    (clash?_of_counterparts registry counterparts named))
  have alone := congrArg Option.isNone pair.2
  rw [Option.isNone_map, Option.isNone_map] at alone
  exact iff_of_eq (congrArg (· = true) alone.symm)

theorem rejected_of_counterparts :
    ((findCollisions declarations' names' registry).rejected.map fun r => r.2.unplaced) =
      (findCollisions declarations names registry).rejected.map fun r => r.2.unplaced := by
  have rejected (declarations : List Declaration) (names : List NamedItem) :
      ((findCollisions declarations names registry).rejected.map fun r => r.2.unplaced) =
        declarations.zipIdx.filterMap fun a =>
          (clash? declarations names registry a.2 a.1).map Diagnostic.unplaced := by
    simp only [findCollisions, List.filterMap_map, List.map_filterMap, Function.comp_def,
      Option.map_map]
  rw [rejected, rejected]
  exact (filterMap_eq_of_forall₂ (fun _ _ pair => pair.2.symm)
    (clash?_of_counterparts registry counterparts named)).symm

theorem clashes_of_counterparts :
    (findCollisions declarations' names' registry).clashes.map Diagnostic.unplaced =
      (findCollisions declarations names registry).clashes.map Diagnostic.unplaced := by
  have any : (declarations'.any fun d => d.name.bare == registry.name) =
      declarations.any fun d => d.name.bare == registry.name := by
    have labels := congrArg (fun l : List NamedItem => l.any fun n => n.name.bare == registry.name)
      (labels_of_counterparts counterparts)
    rw [List.any_map, List.any_map] at labels
    exact labels
  have takers := congrArg (List.map fun n : NamedItem => registryClash n.name)
    (congrArg (List.filter fun n => n.scope.isEmpty && n.name.bare == registry.name) named)
  rw [← takers_unplaced, ← takers_unplaced, List.map_map, List.map_map] at takers
  unfold findCollisions
  dsimp only
  rw [any]
  split
  · rfl
  · rw [List.map_map, List.map_map]
    exact takers

end

/-! ## Refusals -/

/-- The report of a declaration whose configuration is refused, without its place. -/
def Declaration.unplacedRefusal? (d : Declaration) : Option Diagnostic :=
  (refusal? d.configured).map Diagnostic.unplaced

theorem Declaration.unplacedRefusal?_of_unplaced {d e : Declaration}
    (same : e.unplaced = d.unplaced) : e.unplacedRefusal? = d.unplacedRefusal? := by
  have unplaced (d : Declaration) : d.unplaced.unplacedRefusal? = d.unplacedRefusal? := by
    have qualified : d.unplaced.qualified = d.qualified := by
      rw [Declaration.qualified, qualified, ← joinNames_unplaced (d.scope ++ [d.name]),
        List.map_append]
      rfl
    rw [unplacedRefusal?, configured_unplaced, unplacedRefusal?, configured]
    cases d.directive.params with
    | ok params => rfl
    | error e =>
        rw [mapBoth_error, refusal?, refusal?, qualified]
        rfl
  rw [← unplaced, same, unplaced]

/-- The reports of declarations whose configurations are refused, without their places. -/
def refusals (declarations : List Declaration) : List Diagnostic :=
  declarations.filterMap Declaration.unplacedRefusal?

theorem refusals_nil : refusals [] = [] := rfl

theorem refusals_cons (d : Declaration) (rest : List Declaration) :
    refusals (d :: rest) = d.unplacedRefusal?.toList ++ refusals rest := by
  rw [refusals, List.filterMap_cons]
  cases d.unplacedRefusal? <;> rfl

section

variable {target : Slot} {l l' : List Declaration}
  (counterparts : List.Forall₂ (Declaration.Counterpart target) l l')
include counterparts

theorem slots_of_counterparts : l'.map Declaration.slot = l.map Declaration.slot := by
  induction counterparts with
  | nil => rfl
  | cons first _ ih => rw [List.map_cons, List.map_cons, first.slot, ih]

/-- Away from the slot, counterparts differ in positions only. -/
theorem elsewhere_of_counterparts :
    List.Forall₂ (fun d e => e.slot = d.slot ∧ e.unplaced = d.unplaced)
      (l.filter fun d => d.slot != target) (l'.filter fun d => d.slot != target) := by
  induction counterparts with
  | nil => exact .nil
  | cons first _ ih =>
      rw [List.filter_cons, List.filter_cons, first.slot]
      split
      case isTrue elsewhere =>
        exact .cons ⟨first.slot, first.elsewhere (by simpa using elsewhere)⟩ ih
      case isFalse => exact ih

/-- Away from the slot, what does not depend on positions is the same of counterparts. -/
theorem filterMap_counterparts {α : Type} {f : Declaration → Option α}
    (same : ∀ d e : Declaration, e.unplaced = d.unplaced → f e = f d) :
    (l'.filter fun d => d.slot != target).filterMap (fun d => (f d).map fun a => (d.slot, a)) =
      (l.filter fun d => d.slot != target).filterMap fun d => (f d).map fun a => (d.slot, a) := by
  have pairs := elsewhere_of_counterparts counterparts
  refine (filterMap_eq_of_forall₂ (fun d e pair => ?_) pairs).symm
  rw [same d e pair.2, pair.1]

/-- If none stands at the slot, the same is refused, and nothing at the slot. -/
theorem refusals_of_counterparts (outside : target ∉ l.map Declaration.slot) :
    refusals l' = refusals l ∧ (l.filter fun d => d.slot == target) = [] ∧
      (l'.filter fun d => d.slot == target) = [] := by
  have apart {l : List Declaration} (outside : target ∉ l.map Declaration.slot) :
      ∀ d ∈ l, d.slot ≠ target :=
    fun d found same => outside (same ▸ List.mem_map_of_mem found)
  have here := apart outside
  have here' := apart (slots_of_counterparts counterparts ▸ outside)
  refine ⟨?_, List.filter_eq_nil_iff.2 fun d found => by simpa using here d found,
    List.filter_eq_nil_iff.2 fun d found => by simpa using here' d found⟩
  have pairs := elsewhere_of_counterparts counterparts
  rw [List.filter_eq_self.2 fun d found => by simpa using here d found,
    List.filter_eq_self.2 fun d found => by simpa using here' d found] at pairs
  refine (filterMap_eq_of_forall₂ (fun d e pair => ?_) pairs).symm
  exact (Declaration.unplacedRefusal?_of_unplaced pair.2).symm

/-- The same is refused before and after what is refused at the slot. -/
theorem exists_around_refusals (apart : (l.map Declaration.slot).Nodup) : ∃ before after,
    refusals l = before ++ refusals (l.filter fun d => d.slot == target) ++ after ∧
      refusals l' = before ++ refusals (l'.filter fun d => d.slot == target) ++ after := by
  induction counterparts with
  | nil => exact ⟨[], [], rfl, rfl⟩
  | @cons d e rest rest' first others ih =>
      obtain ⟨distinct, apart⟩ := List.nodup_cons.1 apart
      by_cases here : d.slot = target
      · obtain ⟨same, none, none'⟩ := refusals_of_counterparts others (here ▸ distinct)
        have here' : e.slot = target := first.slot.trans here
        refine ⟨[], refusals rest, ?_, ?_⟩
        · rw [List.filter_cons_of_pos (by simpa using here), none, refusals_cons, refusals_cons,
            refusals_nil, List.append_nil, List.nil_append]
        · rw [List.filter_cons_of_pos (by simpa using here'), none', refusals_cons, refusals_cons,
            same, refusals_nil, List.append_nil, List.nil_append]
      · obtain ⟨before, after, around, around'⟩ := ih apart
        have here' : e.slot ≠ target := fun same => here (first.slot.symm.trans same)
        have same := Declaration.unplacedRefusal?_of_unplaced (first.elsewhere here)
        refine ⟨d.unplacedRefusal?.toList ++ before, after, ?_, ?_⟩
        · rw [List.filter_cons_of_neg (by simpa using here), refusals_cons, around]
          simp only [List.append_assoc]
        · rw [List.filter_cons_of_neg (by simpa using here'), refusals_cons, around', same]
          simp only [List.append_assoc]

end

end DomainValues
