import DomainValues.Proofs.Validation

/-!
# Arguments in their slots

A named argument fills the parameter of its name, and the n-th argument without a name the n-th
parameter (`Kind.fillers`).  Arguments can be assigned if every name is that of a parameter, there
are at most as many arguments without a name as parameters, and no parameter has two fillers
(`Kind.Assignable`).

Main statements:

* `Directive.slotOf_step`: one more argument can be assigned exactly if it has an empty slot, which
  it then fills.
* `Directive.fill_eq_ok_iff`, `Directive.bind_eq_assigned_iff`: the slots hold the fillers.
-/

namespace DomainValues

/-- An argument has the name of a parameter. -/
def Argument.names (p : Parameter) (a : Argument) : Bool :=
  a.name.any fun name => name.text == p.name

/-- The arguments without a name. -/
def unnamed (args : List Argument) : List Argument := args.filter fun a => a.name.isNone

theorem unnamed_append (args more : List Argument) :
    unnamed (args ++ more) = unnamed args ++ unnamed more := List.filter_append ..

namespace Kind

/-- The arguments that fill a parameter: those that have its name, and of those without a name the
one at its place. -/
def fillers (args : List Argument) (i : Nat) (p : Parameter) : List Argument :=
  args.filter (Argument.names p) ++ (unnamed args)[i]?.toList

/-- The arguments can be assigned to the parameters of a kind. -/
structure Assignable (kind : Kind) (args : List Argument) : Prop where
  /-- Every name is that of a parameter. -/
  named : ∀ a ∈ args, a.name.isSome = true → ∃ p ∈ kind.parameters, a.names p = true
  /-- Every argument without a name has a place. -/
  placed : (unnamed args).length ≤ kind.parameters.length
  /-- No parameter is filled twice. -/
  once : ∀ i p, kind.parameters[i]? = some p → (fillers args i p).length ≤ 1

/-- The fillers in the order of the parameters. -/
def assigned (kind : Kind) (args : List Argument) : List (Option Argument) :=
  kind.parameters.mapIdx fun i p => (fillers args i p).head?

variable {kind : Kind} {args more : List Argument} {a : Argument} {i j : Nat} {p q : Parameter}

theorem parameters_nodup (kind : Kind) : (kind.parameters.map Parameter.name).Nodup := by
  cases kind <;> decide

/-- A parameter is known by its name. -/
theorem index_unique (hp : kind.parameters[i]? = some p) (hq : kind.parameters[j]? = some q)
    (same : p.name = q.name) : i = j := by
  obtain ⟨inI, rfl⟩ := List.getElem?_eq_some_iff.1 hp
  obtain ⟨inJ, rfl⟩ := List.getElem?_eq_some_iff.1 hq
  have inI' : i < (kind.parameters.map Parameter.name).length := by rwa [List.length_map]
  have inJ' : j < (kind.parameters.map Parameter.name).length := by rwa [List.length_map]
  have names : (kind.parameters.map Parameter.name)[i] =
      (kind.parameters.map Parameter.name)[j] := by
    rw [List.getElem_map, List.getElem_map, same]
  exact kind.parameters_nodup.getElem_inj_iff.1 names

theorem names_iff : a.names p = true ↔ ∃ name, a.name = some name ∧ name.text = p.name := by
  simp [Argument.names, Option.any_eq_true]

/-! ## One more argument -/

/-- An argument after `args` fills the parameter at a place. -/
def Fills (args : List Argument) (i : Nat) (p : Parameter) (a : Argument) : Prop :=
  a.names p = true ∨ a.name = none ∧ i = (unnamed args).length

/-- An argument fills one parameter only. -/
theorem Fills.index_unique (hp : kind.parameters[i]? = some p) (hq : kind.parameters[j]? = some q)
    (h : Fills args i p a) (h' : Fills args j q a) : i = j := by
  rcases h with named | ⟨nameless, rfl⟩ <;> rcases h' with named' | ⟨nameless', rfl⟩
  · obtain ⟨name, has, same⟩ := names_iff.1 named
    obtain ⟨name', has', same'⟩ := names_iff.1 named'
    obtain rfl := Option.some.inj (has.symm.trans has')
    exact Kind.index_unique hp hq (same.symm.trans same')
  · obtain ⟨name, has, -⟩ := names_iff.1 named
    cases has.symm.trans nameless'
  · obtain ⟨name, has, -⟩ := names_iff.1 named'
    cases has.symm.trans nameless
  · rfl

theorem unnamed_of_name {name : Name} (has : a.name = some name) : unnamed [a] = [] := by
  simp [unnamed, has]

theorem unnamed_of_none (nameless : a.name = none) : unnamed [a] = [a] := by
  simp [unnamed, nameless]

/-- One more argument is added to the fillers of what it fills. -/
theorem fillers_append_of_fills (h : Fills args i p a) :
    (fillers (args ++ [a]) i p).Perm (a :: fillers args i p) := by
  unfold fillers
  rw [List.filter_append, unnamed_append]
  rcases h with named | ⟨nameless, rfl⟩
  · obtain ⟨name, has, -⟩ := names_iff.1 named
    rw [List.filter_cons_of_pos named, unnamed_of_name has, List.append_nil, List.filter_nil,
      List.append_assoc]
    exact List.perm_middle
  · have other : Argument.names p a ≠ true := by simp [Argument.names, nameless]
    rw [List.filter_cons_of_neg other, unnamed_of_none nameless]
    simp

/-- The fillers of the other parameters stay. -/
theorem fillers_append_of_not_fills (h : ¬ Fills args i p a) :
    fillers (args ++ [a]) i p = fillers args i p := by
  obtain ⟨other, elsewhere⟩ := not_or.1 h
  unfold fillers
  rw [List.filter_append, unnamed_append, List.filter_cons_of_neg other, List.filter_nil,
    List.append_nil]
  cases has : a.name with
  | some name => rw [unnamed_of_name has, List.append_nil]
  | none =>
      have place : i ≠ (unnamed args).length := fun same => elsewhere ⟨has, same⟩
      rw [unnamed_of_none has, List.getElem?_append]
      split
      case isTrue => rfl
      case isFalse beyond =>
        have after : [a][i - (unnamed args).length]? = none := by
          rw [List.getElem?_eq_none_iff, List.length_singleton]
          omega
        rw [after, List.getElem?_eq_none (by omega)]

theorem length_fillers_le : (fillers args i p).length ≤ (fillers (args ++ more) i p).length := by
  induction more using List.reverseRecOn with
  | nil => rw [List.append_nil]
  | append_singleton more a ih =>
      rw [← List.append_assoc]
      by_cases fills : Fills (args ++ more) i p a
      · rw [(fillers_append_of_fills fills).length_eq]
        exact ih.trans (Nat.le_succ _)
      · rwa [fillers_append_of_not_fills fills]

/-- What comes first can be assigned without the rest. -/
theorem Assignable.left (h : kind.Assignable (args ++ more)) : kind.Assignable args where
  named a found := h.named a (List.mem_append_left _ found)
  placed := by
    have := h.placed
    rw [unnamed_append, List.length_append] at this
    omega
  once i p parameter := length_fillers_le.trans (h.once i p parameter)

theorem assignable_nil : kind.Assignable [] := ⟨nofun, Nat.zero_le _, fun _ _ _ => Nat.zero_le 1⟩

/-! ## Slots -/

theorem getElem?_assigned :
    (kind.assigned args)[i]?.join = kind.parameters[i]?.bind fun p => (fillers args i p).head? := by
  rw [assigned, List.getElem?_mapIdx]
  cases kind.parameters[i]? <;> rfl

theorem length_assigned : (kind.assigned args).length = kind.parameters.length := List.length_mapIdx

theorem assigned_nil : kind.assigned [] = kind.parameters.map fun _ => none := by
  cases kind <;> rfl

end Kind

namespace Directive

open Kind

variable {d : Directive} {args more : List Argument} {slots : List (Option Argument)}
  {a : Argument} {i j : Nat} {p : Parameter}

/-- The slot of one more argument is that of the parameter that it fills. -/
theorem slotOf_eq_ok_iff : d.slotOf (unnamed args).length a = .ok i ↔
    ∃ p, d.kind.parameters[i]? = some p ∧ Fills args i p a := by
  unfold slotOf Fills
  cases has : a.name with
  | none =>
      have other (p : Parameter) : a.names p = false := by simp [Argument.names, has]
      dsimp only
      split
      case isTrue within =>
        rw [Except.ok.injEq]
        constructor
        · rintro rfl
          exact ⟨_, List.getElem?_eq_getElem within, .inr ⟨rfl, rfl⟩⟩
        · rintro ⟨p, -, named | ⟨-, same⟩⟩
          · simp [other] at named
          · exact same.symm
      case isFalse beyond =>
        refine ⟨nofun, ?_⟩
        rintro ⟨p, parameter, named | ⟨-, rfl⟩⟩
        · simp [other] at named
        · exact absurd (List.getElem?_eq_some_iff.1 parameter).1 beyond
  | some name =>
      have names (p : Parameter) : a.names p = (name.text == p.name) := by
        simp [Argument.names, has]
      simp only [names, reduceCtorEq, false_and, or_false]
      -- The parameter of a name is the first one, as there is only one.
      have found : d.kind.parameters.findIdx? (fun p => name.text == p.name) = some i ↔
          ∃ p, d.kind.parameters[i]? = some p ∧ (name.text == p.name) = true := by
        rw [List.findIdx?_eq_some_iff_getElem]
        constructor
        · rintro ⟨within, named, -⟩
          exact ⟨_, List.getElem?_eq_getElem within, named⟩
        · rintro ⟨p, parameter, named⟩
          obtain ⟨within, rfl⟩ := List.getElem?_eq_some_iff.1 parameter
          refine ⟨within, named, fun j before named' => ?_⟩
          have same := index_unique parameter
            (List.getElem?_eq_getElem (before.trans within))
            (beq_iff_eq.1 named ▸ beq_iff_eq.1 named')
          omega
      rw [← found]
      split
      case h_1 j here => rw [here, Except.ok.injEq, Option.some.injEq]
      case h_2 nowhere => rw [nowhere]; exact ⟨nofun, nofun⟩

/-- One more argument can be assigned exactly if it has an empty slot, which it then fills. -/
theorem slotOf_step (h : d.kind.Assignable args) :
    d.kind.Assignable (args ++ [a]) ↔ ∃ i, d.slotOf (unnamed args).length a = .ok i ∧
      (d.kind.assigned args)[i]?.join = none := by
  simp only [slotOf_eq_ok_iff]
  constructor
  · intro both
    obtain ⟨i, p, parameter, fills⟩ :
        ∃ i p, d.kind.parameters[i]? = some p ∧ Fills args i p a := by
      cases has : a.name with
      | some name =>
          obtain ⟨p, parameter, named⟩ := both.named a (by simp) (by rw [has]; rfl)
          obtain ⟨i, parameter⟩ := List.mem_iff_getElem?.1 parameter
          exact ⟨i, p, parameter, .inl named⟩
      | none =>
          have placed := both.placed
          rw [unnamed_append, unnamed_of_none has, List.length_append] at placed
          exact ⟨_, _, List.getElem?_eq_getElem placed, .inr ⟨has, rfl⟩⟩
    have once := both.once i p parameter
    rw [(fillers_append_of_fills fills).length_eq, List.length_cons] at once
    have empty : fillers args i p = [] := List.length_eq_zero_iff.1 (by omega)
    refine ⟨i, ⟨p, parameter, fills⟩, ?_⟩
    rw [getElem?_assigned, parameter, Option.bind_some, empty, List.head?_nil]
  · rintro ⟨i, ⟨p, parameter, fills⟩, empty⟩
    rw [getElem?_assigned, parameter, Option.bind_some, List.head?_eq_none_iff] at empty
    refine ⟨?_, ?_, ?_⟩
    · intro b found some
      rcases List.mem_append.1 found with found | found
      · exact h.named b found some
      · obtain rfl := List.mem_singleton.1 found
        rcases fills with named | ⟨nameless, -⟩
        · exact ⟨p, List.mem_of_getElem? parameter, named⟩
        · rw [nameless] at some
          cases some
    · rw [unnamed_append, List.length_append]
      rcases fills with named | ⟨nameless, rfl⟩
      · obtain ⟨name, has, -⟩ := names_iff.1 named
        rw [unnamed_of_name has]
        exact h.placed
      · rw [unnamed_of_none nameless]
        exact (List.getElem?_eq_some_iff.1 parameter).1
    · intro j q parameter'
      by_cases fills' : Fills args j q a
      · -- It fills one parameter only.
        obtain rfl := fills.index_unique parameter parameter' fills'
        obtain rfl := Option.some.inj (parameter.symm.trans parameter')
        rw [(fillers_append_of_fills fills).length_eq, empty]
        exact Nat.le_refl 1
      · rw [fillers_append_of_not_fills fills']
        exact h.once j q parameter'

/-- What fills an empty slot is put into it. -/
theorem assigned_append (slot : d.slotOf (unnamed args).length a = .ok i)
    (empty : (d.kind.assigned args)[i]?.join = none) :
    d.kind.assigned (args ++ [a]) = (d.kind.assigned args).set i (some a) := by
  obtain ⟨p, parameter, fills⟩ := slotOf_eq_ok_iff.1 slot
  rw [getElem?_assigned, parameter, Option.bind_some, List.head?_eq_none_iff] at empty
  refine List.ext_getElem? fun j => ?_
  rw [List.getElem?_set, assigned, assigned, List.length_mapIdx, List.getElem?_mapIdx,
    List.getElem?_mapIdx]
  by_cases same : i = j
  · subst same
    have added := fillers_append_of_fills fills
    rw [empty, List.perm_singleton] at added
    rw [if_pos rfl, if_pos (List.getElem?_eq_some_iff.1 parameter).1, parameter, Option.map_some,
      added, List.head?_cons]
  · rw [if_neg same]
    refine Option.map_congr fun q parameter' => ?_
    have other : ¬ Fills args j q a := fun fills' =>
      same (fills.index_unique parameter parameter' fills')
    rw [fillers_append_of_not_fills other]

/-- The number of arguments without a name, after one more. -/
theorem length_unnamed_append :
    (unnamed (args ++ [a])).length =
      if a.name.isNone then (unnamed args).length + 1 else (unnamed args).length := by
  rw [unnamed_append, List.length_append]
  cases has : a.name with
  | some name => rw [unnamed_of_name has]; rfl
  | none => rw [unnamed_of_none has]; rfl

/-- Filling the slots with the rest of the arguments. -/
theorem fill_eq_ok_iff (h : d.kind.Assignable args) :
    d.fill (unnamed args).length (d.kind.assigned args) more = .ok slots ↔
      d.kind.Assignable (args ++ more) ∧ slots = d.kind.assigned (args ++ more) := by
  induction more generalizing args with
  | nil =>
      rw [fill, List.append_nil, Except.ok.injEq, eq_comm]
      exact (and_iff_right h).symm
  | cons a more ih =>
      rw [← List.singleton_append, ← List.append_assoc, List.singleton_append, fill, bind_eq_ok_iff]
      constructor
      · rintro ⟨i, slot, filled⟩
        split at filled
        case isTrue => cases filled
        case isFalse empty =>
          rw [Option.not_isSome_iff_eq_none] at empty
          have both := (slotOf_step h).2 ⟨i, slot, empty⟩
          rw [← length_unnamed_append, ← assigned_append slot empty] at filled
          exact (ih both).1 filled
      · intro all
        have both := all.1.left
        obtain ⟨i, slot, empty⟩ := (slotOf_step h).1 both
        refine ⟨i, slot, ?_⟩
        rw [empty, Option.isSome_none, if_neg Bool.false_ne_true, ← length_unnamed_append,
          ← assigned_append slot empty]
        exact (ih both).2 all

/-! ## All arguments -/

theorem missing?_eq_none_iff {parameters : List Parameter}
    (same : parameters.length = slots.length) :
    missing? parameters slots = none ↔ ∀ (i : Nat) (p : Parameter), parameters[i]? = some p →
      p.required = true → slots[i]?.join ≠ none := by
  induction parameters generalizing slots with
  | nil => exact ⟨nofun, fun _ => rfl⟩
  | cons q parameters ih =>
      cases slots with
      | nil => cases same
      | cons slot slots =>
          rw [missing?]
          constructor
          · intro h i p parameter required
            split at h
            case isTrue => cases h
            case isFalse filled =>
              cases i with
              | zero =>
                  obtain rfl := Option.some.inj parameter
                  rintro empty
                  obtain rfl : slot = none := empty
                  exact filled (by rw [required]; rfl)
              | succ i => exact (ih (Nat.succ.inj same)).1 h i p parameter required
          · intro h
            rw [if_neg]
            · exact (ih (Nat.succ.inj same)).2 fun i p => h (i + 1) p
            · intro empty
              rw [Bool.and_eq_true, Option.isNone_iff_eq_none] at empty
              exact h 0 q rfl empty.2 empty.1

/-- The slots hold the fillers, if the arguments can be assigned and every required parameter has a
filler. -/
theorem bind_eq_assigned_iff : d.bind = .ok slots ↔
    d.kind.Assignable d.arguments ∧
      (∀ i p, d.kind.parameters[i]? = some p → p.required = true →
        fillers d.arguments i p ≠ []) ∧
      slots = d.kind.assigned d.arguments := by
  have start (slots : List (Option Argument)) :
      d.fill 0 (d.kind.parameters.map fun _ => none) d.arguments = .ok slots ↔
        d.kind.Assignable d.arguments ∧ slots = d.kind.assigned d.arguments := by
    rw [← assigned_nil]
    exact fill_eq_ok_iff assignable_nil
  have filled : missing? d.kind.parameters (d.kind.assigned d.arguments) = none ↔
      ∀ i p, d.kind.parameters[i]? = some p → p.required = true →
        fillers d.arguments i p ≠ [] := by
    rw [missing?_eq_none_iff length_assigned.symm]
    refine forall₂_congr fun i p => forall_congr' fun parameter => ?_
    rw [getElem?_assigned, parameter, Option.bind_some, Ne, List.head?_eq_none_iff]
  unfold bind
  simp only [bind_eq_ok_iff, start]
  constructor
  · rintro ⟨_, ⟨assignable, rfl⟩, h⟩
    split at h
    case h_1 => cases h
    case h_2 none => exact ⟨assignable, filled.1 none, (Except.ok.inj h).symm⟩
  · rintro ⟨assignable, all, rfl⟩
    refine ⟨_, ⟨assignable, rfl⟩, ?_⟩
    rw [filled.2 all]

/-- A filled slot holds an argument. -/
theorem mem_arguments_of_bind {a : Argument} (h : d.bind = .ok slots) {i : Nat}
    (filled : slots[i]?.join = some a) : a ∈ d.arguments := by
  obtain ⟨-, -, rfl⟩ := bind_eq_assigned_iff.1 h
  rw [Kind.getElem?_assigned] at filled
  obtain ⟨p, -, head⟩ := Option.bind_eq_some_iff.1 filled
  rcases List.mem_append.1 (List.mem_of_mem_head? head) with found | found
  · exact List.mem_of_mem_filter found
  · exact List.mem_of_mem_filter (List.mem_of_getElem? (Option.mem_toList.1 found))

end Directive
end DomainValues
