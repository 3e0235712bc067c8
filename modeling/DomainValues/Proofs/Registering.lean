import DomainValues.Registry
import Mathlib.Data.List.Nodup

/-!
# What registries hold

The two maps of a registry lead from the names and from the types exactly to the adapters that
have them (`Indexed`, `Registry.Coherent`).  One step either is refused and changes nothing, or
appends one adapter (`Registry.register_cases`); so coherence is kept by every call.

A history is a row of calls, each of which registers one adapter or installs something
(`Registry.Call`).  What it registered is told without looking at a registry's maps
(`Registry.registeredBy`).

Main statement: `Registry.history_sound`, after every history the registry holds exactly what the
history registered (`Registry.Holds`).
-/

namespace DomainValues

/-! ## Maps into a row -/

/-- A map leads from a key exactly to the index of the entry that has the key. -/
def Indexed {α κ : Type} [BEq κ] (key : α → κ) (entries : List α) (map : List (κ × Nat)) : Prop :=
  ∀ k index, map.lookup k = some index ↔ ∃ a, entries[index]? = some a ∧ key a = k

namespace Indexed

variable {α κ : Type} [BEq κ] {key : α → κ} {entries : List α} {map : List (κ × Nat)}

theorem nil : Indexed key [] [] := by
  intro k index
  simp

theorem isSome_lookup (indexed : Indexed key entries map) {k : κ} :
    (map.lookup k).isSome = true ↔ k ∈ entries.map key := by
  rw [Option.isSome_iff_exists, List.mem_map]
  constructor
  · rintro ⟨index, found⟩
    obtain ⟨a, entry, has⟩ := (indexed k index).1 found
    exact ⟨a, List.mem_of_getElem? entry, has⟩
  · rintro ⟨a, listed, has⟩
    obtain ⟨index, entry⟩ := List.mem_iff_getElem?.1 listed
    exact ⟨index, (indexed k index).2 ⟨a, entry, has⟩⟩

/-- An entry whose key is new may be appended. -/
theorem push [LawfulBEq κ] (indexed : Indexed key entries map) {a : α}
    (fresh : key a ∉ entries.map key) :
    Indexed key (entries ++ [a]) ((key a, entries.length) :: map) := by
  intro k index
  rw [List.lookup_cons]
  rcases Nat.lt_trichotomy index entries.length with before | rfl | beyond
  · -- Below the new entry the keys are those of before, so none of them is the new key.
    rw [List.getElem?_append_left before]
    by_cases same : k = key a
    · subst same
      have absent : ¬ ∃ b, entries[index]? = some b ∧ key b = key a := by
        rintro ⟨b, entry, has⟩
        exact fresh (List.mem_map.2 ⟨b, List.mem_of_getElem? entry, has⟩)
      simp [absent, Nat.ne_of_gt before]
    · rw [beq_false_of_ne same]
      exact indexed k index
  · by_cases same : k = key a
    · simp [same]
    · have absent : map.lookup k ≠ some entries.length := by
        rw [Ne, indexed]
        simp
      simp [beq_false_of_ne same, absent, Ne.symm same]
  · have outside : (entries ++ [a])[index]? = none := by
      rw [List.getElem?_eq_none_iff, List.length_append, List.length_singleton]
      omega
    have absent : map.lookup k ≠ some index := by
      rw [Ne, indexed, List.getElem?_eq_none (Nat.le_of_lt beyond)]
      simp
    by_cases same : k = key a
    · simp [same, outside, Nat.ne_of_lt beyond]
    · simp [beq_false_of_ne same, outside, absent]

/-- No two entries have one key. -/
theorem nodup (indexed : Indexed key entries map) : (entries.map key).Nodup := by
  rw [List.nodup_iff_injective_getElem]
  rintro ⟨i, inI⟩ ⟨j, inJ⟩ same
  rw [List.length_map] at inI inJ
  dsimp only at same
  rw [List.getElem_map, List.getElem_map] at same
  have first := (indexed (key entries[i]) i).2 ⟨_, List.getElem?_eq_getElem inI, rfl⟩
  have second := (indexed (key entries[i]) j).2 ⟨_, List.getElem?_eq_getElem inJ, same.symm⟩
  rw [first] at second
  exact Fin.ext (Option.some.inj second)

end Indexed

namespace Registry

variable {τ : Type} [TypeFamily τ] [DecidableEq τ] {r : Registry τ}

/-! ## Coherence -/

/-- The types of the adapters. -/
def types (r : Registry τ) : List τ := r.entries.map ScalarAdapter.type

/-- Both maps lead to the adapters. -/
structure Coherent (r : Registry τ) : Prop where
  /-- The map of the names. -/
  names : Indexed ScalarAdapter.name r.entries r.byName
  /-- The map of the types. -/
  types : Indexed ScalarAdapter.type r.entries r.byType

theorem empty_coherent : (empty : Registry τ).Coherent := ⟨Indexed.nil, Indexed.nil⟩

namespace Coherent

variable (coherent : r.Coherent)
include coherent

theorem contains_iff {name : String} : r.contains name = true ↔ name ∈ r.names :=
  coherent.names.isSome_lookup

theorem containsType_iff {t : τ} : r.containsType t = true ↔ t ∈ r.types :=
  coherent.types.isSome_lookup

theorem refuses_iff {a : ScalarAdapter τ} :
    r.refuses a = true ↔ a.name ∈ r.names ∨ a.type ∈ r.types := by
  rw [refuses, Bool.or_eq_true, coherent.contains_iff, coherent.containsType_iff]

theorem push {a : ScalarAdapter τ} (newName : a.name ∉ r.names) (newType : a.type ∉ r.types) :
    (r.push a).Coherent :=
  ⟨coherent.names.push newName, coherent.types.push newType⟩

theorem find?_of_mem {a : ScalarAdapter τ} (registered : a ∈ r.entries) :
    r.find? a.name = .ok (some a) := by
  obtain ⟨index, entry⟩ := List.mem_iff_getElem?.1 registered
  have leads := (coherent.names a.name index).2 ⟨a, entry, rfl⟩
  simp [find?, leads, entryAt, entry, Except.map]

theorem find?_of_not_mem {name : String} (absent : name ∉ r.names) : r.find? name = .ok none := by
  rw [← coherent.contains_iff, contains, Option.isSome_iff_ne_none, not_not] at absent
  rw [find?, absent]

theorem adapterOf_of_mem {a : ScalarAdapter τ} (registered : a ∈ r.entries) :
    r.adapterOf a.type = .ok ⟨a, rfl⟩ := by
  obtain ⟨index, entry⟩ := List.mem_iff_getElem?.1 registered
  exact adapterOf_eq_ok_iff.2 ⟨index, (coherent.types a.type index).2 ⟨a, entry, rfl⟩, entry⟩

theorem adapterOf_of_not_mem {t : τ} (absent : t ∉ r.types) :
    r.adapterOf t = .error (.unknownType (TypeFamily.name t)) := by
  rw [← coherent.containsType_iff, containsType, Option.isSome_iff_ne_none, not_not] at absent
  rw [adapterOf, absent]

end Coherent

/-! ## One step -/

/-- An adapter is refused, and nothing changes, or it is appended. -/
theorem Coherent.register_cases (coherent : r.Coherent) (a : ScalarAdapter τ) :
    ((a.name ∈ r.names ∨ a.type ∈ r.types) ∧ (r.register a).registry = r ∧
      (r.register a).error = some (.alreadyRegistered a.name)) ∨
    (a.name ∉ r.names ∧ a.type ∉ r.types ∧ (r.register a).registry = r.push a ∧
      (r.register a).error = none) := by
  rw [register]
  cases refused : r.refuses a with
  | true => exact .inl ⟨coherent.refuses_iff.1 refused, rfl, rfl⟩
  | false =>
      have fresh := mt coherent.refuses_iff.2 (ne_true_of_eq_false refused)
      rw [not_or] at fresh
      exact .inr ⟨fresh.1, fresh.2, rfl, rfl⟩

theorem Coherent.register (coherent : r.Coherent) (a : ScalarAdapter τ) :
    (r.register a).registry.Coherent := by
  rcases coherent.register_cases a with ⟨-, same, -⟩ | ⟨newName, newType, pushed, -⟩
  · rw [same]
    exact coherent
  · rw [pushed]
    exact coherent.push newName newType

/-- What is not refused is appended. -/
theorem Coherent.register_entries (coherent : r.Coherent) (a : ScalarAdapter τ) :
    (r.register a).registry.entries =
      r.entries ++ if (r.register a).error.isNone then [a] else [] := by
  rcases coherent.register_cases a with ⟨-, same, error⟩ | ⟨-, -, pushed, error⟩
  · rw [same, error]
    exact (List.append_nil _).symm
  · rw [pushed, error]
    rfl

end Registry

/-! ## Installing -/

namespace Installer

variable {τ : Type} [TypeFamily τ] [DecidableEq τ]

/-- The adapters that are registered when something is installed, in their order. -/
def registered : Installer τ → Registry τ → List (ScalarAdapter τ)
  | .finish _, _ => []
  | .look next, r => (next r).registered r
  | .register a next, r =>
      let first := r.register a
      (if first.error.isNone then [a] else []) ++ (next first.error).registered first.registry

/-- Whatever is installed, the registry stays coherent, and what is registered is appended. -/
theorem run_keeps (i : Installer τ) {r : Registry τ} (coherent : r.Coherent) :
    (i.run r).registry.Coherent ∧ (i.run r).registry.entries = r.entries ++ i.registered r := by
  induction i generalizing r with
  | finish error => exact ⟨coherent, (List.append_nil _).symm⟩
  | look next ih => exact ih r coherent
  | register a next ih =>
      obtain ⟨kept, appended⟩ := ih (r.register a).error (coherent.register a)
      refine ⟨kept, ?_⟩
      rw [run, registered]
      dsimp only
      rw [appended, coherent.register_entries, List.append_assoc]

end Installer

/-! ## Histories -/

namespace Registry

variable {τ : Type} [TypeFamily τ] [DecidableEq τ]

/-- A call that may change a registry. -/
inductive Call (τ : Type) [TypeFamily τ] where
  /-- Registers an adapter. -/
  | register (adapter : ScalarAdapter τ)
  /-- Installs something. -/
  | install (installer : Installer τ)

namespace Call

/-- The outcome of a call. -/
def run : Call τ → Registry τ → Installation τ
  | register a, r => r.register a
  | install i, r => r.install i

/-- The adapters that a call registers. -/
def registered : Call τ → Registry τ → List (ScalarAdapter τ)
  | register a, r => if (r.register a).error.isNone then [a] else []
  | install i, r => i.registered r

theorem run_keeps (call : Call τ) {r : Registry τ} (coherent : r.Coherent) :
    (call.run r).registry.Coherent ∧
      (call.run r).registry.entries = r.entries ++ call.registered r := by
  cases call with
  | install i => exact i.run_keeps coherent
  | register a => exact ⟨coherent.register a, coherent.register_entries a⟩

end Call

/-- A registry after some more calls, whatever came of each. -/
def afterCalls (r : Registry τ) (calls : List (Call τ)) : Registry τ :=
  calls.foldl (fun r call => (call.run r).registry) r

/-- The adapters that some calls register, in their order. -/
def registeredBy (r : Registry τ) : List (Call τ) → List (ScalarAdapter τ)
  | [] => []
  | call :: rest => call.registered r ++ registeredBy (call.run r).registry rest

theorem afterCalls_keeps (calls : List (Call τ)) {r : Registry τ} (coherent : r.Coherent) :
    (r.afterCalls calls).Coherent ∧
      (r.afterCalls calls).entries = r.entries ++ r.registeredBy calls := by
  induction calls generalizing r with
  | nil => exact ⟨coherent, (List.append_nil _).symm⟩
  | cons call rest ih =>
      obtain ⟨next, appended⟩ := call.run_keeps coherent
      obtain ⟨kept, all⟩ := ih next
      refine ⟨kept, ?_⟩
      calc (r.afterCalls (call :: rest)).entries
        _ = (call.run r).registry.entries ++ (call.run r).registry.registeredBy rest := all
        _ = r.entries ++ r.registeredBy (call :: rest) := by
          rw [appended, List.append_assoc, registeredBy]

/-- A registry holds exactly some adapters. -/
structure Holds (r : Registry τ) (adapters : List (ScalarAdapter τ)) : Prop where
  /-- They are its entries, in their order. -/
  entries : r.entries = adapters
  /-- No two have one name. -/
  distinctNames : r.names.Nodup
  /-- No two have one type. -/
  distinctTypes : r.types.Nodup
  /-- The maps lead exactly to them. -/
  maps : r.Coherent
  /-- The names that the registry contains are theirs. -/
  contains (name : String) : r.contains name = true ↔ name ∈ r.names
  /-- The types that the registry contains are theirs. -/
  containsType (t : τ) : r.containsType t = true ↔ t ∈ r.types
  /-- An adapter of a new name and a new type is appended, and another one changes nothing. -/
  register (a : ScalarAdapter τ) :
    ((a.name ∈ r.names ∨ a.type ∈ r.types) ∧ (r.register a).registry = r ∧
      (r.register a).error = some (.alreadyRegistered a.name)) ∨
    (a.name ∉ r.names ∧ a.type ∉ r.types ∧ (r.register a).error = none ∧
      (r.register a).registry.entries = adapters ++ [a])
  /-- Each is found by its type. -/
  ofType (a : ScalarAdapter τ) : a ∈ adapters → r.adapterOf a.type = .ok ⟨a, rfl⟩
  /-- For another type none is found, whatever its name. -/
  ofOtherType (t : τ) : (∀ a ∈ adapters, a.type ≠ t) →
    r.adapterOf t = .error (.unknownType (TypeFamily.name t))
  /-- Each is found by its name. -/
  ofName (a : ScalarAdapter τ) : a ∈ adapters → r.find? a.name = .ok (some a)
  /-- For another name none is found. -/
  ofOtherName (name : String) : (∀ a ∈ adapters, a.name ≠ name) → r.find? name = .ok none

theorem Coherent.holds {r : Registry τ} (coherent : r.Coherent) : r.Holds r.entries where
  entries := rfl
  distinctNames := coherent.names.nodup
  distinctTypes := coherent.types.nodup
  maps := coherent
  contains _ := coherent.contains_iff
  containsType _ := coherent.containsType_iff
  register a := by
    rcases coherent.register_cases a with refused | ⟨newName, newType, pushed, error⟩
    · exact .inl refused
    · refine .inr ⟨newName, newType, error, ?_⟩
      rw [pushed]
      rfl
  ofType _ registered := coherent.adapterOf_of_mem registered
  ofOtherType t others := by
    refine coherent.adapterOf_of_not_mem fun listed => ?_
    obtain ⟨a, registered, has⟩ := List.mem_map.1 listed
    exact others a registered has
  ofName _ registered := coherent.find?_of_mem registered
  ofOtherName name others := by
    refine coherent.find?_of_not_mem fun listed => ?_
    obtain ⟨a, registered, has⟩ := List.mem_map.1 listed
    exact others a registered has

/-- After every history of calls, a registry holds exactly the adapters that were registered. -/
theorem history_sound (calls : List (Call τ)) :
    (empty.afterCalls calls).Holds (empty.registeredBy calls) := by
  obtain ⟨coherent, entries⟩ := afterCalls_keeps calls empty_coherent
  have holds := coherent.holds
  rw [entries] at holds
  exact holds

end Registry
end DomainValues
