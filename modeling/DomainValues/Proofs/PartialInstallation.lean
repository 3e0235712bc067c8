import DomainValues.Proofs.Installing

/-!
# What an installation leaves behind

Adapters are registered one after the other, and the first one that clashes with a registry ends
the installation: its name or its type is taken (`Registry.Clashes`).  What stands before it is
registered and stays registered, and what stands after it is not looked at.

So the outcome is told by the registry before and the row of adapters alone, as long as the names and
the types of the row are distinct: no adapter of the row can then be in the way of a later one.  The
registration of a pass has such a row.

Main statement: `Module.installation_residue`, for every registration and after every history of
calls.
-/

namespace DomainValues

namespace Registry

variable {τ : Type} [TypeFamily τ]

/-- The name or the type of an adapter is taken. -/
def Clashes (r : Registry τ) (a : ScalarAdapter τ) : Prop := a.name ∈ r.names ∨ a.type ∈ r.types

/-- What clashes with a registry clashes with it after more adapters. -/
theorem Clashes.of_entries {r r' : Registry τ} {a : ScalarAdapter τ}
    {more : List (ScalarAdapter τ)} (clashes : r.Clashes a)
    (entries : r'.entries = r.entries ++ more) : r'.Clashes a := by
  unfold Clashes names types at *
  rw [entries, List.map_append, List.map_append]
  exact clashes.imp (List.mem_append_left _) (List.mem_append_left _)

end Registry

namespace Installer

variable {τ : Type} [TypeFamily τ] [DecidableEq τ] {r : Registry τ} {a : ScalarAdapter τ}
  {adapters before rest : List (ScalarAdapter τ)}

/-! ## Installing in parts -/

/-- After adapters that are all registered, an installation goes on with the others. -/
theorem run_ofAdapters_append (rest : List (ScalarAdapter τ))
    (done : ((ofAdapters before).run r).error = none) :
    ((ofAdapters (before ++ rest)).run r).error =
        ((ofAdapters rest).run ((ofAdapters before).run r).registry).error ∧
      ((ofAdapters (before ++ rest)).run r).registry =
        ((ofAdapters rest).run ((ofAdapters before).run r).registry).registry := by
  induction before generalizing r with
  | nil => exact ⟨rfl, rfl⟩
  | cons b before ih =>
      simp only [List.cons_append, ofAdapters, run] at done ⊢
      cases registered : (r.register b).error with
      | none =>
          rw [registered] at done
          exact ih done
      | some e =>
          rw [registered] at done
          cases done

/-- Adapters that clash neither with a registry nor with one another have new names and new
types. -/
theorem nodup_of_no_clash (coherent : r.Coherent) (names : (adapters.map ScalarAdapter.name).Nodup)
    (types : (adapters.map ScalarAdapter.type).Nodup) (clear : ∀ a ∈ adapters, ¬r.Clashes a) :
    (r.names ++ adapters.map ScalarAdapter.name).Nodup ∧
      (r.types ++ adapters.map ScalarAdapter.type).Nodup := by
  constructor
  · refine coherent.names.nodup.append names fun name listed taken => ?_
    obtain ⟨a, inRow, rfl⟩ := List.mem_map.1 taken
    exact clear a inRow (.inl listed)
  · refine coherent.types.nodup.append types fun t listed taken => ?_
    obtain ⟨a, inRow, rfl⟩ := List.mem_map.1 taken
    exact clear a inRow (.inr listed)

/-- The first adapter of a row is taken after an installation, whatever came of it. -/
theorem clashes_after_run (coherent : r.Coherent) :
    ((ofAdapters (a :: rest)).run r).registry.Clashes a := by
  rcases coherent.register_cases a with ⟨taken, -⟩ | ⟨newName, newType, pushed, error⟩
  · rw [(run_ofAdapters_of_taken rest coherent taken).2]
    exact taken
  · have kept := ((ofAdapters rest).run_keeps (coherent.push newName newType)).2
    simp only [ofAdapters, run, error, pushed]
    have new : (r.push a).Clashes a :=
      .inl (List.mem_map_of_mem (List.mem_append_right _ (List.mem_singleton_self a)))
    exact new.of_entries kept

/-! ## What is left behind -/

/-- What an installation of adapters leaves behind in a registry. -/
structure Leaves (adapters : List (ScalarAdapter τ)) (r : Registry τ) : Prop where
  /-- If none of them clashes with the registry, all are registered. -/
  complete : (∀ a ∈ adapters, ¬r.Clashes a) →
    (r.install (ofAdapters adapters)).error = none ∧
      (r.install (ofAdapters adapters)).registry.Holds (r.entries ++ adapters)
  /-- Otherwise those before the first that clashes are, and it is named. -/
  stopped : ∀ before a rest, adapters = before ++ a :: rest → (∀ b ∈ before, ¬r.Clashes b) →
    r.Clashes a →
    (r.install (ofAdapters adapters)).error = some (.alreadyRegistered a.name) ∧
      (r.install (ofAdapters adapters)).registry.Holds (r.entries ++ before)
  /-- The same installation fails afterwards with the first of them, and changes nothing. -/
  again : ∀ a rest, adapters = a :: rest →
    let once := (r.install (ofAdapters adapters)).registry
    (once.install (ofAdapters adapters)).error = some (.alreadyRegistered a.name) ∧
      (once.install (ofAdapters adapters)).registry = once

/-- Adapters of distinct names and distinct types are registered up to the first that clashes. -/
theorem leaves (coherent : r.Coherent) (names : (adapters.map ScalarAdapter.name).Nodup)
    (types : (adapters.map ScalarAdapter.type).Nodup) : Leaves adapters r where
  complete clear := by
    obtain ⟨newNames, newTypes⟩ := nodup_of_no_clash coherent names types clear
    obtain ⟨error, after, entries⟩ := run_ofAdapters_of_fresh coherent newNames newTypes
    exact ⟨error, entries ▸ after.holds⟩
  stopped before a rest row clear clashes := by
    subst row
    rw [List.map_append] at names types
    obtain ⟨newNames, newTypes⟩ := nodup_of_no_clash coherent
      (List.nodup_append'.1 names).1 (List.nodup_append'.1 types).1 clear
    obtain ⟨error, after, entries⟩ := run_ofAdapters_of_fresh coherent newNames newTypes
    obtain ⟨sameError, sameRegistry⟩ := run_ofAdapters_append (a :: rest) error
    obtain ⟨refused, unchanged⟩ :=
      run_ofAdapters_of_taken rest after (clashes.of_entries entries)
    constructor
    · exact sameError.trans refused
    · have registry := sameRegistry.trans unchanged
      rw [Registry.install, registry, ← entries]
      exact after.holds
  again a rest row := by
    subst row
    intro once
    have after : once.Coherent := (run_keeps _ coherent).1
    exact run_ofAdapters_of_taken rest after (clashes_after_run coherent)

end Installer

/-! ## Registrations -/

namespace Module

/-- Whatever the module, the options and the flag: a registration stands for the adapters of its
entries, in the order of their names, and after every history of calls they are registered up to the
first that clashes. -/
theorem installation_residue {m : Module} {o : Options} {flag : Nat → Bool} {reg : Registration}
    (yields : (m.run o flag).registration = some reg) :
    let adapters := Product.standardAdapters (m.run o flag).products
    (m.run o flag).installer? = some (.ofAdapters adapters) ∧
      reg.calls.mapM (m.run o flag).adapterAt? = some adapters ∧ adapters ≠ [] ∧
      adapters.map ScalarAdapter.name = reg.entries.map RegistrationEntry.name ∧
      ((reg.entries.map RegistrationEntry.name).map Text.bytes).Pairwise (· < ·) ∧
      ∀ calls : List (Registry.Call ValueType),
        Installer.Leaves adapters (Registry.empty.afterCalls calls) := by
  obtain ⟨limit, same⟩ := exists_limit m o flag
  rw [same] at yields ⊢
  intro adapters
  have lists := registration_lists yields
  have increasing := lists.increasing
  have names := nameTable_eq yields
  rw [lists.nameTable] at increasing names
  refine ⟨installer?_eq yields, calls_lead yields, standardAdapters_ne_nil yields, names.symm,
    increasing, fun calls => ?_⟩
  have coherent := (Registry.afterCalls_keeps calls Registry.empty_coherent).1
  exact Installer.leaves coherent (adapterNames_nodup m o limit) (adapterTypes_nodup m o limit)

/-- Another type has the name of the second declaration. -/
theorem stopped_at_second :
    let m := ofItems [.unitStruct [.directive .identifier] .everywhere "CustomerId",
      .unitStruct [.directive .identifier] .everywhere "OrderId"]
    let g := m.run .default fun _ => false
    let other : ValueType := ⟨"elsewhere::OrderId", "OrderId", .identifier⟩
    let r := Registry.empty.afterCalls [.register (.standard other)]
    ∃ reg installer, g.registration = some reg ∧ g.installer? = some installer ∧
      (r.install installer).error = some (.alreadyRegistered "OrderId") ∧
      (r.install installer).registry.names = ["OrderId", "CustomerId"] := by
  intro m g other r
  have unlimited : g = m.generate .default none := run_of_unset fun _ _ => rfl
  have listed : g.registration.isSome = true := by
    rw [unlimited, isSome_registration]
    exact ⟨by decide, nofun⟩
  obtain ⟨reg, yields⟩ := Option.isSome_iff_exists.1 listed
  obtain ⟨installs, -, -, -, -, leaves⟩ := installation_residue yields
  have sorted : Product.inNameOrder g.products = g.products :=
    List.mergeSort_of_pairwise (by decide +kernel)
  have row : Product.standardAdapters g.products =
      [.standard ⟨"CustomerId", "CustomerId", .identifier⟩,
        .standard ⟨"OrderId", "OrderId", .identifier⟩] := by
    rw [Product.standardAdapters, sorted]
    rfl
  have clear : ¬r.Clashes (.standard ⟨"CustomerId", "CustomerId", .identifier⟩) := by
    rintro (name | type)
    · exact absurd (List.mem_singleton.1 name) (by decide)
    · exact absurd (List.mem_singleton.1 type) (by decide)
  have clashes : r.Clashes (.standard ⟨"OrderId", "OrderId", .identifier⟩) :=
    .inl (List.mem_singleton.2 rfl)
  obtain ⟨error, holds⟩ := (leaves [.register (.standard other)]).stopped [_] _ [] row
    (fun b listed => List.mem_singleton.1 listed ▸ clear) clashes
  refine ⟨reg, _, yields, installs, error, ?_⟩
  exact congrArg (List.map ScalarAdapter.name) holds.entries

end Module
end DomainValues
