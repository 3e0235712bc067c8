import DomainValues.Proofs.BoundArithmetic
import DomainValues.Proofs.Cancellation
import DomainValues.Proofs.DirectivePositions

/-!
# Builds that check for overflow

A build that checks for overflow stops where the sign of a bound overflows.  It stops for nothing
else, so what an evaluation gives in such a build, if it gives anything, is what it gives where
numbers wrap around (`Evaluation.Yields`).

A pass stops exactly if it handles a declaration whose directive overflows
(`Module.runIn?_eq_none_iff`), and else produces what it produces in every build
(`Module.eq_run_of_runIn?`).  A directive overflows only if an argument has a second minus sign in
its numeral, so one whose numerals are unsigned does not (`Directive.not_overflows_of_unsigned`).
-/

namespace DomainValues

/-! ## Evaluations -/

/-- An evaluation stops under a condition, and else ends in a result. -/
inductive Evaluation.Yields {α : Type} (e : Evaluation α) (stops : Prop)
    (result : Except ConfigurationError α) : Prop where
  /-- It stops. -/
  | stopped : e.run = none → stops → Yields e stops result
  /-- It ends in the result. -/
  | ended : e.run = some result → ¬ stops → Yields e stops result

namespace Evaluation

variable {α β : Type} {e : Evaluation α} {stops stops' : Prop} {x : Except ConfigurationError α}

theorem Yields.congr (h : e.Yields stops x) (same : stops ↔ stops') : e.Yields stops' x := by
  cases h with
  | stopped none holds => exact .stopped none (same.1 holds)
  | ended some fails => exact .ended some fun holds => fails (same.2 holds)

theorem yields_of (x : Except ConfigurationError α) : (Evaluation.of x).Yields False x :=
  .ended rfl not_false

/-- An evaluation and what follows it stop if one of them does. -/
theorem Yields.bind {f : α → Evaluation β} {later : α → Prop}
    {g : α → Except ConfigurationError β} (h : e.Yields stops x)
    (next : ∀ a, (f a).Yields (later a) (g a)) :
    (e >>= f).Yields (stops ∨ ∃ a, x = .ok a ∧ later a) (x >>= g) := by
  cases h with
  | stopped none holds =>
      refine .stopped ?_ (.inl holds)
      rw [ExceptT.run_bind, none]
      rfl
  | ended some fails =>
      cases x with
      | error refusal =>
          refine .ended ?_ ?_
          · rw [ExceptT.run_bind, some]
            rfl
          · rintro (holds | ⟨a, ⟨⟩, -⟩)
            exact fails holds
      | ok a =>
          have run : (e >>= f).run = (f a).run := by
            rw [ExceptT.run_bind, some]
            rfl
          cases next a with
          | stopped none holds => exact .stopped (run.trans none) (.inr ⟨a, rfl, holds⟩)
          | ended some notLater =>
              refine .ended (run.trans some) ?_
              rintro (holds | ⟨_, ⟨⟩, holds⟩)
              · exact fails holds
              · exact notLater holds

end Evaluation

/-! ## Bounds -/

namespace Directive

variable {b : Build} {d : Directive} {p : Parameter} {a : Argument}

/-- Without a numeral of 64 bits there is nothing to overflow. -/
theorem readInt32In_of_unread (unread : ∀ negative numeral suffix m,
    a.value = .integer negative numeral suffix → magnitude? numeral ≠ some m) :
    readInt32In b p a = Evaluation.of (readInt32 p a) := by
  rw [readInt32In, readInt32]
  cases value : a.value with
  | integer negative numeral suffix =>
      have none : magnitude? numeral = none :=
        Option.eq_none_iff_forall_ne_some.2 fun m => unread _ _ _ m value
      dsimp only
      rw [none]
      rfl
  | real => rfl
  | text => rfl

/-- A numeral of 64 bits is read as where numbers wrap around, if its sign does not overflow. -/
theorem readInt32In_of_magnitude {negative : Bool} {numeral suffix : String} {m : Int64}
    (value : a.value = .integer negative numeral suffix) (read : magnitude? numeral = some m) :
    readInt32In b p a = if b = .checked ∧ negative = true ∧ m = Int64.minValue then
      ExceptT.mk none else Evaluation.of (readInt32 p a) := by
  rw [readInt32In, readInt32, value]
  dsimp only
  rw [read]
  dsimp only
  rw [applySignIn?]
  split
  case isTrue => rfl
  case isFalse =>
    rw [apply_ite Evaluation.of]
    rfl

/-- In a build that checks for overflow, a number is not read if its sign overflows. -/
theorem readInt32In_yields (b : Build) (p : Parameter) (a : Argument) :
    (readInt32In b p a).Yields (b = .checked ∧ a.Overflows) (readInt32 p a) := by
  by_cases read : ∃ negative numeral suffix m, a.value = .integer negative numeral suffix ∧
      magnitude? numeral = some m
  · obtain ⟨negative, numeral, suffix, m, value, read⟩ := read
    have overflows : a.Overflows ↔ negative = true ∧ m = Int64.minValue := by
      refine Iff.trans ⟨?_, fun inexact => ⟨_, _, _, _, value, read, inexact⟩⟩
        (not_iff_comm.1 toInt_applySign_iff.symm)
      rintro ⟨_, _, _, _, value', read', inexact⟩
      cases value.symm.trans value'
      cases read.symm.trans read'
      exact inexact
    rw [readInt32In_of_magnitude value read, overflows]
    split
    case isTrue stops => exact .stopped rfl stops
    case isFalse goes => exact .ended rfl goes
  · rw [readInt32In_of_unread fun negative numeral suffix m value found =>
      read ⟨negative, numeral, suffix, m, value, found⟩]
    refine .ended rfl ?_
    rintro ⟨-, negative, numeral, suffix, m, value, found, -⟩
    exact read ⟨negative, numeral, suffix, m, value, found⟩

theorem requiredIn_yields (d : Directive) (b : Build) (p : Parameter) (slot : Option Argument) :
    (d.requiredIn b p slot).Yields (b = .checked ∧ ∃ a, slot = some a ∧ a.Overflows)
      (d.required readInt32 p slot) := by
  cases slot with
  | none => exact .ended rfl nofun
  | some a =>
      refine (readInt32In_yields b p a).congr (and_congr_right fun _ => ?_)
      exact ⟨fun overflows => ⟨a, rfl, overflows⟩, fun ⟨_, same, overflows⟩ =>
        Option.some.inj same ▸ overflows⟩

/-! ## Directives -/

/-- The sign of a bound overflows.  The upper bound is read only if the lower one is good. -/
def Overflows (d : Directive) : Prop :=
  d.kind = .boundedInteger ∧ ∃ slots, d.bind = .ok slots ∧
    ((∃ a, slots[0]?.join = some a ∧ a.Overflows) ∨
      (∃ min, d.required readInt32 ⟨"min", .int32, true⟩ slots[0]?.join = .ok min) ∧
        ∃ a, slots[1]?.join = some a ∧ a.Overflows)

/-- A build that checks for overflow stops exactly if the directive overflows. -/
theorem paramsIn_yields (d : Directive) (b : Build) :
    (d.paramsIn b).Yields (b = .checked ∧ d.Overflows) d.params := by
  unfold paramsIn params paramsBy Overflows
  cases kind : d.kind with
  | boundedInteger =>
      have order (min max : Int32) : ((if max < min then
          throw (d.outOfOrder "min" (toString min.toInt) "max" (toString max.toInt))
          else pure (.boundedInteger min max) : Evaluation Params)) =
            Evaluation.of (if max < min then
              .error (d.outOfOrder "min" (toString min.toInt) "max" (toString max.toInt))
            else .ok (.boundedInteger min max)) := by
        split <;> rfl
      simp only [order, readParams, kind]
      refine ((Evaluation.yields_of d.bind).bind fun slots =>
        (requiredIn_yields d b _ slots[0]?.join).bind fun min =>
          (requiredIn_yields d b _ slots[1]?.join).bind fun max =>
            Evaluation.yields_of _).congr ?_
      simp only [and_false, exists_false, or_false, false_or, true_and]
      constructor
      · rintro ⟨slots, bound, ⟨checks, lower⟩ | ⟨min, good, checks, upper⟩⟩
        · exact ⟨checks, slots, bound, .inl lower⟩
        · exact ⟨checks, slots, bound, .inr ⟨⟨min, good⟩, upper⟩⟩
      · rintro ⟨checks, slots, bound, lower | ⟨⟨min, good⟩, upper⟩⟩
        · exact ⟨slots, bound, .inl ⟨checks, lower⟩⟩
        · exact ⟨slots, bound, .inr ⟨min, good, checks, upper⟩⟩
  | identifier => exact (Evaluation.yields_of _).congr (by simp)
  | boundedText => exact (Evaluation.yields_of _).congr (by simp)
  | boundedReal => exact (Evaluation.yields_of _).congr (by simp)

/-- A numeral without a sign does not write the least number of 64 bits. -/
theorem not_overflows_of_unsigned {a : Argument} (unsigned : a.value.Unsigned) :
    ¬ a.Overflows := by
  rw [overflows_iff]
  rintro ⟨numeral, suffix, value, least⟩
  rw [value] at unsigned
  have same := least.unique (.unsigned unsigned)
  have positive : (0 : Int) ≤ numeralValue numeral.toList := Int.natCast_nonneg _
  omega

theorem Overflows.exists_argument (h : d.Overflows) : ∃ a ∈ d.arguments, a.Overflows := by
  obtain ⟨-, slots, bound, ⟨a, filled, overflows⟩ | ⟨-, a, filled, overflows⟩⟩ := h
  · exact ⟨a, mem_arguments_of_bind bound filled, overflows⟩
  · exact ⟨a, mem_arguments_of_bind bound filled, overflows⟩

/-- Whether a directive overflows does not depend on positions. -/
theorem overflows_unplaced (d : Directive) : d.unplaced.Overflows ↔ d.Overflows := by
  have kind : d.unplaced.kind = d.kind := rfl
  have held (held : Option Argument) : (∃ a, held.map Argument.unplaced = some a ∧ a.Overflows) ↔
      ∃ a, held = some a ∧ a.Overflows := by
    cases held with
    | none => exact ⟨nofun, nofun⟩
    | some a =>
        have same : a.unplaced.Overflows ↔ a.Overflows := Iff.rfl
        simp [same]
  unfold Overflows
  rw [kind, bind_unplaced]
  refine and_congr_right fun _ => ?_
  cases d.bind with
  | error e => exact ⟨nofun, nofun⟩
  | ok slots =>
      simp only [mapBoth_ok, Except.ok.injEq, exists_eq_left', slot_unplaced, held,
        d.required_unplaced readInt32_unplaced]
      cases d.required readInt32 ⟨"min", .int32, true⟩ slots[0]?.join with
      | error e => simp
      | ok min => simp

end Directive

/-! ## Declarations -/

namespace Declaration

variable {b : Build} {d : Declaration}

theorem configuredIn?_cases (b : Build) (d : Declaration) :
    (d.configuredIn? b = none ∧ b = .checked ∧ d.directive.Overflows) ∨
      (d.configuredIn? b = some d.configured ∧ ¬ (b = .checked ∧ d.directive.Overflows)) := by
  cases d.directive.paramsIn_yields b with
  | stopped none holds => exact .inl ⟨by rw [configuredIn?, none]; rfl, holds⟩
  | ended some fails => exact .inr ⟨by rw [configuredIn?, some]; rfl, fails⟩

end Declaration

/-! ## Passes -/

namespace Progress

variable {b : Build} {o : Options} {flag : Nat → Bool} {check : Nat} {g g' : Progress}
  {declarations : List Declaration}

/-- What is found before the flag is seen is the first declaration, or is found in the others. -/
theorem exists_unset_cons_iff {P : Declaration → Prop} {d : Declaration}
    {rest : List Declaration} :
    (∃ n e, (d :: rest)[n]? = some e ∧ P e ∧ ∀ i ≤ n, flag (check + i) = false) ↔
      flag check = false ∧ (P d ∨ ∃ n e, rest[n]? = some e ∧ P e ∧
        ∀ i ≤ n, flag (check + 1 + i) = false) := by
  constructor
  · rintro ⟨n, e, found, holds, unset⟩
    refine ⟨unset 0 (Nat.zero_le n), ?_⟩
    cases n with
    | zero => exact .inl (Option.some.inj found ▸ holds)
    | succ n =>
        refine .inr ⟨n, e, found, holds, fun i below => ?_⟩
        rw [Nat.add_assoc, Nat.add_comm 1 i]
        exact unset (i + 1) (Nat.succ_le_succ below)
  · rintro ⟨now, holds | ⟨n, e, found, holds, unset⟩⟩
    · refine ⟨0, d, rfl, holds, fun i below => ?_⟩
      rwa [Nat.le_zero.1 below]
    · refine ⟨n + 1, e, found, holds, fun i below => ?_⟩
      cases i with
      | zero => exact now
      | succ i =>
          have later := unset i (Nat.le_of_succ_le_succ below)
          rwa [Nat.add_assoc, Nat.add_comm 1 i] at later

/-- Handling declarations stops exactly if it comes to one that overflows before it sees the
flag. -/
theorem handleIn?_eq_none_iff : handleIn? b o flag check g declarations = none ↔
    b = .checked ∧ ∃ n d, declarations[n]? = some d ∧ d.directive.Overflows ∧
      ∀ i ≤ n, flag (check + i) = false := by
  induction declarations generalizing check g with
  | nil => exact ⟨nofun, nofun⟩
  | cons d rest ih =>
      rw [exists_unset_cons_iff, handleIn?]
      cases flag check with
      | true => exact iff_of_false (Option.some_ne_none _) fun h => Bool.noConfusion h.2.1
      | false =>
          rw [if_neg Bool.false_ne_true]
          rcases d.configuredIn?_cases b with ⟨none, checks, overflows⟩ | ⟨some, fine⟩
          · rw [none, Option.bind_none]
            exact iff_of_true rfl ⟨checks, rfl, .inl overflows⟩
          · rw [some, Option.bind_some, ih, and_iff_right rfl]
            exact and_congr_right fun checks =>
              (or_iff_right fun overflows => fine ⟨checks, overflows⟩).symm

/-- If it does not stop, it goes as in every build. -/
theorem eq_handle_of_handleIn? (h : handleIn? b o flag check g declarations = some g') :
    g' = handle o flag check g declarations := by
  induction declarations generalizing check g with
  | nil => exact (Option.some.inj h).symm
  | cons d rest ih =>
      rw [handleIn?] at h
      rw [handle]
      split at h
      case isTrue set =>
        rw [if_pos set]
        exact (Option.some.inj h).symm
      case isFalse unset =>
        rw [if_neg unset]
        obtain ⟨c, configured, h⟩ := Option.bind_eq_some_iff.1 h
        rcases d.configuredIn?_cases b with ⟨none, -⟩ | ⟨some, -⟩
        · cases none.symm.trans configured
        · cases some.symm.trans configured
          exact ih h

end Progress

namespace Module

variable {b : Build} {m : Module} {o : Options} {flag : Nat → Bool} {g : Generation}

/-- What a pass produces in a build, it produces in every build. -/
theorem eq_run_of_runIn? (h : m.runIn? b o flag = some g) : g = m.run o flag := by
  obtain ⟨progress, handled, rfl⟩ := Option.map_eq_some_iff.1 h
  rw [Progress.eq_handle_of_handleIn? handled, run]

/-- A pass stops exactly if the build checks for overflow and a declaration overflows that it
handles before it sees the flag. -/
theorem runIn?_eq_none_iff : m.runIn? b o flag = none ↔
    b = .checked ∧ ∃ n d, (m.discover.collisions o.registry).kept[n]? = some d ∧
      d.directive.Overflows ∧ ∀ i ≤ n, flag i = false := by
  rw [runIn?, Option.map_eq_none_iff, Progress.handleIn?_eq_none_iff]
  simp only [Nat.zero_add]

/-- Where numbers wrap around, no pass stops. -/
theorem runIn?_wrapping : m.runIn? .wrapping o flag = some (m.run o flag) := by
  cases ran : m.runIn? .wrapping o flag with
  | none => cases (runIn?_eq_none_iff.1 ran).1
  | some g => rw [eq_run_of_runIn? ran]

example : let m := ofItems [.unitStruct [Directive.leastNegated] .everywhere "Amount",
      .unitStruct [.directive .identifier] .everywhere "OrderId"]
    (m.runIn? .checked .default fun _ => false).isNone = true ∧
      (m.run .default fun _ => false).products.length = 1 := by
  decide +kernel

end Module
end DomainValues
