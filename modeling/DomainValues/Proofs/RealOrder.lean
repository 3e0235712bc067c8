import DomainValues.Number.Binary64
import Mathlib.Algebra.Order.Field.Rat
import Mathlib.Data.Rat.Cast.Order
import Mathlib.Order.Monotone.Basic
import Mathlib.Tactic.Linarith
import Mathlib.Tactic.Positivity

/-!
# The values of binary64 numbers

A finite number has a value, a whole number of units with a sign (`Binary64.value?`).  Numbers are
compared by their places, which are signed magnitudes, and not by their values.

Main statements:

* `Binary64.units_strictMono`: a greater magnitude has more units.
* `Binary64.le_iff`: of finite numbers, the comparison is that of the values.
* `Binary64.value?_withoutNegativeZero`: folding the negative zero keeps the value.
-/

namespace DomainValues.Binary64

/-! ## Magnitudes -/

theorem units_of_small {m : Nat} (h : m < fractionLimit) : units m = m := by
  have exponent : m / fractionLimit = 0 := Nat.div_eq_of_lt h
  rw [units, significand, if_pos h, exponent, Nat.zero_sub, Nat.shiftLeft_zero]

theorem units_of_large {exponent fraction : Nat} (h : fraction < fractionLimit) :
    units ((exponent + 1) * fractionLimit + fraction) =
      (fractionLimit + fraction) * 2 ^ exponent := by
  unfold fractionLimit at *
  have large : ¬ (exponent + 1) * 0x10000000000000 + fraction < 0x10000000000000 := by omega
  have quotient : ((exponent + 1) * 0x10000000000000 + fraction) / 0x10000000000000 =
      exponent + 1 := by omega
  have remainder : ((exponent + 1) * 0x10000000000000 + fraction) % 0x10000000000000 =
      fraction := by omega
  rw [units, significand, fractionLimit, if_neg large, quotient, remainder, Nat.add_sub_cancel,
    Nat.shiftLeft_eq]

/-- A magnitude with an exponent field that is not zero, by its fields. -/
theorem exists_fields {m : Nat} (h : fractionLimit ≤ m) : ∃ exponent fraction,
    fraction < fractionLimit ∧ m = (exponent + 1) * fractionLimit + fraction := by
  unfold fractionLimit at *
  exact ⟨m / 0x10000000000000 - 1, m % 0x10000000000000, by omega, by omega⟩

/-- The next magnitude has more units.  The exponent changes if the fraction is full. -/
theorem units_lt_succ (m : Nat) : units m < units (m + 1) := by
  by_cases large : fractionLimit ≤ m
  · obtain ⟨exponent, fraction, bound, rfl⟩ := exists_fields large
    rw [units_of_large bound]
    by_cases full : fraction + 1 = fractionLimit
    · have next : (exponent + 1) * fractionLimit + fraction + 1 =
          (exponent + 1 + 1) * fractionLimit + 0 := by
        rw [Nat.add_assoc, full, Nat.succ_mul (exponent + 1)]
        exact (Nat.add_zero _).symm
      rw [next, units_of_large (by decide)]
      calc (fractionLimit + fraction) * 2 ^ exponent
        _ < fractionLimit * 2 * 2 ^ exponent :=
          Nat.mul_lt_mul_of_pos_right (by omega) (Nat.two_pow_pos exponent)
        _ = (fractionLimit + 0) * 2 ^ (exponent + 1) := by
          rw [Nat.add_zero, Nat.mul_assoc, ← Nat.pow_succ']
    · rw [Nat.add_assoc, units_of_large (by omega)]
      exact Nat.mul_lt_mul_of_pos_right (by omega) (Nat.two_pow_pos exponent)
  · rw [units_of_small (by omega)]
    by_cases last : m + 1 = fractionLimit
    · have least := @units_of_large 0 0 (by decide)
      rw [Nat.zero_add, Nat.one_mul, Nat.add_zero, Nat.pow_zero, Nat.mul_one] at least
      rw [last, least, ← last]
      exact Nat.lt_succ_self m
    · rw [units_of_small (by omega)]
      exact Nat.lt_succ_self m

/-- A greater magnitude has more units. -/
theorem units_strictMono : StrictMono units := strictMono_nat_of_lt_succ units_lt_succ

theorem units_eq_zero_iff {m : Nat} : units m = 0 ↔ m = 0 := by
  constructor
  · intro none
    exact units_strictMono.injective (none.trans rfl)
  · rintro rfl
    rfl

theorem unitsInOne_pos : 0 < unitsInOne := by
  rw [unitsInOne, Nat.one_shiftLeft]
  positivity

/-! ## Values -/

/-- The value of a finite number. -/
def value? : Binary64 → Option ℚ
  | finite negative m =>
      some ((if negative then -(units m.val : ℚ) else units m.val) / unitsInOne)
  | _ => none

/-- The negative zero. -/
def negativeZero : Binary64 := zero.negate

theorem isFinite_iff {x : Binary64} : x.isFinite = true ↔ ∃ v, x.value? = some v := by
  cases x with
  | nan => exact ⟨nofun, nofun⟩
  | infinite negative => exact ⟨nofun, nofun⟩
  | finite negative m => exact ⟨fun _ => ⟨_, rfl⟩, fun _ => rfl⟩

/-- Signed magnitudes are in the order of the signed units. -/
theorem signed_le_iff (n k : Bool) (a b : Nat) :
    (if n then -(a : Int) else a) ≤ (if k then -(b : Int) else b) ↔
      (if n then -(units a : ℚ) else units a) ≤ (if k then -(units b : ℚ) else units b) := by
  have mono {c d : Nat} : (units c : ℚ) ≤ units d ↔ c ≤ d := by
    rw [Nat.cast_le, units_strictMono.le_iff_le]
  have nonnegative (c : Nat) : (0 : ℚ) ≤ units c := Nat.cast_nonneg _
  cases n with
  | false =>
      cases k with
      | false => simp [mono]
      | true =>
          -- A number without a sign is at most one with a sign only if both are zero.
          have zeros : (units a : ℚ) ≤ -units b ↔ units a = 0 ∧ units b = 0 := by
            constructor
            · intro le
              have := nonnegative a
              have := nonnegative b
              exact ⟨Nat.cast_eq_zero.1 (by linarith : (units a : ℚ) = 0),
                Nat.cast_eq_zero.1 (by linarith : (units b : ℚ) = 0)⟩
            · rintro ⟨noneA, noneB⟩
              simp [noneA, noneB]
          simp only [Bool.false_eq_true, if_false, if_true, zeros, units_eq_zero_iff]
          omega
  | true =>
      cases k with
      | false =>
          have le : -(units a : ℚ) ≤ units b := by linarith [nonnegative a, nonnegative b]
          simp only [Bool.false_eq_true, if_false, if_true, le, iff_true]
          omega
      | true => simp [mono]

/-- Of finite numbers, the comparison is that of the values. -/
theorem le_iff {x y : Binary64} {v w : ℚ} (hx : x.value? = some v) (hy : y.value? = some w) :
    le x y = true ↔ v ≤ w := by
  cases x with
  | nan => cases hx
  | infinite negative => cases hx
  | finite n a =>
      cases y with
      | nan => cases hy
      | infinite negative => cases hy
      | finite k b =>
          obtain rfl := Option.some.inj hx
          obtain rfl := Option.some.inj hy
          have positive : (0 : ℚ) < unitsInOne := Nat.cast_pos.2 unitsInOne_pos
          rw [div_le_div_iff_of_pos_right positive, ← signed_le_iff]
          simp [le, place]

/-- Of finite numbers, what is not below is at least as great. -/
theorem le_of_not_lt {x y : Binary64} {v w : ℚ} (hx : x.value? = some v) (hy : y.value? = some w)
    (h : lt y x = false) : le x y = true := by
  cases x with
  | nan => cases hx
  | infinite negative => cases hx
  | finite n a =>
      cases y with
      | nan => cases hy
      | infinite negative => cases hy
      | finite k b => simpa [lt, le, place] using h

/-- What is at least as great is not below. -/
theorem not_lt_of_le {x y : Binary64} (h : le x y = true) : lt y x = false := by
  unfold le at h
  unfold lt
  split at h
  case h_1 places places' =>
    rw [places, places']
    simpa using h
  case h_2 => cases h

/-- Folding the negative zero keeps the value. -/
theorem value?_withoutNegativeZero (x : Binary64) : x.withoutNegativeZero.value? = x.value? := by
  cases x with
  | nan => rfl
  | infinite negative => rfl
  | finite negative m =>
      by_cases none : m.val = 0
      · have unsigned :
            (units m.val : ℚ) = if negative then -(units m.val : ℚ) else units m.val := by
          simp [units_eq_zero_iff.2 none]
        rw [withoutNegativeZero, if_pos none]
        exact congrArg (fun numerator => some (numerator / (unitsInOne : ℚ))) unsigned
      · rw [withoutNegativeZero, if_neg none]

theorem withoutNegativeZero_ne (x : Binary64) : x.withoutNegativeZero ≠ negativeZero := by
  cases x with
  | nan => nofun
  | infinite negative => nofun
  | finite negative m =>
      intro same
      by_cases none : m.val = 0
      · rw [withoutNegativeZero, if_pos none] at same
        cases (finite.inj same).1
      · rw [withoutNegativeZero, if_neg none] at same
        exact none (congrArg Fin.val (finite.inj same).2)

/-- What is not the negative zero stays. -/
theorem withoutNegativeZero_of_ne {x : Binary64} (h : x ≠ negativeZero) :
    x.withoutNegativeZero = x := by
  cases x with
  | nan => rfl
  | infinite negative => rfl
  | finite negative m =>
      by_cases none : m.val = 0
      · rw [withoutNegativeZero, if_pos none]
        cases negative with
        | false => rfl
        | true => exact absurd (congrArg (finite true) (Fin.ext none)) h
      · rw [withoutNegativeZero, if_neg none]

end DomainValues.Binary64
