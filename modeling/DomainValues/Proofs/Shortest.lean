import DomainValues.Number.Shortest
import DomainValues.Proofs.RealOrder

/-!
# Shortest digits read back

A decimal and a magnitude are joined by rounding: the decimal reads as the magnitude that is
nearest to its value (`Decimal.magnitude`).  Rounding looks at a quotient only, so it does not
tell apart the spellings of one value, and a magnitude is nearest to its own value.

Main statements:

* `Binary64.magnitudeNear_units`: a magnitude is the one nearest to its units.
* `Decimal.magnitude_shortest`, `Decimal.magnitude_trim`: the shortest digits of a magnitude read
  as it, with and without trailing zeros.
* `Binary64.ofDecimal_eq`: a decimal is read as the number of its magnitude.
-/

namespace DomainValues

/-! ## Rounding a quotient -/

namespace Binary64

/-- Rounding depends on the quotient only. -/
theorem roundQuotient_mul {n d k : Nat} (positive : 0 < k) :
    roundQuotient (n * k) (d * k) = roundQuotient n d := by
  have scaled {a b : Nat} : a * k < b * k ↔ a < b := Nat.mul_lt_mul_right positive
  unfold roundQuotient
  simp only [Nat.mul_div_mul_right _ _ positive, Nat.mul_mod_mul_right, ← Nat.mul_assoc 2, scaled]

theorem roundQuotient_one (n : Nat) : roundQuotient n 1 = n := by
  simp [roundQuotient, Nat.mod_one]

/-- The nearest magnitude depends on the quotient only. -/
theorem magnitudeNear_mul {n d k : Nat} (positive : 0 < k) :
    magnitudeNear (n * k) (d * k) = magnitudeNear n d := by
  unfold magnitudeNear
  have shifted (s : Nat) : (d * k) <<< s = (d <<< s) * k := by
    rw [Nat.shiftLeft_eq, Nat.shiftLeft_eq, Nat.mul_right_comm]
  simp only [Nat.mul_div_mul_right _ _ positive, shifted, roundQuotient_mul positive]

/-- A magnitude is the one nearest to its units. -/
theorem magnitudeNear_units (m : Nat) : magnitudeNear (units m) 1 = m := by
  unfold magnitudeNear
  rw [Nat.div_one]
  by_cases large : fractionLimit ≤ m
  · obtain ⟨exponent, fraction, bound, rfl⟩ := exists_fields large
    rw [units_of_large bound]
    have log : ((fractionLimit + fraction) * 2 ^ exponent).log2 = 52 + exponent := by
      have leading : (fractionLimit + fraction) * 2 ^ exponent ≠ 0 :=
        Nat.mul_ne_zero (by unfold fractionLimit; omega) (Nat.two_pow_pos exponent).ne'
      rw [Nat.log2_eq_iff leading, Nat.pow_succ, Nat.pow_add, Nat.mul_right_comm]
      unfold fractionLimit at *
      exact ⟨Nat.mul_le_mul_right _ (by omega), Nat.mul_lt_mul_of_pos_right (by omega)
        (Nat.two_pow_pos exponent)⟩
    rw [log, Nat.add_sub_cancel_left]
    dsimp only
    rw [Nat.shiftLeft_eq, roundQuotient_mul (Nat.two_pow_pos exponent), roundQuotient_one,
      Nat.succ_mul, Nat.add_assoc]
  · have log : m.log2 - 52 = 0 := by
      by_cases none : m = 0
      · rw [none]
        rfl
      · have short : m.log2 < 52 := (Nat.log2_lt none).2 (by unfold fractionLimit at large; omega)
        omega
    rw [units_of_small (by omega), log]
    dsimp only
    rw [Nat.shiftLeft_zero, roundQuotient_one, Nat.zero_mul, Nat.zero_add]

/-- What is less than half a unit rounds to zero. -/
theorem magnitudeNear_of_tiny {n d : Nat} (h : 2 * n < d) : magnitudeNear n d = 0 := by
  have quotient : n / d = 0 := Nat.div_eq_of_lt (by omega)
  have remainder : n % d = n := Nat.mod_eq_of_lt (by omega)
  have none : (0 : Nat).log2 - 52 = 0 := rfl
  unfold magnitudeNear roundQuotient
  simp only [quotient, none, Nat.shiftLeft_zero, remainder, h, if_true, Nat.zero_mul]

end Binary64

/-! ## The magnitude of a decimal -/

namespace Decimal

open Binary64

/-- The magnitude of a decimal, with both signs of the exponent in one quotient. -/
theorem magnitude_eq (digits : Nat) (exponent : Int) :
    magnitude ⟨digits, exponent⟩ =
      magnitudeNear (digits * 10 ^ exponent.toNat * unitsInOne) (10 ^ (-exponent).toNat) := by
  unfold magnitude
  split
  case isTrue nonnegative =>
    have none : (-exponent).toNat = 0 := by
      dsimp only at nonnegative
      omega
    rw [none, Nat.pow_zero]
    rfl
  case isFalse negative =>
    have none : exponent.toNat = 0 := by
      dsimp only at negative
      omega
    rw [none, Nat.pow_zero, Nat.mul_one]
    rfl

theorem magnitude_zero (exponent : Int) : magnitude ⟨0, exponent⟩ = 0 := by
  rw [magnitude_eq, Nat.zero_mul, Nat.zero_mul,
    magnitudeNear_of_tiny (Nat.pow_pos (by decide))]

/-- A zero at the end of the digits may go to the exponent. -/
theorem magnitude_shift (digits : Nat) (exponent : Int) :
    magnitude ⟨digits, exponent + 1⟩ = magnitude ⟨10 * digits, exponent⟩ := by
  rw [magnitude_eq, magnitude_eq]
  by_cases nonnegative : 0 ≤ exponent
  · have next : (exponent + 1).toNat = exponent.toNat + 1 := by omega
    have below : (-(exponent + 1)).toNat = (-exponent).toNat := by omega
    have numerator : digits * 10 ^ (exponent.toNat + 1) = 10 * digits * 10 ^ exponent.toNat := by
      rw [Nat.pow_succ', ← Nat.mul_assoc, Nat.mul_comm digits]
    rw [next, below, numerator]
  · have next : (exponent + 1).toNat = exponent.toNat := by omega
    have below : (-exponent).toNat = (-(exponent + 1)).toNat + 1 := by omega
    have numerator : 10 * digits * 10 ^ exponent.toNat * unitsInOne =
        digits * 10 ^ exponent.toNat * unitsInOne * 10 := by
      rw [Nat.mul_assoc 10, Nat.mul_assoc 10, Nat.mul_comm 10]
    rw [next, below, Nat.pow_succ, numerator, magnitudeNear_mul (by decide)]

/-- Dropping trailing zeros keeps what the digits read as. -/
theorem magnitude_trim (fuel : Nat) (d : Decimal) : (trim fuel d).magnitude = d.magnitude := by
  induction fuel generalizing d with
  | zero => rfl
  | succ fuel ih =>
      rw [trim]
      split
      case isTrue last =>
        have whole : 10 * (d.digits / 10) = d.digits := by omega
        rw [ih, magnitude_shift, whole]
      case isFalse => rfl

/-- The exact expansion of a magnitude reads as it. -/
theorem magnitude_exact (m : Nat) : (exact m).magnitude = m := by
  have expansion (k : Nat) :
      magnitudeNear (units m * Nat.pow 5 k * 1 <<< k) (Nat.pow 10 k) = m := by
    have factors : Nat.pow 5 k * 2 ^ k = 10 ^ k := (Nat.mul_pow 5 2 k).symm
    have powers : Nat.pow 10 k = 1 * 10 ^ k := (Nat.one_mul _).symm
    rw [Nat.one_shiftLeft, Nat.mul_assoc, factors, powers,
      magnitudeNear_mul (Nat.pow_pos (by decide)), magnitudeNear_units]
  have negative : ¬ (0 : Int) ≤ -1074 := by decide
  have power : (-(-1074) : Int).toNat = 1074 := rfl
  rw [magnitude, exact, if_neg negative, power, unitsInOne]
  generalize (1074 : Nat) = k
  exact expansion k

/-- The shortest digits of a magnitude read as it. -/
theorem magnitude_shortest (m : Nat) : (shortest m).magnitude = m := by
  unfold shortest
  cases found : (List.range 17).findSome? fun n => attempt m (n + 1) with
  | none => exact magnitude_exact m
  | some d =>
      obtain ⟨n, -, hit⟩ := List.exists_of_findSome?_eq_some found
      unfold attempt at hit
      have reads := List.find?_some hit
      exact eq_of_beq reads

end Decimal

/-! ## Reading a decimal -/

namespace Binary64

/-- Digits that are far below the least unit read as zero. -/
theorem magnitude_of_tiny {digits : Nat} {exponent : Int}
    (h : exponent < -(400 + digits.log2 : Int)) : Decimal.magnitude ⟨digits, exponent⟩ = 0 := by
  have none : exponent.toNat = 0 := by omega
  rw [Decimal.magnitude_eq, none, Nat.pow_zero, Nat.mul_one]
  refine magnitudeNear_of_tiny ?_
  have large : 401 + digits.log2 ≤ (-exponent).toNat := by omega
  have powers (a b : Nat) : 2 * (2 ^ (a + 1) * 1 <<< b) = 2 ^ (a + (b + 2)) := by
    rw [Nat.one_shiftLeft, ← Nat.pow_add, ← Nat.pow_succ']
    congr 1
    omega
  calc 2 * (digits * unitsInOne)
    _ < 2 * (2 ^ (digits.log2 + 1) * unitsInOne) := by
      have least := unitsInOne_pos
      have log : digits < 2 ^ (digits.log2 + 1) := Nat.lt_log2_self
      exact Nat.mul_lt_mul_of_pos_left (Nat.mul_lt_mul_of_pos_right log least) (by decide)
    _ = 2 ^ (digits.log2 + (1074 + 2)) := powers _ _
    _ ≤ 2 ^ (3 * (401 + digits.log2)) := Nat.pow_le_pow_right (by decide) (by omega)
    _ = 8 ^ (401 + digits.log2) := by rw [Nat.pow_mul]
    _ ≤ 10 ^ (401 + digits.log2) := Nat.pow_le_pow_left (by decide) _
    _ ≤ 10 ^ (-exponent).toNat := Nat.pow_le_pow_right (by decide) large

/-- A decimal is read as the number of its magnitude. -/
theorem ofDecimal_eq (negative : Bool) (digits : Nat) {exponent : Int} (h : exponent ≤ 400) :
    ofDecimal negative digits exponent =
      ofMagnitude negative (Decimal.magnitude ⟨digits, exponent⟩) := by
  have zero : ofMagnitude negative 0 = finite negative ⟨0, by decide⟩ := rfl
  unfold ofDecimal
  split
  case isTrue none => rw [none, Decimal.magnitude_zero, zero]
  rw [if_neg (by omega)]
  split
  case isTrue tiny => rw [magnitude_of_tiny tiny, zero]
  split
  case isTrue nonnegative =>
    rw [Decimal.magnitude, if_pos nonnegative]
    rfl
  case isFalse below =>
    rw [Decimal.magnitude, if_neg below]
    rfl

end Binary64
end DomainValues
