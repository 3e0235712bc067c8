import DomainValues.Proofs.Shortest
import Mathlib.Algebra.Order.Group.Abs
import Mathlib.Tactic.FieldSimp
import Mathlib.Tactic.NormNum
import Mathlib.Tactic.Ring

/-!
# Correct rounding

A magnitude is nearest to a number of units if no other one is nearer, and if it is even where
another one is as near (`Binary64.IsNearest`).  There is one such magnitude for each number, and
what is read from a decimal is finite exactly if this magnitude is.

Main statements:

* `Binary64.IsNearest.unique`, `Binary64.isNearest_magnitudeNear`: rounding gives the one nearest
  magnitude.
* `Binary64.ofDecimal_eq_finite_iff`: the finite numbers that decimals are read as.
-/

namespace DomainValues

namespace Binary64

/-! ## Nearest magnitudes -/

/-- A magnitude is nearest to a number of units.  Every other one is farther away, or it is as far
away and the nearest one is even. -/
def IsNearest (m : Nat) (x : ℚ) : Prop :=
  ∀ k : Nat, k ≠ m → |(units m : ℚ) - x| < |(units k : ℚ) - x| ∨
    |(units m : ℚ) - x| = |(units k : ℚ) - x| ∧ m % 2 = 0

theorem cast_units_lt {m k : Nat} (h : m < k) : (units m : ℚ) < units k :=
  Nat.cast_lt.2 (units_strictMono h)

theorem cast_units_le {m k : Nat} (h : m ≤ k) : (units m : ℚ) ≤ units k :=
  Nat.cast_le.2 (units_strictMono.monotone h)

/-- Of two magnitudes that are as near, the one between them is nearer. -/
theorem IsNearest.unique {m k : Nat} {x : ℚ} (h : IsNearest m x) (h' : IsNearest k x) : m = k := by
  wlog lower : m < k generalizing m k
  · rcases Nat.eq_or_lt_of_not_lt lower with same | higher
    · exact same
    · exact (this h' h higher).symm
  exfalso
  rcases h k (by omega) with nearer | ⟨same, even⟩
  · rcases h' m (by omega) with nearer' | ⟨same', -⟩
    · linarith
    · linarith
  · rcases h' m (by omega) with nearer' | ⟨-, even'⟩
    · linarith
    · -- Both are even, so there is one between them.
      have less := cast_units_lt (show m < m + 1 by omega)
      have less' := cast_units_lt (show m + 1 < k by omega)
      have between : |(units (m + 1) : ℚ) - x| < |(units m : ℚ) - x| := by
        rcases abs_eq_abs.1 same with equal | opposite
        · linarith
        · rw [abs_of_neg (by linarith : (units m : ℚ) - x < 0), abs_lt]
          constructor <;> linarith
      rcases h (m + 1) (by omega) with nearer | ⟨equal, -⟩
      · linarith
      · linarith

/-- Between a magnitude and the next one, the nearer of the two is nearest. -/
theorem isNearest_of_between {m : Nat} {x : ℚ} (low : (units m : ℚ) ≤ x)
    (high : x < units (m + 1)) :
    (x - units m < units (m + 1) - x ∨ x - units m = units (m + 1) - x ∧ m % 2 = 0 →
      IsNearest m x) ∧
    (units (m + 1) - x < x - units m ∨ units (m + 1) - x = x - units m ∧ (m + 1) % 2 = 0 →
      IsNearest (m + 1) x) := by
  have below {k : Nat} (h : k ≤ m) : |(units k : ℚ) - x| = x - units k := by
    rw [abs_sub_comm, abs_of_nonneg]
    linarith [cast_units_le h]
  have above {k : Nat} (h : m + 1 ≤ k) : |(units k : ℚ) - x| = units k - x := by
    rw [abs_of_nonneg]
    linarith [cast_units_le h]
  constructor
  · intro nearer k other
    rw [below (Nat.le_refl m)]
    rcases Nat.lt_or_gt_of_ne other with lower | higher
    · rw [below (by omega)]
      exact .inl (by linarith [cast_units_lt lower])
    · rw [above higher]
      have next := cast_units_le (show m + 1 ≤ k from higher)
      rcases nearer with nearer | ⟨tie, even⟩
      · exact .inl (by linarith)
      · exact (lt_or_eq_of_le (show x - units m ≤ units k - x by linarith)).imp id (⟨·, even⟩)
  · intro nearer k other
    rw [above (Nat.le_refl _)]
    rcases Nat.lt_or_gt_of_ne other with lower | higher
    · rw [below (by omega)]
      have previous := cast_units_le (show k ≤ m by omega)
      rcases nearer with nearer | ⟨tie, even⟩
      · exact .inl (by linarith)
      · exact (lt_or_eq_of_le (show units (m + 1) - x ≤ x - units k by linarith)).imp id (⟨·, even⟩)
    · rw [above (by omega)]
      exact .inl (by linarith [cast_units_lt higher])

/-! ## Rounding -/

/-- The units of a magnitude that is given by an exponent and a whole significand. -/
theorem units_shifted {shift q : Nat} (low : shift = 0 ∨ fractionLimit ≤ q)
    (high : q ≤ 2 * fractionLimit) : units (shift * fractionLimit + q) = q * 2 ^ shift := by
  by_cases small : q < fractionLimit
  · obtain rfl : shift = 0 := by omega
    rw [Nat.zero_mul, Nat.zero_add, units_of_small small, Nat.pow_zero, Nat.mul_one]
  · by_cases full : q = 2 * fractionLimit
    · have next : shift * fractionLimit + q = (shift + 1 + 1) * fractionLimit + 0 := by
        rw [full]
        ring
      rw [next, units_of_large (by decide), full, Nat.pow_succ]
      ring
    · have fields : shift * fractionLimit + q =
          (shift + 1) * fractionLimit + (q - fractionLimit) := by
        rw [Nat.succ_mul]
        omega
      rw [fields, units_of_large (by omega), Nat.add_sub_cancel' (by omega)]

/-- The whole significand of a quotient has 53 bits, or fewer if nothing is shifted out. -/
theorem significand_bounds (a : Nat) :
    (a.log2 - 52 = 0 ∨ fractionLimit ≤ a / 2 ^ (a.log2 - 52)) ∧
      a / 2 ^ (a.log2 - 52) < 2 * fractionLimit := by
  have limit : fractionLimit = 2 ^ 52 := by decide
  have double : 2 * fractionLimit = 2 ^ 53 := by decide
  have bound : a < 2 ^ (a.log2 + 1) := Nat.lt_log2_self
  rw [double, Nat.div_lt_iff_lt_mul (Nat.two_pow_pos _), ← Nat.pow_add]
  refine ⟨?_, bound.trans_le (Nat.pow_le_pow_right (by decide) (by omega))⟩
  by_cases short : a.log2 ≤ 52
  · exact .inl (by omega)
  · have some : a ≠ 0 := by
      rintro rfl
      exact short (by decide)
    refine .inr ?_
    rw [limit, Nat.le_div_iff_mul_le (Nat.two_pow_pos _), ← Nat.pow_add]
    have exponent : 52 + (a.log2 - 52) = a.log2 := by omega
    rw [exponent]
    exact Nat.log2_self_le some

/-- Rounding a quotient of units gives the nearest magnitude. -/
theorem isNearest_magnitudeNear {n d : Nat} (positive : 0 < d) :
    IsNearest (magnitudeNear n d) ((n : ℚ) / d) := by
  obtain ⟨low, high⟩ := significand_bounds (n / d)
  unfold magnitudeNear roundQuotient
  dsimp only
  generalize (n / d).log2 - 52 = shift at low high
  rw [Nat.div_div_eq_div_mul] at low high
  rw [Nat.shiftLeft_eq]
  have divisor : 0 < d * 2 ^ shift := Nat.mul_pos positive (Nat.two_pow_pos shift)
  have split := Nat.div_add_mod n (d * 2 ^ shift)
  have rest := Nat.mod_lt n divisor
  generalize n / (d * 2 ^ shift) = q at *
  generalize n % (d * 2 ^ shift) = r at *
  have units₀ := units_shifted low high.le
  have units₁ := units_shifted (low.imp id Nat.le_succ_of_le) (Nat.succ_le_of_lt high)
  have even : (shift * fractionLimit + q) % 2 = q % 2 := by
    unfold fractionLimit
    omega
  -- The distances to both neighbours, in units.
  have hd : (0 : ℚ) < d := Nat.cast_pos.2 positive
  have value : (n : ℚ) / d = q * 2 ^ shift + r / d := by
    rw [← split]
    push_cast
    field_simp
  have down : (n : ℚ) / d - units (shift * fractionLimit + q) = (r : ℚ) / d := by
    rw [value, units₀]
    push_cast
    ring
  have up : (units (shift * fractionLimit + q + 1) : ℚ) - n / d =
      ((d * 2 ^ shift - r : Nat) : ℚ) / d := by
    rw [value, Nat.add_assoc, units₁, Nat.cast_sub rest.le]
    push_cast
    field_simp
    ring
  have between := isNearest_of_between (m := shift * fractionLimit + q) (x := (n : ℚ) / d)
    (by rw [← sub_nonneg, down]; positivity)
    (by rw [← sub_pos, up]; exact div_pos (Nat.cast_pos.2 (Nat.sub_pos_of_lt rest)) hd)
  rw [down, up, div_lt_div_iff_of_pos_right hd, div_lt_div_iff_of_pos_right hd,
    div_left_inj' hd.ne', div_left_inj' hd.ne', Nat.cast_lt, Nat.cast_lt, Nat.cast_inj,
    Nat.cast_inj] at between
  split
  case isTrue nearer => exact between.1 (.inl (by omega))
  rw [Nat.add_assoc] at between
  split
  case isTrue nearer => exact between.2 (.inl (by omega))
  case isFalse =>
    -- A half goes to the even one of the two.
    rcases Nat.mod_two_eq_zero_or_one q with parity | parity
    · rw [parity]
      exact between.1 (.inr ⟨by omega, by omega⟩)
    · rw [parity]
      exact between.2 (.inr ⟨by omega, by omega⟩)

/-! ## Decimals -/

end Binary64

/-- The number that a decimal stands for. -/
def Decimal.value (d : Decimal) : ℚ := d.digits * (10 : ℚ) ^ d.exponent

namespace Decimal

open Binary64

/-- A decimal as a quotient of units. -/
theorem value_eq (d : Decimal) :
    d.value * unitsInOne =
      ((d.digits * 10 ^ d.exponent.toNat * unitsInOne : Nat) : ℚ) /
        ((10 ^ (-d.exponent).toNat : Nat) : ℚ) := by
  unfold value
  push_cast
  rcases le_total 0 d.exponent with nonnegative | nonpositive
  · have none : (-d.exponent).toNat = 0 := by omega
    have power : (10 : ℚ) ^ d.exponent = 10 ^ d.exponent.toNat := by
      rw [← zpow_natCast, Int.toNat_of_nonneg nonnegative]
    rw [none, power, pow_zero, div_one]
  · have none : d.exponent.toNat = 0 := by omega
    have power : (10 : ℚ) ^ d.exponent = (10 ^ (-d.exponent).toNat)⁻¹ := by
      rw [← zpow_natCast, Int.toNat_of_nonneg (by omega), zpow_neg, inv_inv]
    rw [none, power, pow_zero]
    ring

/-- A decimal reads as the magnitude that is nearest to it. -/
theorem isNearest_magnitude (d : Decimal) : IsNearest d.magnitude (d.value * unitsInOne) := by
  rw [value_eq, magnitude_eq]
  exact isNearest_magnitudeNear (Nat.pow_pos (by decide))

end Decimal

namespace Binary64

/-- What is at least as great as a magnitude is not rounded below it. -/
theorem IsNearest.le_of_units_le {m k : Nat} {x : ℚ} (h : IsNearest m x)
    (large : (units k : ℚ) ≤ x) : k ≤ m := by
  by_contra below
  have less := cast_units_lt (Nat.lt_of_not_le below)
  have distance : |(units k : ℚ) - x| < |(units m : ℚ) - x| := by
    rw [abs_sub_comm, abs_sub_comm (units m : ℚ), abs_of_nonneg, abs_of_nonneg]
    all_goals linarith
  rcases h k (by omega) with nearer | ⟨same, -⟩
  · linarith
  · linarith

theorem units_magnitudeLimit : units magnitudeLimit = 2 ^ 1024 * unitsInOne := by
  have fields : magnitudeLimit = (2046 + 1) * fractionLimit + 0 := rfl
  have limit : fractionLimit = 2 ^ 52 := by decide
  have powers {a b c e : Nat} (same : a + b = c + e) : 2 ^ a * 2 ^ b = 2 ^ c * 1 <<< e := by
    rw [Nat.one_shiftLeft, ← Nat.pow_add, ← Nat.pow_add, same]
  rw [fields, units_of_large (by decide), Nat.add_zero, limit, unitsInOne]
  exact powers rfl

/-- A great exponent leaves the range of the format. -/
theorem magnitudeLimit_le_magnitude {d : Decimal} (some : d.digits ≠ 0) (great : 400 < d.exponent) :
    magnitudeLimit ≤ d.magnitude := by
  refine d.isNearest_magnitude.le_of_units_le ?_
  have none : (-d.exponent).toNat = 0 := by omega
  rw [Decimal.value_eq, none, Nat.pow_zero, Nat.cast_one, div_one, Nat.cast_le,
    units_magnitudeLimit]
  have powers {a b c : Nat} (h : a ≤ 3 * b) (h' : b ≤ c) : 2 ^ a ≤ 10 ^ c :=
    calc 2 ^ a
      _ ≤ 2 ^ (3 * b) := Nat.pow_le_pow_right (by decide) h
      _ = 8 ^ b := by rw [Nat.pow_mul]
      _ ≤ 10 ^ b := Nat.pow_le_pow_left (by decide) b
      _ ≤ 10 ^ c := Nat.pow_le_pow_right (by decide) h'
  have large : 2 ^ 1024 ≤ 10 ^ d.exponent.toNat := powers (b := 401) (by decide) (by omega)
  exact Nat.mul_le_mul_right _
    (large.trans (Nat.le_mul_of_pos_left _ (Nat.pos_of_ne_zero some)))

/-- A decimal is read as the number of its magnitude, whatever its exponent. -/
theorem ofDecimal_eq_ofMagnitude (negative : Bool) (d : Decimal) :
    ofDecimal negative d.digits d.exponent = ofMagnitude negative d.magnitude := by
  by_cases within : d.exponent ≤ 400
  · exact ofDecimal_eq negative d.digits within
  · unfold ofDecimal
    split
    case isTrue zero =>
      obtain ⟨digits, exponent⟩ := d
      obtain rfl : digits = 0 := zero
      rw [Decimal.magnitude_zero]
      rfl
    case isFalse some =>
      have great : 400 < d.exponent := by omega
      rw [if_pos great, ofMagnitude, dif_neg (magnitudeLimit_le_magnitude some great).not_gt]

/-- The finite numbers that a decimal is read as: the sign as it is written, and the magnitude that
is nearest to the value. -/
theorem ofDecimal_eq_finite_iff {negative sign : Bool} {d : Decimal} {m : Fin magnitudeLimit} :
    ofDecimal negative d.digits d.exponent = finite sign m ↔
      sign = negative ∧ IsNearest m (d.value * unitsInOne) := by
  have nearest : IsNearest m (d.value * unitsInOne) ↔ d.magnitude = m :=
    ⟨d.isNearest_magnitude.unique, fun same => same ▸ d.isNearest_magnitude⟩
  rw [ofDecimal_eq_ofMagnitude, nearest, ofMagnitude]
  split
  case isTrue within =>
    rw [finite.injEq, Fin.ext_iff, eq_comm (a := negative)]
  case isFalse outside =>
    refine ⟨nofun, ?_⟩
    rintro ⟨-, same⟩
    exact absurd m.isLt (same ▸ outside)

end Binary64
end DomainValues
