import DomainValues.Number.Binary64

/-!
# Shortest decimal digits

The fewest significant digits that read back as a given number.  A magnitude is tried on
decimal grids of 1, 2, … 17 digits.  On each grid only its two neighbours can read back,
so these are tested with the exact rounding of `Binary64`.  The first grid with a hit
wins; of two hits the nearer is taken, and the upper one at equal distance.  Where no
grid gives a hit the exact expansion is used, which always reads back.
-/

namespace DomainValues

/-- A positive decimal number `digits * 10 ^ exponent`. -/
structure Decimal where
  /-- The significant digits, as a whole number. -/
  digits : Nat
  /-- The power of ten they count. -/
  exponent : Int
  deriving DecidableEq, Repr

namespace Decimal

/-- The power of ten that magnitudes are scaled by.  Every magnitude but zero is at least
ten to its negative. -/
def scale : Nat := 330

/-- A magnitude times `10 ^ scale`, rounded down. -/
def scaled (magnitude : Nat) : Nat :=
  Binary64.units magnitude * Nat.pow 10 scale / Binary64.unitsInOne

/-- The number of decimal digits of a whole number, at least one. -/
def length (n : Nat) : Nat := (Nat.toDigits 10 n).length

/-- The magnitude that a decimal reads as. -/
def magnitude (d : Decimal) : Nat :=
  if 0 ≤ d.exponent then
    Binary64.magnitudeNear (d.digits * Nat.pow 10 d.exponent.toNat * Binary64.unitsInOne) 1
  else
    Binary64.magnitudeNear (d.digits * Binary64.unitsInOne) (Nat.pow 10 (-d.exponent).toNat)

/-- The neighbours of a magnitude among the decimals of `n` digits, the nearer first. -/
def neighbours (m n : Nat) : List Decimal :=
  let w := scaled m
  let drop := length w - n
  let exponent : Int := (drop : Int) - scale
  let below := w / Nat.pow 10 drop
  let half := (2 * below + 1) * Nat.pow 10 drop * Binary64.unitsInOne
  let lower : Decimal := ⟨below, exponent⟩
  let upper : Decimal := ⟨below + 1, exponent⟩
  if 2 * Binary64.units m * Nat.pow 10 scale < half then [lower, upper] else [upper, lower]

/-- A decimal of `n` digits that reads back as the magnitude. -/
def attempt (m n : Nat) : Option Decimal :=
  (neighbours m n).find? fun d => d.magnitude == m

/-- The exact expansion of a magnitude. -/
def exact (m : Nat) : Decimal := ⟨Binary64.units m * Nat.pow 5 1074, -1074⟩

/-- The shortest decimal that reads back as the magnitude. -/
def shortest (m : Nat) : Decimal :=
  ((List.range 17).findSome? fun n => attempt m (n + 1)).getD (exact m)

/-- The digits without trailing zeros, at most `fuel` of which are dropped. -/
def trim : Nat → Decimal → Decimal
  | 0, d => d
  | fuel + 1, d =>
      if d.digits ≠ 0 ∧ d.digits % 10 = 0 then trim fuel ⟨d.digits / 10, d.exponent + 1⟩ else d

example : trim 20 (shortest 1) = ⟨5, -324⟩ := by decide +kernel

end Decimal
end DomainValues
