/-!
# Binary64 numbers

A number of the 64-bit binary format, by class and fields.  A finite number is a sign
and a *magnitude*: the word made of its exponent field and its fraction field.  The
magnitude orders the finite numbers of one sign as their values, and the next magnitude
is the next number.

The value of a magnitude is a whole number of *units*, one unit being the least positive
number, `2 ^ -1074` (`Binary64.units`).  All arithmetic here is exact on such numbers,
followed by one rounding.  Rounding goes to the nearest magnitude and, at equal distance,
to the even one (`Binary64.magnitudeNear`).  A quotient whose nearest magnitude is not
finite becomes an infinity.

A number is stored in a word of 64 bits: a bit for the sign and 63 for the magnitude.  Words
are compared as signed whole numbers after one change: where the sign is set, all other bits
are flipped (`Binary64.wordPlace`), because a negative number falls as its magnitude grows.

Two orders are defined.  `Binary64.numeric` compares values, so the two zeros are equal
and a NaN compares with nothing.  `Binary64.total` puts every number on one line, the
negative zero just below the positive one.
-/

namespace DomainValues

/-- The first whole number that no fraction field has, `2 ^ 52`. -/
def Binary64.fractionLimit : Nat := 0x10000000000000

/-- The first magnitude that no finite number has. -/
def Binary64.magnitudeLimit : Nat := 2047 * Binary64.fractionLimit

/-- A number of the 64-bit binary format.  All NaNs are one. -/
inductive Binary64 where
  /-- Not a number. -/
  | nan
  /-- An infinity. -/
  | infinite (negative : Bool)
  /-- A sign and a magnitude. -/
  | finite (negative : Bool) (magnitude : Fin Binary64.magnitudeLimit)
  deriving DecidableEq, Repr

namespace Binary64

/-! ## Fields and values -/

/-- The whole significand of a magnitude: the fraction, with the implicit leading bit
where the exponent field is not zero. -/
def significand (magnitude : Nat) : Nat :=
  if magnitude < fractionLimit then magnitude else fractionLimit + magnitude % fractionLimit

/-- The value of a magnitude in units of `2 ^ -1074`. -/
def units (magnitude : Nat) : Nat :=
  significand magnitude <<< (magnitude / fractionLimit - 1)

/-- The number of units that make one. -/
def unitsInOne : Nat := 1 <<< 1074

/-- Whether the number is neither an infinity nor a NaN. -/
def isFinite : Binary64 → Bool
  | finite _ _ => true
  | _ => false

/-- Positive zero. -/
def zero : Binary64 := finite false ⟨0, by decide⟩

/-- The number with the other sign. -/
def negate : Binary64 → Binary64
  | nan => nan
  | infinite n => infinite (!n)
  | finite n m => finite (!n) m

/-- The number itself, with the negative zero folded into the positive one. -/
def withoutNegativeZero : Binary64 → Binary64
  | finite n m => if m.val = 0 then finite false m else finite n m
  | x => x

/-! ## Rounding -/

/-- The whole number nearest to `n / d`; a half goes to the even neighbour. -/
def roundQuotient (n d : Nat) : Nat :=
  let q := n / d
  let r := n % d
  if 2 * r < d then q else if d < 2 * r then q + 1 else q + q % 2

/-- The magnitude nearest to `n / d` units, which may be the limit or above it. -/
def magnitudeNear (n d : Nat) : Nat :=
  let shift := (n / d).log2 - 52
  shift * fractionLimit + roundQuotient n (d <<< shift)

/-- The finite number of a sign and a magnitude, or the infinity of that sign. -/
def ofMagnitude (negative : Bool) (magnitude : Nat) : Binary64 :=
  if h : magnitude < magnitudeLimit then finite negative ⟨magnitude, h⟩ else infinite negative

/-- The number nearest to `± n / d` units. -/
def ofUnits (negative : Bool) (n d : Nat) : Binary64 :=
  ofMagnitude negative (magnitudeNear n d)

/-- The number nearest to `± n / d`. -/
def ofRatio (negative : Bool) (n d : Nat) : Binary64 :=
  ofUnits negative (n * unitsInOne) d

/-- The number nearest to a whole number. -/
def ofInt (i : Int) : Binary64 :=
  ofRatio (i < 0) i.natAbs 1

/-- The number nearest to `± digits * 10 ^ exponent`.  Exponents far outside the range of
the format are answered without building the power. -/
def ofDecimal (negative : Bool) (digits : Nat) (exponent : Int) : Binary64 :=
  if digits = 0 then finite negative ⟨0, by decide⟩
  else if 400 < exponent then infinite negative
  else if exponent < -(400 + digits.log2 : Int) then finite negative ⟨0, by decide⟩
  else if 0 ≤ exponent then ofRatio negative (digits * Nat.pow 10 exponent.toNat) 1
  else ofRatio negative digits (Nat.pow 10 (-exponent).toNat)

/-- The product of two magnitudes, rounded. -/
def productMagnitude (a b : Nat) : Nat :=
  magnitudeNear (units a * units b) unitsInOne

/-- The quotient of two magnitudes, the second not zero, rounded. -/
def quotientMagnitude (a b : Nat) : Nat :=
  magnitudeNear (units a * unitsInOne) (units b)

/-- Whether the number is a zero of either sign. -/
def isZero : Binary64 → Bool
  | finite _ m => decide (m.val = 0)
  | _ => false

/-- The product of two finite numbers, rounded. -/
def mul : Binary64 → Binary64 → Binary64
  | finite n a, finite m b => ofMagnitude (n != m) (productMagnitude a.val b.val)
  | _, _ => nan

/-- The quotient of two finite numbers, the second not zero, rounded. -/
def div : Binary64 → Binary64 → Binary64
  | finite n a, finite m b => ofMagnitude (n != m) (quotientMagnitude a.val b.val)
  | _, _ => nan

/-! ## Orders -/

/-- The place of a number among the values: the signed magnitude, infinities at the
limit.  The two zeros share a place, and a NaN has none. -/
def place : Binary64 → Option Int
  | nan => none
  | infinite negative => some (if negative then -(magnitudeLimit : Int) else magnitudeLimit)
  | finite negative m => some (if negative then -(m.val : Int) else m.val)

/-- Comparison of values; a NaN compares with nothing. -/
def numeric (x y : Binary64) : Option Ordering :=
  match place x, place y with
  | some a, some b => some (compare a b)
  | _, _ => none

/-- Whether `x` is at most `y` as a value. -/
def le (x y : Binary64) : Bool :=
  match place x, place y with
  | some a, some b => decide (a ≤ b)
  | _, _ => false

/-- Whether `x` is below `y` as a value. -/
def lt (x y : Binary64) : Bool :=
  match place x, place y with
  | some a, some b => decide (a < b)
  | _, _ => false

/-- The place of a number on the line of all numbers.  A negative number is one place
below its signed magnitude, so that the negative zero comes before the positive one. -/
def totalPlace : Binary64 → Int
  | nan => magnitudeLimit + 1
  | infinite negative => if negative then -(magnitudeLimit : Int) - 1 else magnitudeLimit
  | finite negative m => if negative then -(m.val : Int) - 1 else m.val

/-- Comparison on the line of all numbers. -/
def total (x y : Binary64) : Ordering := compare x.totalPlace y.totalPlace

/-! ## Words -/

/-- The word that a number is stored in. -/
def word : Binary64 → BitVec 64
  | nan => 0x7FF8000000000000#64
  | infinite negative => BitVec.ofBool negative ++ BitVec.ofNat 63 magnitudeLimit
  | finite negative m => BitVec.ofBool negative ++ BitVec.ofNat 63 m.val

/-- The whole number that a word is compared by.  The sign is spread over all bits and then shifted
away from the highest one, which leaves a mask of the other bits if it is set. -/
def wordPlace (w : BitVec 64) : Int := (w ^^^ (w.sshiftRight 63 >>> 1)).toInt

/-- Comparison of words. -/
def compareWords (v w : BitVec 64) : Ordering := compare (wordPlace v) (wordPlace w)

/-! ## Checks -/

example : ofInt 1 = finite false ⟨1023 * fractionLimit, by decide⟩ := by decide +kernel
example : ofDecimal false 5 (-324) = finite false ⟨1, by decide⟩ := by decide +kernel
example : ofDecimal false 17 307 ≠ infinite false := by decide +kernel
example : ofDecimal false 18 307 = infinite false := by decide +kernel
example : numeric zero (negate zero) = some .eq := by decide
example : total (negate zero) zero = .lt := by decide
example : word (ofInt 1) = 0x3FF0000000000000#64 := by decide +kernel
example : word (negate zero) = 0x8000000000000000#64 := by decide
example : compareWords (word (negate zero)) (word zero) = .lt := by decide

end Binary64
end DomainValues
