import DomainValues.Proofs.Construction

/-!
# Reals compared by their words

The word of a number has the place of the number on the line of all numbers
(`Binary64.wordPlace_word`), so words are compared as numbers are (`Binary64.compareWords_word`).
Of the numbers with a value, only the two zeros stand apart on the line and share a value, and a
bounded real never wraps the negative one.

Main statements:

* `Binary64.total_eq_compare`: but for the negative zero, the place is that of the value.
* `Value.real_order_exact`: order, equality and hash of bounded reals are those of their numbers.
-/

namespace DomainValues

namespace Binary64

/-! ## Words -/

theorem ushiftRight_of_msb_false {w : BitVec 64} (h : w.msb = false) : w >>> 63 = 0#64 := by
  rw [BitVec.msb_eq_decide, decide_eq_false_iff_not] at h
  apply BitVec.eq_of_toNat_eq
  rw [BitVec.toNat_ushiftRight, Nat.shiftRight_eq_div_pow]
  exact Nat.div_eq_of_lt (by omega)

/-- The mask of a word has all bits but the sign, or none. -/
theorem sshiftRight_ushiftRight (negative : Bool) (rest : BitVec 63) :
    (BitVec.ofBool negative ++ rest).sshiftRight 63 >>> 1 =
      0#1 ++ if negative then BitVec.allOnes 63 else 0#63 := by
  have sign : (BitVec.ofBool negative ++ rest).msb = negative := by
    rw [BitVec.msb_append]
    simp
  cases negative with
  | false =>
      rw [BitVec.sshiftRight_eq_of_msb_false sign, ushiftRight_of_msb_false sign]
      rfl
  | true =>
      have opposite : (~~~(BitVec.ofBool true ++ rest)).msb = false := by
        rw [BitVec.msb_not, sign]
        rfl
      rw [BitVec.sshiftRight_eq_of_msb_true sign, ushiftRight_of_msb_false opposite]
      decide

theorem wordPlace_append (negative : Bool) (rest : BitVec 63) :
    wordPlace (BitVec.ofBool negative ++ rest) =
      if negative then -(rest.toNat : Int) - 1 else rest.toNat := by
  rw [wordPlace, sshiftRight_ushiftRight, BitVec.xor_append, BitVec.xor_zero]
  cases negative with
  | false =>
      rw [if_neg Bool.false_ne_true, BitVec.xor_zero, BitVec.toInt_append]
      simp
  | true =>
      have bound := rest.isLt
      rw [if_pos rfl, BitVec.xor_allOnes, BitVec.toInt_append, BitVec.toNat_not]
      simp
      omega

theorem magnitudeLimit_lt : magnitudeLimit < 2 ^ 63 := by decide

/-- The word of a number has the place of the number. -/
theorem wordPlace_word {x : Binary64} (h : x ≠ nan) : wordPlace x.word = x.totalPlace := by
  cases x with
  | nan => exact absurd rfl h
  | infinite negative =>
      rw [word, wordPlace_append, BitVec.toNat_ofNat, Nat.mod_eq_of_lt magnitudeLimit_lt]
      rfl
  | finite negative m =>
      have bound : m.val < 2 ^ 63 := m.isLt.trans magnitudeLimit_lt
      rw [word, wordPlace_append, BitVec.toNat_ofNat, Nat.mod_eq_of_lt bound]
      rfl

theorem totalPlace_lt_nan {x : Binary64} (h : x ≠ nan) : x.totalPlace < nan.totalPlace := by
  apply Int.lt_add_one_of_le
  cases x with
  | nan => exact absurd rfl h
  | infinite negative => cases negative <;> decide
  | finite negative m =>
      have bound := m.isLt
      cases negative with
      | false => exact Int.ofNat_le.2 bound.le
      | true =>
          simp only [totalPlace, if_true]
          omega

/-- Words are compared as the numbers are. -/
theorem compareWords_word (x y : Binary64) : compareWords x.word y.word = x.total y := by
  -- Only the word of a NaN has another place than the number, and both are above all others.
  have gap : nan.totalPlace ≤ wordPlace nan.word := by decide
  rw [compareWords, total]
  by_cases hx : x = nan
  · by_cases hy : y = nan
    · rw [hx, hy, Int.compare_eq_eq.2 rfl, Int.compare_eq_eq.2 rfl]
    · have above := totalPlace_lt_nan hy
      rw [hx, wordPlace_word hy, Int.compare_eq_gt.2 above, Int.compare_eq_gt.2 (by omega)]
  · by_cases hy : y = nan
    · have above := totalPlace_lt_nan hx
      rw [hy, wordPlace_word hx, Int.compare_eq_lt.2 above, Int.compare_eq_lt.2 (by omega)]
    · rw [wordPlace_word hx, wordPlace_word hy]

theorem totalPlace_injective : Function.Injective totalPlace := by
  intro x y same
  cases x with
  | nan =>
      cases y with
      | nan => rfl
      | infinite k => exact absurd same.symm (@totalPlace_lt_nan (infinite k) nofun).ne
      | finite k b => exact absurd same.symm (@totalPlace_lt_nan (finite k b) nofun).ne
  | infinite n =>
      cases y with
      | nan => exact absurd same (@totalPlace_lt_nan (infinite n) nofun).ne
      | infinite k => cases n <;> cases k <;> first | rfl | exact absurd same (by decide)
      | finite k b =>
          have bound := b.isLt
          cases n <;> cases k <;> simp [totalPlace] at same <;> omega
  | finite n a =>
      have bound := a.isLt
      cases y with
      | nan => exact absurd same (@totalPlace_lt_nan (finite n a) nofun).ne
      | infinite k => cases n <;> cases k <;> simp [totalPlace] at same <;> omega
      | finite k b =>
          have magnitude : n = k ∧ a.val = b.val := by
            cases n <;> cases k <;> simp [totalPlace] at same ⊢ <;> omega
          rw [magnitude.1, Fin.ext magnitude.2]

/-- Different numbers are stored in different words. -/
theorem word_injective : Function.Injective word := by
  intro x y same
  have level : x.total y = .eq := by
    rw [← compareWords_word, same]
    exact Int.compare_eq_eq.2 rfl
  exact totalPlace_injective (Int.compare_eq_eq.1 level)

/-! ## Values -/

/-- Elements are compared alike if they are ordered alike in both directions. -/
theorem compare_congr {α β : Type} [LinearOrder α] [LinearOrder β] {a b : α} {c d : β}
    (le : a ≤ b ↔ c ≤ d) (ge : b ≤ a ↔ d ≤ c) : compare a b = compare c d := by
  rcases lt_trichotomy a b with less | rfl | greater
  · rw [compare_lt_iff_lt.2 less, compare_lt_iff_lt.2 (lt_of_not_ge fun h => less.not_ge (ge.2 h))]
  · rw [compare_eq_iff_eq.2 rfl, compare_eq_iff_eq.2 (le_antisymm (le.1 le_rfl) (ge.1 le_rfl))]
  · rw [compare_gt_iff_gt.2 greater,
      compare_gt_iff_gt.2 (lt_of_not_ge fun h => greater.not_ge (le.2 h))]

theorem exists_place {x : Binary64} {v : ℚ} (hx : x.value? = some v) : ∃ a, x.place = some a := by
  cases x with
  | nan => cases hx
  | infinite negative => cases hx
  | finite negative m => exact ⟨_, rfl⟩

/-- A number with a value that is not the negative zero: the negative ones are moved by one. -/
theorem totalPlace_eq {x : Binary64} {v : ℚ} {a : Int} (hx : x.value? = some v)
    (place : x.place = some a) (notZero : x ≠ negativeZero) :
    x.totalPlace = if a < 0 then a - 1 else a := by
  cases x with
  | nan => cases hx
  | infinite negative => cases hx
  | finite negative m =>
      obtain rfl := Option.some.inj place
      cases negative with
      | false => simp [totalPlace]
      | true =>
          have positive : m.val ≠ 0 := fun none => notZero (congrArg (finite true) (Fin.ext none))
          simp only [totalPlace, if_true]
          rw [if_pos (by omega)]

section

variable {x y : Binary64} {v w : ℚ} (hx : x.value? = some v) (hy : y.value? = some w)
include hx hy

/-- Places are ordered as values are. -/
theorem place_le_iff {a b : Int} (ha : x.place = some a) (hb : y.place = some b) :
    a ≤ b ↔ v ≤ w := by
  rw [← le_iff hx hy, le, ha, hb, decide_eq_true_iff]

/-- Numbers are compared as their values. -/
theorem numeric_eq_compare : numeric x y = some (compare v w) := by
  obtain ⟨a, ha⟩ := exists_place hx
  obtain ⟨b, hb⟩ := exists_place hy
  rw [numeric, ha, hb]
  exact congrArg some (compare_congr (place_le_iff hx hy ha hb) (place_le_iff hy hx hb ha))

/-- But for the negative zero, the place of a number on the line is that of its value. -/
theorem total_eq_compare (notX : x ≠ negativeZero) (notY : y ≠ negativeZero) :
    x.total y = compare v w := by
  obtain ⟨a, ha⟩ := exists_place hx
  obtain ⟨b, hb⟩ := exists_place hy
  have upward := place_le_iff hx hy ha hb
  have downward := place_le_iff hy hx hb ha
  rw [total, totalPlace_eq hx ha notX, totalPlace_eq hy hb notY]
  apply compare_congr
  · rw [← upward]
    split <;> split <;> omega
  · rw [← downward]
    split <;> split <;> omega

/-- But for the negative zero, numbers with one value are one number. -/
theorem eq_of_value_eq (notX : x ≠ negativeZero) (notY : y ≠ negativeZero) (same : v = w) :
    x = y := by
  have level := total_eq_compare hx hy notX notY
  rw [compare_eq_iff_eq.2 same] at level
  exact totalPlace_injective (Int.compare_eq_eq.1 level)

end

end Binary64

/-! ## Bounded reals -/

namespace Value

open Binary64

variable {path name : String} {min max : Binary64}

/-- The word of a bounded real.  Equality and order compare it, and a hasher is fed with it. -/
def word (v : Value ⟨path, name, .boundedReal min max⟩) : BitVec 64 := Binary64.word v.primitive

/-- Two bounded reals stand to each other as two numbers. -/
structure StandAs (v w : Value ⟨path, name, .boundedReal min max⟩) (x y : ℚ) : Prop where
  /-- Their words are equal exactly if the numbers are. -/
  equal : v.word = w.word ↔ x = y
  /-- The values themselves are equal exactly if their words are. -/
  same : v = w ↔ v.word = w.word
  /-- Their words are compared as the numbers. -/
  compared : compareWords v.word w.word = compare x y
  /-- Their order is that of the words. -/
  ordered : v.order w = compareWords v.word w.word
  /-- The comparison of what they wrap agrees with it. -/
  wrapped : numeric v.primitive w.primitive = some (v.order w)

/-- A real that can be built wraps a number with a value, which is not the negative zero. -/
theorem Built.exists_value {v : Value ⟨path, name, .boundedReal min max⟩}
    (valid : Params.Valid (.boundedReal min max)) (built : v.Built) :
    ∃ x, Binary64.value? v.primitive = some x ∧ v.primitive ≠ negativeZero := by
  obtain ⟨p, made⟩ := built.exists_primitive
  obtain ⟨⟨_, x, _, _, has, _⟩, stores⟩ := (ofPrimitive_eq_ok_iff valid).1 made
  rw [stores]
  exact ⟨x, (value?_withoutNegativeZero p).trans has, withoutNegativeZero_ne p⟩

theorem standAs_of_value {v w : Value ⟨path, name, .boundedReal min max⟩} {x y : ℚ}
    (hx : Binary64.value? v.primitive = some x) (hy : Binary64.value? w.primitive = some y)
    (notV : v.primitive ≠ negativeZero) (notW : w.primitive ≠ negativeZero) :
    v.StandAs w x y := by
  have ordered : v.order w = compareWords v.word w.word := (compareWords_word _ _).symm
  have compared : v.order w = compare x y := total_eq_compare hx hy notV notW
  have same : v = w ↔ v.word = w.word := by
    constructor
    · rintro rfl
      rfl
    · intro words
      cases v
      cases w
      exact congrArg Value.mk (word_injective words)
  refine ⟨?_, same, ordered ▸ compared, ordered, ?_⟩
  · rw [← same]
    constructor
    · rintro rfl
      exact Option.some.inj (hx.symm.trans hy)
    · intro numbers
      cases v
      cases w
      exact congrArg Value.mk (eq_of_value_eq hx hy notV notW numbers)
  · rw [compared]
    exact numeric_eq_compare hx hy

/-- What makes a value of one number makes it of every number with the same value, and of no
other. -/
theorem ofPrimitive_eq_ok_iff_value {p q : Binary64}
    {v : Value ⟨path, name, .boundedReal min max⟩}
    (valid : Params.Valid (.boundedReal min max)) (made : ofPrimitive _ p = .ok v) :
    ofPrimitive _ q = .ok v ↔ q.value? = p.value? := by
  obtain ⟨⟨low, x, high, hmin, has, rest⟩, stores⟩ := (ofPrimitive_eq_ok_iff valid).1 made
  rw [ofPrimitive_eq_ok_iff valid, stores]
  constructor
  · rintro ⟨-, same⟩
    rw [← value?_withoutNegativeZero q, ← value?_withoutNegativeZero p]
    exact congrArg value? same.symm
  · intro same
    have hasToo : q.value? = some x := same.trans has
    refine ⟨⟨low, x, high, hmin, hasToo, rest⟩, ?_⟩
    exact eq_of_value_eq ((value?_withoutNegativeZero p).trans has)
      ((value?_withoutNegativeZero q).trans hasToo) (withoutNegativeZero_ne p)
      (withoutNegativeZero_ne q) rfl

/-- For validated bounds, all values of a real type are numbers, stand to each other as these, and
are made of exactly the primitives with the same value; so both zeros make the same value. -/
theorem real_order_exact (path name : String) {d : Directive}
    (validated : d.params = .ok (.boundedReal min max)) :
    (∀ v w : Value ⟨path, name, .boundedReal min max⟩, v.Built → w.Built →
      ∃ x y, Binary64.value? v.primitive = some x ∧ Binary64.value? w.primitive = some y ∧
        v.StandAs w x y) ∧
    (∀ (p q : Binary64) (v : Value ⟨path, name, .boundedReal min max⟩),
      ofPrimitive _ p = .ok v → (ofPrimitive _ q = .ok v ↔ q.value? = p.value?)) ∧
    ∀ v : Value ⟨path, name, .boundedReal min max⟩,
      ofPrimitive _ zero = .ok v ↔ ofPrimitive _ negativeZero = .ok v := by
  have valid : Params.Valid (.boundedReal min max) := Directive.valid_of_params validated
  have zeros : negativeZero.value? = zero.value? := (value?_withoutNegativeZero negativeZero).symm
  refine ⟨fun v w builtV builtW => ?_, fun p q v made => ofPrimitive_eq_ok_iff_value valid made,
    fun v => ⟨fun made => ?_, fun made => ?_⟩⟩
  · obtain ⟨x, hx, notV⟩ := builtV.exists_value valid
    obtain ⟨y, hy, notW⟩ := builtW.exists_value valid
    exact ⟨x, y, hx, hy, standAs_of_value hx hy notV notW⟩
  · exact (ofPrimitive_eq_ok_iff_value valid made).2 zeros
  · exact (ofPrimitive_eq_ok_iff_value valid made).2 zeros.symm

/-- Between minus one and one, the greatest negative number is below zero, which the negative zero
makes too. -/
theorem negative_below_zero :
    let one : Fin magnitudeLimit := ⟨1023 * fractionLimit, by decide⟩
    let t : ValueType := ⟨"Share", "Share", .boundedReal (finite true one) (finite false one)⟩
    let v : Value t := ⟨finite true ⟨1, by decide⟩⟩
    let w : Value t := ⟨zero⟩
    ofPrimitive t v.primitive = .ok v ∧ ofPrimitive t negativeZero = .ok w ∧
      v.word = 0x8000000000000001#64 ∧ w.word = 0#64 ∧
      ∃ x y, v.StandAs w x y ∧ compare x y = .lt := by
  intro one t v w
  have validated : Directive.params ⟨.boundedReal, .start,
      [⟨none, .integer true "1" "", .start⟩, ⟨none, .integer false "1" "", .start⟩]⟩ =
      .ok t.params := toOption_eq_some_iff.1 (by decide +kernel)
  have madeV : ofPrimitive t v.primitive = .ok v := rfl
  have madeW : ofPrimitive t zero = .ok w := rfl
  have exact := real_order_exact "Share" "Share" validated
  obtain ⟨x, y, -, -, stand⟩ := exact.1 v w (.primitive madeV) (.primitive madeW)
  refine ⟨madeV, (exact.2.2 w).1 madeW, by decide, by decide, x, y, stand, ?_⟩
  rw [← stand.compared]
  decide

end Value
end DomainValues
