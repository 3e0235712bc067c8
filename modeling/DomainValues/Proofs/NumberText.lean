import DomainValues.Proofs.NumberGrammar
import DomainValues.Proofs.Shortest

/-!
# Numbers read back from their text

A whole number is written with its decimal digits.  A real is written with its shortest digits,
laid out without an exponent: digits, or digits on both sides of a point.  Such a text *spells* a
decimal (`Decimal.SpelledBy`), whose magnitude is the one that was written.  In general a numeral
has an exponent too (`Decimal.WrittenAs`).

All of these belong to the grammar of numbers, so they are read as what was written, and none of
their characters is a blank that a reader would trim.

Main statements:

* `signedNumeral_toString`: the text of a whole number is a numeral of it.
* `Decimal.WrittenAs.read?`: a decimal is read from the numeral that writes it.
* `Layout.exists_spelled`: the text of a magnitude spells a decimal of that magnitude.
* `Binary64.realLiteral_text`: the text of a finite real is a literal of it.
-/

namespace DomainValues

/-! ## Digits -/

theorem isDigit_of_mem_toDigits {n : Nat} {c : Char} (h : c ∈ Nat.toDigits 10 n) :
    isDigit c = true := by
  have digit := Nat.isDigit_of_mem_toDigits (by decide) (by decide) h
  rw [Char.isDigit, Bool.and_eq_true, decide_eq_true_iff, decide_eq_true_iff] at digit
  exact isDigit_iff.2 digit

/-- The value of the digits of a number is the number. -/
theorem digitsValue_toDigits (n : Nat) : digitsValue 0 (Nat.toDigits 10 n) = n :=
  Nat.ofDigitChars_ten_toDigits

theorem digitsValue_append (start : Nat) (a b : List Char) :
    digitsValue start (a ++ b) = digitsValue (digitsValue start a) b :=
  Nat.ofDigitChars_append start

theorem digitsValue_zeros (start k : Nat) :
    digitsValue start (List.replicate k '0') = 10 ^ k * start :=
  Nat.ofDigitChars_replicate_zero

theorem isWholeNumeral_toDigits (n : Nat) : IsWholeNumeral (Nat.toDigits 10 n) :=
  ⟨Nat.toDigits_ne_nil, fun _ => isDigit_of_mem_toDigits⟩

/-! ## Whole numbers -/

theorem toList_toString_ofNat (n : Nat) : (toString (Int.ofNat n)).toList = Nat.toDigits 10 n :=
  Nat.toList_repr

theorem toList_toString_negSucc (n : Nat) :
    (toString (Int.negSucc n)).toList = '-' :: Nat.toDigits 10 (n + 1) := by
  change ("-" ++ Nat.repr (n + 1)).toList = _
  rw [String.toList_append, Nat.toList_repr]
  rfl

theorem signedNumeral_toDigits (n : Nat) : SignedNumeral (Nat.toDigits 10 n) n := by
  have numeral := SignedNumeral.unsigned (isWholeNumeral_toDigits n)
  rwa [numeralValue, Nat.ofDigitChars_ten_toDigits] at numeral

theorem signedNumeral_minus_toDigits (n : Nat) : SignedNumeral ('-' :: Nat.toDigits 10 n) (-n) := by
  have numeral := SignedNumeral.minus (isWholeNumeral_toDigits n)
  rwa [numeralValue, Nat.ofDigitChars_ten_toDigits] at numeral

/-- The text of a whole number is a numeral of it. -/
theorem signedNumeral_toString (i : Int) : SignedNumeral (toString i).toList i := by
  cases i with
  | ofNat n =>
      rw [toList_toString_ofNat]
      exact signedNumeral_toDigits n
  | negSucc n =>
      rw [toList_toString_negSucc]
      exact signedNumeral_minus_toDigits (n + 1)

/-! ## Decimals -/

/-- What the exponent part of a numeral stands for. -/
inductive Decimal.ExponentPart : Int → List Char → Prop where
  /-- There is none. -/
  | absent : ExponentPart 0 []
  /-- Digits after the mark. -/
  | positive {digits : List Char} : digits ≠ [] → (∀ c ∈ digits, isDigit c = true) →
      ExponentPart (digitsValue 0 digits) ('e' :: digits)
  /-- A minus sign and digits after the mark. -/
  | negative {digits : List Char} : digits ≠ [] → (∀ c ∈ digits, isDigit c = true) →
      ExponentPart (-digitsValue 0 digits) ('e' :: '-' :: digits)

/-- A text writes a decimal: digits, maybe with a point after some of them, and then an exponent
or none. -/
inductive Decimal.WrittenAs : Decimal → List Char → Prop where
  /-- Without a point. -/
  | whole {digits tail : List Char} {exponent : Int} : digits ≠ [] →
      (∀ c ∈ digits, isDigit c = true) → ExponentPart exponent tail →
      WrittenAs ⟨digitsValue 0 digits, exponent⟩ (digits ++ tail)
  /-- With a point. -/
  | pointed {whole fraction tail : List Char} {exponent : Int} : whole ≠ [] →
      (∀ c ∈ whole ++ fraction, isDigit c = true) → ExponentPart exponent tail →
      WrittenAs ⟨digitsValue 0 (whole ++ fraction), exponent - fraction.length⟩
        (whole ++ '.' :: (fraction ++ tail))

namespace Decimal

variable {d : Decimal} {text : List Char} {exponent : Int}

theorem ExponentPart.literal (h : ExponentPart exponent text) : ExponentLiteral text exponent := by
  cases h with
  | absent => exact .absent
  | positive some all => exact .marked (.inl rfl) (.unsigned ⟨some, all⟩)
  | negative some all => exact .marked (.inl rfl) (.minus ⟨some, all⟩)

namespace WrittenAs

theorem exists_head (h : d.WrittenAs text) : ∃ c rest, text = c :: rest ∧ isDigit c = true := by
  cases h with
  | whole some digits =>
      obtain ⟨c, rest, rfl⟩ := List.exists_cons_of_ne_nil some
      exact ⟨c, _, rfl, digits c List.mem_cons_self⟩
  | pointed some digits =>
      obtain ⟨c, rest, rfl⟩ := List.exists_cons_of_ne_nil some
      exact ⟨c, _, rfl, digits c List.mem_cons_self⟩

theorem literal (h : d.WrittenAs text) : DecimalLiteral text d := by
  cases h with
  | whole some digits power => exact .whole ⟨some, digits⟩ power.literal
  | pointed some digits power =>
      exact .pointed ⟨List.append_ne_nil_of_left_ne_nil some _, digits⟩ power.literal

/-- The decimal that a text writes is read from it. -/
theorem read? (h : d.WrittenAs text) :
    Binary64.read? text = some (.ofDecimal false d.digits d.exponent) :=
  Binary64.read?_eq_some_iff.2 (.unsigned (.decimal h.literal))

end WrittenAs
end Decimal

/-- A text spells a decimal without an exponent: digits, or digits on both sides of a point. -/
inductive Decimal.SpelledBy : Decimal → List Char → Prop where
  /-- Without a point. -/
  | whole {digits : List Char} : digits ≠ [] → (∀ c ∈ digits, isDigit c = true) →
      SpelledBy ⟨digitsValue 0 digits, 0⟩ digits
  /-- With a point. -/
  | pointed {whole fraction : List Char} : whole ≠ [] →
      (∀ c ∈ whole ++ fraction, isDigit c = true) →
      SpelledBy ⟨digitsValue 0 (whole ++ fraction), -fraction.length⟩ (whole ++ '.' :: fraction)

namespace Decimal.SpelledBy

variable {d : Decimal} {text : List Char}

theorem exponent_le (h : d.SpelledBy text) : d.exponent ≤ 0 := by
  cases h with
  | whole => exact Int.le_refl 0
  | pointed => exact Int.neg_nonpos_of_nonneg (Int.natCast_nonneg _)

/-- What is spelled is written without an exponent part. -/
theorem writtenAs (h : d.SpelledBy text) : d.WrittenAs text := by
  cases h with
  | @whole digits some all =>
      have written := WrittenAs.whole some all .absent
      rwa [List.append_nil] at written
  | @pointed whole fraction some all =>
      have written := WrittenAs.pointed some all .absent
      rwa [List.append_nil, Int.zero_sub] at written

end Decimal.SpelledBy

/-! ## The text of a real -/

namespace Layout

theorem positional_plain {digits : List Char} {exponent : Int} :
    (plain.positional digits exponent).toList =
      if 0 ≤ exponent then digits ++ List.replicate exponent.toNat '0'
      else if 0 < digits.length + exponent then
        digits.take (digits.length + exponent).toNat ++
          '.' :: digits.drop (digits.length + exponent).toNat
      else '0' :: '.' :: (List.replicate (-(digits.length + exponent)).toNat '0' ++ digits) := by
  unfold positional
  dsimp only
  split
  case isTrue => simp [plain]
  split <;> simp

/-- The digits of a decimal with the point where it belongs spell a decimal of its magnitude. -/
theorem exists_spelled_positional (written : Decimal) :
    ∃ d : Decimal,
      d.SpelledBy (plain.positional (Nat.toDigits 10 written.digits) written.exponent).toList ∧
        d.magnitude = written.magnitude := by
  obtain ⟨n, exponent⟩ := written
  dsimp only
  have digits : ∀ c ∈ Nat.toDigits 10 n, isDigit c = true := fun _ => isDigit_of_mem_toDigits
  have zeros (k : Nat) : ∀ c ∈ List.replicate k '0', isDigit c = true := by
    intro c found
    rw [List.eq_of_mem_replicate found]
    decide
  rw [positional_plain]
  split
  case isTrue nonnegative =>
    refine ⟨_, .whole ?_ ?_, ?_⟩
    · exact List.append_ne_nil_of_left_ne_nil Nat.toDigits_ne_nil _
    · intro c found
      exact (List.mem_append.1 found).elim (digits c) (zeros _ c)
    · have below : (-exponent).toNat = 0 := by omega
      rw [digitsValue_append, digitsValue_toDigits, digitsValue_zeros, Decimal.magnitude_eq,
        Decimal.magnitude_eq, below, Nat.mul_comm n]
      simp
  case isFalse negative =>
    split
    case isTrue inside =>
      refine ⟨_, .pointed ?_ ?_, ?_⟩
      · intro none
        rcases List.take_eq_nil_iff.1 none with start | empty
        · omega
        · exact Nat.toDigits_ne_nil empty
      · rw [List.take_append_drop]
        exact digits
      · rw [List.take_append_drop, digitsValue_toDigits, List.length_drop]
        congr 2
        omega
    case isFalse outside =>
      refine ⟨_, .pointed (List.cons_ne_nil '0' []) ?_, ?_⟩
      · intro c found
        rcases List.mem_cons.1 found with rfl | found
        · decide
        · exact (List.mem_append.1 (List.nil_append _ ▸ found)).elim (zeros _ c) (digits c)
      · have value : digitsValue 0 (['0'] ++
            (List.replicate (-((Nat.toDigits 10 n).length + exponent)).toNat '0' ++
              Nat.toDigits 10 n)) = n := by
          rw [digitsValue_append, digitsValue_append, digitsValue_zeros]
          exact digitsValue_toDigits n
        rw [value, List.length_append, List.length_replicate]
        congr 2
        push_cast
        omega

/-- The text of a magnitude spells a decimal of that magnitude. -/
theorem exists_spelled (m : Nat) :
    ∃ d : Decimal, d.SpelledBy (plain.ofMagnitude m).toList ∧ d.magnitude = m := by
  unfold ofMagnitude
  split
  case isTrue none =>
    have digit : ∀ c ∈ ['0'], isDigit c = true := by
      intro c found
      rw [List.mem_singleton.1 found]
      rfl
    refine ⟨⟨digitsValue 0 ['0'], 0⟩, .whole (List.cons_ne_nil _ _) digit, ?_⟩
    have value : digitsValue 0 ['0'] = 0 := rfl
    rw [none, value, Decimal.magnitude_zero]
  case isFalse =>
    have positional (lead : Int) : plain.isPositional lead = true := rfl
    have written : ((Decimal.shortest m).trim 800).magnitude = m :=
      (Decimal.magnitude_trim 800 _).trans (Decimal.magnitude_shortest m)
    generalize (Decimal.shortest m).trim 800 = digits at written
    dsimp only
    rw [positional, if_pos rfl, ← written]
    exact exists_spelled_positional digits

end Layout

namespace Binary64

/-- The text of a magnitude spells a decimal that is read as the magnitude. -/
theorem exists_spelled_ofDecimal (m : Fin magnitudeLimit) :
    ∃ d : Decimal, d.SpelledBy (Layout.plain.ofMagnitude m).toList ∧
      ∀ negative, ofDecimal negative d.digits d.exponent = finite negative m := by
  obtain ⟨d, spelled, magnitude⟩ := Layout.exists_spelled m
  have exponent := spelled.exponent_le
  refine ⟨d, spelled, fun negative => ?_⟩
  rw [ofDecimal_eq negative d.digits (by omega), magnitude, ofMagnitude, dif_pos m.isLt]

/-- The text of a finite real is a literal of it. -/
theorem realLiteral_text {x : Binary64} (h : x.isFinite = true) :
    RealLiteral (Layout.plain.text x).toList x := by
  cases x with
  | nan => cases h
  | infinite negative => cases h
  | finite negative m =>
      obtain ⟨d, spelled, value⟩ := exists_spelled_ofDecimal m
      have literal : UnsignedLiteral negative (Layout.plain.ofMagnitude m).toList
          (finite negative m) := value negative ▸ .decimal spelled.writtenAs.literal
      rw [Layout.text, String.toList_append]
      cases negative with
      | true => exact .minus literal
      | false => exact .unsigned literal

end Binary64
end DomainValues
