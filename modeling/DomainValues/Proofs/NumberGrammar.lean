import DomainValues.Number.Text
import DomainValues.Text.Quoted
import Mathlib.Data.List.TakeWhile

/-!
# The grammar of numbers

What a text must look like to be read as a number.  A whole number is written with decimal digits,
perhaps after a sign (`SignedNumeral`).  A real is written with a sign or none, and then as a
decimal, with a point or an exponent or neither, or as a word (`RealLiteral`).  Blanks may stand
around both, but not in them.

Main statements:

* `Text.trim_eq_iff`: trimming takes away exactly the blanks around a text.
* `readInt?_eq_some_iff`: a whole number is read from exactly its numerals.
* `Binary64.read?_eq_some_iff`: a real is read from exactly its literals.
-/

namespace DomainValues

/-! ## Blanks around a text -/

namespace Text

/-- A text is another one with characters of some sort before and after it. -/
def Padded (sort : Char → Prop) (inner text : List Char) : Prop :=
  ∃ before after, text = before ++ inner ++ after ∧ (∀ c ∈ before, sort c) ∧ ∀ c ∈ after, sort c

/-- A character is a blank. -/
def Blank (c : Char) : Prop := isBlank c = true

instance (c : Char) : Decidable (Blank c) := inferInstanceAs (Decidable (isBlank c = true))

variable {inner text : List Char}

theorem padded_self {sort : Char → Prop} (text : List Char) : Padded sort text text :=
  ⟨[], [], (List.append_nil text).symm, nofun, nofun⟩

theorem Padded.imp {sort other : Char → Prop} (h : Padded sort inner text)
    (implies : ∀ c, sort c → other c) : Padded other inner text := by
  obtain ⟨before, after, same, front, back⟩ := h
  exact ⟨before, after, same, fun c found => implies c (front c found),
    fun c found => implies c (back c found)⟩

theorem blank_of_mem_takeWhile : ∀ c ∈ text.takeWhile isBlank, Blank c :=
  fun _ => List.mem_takeWhile_imp

theorem padded_trim (text : List Char) : Padded Blank (trim text) text := by
  have front := List.takeWhile_append_dropWhile (p := isBlank) (l := text)
  have back := List.takeWhile_append_dropWhile (p := isBlank)
    (l := (text.dropWhile isBlank).reverse)
  refine ⟨text.takeWhile isBlank, ((text.dropWhile isBlank).reverse.takeWhile isBlank).reverse,
    ?_, blank_of_mem_takeWhile, fun c found => blank_of_mem_takeWhile c (List.mem_reverse.1 found)⟩
  rw [trim, List.append_assoc, ← List.reverse_append, back, List.reverse_reverse, front]

theorem dropWhile_blank {blanks : List Char} (all : ∀ c ∈ blanks, Blank c) (rest : List Char) :
    (blanks ++ rest).dropWhile isBlank = rest.dropWhile isBlank :=
  List.dropWhile_append_of_pos all

theorem dropWhile_of_no_blank (none : ∀ c ∈ inner, ¬Blank c) : inner.dropWhile isBlank = inner := by
  cases inner with
  | nil => rfl
  | cons c rest => exact List.dropWhile_cons_of_neg (none c List.mem_cons_self)

/-- Trimming takes away exactly the blanks around a text. -/
theorem trim_eq_iff (none : ∀ c ∈ inner, ¬Blank c) :
    trim text = inner ↔ Padded Blank inner text := by
  constructor
  · rintro rfl
    exact padded_trim text
  · rintro ⟨before, after, rfl, front, back⟩
    rw [trim, List.append_assoc, dropWhile_blank front]
    cases inner with
    | nil =>
        -- The text is blank, so the first of the two passes leaves nothing.
        have gone := dropWhile_blank back []
        rw [List.append_nil] at gone
        rw [List.nil_append, gone]
        rfl
    | cons c rest =>
        -- What is left does not start with a blank, nor does it when it is reversed.
        have blanks : ∀ d ∈ after.reverse, Blank d :=
          fun d found => back d (List.mem_reverse.1 found)
        have clean : ∀ d ∈ (c :: rest).reverse, ¬Blank d :=
          fun d found => none d (List.mem_reverse.1 found)
        rw [List.cons_append, List.dropWhile_cons_of_neg (none c List.mem_cons_self),
          ← List.cons_append, List.reverse_append, dropWhile_blank blanks,
          dropWhile_of_no_blank clean, List.reverse_reverse]

/-- A text has something without blanks between its blanks exactly if this is what trimming leaves
of it. -/
theorem exists_padded_iff {P : List Char → Prop}
    (none : ∀ {inner}, P inner → ∀ c ∈ inner, ¬Blank c) :
    (∃ inner, Padded Blank inner text ∧ P inner) ↔ P (trim text) := by
  constructor
  · rintro ⟨inner, padded, holds⟩
    rwa [(trim_eq_iff (none holds)).2 padded]
  · exact fun holds => ⟨trim text, padded_trim text, holds⟩

/-- The blanks are the white space of Unicode. -/
theorem blank_iff {c : Char} : Blank c ↔
    (9 ≤ c.toNat ∧ c.toNat ≤ 13) ∨ (0x2000 ≤ c.toNat ∧ c.toNat ≤ 0x200A) ∨
      c.toNat ∈ [0x20, 0x85, 0xA0, 0x1680, 0x2028, 0x2029, 0x202F, 0x205F, 0x3000] := by
  have set : Unicode.whiteSpace = ⟨[⟨9, 13⟩, ⟨32, 32⟩, ⟨0x85, 0x85⟩, ⟨0xA0, 0xA0⟩,
      ⟨0x1680, 0x1680⟩, ⟨0x2000, 0x200A⟩, ⟨0x2028, 0x2029⟩, ⟨0x202F, 0x202F⟩, ⟨0x205F, 0x205F⟩,
      ⟨0x3000, 0x3000⟩]⟩ := by
    decide +kernel
  have space : c = ' ' ↔ c.toNat = 32 := Char.ext_iff.trans (UInt32.toNat_inj.symm)
  unfold Blank isBlank
  rw [set]
  split
  case isTrue ascii =>
    simp [space]
    omega
  case isFalse wide =>
    simp [CharSet.contains]
    omega

end Text

/-! ## Whole numbers -/

theorem isDigit_iff {c : Char} : isDigit c = true ↔ 48 ≤ c.toNat ∧ c.toNat ≤ 57 := by
  rw [isDigit, Bool.and_eq_true, decide_eq_true_iff, decide_eq_true_iff]
  exact Iff.rfl

/-- The numeral of a whole number without a sign: decimal digits. -/
def IsWholeNumeral (text : List Char) : Prop := text ≠ [] ∧ ∀ c ∈ text, isDigit c = true

/-- The number that decimal digits denote. -/
def numeralValue (digits : List Char) : Nat := Nat.ofDigitChars 10 digits 0

/-- A text denotes a whole number: digits, perhaps after a sign. -/
inductive SignedNumeral : List Char → Int → Prop where
  /-- Without a sign. -/
  | unsigned {digits : List Char} : IsWholeNumeral digits →
      SignedNumeral digits (numeralValue digits)
  /-- After a plus sign. -/
  | plus {digits : List Char} : IsWholeNumeral digits →
      SignedNumeral ('+' :: digits) (numeralValue digits)
  /-- After a minus sign. -/
  | minus {digits : List Char} : IsWholeNumeral digits →
      SignedNumeral ('-' :: digits) (-numeralValue digits)

variable {text : List Char} {i : Int}

theorem readDigits?_eq_some_iff {n : Nat} :
    readDigits? text = some n ↔ IsWholeNumeral text ∧ numeralValue text = n := by
  have digits : text ≠ [] ∧ text.all isDigit = true ↔ IsWholeNumeral text :=
    and_congr_right fun _ => List.all_eq_true
  unfold readDigits?
  split
  case isTrue numeral => exact Option.some_inj.trans (and_iff_right (digits.1 numeral)).symm
  case isFalse other => exact ⟨nofun, fun ⟨numeral, _⟩ => absurd (digits.2 numeral) other⟩

/-- A numeral without a sign does not start with one. -/
theorem IsWholeNumeral.head_ne {c : Char} {rest : List Char} (h : IsWholeNumeral (c :: rest)) :
    c ≠ '+' ∧ c ≠ '-' := by
  have digit := h.2 c List.mem_cons_self
  constructor
  · rintro rfl
    exact absurd digit (by decide)
  · rintro rfl
    exact absurd digit (by decide)

theorem IsWholeNumeral.no_blank (h : IsWholeNumeral text) : ∀ c ∈ text, ¬Text.Blank c := by
  intro c found blank
  have digit := isDigit_iff.1 (h.2 c found)
  have row := Text.blank_iff.1 blank
  simp only [List.mem_cons, List.not_mem_nil, or_false] at row
  omega

namespace SignedNumeral

theorem plus_iff :
    SignedNumeral ('+' :: text) i ↔ (readDigits? text).map Int.ofNat = some i := by
  simp only [Option.map_eq_some_iff, readDigits?_eq_some_iff]
  constructor
  · intro h
    cases h with
    | unsigned numeral => exact absurd rfl numeral.head_ne.1
    | plus numeral => exact ⟨_, ⟨numeral, rfl⟩, rfl⟩
  · rintro ⟨_, ⟨numeral, rfl⟩, rfl⟩
    exact .plus numeral

theorem minus_iff :
    SignedNumeral ('-' :: text) i ↔ ((readDigits? text).map fun n => -(n : Int)) = some i := by
  simp only [Option.map_eq_some_iff, readDigits?_eq_some_iff, Option.bind_eq_bind,
    Option.bind_eq_some_iff]
  constructor
  · intro h
    cases h with
    | unsigned numeral => exact absurd rfl numeral.head_ne.2
    | minus numeral => exact ⟨_, ⟨_, ⟨numeral, rfl⟩, rfl⟩, rfl⟩
  · rintro ⟨_, ⟨_, ⟨numeral, rfl⟩, ⟨⟩⟩, rfl⟩
    exact .minus numeral

theorem unsigned_iff (noPlus : ∀ rest, text ≠ '+' :: rest)
    (noMinus : ∀ rest, text ≠ '-' :: rest) :
    SignedNumeral text i ↔ (readDigits? text).map Int.ofNat = some i := by
  simp only [Option.map_eq_some_iff, readDigits?_eq_some_iff]
  constructor
  · intro h
    cases h with
    | unsigned numeral => exact ⟨_, ⟨numeral, rfl⟩, rfl⟩
    | plus => exact absurd rfl (noPlus _)
    | minus => exact absurd rfl (noMinus _)
  · rintro ⟨_, ⟨numeral, rfl⟩, rfl⟩
    exact .unsigned numeral

theorem no_blank (h : SignedNumeral text i) : ∀ c ∈ text, ¬Text.Blank c := by
  cases h with
  | unsigned numeral => exact numeral.no_blank
  | plus numeral => exact List.forall_mem_cons.2 ⟨by decide, numeral.no_blank⟩
  | minus numeral => exact List.forall_mem_cons.2 ⟨by decide, numeral.no_blank⟩

end SignedNumeral

/-- A whole number is read from exactly its numerals. -/
theorem readInt?_eq_some_iff {least greatest : Int} :
    readInt? least greatest text = some i ↔ SignedNumeral text i ∧ least ≤ i ∧ i ≤ greatest := by
  unfold readInt?
  rw [Option.filter_eq_some_iff, Bool.and_eq_true, decide_eq_true_iff, decide_eq_true_iff]
  refine and_congr_left fun _ => ?_
  split
  case h_1 => exact SignedNumeral.plus_iff.symm
  case h_2 => exact SignedNumeral.minus_iff.symm
  case h_3 noPlus noMinus => exact (SignedNumeral.unsigned_iff noPlus noMinus).symm

/-- A numeral denotes one number. -/
theorem SignedNumeral.unique {j : Int} (h : SignedNumeral text i) (h' : SignedNumeral text j) :
    i = j := by
  have read := readInt?_eq_some_iff.2 ⟨h, Int.min_le_left i j, Int.le_max_left i j⟩
  have read' := readInt?_eq_some_iff.2 ⟨h', Int.min_le_right i j, Int.le_max_right i j⟩
  exact Option.some.inj (read.symm.trans read')

/-! ## Reals -/

/-- A text denotes a power of ten: nothing, or a mark and a whole number. -/
inductive ExponentLiteral : List Char → Int → Prop where
  /-- Nothing. -/
  | absent : ExponentLiteral [] 0
  /-- A mark and a whole number. -/
  | marked {mark : Char} {numeral : List Char} {exponent : Int} : mark = 'e' ∨ mark = 'E' →
      SignedNumeral numeral exponent → ExponentLiteral (mark :: numeral) exponent

/-- A text denotes a decimal: digits, perhaps with a point before, in or after them, and then a
power of ten. -/
inductive DecimalLiteral : List Char → Decimal → Prop where
  /-- Without a point. -/
  | whole {digits tail : List Char} {exponent : Int} : IsWholeNumeral digits →
      ExponentLiteral tail exponent →
      DecimalLiteral (digits ++ tail) ⟨numeralValue digits, exponent⟩
  /-- With a point. -/
  | pointed {whole fraction tail : List Char} {exponent : Int} :
      IsWholeNumeral (whole ++ fraction) → ExponentLiteral tail exponent →
      DecimalLiteral (whole ++ '.' :: (fraction ++ tail))
        ⟨numeralValue (whole ++ fraction), exponent - fraction.length⟩

/-- A text denotes a real, which has its sign from elsewhere: a decimal, whose number is the nearest
one, or a word in any case. -/
inductive UnsignedLiteral (negative : Bool) : List Char → Binary64 → Prop where
  /-- A decimal. -/
  | decimal {text : List Char} {d : Decimal} : DecimalLiteral text d →
      UnsignedLiteral negative text (.ofDecimal negative d.digits d.exponent)
  /-- One of the words for an infinity. -/
  | infinity {text : List Char} :
      text.map Char.toLower = "inf".toList ∨ text.map Char.toLower = "infinity".toList →
      UnsignedLiteral negative text (.infinite negative)
  /-- The word for no number. -/
  | nan {text : List Char} : text.map Char.toLower = "nan".toList →
      UnsignedLiteral negative text .nan

/-- A text denotes a real, perhaps after a sign. -/
inductive RealLiteral : List Char → Binary64 → Prop where
  /-- Without a sign. -/
  | unsigned {text : List Char} {x : Binary64} : UnsignedLiteral false text x → RealLiteral text x
  /-- After a plus sign. -/
  | plus {text : List Char} {x : Binary64} :
      UnsignedLiteral false text x → RealLiteral ('+' :: text) x
  /-- After a minus sign. -/
  | minus {text : List Char} {x : Binary64} :
      UnsignedLiteral true text x → RealLiteral ('-' :: text) x

namespace ExponentLiteral

/-- What follows the digits does not go on with them. -/
theorem head_not_digit (h : ExponentLiteral text i) : ∀ c ∈ text.head?, isDigit c = false := by
  cases h with
  | absent => nofun
  | marked mark =>
      rintro _ ⟨⟩
      rcases mark with rfl | rfl
      · decide
      · decide

theorem ne_point (h : ExponentLiteral text i) : ∀ rest, text ≠ '.' :: rest := by
  rintro rest rfl
  cases h with
  | marked mark => exact absurd mark (by decide)

theorem readExponent?_eq_some_iff :
    Binary64.readExponent? text = some i ↔ ExponentLiteral text i := by
  cases text with
  | nil =>
      constructor
      · rintro ⟨⟩
        exact .absent
      · rintro ⟨⟩
        rfl
  | cons c rest =>
      unfold Binary64.readExponent?
      dsimp only
      by_cases mark : c = 'e' ∨ c = 'E'
      · have marked : ExponentLiteral (c :: rest) i ↔ SignedNumeral rest i := by
          refine ⟨fun h => ?_, .marked mark⟩
          cases h with
          | marked _ numeral => exact numeral
        rw [if_pos mark, marked]
        split
        next => exact SignedNumeral.plus_iff.symm
        next => exact SignedNumeral.minus_iff.symm
        next noPlus noMinus => exact (SignedNumeral.unsigned_iff noPlus noMinus).symm
      · rw [if_neg mark]
        refine ⟨nofun, fun h => ?_⟩
        cases h with
        | marked found => exact absurd found mark

theorem no_blank (h : ExponentLiteral text i) : ∀ c ∈ text, ¬Text.Blank c := by
  cases h with
  | absent => nofun
  | marked mark numeral =>
      refine List.forall_mem_cons.2 ⟨?_, numeral.no_blank⟩
      rcases mark with rfl | rfl
      · decide
      · decide

end ExponentLiteral

/-! ### Decimals -/

/-- The digits at the start of a text, and what follows them. -/
structure DigitsThen (text digits tail : List Char) : Prop where
  /-- They are the text. -/
  text_eq : text = digits ++ tail
  /-- The first part has digits only. -/
  digits : ∀ c ∈ digits, isDigit c = true
  /-- The second part does not start with a digit. -/
  ends : ∀ c ∈ tail.head?, isDigit c = false

theorem exists_digitsThen (text : List Char) : ∃ digits tail, DigitsThen text digits tail := by
  refine ⟨_, _, List.takeWhile_append_dropWhile.symm, fun _ => List.mem_takeWhile_imp, ?_⟩
  intro c first
  have other := List.head?_dropWhile_not isDigit text
  rw [Option.mem_def.1 first] at other
  exact other

namespace DigitsThen

variable {digits tail fraction power : List Char} {negative : Bool}

theorem takeWhile (h : DigitsThen text digits tail) : text.takeWhile isDigit = digits := by
  rw [h.text_eq, List.takeWhile_append_of_pos h.digits]
  cases tail with
  | nil => exact List.append_nil digits
  | cons c rest =>
      rw [List.takeWhile_cons_of_neg (Bool.eq_false_iff.1 (h.ends c rfl)), List.append_nil]

theorem dropWhile (h : DigitsThen text digits tail) : text.dropWhile isDigit = tail := by
  rw [h.text_eq, List.dropWhile_append_of_pos h.digits]
  cases tail with
  | nil => rfl
  | cons c rest => exact List.dropWhile_cons_of_neg (Bool.eq_false_iff.1 (h.ends c rfl))

/-- What is read of a text without a point after its first digits. -/
theorem readDecimal?_whole (h : DigitsThen text digits tail)
    (noPoint : ∀ rest, tail ≠ '.' :: rest) :
    Binary64.readDecimal? negative text =
      if digits = [] then none
      else (Binary64.readExponent? tail).map (.ofDecimal negative (numeralValue digits)) := by
  unfold Binary64.readDecimal?
  rw [h.takeWhile, h.dropWhile]
  simp only [and_true, List.length_nil, Int.ofNat_zero, Int.sub_zero]
  rfl

/-- What is read of a text with a point after its first digits. -/
theorem readDecimal?_pointed (h : DigitsThen text digits ('.' :: tail))
    (after : DigitsThen tail fraction power) :
    Binary64.readDecimal? negative text =
      if digits ++ fraction = [] then none
      else (Binary64.readExponent? power).map fun e =>
        .ofDecimal negative (numeralValue (digits ++ fraction)) (e - fraction.length) := by
  unfold Binary64.readDecimal?
  rw [h.takeWhile, h.dropWhile]
  simp only [after.takeWhile, after.dropWhile, List.append_eq_nil_iff, numeralValue,
    Nat.ofDigitChars_append]
  rfl

end DigitsThen

namespace DecimalLiteral

variable {negative : Bool} {d : Decimal} {x : Binary64}

theorem readDecimal?_of (h : DecimalLiteral text d) :
    Binary64.readDecimal? negative text = some (.ofDecimal negative d.digits d.exponent) := by
  cases h with
  | whole numeral power =>
      have parts := DigitsThen.mk rfl numeral.2 power.head_not_digit
      rw [parts.readDecimal?_whole power.ne_point, if_neg numeral.1,
        ExponentLiteral.readExponent?_eq_some_iff.2 power]
      rfl
  | @pointed whole fraction tail exponent numeral power =>
      have front : ∀ c ∈ whole, isDigit c = true :=
        fun c found => numeral.2 c (List.mem_append_left _ found)
      have back : ∀ c ∈ fraction, isDigit c = true :=
        fun c found => numeral.2 c (List.mem_append_right _ found)
      have parts : DigitsThen (whole ++ '.' :: (fraction ++ tail)) whole
          ('.' :: (fraction ++ tail)) :=
        ⟨rfl, front, by rintro _ ⟨⟩; decide⟩
      rw [parts.readDecimal?_pointed ⟨rfl, back, power.head_not_digit⟩, if_neg numeral.1,
        ExponentLiteral.readExponent?_eq_some_iff.2 power]
      rfl

theorem of_readDecimal? (h : Binary64.readDecimal? negative text = some x) :
    ∃ d, DecimalLiteral text d ∧ .ofDecimal negative d.digits d.exponent = x := by
  obtain ⟨digits, tail, parts⟩ := exists_digitsThen text
  by_cases pointed : ∃ rest, tail = '.' :: rest
  · obtain ⟨rest, rfl⟩ := pointed
    obtain ⟨fraction, power, after⟩ := exists_digitsThen rest
    rw [parts.readDecimal?_pointed after] at h
    split at h
    case isTrue => cases h
    case isFalse some =>
      obtain ⟨exponent, read, rfl⟩ := Option.map_eq_some_iff.1 h
      obtain rfl := parts.text_eq
      obtain rfl := after.text_eq
      refine ⟨_, .pointed ⟨some, ?_⟩ (ExponentLiteral.readExponent?_eq_some_iff.1 read), rfl⟩
      exact List.forall_mem_append.2 ⟨parts.digits, after.digits⟩
  · rw [parts.readDecimal?_whole fun rest same => pointed ⟨rest, same⟩] at h
    split at h
    case isTrue => cases h
    case isFalse some =>
      obtain ⟨exponent, read, rfl⟩ := Option.map_eq_some_iff.1 h
      obtain rfl := parts.text_eq
      exact ⟨_, .whole ⟨some, parts.digits⟩ (ExponentLiteral.readExponent?_eq_some_iff.1 read), rfl⟩

theorem no_blank (h : DecimalLiteral text d) : ∀ c ∈ text, ¬Text.Blank c := by
  cases h with
  | whole numeral power => exact List.forall_mem_append.2 ⟨numeral.no_blank, power.no_blank⟩
  | pointed numeral power =>
      obtain ⟨front, back⟩ := List.forall_mem_append.1 numeral.no_blank
      exact List.forall_mem_append.2 ⟨front, List.forall_mem_cons.2
        ⟨by decide, List.forall_mem_append.2 ⟨back, power.no_blank⟩⟩⟩

theorem readDecimal?_eq_some_iff : Binary64.readDecimal? negative text = some x ↔
    ∃ d, DecimalLiteral text d ∧ .ofDecimal negative d.digits d.exponent = x :=
  ⟨of_readDecimal?, fun ⟨_, literal, same⟩ => same ▸ literal.readDecimal?_of⟩

/-- A decimal starts with a digit or a point. -/
theorem exists_head (h : DecimalLiteral text d) :
    ∃ c rest, text = c :: rest ∧ (isDigit c = true ∨ c = '.') := by
  cases h with
  | whole numeral power =>
      obtain ⟨c, rest, rfl⟩ := List.exists_cons_of_ne_nil numeral.1
      exact ⟨c, _, rfl, .inl (numeral.2 c List.mem_cons_self)⟩
  | @pointed whole fraction tail exponent numeral power =>
      cases whole with
      | nil => exact ⟨'.', _, rfl, .inr rfl⟩
      | cons c rest => exact ⟨c, _, rfl, .inl (numeral.2 c List.mem_cons_self)⟩

end DecimalLiteral

/-! ### Words and signs -/

theorem toLower_eq_self {c : Char} (h : c.toNat < 65 ∨ 90 < c.toNat) : c.toLower = c := by
  unfold Char.toLower
  split
  case isTrue upper =>
    have least : 65 ≤ c.toNat := upper.1
    have greatest : c.toNat ≤ 90 := upper.2
    omega
  case isFalse => rfl

/-- A text that is a word without blanks but for its case has no blanks. -/
theorem no_blank_of_word {word : List Char} (clean : ∀ c ∈ word, ¬Text.Blank c)
    (same : text.map Char.toLower = word) : ∀ c ∈ text, ¬Text.Blank c := by
  intro c found blank
  have lower : c.toLower = c := by
    apply toLower_eq_self
    have row := Text.blank_iff.1 blank
    simp only [List.mem_cons, List.not_mem_nil, or_false] at row
    omega
  refine clean c ?_ blank
  rw [← same, ← lower]
  exact List.mem_map_of_mem (lower ▸ found)

/-- A decimal does not start with a letter. -/
theorem DecimalLiteral.map_toLower_ne {d : Decimal} (h : DecimalLiteral text d) {first : Char}
    {rest : List Char} (letter : 90 < first.toNat) :
    text.map Char.toLower ≠ first :: rest := by
  obtain ⟨c, _, rfl, start⟩ := h.exists_head
  have small : c.toNat < 65 := by
    rcases start with digit | rfl
    · have := (isDigit_iff.1 digit).2
      omega
    · decide
  intro same
  rw [List.map_cons, toLower_eq_self (.inl small)] at same
  rw [(List.cons.inj same).1] at small
  omega

namespace UnsignedLiteral

variable {negative : Bool} {x : Binary64}

theorem readUnsigned?_eq_some_iff :
    Binary64.readUnsigned? negative text = some x ↔ UnsignedLiteral negative text x := by
  unfold Binary64.readUnsigned?
  dsimp only
  split
  case isTrue word =>
    refine ⟨?_, fun h => ?_⟩
    · rintro ⟨⟩
      exact .infinity word
    · cases h with
      | decimal literal =>
          rcases word with word | word
          · exact absurd word (literal.map_toLower_ne (by decide))
          · exact absurd word (literal.map_toLower_ne (by decide))
      | infinity => rfl
      | nan other =>
          rw [other] at word
          exact absurd word (by decide)
  case isFalse finite =>
    split
    case isTrue word =>
      refine ⟨?_, fun h => ?_⟩
      · rintro ⟨⟩
        exact .nan word
      · cases h with
        | decimal literal => exact absurd word (literal.map_toLower_ne (by decide))
        | infinity other => exact absurd other finite
        | nan => rfl
    case isFalse number =>
      rw [DecimalLiteral.readDecimal?_eq_some_iff]
      refine ⟨?_, fun h => ?_⟩
      · rintro ⟨d, literal, rfl⟩
        exact .decimal literal
      · cases h with
        | decimal literal => exact ⟨_, literal, rfl⟩
        | infinity word => exact absurd word finite
        | nan word => exact absurd word number

/-- What a literal without a sign may start with. -/
theorem first_char {c : Char} {rest : List Char} (h : UnsignedLiteral negative (c :: rest) x) :
    (isDigit c = true ∨ c = '.') ∨ c.toLower = 'i' ∨ c.toLower = 'n' := by
  cases h with
  | decimal literal =>
      obtain ⟨_, _, same, first⟩ := literal.exists_head
      obtain rfl := (List.cons.inj same).1
      exact .inl first
  | infinity word =>
      rcases word with word | word
      · exact .inr (.inl (List.cons.inj word).1)
      · exact .inr (.inl (List.cons.inj word).1)
  | nan word => exact .inr (.inr (List.cons.inj word).1)

theorem no_blank (h : UnsignedLiteral negative text x) : ∀ c ∈ text, ¬Text.Blank c := by
  cases h with
  | decimal literal => exact literal.no_blank
  | infinity word =>
      rcases word with word | word
      · exact no_blank_of_word (by simp [Text.Blank, Text.isBlank]) word
      · exact no_blank_of_word (by simp [Text.Blank, Text.isBlank]) word
  | nan word => exact no_blank_of_word (by simp [Text.Blank, Text.isBlank]) word

end UnsignedLiteral

namespace RealLiteral

variable {x : Binary64}

theorem no_blank (h : RealLiteral text x) : ∀ c ∈ text, ¬Text.Blank c := by
  cases h with
  | unsigned literal => exact literal.no_blank
  | plus literal => exact List.forall_mem_cons.2 ⟨by decide, literal.no_blank⟩
  | minus literal => exact List.forall_mem_cons.2 ⟨by decide, literal.no_blank⟩

theorem plus_iff : RealLiteral ('+' :: text) x ↔ UnsignedLiteral false text x := by
  refine ⟨fun h => ?_, .plus⟩
  cases h with
  | unsigned literal => exact absurd literal.first_char (by decide)
  | plus literal => exact literal

theorem minus_iff : RealLiteral ('-' :: text) x ↔ UnsignedLiteral true text x := by
  refine ⟨fun h => ?_, .minus⟩
  cases h with
  | unsigned literal => exact absurd literal.first_char (by decide)
  | minus literal => exact literal

end RealLiteral

/-- A text is a word for an infinity or for no number, in any case, perhaps after a sign. -/
def IsRealWord (text : List Char) : Prop :=
  ∃ sign word, text = sign ++ word ∧ sign ∈ [[], ['+'], ['-']] ∧
    word.map Char.toLower ∈ ["inf".toList, "infinity".toList, "nan".toList]

theorem IsRealWord.exists_literal (h : IsRealWord text) :
    ∃ x, RealLiteral text x ∧ x.isFinite = false := by
  obtain ⟨sign, word, rfl, isSign, isWord⟩ := h
  have unsigned (negative : Bool) : ∃ x, UnsignedLiteral negative word x ∧ x.isFinite = false := by
    simp only [List.mem_cons, List.not_mem_nil, or_false, ← or_assoc] at isWord
    rcases isWord with infinity | nan
    · exact ⟨_, .infinity infinity, rfl⟩
    · exact ⟨_, .nan nan, rfl⟩
  simp only [List.mem_cons, List.not_mem_nil, or_false] at isSign
  rcases isSign with rfl | rfl | rfl
  · obtain ⟨x, literal, infinite⟩ := unsigned false
    exact ⟨x, .unsigned literal, infinite⟩
  · obtain ⟨x, literal, infinite⟩ := unsigned false
    exact ⟨x, .plus literal, infinite⟩
  · obtain ⟨x, literal, infinite⟩ := unsigned true
    exact ⟨x, .minus literal, infinite⟩

/-- A real is read from exactly its literals. -/
theorem Binary64.read?_eq_some_iff {x : Binary64} : read? text = some x ↔ RealLiteral text x := by
  unfold read?
  split
  case h_1 => rw [UnsignedLiteral.readUnsigned?_eq_some_iff, RealLiteral.plus_iff]
  case h_2 => rw [UnsignedLiteral.readUnsigned?_eq_some_iff, RealLiteral.minus_iff]
  case h_3 noPlus noMinus =>
    rw [UnsignedLiteral.readUnsigned?_eq_some_iff]
    refine ⟨.unsigned, fun h => ?_⟩
    cases h with
    | unsigned literal => exact literal
    | plus => exact absurd rfl (noPlus _)
    | minus => exact absurd rfl (noMinus _)

end DomainValues
