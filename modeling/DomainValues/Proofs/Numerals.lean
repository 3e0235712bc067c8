import DomainValues.Directive
import DomainValues.Proofs.NumberText

/-!
# Numerals of literals

A number literal denotes a numeral: the digits of a whole number in base ten, or a text that writes
a decimal.  No such numeral has a sign, unless the literal was read together with a minus sign
before it.

Main statements:

* `Source.whole?_value`: what is read as a whole number is what its digits write in their base.
* `Source.literalValue_eq_iff`: a literal denotes a number if it is read as one.
* `Source.isWholeNumeral_of_literalValue`, `Source.exists_writtenAs_of_literalValue`: the numerals
  that literals denote.
* `Source.numberValue?_true_eq_some_iff`: what a literal denotes together with a minus sign.
-/

namespace DomainValues

/-- The number of an argument has no sign in its numeral. -/
def ArgumentValue.Unsigned : ArgumentValue → Prop
  | .integer _ numeral _ => IsWholeNumeral numeral.toList
  | .real _ numeral _ => ∃ d : Decimal, d.WrittenAs numeral.toList
  | .text _ => True

/-- A numeral without a sign does not start with one. -/
theorem IsWholeNumeral.ne_minus {text rest : List Char} (h : IsWholeNumeral text) :
    text ≠ '-' :: rest := by
  rintro rfl
  exact h.head_ne.2 rfl

theorem Decimal.WrittenAs.ne_minus {d : Decimal} {text rest : List Char} (h : d.WrittenAs text) :
    text ≠ '-' :: rest := by
  obtain ⟨c, after, rfl, digit⟩ := h.exists_head
  intro same
  rw [(List.cons.inj same).1] at digit
  exact absurd digit (by decide)

namespace Source

/-! ## Whole numbers -/

/-- The base of a whole number, and the text after the mark of the base. -/
def splitBase : List Char → Nat × List Char
  | '0' :: 'x' :: rest => (16, rest)
  | '0' :: 'o' :: rest => (8, rest)
  | '0' :: 'b' :: rest => (2, rest)
  | cs => (10, cs)

/-- Whether the character is a digit of a base or separates digits. -/
def isDigitIn (base : Nat) (c : Char) : Bool :=
  c == '_' || (isHexDigit c && decide (hexValue c < base))

/-- The number that digits write in a base after others, whose number is `value`. -/
def digitsIn (base value : Nat) (digits : List Char) : Nat :=
  digits.foldl (fun n c => if c = '_' then n else base * n + hexValue c) value

/-- The number that the digits at the start of a text write. -/
def wholeValue (cs : List Char) : Nat :=
  let (base, rest) := splitBase cs
  digitsIn base 0 (rest.takeWhile (isDigitIn base))

/-- A small digit in base sixteen is one in base ten. -/
theorem isDigit_of_hexValue_lt {c : Char} (h : hexValue c < 10) : isDigit c = true := by
  unfold hexValue at h
  split at h
  case isTrue digit => exact digit
  case isFalse =>
    split at h
    · omega
    · omega

theorem isDigitIn_iff {base : Nat} {c : Char} : isDigitIn base c = true ↔
    c = '_' ∨ (isDigit c = true ∨ 10 < base ∧ isHexDigit c = true) ∧ hexValue c < base := by
  simp only [isDigitIn, Bool.or_eq_true, beq_iff_eq, Bool.and_eq_true, decide_eq_true_eq]
  refine or_congr_right (and_congr_left fun small => ?_)
  constructor
  · intro digit
    by_cases more : 10 < base
    · exact .inr ⟨more, digit⟩
    · exact .inl (isDigit_of_hexValue_lt (by omega))
  · rintro (digit | ⟨-, digit⟩)
    · simp [isHexDigit, digit]
    · exact digit

/-- The reader goes on as long as there are digits of the base. -/
theorem wholeDigits?_value {base value n : Nat} {seen : Bool} {cs suffix : List Char}
    (h : wholeDigits? base value seen cs = some (n, suffix)) :
    n = digitsIn base value (cs.takeWhile (isDigitIn base)) := by
  induction cs generalizing value seen with
  | nil =>
      rw [wholeDigits?] at h
      split at h
      case isTrue => exact (Prod.mk.inj (Option.some.inj h)).1.symm
      case isFalse => cases h
  | cons c rest ih =>
      rw [wholeDigits?] at h
      split at h
      case isTrue digit =>
        split at h
        case isFalse => cases h
        case isTrue small =>
          have notLow : c ≠ '_' := by
            rintro rfl
            rcases digit with digit | ⟨-, digit⟩
            · exact absurd digit (by decide)
            · exact absurd digit (by decide)
          rw [List.takeWhile_cons_of_pos (isDigitIn_iff.2 (.inr ⟨digit, small⟩)), ih h,
            digitsIn, digitsIn, List.foldl_cons, if_neg notLow]
      case isFalse notDigit =>
        split at h
        case isTrue low =>
          rw [List.takeWhile_cons_of_pos (isDigitIn_iff.2 (.inl low)), ih h, digitsIn, digitsIn,
            List.foldl_cons, if_pos low]
        case isFalse notLow =>
          have stops : ¬ isDigitIn base c = true := fun digit =>
            (isDigitIn_iff.1 digit).elim notLow fun digit => notDigit digit.1
          rw [List.takeWhile_cons_of_neg stops]
          -- A point and an exponent make the number real.
          split at h
          case isTrue => cases h
          split at h
          case isTrue => cases h
          split at h
          case isTrue => exact (Prod.mk.inj (Option.some.inj h)).1.symm
          case isFalse => cases h

/-- What is read as a whole number is what its digits write. -/
theorem whole?_value {cs suffix : List Char} {n : Nat} (h : whole? cs = some (n, suffix)) :
    n = wholeValue cs := by
  unfold whole? at h
  obtain ⟨read, -⟩ := Option.filter_eq_some_iff.1 h
  split at read
  case h_1 => exact wholeDigits?_value read
  case h_2 => exact wholeDigits?_value read
  case h_3 => exact wholeDigits?_value read
  case h_4 =>
    split at read
    case isFalse => cases read
    case isTrue =>
      have decimal : splitBase cs = (10, cs) := by rw [splitBase] <;> assumption
      rw [wholeValue, decimal]
      exact wholeDigits?_value read

example : wholeValue "0x1_Fu8".toList = 31 := by decide +kernel

/-! ## Real numbers -/

/-- What may follow in a numeral after the mark of its exponent. -/
def AfterMark (s : RealState) (numeral : List Char) : Prop :=
  ∃ digits : List Char, (∀ c ∈ digits, isDigit c = true) ∧ (digits = [] → s.valued = true) ∧
    (numeral = digits ∨ numeral = '-' :: digits ∧ digits ≠ [] ∧ s.sign = false ∧ s.valued = false)

/-- What may follow in a numeral before the mark of its exponent. -/
def BeforeMark (s : RealState) (numeral : List Char) : Prop :=
  ∃ digits tail : List Char, ∃ exponent : Int, (∀ c ∈ digits, isDigit c = true) ∧
    Decimal.ExponentPart exponent tail ∧
    (numeral = digits ++ tail ∨
      s.point = false ∧ ∃ fraction : List Char, (∀ c ∈ fraction, isDigit c = true) ∧
        numeral = digits ++ '.' :: (fraction ++ tail))

theorem AfterMark.exponentPart {s : RealState} {numeral : List Char} (h : AfterMark s numeral)
    (fresh : s.valued = false) : ∃ exponent, Decimal.ExponentPart exponent ('e' :: numeral) := by
  obtain ⟨digits, all, some, rfl | ⟨rfl, some', -⟩⟩ := h
  · refine ⟨_, .positive (fun none => ?_) all⟩
    rw [some none] at fresh
    cases fresh
  · exact ⟨_, .negative some' all⟩

/-- Where the numeral ends, its exponent has a digit if it has a mark. -/
theorem eq_nil_of_stop {s : RealState} {cs numeral after : List Char}
    (h : (if s.exponent && !s.valued then none else some ([], cs)) = some (numeral, after)) :
    numeral = [] ∧ (s.exponent = true → s.valued = true) := by
  split at h
  case isTrue => cases h
  case isFalse valued =>
    obtain ⟨rfl, -⟩ := Prod.mk.inj (Option.some.inj h)
    exact ⟨rfl, fun marked => by simpa [marked] using valued⟩

theorem exists_of_keep {c : Char} {x : Option (List Char × List Char)} {numeral after : List Char}
    (h : (x.map fun (numeral, after) => (c :: numeral, after)) = some (numeral, after)) :
    ∃ more, x = some (more, after) ∧ numeral = c :: more := by
  obtain ⟨⟨more, after'⟩, found, same⟩ := Option.map_eq_some_iff.1 h
  obtain ⟨rfl, rfl⟩ := Prod.mk.inj same
  exact ⟨more, found, rfl⟩

theorem afterMark_of_realNumeral? {s : RealState} {cs numeral after : List Char}
    (marked : s.exponent = true) (h : realNumeral? s cs = some (numeral, after)) :
    AfterMark s numeral := by
  have ended {s : RealState} {cs numeral after : List Char} (marked : s.exponent = true)
      (h : (if s.exponent && !s.valued then none else some ([], cs)) = some (numeral, after)) :
      AfterMark s numeral := by
    obtain ⟨rfl, valued⟩ := eq_nil_of_stop h
    exact ⟨[], by simp, fun _ => valued marked, .inl rfl⟩
  induction cs generalizing s numeral after with
  | nil =>
      rw [realNumeral?] at h
      exact ended marked h
  | cons c rest ih =>
      rw [realNumeral?] at h
      dsimp only at h
      split at h
      case isTrue => exact ih marked h
      split at h
      case isTrue digit =>
        obtain ⟨more, read, rfl⟩ := exists_of_keep h
        obtain ⟨digits, all, -, rfl | ⟨-, -, -, valued⟩⟩ := ih (by exact marked) read
        · exact ⟨c :: more, by simpa [digit] using all, by simp, .inl rfl⟩
        · simp [marked] at valued
      split at h
      case isTrue => simp [marked] at h
      split at h
      case isTrue =>
        split at h
        case isFalse => exact ended marked h
        split at h
        case isTrue => exact ended marked h
        case isFalse => cases h
      split at h
      case isTrue minus =>
        split at h
        case isTrue => cases h
        case isFalse first =>
          obtain ⟨more, read, rfl⟩ := exists_of_keep h
          obtain ⟨digits, all, valued, rfl | ⟨-, -, signed, -⟩⟩ := ih (by exact marked) read
          · simp only [marked, Bool.not_true, Bool.or_false, Bool.or_eq_true, not_or,
              Bool.not_eq_true] at first
            have some : more ≠ [] := by
              intro none
              have := valued none
              rw [first.2] at this
              cases this
            exact ⟨more, all, fun none => absurd none some,
              .inr ⟨by rw [minus], some, first⟩⟩
          · cases signed
      split at h
      case isTrue plus =>
        split at h
        case isTrue => cases h
        case isFalse first =>
          obtain ⟨digits, all, valued, rfl | ⟨-, -, signed, -⟩⟩ := ih (by exact marked) h
          · exact ⟨numeral, all, valued, .inl rfl⟩
          · cases signed
      case isFalse => exact ended marked h

theorem beforeMark_of_realNumeral? {s : RealState} {cs numeral after : List Char}
    (unmarked : s.exponent = false) (fresh : s.valued = false)
    (h : realNumeral? s cs = some (numeral, after)) : BeforeMark s numeral := by
  have ended {s : RealState} {cs numeral after : List Char}
      (h : (if s.exponent && !s.valued then none else some ([], cs)) = some (numeral, after)) :
      BeforeMark s numeral := by
    obtain ⟨rfl, -⟩ := eq_nil_of_stop h
    exact ⟨[], [], 0, by simp, .absent, .inl rfl⟩
  induction cs generalizing s numeral after with
  | nil =>
      rw [realNumeral?] at h
      exact ended h
  | cons c rest ih =>
      rw [realNumeral?] at h
      dsimp only at h
      split at h
      case isTrue => exact ih unmarked fresh h
      split at h
      case isTrue digit =>
        obtain ⟨more, read, rfl⟩ := exists_of_keep h
        have still : (s.valued || s.exponent) = false := by rw [unmarked, fresh]; rfl
        obtain ⟨digits, tail, exponent, all, part, rfl | ⟨pointless, fraction, rest⟩⟩ :=
          ih (by exact unmarked) still read
        · exact ⟨c :: digits, tail, exponent, by simpa [digit] using all, part, .inl rfl⟩
        · obtain ⟨all', rfl⟩ := rest
          exact ⟨c :: digits, tail, exponent, by simpa [digit] using all, part,
            .inr ⟨pointless, fraction, all', rfl⟩⟩
      split at h
      case isTrue point =>
        split at h
        case isTrue => cases h
        case isFalse first =>
          obtain ⟨more, read, rfl⟩ := exists_of_keep h
          obtain ⟨digits, tail, exponent, all, part, rfl | ⟨pointless, -⟩⟩ :=
            ih (by exact unmarked) (by exact fresh) read
          · have pointless : s.point = false := by simpa [unmarked] using first
            exact ⟨[], tail, exponent, by simp, part,
              .inr ⟨pointless, digits, all, by rw [point]; rfl⟩⟩
          · cases pointless
      split at h
      case isTrue =>
        split at h
        case isFalse => exact ended h
        split at h
        case isTrue marked => exact absurd marked (by simp [unmarked])
        case isFalse =>
          obtain ⟨more, read, rfl⟩ := exists_of_keep h
          obtain ⟨exponent, part⟩ :=
            (afterMark_of_realNumeral? rfl read).exponentPart (by exact fresh)
          exact ⟨[], _, exponent, by simp, part, .inl rfl⟩
      split at h
      case isTrue => simp [unmarked] at h
      split at h
      case isTrue => simp [unmarked] at h
      case isFalse => exact ended h

/-- The numeral of a real number writes a decimal. -/
theorem exists_writtenAs_of_real? {cs numeral suffix : List Char}
    (h : real? cs = some (numeral, suffix)) : ∃ d : Decimal, d.WrittenAs numeral := by
  unfold real? at h
  split at h
  case isFalse => cases h
  case isTrue first =>
    obtain ⟨read, -⟩ := Option.filter_eq_some_iff.1 h
    cases cs with
    | nil => cases first
    | cons c rest =>
        -- The first digit is kept, and no mark has been seen after it.
        have digit : isDigit c = true := by simpa using first
        have notLow : c ≠ '_' := by
          rintro rfl
          exact absurd digit (by decide)
        rw [realNumeral?] at read
        dsimp only at read
        rw [if_neg notLow, if_pos digit] at read
        obtain ⟨more, kept, rfl⟩ := exists_of_keep read
        obtain ⟨digits, tail, exponent, all, part, rfl | ⟨-, fraction, all', rfl⟩⟩ :=
          beforeMark_of_realNumeral? rfl rfl kept
        · have all : ∀ d ∈ c :: digits, isDigit d = true := by simpa [digit] using all
          exact ⟨_, .whole (List.cons_ne_nil c digits) all part⟩
        · have all : ∀ d ∈ c :: digits ++ fraction, isDigit d = true := by
            intro d found
            rcases List.mem_append.1 found with found | found
            · rcases List.mem_cons.1 found with rfl | found
              · exact digit
              · exact all d found
            · exact all' d found
          exact ⟨_, .pointed (List.cons_ne_nil c digits) all part⟩

/-! ## Literals -/

/-- What a number denotes together with a minus sign before it: the sign goes into the numeral. -/
def LiteralValue.negated : LiteralValue → LiteralValue
  | .integer numeral suffix => .integer (String.ofList ('-' :: numeral.toList)) suffix
  | .real numeral suffix => .real (String.ofList ('-' :: numeral.toList)) suffix
  | .text value => .text value
  | .other => .other

/-- What a literal denotes is a number. -/
def LiteralValue.IsNumber : LiteralValue → Prop
  | .integer .. | .real .. => True
  | .text _ | .other => False

theorem numberValue?_true (text : String) :
    numberValue? true text = (numberValue? false text).map LiteralValue.negated := by
  unfold numberValue?
  cases whole? text.toList with
  | some found => simp [signed, LiteralValue.negated]
  | none =>
      cases real? text.toList with
      | none => rfl
      | some found => simp [signed, LiteralValue.negated]

theorem isNumber_of_numberValue? {negative : Bool} {text : String} {v : LiteralValue}
    (h : numberValue? negative text = some v) : v.IsNumber := by
  unfold numberValue? at h
  split at h
  · obtain rfl := Option.some.inj h
    trivial
  · obtain ⟨_, -, rfl⟩ := Option.map_eq_some_iff.1 h
    trivial

/-- A number starts with a digit. -/
theorem head_of_numberValue? {negative : Bool} {text : String} {v : LiteralValue}
    (h : numberValue? negative text = some v) : ∃ c rest, text.toList = c :: rest ∧
      isDigit c = true := by
  have started {cs : List Char} (first : cs.head?.any isDigit = true) :
      ∃ c rest, cs = c :: rest ∧ isDigit c = true := by
    cases cs with
    | nil => cases first
    | cons c rest => exact ⟨c, rest, rfl, by simpa using first⟩
  unfold numberValue? at h
  split at h
  case h_1 value suffix found =>
    unfold whole? at found
    obtain ⟨found, -⟩ := Option.filter_eq_some_iff.1 found
    split at found
    next same => exact ⟨_, _, same, by decide⟩
    next same => exact ⟨_, _, same, by decide⟩
    next same => exact ⟨_, _, same, by decide⟩
    next =>
      split at found
      case isTrue first => exact started first
      case isFalse => cases found
  case h_2 =>
    obtain ⟨_, found, -⟩ := Option.map_eq_some_iff.1 h
    unfold real? at found
    split at found
    case isTrue first => exact started first
    case isFalse => cases found

/-- A literal denotes a number if it is read as one. -/
theorem literalValue_eq_iff {text : String} {v : LiteralValue} (number : v.IsNumber) :
    literalValue text = v ↔ numberValue? false text = some v := by
  constructor
  · intro h
    unfold literalValue at h
    split at h
    · obtain rfl := h
      cases number
    · obtain rfl := h
      cases number
    · cases read : numberValue? false text with
      | some found => rw [read, Option.getD_some] at h; rw [h]
      | none =>
          rw [read, Option.getD_none] at h
          obtain rfl := h
          cases number
  · intro h
    obtain ⟨c, rest, start, digit⟩ := head_of_numberValue? h
    have other {mark : Char} (none : isDigit mark = false) : c ≠ mark := by
      rintro rfl
      rw [none] at digit
      cases digit
    unfold literalValue
    rw [start, h]
    split
    next same => exact absurd (List.cons.inj same).1 (other (by decide))
    next same => exact absurd (List.cons.inj same).1 (other (by decide))
    next => rfl

/-- What is read together with a minus sign is what the literal denotes, with the sign in its
numeral. -/
theorem numberValue?_true_eq_some_iff {text : String} {v : LiteralValue} :
    numberValue? true text = some v ↔
      (literalValue text).IsNumber ∧ v = (literalValue text).negated := by
  rw [numberValue?_true, Option.map_eq_some_iff]
  constructor
  · rintro ⟨found, read, rfl⟩
    have number := isNumber_of_numberValue? read
    rw [(literalValue_eq_iff number).2 read]
    exact ⟨number, rfl⟩
  · rintro ⟨number, rfl⟩
    exact ⟨_, (literalValue_eq_iff number).1 rfl, rfl⟩

/-- What is read as a whole number is what the literal denotes, with its decimal digits. -/
theorem literalValue_of_whole? {text : String} {n : Nat} {suffix : List Char}
    (h : whole? text.toList = some (n, suffix)) :
    literalValue text = .integer (String.ofList (Nat.toDigits 10 n)) (String.ofList suffix) := by
  refine (literalValue_eq_iff (by trivial)).2 ?_
  rw [numberValue?, h]
  rfl

/-- The numeral of a whole number has the decimal digits of what is read. -/
theorem exists_whole_of_literalValue {text numeral suffix : String}
    (h : literalValue text = .integer numeral suffix) :
    ∃ n rest, whole? text.toList = some (n, rest) ∧ numeral.toList = Nat.toDigits 10 n := by
  cases found : whole? text.toList with
  | some whole =>
      obtain ⟨n, rest⟩ := whole
      rw [literalValue_of_whole? found] at h
      obtain ⟨rfl, -⟩ := LiteralValue.integer.inj h
      exact ⟨n, rest, rfl, String.toList_ofList⟩
  | none =>
      have read := (literalValue_eq_iff (v := .integer numeral suffix) trivial).1 h
      rw [numberValue?, found] at read
      obtain ⟨_, -, same⟩ := Option.map_eq_some_iff.1 read
      cases same

/-- No whole number is read from a literal that denotes something else. -/
theorem whole?_of_literalValue {text : String} {v : LiteralValue} (h : literalValue text = v)
    (other : ∀ numeral suffix, v ≠ .integer numeral suffix) : whole? text.toList = none := by
  cases found : whole? text.toList with
  | some whole => exact absurd (h.symm.trans (literalValue_of_whole? found)) (other _ _)
  | none => rfl

/-- The numeral of a whole number has digits only. -/
theorem isWholeNumeral_of_literalValue {text numeral suffix : String}
    (h : literalValue text = .integer numeral suffix) : IsWholeNumeral numeral.toList := by
  obtain ⟨n, -, -, digits⟩ := exists_whole_of_literalValue h
  rw [digits]
  exact isWholeNumeral_toDigits n

/-- The numeral of a real number writes a decimal. -/
theorem exists_writtenAs_of_literalValue {text numeral suffix : String}
    (h : literalValue text = .real numeral suffix) :
    ∃ d : Decimal, d.WrittenAs numeral.toList := by
  have read := (literalValue_eq_iff (v := .real numeral suffix) trivial).1 h
  unfold numberValue? at read
  split at read
  case h_1 => cases Option.some.inj read
  case h_2 =>
    obtain ⟨_, found, same⟩ := Option.map_eq_some_iff.1 read
    obtain ⟨rfl, -⟩ := LiteralValue.real.inj same
    rw [signed, String.toList_ofList]
    exact exists_writtenAs_of_real? found

end Source
end DomainValues
