import DomainValues.Code.Tokens
import DomainValues.Proofs.ArgumentGrammar
import DomainValues.Proofs.Configuring
import DomainValues.Proofs.QuotedText

/-!
# Literals of generated code

A number is written as its digits and its type, with a minus sign before them as a token of its own.
Read as an argument of a directive, these tokens have the value that they were written for
(`Code.Literal.IsReadAs`): the digits are read first, with or without a point, and what is left is
the suffix (`Source.literalValue_of_whole`, `Source.literalValue_of_pointed`).

Main statements: `Code.Literal.isReadAs_length`, `isReadAs_int32`, `isReadAs_real` and
`isReadAs_text`.
-/

namespace DomainValues

namespace Source

/-! ## Digits -/

/-- A text after the digits of a number that is its suffix. -/
structure EndsNumber (suffix : List Char) : Prop where
  /-- It is a word. -/
  word : isWord suffix = true
  /-- It starts with a character that goes on with no number. -/
  other : ∃ c rest, suffix = c :: rest ∧ isDigit c = false ∧
    c ∉ ['_', '.', 'e', 'E', '-', '+', 'x', 'o', 'b']

section

variable {digits rest suffix : List Char} (all : ∀ c ∈ digits, isDigit c = true)
include all

/-- Digits add their values. -/
theorem wholeDigits?_append (value : Nat) (seen : Bool) :
    wholeDigits? 10 value seen (digits ++ rest) =
      wholeDigits? 10 (digitsValue value digits) (seen || !digits.isEmpty) rest := by
  induction digits generalizing value seen with
  | nil => simp [digitsValue]
  | cons c digits ih =>
      have digit := all c List.mem_cons_self
      have isValue : hexValue c = digitValue c := if_pos digit
      have small : hexValue c < 10 := by
        obtain ⟨least, greatest⟩ := isDigit_iff.1 digit
        rw [isValue, digitValue]
        change c.toNat - 48 < 10
        omega
      rw [List.cons_append, wholeDigits?, if_pos (.inl digit), if_pos small,
        ih fun d found => all d (List.mem_cons_of_mem c found), isValue]
      simp [digitsValue]

/-- Digits are kept in the numeral. -/
theorem realNumeral?_append {s : RealState} (unmarked : s.exponent = false) :
    realNumeral? s (digits ++ rest) =
      (realNumeral? s rest).map fun (numeral, after) => (digits ++ numeral, after) := by
  induction digits with
  | nil => simp
  | cons c digits ih =>
      have digit := all c List.mem_cons_self
      have notLow : c ≠ '_' := by
        rintro rfl
        exact absurd digit (by decide)
      have state : { s with valued := s.valued || s.exponent } = s := by cases s; simp_all
      have tail := ih fun d found => all d (List.mem_cons_of_mem c found)
      rw [List.cons_append, realNumeral?, if_neg notLow, if_pos digit, state]
      dsimp only
      rw [tail, Option.map_map]
      rfl

variable (some : digits ≠ [])
include some

theorem head_any_isDigit : (digits ++ rest).head?.any isDigit = true := by
  obtain ⟨c, digits, rfl⟩ := List.exists_cons_of_ne_nil some
  simpa using all c List.mem_cons_self

/-- After the first digit stands another one, or what follows the digits. -/
theorem append_ne_marked {mark : Char} (notDigit : isDigit mark = false)
    (notNext : rest.head? ≠ .some mark) (first : Char) (after : List Char) :
    digits ++ rest ≠ first :: mark :: after := by
  obtain ⟨c, digits, rfl⟩ := List.exists_cons_of_ne_nil some
  intro same
  obtain ⟨-, same⟩ := List.cons.inj same
  cases digits with
  | nil => exact notNext (congrArg List.head? same)
  | cons d digits =>
      obtain ⟨rfl, -⟩ := List.cons.inj same
      rw [all d (List.mem_cons_of_mem c List.mem_cons_self)] at notDigit
      cases notDigit

/-- A number without the mark of another base is in base ten. -/
theorem whole?_append (next : ∀ mark ∈ ['x', 'o', 'b'], rest.head? ≠ .some mark) :
    whole? (digits ++ rest) = (wholeDigits? 10 (digitsValue 0 digits) true rest).filter
      fun (_, suffix) => suffix = [] || isWord suffix := by
  have unmarked {mark : Char} (listed : mark ∈ ['x', 'o', 'b']) (notDigit : isDigit mark = false) :=
    append_ne_marked all some notDigit (next mark listed)
  have seen : (false || !digits.isEmpty) = true := by simpa using some
  unfold whole?
  split
  next same => exact absurd same (unmarked (by decide) (by decide) _ _)
  next same => exact absurd same (unmarked (by decide) (by decide) _ _)
  next same => exact absurd same (unmarked (by decide) (by decide) _ _)
  next => rw [if_pos (head_any_isDigit all some), wholeDigits?_append all, seen]

/-- Digits and a suffix denote a whole number. -/
theorem literalValue_of_whole (ends : EndsNumber suffix) {text : String}
    (chars : text.toList = digits ++ suffix) :
    literalValue text = .integer (String.ofList (Nat.toDigits 10 (digitsValue 0 digits)))
      (String.ofList suffix) := by
  obtain ⟨word, c, after, rfl, notDigit, notMark⟩ := ends
  simp only [List.mem_cons, List.not_mem_nil, or_false, not_or] at notMark
  have stops : wholeDigits? 10 (digitsValue 0 digits) true (c :: after) =
      .some (digitsValue 0 digits, c :: after) := by
    simp [wholeDigits?, notDigit, notMark]
  have whole : whole? (digits ++ c :: after) = _ := whole?_append all some (by simp [notMark])
  rw [stops, Option.filter, if_pos (by simp [word])] at whole
  exact literalValue_of_whole? (chars ▸ whole)

/-- Digits, a point, digits and a suffix denote a real number. -/
theorem literalValue_of_pointed {fraction : List Char} (all' : ∀ c ∈ fraction, isDigit c = true)
    (ends : EndsNumber suffix) {text : String}
    (chars : text.toList = digits ++ '.' :: (fraction ++ suffix)) :
    literalValue text = .real (String.ofList (digits ++ '.' :: fraction))
      (String.ofList suffix) := by
  obtain ⟨word, c, after, rfl, notDigit, notMark⟩ := ends
  simp only [List.mem_cons, List.not_mem_nil, or_false, not_or] at notMark
  have notWhole : whole? (digits ++ '.' :: (fraction ++ c :: after)) = none := by
    rw [whole?_append all some (by simp)]
    simp [wholeDigits?, isDigit]
  have stops : realNumeral? ⟨true, false, false, false⟩ (c :: after) = .some ([], c :: after) := by
    simp [realNumeral?, notDigit, notMark]
  have point : realNumeral? ⟨false, false, false, false⟩ ('.' :: (fraction ++ c :: after)) =
      .some ('.' :: fraction, c :: after) := by
    have digits' : realNumeral? ⟨true, false, false, false⟩ (fraction ++ c :: after) = _ :=
      realNumeral?_append all' rfl
    rw [stops] at digits'
    simp [realNumeral?, isDigit, digits']
  have numeral : real? (digits ++ '.' :: (fraction ++ c :: after)) =
      .some (digits ++ '.' :: fraction, c :: after) := by
    rw [real?, if_pos (head_any_isDigit all some), realNumeral?_append all rfl, point]
    simp [word]
  refine (literalValue_eq_iff (by trivial)).2 ?_
  rw [numberValue?, chars, notWhole, numeral]
  simp [signed]

end

end Source

namespace Code.Literal

open Source Directive

/-! ## Literals as arguments -/

/-- The tokens of a literal, with a name before them or none, are an argument with a value. -/
def IsReadAs (l : Literal) (Is : ArgumentValue → Prop) : Prop :=
  ∀ before name, NameRow before name →
    ∃ value, ArgumentRow (before ++ l.tokens) ⟨name, value, .start⟩ ∧ Is value

/-- A sign and a literal are read as the number that the literal denotes. -/
theorem isReadAs_of_denotes {l : Literal} (negative : Bool) {text : String} {v : LiteralValue}
    {value : ArgumentValue} {Is : ArgumentValue → Prop} (tokens : l.tokens = signed negative text)
    (found : literalValue text = v) (denotes : Denotes negative v value) (is : Is value) :
    l.IsReadAs Is := by
  intro before name named
  refine ⟨value, ?_, is⟩
  rw [tokens]
  rw [← found] at denotes
  cases negative with
  | true => exact .intro named .minus denotes
  | false => exact .intro named .absent denotes

theorem endsNumber_usize : EndsNumber "usize".toList := ⟨by decide, 'u', _, rfl, by decide⟩

theorem endsNumber_i32 : EndsNumber "i32".toList := ⟨by decide, 'i', _, rfl, by decide⟩

theorem endsNumber_f64 : EndsNumber "f64".toList := ⟨by decide, 'f', _, rfl, by decide⟩

/-- The digits of a whole number and a suffix denote the number. -/
theorem literalValue_toString {suffix : String} (ends : EndsNumber suffix.toList) (n : Nat) :
    literalValue (toString n ++ suffix) =
      .integer (String.ofList (Nat.toDigits 10 n)) suffix := by
  have chars : (toString n ++ suffix).toList = Nat.toDigits 10 n ++ suffix.toList := by
    rw [String.toList_append]
    exact congrArg (· ++ _) Nat.toList_repr
  have value := literalValue_of_whole (fun c => isDigit_of_mem_toDigits) Nat.toDigits_ne_nil ends
    chars
  rwa [digitsValue_toDigits, String.ofList_toList] at value

theorem isReadAs_length (n : UInt64) : (length n).IsReadAs (·.IsLength n) := by
  refine isReadAs_of_denotes false rfl
    (literalValue_toString endsNumber_usize n.toNat) .integer ?_
  rw [ArgumentValue.IsLength, String.toList_ofList, digitsValue_toDigits]
  exact ⟨rfl, nofun⟩

theorem isReadAs_int32 (i : Int32) : (int32 i).IsReadAs (·.IsInt32 i) := by
  refine isReadAs_of_denotes _ rfl (literalValue_toString endsNumber_i32 i.toInt.natAbs) .integer ?_
  rw [ArgumentValue.IsInt32, String.toList_ofList, digitsValue_toDigits]
  split
  case isTrue negative => have := of_decide_eq_true negative; omega
  case isFalse positive => have := mt decide_eq_true positive; omega

theorem isReadAs_real (negative : Bool) (m : Fin Binary64.magnitudeLimit) :
    (real (.finite negative m)).IsReadAs (·.IsReal (.finite negative m)) := by
  obtain ⟨d, spelled, value⟩ := Binary64.exists_spelled_ofDecimal m
  have rounded {numeral : List Char} (written : d.WrittenAs numeral) :
      ArgumentValue.IsRounded negative numeral (.finite negative m) :=
    ⟨d, m, written, (Binary64.ofDecimal_eq_finite_iff.1 (value false)).2, rfl⟩
  have chars : (Layout.plain.text (.finite false m) ++ "f64").toList =
      (Layout.plain.ofMagnitude m).toList ++ "f64".toList := by
    rw [Layout.text, String.toList_append, String.toList_append]
    rfl
  generalize (Layout.plain.ofMagnitude m).toList = text at spelled chars
  cases spelled with
  | whole some all =>
      refine isReadAs_of_denotes _ rfl (literalValue_of_whole all some endsNumber_f64 chars)
        .integer ?_
      rw [ArgumentValue.IsReal, String.toList_ofList]
      refine rounded ?_
      have written := Decimal.WrittenAs.whole (Nat.toDigits_ne_nil (b := 10))
        (fun c => isDigit_of_mem_toDigits (n := digitsValue 0 text)) .absent
      rwa [List.append_nil, digitsValue_toDigits] at written
  | @pointed digits fraction some all =>
      have before : ∀ c ∈ digits, isDigit c = true :=
        fun c found => all c (List.mem_append_left _ found)
      have after : ∀ c ∈ fraction, isDigit c = true :=
        fun c found => all c (List.mem_append_right _ found)
      rw [List.append_assoc, List.cons_append] at chars
      refine isReadAs_of_denotes _ rfl
        (literalValue_of_pointed before some after endsNumber_f64 chars) .real ?_
      rw [ArgumentValue.IsReal, String.toList_ofList]
      exact rounded (Decimal.SpelledBy.pointed some all).writtenAs

theorem isReadAs_real_of_value {x : Binary64} {value : ℚ} (finite : x.value? = .some value) :
    (real x).IsReadAs (·.IsReal x) := by
  cases x with
  | finite negative m => exact isReadAs_real negative m
  | nan => cases finite
  | infinite => cases finite

theorem isReadAs_text {source : String}
    (compiles : ∃ compiled, Pattern.compile source = .ok compiled) :
    (text source).IsReadAs (·.IsPattern Pattern.compile source) :=
  isReadAs_of_denotes false rfl (literalValue_literal source) (.text rfl)
    ⟨rfl, compiles⟩

end Code.Literal
end DomainValues
