import DomainValues.Proofs.ArgumentGrammar
import DomainValues.Proofs.Configuring

/-!
# The arithmetic of bounds

A row of tokens writes a whole number if its last token is the literal of one: the number that the
digits write in their base, negated once for each minus sign of the row
(`Directive.writtenInteger?`).  The arguments of a directive are rows with at most two signs.

A number of 32 bits is read as it is written, and what has more bits is refused.  A length is read
as it is written after one sign or none, and never after two: the second sign stands in the numeral,
where a length has none.

The sign of an argument is applied in 64 bits.  This overflows (`Argument.Overflows`) for a single
number, `9223372036854775808` after two signs: its numeral has the second sign, so it writes the
least number of 64 bits, whose opposite has more.

Main statement: `Directive.evaluation_exact`, for all arguments of every attribute that is read.
-/

namespace DomainValues

/-- Whether a token is a minus sign. -/
def Token.isMinus : Token → Bool
  | .mark c _ _ => c == '-'
  | _ => false

/-- The sign of an argument cannot be applied to its magnitude in 64 bits. -/
def Argument.Overflows (x : Argument) : Prop :=
  ∃ negative numeral suffix magnitude, x.value = .integer negative numeral suffix ∧
    Directive.magnitude? numeral = some magnitude ∧
    (Directive.applySign negative magnitude).toInt ≠
      if negative then -magnitude.toInt else magnitude.toInt

namespace Directive

open Source

/-! ## What a row writes -/

/-- The number of minus signs in a row. -/
def minuses (row : List Token) : Nat := row.countP Token.isMinus

/-- The whole number that a row writes: that of the digits of its last token, negated once for each
minus sign. -/
def writtenInteger? (row : List Token) : Option Int :=
  match row.getLast? with
  | some (.literal text _) =>
      if (whole? text.toList).isSome then
        let n : Int := wholeValue text.toList
        some (if minuses row % 2 = 1 then -n else n)
      else none
  | _ => none

/-- The argument of a row is evaluated. -/
structure Evaluated (row : List Token) (x : Argument) : Prop where
  /-- The row is read as the argument. -/
  readable : ReadableRow row x
  /-- It gives the number of 32 bits that is written. -/
  int32 : ∀ p i, readInt32 p x = .ok i ↔ writtenInteger? row = some i.toInt
  /-- If there is none, the literal is refused. -/
  refused : ∀ p e, readInt32 p x = .error e → e = invalidLiteral p x
  /-- It gives the length that is written, unless there are two minus signs. -/
  length : ∀ p n, readLength p x = .ok n ↔
    minuses row < 2 ∧ writtenInteger? row = some (n.toNat : Int)
  /-- If there is none, the literal is refused, or the number because it is negative. -/
  refusedLength : ∀ p e, readLength p x = .error e → e = invalidLiteral p x ∨
    ∃ z, z < 0 ∧ minuses row = 1 ∧ writtenInteger? row = some z ∧
      e.fault = .invalidBounds
        (ConfigurationFault.ticked p.name ++ s!" must not be negative (found {z})")
  /-- It overflows for one number, after two minus signs. -/
  overflow : x.Overflows ↔ minuses row = 2 ∧ writtenInteger? row = some 9223372036854775808

/-! ## Rows that are read -/

theorem minuses_nameRow {row : List Token} {name : Option Name} (h : NameRow row name) :
    minuses row = 0 := by
  cases h with
  | absent => rfl
  | given => rfl

theorem minuses_signRow {row : List Token} {negative : Bool} (h : SignRow row negative) :
    minuses row = if negative then 1 else 0 := by
  cases h with
  | absent => rfl
  | minus => rfl

theorem minuses_append (row more : List Token) :
    minuses (row ++ more) = minuses row + minuses more := List.countP_append

theorem writtenInteger?_append_literal {front : List Token} {text : String} {p : Position} :
    writtenInteger? (front ++ [.literal text p]) = (whole? text.toList).map fun (n, _) =>
      if minuses front % 2 = 1 then -(n : Int) else n := by
  have signs : minuses (front ++ [.literal text p]) = minuses front := minuses_append ..
  rw [writtenInteger?, List.getLast?_append_of_ne_nil _ (List.cons_ne_nil _ _), signs]
  dsimp only [List.getLast?_singleton]
  cases read : whole? text.toList with
  | none => rfl
  | some found => rw [← whole?_value read]; rfl

/-- What the value of an argument has to do with its row. -/
inductive Stands (row : List Token) : ArgumentValue → Prop where
  /-- A whole number after a sign or none: the sign stands apart from the numeral. -/
  | apart {negative : Bool} {numeral suffix : String} {n : Nat} :
      numeral.toList = Nat.toDigits 10 n → (minuses row = if negative then 1 else 0) →
      writtenInteger? row = some (if negative then -(n : Int) else n) →
      Stands row (.integer negative numeral suffix)
  /-- A whole number after two signs: the second one stands in the numeral. -/
  | inside {numeral suffix : String} {n : Nat} : numeral.toList = '-' :: Nat.toDigits 10 n →
      minuses row = 2 → writtenInteger? row = some (n : Int) →
      Stands row (.integer true numeral suffix)
  /-- No whole number. -/
  | other {value : ArgumentValue} :
      (∀ negative numeral suffix, value ≠ .integer negative numeral suffix) →
      writtenInteger? row = none → Stands row value

theorem ArgumentRow.stands {row : List Token} {x : Argument} (h : ArgumentRow row x) :
    Stands row x.value := by
  obtain @⟨before, sign, _, negative, text, p, value, named, signed, denotes⟩ := h
  have signs : minuses (before ++ sign) = if negative then 1 else 0 := by
    rw [minuses_append, minuses_nameRow named, minuses_signRow signed, Nat.zero_add]
  have total : minuses (before ++ sign ++ [.literal text p]) = if negative then 1 else 0 := by
    rw [minuses_append, signs]
    rfl
  have written : writtenInteger? (before ++ sign ++ [.literal text p]) =
      (whole? text.toList).map fun (n, _) => if negative then -(n : Int) else n := by
    rw [writtenInteger?_append_literal, signs]
    cases negative <;> rfl
  rw [← List.append_assoc]
  dsimp only
  generalize found : literalValue text = v at denotes
  cases denotes with
  | integer =>
      obtain ⟨n, rest, whole, numeral⟩ := exists_whole_of_literalValue found
      exact .apart numeral total (by rw [written, whole]; rfl)
  | real => exact .other nofun (by rw [written, whole?_of_literalValue found nofun]; rfl)
  | text => exact .other nofun (by rw [written, whole?_of_literalValue found nofun]; rfl)

theorem DoubleMinusRow.stands {row : List Token} {x : Argument} (h : DoubleMinusRow row x) :
    Stands row x.value := by
  obtain @⟨before, _, joint, joint', p, q, r, text, value, named, number, denotes⟩ := h
  have split : before ++ [.mark '-' joint p, .mark '-' joint' q, .literal text r] =
      before ++ [.mark '-' joint p, .mark '-' joint' q] ++ [.literal text r] := by
    rw [List.append_assoc]
    rfl
  have signs : minuses (before ++ [.mark '-' joint p, .mark '-' joint' q]) = 2 := by
    rw [minuses_append, minuses_nameRow named]
    rfl
  have total : minuses
      (before ++ [.mark '-' joint p, .mark '-' joint' q] ++ [.literal text r]) = 2 := by
    rw [minuses_append, signs]
    rfl
  have written : writtenInteger?
      (before ++ [.mark '-' joint p, .mark '-' joint' q] ++ [.literal text r]) =
        (whole? text.toList).map fun (n, _) => (n : Int) := by
    rw [writtenInteger?_append_literal, signs]
    rfl
  rw [split]
  dsimp only
  cases found : literalValue text with
  | integer numeral suffix =>
      rw [found] at denotes
      obtain ⟨n, rest, whole, digits⟩ := exists_whole_of_literalValue found
      cases denotes with
      | integer =>
          refine .inside ?_ total (by rw [written, whole]; rfl)
          rw [String.toList_ofList, digits]
  | real numeral suffix =>
      rw [found] at denotes
      cases denotes with
      | real => exact .other nofun (by rw [written, whole?_of_literalValue found nofun]; rfl)
  | text => rw [found] at number; cases number
  | other => rw [found] at number; cases number

theorem ReadableRow.stands {row : List Token} {x : Argument} (h : ReadableRow row x) :
    Stands row x.value := by
  rcases h with h | h
  · exact h.stands
  · exact h.stands

/-! ## Evaluation -/

section

variable {row : List Token} {x : Argument} (p : Parameter)

/-- A number of 32 bits is read as it is written, and all else is refused. -/
theorem Stands.readInt32_eq (h : Stands row x.value) :
    readInt32 p x = (writtenInteger? row).elim (.error (invalidLiteral p x)) fun z =>
      if Int32.minValue.toInt ≤ z ∧ z ≤ Int32.maxValue.toInt then .ok (Int32.ofInt z)
      else .error (invalidLiteral p x) := by
  generalize value : x.value = v at h
  cases h with
  | @apart negative numeral suffix n digits signs written =>
      rw [written, Option.elim_some]
      exact readInt32_of_numeral value (digits ▸ signedNumeral_toDigits n) rfl
  | @inside numeral suffix n digits signs written =>
      rw [written, Option.elim_some]
      exact readInt32_of_numeral value (digits ▸ signedNumeral_minus_toDigits n)
        (Int.neg_neg _).symm
  | other noInteger written =>
      rw [written, Option.elim_none, readInt32]
      split
      case h_1 value' => exact absurd (value.symm.trans value') (noInteger _ _ _)
      case h_2 => rfl

/-- A length has no sign in its numeral. -/
theorem readNat?_minus (limit : Nat) (rest : List Char) : readNat? limit ('-' :: rest) = none := by
  have unread : readDigits? ('-' :: rest) = none :=
    Option.eq_none_iff_forall_ne_some.2 fun _ read =>
      (readDigits?_eq_some_iff.1 read).1.head_ne.2 rfl
  unfold readNat?
  split
  case h_1 same => cases same
  case h_2 =>
    dsimp only
    rw [unread, Option.filter_none]

/-- A length is read as it is written, unless a second sign stands in its numeral. -/
theorem Stands.readLength_eq_ok_iff (h : Stands row x.value) (n : UInt64) :
    readLength p x = .ok n ↔ minuses row < 2 ∧ writtenInteger? row = some (n.toNat : Int) := by
  generalize value : x.value = v at h
  cases h with
  | @apart negative numeral suffix m digits signs written =>
      have unsigned : x.value.Unsigned := by
        rw [value]
        exact (digits ▸ isWholeNumeral_toDigits m : IsWholeNumeral numeral.toList)
      have zero : n = 0 ↔ n.toNat = 0 := by rw [← UInt64.toNat_inj, UInt64.toNat_zero]
      rw [Directive.readLength_eq_ok_iff unsigned, value, ArgumentValue.IsLength, digits,
        digitsValue_toDigits, zero, signs, written, Option.some_inj]
      cases negative with
      | false => simp [eq_comm]
      | true =>
          simp only [if_true, true_imp_iff]
          omega
  | @inside numeral suffix m digits signs written =>
      rw [readLength, value]
      dsimp only
      rw [digits, readNat?_minus, signs]
      exact ⟨nofun, fun h => absurd h.1 (by decide)⟩
  | other noInteger written =>
      rw [written, readLength]
      split
      case h_1 value' => exact absurd (value.symm.trans value') (noInteger _ _ _)
      case h_2 => exact ⟨nofun, nofun⟩

/-- A negative number is named with its sign. -/
theorem negative_message {n : Nat} (h : n ≠ 0) :
    s!" must not be negative (found {-(n : Int)})" = s!" must not be negative (found -{n})" := by
  have signed : toString (-(n : Int)) = "-" ++ toString n := by
    cases n with
    | zero => exact absurd rfl h
    | succ n => rfl
  have joined : toString " must not be negative (found -" =
      toString " must not be negative (found " ++ "-" := by decide
  rw [signed, joined, ← String.append_assoc]

/-- What is refused as a length is refused as a literal or as a negative number. -/
theorem Stands.readLength_eq_error (h : Stands row x.value) {e : ConfigurationError}
    (refused : readLength p x = .error e) : e = invalidLiteral p x ∨
      ∃ z, z < 0 ∧ minuses row = 1 ∧ writtenInteger? row = some z ∧
        e.fault = .invalidBounds
          (ConfigurationFault.ticked p.name ++ s!" must not be negative (found {z})") := by
  generalize value : x.value = v at h
  rw [readLength, value] at refused
  cases h with
  | @apart negative numeral suffix m digits signs written =>
      dsimp only at refused
      rw [digits, readNat?_of_numeral (isWholeNumeral_toDigits m), digitsValue_toDigits] at refused
      split at refused
      case h_1 => exact .inl (Except.error.inj refused).symm
      case h_2 found =>
        split at refused
        case isFalse => cases refused
        case isTrue negated =>
          obtain ⟨rfl, notZero⟩ := negated
          obtain rfl := Option.some.inj (Option.filter_eq_some_iff.1 found).1
          obtain rfl := Except.error.inj refused
          refine .inr ⟨-m, by omega, signs, written, ?_⟩
          rw [negative_message notZero]
  | @inside numeral suffix m digits signs written =>
      dsimp only at refused
      rw [digits, readNat?_minus] at refused
      exact .inl (Except.error.inj refused).symm
  | other noInteger written =>
      split at refused
      case h_1 => exact absurd rfl (noInteger _ _ _)
      case h_2 => exact .inl (Except.error.inj refused).symm

/-- A sign overflows if the numeral writes the least number of 64 bits. -/
theorem overflows_iff {x : Argument} : x.Overflows ↔
    ∃ numeral suffix, x.value = .integer true numeral suffix ∧
      SignedNumeral numeral.toList (-9223372036854775808) := by
  have least : Int64.minValue.toInt = -9223372036854775808 := by decide
  simp only [Argument.Overflows, Ne, toInt_applySign_iff, not_not, magnitude?_eq_some_iff]
  constructor
  · rintro ⟨negative, numeral, suffix, magnitude, value, written, rfl, rfl⟩
    exact ⟨numeral, suffix, value, least ▸ written⟩
  · rintro ⟨numeral, suffix, value, written⟩
    exact ⟨true, numeral, suffix, Int64.minValue, value, least ▸ written, rfl, rfl⟩

/-- A sign overflows for one number, and only if it is the first of two. -/
theorem Stands.overflows_iff (h : Stands row x.value) :
    x.Overflows ↔ minuses row = 2 ∧ writtenInteger? row = some 9223372036854775808 := by
  rw [Directive.overflows_iff]
  generalize x.value = v at h
  cases h with
  | @apart negative numeral suffix n digits signs written =>
      refine ⟨?_, fun two => ?_⟩
      · rintro ⟨_, _, ⟨⟩, least⟩
        have same := least.unique (digits ▸ signedNumeral_toDigits n)
        omega
      · rw [signs] at two
        cases negative <;> cases two.1
  | @inside numeral suffix n digits signs written =>
      rw [signs, written, Option.some_inj]
      constructor
      · rintro ⟨_, _, ⟨⟩, least⟩
        have same := least.unique (digits ▸ signedNumeral_minus_toDigits n)
        exact ⟨rfl, by omega⟩
      · rintro ⟨-, same⟩
        exact ⟨numeral, suffix, rfl, by
          rw [← same]
          exact digits ▸ signedNumeral_minus_toDigits n⟩
  | other noInteger written =>
      rw [written]
      refine ⟨?_, nofun⟩
      rintro ⟨_, _, rfl, -⟩
      exact absurd rfl (noInteger _ _ _)

end

/-- What is read as an argument is evaluated. -/
theorem ReadableRow.evaluated {row : List Token} {x : Argument} (h : ReadableRow row x) :
    Evaluated row x where
  readable := h
  int32 p i := by
    rw [h.stands.readInt32_eq]
    cases writtenInteger? row with
    | none => exact ⟨nofun, nofun⟩
    | some z =>
        rw [Option.elim_some, Option.some_inj]
        exact ite_fits_eq_ok_iff.trans eq_comm
  refused p e refused := by
    rw [h.stands.readInt32_eq] at refused
    cases found : writtenInteger? row with
    | none =>
        rw [found] at refused
        exact (Except.error.inj refused).symm
    | some z =>
        rw [found, Option.elim_some] at refused
        split at refused
        · cases refused
        · exact (Except.error.inj refused).symm
  length p := h.stands.readLength_eq_ok_iff p
  refusedLength p _ := h.stands.readLength_eq_error p
  overflow := h.stands.overflows_iff

theorem ArgumentList.imp {row other : List Token → Argument → Prop}
    (implies : ∀ tokens a, row tokens a → other tokens a) {tokens : List Token}
    {args : List Argument} (h : ArgumentList row tokens args) : ArgumentList other tokens args := by
  induction h with
  | nil => exact .nil
  | last first => exact .last (implies _ _ first)
  | cons first _ ih => exact .cons (implies _ _ first) ih

/-- Every attribute that is read as a directive spells its arguments in rows, and each is evaluated
as its row writes it. -/
theorem evaluation_exact {kind : Kind} {a : Attribute} {d : Directive}
    (accepted : ofAttribute kind a = .ok d) : SpelledBy Evaluated d.arguments a.arguments := by
  have spelled := (ofAttribute_eq_ok_iff.1 accepted).2.2
  cases form : a.arguments with
  | none => rwa [form] at spelled
  | list =>
      rw [form] at spelled
      exact ArgumentList.imp (fun _ _ => ReadableRow.evaluated) spelled
  | value => rwa [form] at spelled

/-- An attribute with the number whose sign overflows:
`#[bounded_integer(- -9223372036854775808, 10)]`. -/
def leastNegated : Attribute where
  position := ⟨1, 0⟩
  inner := false
  path := ⟨⟨1, 2⟩, false, [⟨.plain "bounded_integer", ⟨1, 2⟩⟩]⟩
  arguments := .list .parenthesis
    [.mark '-' false ⟨1, 18⟩, .mark '-' false ⟨1, 20⟩, .literal "9223372036854775808" ⟨1, 21⟩,
      .mark ',' false ⟨1, 40⟩, .literal "10" ⟨1, 42⟩] ⟨1, 17⟩ ⟨1, 44⟩

/-- What `leastNegated` is read as. -/
def leastNegatedDirective : Directive :=
  ⟨.boundedInteger, ⟨1, 2⟩, [⟨none, .integer true "-9223372036854775808" "", ⟨1, 20⟩⟩,
    ⟨none, .integer false "10" "", ⟨1, 42⟩⟩]⟩

/-- The arguments of `leastNegated` are evaluated, the first one with an overflow. -/
theorem leastNegated_evaluated : ofAttribute .boundedInteger leastNegated =
      .ok leastNegatedDirective ∧
    SpelledBy Evaluated leastNegatedDirective.arguments leastNegated.arguments := by
  have accepted : ofAttribute .boundedInteger leastNegated = .ok leastNegatedDirective := by
    decide +kernel
  exact ⟨accepted, evaluation_exact accepted⟩

/-- An attribute with a length after two minus signs: `#[bounded_text(- -5, 10)]`. -/
def doubleMinusLength : Attribute where
  position := ⟨1, 0⟩
  inner := false
  path := ⟨⟨1, 2⟩, false, [⟨.plain "bounded_text", ⟨1, 2⟩⟩]⟩
  arguments := .list .parenthesis
    [.mark '-' false ⟨1, 15⟩, .mark '-' false ⟨1, 17⟩, .literal "5" ⟨1, 18⟩,
      .mark ',' false ⟨1, 19⟩, .literal "10" ⟨1, 21⟩] ⟨1, 14⟩ ⟨1, 23⟩

/-- What `doubleMinusLength` is read as. -/
def doubleMinusLengthDirective : Directive :=
  ⟨.boundedText, ⟨1, 2⟩, [⟨none, .integer true "-5" "", ⟨1, 17⟩⟩,
    ⟨none, .integer false "10" "", ⟨1, 21⟩⟩]⟩

/-- An attribute that is read may have an argument whose sign overflows, and one may be refused as
a length although it writes one. -/
theorem not_evaluated_as_written :
    (ofAttribute .boundedInteger leastNegated = .ok leastNegatedDirective ∧
      ∃ x ∈ leastNegatedDirective.arguments, x.Overflows) ∧
    (ofAttribute .boundedText doubleMinusLength = .ok doubleMinusLengthDirective ∧
      writtenInteger? [.mark '-' false ⟨1, 15⟩, .mark '-' false ⟨1, 17⟩, .literal "5" ⟨1, 18⟩] =
        some 5 ∧
      doubleMinusLengthDirective.params =
        .error ⟨.invalidLiteral "min_length" .length, ⟨1, 17⟩⟩) := by
  have overflows : Argument.Overflows
      ⟨none, .integer true "-9223372036854775808" "", ⟨1, 20⟩⟩ :=
    ⟨true, _, _, Int64.minValue, rfl, by decide +kernel, by decide⟩
  have refused : doubleMinusLengthDirective.params =
      .error ⟨.invalidLiteral "min_length" .length, ⟨1, 17⟩⟩ := by decide +kernel
  exact ⟨⟨by decide +kernel, _, List.mem_cons_self, overflows⟩,
    by decide +kernel, by decide +kernel, refused⟩

end Directive
end DomainValues
