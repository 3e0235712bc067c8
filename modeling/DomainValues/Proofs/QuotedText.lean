import DomainValues.Source.LiteralValue
import DomainValues.Text.Quoted

/-!
# Text literals that are read back

A text is written as a literal character by character: each one as itself, as an escape, or as an
escape by code (`Text.escape`).  What a character is written as is read back as the character,
whatever follows (`unescape_escape`, with a case for each form), so a literal denotes the text that
it was written for.

Main statement: `Source.literalValue_literal`.
-/

namespace DomainValues.Source

open Text

/-! ## Codes -/

/-- A digit of base sixteen adds its value. -/
theorem codeValue_digitChar {d : Nat} (small : d < 16) (value : Nat) (rest : List Char) :
    codeValue value (Nat.digitChar d :: rest) = codeValue (16 * value + d) rest := by
  have digit : ∀ d < 16, Nat.digitChar d ≠ '\x7d' ∧ Nat.digitChar d ≠ '_' ∧
      hexValue (Nat.digitChar d) = d := by decide
  obtain ⟨notBrace, notLow, isValue⟩ := digit d small
  rw [codeValue, if_neg notBrace, if_neg notLow, isValue]

/-- The digits of a code are read as the code. -/
theorem codeValue_toDigits (n : Nat) (rest : List Char) :
    codeValue 0 (Nat.toDigits 16 n ++ rest) = codeValue n rest := by
  induction n using Nat.strongRecOn generalizing rest with
  | ind n ih =>
      by_cases small : n < 16
      · rw [Nat.toDigits_of_lt_base small, List.singleton_append, codeValue_digitChar small,
          Nat.mul_zero, Nat.zero_add]
      · have large : 16 ≤ n := Nat.le_of_not_lt small
        rw [Nat.toDigits_of_base_le (by decide) large, List.append_assoc, List.singleton_append,
          ih (n / 16) (Nat.div_lt_self (by omega) (by decide)),
          codeValue_digitChar (Nat.mod_lt n (by decide)), Nat.div_add_mod]

/-- A character that is written by its code is read back. -/
theorem unescape_codeEscape (fuel : Nat) (c : Char) (rest : List Char) :
    unescape (fuel + 1) (codeEscape c ++ rest) = c :: unescape fuel rest := by
  have code : codeValue 0 (Nat.toDigits 16 c.toNat ++ '\x7d' :: rest) = (c.toNat, rest) := by
    rw [codeValue_toDigits, codeValue, if_pos rfl]
  have read : unescape (fuel + 1)
      ('\\' :: 'u' :: '\x7b' :: (Nat.toDigits 16 c.toNat ++ '\x7d' :: rest)) =
        Char.ofNat c.toNat :: unescape fuel rest := by
    rw [unescape, code]
  rw [Char.ofNat_toNat] at read
  rw [codeEscape]
  simpa using read

/-! ## Characters -/

/-- A character without a meaning of its own between quotes is read as itself. -/
theorem unescape_self {c : Char} (notQuote : c ≠ '"') (notReturn : c ≠ '\r')
    (notBackslash : c ≠ '\\') (fuel : Nat) (rest : List Char) :
    unescape (fuel + 1) (c :: rest) = c :: unescape fuel rest := by
  rw [unescape]
  · exact notQuote
  · exact fun _ same _ => notReturn same
  · exact fun _ _ _ same _ => notBackslash same
  · exact fun _ same _ => notBackslash same
  · exact fun _ _ same _ => notBackslash same

/-- What a character is written as is read back as the character. -/
theorem unescape_escape (fuel : Nat) (c : Char) (rest : List Char) :
    unescape (fuel + 1) (escape c ++ rest) = c :: unescape fuel rest := by
  unfold escape
  split
  case h_1 => simp [unescape]
  case h_2 => simp [unescape]
  case h_3 => simp [unescape]
  case h_4 => simp [unescape]
  case h_5 => simp [unescape]
  case h_6 => simp [unescape]
  case h_7 notNull notTab notReturn notFeed notBackslash notQuote =>
    split
    case isTrue => exact unescape_self notQuote notReturn notBackslash fuel rest
    case isFalse => exact unescape_codeEscape fuel c rest

theorem escape_ne_nil (c : Char) : escape c ≠ [] := by
  unfold escape codeEscape
  (repeat' split) <;> simp

/-! ## Literals -/

/-- The characters between the quotes of a literal are read back, if the fuel is enough. -/
theorem unescape_literalBody {cs rest : List Char} {fuel : Nat}
    (enough : (literalBody cs).length < fuel) :
    unescape fuel (literalBody cs ++ '"' :: rest) = cs := by
  induction cs generalizing fuel with
  | nil =>
      obtain ⟨fuel, rfl⟩ := Nat.exists_eq_add_one_of_ne_zero (Nat.ne_of_gt enough)
      simp [literalBody, unescape]
  | cons c cs ih =>
      obtain ⟨fuel, rfl⟩ := Nat.exists_eq_add_one_of_ne_zero (by omega : fuel ≠ 0)
      rw [literalBody, List.length_append] at enough
      rw [literalBody, List.append_assoc]
      split at enough
      case isTrue null =>
        rw [if_pos null, null.1]
        simp only [List.length_cons, List.length_nil] at enough
        have tail : unescape fuel (literalBody cs ++ '"' :: rest) = cs := ih (by omega)
        simp [unescape, hexValue, isDigit, tail]
      case isFalse other =>
        have piece := List.length_pos_iff.2 (escape_ne_nil c)
        rw [if_neg other, unescape_escape, ih (by omega)]

/-- The literal of a text denotes the text. -/
theorem literalValue_literal (text : String) : literalValue (Text.literal text) = .text text := by
  have chars : (Text.literal text).toList = '"' :: (literalBody text.toList ++ ['"']) := by
    rw [Text.literal, String.toList_ofList, List.cons_append]
  have enough (body : List Char) : body.length < (body ++ ['"']).length + 1 := by
    rw [List.length_append]
    omega
  have inside : unescape _ (literalBody text.toList ++ ['"']) = text.toList :=
    unescape_literalBody (enough _)
  simp only [literalValue, chars, inside, String.ofList_toList]

end DomainValues.Source
