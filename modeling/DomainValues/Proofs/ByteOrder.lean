import Mathlib.Data.String.Basic

/-!
# The order of texts by their bytes

Texts are compared by their characters.  Comparing the bytes of their UTF-8 encodings gives the
same order: of two characters, the lower one has the lower encoding, and none is a prefix of the
other's (`Text.utf8EncodeChar_append_lt`).

Main statement: `Text.bytes_lt`.
-/

namespace DomainValues.Text

/-- The bytes of the UTF-8 encoding of a text. -/
def bytes (text : String) : List UInt8 := text.toByteArray.data.toList

theorem bytes_eq (text : String) : bytes text = text.toList.flatMap String.utf8EncodeChar := by
  rw [bytes, ← String.ofList_toList (s := text), String.toByteArray_ofList, List.utf8Encode,
    List.toList_data_toByteArray, String.toList_ofList]

/-- The bits of a byte after the first, six at a time. -/
theorem sextets (v : Nat) : v / 4096 = v / 64 / 64 ∧ v / 262144 = v / 64 / 64 / 64 := by
  omega

/-- The encodings of different characters differ in some byte, and the lower character has the
lower byte there. -/
theorem utf8EncodeChar_append_lt {c d : Char} (lower : c < d) (s t : List UInt8) :
    String.utf8EncodeChar c ++ s < String.utf8EncodeChar d ++ t := by
  have less : c.val.toNat < d.val.toNat := lower
  have bounded : d.val.toNat < 0x110000 := by
    rcases d.valid with low | high
    · exact Nat.lt_trans low (by decide)
    · exact high.2
  unfold String.utf8EncodeChar
  generalize c.val.toNat = v at *
  generalize d.val.toNat = w at *
  dsimp only
  -- One to four bytes each.  A longer encoding starts with a higher byte; of two of one length the
  -- bytes are the digits of the characters to the base of sixty-four.
  repeat' split
  all_goals
    simp only [List.cons_append, List.nil_append, List.cons_lt_cons_iff, UInt8.lt_iff_toNat_lt,
      ← UInt8.toNat_inj, UInt8.toNat_ofNat', (sextets _).1, (sextets _).2]
    omega

theorem flatMap_utf8EncodeChar_lt {s t : List Char} (less : s < t) :
    s.flatMap String.utf8EncodeChar < t.flatMap String.utf8EncodeChar := by
  rw [← List.lex_lt] at less
  induction less with
  | @nil d rest =>
      obtain ⟨byte, more, encoded⟩ :=
        List.exists_cons_of_ne_nil (String.utf8EncodeChar_ne_nil (c := d))
      rw [List.flatMap_nil, List.flatMap_cons, encoded, List.cons_append]
      exact List.nil_lt_cons byte _
  | cons tails ih =>
      rw [List.flatMap_cons, List.flatMap_cons]
      exact List.append_left_lt ih
  | rel lower => exact utf8EncodeChar_append_lt lower _ _

/-- The lower of two texts has the lower bytes. -/
theorem bytes_lt {s t : String} (less : s < t) : bytes s < bytes t := by
  rw [bytes_eq, bytes_eq]
  exact flatMap_utf8EncodeChar_lt (String.lt_iff_toList_lt.1 less)

end DomainValues.Text
