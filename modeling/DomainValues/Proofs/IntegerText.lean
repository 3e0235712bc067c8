import DomainValues.Proofs.Parsing

/-!
# The texts of whole numbers

A bounded integer is parsed from exactly the numerals of the whole numbers within its bounds, with
white space around them.  The white space is that of Unicode, of which the ASCII white space is a
part: where a text ends in other white space, a number is parsed that ASCII white space around its
numeral does not account for.

Main statement: `Value.integer_text_exact`.
-/

namespace DomainValues

namespace Text

/-- A character is ASCII white space: a space, a tab, or the end of a line or of a page. -/
def AsciiBlank (c : Char) : Prop := c ∈ [' ', '\t', '\n', '\x0c', '\r']

/-- A character is white space, but not of ASCII: the vertical tab, or beyond ASCII. -/
def WideBlank (c : Char) : Prop :=
  c.toNat ∈ [0x0B, 0x85, 0xA0, 0x1680, 0x2028, 0x2029, 0x202F, 0x205F, 0x3000] ∨
    0x2000 ≤ c.toNat ∧ c.toNat ≤ 0x200A

/-- A text is a whole number within bounds, with characters of some sort around it. -/
def IsNumberWithin (sort : Char → Prop) (min max : Int32) (text : String) (i : Int) : Prop :=
  ∃ numeral, Padded sort numeral text.toList ∧ SignedNumeral numeral i ∧
    min.toInt ≤ i ∧ i ≤ max.toInt

/-- Trimming a text takes nothing but ASCII white space away. -/
def TrimsAscii (text : String) : Prop := Padded AsciiBlank (trim text.toList) text.toList

theorem blank_iff_ascii_or_wide {c : Char} : Blank c ↔ AsciiBlank c ∨ WideBlank c := by
  rw [blank_iff]
  unfold AsciiBlank WideBlank
  simp [← Char.toNat_inj]
  omega

variable {min max : Int32} {text : String} {i : Int}

/-- The numerals between ASCII white space are those of the texts that end in no other. -/
theorem isNumberWithin_ascii_iff : IsNumberWithin AsciiBlank min max text i ↔
    IsNumberWithin Blank min max text i ∧ TrimsAscii text := by
  constructor
  · rintro ⟨numeral, padded, number, within⟩
    have wide : Padded Blank numeral text.toList :=
      padded.imp fun c ascii => blank_iff_ascii_or_wide.2 (.inl ascii)
    refine ⟨⟨numeral, wide, number, within⟩, ?_⟩
    rwa [TrimsAscii, (trim_eq_iff number.no_blank).2 wide]
  · rintro ⟨⟨numeral, padded, number, within⟩, trims⟩
    rw [TrimsAscii, (trim_eq_iff number.no_blank).2 padded] at trims
    exact ⟨numeral, trims, number, within⟩

end Text

namespace Value

variable {path name : String} {min max : Int32} {text : String}

theorem ofPrimitive_integer_eq_ok_iff {i : Int32}
    {v : Value ⟨path, name, .boundedInteger min max⟩} :
    ofPrimitive _ i = .ok v ↔ i = v.primitive ∧ min.toInt ≤ i.toInt ∧ i.toInt ≤ max.toInt := by
  rw [ofPrimitive, map_eq_ok_iff]
  constructor
  · rintro ⟨j, checked, rfl⟩
    obtain ⟨_, within, same⟩ := bind_eq_ok_iff.1 checked
    exact ⟨Except.ok.inj same, Constraint.integer_eq_ok_iff.1 within⟩
  · rintro ⟨rfl, within⟩
    exact ⟨_, bind_eq_ok_iff.2 ⟨(), Constraint.integer_eq_ok_iff.2 within, rfl⟩, rfl⟩

/-- A number is parsed exactly from its numerals between blanks. -/
theorem ofText?_integer_eq_some_iff {v : Value ⟨path, name, .boundedInteger min max⟩} :
    ofText? _ text = some v ↔
      Text.IsNumberWithin Text.Blank min max text (Int32.toInt v.primitive) := by
  rw [ofText?, Option.bind_eq_some_iff]
  constructor
  · rintro ⟨i, read, made⟩
    obtain ⟨numeral, padded, number⟩ := Params.read?_eq_some_iff.1 read
    obtain ⟨rfl, within⟩ := ofPrimitive_integer_eq_ok_iff.1 (toOption_eq_some_iff.1 made)
    exact ⟨numeral, padded, number, within⟩
  · rintro ⟨numeral, padded, number, within⟩
    exact ⟨v.primitive, Params.read?_eq_some_iff.2 ⟨numeral, padded, number⟩,
      toOption_eq_some_iff.2 (ofPrimitive_integer_eq_ok_iff.2 ⟨rfl, within⟩)⟩

theorem ofText?_integer_eq_none_iff :
    ofText? ⟨path, name, .boundedInteger min max⟩ text = none ↔
      ∀ i, ¬Text.IsNumberWithin Text.Blank min max text i := by
  rw [Option.eq_none_iff_forall_ne_some]
  constructor
  · rintro none i ⟨numeral, padded, number, least, greatest⟩
    -- What lies within the bounds is a number of 32 bits.
    have same : i = (Int32.ofInt i).toInt :=
      (ofInt_eq_iff ((Int32.minValue_le_toInt min).trans least)
        (greatest.trans (Int32.toInt_le max))).1 rfl
    refine none ⟨Int32.ofInt i⟩ (ofText?_integer_eq_some_iff.2 ?_)
    exact ⟨numeral, padded, same ▸ number, same ▸ least, same ▸ greatest⟩
  · intro none v parsed
    exact none _ (ofText?_integer_eq_some_iff.1 parsed)

/-- A text is parsed as a bounded integer exactly if it is a whole number within the bounds with
blanks around it.  For a text from which a number is parsed, ASCII white space accounts for the
blanks exactly if trimming takes no other character away. -/
theorem integer_text_exact (path name : String) (min max : Int32) (text : String) :
    (∀ v : Value ⟨path, name, .boundedInteger min max⟩, ofText? _ text = some v ↔
      Text.IsNumberWithin Text.Blank min max text (Int32.toInt v.primitive)) ∧
    (ofText? ⟨path, name, .boundedInteger min max⟩ text = none ↔
      ∀ i, ¬Text.IsNumberWithin Text.Blank min max text i) ∧
    ((∀ v : Value ⟨path, name, .boundedInteger min max⟩, ofText? _ text = some v ↔
        Text.IsNumberWithin Text.AsciiBlank min max text (Int32.toInt v.primitive)) ↔
      (ofText? ⟨path, name, .boundedInteger min max⟩ text ≠ none → Text.TrimsAscii text)) ∧
    ∀ c, Text.Blank c ↔ Text.AsciiBlank c ∨ Text.WideBlank c := by
  refine ⟨fun v => ofText?_integer_eq_some_iff, ofText?_integer_eq_none_iff, ⟨?_, ?_⟩,
    fun c => Text.blank_iff_ascii_or_wide⟩
  · intro claimed parsed
    obtain ⟨v, made⟩ := Option.ne_none_iff_exists'.1 parsed
    exact (Text.isNumberWithin_ascii_iff.1 ((claimed v).1 made)).2
  · intro trims v
    rw [Text.isNumberWithin_ascii_iff, ← ofText?_integer_eq_some_iff]
    exact ⟨fun made => ⟨made, trims (by simp [made])⟩, And.left⟩

/-- A no-break space before a number is skipped, and is no ASCII white space. -/
theorem noBreakSpace_skipped :
    let t : ValueType := ⟨"domain::Amount", "Amount", .boundedInteger 0 100000⟩
    let v : Value t := ⟨(42 : Int32)⟩
    ofText? t "\u00a042" = some v ∧
      ¬Text.IsNumberWithin Text.AsciiBlank 0 100000 "\u00a042" (Int32.toInt v.primitive) := by
  intro t v
  have numeral : SignedNumeral ['4', '2'] 42 := .unsigned ⟨by simp, by simp [isDigit]⟩
  have padded : Text.Padded Text.Blank ['4', '2'] "\u00a042".toList :=
    ⟨['\u00a0'], [], by decide, by simp [Text.blank_iff], by simp⟩
  constructor
  · exact ofText?_integer_eq_some_iff.2 ⟨_, padded, numeral, by decide, by decide⟩
  · intro ascii
    have trims := (Text.isNumberWithin_ascii_iff.1 ascii).2
    rw [Text.TrimsAscii, (Text.trim_eq_iff numeral.no_blank).2 padded] at trims
    obtain ⟨before, after, same, front, -⟩ := trims
    change ['\u00a0', '4', '2'] = _ at same
    cases before with
    | nil => exact absurd (List.cons.inj same).1 (by decide)
    | cons c rest =>
        obtain rfl := (List.cons.inj same).1
        exact absurd (front '\u00a0' List.mem_cons_self) (by simp [Text.AsciiBlank])

end Value
end DomainValues
