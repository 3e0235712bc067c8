import DomainValues.Proofs.Construction
import DomainValues.Proofs.NumberText
import DomainValues.Proofs.UuidText

/-!
# Values read back

A primitive is read from exactly its literals (`Params.read?_eq_some_iff`): the spellings of an
identifier, a text as it stands, and the numerals of a number with blanks around them.

A value is shown as its canonical text, as its scalar, as the document of that scalar, and as the
document that the serialization library writes.  Each of them is read back as the value.

The steps are two.  A primitive that meets the constraint is read from its text and from its
scalar (`Params.read?_format`, `Scalar.ofJson_toJson`), and what is read passes the checks again
and is stored unchanged (`Value.Built.ofPrimitive`).

Main statement: `Value.round_trip`.
-/

namespace DomainValues

/-! ## Literals of primitives -/

theorem ofInt_eq_iff {i : Int} {j : Int32} (least : Int32.minValue.toInt ≤ i)
    (greatest : i ≤ Int32.maxValue.toInt) : Int32.ofInt i = j ↔ i = j.toInt := by
  rw [← Int32.toInt_inj, Int32.toInt_ofInt_of_le least (Int.lt_of_le_of_lt greatest (by decide))]

namespace Params

/-- A text is a literal of a primitive.  Every text is a literal of itself, and blanks may stand
around a number. -/
def IsLiteral : (p : Params) → String → p.Primitive → Prop
  | .identifier, text, id => id.SpelledBy text.toList
  | .boundedText .., text, value => value = text
  | .boundedInteger .., text, i =>
      ∃ numeral, Text.Padded Text.Blank numeral text.toList ∧ SignedNumeral numeral i.toInt
  | .boundedReal .., text, x =>
      ∃ literal, Text.Padded Text.Blank literal text.toList ∧ RealLiteral literal x

/-- A primitive is read from exactly its literals. -/
theorem read?_eq_some_iff {p : Params} {text : String} {x : p.Primitive} :
    p.read? text = some x ↔ p.IsLiteral text x := by
  cases p with
  | identifier => exact Uuid.read?_eq_some_iff
  | boundedText => exact Option.some_inj.trans eq_comm
  | boundedInteger min max =>
      rw [IsLiteral, Text.exists_padded_iff SignedNumeral.no_blank, read?, Option.map_eq_some_iff]
      simp only [readInt?_eq_some_iff]
      constructor
      · rintro ⟨i, ⟨numeral, least, greatest⟩, same⟩
        rwa [← (ofInt_eq_iff least greatest).1 same]
      · intro numeral
        exact ⟨_, ⟨numeral, Int32.minValue_le_toInt x, Int32.toInt_le x⟩, Int32.ofInt_toInt x⟩
  | boundedReal min max =>
      rw [IsLiteral, Text.exists_padded_iff RealLiteral.no_blank]
      exact Binary64.read?_eq_some_iff

end Params

/-! ## Primitives -/

namespace Params

theorem isFinite_of_meets {min max x : Binary64} (h : Meets (.boundedReal min max) x) :
    x.isFinite = true := by
  obtain ⟨_, value, _, _, has, _⟩ := h
  exact Binary64.isFinite_iff.2 ⟨value, has⟩

/-- The canonical text of a primitive that meets the constraint is a literal of it. -/
theorem isLiteral_format {p : Params} {x : p.Primitive} (h : p.Meets x) :
    p.IsLiteral (p.format x) x := by
  cases p with
  | identifier => exact Uuid.spelledBy_text x
  | boundedText min max pattern => rfl
  | boundedInteger min max => exact ⟨_, Text.padded_self _, signedNumeral_toString x.toInt⟩
  | boundedReal min max =>
      exact ⟨_, Text.padded_self _, Binary64.realLiteral_text (isFinite_of_meets h)⟩

/-- A primitive that meets the constraint is read from its canonical text. -/
theorem read?_format {p : Params} {x : p.Primitive} (h : p.Meets x) :
    p.read? (p.format x) = some x :=
  read?_eq_some_iff.2 (isLiteral_format h)

end Params

namespace Scalar

/-- The scalar of a primitive that meets the constraint has a document, and is read from it. -/
theorem ofJson_toJson {p : Params} {x : p.Primitive} (h : p.Meets x) :
    ofJson (p.encode x).toJson = .ok (p.encode x) := by
  cases p with
  | identifier => rfl
  | boundedText min max pattern => rfl
  | boundedInteger min max =>
      have fits : Int64.minValue.toInt ≤ (Int64.ofInt x.toInt).toInt ∧
          (Int64.ofInt x.toInt).toInt ≤ Int64.maxValue.toInt :=
        ⟨Int64.minValue_le_toInt _, Int64.toInt_le _⟩
      rw [Params.encode, toJson, ofJson, Json.int64?, if_pos fits, Int64.ofInt_toInt]
      all_goals nofun
  | boundedReal min max =>
      rw [Params.encode, toJson, if_pos (Params.isFinite_of_meets h)]
      rfl

end Scalar

namespace Json

/-- A whole number of 32 bits is read from its document. -/
theorem readInt32_integer (i : Int32) : readInt32 (.integer i.toInt) = .ok i := by
  rw [readInt32, readWhole, if_pos ⟨i.minValue_le_toInt, i.toInt_le⟩]
  exact congrArg Except.ok (Int32.ofInt_toInt i)

end Json

theorem Constraint.narrowInteger_widened (name : String) {i min max : Int32}
    (h : min.toInt ≤ i.toInt ∧ i.toInt ≤ max.toInt) :
    narrowInteger name (Int64.ofInt i.toInt) min max = .ok i := by
  rw [← Int32.le_iff_toInt_le, ← Int32.le_iff_toInt_le] at h
  rw [narrowInteger, narrow?_widened, Option.filter, if_pos (by simpa using h)]

/-! ## Values -/

namespace Value

variable {t : ValueType} {v : Value t}

theorem Built.meets (valid : t.params.Valid) (built : v.Built) : t.params.Meets v.primitive := by
  obtain ⟨p, made⟩ := built.exists_primitive
  obtain ⟨meets, stores⟩ := (ofPrimitive_eq_ok_iff valid).1 made
  exact stores ▸ Params.meets_stored meets

/-- What a value stores passes the checks again and is stored unchanged. -/
theorem Built.ofPrimitive (valid : t.params.Valid) (built : v.Built) :
    Value.ofPrimitive t v.primitive = .ok v := by
  obtain ⟨p, made⟩ := built.exists_primitive
  obtain ⟨meets, stores⟩ := (ofPrimitive_eq_ok_iff valid).1 made
  have folded : t.params.NoNegativeZero v.primitive :=
    stores ▸ Params.noNegativeZero_stored _ p
  exact (ofPrimitive_eq_ok_iff valid).2
    ⟨built.meets valid, (Params.stored_of_noNegativeZero folded).symm⟩

/-- The two ways to make a value of a text differ only in the reason of a failure. -/
theorem ofText?_eq_toOption (t : ValueType) (text : String) :
    ofText? t text = (ofText t text).toOption := by
  obtain ⟨path, name, params⟩ := t
  cases params with
  | identifier =>
      rw [ofText?, ofText, Params.read?]
      cases Uuid.read? text <;> rfl
  | boundedText min max pattern =>
      have made : Value.ofPrimitive ⟨path, name, .boundedText min max pattern⟩ text =
          (Params.validateText name min max pattern text).map fun _ => ⟨text⟩ := by
        rw [Value.ofPrimitive, Params.check]
        cases Params.validateText name min max pattern text <;> rfl
      rw [ofText?, ofText, Params.read?]
      dsimp only
      rw [made]
      cases Params.validateText name min max pattern text <;> rfl
  | boundedInteger min max =>
      rw [ofText?, ofText]
      cases Params.read? (.boundedInteger min max) text with
      | none => rfl
      | some i =>
          dsimp only [Option.bind_some]
          cases Value.ofPrimitive ⟨path, name, .boundedInteger min max⟩ i <;> rfl
  | boundedReal min max =>
      rw [ofText?, ofText]
      cases Params.read? (.boundedReal min max) text with
      | none => rfl
      | some x =>
          dsimp only [Option.bind_some]
          cases Value.ofPrimitive ⟨path, name, .boundedReal min max⟩ x <;> rfl

section

variable (valid : t.params.Valid) (built : v.Built)
include valid built

/-- A value is read from its canonical text. -/
theorem ofText_format : ofText t v.format = .ok v := by
  rw [ofText, format, Params.read?_format (built.meets valid)]
  exact mapError_eq_ok_iff.2 (built.ofPrimitive valid)

/-- A value is read from its scalar.  Texts are read as above; a whole number is narrowed again. -/
theorem ofScalar_toScalar : ofScalar t v.toScalar = .ok v := by
  obtain ⟨path, name, params⟩ := t
  have made := built.ofPrimitive valid
  cases params with
  | identifier => exact bind_eq_ok_iff.2 ⟨v.format, rfl, ofText_format valid built⟩
  | boundedText min max pattern =>
      exact bind_eq_ok_iff.2 ⟨v.format, rfl, ofText_format valid built⟩
  | boundedInteger min max =>
      have narrowed := Constraint.narrowInteger_widened name (built.meets valid)
      refine bind_eq_ok_iff.2 ⟨Int64.ofInt v.primitive.toInt, rfl, ?_⟩
      exact bind_eq_ok_iff.2 ⟨v.primitive, mapError_eq_ok_iff.2 narrowed,
        mapError_eq_ok_iff.2 made⟩
  | boundedReal min max =>
      exact bind_eq_ok_iff.2 ⟨v.primitive, rfl, mapError_eq_ok_iff.2 made⟩

/-- A value is read from the document of its scalar. -/
theorem ofJson_toJson : ofJson t v.toJson = .ok v :=
  bind_eq_ok_iff.2
    ⟨v.toScalar, Scalar.ofJson_toJson (built.meets valid), ofScalar_toScalar valid built⟩

/-- The serialization library reads the value that it wrote. -/
theorem deserialize_serialize : deserialize t v.serialize = .ok v := by
  obtain ⟨path, name, params⟩ := t
  have made := built.ofPrimitive valid
  have meets := built.meets valid
  cases params with
  | identifier =>
      exact bind_eq_ok_iff.2 ⟨_, rfl, mapError_eq_ok_iff.2 (ofText_format valid built)⟩
  | boundedText min max pattern =>
      exact bind_eq_ok_iff.2 ⟨v.primitive, rfl, mapError_eq_ok_iff.2 made⟩
  | boundedInteger min max =>
      exact bind_eq_ok_iff.2
        ⟨v.primitive, Json.readInt32_integer v.primitive, mapError_eq_ok_iff.2 made⟩
  | boundedReal min max =>
      have finite : v.serialize = .real v.primitive := if_pos (Params.isFinite_of_meets meets)
      rw [finite]
      exact bind_eq_ok_iff.2 ⟨v.primitive, rfl, mapError_eq_ok_iff.2 made⟩

end

/-- For validated parameters, every value that can be built is read back from each of its forms:
the canonical text, the scalar, the two documents and the primitive. -/
theorem round_trip {t : ValueType} {d : Directive} (validated : d.params = .ok t.params)
    {v : Value t} (built : v.Built) :
    ofText? t v.format = some v ∧ ofText t v.format = .ok v ∧
      ofScalar t v.toScalar = .ok v ∧ ofJson t v.toJson = .ok v ∧
      deserialize t v.serialize = .ok v ∧ Value.ofPrimitive t v.primitive = .ok v := by
  have valid := Directive.valid_of_params validated
  have text := ofText_format valid built
  have parsed : ofText? t v.format = some v := by
    rw [ofText?_eq_toOption, text]
    rfl
  exact ⟨parsed, text, ofScalar_toScalar valid built, ofJson_toJson valid built,
    deserialize_serialize valid built, built.ofPrimitive valid⟩

/-- A whole number between minus five and five. -/
theorem small_number_round_trip :
    let t : ValueType := ⟨"Small", "Small", .boundedInteger (-5) 5⟩
    let v : Value t := ⟨(-3 : Int32)⟩
    v.format = "-3" ∧ ofText? t "-3" = some v ∧ ofJson t (.integer (-3)) = .ok v := by
  intro t v
  have built : v.Built := .primitive (p := (-3 : Int32)) rfl
  have forms := round_trip (t := t) (d := ⟨.boundedInteger, .start,
    [⟨none, .integer true "5" "", .start⟩, ⟨none, .integer false "5" "", .start⟩]⟩) rfl built
  exact ⟨rfl, forms.1, forms.2.2.2.1⟩

end Value
end DomainValues
