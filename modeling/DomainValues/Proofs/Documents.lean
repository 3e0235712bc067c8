import DomainValues.Proofs.Construction

/-!
# Two ways from documents and to them

A value is read from a document in two ways: an adapter makes a scalar of the document first, and
the serialization library reads a primitive.  Each way ends with a primitive that is checked, the
one that the scalar holds (`Params.ofScalar?`) or that the document holds (`Params.ofDocument?`).
The two are the same primitive (`Params.ofDocument?_eq`), although whole numbers pass through 64
bits in one way and not in the other.

Main statement: `Value.documents_agree`, both ways read the same values from the same documents, and
write the same documents.
-/

namespace DomainValues

/-! ## Numbers of documents -/

theorem Constraint.narrowInteger_eq_ok_iff {name : String} {wide : Int64} {min max n : Int32} :
    narrowInteger name wide min max = .ok n ↔ narrow? wide = some n ∧ min ≤ n ∧ n ≤ max := by
  unfold narrowInteger
  cases narrow? wide with
  | none => simp
  | some narrow =>
      by_cases within : min ≤ narrow ∧ narrow ≤ max
      · simp only [Option.filter, within, decide_true, Bool.and_self, if_true, Except.ok.injEq,
          Option.some.injEq]
        constructor
        · rintro rfl
          exact ⟨rfl, within⟩
        · exact And.left
      · have outside : (decide (min ≤ narrow) && decide (narrow ≤ max)) = false := by
          simpa using within
        simp only [Option.filter, outside, Bool.false_eq_true, if_false, reduceCtorEq, false_iff]
        rintro ⟨same, bounds⟩
        cases same
        exact within bounds

namespace Scalar

/-- A whole number within 64 bits is a whole number, and keeps its value. -/
theorem ofJson_of_fits {value : Int}
    (fits : Int64.minValue.toInt ≤ value ∧ value ≤ Int64.maxValue.toInt) :
    ofJson (.integer value) = .ok (.integer (Int64.ofInt value)) ∧
      (Int64.ofInt value).toInt = value := by
  constructor
  · rw [ofJson, Json.int64?, if_pos fits]
    all_goals nofun
  · exact Int64.toInt_ofInt_of_le fits.1 (Int.lt_add_one_of_le fits.2)

/-- A whole number beyond 64 bits is a real. -/
theorem ofJson_of_not_fits {value : Int}
    (beyond : ¬ (Int64.minValue.toInt ≤ value ∧ value ≤ Int64.maxValue.toInt)) :
    ofJson (.integer value) = .ok (.real (Binary64.ofInt value)) := by
  rw [ofJson, Json.int64?, if_neg beyond, Json.real?]
  all_goals nofun

/-- What is there is what is required. -/
theorem require_eq_ok_iff {s : Scalar} {expected : ScalarShape} {name : String} {α : Type}
    {found : Option α} {a : α} : s.require expected name found = .ok a ↔ found = some a := by
  cases found with
  | none => exact ⟨nofun, nofun⟩
  | some b =>
      exact ⟨fun h => congrArg some (Except.ok.inj h), fun h => congrArg _ (Option.some.inj h)⟩

end Scalar

/-! ## Primitives -/

namespace Params

/-- The primitive that a scalar holds, before it is checked. -/
def ofScalar? : (p : Params) → Scalar → Option p.Primitive
  | .identifier, s => s.asText?.bind Uuid.read?
  | .boundedText .., s => s.asText?
  | .boundedInteger .., s => s.asInteger?.bind Constraint.narrow?
  | .boundedReal .., s => s.asReal?

/-- The primitive that the serialization library reads from a document, before it is checked. -/
def ofDocument? : (p : Params) → Json → Option p.Primitive
  | .identifier, document => document.readText.toOption.bind Uuid.read?
  | .boundedText .., document => document.readText.toOption
  | .boundedInteger .., document => document.readInt32.toOption
  | .boundedReal .., document => document.readReal.toOption

theorem readText_eq (document : Json) :
    document.readText.toOption = (Scalar.ofJson document).toOption.bind Scalar.asText? := by
  cases document with
  | integer value =>
      by_cases fits : Int64.minValue.toInt ≤ value ∧ value ≤ Int64.maxValue.toInt
      · rw [(Scalar.ofJson_of_fits fits).1]
        rfl
      · rw [Scalar.ofJson_of_not_fits fits]
        rfl
  | null | bool _ | real _ | string _ | array _ | object _ => rfl

/-- Whole numbers of 32 bits are whole numbers of 64 bits that can be narrowed. -/
theorem readInt32_eq (document : Json) :
    document.readInt32.toOption =
      (Scalar.ofJson document).toOption.bind fun s => s.asInteger?.bind Constraint.narrow? := by
  cases document with
  | integer value =>
      by_cases fits : Int64.minValue.toInt ≤ value ∧ value ≤ Int64.maxValue.toInt
      · obtain ⟨scalar, kept⟩ := Scalar.ofJson_of_fits fits
        rw [scalar]
        change _ = Constraint.narrow? (Int64.ofInt value)
        rw [Constraint.narrow?, kept, Json.readInt32, Json.readWhole]
        split <;> rfl
      · have beyond : ¬ (Int32.minValue.toInt ≤ value ∧ value ≤ Int32.maxValue.toInt) := by
          intro narrow
          have least : Int64.minValue.toInt ≤ Int32.minValue.toInt := by decide
          have greatest : Int32.maxValue.toInt ≤ Int64.maxValue.toInt := by decide
          exact fits ⟨least.trans narrow.1, narrow.2.trans greatest⟩
        rw [Scalar.ofJson_of_not_fits fits, Json.readInt32, Json.readWhole, if_neg beyond]
        rfl
  | null | bool _ | real _ | string _ | array _ | object _ => rfl

/-- A whole number is rounded to the same real from its document and from 64 bits. -/
theorem readReal_eq (document : Json) :
    document.readReal.toOption = (Scalar.ofJson document).toOption.bind Scalar.asReal? := by
  cases document with
  | integer value =>
      by_cases fits : Int64.minValue.toInt ≤ value ∧ value ≤ Int64.maxValue.toInt
      · obtain ⟨scalar, kept⟩ := Scalar.ofJson_of_fits fits
        rw [scalar]
        change some (Binary64.ofInt value) = some (Binary64.ofInt (Int64.ofInt value).toInt)
        rw [kept]
      · rw [Scalar.ofJson_of_not_fits fits]
        rfl
  | null | bool _ | real _ | string _ | array _ | object _ => rfl

/-- A document holds the primitive that its scalar holds. -/
theorem ofDocument?_eq (p : Params) (document : Json) :
    p.ofDocument? document = (Scalar.ofJson document).toOption.bind p.ofScalar? := by
  cases p with
  | identifier =>
      rw [ofDocument?, readText_eq, Option.bind_assoc]
      rfl
  | boundedText min max pattern => exact readText_eq document
  | boundedInteger min max => exact readInt32_eq document
  | boundedReal min max => exact readReal_eq document

end Params

/-! ## Values -/

namespace Value

variable {t : ValueType} {v : Value t}

theorem ofText_eq_ok_iff {text : String} :
    ofText t text = .ok v ↔ ∃ x, t.params.read? text = some x ∧ ofPrimitive t x = .ok v := by
  unfold ofText
  cases t.params.read? text with
  | none => simp
  | some x => simp [mapError_eq_ok_iff]

/-- The bounds that a whole number is compared with before it is narrowed are those that the narrow
one is compared with. -/
theorem within_of_ofPrimitive {path name : String} {min max i : Int32}
    {v : Value ⟨path, name, .boundedInteger min max⟩}
    (made : ofPrimitive ⟨path, name, .boundedInteger min max⟩ i = .ok v) : min ≤ i ∧ i ≤ max := by
  obtain ⟨_, checked, -⟩ := map_eq_ok_iff.1 made
  obtain ⟨_, within, -⟩ := bind_eq_ok_iff.1 checked
  rw [Int32.le_iff_toInt_le, Int32.le_iff_toInt_le]
  exact Constraint.integer_eq_ok_iff.1 within

/-- A scalar gives the value of the primitive that it holds. -/
theorem ofScalar_eq_ok_iff {s : Scalar} :
    ofScalar t s = .ok v ↔ ∃ x, t.params.ofScalar? s = some x ∧ ofPrimitive t x = .ok v := by
  obtain ⟨path, name, params⟩ := t
  cases params with
  | identifier =>
      rw [ofScalar, bind_eq_ok_iff]
      simp only [Scalar.requireText, Scalar.require_eq_ok_iff, ofText_eq_ok_iff, Params.ofScalar?,
        Option.bind_eq_some_iff]
      constructor
      · rintro ⟨text, isText, id, read, made⟩
        exact ⟨id, ⟨text, isText, read⟩, made⟩
      · rintro ⟨id, ⟨text, isText, read⟩, made⟩
        exact ⟨text, isText, id, read, made⟩
  | boundedText min max pattern =>
      rw [ofScalar, bind_eq_ok_iff]
      simp only [Scalar.requireText, Scalar.require_eq_ok_iff, ofText_eq_ok_iff, Params.ofScalar?,
        Params.read?, Option.some.injEq, exists_eq_left']
  | boundedInteger min max =>
      rw [ofScalar, bind_eq_ok_iff]
      simp only [Scalar.requireInteger, Scalar.require_eq_ok_iff, Params.ofScalar?,
        Option.bind_eq_some_iff, bind_eq_ok_iff, mapError_eq_ok_iff,
        Constraint.narrowInteger_eq_ok_iff]
      constructor
      · rintro ⟨wide, isInteger, narrow, ⟨narrowed, -⟩, made⟩
        exact ⟨narrow, ⟨wide, isInteger, narrowed⟩, made⟩
      · rintro ⟨narrow, ⟨wide, isInteger, narrowed⟩, made⟩
        exact ⟨wide, isInteger, narrow, ⟨narrowed, within_of_ofPrimitive made⟩, made⟩
  | boundedReal min max =>
      rw [ofScalar, bind_eq_ok_iff]
      simp only [Scalar.requireReal, Scalar.require_eq_ok_iff, Params.ofScalar?,
        mapError_eq_ok_iff]

/-- The serialization library gives the value of the primitive that a document holds. -/
theorem deserialize_eq_ok_iff {document : Json} :
    deserialize t document = .ok v ↔
      ∃ x, t.params.ofDocument? document = some x ∧ ofPrimitive t x = .ok v := by
  obtain ⟨path, name, params⟩ := t
  cases params with
  | identifier =>
      rw [deserialize, bind_eq_ok_iff]
      simp only [mapError_eq_ok_iff, ofText_eq_ok_iff, Params.ofDocument?,
        Option.bind_eq_some_iff, toOption_eq_some_iff]
      constructor
      · rintro ⟨text, isText, id, read, made⟩
        exact ⟨id, ⟨text, isText, read⟩, made⟩
      · rintro ⟨id, ⟨text, isText, read⟩, made⟩
        exact ⟨text, isText, id, read, made⟩
  | boundedText | boundedInteger | boundedReal =>
      rw [deserialize, bind_eq_ok_iff]
      simp only [mapError_eq_ok_iff, Params.ofDocument?, toOption_eq_some_iff]

/-- An adapter gives the value of the primitive that the scalar of a document holds. -/
theorem ofJson_eq_ok_iff {document : Json} :
    ofJson t document = .ok v ↔
      ∃ x, (Scalar.ofJson document).toOption.bind t.params.ofScalar? = some x ∧
        ofPrimitive t x = .ok v := by
  rw [ofJson, bind_eq_ok_iff]
  simp only [ofScalar_eq_ok_iff, Option.bind_eq_some_iff, toOption_eq_some_iff]
  constructor
  · rintro ⟨s, scalar, x, holds, made⟩
    exact ⟨x, ⟨s, scalar, holds⟩, made⟩
  · rintro ⟨x, ⟨s, scalar, holds⟩, made⟩
    exact ⟨s, scalar, x, holds, made⟩

/-- Both ways write the same document. -/
theorem serialize_eq_toJson (v : Value t) : v.serialize = v.toJson := by
  obtain ⟨path, name, params⟩ := t
  obtain ⟨primitive⟩ := v
  cases params with
  | identifier => rfl
  | boundedText min max pattern => rfl
  | boundedInteger min max =>
      exact congrArg Json.integer (Constraint.toInt_widened primitive).symm
  | boundedReal min max => rfl

/-- For all parameters and all documents, the serialization library reads a value exactly if the
adapter of the type reads it, and both write the same document of every value. -/
theorem documents_agree (t : ValueType) :
    (∀ (document : Json) (v : Value t),
      deserialize t document = .ok v ↔ (ScalarAdapter.standard t).decodeJson document = .ok v) ∧
    ∀ v : Value t, v.serialize = (ScalarAdapter.standard t).encodeJson v := by
  refine ⟨fun document v => ?_, serialize_eq_toJson⟩
  change _ ↔ ofJson t document = .ok v
  rw [deserialize_eq_ok_iff, ofJson_eq_ok_iff, Params.ofDocument?_eq]

end Value
end DomainValues
