import DomainValues.Proofs.IntegerText
import DomainValues.Proofs.ScalarDocuments

/-!
# What adapters answer to documents

The adapter of a type sorts documents before it looks at values.  A document that holds no scalar
is refused for that, and a scalar of a shape that the kind does not take (`Kind.Takes`) is refused
with the shape that was expected and the shape that was found.

What is left depends on the kind.  A text is parsed.  A whole number of 64 bits is compared with the
bounds as it stands, and narrowed only then, so that a refused one is reported as it was and none is
cut to 32 bits.  A number for a real is rounded (`Json.HasReal`) and checked as any other real.

Main statement: `Value.decoding_exact`.
-/

namespace DomainValues

/-! ## Shapes -/

/-- The shape of the scalars that the values of a kind are written as. -/
def Kind.scalarShape : Kind → ScalarShape
  | .identifier => .text
  | .boundedText => .text
  | .boundedInteger => .integer
  | .boundedReal => .real

/-- A kind takes the scalars of its shape; reals may also be written as whole numbers. -/
def Kind.Takes (k : Kind) (found : ScalarShape) : Prop :=
  found = k.scalarShape ∨ k = .boundedReal ∧ found = .integer

/-- A document is a number with a value as a real. -/
inductive Json.HasReal : Json → Binary64 → Prop where
  /-- A whole number is rounded. -/
  | integer {n : Int} {x : Binary64} : x.IsRoundingOf n → HasReal (.integer n) x
  /-- A real has its own value. -/
  | real (x : Binary64) : HasReal (.real x) x

/-- The scalar of a number has the value of the number. -/
theorem Json.HasReal.exists_holds {document : Json} {x : Binary64} (has : document.HasReal x) :
    ∃ s, document.Holds s ∧ s.asReal? = some x := by
  cases has with
  | @integer n x rounded =>
      by_cases fits : ∃ i : Int64, i.toInt = n
      · obtain ⟨i, rfl⟩ := fits
        rw [Binary64.isRoundingOf_iff.1 rounded]
        exact ⟨_, .integer i, rfl⟩
      · exact ⟨_, .wide (not_exists.1 fits) rounded, rfl⟩
  | real x => exact ⟨_, .real x, rfl⟩

/-! ## Narrowing -/

namespace Constraint

variable {name : String} {wide : Int64} {min max : Int32}

theorem narrow?_eq_some_iff {n : Int32} : narrow? wide = some n ↔ n.toInt = wide.toInt := by
  unfold narrow?
  split
  case isTrue fits => rw [Option.some.injEq, ofInt_eq_iff fits.1 fits.2, eq_comm]
  case isFalse beyond =>
    constructor
    · intro same
      cases same
    · intro same
      exact absurd ⟨same ▸ n.minValue_le_toInt, same ▸ n.toInt_le⟩ beyond

/-- What lies within the bounds is narrowed and keeps its value. -/
theorem exists_narrowInteger (within : min.toInt ≤ wide.toInt ∧ wide.toInt ≤ max.toInt) :
    ∃ n, narrowInteger name wide min max = .ok n ∧ n.toInt = wide.toInt := by
  have least := Int32.minValue_le_toInt min
  have greatest := Int32.toInt_le max
  have same := (ofInt_eq_iff (least.trans within.1) (within.2.trans greatest)).1 rfl
  refine ⟨Int32.ofInt wide.toInt, narrowInteger_eq_ok_iff.2 ⟨?_, ?_, ?_⟩, same.symm⟩
  · exact narrow?_eq_some_iff.2 same.symm
  · rw [Int32.le_iff_toInt_le, ← same]
    exact within.1
  · rw [Int32.le_iff_toInt_le, ← same]
    exact within.2

/-- What lies outside the bounds is refused as it stands, whether or not it fits 32 bits. -/
theorem narrowInteger_of_outside (outside : ¬(min.toInt ≤ wide.toInt ∧ wide.toInt ≤ max.toInt)) :
    narrowInteger name wide min max = .error ⟨name, .integerRange wide min max⟩ := by
  have refused : ((narrow? wide).filter fun n => decide (min ≤ n) && decide (n ≤ max)) = none := by
    rw [Option.filter_eq_none_iff]
    intro n narrowed
    rw [← narrow?_eq_some_iff.1 narrowed, ← Int32.le_iff_toInt_le, ← Int32.le_iff_toInt_le]
      at outside
    simpa using outside
  rw [narrowInteger, refused]

example : narrowInteger "Score" 2147483648 Int32.minValue Int32.maxValue =
    .error ⟨"Score", .integerRange 2147483648 Int32.minValue Int32.maxValue⟩ := by decide

end Constraint

/-! ## Decoding scalars -/

namespace Value

/-- A scalar of another shape is refused for its shape. -/
theorem ofScalar_of_not_takes {t : ValueType} {s : Scalar} (other : ¬t.kind.Takes s.shape) :
    ofScalar t s = .error (.unexpectedScalar t.name t.kind.scalarShape s.shape) := by
  obtain ⟨path, name, params⟩ := t
  cases params with
  | identifier | boundedText =>
      cases s with
      | integer | real => rfl
      | text => exact absurd (.inl rfl) other
  | boundedInteger =>
      cases s with
      | integer => exact absurd (.inl rfl) other
      | real | text => rfl
  | boundedReal =>
      cases s with
      | integer => exact absurd (.inr ⟨rfl, rfl⟩) other
      | real => exact absurd (.inl rfl) other
      | text => rfl

variable {path name : String}

theorem ofScalar_integer_of_within {min max : Int32} {i : Int64}
    (within : min.toInt ≤ i.toInt ∧ i.toInt ≤ max.toInt) :
    ∃ v : Value ⟨path, name, .boundedInteger min max⟩,
      ofScalar _ (.integer i) = .ok v ∧ Int32.toInt v.primitive = i.toInt := by
  obtain ⟨n, narrowed, same⟩ := Constraint.exists_narrowInteger within
  rw [← same] at within
  -- What was narrowed passes the second check, which compares with the same bounds.
  have made : ofPrimitive ⟨path, name, .boundedInteger min max⟩ n = .ok ⟨n⟩ :=
    ofPrimitive_integer_eq_ok_iff.2 ⟨rfl, within⟩
  refine ⟨⟨n⟩, ?_, same⟩
  rw [ofScalar, bind_eq_ok_iff]
  refine ⟨i, rfl, ?_⟩
  rw [bind_eq_ok_iff]
  exact ⟨n, mapError_eq_ok_iff.2 narrowed, mapError_eq_ok_iff.2 made⟩

theorem ofScalar_integer_of_outside {min max : Int32} {i : Int64}
    (outside : ¬(min.toInt ≤ i.toInt ∧ i.toInt ≤ max.toInt)) :
    ofScalar ⟨path, name, .boundedInteger min max⟩ (.integer i) =
      .error (.violation ⟨name, .integerRange i min max⟩) := by
  have refused : Constraint.narrowInteger name i min max = .error ⟨name, .integerRange i min max⟩ :=
    Constraint.narrowInteger_of_outside outside
  simp only [ofScalar, Scalar.requireInteger, Scalar.require, Scalar.asInteger?, bind, Except.bind,
    refused, Except.mapError]

theorem ofScalar_real {min max : Binary64} {s : Scalar} {x : Binary64}
    (has : s.asReal? = some x) :
    ofScalar ⟨path, name, .boundedReal min max⟩ s =
      (ofPrimitive ⟨path, name, .boundedReal min max⟩ x).mapError .violation := by
  simp only [ofScalar, Scalar.requireReal, Scalar.require, has, bind, Except.bind]

end Value

/-! ## Decoding documents -/

namespace ValueType

/-- What the adapter of a type answers to a document. -/
def answer (t : ValueType) (document : Json) : Except DecodeError (Value t) :=
  (ScalarAdapter.standard t).decodeJson document

/-- Documents are sorted by the scalars that they hold. -/
structure SortsDocuments (t : ValueType) : Prop where
  /-- What holds no scalar is refused by the word for what it is. -/
  notScalar : ∀ (document : Json) (word : String), document.NotScalar word →
    t.answer document = .error (.notAScalar word)
  /-- A scalar of a shape that the kind does not take is refused for its shape. -/
  unexpected : ∀ (document : Json) (s : Scalar), document.Holds s → ¬t.kind.Takes s.shape →
    t.answer document = .error (.unexpectedScalar t.name t.kind.scalarShape s.shape)

/-- Values are decoded from texts. -/
structure DecodesTexts (t : ValueType) : Prop where
  /-- A string is parsed. -/
  string : ∀ text : String, t.answer (.string text) = Value.ofText t text
  /-- A number is refused, by the shape of its scalar. -/
  number : ∀ (document : Json) (x : Binary64), document.HasReal x → ∃ s, document.Holds s ∧
    s.shape ≠ .text ∧ t.answer document = .error (.unexpectedScalar t.name .text s.shape)

/-- Values are decoded from whole numbers between two bounds. -/
structure DecodesWhole (path name : String) (min max : Int32) : Prop where
  /-- A string is no whole number. -/
  string : ∀ text : String, answer ⟨path, name, .boundedInteger min max⟩ (.string text) =
    .error (.unexpectedScalar name .integer .text)
  /-- A real is none either, even if its value is whole. -/
  real : ∀ x : Binary64, answer ⟨path, name, .boundedInteger min max⟩ (.real x) =
    .error (.unexpectedScalar name .integer .real)
  /-- A whole number that does not fit 64 bits with sign counts as a real. -/
  wide : ∀ n : Int, (∀ i : Int64, i.toInt ≠ n) →
    answer ⟨path, name, .boundedInteger min max⟩ (.integer n) =
      .error (.unexpectedScalar name .integer .real)
  /-- A whole number within the bounds keeps its value. -/
  within : ∀ i : Int64, min.toInt ≤ i.toInt ∧ i.toInt ≤ max.toInt →
    ∃ v, answer ⟨path, name, .boundedInteger min max⟩ (.integer i.toInt) = .ok v ∧
      Int32.toInt v.primitive = i.toInt
  /-- Another one is refused as it stands. -/
  outside : ∀ i : Int64, ¬(min.toInt ≤ i.toInt ∧ i.toInt ≤ max.toInt) →
    answer ⟨path, name, .boundedInteger min max⟩ (.integer i.toInt) =
      .error (.violation ⟨name, .integerRange i min max⟩)

/-- Values are decoded from reals between two bounds. -/
structure DecodesReals (path name : String) (min max : Binary64) : Prop where
  /-- A string is no real. -/
  string : ∀ text : String, answer ⟨path, name, .boundedReal min max⟩ (.string text) =
    .error (.unexpectedScalar name .real .text)
  /-- A number gives what is made of its value. -/
  number : ∀ (document : Json) (x : Binary64), document.HasReal x →
    answer ⟨path, name, .boundedReal min max⟩ document =
      (Value.ofPrimitive ⟨path, name, .boundedReal min max⟩ x).mapError .violation

variable {t : ValueType} {document : Json} {s : Scalar}

theorem answer_of_holds (holds : document.Holds s) : t.answer document = Value.ofScalar t s := by
  rw [answer, ScalarAdapter.decodeJson, Scalar.ofJson_of_holds holds]
  rfl

theorem answer_of_not_takes (holds : document.Holds s) (other : ¬t.kind.Takes s.shape) :
    t.answer document = .error (.unexpectedScalar t.name t.kind.scalarShape s.shape) := by
  rw [answer_of_holds holds, Value.ofScalar_of_not_takes other]

theorem sortsDocuments (t : ValueType) : t.SortsDocuments := by
  constructor
  · intro document word isNone
    rw [answer, ScalarAdapter.decodeJson, Scalar.ofJson_of_notScalar isNone]
    rfl
  · intro document s holds other
    exact answer_of_not_takes holds other

theorem decodesTexts (textual : t.kind.IsTextual) : t.DecodesTexts := by
  have shape : t.kind.scalarShape = .text := by
    rcases textual with kind | kind <;> rw [kind] <;> rfl
  constructor
  · intro text
    rw [answer_of_holds (.string text)]
    obtain ⟨path, name, params⟩ := t
    cases params with
    | identifier | boundedText => rfl
    | boundedInteger | boundedReal => cases shape
  · intro document x has
    obtain ⟨s, holds, value⟩ := has.exists_holds
    have number : s.shape ≠ .text := by
      intro isText
      cases s with
      | integer i => cases isText
      | real y => cases isText
      | text text => cases value
    have other : ¬t.kind.Takes s.shape := by
      rintro (same | ⟨real, -⟩)
      · exact number (same.trans shape)
      · rw [real] at shape
        cases shape
    refine ⟨s, holds, number, ?_⟩
    rw [answer_of_not_takes holds other, shape]

theorem decodesWhole (path name : String) (min max : Int32) : DecodesWhole path name min max where
  string text := answer_of_holds (.string text)
  real x := answer_of_holds (.real x)
  wide n beyond := answer_of_holds (.wide beyond (Binary64.isRoundingOf_iff.2 rfl))
  within i inside := by
    rw [answer_of_holds (.integer i)]
    exact Value.ofScalar_integer_of_within inside
  outside i outside := by
    rw [answer_of_holds (.integer i)]
    exact Value.ofScalar_integer_of_outside outside

theorem decodesReals (path name : String) (min max : Binary64) :
    DecodesReals path name min max where
  string text := answer_of_holds (.string text)
  number document x has := by
    obtain ⟨s, holds, value⟩ := has.exists_holds
    rw [answer_of_holds holds, Value.ofScalar_real value]

end ValueType

/-- Every document holds a scalar or is refused.  What the adapter of a type answers to it depends
on the scalar and on the kind of the type, and a whole number is never cut. -/
theorem Value.decoding_exact :
    (∀ document : Json, (∃ s, document.Holds s) ∨ ∃ word, document.NotScalar word) ∧
    (∀ t : ValueType, t.SortsDocuments) ∧
    (∀ t : ValueType, t.kind.IsTextual → t.DecodesTexts) ∧
    (∀ (path name : String) (min max : Int32), ValueType.DecodesWhole path name min max) ∧
    ∀ (path name : String) (min max : Binary64), ValueType.DecodesReals path name min max :=
  ⟨Json.holds_or_notScalar, ValueType.sortsDocuments, fun _ => ValueType.decodesTexts,
    ValueType.decodesWhole, ValueType.decodesReals⟩

end DomainValues
