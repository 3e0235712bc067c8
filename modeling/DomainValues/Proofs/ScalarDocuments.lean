import DomainValues.Proofs.Documents
import DomainValues.Proofs.Rounding

/-!
# The scalars of documents

A string holds a text and a number holds a whole number or a real (`Json.Holds`).  A whole number
stays whole as far as 64 bits with sign go, and is rounded beyond (`Binary64.IsRoundingOf`); a real
stays a real, whatever its value.  All other documents are refused by the word for what they are
(`Json.NotScalar`).

Three readers meet this: reading a document, taking it apart, and trying the shapes one after the
other.  The last one depends on the order of the shapes, since a document of a whole number would
also do for a real.

Main statement: `Scalar.scalar_paths_agree`, the three readers answer alike, the two writers write
the same document, and it is read back exactly if the scalar has a document.
-/

namespace DomainValues

/-! ## Whole numbers -/

theorem int64_fits_iff {value : Int} :
    (Int64.minValue.toInt ≤ value ∧ value ≤ Int64.maxValue.toInt) ↔
      ∃ i : Int64, i.toInt = value := by
  constructor
  · intro fits
    exact ⟨Int64.ofInt value, (Scalar.ofJson_of_fits fits).2⟩
  · rintro ⟨i, rfl⟩
    exact ⟨i.minValue_le_toInt, i.toInt_le⟩

namespace Binary64

/-- A number is what a whole number is rounded to: the sign, and the magnitude that is nearest. -/
def IsRoundingOf (x : Binary64) (n : Int) : Prop :=
  ∃ m : Nat, IsNearest m ((n.natAbs : ℚ) * unitsInOne) ∧ x = ofMagnitude (decide (n < 0)) m

/-- Every whole number is rounded to one number. -/
theorem isRoundingOf_iff {x : Binary64} {n : Int} : x.IsRoundingOf n ↔ x = ofInt n := by
  have nearest : IsNearest (magnitudeNear (n.natAbs * unitsInOne) 1)
      ((n.natAbs : ℚ) * unitsInOne) := by
    have quotient := isNearest_magnitudeNear (n := n.natAbs * unitsInOne) Nat.one_pos
    rw [Nat.cast_one, div_one, Nat.cast_mul] at quotient
    exact quotient
  constructor
  · rintro ⟨m, isNearest, rfl⟩
    rw [isNearest.unique nearest]
    rfl
  · intro same
    exact ⟨_, nearest, same⟩

end Binary64

/-! ## What documents hold -/

namespace Json

/-- The scalar that a document holds. -/
inductive Holds : Json → Scalar → Prop where
  /-- A string holds its text. -/
  | string (value : String) : Holds (.string value) (.text value)
  /-- A whole number that fits 64 bits with sign stays whole. -/
  | integer (value : Int64) : Holds (.integer value.toInt) (.integer value)
  /-- Another whole number is rounded to a real. -/
  | wide {value : Int} {x : Binary64} :
      (∀ i : Int64, i.toInt ≠ value) → x.IsRoundingOf value → Holds (.integer value) (.real x)
  /-- A real stays a real, even if its value is whole. -/
  | real (value : Binary64) : Holds (.real value) (.real value)

/-- A document that holds no scalar, and the word for what it is. -/
inductive NotScalar : Json → String → Prop where
  | null : NotScalar .null "null"
  | bool (value : Bool) : NotScalar (.bool value) "a boolean"
  | array (items : List Json) : NotScalar (.array items) "an array"
  | object (members : List (String × Json)) : NotScalar (.object members) "an object"

theorem holds_or_notScalar (document : Json) :
    (∃ s, document.Holds s) ∨ ∃ word, document.NotScalar word := by
  cases document with
  | null => exact .inr ⟨_, .null⟩
  | bool value => exact .inr ⟨_, .bool value⟩
  | integer value =>
      refine .inl ?_
      by_cases fits : ∃ i : Int64, i.toInt = value
      · obtain ⟨i, rfl⟩ := fits
        exact ⟨_, .integer i⟩
      · exact ⟨_, .wide (not_exists.1 fits) (Binary64.isRoundingOf_iff.2 rfl)⟩
  | real value => exact .inl ⟨_, .real value⟩
  | string value => exact .inl ⟨_, .string value⟩
  | array items => exact .inr ⟨_, .array items⟩
  | object members => exact .inr ⟨_, .object members⟩

end Json

/-! ## Reading -/

namespace Scalar

variable {document : Json} {s : Scalar} {word : String}

theorem ofJson_of_holds (holds : document.Holds s) : ofJson document = .ok s := by
  cases holds with
  | string value => rfl
  | integer value =>
      rw [(ofJson_of_fits (int64_fits_iff.2 ⟨value, rfl⟩)).1, Int64.ofInt_toInt]
  | wide beyond rounded =>
      rw [Binary64.isRoundingOf_iff.1 rounded]
      exact ofJson_of_not_fits fun fits => not_exists.2 beyond (int64_fits_iff.1 fits)
  | real value => rfl

theorem ofJson_of_notScalar (refused : document.NotScalar word) :
    ofJson document = .error (.notAScalar word) := by
  cases refused <;> rfl

/-- To take a document apart is to read it. -/
theorem takeJson_eq_ofJson (document : Json) : takeJson document = ofJson document := by
  cases document <;> rfl

/-- The first shape is that of whole numbers, so a whole number that fits is not taken for a
real. -/
theorem deserialize_of_holds (holds : document.Holds s) : deserialize document = .ok s := by
  cases holds with
  | string value => rfl
  | integer value =>
      have taken : ScalarShape.integer.read (.integer value.toInt) = .ok (.integer value) := by
        simp only [ScalarShape.read, Json.readInt64, Json.readWhole,
          if_pos (int64_fits_iff.2 ⟨value, rfl⟩), Except.map, Int64.ofInt_toInt]
      simp only [deserialize, ScalarShape.all, List.findSome?_cons, taken]
      rfl
  | @wide value x beyond rounded =>
      have outside := mt int64_fits_iff.1 (not_exists.2 beyond)
      have left : (ScalarShape.integer.read (.integer value)).toOption = none := by
        simp only [ScalarShape.read, Json.readInt64, Json.readWhole, if_neg outside]
        rfl
      rw [Binary64.isRoundingOf_iff.1 rounded]
      simp only [deserialize, ScalarShape.all, List.findSome?_cons, left]
      rfl
  | real value => rfl

theorem deserialize_of_notScalar (refused : document.NotScalar word) :
    deserialize document = .error .noShape := by
  cases refused <;> rfl

end Scalar

/-- The readers of scalars answer a document alike. -/
inductive Json.ReadAlike (document : Json) : Prop where
  /-- All give the scalar that the document holds. -/
  | given (s : Scalar) (holds : document.Holds s) (read : Scalar.ofJson document = .ok s)
      (taken : Scalar.takeJson document = .ok s) (tried : Scalar.deserialize document = .ok s)
  /-- All fail, two of them with the word for what the document is. -/
  | refused (word : String) (isNone : document.NotScalar word)
      (read : Scalar.ofJson document = .error (.notAScalar word))
      (taken : Scalar.takeJson document = .error (.notAScalar word))
      (tried : Scalar.deserialize document = .error .noShape)

theorem Json.readAlike (document : Json) : document.ReadAlike := by
  rcases document.holds_or_notScalar with ⟨s, holds⟩ | ⟨word, isNone⟩
  · have read := Scalar.ofJson_of_holds holds
    exact .given s holds read ((Scalar.takeJson_eq_ofJson document).trans read)
      (Scalar.deserialize_of_holds holds)
  · have read := Scalar.ofJson_of_notScalar isNone
    exact .refused word isNone read ((Scalar.takeJson_eq_ofJson document).trans read)
      (Scalar.deserialize_of_notScalar isNone)

/-! ## Writing -/

namespace Scalar

/-- A scalar is a real that is not finite. -/
def NotFinite (s : Scalar) : Prop := ∃ x, s = .real x ∧ x.isFinite = false

/-- Every other scalar has a document, which holds it. -/
theorem holds_toJson {s : Scalar} (finite : ¬s.NotFinite) : s.toJson.Holds s := by
  cases s with
  | integer value => exact .integer value
  | real value =>
      have isFinite : value.isFinite = true := by
        by_contra infinite
        exact finite ⟨value, rfl, Bool.eq_false_of_not_eq_true infinite⟩
      rw [toJson, if_pos isFinite]
      exact .real value
  | text value => exact .string value

theorem toJson_of_notFinite {s : Scalar} (infinite : s.NotFinite) : s.toJson = .null := by
  obtain ⟨x, rfl, isInfinite⟩ := infinite
  simp only [toJson, isInfinite, Bool.false_eq_true, if_false]

/-- Documents become scalars alike in all ways, and scalars become documents alike.  A scalar is
read back from its document, unless it is a real that is not finite, which becomes `null` and is
refused. -/
theorem scalar_paths_agree :
    (∀ document : Json, document.ReadAlike) ∧
    (∀ s : Scalar, s.serialize = s.toJson) ∧
    (∀ s : Scalar, ofJson s.toJson = .ok s ↔ ¬s.NotFinite) ∧
    ∀ s : Scalar, s.NotFinite →
      s.toJson = .null ∧ ofJson s.toJson = .error (.notAScalar "null") := by
  have refused : ∀ s : Scalar, s.NotFinite →
      s.toJson = .null ∧ ofJson s.toJson = .error (.notAScalar "null") := by
    intro s infinite
    rw [toJson_of_notFinite infinite]
    exact ⟨rfl, rfl⟩
  refine ⟨Json.readAlike, ?_, ?_, refused⟩
  · intro s
    cases s <;> rfl
  · intro s
    constructor
    · intro read infinite
      rw [(refused s infinite).2] at read
      cases read
    · intro finite
      exact ofJson_of_holds (holds_toJson finite)

end Scalar
end DomainValues
