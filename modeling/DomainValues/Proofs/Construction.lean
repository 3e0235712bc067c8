import DomainValues.Proofs.Validation
import DomainValues.Registry
import DomainValues.Serialization

/-!
# Which values can be built

A primitive meets the constraint of some parameters if it lies within the bounds and, of a text
with a pattern, some part of it matches (`Params.Meets`).  What is stored for a primitive is the
primitive itself, with the negative zero folded into the positive one (`Params.stored`).

A value is built from a primitive, a text, a scalar or a document, or by a registry whose adapters
build values (`Value.Built`).

Main statements, for validated parameters:

* `Value.ofPrimitive_eq_ok_iff`: a value is made from exactly the primitives that meet the
  constraint.
* `Value.construction_exact`: exactly the values that store such a primitive can be built.
-/

namespace DomainValues

/-! ## Constraints -/

/-- Some part of a text matches a pattern. -/
def Pattern.Matches (source text : String) : Prop :=
  ∃ compiled, Pattern.compile source = .ok compiled ∧ compiled.isMatch text = true

namespace Params

/-- A primitive meets the constraint that the parameters state.  A real lies between the bounds by
its value, which only a finite one has. -/
def Meets : (p : Params) → p.Primitive → Prop
  | .identifier, _ => True
  | .boundedText min max pattern, text =>
      min.toNat ≤ text.length ∧ text.length ≤ max.toNat ∧
        ∀ source ∈ pattern, Pattern.Matches source text
  | .boundedInteger min max, i => min.toInt ≤ i.toInt ∧ i.toInt ≤ max.toInt
  | .boundedReal min max, x => ∃ low value high, min.value? = some low ∧ x.value? = some value ∧
      max.value? = some high ∧ low ≤ value ∧ value ≤ high

/-- What is stored for a primitive. -/
def stored : (p : Params) → p.Primitive → p.Primitive
  | .identifier, id => id
  | .boundedText .., text => text
  | .boundedInteger .., i => i
  | .boundedReal .., x => x.withoutNegativeZero

/-- A primitive is not the negative zero. -/
def NoNegativeZero : (p : Params) → p.Primitive → Prop
  | .boundedReal .., x => x ≠ Binary64.negativeZero
  | _, _ => True

end Params

namespace Constraint

variable {name : String}

theorem length_eq_ok_iff {text : String} {min max : UInt64} :
    length name text min max = .ok () ↔ min.toNat ≤ text.length ∧ text.length ≤ max.toNat := by
  unfold length
  dsimp only
  split
  case isTrue within => exact ⟨fun _ => within, fun _ => rfl⟩
  case isFalse outside => exact ⟨nofun, fun within => absurd within outside⟩

theorem toInt_widened (i : Int32) : (Int64.ofInt i.toInt).toInt = i.toInt := by
  have least := i.le_toInt
  have greatest := i.toInt_lt
  exact Int64.toInt_ofInt_of_le (by omega) (by omega)

/-- A number that was widened is narrowed to itself. -/
theorem narrow?_widened (i : Int32) : narrow? (Int64.ofInt i.toInt) = some i := by
  rw [narrow?, toInt_widened, if_pos ⟨i.minValue_le_toInt, i.toInt_le⟩, Int32.ofInt_toInt]

theorem integer_eq_ok_iff {i min max : Int32} :
    integer name i min max = .ok () ↔ min.toInt ≤ i.toInt ∧ i.toInt ≤ max.toInt := by
  rw [← Int32.le_iff_toInt_le, ← Int32.le_iff_toInt_le]
  unfold integer narrowInteger
  rw [narrow?_widened]
  by_cases within : min ≤ i ∧ i ≤ max
  · simp [Option.filter, within, Except.map]
  · rw [Option.filter, if_neg (by simpa using within)]
    exact ⟨nofun, fun h => absurd h within⟩

theorem real_eq_ok_iff {x min max : Binary64} {low high : ℚ} (hmin : min.value? = some low)
    (hmax : max.value? = some high) :
    real name x min max = .ok () ↔ ∃ value, x.value? = some value ∧ low ≤ value ∧ value ≤ high := by
  unfold real
  cases finite : x.isFinite with
  | false =>
      constructor
      · nofun
      · rintro ⟨value, has, -⟩
        rw [Binary64.isFinite_iff.2 ⟨value, has⟩] at finite
        cases finite
  | true =>
      obtain ⟨value, has⟩ := Binary64.isFinite_iff.1 finite
      have bounds : (Binary64.le min x && Binary64.le x max) = true ↔
          low ≤ value ∧ value ≤ high := by
        rw [Bool.and_eq_true, Binary64.le_iff hmin has, Binary64.le_iff has hmax]
      simp only [Bool.not_true, Bool.false_eq_true, if_false, has, Option.some.injEq,
        exists_eq_left', ← bounds]
      split
      case isTrue within => exact ⟨fun _ => within, fun _ => rfl⟩
      case isFalse outside => exact ⟨nofun, fun within => absurd within outside⟩

end Constraint

namespace Params

variable {name : String}

theorem matchPattern_eq_ok_iff {source text : String} :
    matchPattern name source text = .ok () ↔ Pattern.Matches source text := by
  unfold matchPattern Pattern.Matches
  cases compiled : Pattern.compile source with
  | error e => exact ⟨nofun, fun ⟨_, failed, _⟩ => nomatch failed⟩
  | ok pattern =>
      dsimp only
      split
      case isTrue found => exact ⟨fun _ => ⟨pattern, rfl, found⟩, fun _ => rfl⟩
      case isFalse notFound =>
        constructor
        · nofun
        · rintro ⟨_, same, found⟩
          obtain rfl := Except.ok.inj same
          exact absurd found notFound

theorem validateText_eq_ok_iff {min max : UInt64} {pattern : Option String} {text : String} :
    validateText name min max pattern text = .ok () ↔
      Meets (.boundedText min max pattern) text := by
  have meets : Meets (.boundedText min max pattern) text ↔
      Constraint.length name text min max = .ok () ∧
        ∀ source ∈ pattern, Pattern.Matches source text := by
    rw [Constraint.length_eq_ok_iff, and_assoc]
    rfl
  rw [meets]
  cases pattern with
  | none =>
      rw [validateText, bind_eq_ok_iff]
      exact ⟨fun ⟨_, within, _⟩ => ⟨within, nofun⟩, fun ⟨within, _⟩ => ⟨(), within, rfl⟩⟩
  | some source =>
      rw [validateText, bind_eq_ok_iff]
      constructor
      · rintro ⟨_, within, found⟩
        refine ⟨within, ?_⟩
        rintro _ ⟨⟩
        exact matchPattern_eq_ok_iff.1 found
      · rintro ⟨within, found⟩
        exact ⟨(), within, matchPattern_eq_ok_iff.2 (found source rfl)⟩

/-- The check of valid parameters lets through what meets the constraint, and stores it. -/
theorem check_eq_ok_iff {p : Params} (valid : p.Valid) {x y : p.Primitive} :
    p.check name x = .ok y ↔ p.Meets x ∧ y = p.stored x := by
  cases p with
  | identifier => exact ⟨fun h => ⟨trivial, (Except.ok.inj h).symm⟩, fun h => congrArg _ h.2.symm⟩
  | boundedText min max pattern =>
      rw [← validateText_eq_ok_iff, check, bind_eq_ok_iff]
      exact ⟨fun ⟨_, within, same⟩ => ⟨within, (Except.ok.inj same).symm⟩,
        fun ⟨within, same⟩ => ⟨(), within, congrArg _ same.symm⟩⟩
  | boundedInteger min max =>
      rw [check, bind_eq_ok_iff]
      exact ⟨fun ⟨_, within, same⟩ =>
          ⟨Constraint.integer_eq_ok_iff.1 within, (Except.ok.inj same).symm⟩,
        fun ⟨within, same⟩ => ⟨(), Constraint.integer_eq_ok_iff.2 within, congrArg _ same.symm⟩⟩
  | boundedReal min max =>
      obtain ⟨low, high, hmin, hmax, -⟩ := valid
      rw [check, bind_eq_ok_iff]
      constructor
      · rintro ⟨_, within, same⟩
        obtain ⟨value, has, atLeast, atMost⟩ := (Constraint.real_eq_ok_iff hmin hmax).1 within
        exact ⟨⟨low, value, high, hmin, has, hmax, atLeast, atMost⟩, (Except.ok.inj same).symm⟩
      · rintro ⟨⟨low', value, high', hmin', has, hmax', atLeast, atMost⟩, same⟩
        refine ⟨(), ?_, congrArg _ same.symm⟩
        exact (Constraint.real_eq_ok_iff hmin' hmax').2 ⟨value, has, atLeast, atMost⟩

theorem meets_stored {p : Params} {x : p.Primitive} (h : p.Meets x) : p.Meets (p.stored x) := by
  cases p with
  | identifier => exact h
  | boundedText min max pattern => exact h
  | boundedInteger min max => exact h
  | boundedReal min max =>
      obtain ⟨low, value, high, hmin, has, rest⟩ := h
      exact ⟨low, value, high, hmin, (Binary64.value?_withoutNegativeZero x).trans has, rest⟩

theorem noNegativeZero_stored (p : Params) (x : p.Primitive) : p.NoNegativeZero (p.stored x) := by
  cases p with
  | identifier => trivial
  | boundedText min max pattern => trivial
  | boundedInteger min max => trivial
  | boundedReal min max => exact Binary64.withoutNegativeZero_ne x

theorem stored_of_noNegativeZero {p : Params} {x : p.Primitive} (h : p.NoNegativeZero x) :
    p.stored x = x := by
  cases p with
  | identifier => rfl
  | boundedText min max pattern => rfl
  | boundedInteger min max => rfl
  | boundedReal min max => exact Binary64.withoutNegativeZero_of_ne h

end Params

/-! ## Routes -/

namespace Value

/-- A value is made from exactly the primitives that meet the constraint. -/
theorem ofPrimitive_eq_ok_iff {t : ValueType} (valid : t.params.Valid) {p : t.params.Primitive}
    {v : Value t} :
    ofPrimitive t p = .ok v ↔ t.params.Meets p ∧ v.primitive = t.params.stored p := by
  rw [ofPrimitive, map_eq_ok_iff]
  constructor
  · rintro ⟨x, checked, rfl⟩
    exact (Params.check_eq_ok_iff valid).1 checked
  · intro meets
    exact ⟨v.primitive, (Params.check_eq_ok_iff valid).2 meets, rfl⟩

/-- A value that some route builds. -/
inductive Built : {t : ValueType} → Value t → Prop where
  /-- From a primitive. -/
  | primitive {t : ValueType} {v : Value t} {p : t.params.Primitive} :
      ofPrimitive t p = .ok v → Built v
  /-- From a text. -/
  | text {t : ValueType} {v : Value t} {text : String} : ofText t text = .ok v → Built v
  /-- From a text, where a failure has no reason. -/
  | parsed {t : ValueType} {v : Value t} {text : String} : ofText? t text = some v → Built v
  /-- From a scalar. -/
  | scalar {t : ValueType} {v : Value t} {s : Scalar} : ofScalar t s = .ok v → Built v
  /-- From a document, as a scalar. -/
  | document {t : ValueType} {v : Value t} {document : Json} :
      ofJson t document = .ok v → Built v
  /-- From a document, by the serialization library. -/
  | deserialized {t : ValueType} {v : Value t} {document : Json} :
      deserialize t document = .ok v → Built v
  /-- From nothing. -/
  | nil {t : ValueType} {v : Value t} : nil? t = some v → Built v
  /-- From a scalar, by a registry whose adapters build values. -/
  | registered {t : ValueType} {v : Value t} {r : Registry ValueType} {s : Scalar} :
      (∀ a ∈ r.entries, ∀ (s' : Scalar) (w : Value a.type), a.decode s' = .ok w → Built w) →
        r.decode t s = .ok v → Built v
  /-- From a document, by such a registry. -/
  | registeredDocument {t : ValueType} {v : Value t} {r : Registry ValueType}
      {document : Json} :
      (∀ a ∈ r.entries, ∀ (s' : Scalar) (w : Value a.type), a.decode s' = .ok w → Built w) →
        r.decodeJson t document = .ok v → Built v

section

variable {t : ValueType} {v : Value t}

theorem exists_primitive_of_text {text : String} (h : ofText t text = .ok v) :
    ∃ p, ofPrimitive t p = .ok v := by
  unfold ofText at h
  split at h
  · cases h
  · exact ⟨_, mapError_eq_ok_iff.1 h⟩

theorem exists_primitive_of_parsed {text : String} (h : ofText? t text = some v) :
    ∃ p, ofPrimitive t p = .ok v := by
  obtain ⟨path, name, params⟩ := t
  cases params with
  | identifier =>
      obtain ⟨id, -, rfl⟩ := Option.map_eq_some_iff.1 h
      exact ⟨id, rfl⟩
  | boundedText min max pattern =>
      obtain ⟨_, valid, rfl⟩ := Option.map_eq_some_iff.1 h
      refine ⟨text, ?_⟩
      rw [ofPrimitive, Params.check, toOption_eq_some_iff.1 valid]
      rfl
  | boundedInteger min max =>
      obtain ⟨i, -, made⟩ := Option.bind_eq_some_iff.1 h
      exact ⟨i, toOption_eq_some_iff.1 made⟩
  | boundedReal min max =>
      obtain ⟨x, -, made⟩ := Option.bind_eq_some_iff.1 h
      exact ⟨x, toOption_eq_some_iff.1 made⟩

theorem exists_primitive_of_scalar {s : Scalar} (h : ofScalar t s = .ok v) :
    ∃ p, ofPrimitive t p = .ok v := by
  obtain ⟨path, name, params⟩ := t
  cases params with
  | identifier =>
      obtain ⟨text, -, made⟩ := bind_eq_ok_iff.1 h
      exact exists_primitive_of_text made
  | boundedText min max pattern =>
      obtain ⟨text, -, made⟩ := bind_eq_ok_iff.1 h
      exact exists_primitive_of_text made
  | boundedInteger min max =>
      obtain ⟨wide, -, made⟩ := bind_eq_ok_iff.1 h
      obtain ⟨narrow, -, made⟩ := bind_eq_ok_iff.1 made
      exact ⟨narrow, mapError_eq_ok_iff.1 made⟩
  | boundedReal min max =>
      obtain ⟨x, -, made⟩ := bind_eq_ok_iff.1 h
      exact ⟨x, mapError_eq_ok_iff.1 made⟩

theorem exists_primitive_of_document {document : Json} (h : ofJson t document = .ok v) :
    ∃ p, ofPrimitive t p = .ok v := by
  obtain ⟨s, -, made⟩ := bind_eq_ok_iff.1 h
  exact exists_primitive_of_scalar made

theorem exists_primitive_of_deserialized {document : Json} (h : deserialize t document = .ok v) :
    ∃ p, ofPrimitive t p = .ok v := by
  obtain ⟨path, name, params⟩ := t
  cases params with
  | identifier =>
      obtain ⟨text, -, made⟩ := bind_eq_ok_iff.1 h
      exact exists_primitive_of_text (mapError_eq_ok_iff.1 made)
  | boundedText min max pattern =>
      obtain ⟨text, -, made⟩ := bind_eq_ok_iff.1 h
      exact ⟨text, mapError_eq_ok_iff.1 made⟩
  | boundedInteger min max =>
      obtain ⟨i, -, made⟩ := bind_eq_ok_iff.1 h
      exact ⟨i, mapError_eq_ok_iff.1 made⟩
  | boundedReal min max =>
      obtain ⟨x, -, made⟩ := bind_eq_ok_iff.1 h
      exact ⟨x, mapError_eq_ok_iff.1 made⟩

theorem exists_primitive_of_nil (h : nil? t = some v) : ∃ p, ofPrimitive t p = .ok v := by
  obtain ⟨path, name, params⟩ := t
  cases params with
  | identifier =>
      obtain rfl := Option.some.inj h
      exact ⟨Uuid.nil, rfl⟩
  | boundedText min max pattern => cases h
  | boundedInteger min max => cases h
  | boundedReal min max => cases h

/-- What a registry decodes, one of its adapters decodes. -/
theorem exists_adapter_of_decode {r : Registry ValueType} {s : Scalar}
    (h : r.decode t s = .ok v) :
    ∃ a ∈ r.entries, ∃ (same : a.type = t) (w : Value a.type),
      a.decode s = .ok w ∧ same ▸ w = v := by
  obtain ⟨⟨a, same⟩, found, decoded⟩ := bind_eq_ok_iff.1 h
  obtain ⟨index, -, entry⟩ := Registry.adapterOf_eq_ok_iff.1 found
  refine ⟨a, List.mem_of_getElem? entry, same, ?_⟩
  subst same
  exact ⟨v, mapError_eq_ok_iff.1 decoded, rfl⟩

/-- Every route ends with a primitive that is checked. -/
theorem Built.exists_primitive (h : v.Built) : ∃ p, ofPrimitive t p = .ok v := by
  induction h with
  | primitive made => exact ⟨_, made⟩
  | text made => exact exists_primitive_of_text made
  | parsed made => exact exists_primitive_of_parsed made
  | scalar made => exact exists_primitive_of_scalar made
  | document made => exact exists_primitive_of_document made
  | deserialized made => exact exists_primitive_of_deserialized made
  | nil made => exact exists_primitive_of_nil made
  | registered _ made ih =>
      obtain ⟨a, registered, rfl, w, decoded, rfl⟩ := exists_adapter_of_decode made
      exact ih a registered _ w decoded
  | registeredDocument _ made ih =>
      obtain ⟨s, -, made⟩ := bind_eq_ok_iff.1 made
      obtain ⟨a, registered, rfl, w, decoded, rfl⟩ := exists_adapter_of_decode made
      exact ih a registered s w decoded

end

/-- For validated parameters, a value is made from exactly the primitives that meet the
constraint, and exactly the values that store such a primitive can be built. -/
theorem construction_exact {t : ValueType} {d : Directive} (validated : d.params = .ok t.params) :
    (∀ (p : t.params.Primitive) (v : Value t),
      ofPrimitive t p = .ok v ↔ t.params.Meets p ∧ v.primitive = t.params.stored p) ∧
    ∀ v : Value t, v.Built ↔ t.params.Meets v.primitive ∧ t.params.NoNegativeZero v.primitive := by
  have valid := Directive.valid_of_params validated
  refine ⟨fun p v => ofPrimitive_eq_ok_iff valid, fun v => ?_⟩
  constructor
  · intro built
    obtain ⟨p, made⟩ := built.exists_primitive
    obtain ⟨meets, stores⟩ := (ofPrimitive_eq_ok_iff valid).1 made
    rw [stores]
    exact ⟨Params.meets_stored meets, Params.noNegativeZero_stored _ p⟩
  · rintro ⟨meets, notNegativeZero⟩
    refine .primitive ((ofPrimitive_eq_ok_iff valid).2 ⟨meets, ?_⟩)
    exact (Params.stored_of_noNegativeZero notNegativeZero).symm

/-- Between two negative zeros lies one value, the positive zero. -/
theorem zero_construction :
    let t : ValueType := ⟨"Zero", "Zero", .boundedReal Binary64.negativeZero Binary64.negativeZero⟩
    ofPrimitive t Binary64.negativeZero = .ok ⟨Binary64.zero⟩ ∧
      ¬ Built (t := t) ⟨Binary64.negativeZero⟩ := by
  intro t
  have exact := construction_exact (t := t) (d := ⟨.boundedReal, .start,
    [⟨none, .real true "0" "", .start⟩, ⟨none, .real true "0" "", .start⟩]⟩) rfl
  constructor
  · exact (exact.1 _ _).2 ⟨⟨_, _, _, rfl, rfl, rfl, le_rfl, le_rfl⟩, rfl⟩
  · intro built
    exact ((exact.2 _).1 built).2 rfl

end Value
end DomainValues
