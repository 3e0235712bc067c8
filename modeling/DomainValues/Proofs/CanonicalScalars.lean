import DomainValues.Proofs.Decoding
import DomainValues.Proofs.Registering

/-!
# Canonical scalars

Many scalars may stand for one value: an identifier has several spellings, a real may be written
as a whole number, and a negative zero counts as a zero.  One of them is canonical, the one that the
value is written as.

Whoever knows only the name of a type has a scalar brought into this form, and a document likewise.
The name leads to the adapter that the type leads to, since a registry holds one adapter for each
(`Registry.Coherent.standard_mem`); so this is to decode by the type and to write the value again.
It keeps the value, and what is canonical stays as it is.

Main statement: `Registry.canonical_by_name`, for the registries of generated types.
-/

namespace DomainValues

/-- A value type whose parameters are given by a directive. -/
def ValueType.IsGenerated (t : ValueType) : Prop := ∃ d : Directive, d.params = .ok t.params

/-! ## Values -/

namespace Value

variable {t : ValueType} {s s' : Scalar} {v w : Value t} {document : Json}

/-- A value is written as a scalar of the shape of its kind. -/
theorem shape_toScalar (v : Value t) : v.toScalar.shape = t.kind.scalarShape := by
  obtain ⟨path, name, params⟩ := t
  cases params <;> rfl

section

variable (generated : t.IsGenerated)
include generated

/-- The scalar that a decoded value is written as is decoded as the same value. -/
theorem ofScalar_canonical (decoded : ofScalar t s = .ok v) : ofScalar t v.toScalar = .ok v := by
  obtain ⟨d, params⟩ := generated
  exact ofScalar_toScalar (Directive.valid_of_params params) (.scalar decoded)

/-- Decoded values are told apart by the scalars that they are written as. -/
theorem toScalar_inj (decoded : ofScalar t s = .ok v) (decoded' : ofScalar t s' = .ok w) :
    v.toScalar = w.toScalar ↔ v = w := by
  constructor
  · intro same
    have again := ofScalar_canonical generated decoded
    rw [same, ofScalar_canonical generated decoded'] at again
    exact (Except.ok.inj again).symm
  · intro same
    rw [same]

/-- The scalar of a decoded value has a document, and is read from it. -/
theorem scalar_ofJson_toJson (decoded : ofScalar t s = .ok v) :
    Scalar.ofJson v.toJson = .ok v.toScalar := by
  obtain ⟨d, params⟩ := generated
  have built : v.Built := .scalar decoded
  exact Scalar.ofJson_toJson (built.meets (Directive.valid_of_params params))

end
end Value

/-! ## Registries of generated types -/

namespace Registry

/-- All adapters are standard ones, of generated types. -/
def OfGenerated (r : Registry ValueType) : Prop :=
  ∀ a ∈ r.entries, ∃ t : ValueType, t.IsGenerated ∧ a = .standard t

/-- Scalars and documents are brought into canonical form by the name of a type. -/
structure Canonicalizes (r : Registry ValueType) (t : ValueType) : Prop where
  /-- To do so is to decode by the type, and to write the value again. -/
  decodes : ∀ s, r.decodeByName t.name s = r.decode t s >>= fun v => r.encode v
  /-- The canonical form is decoded as the same value. -/
  keeps : ∀ s v, r.decode t s = .ok v →
    ∃ c, r.decodeByName t.name s = .ok c ∧ r.decode t c = .ok v
  /-- The canonical form is its own. -/
  idempotent : ∀ s c, r.decodeByName t.name s = .ok c → r.decodeByName t.name c = .ok c
  /-- Scalars have the same canonical form exactly if they are decoded as the same value. -/
  same : ∀ s s' v v', r.decode t s = .ok v → r.decode t s' = .ok v' →
    (r.decodeByName t.name s = r.decodeByName t.name s' ↔ v = v')
  /-- The canonical form has the shape of the kind. -/
  shape : ∀ s c, r.decodeByName t.name s = .ok c → c.shape = t.kind.scalarShape
  /-- The canonical form of a document is its own. -/
  idempotentJson : ∀ document c, r.validateJson t.name document = .ok c →
    r.validateJson t.name c = .ok c
  /-- The canonical form of a document is not `null`. -/
  notNull : ∀ document c, r.validateJson t.name document = .ok c → c ≠ .null

variable {r : Registry ValueType} {t : ValueType}

/-- A type that has an adapter has the standard one. -/
theorem Coherent.standard_mem (coherent : r.Coherent) (ofGenerated : r.OfGenerated)
    (registered : r.containsType t = true) :
    t.IsGenerated ∧ ScalarAdapter.standard t ∈ r.entries := by
  obtain ⟨a, listed, rfl⟩ := List.mem_map.1 (coherent.containsType_iff.1 registered)
  obtain ⟨t, generated, rfl⟩ := ofGenerated a listed
  exact ⟨generated, listed⟩

section

variable (coherent : r.Coherent) (listed : ScalarAdapter.standard t ∈ r.entries)
include coherent listed

theorem Coherent.decode_standard (s : Scalar) :
    r.decode t s = (Value.ofScalar t s).mapError .decode := by
  have found : r.adapterOf t = .ok ⟨.standard t, rfl⟩ := coherent.adapterOf_of_mem listed
  rw [decode, found]
  rfl

theorem Coherent.encode_standard (v : Value t) : r.encode v = .ok v.toScalar := by
  have found : r.adapterOf t = .ok ⟨.standard t, rfl⟩ := coherent.adapterOf_of_mem listed
  rw [encode, found]
  rfl

theorem Coherent.decodeByName_standard (s : Scalar) :
    r.decodeByName t.name s = ((Value.ofScalar t s).map Value.toScalar).mapError .decode := by
  have found : r.find? t.name = .ok (some (.standard t)) := coherent.find?_of_mem listed
  rw [decodeByName, found]
  rfl

theorem Coherent.decode_eq_ok_iff {s : Scalar} {v : Value t} :
    r.decode t s = .ok v ↔ Value.ofScalar t s = .ok v := by
  rw [coherent.decode_standard listed]
  exact mapError_eq_ok_iff

theorem Coherent.decodeByName_eq_ok_iff {s c : Scalar} :
    r.decodeByName t.name s = .ok c ↔ ∃ v, Value.ofScalar t s = .ok v ∧ v.toScalar = c := by
  rw [coherent.decodeByName_standard listed, mapError_eq_ok_iff, map_eq_ok_iff]

theorem Coherent.validateJson_eq_ok_iff {document c : Json} :
    r.validateJson t.name document = .ok c ↔
      ∃ s v, Scalar.ofJson document = .ok s ∧ Value.ofScalar t s = .ok v ∧ v.toJson = c := by
  rw [validateJson, bind_eq_ok_iff]
  simp only [scalarOf, mapError_eq_ok_iff, map_eq_ok_iff, coherent.decodeByName_eq_ok_iff listed]
  constructor
  · rintro ⟨s, read, _, ⟨v, decoded, rfl⟩, rfl⟩
    exact ⟨s, v, read, decoded, rfl⟩
  · rintro ⟨s, v, read, decoded, rfl⟩
    exact ⟨s, read, _, ⟨v, decoded, rfl⟩, rfl⟩

/-- The standard adapter of a generated type makes canonical what it decodes. -/
theorem Coherent.canonicalizes (generated : t.IsGenerated) : r.Canonicalizes t where
  decodes s := by
    rw [coherent.decodeByName_standard listed, coherent.decode_standard listed]
    cases Value.ofScalar t s with
    | error e => rfl
    | ok v => exact (coherent.encode_standard listed v).symm
  keeps s v decoded := by
    have made := (coherent.decode_eq_ok_iff listed).1 decoded
    exact ⟨v.toScalar, (coherent.decodeByName_eq_ok_iff listed).2 ⟨v, made, rfl⟩,
      (coherent.decode_eq_ok_iff listed).2 (Value.ofScalar_canonical generated made)⟩
  idempotent s c canonical := by
    obtain ⟨v, decoded, rfl⟩ := (coherent.decodeByName_eq_ok_iff listed).1 canonical
    exact (coherent.decodeByName_eq_ok_iff listed).2
      ⟨v, Value.ofScalar_canonical generated decoded, rfl⟩
  same s s' v v' decoded decoded' := by
    have made := (coherent.decode_eq_ok_iff listed).1 decoded
    have made' := (coherent.decode_eq_ok_iff listed).1 decoded'
    rw [(coherent.decodeByName_eq_ok_iff listed).2 ⟨v, made, rfl⟩,
      (coherent.decodeByName_eq_ok_iff listed).2 ⟨v', made', rfl⟩, Except.ok.injEq,
      Value.toScalar_inj generated made made']
  shape s c canonical := by
    obtain ⟨v, -, rfl⟩ := (coherent.decodeByName_eq_ok_iff listed).1 canonical
    exact v.shape_toScalar
  idempotentJson document c canonical := by
    obtain ⟨s, v, -, decoded, rfl⟩ := (coherent.validateJson_eq_ok_iff listed).1 canonical
    exact (coherent.validateJson_eq_ok_iff listed).2 ⟨v.toScalar, v,
      Value.scalar_ofJson_toJson generated decoded, Value.ofScalar_canonical generated decoded, rfl⟩
  notNull document c canonical := by
    obtain ⟨s, v, -, decoded, rfl⟩ := (coherent.validateJson_eq_ok_iff listed).1 canonical
    intro null
    -- A canonical document is read, and `null` is not.
    have read := Value.scalar_ofJson_toJson generated decoded
    rw [null] at read
    cases read

end

/-- After every history of calls by which only generated types have adapters, the name of each of
them brings scalars and documents into canonical form. -/
theorem canonical_by_name {calls : List (Call ValueType)} {t : ValueType}
    (ofGenerated : (empty.afterCalls calls).OfGenerated)
    (registered : (empty.afterCalls calls).containsType t = true) :
    (empty.afterCalls calls).Canonicalizes t := by
  have coherent := (afterCalls_keeps calls empty_coherent).1
  obtain ⟨generated, listed⟩ := coherent.standard_mem ofGenerated registered
  exact coherent.canonicalizes listed generated

/-- A real that must be zero may be written as a negative zero and as a whole number. -/
theorem zero_canonical :
    let t : ValueType := ⟨"Zero", "Zero", .boundedReal Binary64.negativeZero Binary64.negativeZero⟩
    let r := empty.afterCalls [.register (.standard t)]
    r.OfGenerated ∧ r.containsType t = true ∧
      r.decodeByName "Zero" (.real Binary64.negativeZero) = .ok (.real Binary64.zero) ∧
      r.decodeByName "Zero" (.integer 0) = .ok (.real Binary64.zero) ∧
      r.decodeByName "Zero" (.real Binary64.zero) = .ok (.real Binary64.zero) := by
  intro t r
  have params : Directive.params ⟨.boundedReal, .start,
      [⟨none, .real true "0" "", .start⟩, ⟨none, .real true "0" "", .start⟩]⟩ = .ok t.params := rfl
  have entries : r.entries = [.standard t] := rfl
  have ofGenerated : r.OfGenerated := by
    intro a listed
    rw [entries, List.mem_singleton] at listed
    exact ⟨t, ⟨_, params⟩, listed⟩
  have registered : r.containsType t = true := by decide
  have canonical := canonical_by_name ofGenerated registered
  have negative : r.decodeByName "Zero" (.real Binary64.negativeZero) =
      .ok (.real Binary64.zero) := rfl
  have whole : r.decodeByName "Zero" (.integer 0) = .ok (.real Binary64.zero) := by
    decide +kernel
  exact ⟨ofGenerated, registered, negative, whole, canonical.idempotent _ _ negative⟩

end Registry
end DomainValues
