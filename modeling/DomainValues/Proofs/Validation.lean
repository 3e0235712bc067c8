import DomainValues.Configuration
import DomainValues.Proofs.RealOrder

/-!
# What validated parameters are like

The parameters that a directive gives have ordered bounds, finite ones for reals, and a pattern
that compiles (`Params.Valid`).

Main statements: `Directive.valid_of_params`, and `Directive.kind_of_params`, the parameters are of
the kind that the directive selects.
-/

namespace DomainValues

/-! ## Computations that may fail -/

section

variable {α β ε φ : Type}

theorem bind_eq_ok_iff {x : Except ε α} {f : α → Except ε β} {b : β} :
    (x >>= f) = .ok b ↔ ∃ a, x = .ok a ∧ f a = .ok b := by
  cases x with
  | error e => exact ⟨nofun, fun ⟨_, failed, _⟩ => nomatch failed⟩
  | ok a => exact ⟨fun h => ⟨a, rfl, h⟩, fun ⟨_, same, h⟩ => Except.ok.inj same ▸ h⟩

theorem map_eq_ok_iff {x : Except ε α} {f : α → β} {b : β} :
    x.map f = .ok b ↔ ∃ a, x = .ok a ∧ f a = b := by
  cases x with
  | error e => exact ⟨nofun, fun ⟨_, failed, _⟩ => nomatch failed⟩
  | ok a =>
      exact ⟨fun h => ⟨a, rfl, Except.ok.inj h⟩,
        fun ⟨_, same, h⟩ => by rw [← h, ← Except.ok.inj same]; rfl⟩

theorem mapError_eq_ok_iff {x : Except ε α} {f : ε → φ} {a : α} :
    x.mapError f = .ok a ↔ x = .ok a := by
  cases x with
  | error e => exact ⟨nofun, nofun⟩
  | ok a' => exact ⟨fun h => congrArg _ (Except.ok.inj h), fun h => congrArg _ (Except.ok.inj h)⟩

theorem toOption_eq_some_iff {x : Except ε α} {a : α} : x.toOption = some a ↔ x = .ok a := by
  cases x with
  | error e => exact ⟨nofun, nofun⟩
  | ok a' => exact ⟨fun h => congrArg _ (Option.some.inj h), fun h => congrArg _ (Except.ok.inj h)⟩

end

/-! ## Parameters -/

/-- Parameters that a value type can have: bounds are in order, bounds of reals are finite, and a
pattern compiles. -/
def Params.Valid : Params → Prop
  | .identifier => True
  | .boundedText min max pattern =>
      min ≤ max ∧ ∀ source ∈ pattern, ∃ compiled, Pattern.compile source = .ok compiled
  | .boundedInteger min max => min ≤ max
  | .boundedReal min max => ∃ low high, min.value? = some low ∧ max.value? = some high ∧ low ≤ high

namespace Directive

variable {d : Directive}

theorem required_eq_ok {α : Type} {read : Parameter → Argument → Except ConfigurationError α}
    {p : Parameter} {slot : Option Argument} {value : α} (h : d.required read p slot = .ok value) :
    ∃ a, slot = some a ∧ read p a = .ok value := by
  cases slot with
  | none => cases h
  | some a => exact ⟨a, rfl, h⟩

theorem isFinite_of_readReal {p : Parameter} {a : Argument} {x : Binary64}
    (h : readReal p a = .ok x) : x.isFinite = true := by
  unfold readReal at h
  split at h
  · cases h
  split at h
  · cases h
  case h_2 negative _ _ _ magnitude _ =>
    dsimp only at h
    generalize (if negative = true then magnitude.negate else magnitude) = value at h
    split at h
    case isTrue finite =>
      obtain rfl := Except.ok.inj h
      exact finite
    case isFalse => cases h

theorem compiles_of_readPattern {p : Parameter} {a : Argument} {source : String}
    (h : readPattern Pattern.compile p a = .ok source) :
    ∃ compiled, Pattern.compile source = .ok compiled := by
  unfold readPattern at h
  split at h
  case h_1 text _ =>
    cases read : Pattern.compile text with
    | error e =>
        rw [read] at h
        cases h
    | ok compiled =>
        rw [read] at h
        obtain rfl := Except.ok.inj h
        exact ⟨compiled, read⟩
  case h_2 => cases h

theorem compiles_of_optional {p : Parameter} {slot : Option Argument} {pattern : Option String}
    (h : optional (readPattern Pattern.compile) p slot = .ok pattern) :
    ∀ source ∈ pattern, ∃ compiled, Pattern.compile source = .ok compiled := by
  cases slot with
  | none =>
      obtain rfl := Except.ok.inj h
      nofun
  | some a =>
      obtain ⟨source, read, rfl⟩ := map_eq_ok_iff.1 h
      rintro _ ⟨⟩
      exact compiles_of_readPattern read

/-- The parameters that a directive gives are valid. -/
theorem valid_of_params {params : Params} (h : d.params = .ok params) : params.Valid := by
  obtain ⟨slots, -, read⟩ := bind_eq_ok_iff.1 h
  unfold readParams at read
  dsimp only at read
  split at read
  · obtain rfl := Except.ok.inj read
    trivial
  · obtain ⟨min, -, read⟩ := bind_eq_ok_iff.1 read
    obtain ⟨max, -, read⟩ := bind_eq_ok_iff.1 read
    obtain ⟨pattern, readPattern, read⟩ := bind_eq_ok_iff.1 read
    split at read
    case isTrue => cases read
    case isFalse inOrder =>
      obtain rfl := Except.ok.inj read
      exact ⟨UInt64.not_lt.1 inOrder, compiles_of_optional readPattern⟩
  · obtain ⟨min, -, read⟩ := bind_eq_ok_iff.1 read
    obtain ⟨max, -, read⟩ := bind_eq_ok_iff.1 read
    split at read
    case isTrue => cases read
    case isFalse inOrder =>
      obtain rfl := Except.ok.inj read
      exact Int32.not_lt.1 inOrder
  · obtain ⟨min, readMin, read⟩ := bind_eq_ok_iff.1 read
    obtain ⟨max, readMax, read⟩ := bind_eq_ok_iff.1 read
    obtain ⟨_, -, readMin⟩ := required_eq_ok readMin
    obtain ⟨_, -, readMax⟩ := required_eq_ok readMax
    obtain ⟨low, lowValue⟩ := Binary64.isFinite_iff.1 (isFinite_of_readReal readMin)
    obtain ⟨high, highValue⟩ := Binary64.isFinite_iff.1 (isFinite_of_readReal readMax)
    split at read
    case isTrue => cases read
    case isFalse inOrder =>
      obtain rfl := Except.ok.inj read
      refine ⟨low, high, lowValue, highValue, ?_⟩
      rw [← Binary64.le_iff lowValue highValue]
      exact Binary64.le_of_not_lt lowValue highValue (Bool.not_eq_true _ ▸ inOrder)

theorem kind_of_params {params : Params} (h : d.params = .ok params) : params.kind = d.kind := by
  obtain ⟨slots, -, read⟩ := bind_eq_ok_iff.1 h
  unfold readParams at read
  dsimp only at read
  split at read
  case h_1 kind =>
    obtain rfl := Except.ok.inj read
    exact kind.symm
  case h_2 kind =>
    obtain ⟨_, -, read⟩ := bind_eq_ok_iff.1 read
    obtain ⟨_, -, read⟩ := bind_eq_ok_iff.1 read
    obtain ⟨_, -, read⟩ := bind_eq_ok_iff.1 read
    split at read
    case isTrue => cases read
    case isFalse =>
      obtain rfl := Except.ok.inj read
      exact kind.symm
  -- Whole numbers and reals are read in the same way, two bounds each.
  all_goals
    rename_i kind
    obtain ⟨_, -, read⟩ := bind_eq_ok_iff.1 read
    obtain ⟨_, -, read⟩ := bind_eq_ok_iff.1 read
    split at read
    case isTrue => cases read
    case isFalse =>
      obtain rfl := Except.ok.inj read
      exact kind.symm

end Directive
end DomainValues
