import DomainValues.Proofs.Binding
import DomainValues.Proofs.Numerals
import DomainValues.Proofs.Rounding

/-!
# Well-configured directives

The parameters of a directive are those that its arguments denote.  A directive configures
parameters if its arguments can be assigned, every required parameter has a filler, the values are
what the fillers denote, and the lower bound is at most the upper one (`Directive.Configures`).

The numerals of the arguments have no signs, as the grammar of arguments gives them.  Nothing is
asked of the compiler of patterns: the statements hold for whatever it takes and refuses.

Main statement: `Directive.params_exact`, the parameters that a directive gives are those that it
configures, and they do not depend on where named arguments stand.
-/

namespace DomainValues

/-! ## What arguments denote -/

namespace ArgumentValue

/-- A whole number is a length.  A minus sign stands only before zero. -/
def IsLength : ArgumentValue → UInt64 → Prop
  | .integer negative numeral _, n =>
      n.toNat = digitsValue 0 numeral.toList ∧ (negative = true → n = 0)
  | _, _ => False

/-- A whole number with its sign is a number of 32 bits. -/
def IsInt32 : ArgumentValue → Int32 → Prop
  | .integer negative numeral _, i =>
      i.toInt = if negative then -(digitsValue 0 numeral.toList : Int)
        else digitsValue 0 numeral.toList
  | _, _ => False

/-- A real is the finite number of a sign and of the magnitude that is nearest to what a numeral
writes. -/
def IsRounded (negative : Bool) (numeral : List Char) (x : Binary64) : Prop :=
  ∃ (d : Decimal) (m : Fin Binary64.magnitudeLimit), d.WrittenAs numeral ∧
    Binary64.IsNearest m (d.value * Binary64.unitsInOne) ∧ x = .finite negative m

/-- A number is a finite real. -/
def IsReal : ArgumentValue → Binary64 → Prop
  | .integer negative numeral _, x => IsRounded negative numeral.toList x
  | .real negative numeral _, x => IsRounded negative numeral.toList x
  | _, _ => False

/-- A text is the source of a pattern that compiles. -/
def IsPattern (compile : Directive.PatternCompiler) : ArgumentValue → String → Prop
  | .text t, source => source = t ∧ ∃ compiled, compile source = .ok compiled
  | _, _ => False

end ArgumentValue

/-- The lower bound is at most the upper one. -/
def Params.InOrder : Params → Prop
  | .identifier => True
  | .boundedText min max _ => min ≤ max
  | .boundedInteger min max => min ≤ max
  | .boundedReal min max =>
      ∃ low high, min.value? = some low ∧ max.value? = some high ∧ low ≤ high

namespace Directive

open Kind

/-- An argument fills the parameter of a name. -/
def Gives (d : Directive) (name : String) (a : Argument) : Prop :=
  ∃ i p, d.kind.parameters[i]? = some p ∧ p.name = name ∧ a ∈ fillers d.arguments i p

/-- The parameter of a name has a value, which its filler denotes. -/
def HasValue {α : Type} (d : Directive) (name : String) (Is : ArgumentValue → α → Prop)
    (value : α) : Prop :=
  ∃ a, d.Gives name a ∧ Is a.value value

/-- The parameter of a name has the value that its filler denotes, or none and no filler. -/
def MayHaveValue {α : Type} (d : Directive) (name : String) (Is : ArgumentValue → α → Prop) :
    Option α → Prop
  | some value => d.HasValue name Is value
  | none => ∀ a, ¬ d.Gives name a

/-- Parameters have the values that the arguments denote. -/
def HasValues (d : Directive) (compile : PatternCompiler) : Params → Prop
  | .identifier => d.kind = .identifier
  | .boundedText min max pattern => d.kind = .boundedText ∧
      d.HasValue "min_length" ArgumentValue.IsLength min ∧
      d.HasValue "max_length" ArgumentValue.IsLength max ∧
      d.MayHaveValue "pattern" (ArgumentValue.IsPattern compile) pattern
  | .boundedInteger min max => d.kind = .boundedInteger ∧
      d.HasValue "min" ArgumentValue.IsInt32 min ∧ d.HasValue "max" ArgumentValue.IsInt32 max
  | .boundedReal min max => d.kind = .boundedReal ∧
      d.HasValue "min" ArgumentValue.IsReal min ∧ d.HasValue "max" ArgumentValue.IsReal max

/-- A directive configures parameters, with a compiler of patterns. -/
structure Configures (d : Directive) (compile : PatternCompiler) (params : Params) : Prop where
  /-- The arguments can be assigned. -/
  assignable : d.kind.Assignable d.arguments
  /-- Every required parameter has a filler. -/
  filled : ∀ i p, d.kind.parameters[i]? = some p → p.required = true →
    fillers d.arguments i p ≠ []
  /-- The values are those of the fillers. -/
  values : d.HasValues compile params
  /-- The bounds are in order. -/
  inOrder : params.InOrder

end Directive

/-! ## Reading one value -/

theorem readDigits?_of_numeral {text : List Char} (h : IsWholeNumeral text) :
    readDigits? text = some (digitsValue 0 text) := readDigits?_eq_some_iff.2 ⟨h, rfl⟩

theorem readNat?_of_numeral {text : List Char} {limit : Nat} (h : IsWholeNumeral text) :
    readNat? limit text = (some (digitsValue 0 text)).filter (· < limit) := by
  unfold readNat?
  dsimp only
  split
  case h_1 => exact absurd (h.2 '+' List.mem_cons_self) (by decide)
  case h_2 => rw [readDigits?_of_numeral h]

namespace Directive

open Kind

variable {d : Directive} {compile : PatternCompiler} {p : Parameter} {a : Argument}

theorem readLength_eq_ok_iff {n : UInt64} (unsigned : a.value.Unsigned) :
    readLength p a = .ok n ↔ a.value.IsLength n := by
  unfold readLength ArgumentValue.IsLength
  cases value : a.value with
  | integer negative numeral suffix =>
      rw [value] at unsigned
      dsimp only
      rw [readNat?_of_numeral unsigned]
      generalize digitsValue 0 numeral.toList = whole
      by_cases fits : whole < UInt64.size
      · have given : UInt64.ofNat whole = n ↔ n.toNat = whole := by
          rw [← UInt64.toNat_inj, UInt64.toNat_ofNat_of_lt' fits, eq_comm]
        have zero : n = 0 ↔ n.toNat = 0 := by rw [← UInt64.toNat_inj, UInt64.toNat_zero]
        simp only [Option.filter_some, fits, decide_true, if_true, zero]
        split
        case isTrue minus =>
          refine ⟨nofun, fun ⟨same, isZero⟩ => absurd (isZero minus.1) ?_⟩
          rw [same]
          exact minus.2
        case isFalse noMinus =>
          rw [Except.ok.injEq, given]
          exact ⟨fun same => ⟨same, fun negative => by_contra fun some =>
            noMinus ⟨negative, same ▸ some⟩⟩, And.left⟩
      · simp only [Option.filter_some, fits, decide_false, Bool.false_eq_true, if_false]
        exact ⟨nofun, fun ⟨same, _⟩ => absurd (same ▸ n.toNat_lt_size) fits⟩
  | real => exact ⟨nofun, nofun⟩
  | text => exact ⟨nofun, nofun⟩

theorem toInt_ofInt_of_mem {i : Int} (least : Int64.minValue.toInt ≤ i)
    (greatest : i ≤ Int64.maxValue.toInt) : (Int64.ofInt i).toInt = i := by
  have least64 : Int64.minValue.toInt = -9223372036854775808 := by decide
  have greatest64 : Int64.maxValue.toInt = 9223372036854775807 := by decide
  exact Int64.toInt_ofInt_of_le (by omega) (by omega)

theorem magnitude?_eq_some_iff {numeral : String} {m : Int64} :
    magnitude? numeral = some m ↔ SignedNumeral numeral.toList m.toInt := by
  simp only [magnitude?, Option.map_eq_some_iff, readInt?_eq_some_iff]
  constructor
  · rintro ⟨i, ⟨written, least, greatest⟩, rfl⟩
    rwa [toInt_ofInt_of_mem least greatest]
  · exact fun written =>
      ⟨m.toInt, ⟨written, m.minValue_le_toInt, m.toInt_le⟩, Int64.ofInt_toInt m⟩

/-- A sign is applied exactly, but to the least number, whose opposite has more than 64 bits. -/
theorem toInt_applySign_iff {negative : Bool} {m : Int64} :
    (applySign negative m).toInt = (if negative then -m.toInt else m.toInt) ↔
      ¬ (negative = true ∧ m = Int64.minValue) := by
  have least : -9223372036854775808 ≤ m.toInt := m.le_toInt
  have greatest : m.toInt < 9223372036854775808 := m.toInt_lt
  have least64 : Int64.minValue.toInt = -9223372036854775808 := by decide
  cases negative with
  | false => simp [applySign]
  | true =>
      rw [applySign, if_pos rfl, if_pos rfl, Int64.toInt_neg, ← Int64.toInt_inj, least64]
      simp only [true_and]
      constructor
      · intro exact' same
        rw [same] at exact'
        revert exact'
        decide
      · intro other
        exact Int.bmod_eq_of_le (by omega) (by omega)

/-- A number of 32 bits is read from a numeral, whatever its sign: the number with the sign of the
argument, if it has 32 bits. -/
theorem readInt32_of_numeral {negative : Bool} {numeral suffix : String} {i z : Int}
    (value : a.value = .integer negative numeral suffix)
    (written : SignedNumeral numeral.toList i) (signed : z = if negative then -i else i) :
    readInt32 p a = if Int32.minValue.toInt ≤ z ∧ z ≤ Int32.maxValue.toInt then
      .ok (Int32.ofInt z) else .error (invalidLiteral p a) := by
  unfold readInt32
  rw [value]
  dsimp only
  by_cases within : Int64.minValue.toInt ≤ i ∧ i ≤ Int64.maxValue.toInt
  · obtain ⟨m, rfl⟩ : ∃ m : Int64, m.toInt = i := ⟨_, toInt_ofInt_of_mem within.1 within.2⟩
    rw [magnitude?_eq_some_iff.2 written]
    simp only [Int64.le_iff_toInt_le, Int32.toInt_toInt64]
    by_cases overflows : negative = true ∧ m = Int64.minValue
    · -- Neither the exact number nor the one that wraps around has 32 bits.
      obtain ⟨rfl, rfl⟩ := overflows
      rw [if_neg (by decide), if_neg (by rw [signed]; decide)]
    · have exact' := toInt_applySign_iff.2 overflows
      rw [← signed] at exact'
      rw [exact', ← exact', ← Int64.toInt32_ofInt, Int64.ofInt_toInt]
  · have unread : magnitude? numeral = none := by
      refine Option.eq_none_iff_forall_ne_some.2 fun m found => within ?_
      obtain rfl := written.unique (magnitude?_eq_some_iff.1 found)
      exact ⟨m.minValue_le_toInt, m.toInt_le⟩
    have least64 : Int64.minValue.toInt = -9223372036854775808 := by decide
    have greatest64 : Int64.maxValue.toInt = 9223372036854775807 := by decide
    have least32 : Int32.minValue.toInt = -2147483648 := by decide
    have greatest32 : Int32.maxValue.toInt = 2147483647 := by decide
    rw [unread]
    dsimp only
    rw [if_neg]
    split at signed <;> omega

/-- What has 32 bits is read as the number that it is. -/
theorem ite_fits_eq_ok_iff {e : ConfigurationError} {i : Int32} {z : Int} :
    (if Int32.minValue.toInt ≤ z ∧ z ≤ Int32.maxValue.toInt then .ok (Int32.ofInt z)
      else .error e : Except ConfigurationError Int32) = .ok i ↔ i.toInt = z := by
  have least32 : Int32.minValue.toInt = -2147483648 := by decide
  have greatest32 : Int32.maxValue.toInt = 2147483647 := by decide
  split
  case isTrue fits =>
    rw [Except.ok.injEq, ← Int32.toInt_inj, Int32.toInt_ofInt_of_le (by omega) (by omega), eq_comm]
  case isFalse beyond =>
    refine ⟨nofun, ?_⟩
    rintro rfl
    exact absurd ⟨i.minValue_le_toInt, i.toInt_le⟩ beyond

theorem readInt32_eq_ok_iff {i : Int32} (unsigned : a.value.Unsigned) :
    readInt32 p a = .ok i ↔ a.value.IsInt32 i := by
  cases value : a.value with
  | integer negative numeral suffix =>
      rw [value] at unsigned
      rw [readInt32_of_numeral value (.unsigned unsigned) rfl]
      exact ite_fits_eq_ok_iff
  | real =>
      unfold readInt32
      rw [value]
      exact ⟨nofun, nofun⟩
  | text =>
      unfold readInt32
      rw [value]
      exact ⟨nofun, nofun⟩

theorem readReal_eq_ok_iff_of_numeral {x : Binary64} {negative : Bool} {numeral : String}
    (has : numeral? a.value = some (negative, numeral))
    (written : ∃ decimal : Decimal, decimal.WrittenAs numeral.toList) :
    readReal p a = .ok x ↔ ArgumentValue.IsRounded negative numeral.toList x := by
  unfold readReal
  rw [has]
  dsimp only
  constructor
  · intro h
    obtain ⟨decimal, written⟩ := written
    rw [written.read?] at h
    cases read : Binary64.ofDecimal false decimal.digits decimal.exponent with
    | finite sign m =>
        obtain ⟨rfl, nearest⟩ := Binary64.ofDecimal_eq_finite_iff.1 read
        rw [read] at h
        refine ⟨decimal, m, written, nearest, ?_⟩
        cases negative <;> exact (Except.ok.inj h).symm
    | nan => rw [read] at h; cases negative <;> cases h
    | infinite sign => rw [read] at h; cases negative <;> cases h
  · rintro ⟨decimal, m, written, nearest, rfl⟩
    rw [written.read?, Binary64.ofDecimal_eq_finite_iff.2 ⟨rfl, nearest⟩]
    cases negative <;> rfl

theorem readReal_eq_ok_iff {x : Binary64} (unsigned : a.value.Unsigned) :
    readReal p a = .ok x ↔ a.value.IsReal x := by
  cases value : a.value with
  | integer negative numeral suffix =>
      rw [value] at unsigned
      have written := Decimal.WrittenAs.whole unsigned.1 unsigned.2 .absent
      rw [List.append_nil] at written
      exact readReal_eq_ok_iff_of_numeral (by rw [value]; rfl) ⟨_, written⟩
  | real negative numeral suffix =>
      rw [value] at unsigned
      exact readReal_eq_ok_iff_of_numeral (by rw [value]; rfl) unsigned
  | text =>
      unfold readReal
      rw [value]
      exact ⟨nofun, nofun⟩

theorem readPattern_eq_ok_iff {source : String} :
    readPattern compile p a = .ok source ↔ a.value.IsPattern compile source := by
  unfold readPattern ArgumentValue.IsPattern
  cases a.value with
  | integer => exact ⟨nofun, nofun⟩
  | real => exact ⟨nofun, nofun⟩
  | text t =>
      dsimp only
      cases read : compile t with
      | error e =>
          refine ⟨nofun, ?_⟩
          rintro ⟨rfl, compiled, ok⟩
          cases read.symm.trans ok
      | ok compiled =>
          rw [Except.ok.injEq]
          constructor
          · rintro rfl
            exact ⟨rfl, compiled, read⟩
          · exact fun ⟨same, _⟩ => same.symm

/-! ## Reading all values -/

section

variable {i : Nat} {q : Parameter} {α : Type}
  {read : Parameter → Argument → Except ConfigurationError α} {Is : ArgumentValue → α → Prop}

theorem mem_of_gives {name : String} (h : d.Gives name a) : a ∈ d.arguments := by
  obtain ⟨i, p, -, -, found⟩ := h
  rcases List.mem_append.1 found with found | found
  · exact List.mem_of_mem_filter found
  · exact List.mem_of_mem_filter (List.mem_of_getElem? (Option.mem_toList.1 found))

/-- A slot holds what fills its parameter. -/
theorem assigned_eq_some_iff (assignable : d.kind.Assignable d.arguments)
    (parameter : d.kind.parameters[i]? = some p) :
    (d.kind.assigned d.arguments)[i]?.join = some a ↔ d.Gives p.name a := by
  rw [getElem?_assigned, parameter, Option.bind_some]
  constructor
  · exact fun found => ⟨i, p, parameter, rfl, List.mem_of_mem_head? found⟩
  · rintro ⟨j, q, parameter', same, found⟩
    obtain rfl := Kind.index_unique parameter' parameter same
    obtain rfl := Option.some.inj (parameter'.symm.trans parameter)
    cases only : fillers d.arguments j q with
    | nil => rw [only] at found; cases found
    | cons b rest =>
        have once := assignable.once j q parameter'
        rw [only, List.length_cons] at once
        obtain rfl : rest = [] := List.length_eq_zero_iff.1 (by omega)
        rw [only] at found
        rw [List.mem_singleton.1 found]
        rfl

theorem required_eq_ok_iff {slot : Option Argument} {value : α} :
    d.required read p slot = .ok value ↔ ∃ a, slot = some a ∧ read p a = .ok value := by
  refine ⟨required_eq_ok, ?_⟩
  rintro ⟨a, rfl, h⟩
  exact h

variable (assignable : d.kind.Assignable d.arguments)
  (parameter : d.kind.parameters[i]? = some p)
include assignable parameter

/-- The value of a required parameter is that of its filler. -/
theorem required_assigned_iff {value : α}
    (reads : ∀ a ∈ d.arguments, read q a = .ok value ↔ Is a.value value) :
    d.required read q (d.kind.assigned d.arguments)[i]?.join = .ok value ↔
      d.HasValue p.name Is value := by
  simp only [required_eq_ok_iff, assigned_eq_some_iff assignable parameter]
  exact exists_congr fun a => and_congr_right fun gives => reads a (mem_of_gives gives)

/-- The value of an optional parameter is that of its filler, if it has one. -/
theorem optional_assigned_iff {s : Option α}
    (reads : ∀ a ∈ d.arguments, ∀ value, read q a = .ok value ↔ Is a.value value) :
    optional read q (d.kind.assigned d.arguments)[i]?.join = .ok s ↔
      d.MayHaveValue p.name Is s := by
  have gives {a : Argument} := assigned_eq_some_iff (a := a) assignable parameter
  cases slot : (d.kind.assigned d.arguments)[i]?.join with
  | none =>
      have nothing {a : Argument} : ¬ d.Gives p.name a := by
        rw [← gives, slot]
        nofun
      cases s with
      | none => exact ⟨fun _ _ => nothing, fun _ => rfl⟩
      | some value => exact ⟨nofun, fun ⟨a, given, _⟩ => absurd given nothing⟩
  | some a =>
      have given := gives.1 slot
      rw [optional, map_eq_ok_iff]
      cases s with
      | none => exact ⟨nofun, fun nothing => absurd given (nothing a)⟩
      | some value =>
          simp only [Option.some.injEq, exists_eq_right, reads a (mem_of_gives given)]
          constructor
          · exact fun is => ⟨a, given, is⟩
          · rintro ⟨b, given', is⟩
            obtain rfl := Option.some.inj (slot.symm.trans (gives.2 given'))
            exact is

end

theorem kind_of_hasValues {params : Params} (h : d.HasValues compile params) :
    params.kind = d.kind := by
  cases params with
  | identifier => exact h.symm
  | boundedText => exact h.1.symm
  | boundedInteger => exact h.1.symm
  | boundedReal => exact h.1.symm

theorem exists_value_of_isReal {v : ArgumentValue} {x : Binary64} (h : v.IsReal x) :
    ∃ value, x.value? = some value := by
  have finite {negative : Bool} {numeral : List Char}
      (h : ArgumentValue.IsRounded negative numeral x) : ∃ value, x.value? = some value := by
    obtain ⟨-, m, -, -, rfl⟩ := h
    exact ⟨_, rfl⟩
  cases v with
  | integer => exact finite h
  | real => exact finite h
  | text => cases h

/-- Of reals with values, the second is not below the first exactly if the values are in order. -/
theorem inOrder_iff_of_isReal {lower upper : String} {min max : Binary64}
    (isMin : d.HasValue lower ArgumentValue.IsReal min)
    (isMax : d.HasValue upper ArgumentValue.IsReal max) :
    (Params.boundedReal min max).InOrder ↔ ¬ Binary64.lt max min = true := by
  obtain ⟨_, -, isMin⟩ := isMin
  obtain ⟨_, -, isMax⟩ := isMax
  obtain ⟨low, lowValue⟩ := exists_value_of_isReal isMin
  obtain ⟨high, highValue⟩ := exists_value_of_isReal isMax
  constructor
  · rintro ⟨_, _, lowValue, highValue, inOrder⟩ less
    rw [← Binary64.le_iff lowValue highValue] at inOrder
    rw [Binary64.not_lt_of_le inOrder] at less
    cases less
  · intro notLess
    refine ⟨low, high, lowValue, highValue, ?_⟩
    rw [← Binary64.le_iff lowValue highValue]
    exact Binary64.le_of_not_lt lowValue highValue (Bool.not_eq_true _ ▸ notLess)

/-- Checking the order of bounds gives the parameters if no bound exceeds another. -/
theorem ite_error_eq_ok_iff {exceeds : Prop} [Decidable exceeds] {e : ConfigurationError}
    {given params : Params} :
    (if exceeds then .error e else .ok given : Except ConfigurationError Params) = .ok params ↔
      ¬ exceeds ∧ given = params := by
  split
  case isTrue exceeds => exact ⟨nofun, fun h => absurd exceeds h.1⟩
  case isFalse inOrder => rw [Except.ok.injEq, and_iff_right inOrder]

section

variable {params : Params} (assignable : d.kind.Assignable d.arguments)
  (unsigned : ∀ a ∈ d.arguments, a.value.Unsigned)

theorem readParams_identifier_iff (kind : d.kind = .identifier) :
    d.readParams compile (d.kind.assigned d.arguments) = .ok params ↔
      d.HasValues compile params ∧ params.InOrder := by
  simp only [readParams, kind, Except.ok.injEq]
  constructor
  · rintro rfl
    exact ⟨kind, trivial⟩
  · rintro ⟨values, -⟩
    have same := (kind_of_hasValues values).trans kind
    cases params <;> cases same
    rfl

include assignable unsigned

theorem readParams_boundedText_iff (kind : d.kind = .boundedText) :
    d.readParams compile (d.kind.assigned d.arguments) = .ok params ↔
      d.HasValues compile params ∧ params.InOrder := by
  have min {n : UInt64} := required_assigned_iff (i := 0) (q := ⟨"min_length", .length, true⟩)
    assignable (by rw [kind]; rfl)
    fun a found => readLength_eq_ok_iff (n := n) (unsigned a found)
  have max {n : UInt64} := required_assigned_iff (i := 1) (q := ⟨"max_length", .length, true⟩)
    assignable (by rw [kind]; rfl)
    fun a found => readLength_eq_ok_iff (n := n) (unsigned a found)
  have pattern {s : Option String} := optional_assigned_iff (i := 2) (s := s)
    (q := ⟨"pattern", .pattern, false⟩) assignable (by rw [kind]; rfl)
    fun a found source => (readPattern_eq_ok_iff : readPattern compile _ a = .ok source ↔ _)
  rw [kind] at min max pattern
  simp only [readParams, kind, bind_eq_ok_iff, ite_error_eq_ok_iff, min, max, pattern]
  constructor
  · rintro ⟨min, isMin, max, isMax, pattern, isPattern, inOrder, rfl⟩
    exact ⟨⟨kind, isMin, isMax, isPattern⟩, UInt64.not_lt.1 inOrder⟩
  · rintro ⟨values, inOrder⟩
    have same := (kind_of_hasValues values).trans kind
    cases params <;> cases same
    obtain ⟨-, isMin, isMax, isPattern⟩ := values
    exact ⟨_, isMin, _, isMax, _, isPattern, UInt64.not_lt.2 inOrder, rfl⟩

theorem readParams_boundedInteger_iff (kind : d.kind = .boundedInteger) :
    d.readParams compile (d.kind.assigned d.arguments) = .ok params ↔
      d.HasValues compile params ∧ params.InOrder := by
  have min {n : Int32} := required_assigned_iff (i := 0) (q := ⟨"min", .int32, true⟩)
    assignable (by rw [kind]; rfl)
    fun a found => readInt32_eq_ok_iff (i := n) (unsigned a found)
  have max {n : Int32} := required_assigned_iff (i := 1) (q := ⟨"max", .int32, true⟩)
    assignable (by rw [kind]; rfl)
    fun a found => readInt32_eq_ok_iff (i := n) (unsigned a found)
  rw [kind] at min max
  simp only [readParams, kind, bind_eq_ok_iff, ite_error_eq_ok_iff, min, max]
  constructor
  · rintro ⟨min, isMin, max, isMax, inOrder, rfl⟩
    exact ⟨⟨kind, isMin, isMax⟩, Int32.not_lt.1 inOrder⟩
  · rintro ⟨values, inOrder⟩
    have same := (kind_of_hasValues values).trans kind
    cases params <;> cases same
    obtain ⟨-, isMin, isMax⟩ := values
    exact ⟨_, isMin, _, isMax, Int32.not_lt.2 inOrder, rfl⟩

theorem readParams_boundedReal_iff (kind : d.kind = .boundedReal) :
    d.readParams compile (d.kind.assigned d.arguments) = .ok params ↔
      d.HasValues compile params ∧ params.InOrder := by
  have min {x : Binary64} := required_assigned_iff (i := 0) (q := ⟨"min", .real, true⟩)
    assignable (by rw [kind]; rfl)
    fun a found => readReal_eq_ok_iff (x := x) (unsigned a found)
  have max {x : Binary64} := required_assigned_iff (i := 1) (q := ⟨"max", .real, true⟩)
    assignable (by rw [kind]; rfl)
    fun a found => readReal_eq_ok_iff (x := x) (unsigned a found)
  rw [kind] at min max
  simp only [readParams, kind, bind_eq_ok_iff, ite_error_eq_ok_iff, min, max]
  constructor
  · rintro ⟨min, isMin, max, isMax, notLess, rfl⟩
    exact ⟨⟨kind, isMin, isMax⟩, (inOrder_iff_of_isReal isMin isMax).2 notLess⟩
  · rintro ⟨values, inOrder⟩
    have same := (kind_of_hasValues values).trans kind
    cases params <;> cases same
    obtain ⟨-, isMin, isMax⟩ := values
    exact ⟨_, isMin, _, isMax, (inOrder_iff_of_isReal isMin isMax).1 inOrder, rfl⟩

/-- The values of the parameters are those of the fillers, if the bounds are in order. -/
theorem readParams_eq_ok_iff : d.readParams compile (d.kind.assigned d.arguments) = .ok params ↔
    d.HasValues compile params ∧ params.InOrder := by
  cases kind : d.kind with
  | identifier => exact kind ▸ readParams_identifier_iff kind
  | boundedText => exact kind ▸ readParams_boundedText_iff assignable unsigned kind
  | boundedInteger => exact kind ▸ readParams_boundedInteger_iff assignable unsigned kind
  | boundedReal => exact kind ▸ readParams_boundedReal_iff assignable unsigned kind

end

/-! ## All directives -/

section

variable {d d' : Directive} {compile : PatternCompiler} {params : Params}

/-- What is configured is what is given. -/
theorem paramsBy_eq_ok_iff (unsigned : ∀ a ∈ d.arguments, a.value.Unsigned) :
    d.paramsBy compile = .ok params ↔ d.Configures compile params := by
  unfold Directive.paramsBy
  simp only [bind_eq_ok_iff, bind_eq_assigned_iff]
  constructor
  · rintro ⟨_, ⟨assignable, filled, rfl⟩, read⟩
    obtain ⟨values, inOrder⟩ := (readParams_eq_ok_iff assignable unsigned).1 read
    exact ⟨assignable, filled, values, inOrder⟩
  · intro h
    exact ⟨_, ⟨h.assignable, h.filled, rfl⟩,
      (readParams_eq_ok_iff h.assignable unsigned).2 ⟨h.values, h.inOrder⟩⟩

/-- The fillers of a parameter do not depend on where named arguments stand. -/
theorem fillers_perm {i : Nat} {p : Parameter} (same : d'.arguments.Perm d.arguments)
    (nameless : unnamed d'.arguments = unnamed d.arguments) :
    (fillers d'.arguments i p).Perm (fillers d.arguments i p) := by
  unfold fillers
  rw [nameless]
  exact (same.filter _).append_right _

theorem Configures.of_perm (kind : d'.kind = d.kind) (same : d'.arguments.Perm d.arguments)
    (nameless : unnamed d'.arguments = unnamed d.arguments) (h : d.Configures compile params) :
    d'.Configures compile params := by
  have moved {i : Nat} {p : Parameter} := fillers_perm (i := i) (p := p) same nameless
  have gives {name : String} {a : Argument} : d'.Gives name a ↔ d.Gives name a := by
    unfold Gives
    simp only [kind, moved.mem_iff]
  have values (params : Params) : d'.HasValues compile params ↔ d.HasValues compile params := by
    cases params with
    | boundedText min max pattern =>
        cases pattern <;> simp only [HasValues, HasValue, MayHaveValue, kind, gives]
    | _ => simp only [HasValues, HasValue, kind, gives]
  refine ⟨⟨?_, ?_, ?_⟩, ?_, (values params).2 h.values, h.inOrder⟩
  · rw [kind]
    exact fun a found => h.assignable.named a (same.mem_iff.1 found)
  · rw [kind, nameless]
    exact h.assignable.placed
  · intro i p parameter
    rw [moved.length_eq]
    exact h.assignable.once i p (kind ▸ parameter)
  · intro i p parameter required empty
    exact h.filled i p (kind ▸ parameter) required (empty ▸ moved.symm).eq_nil

/-- Whatever patterns compile, the parameters that a directive gives are those that it configures.
They do not depend on the places of named arguments. -/
theorem params_exact (d : Directive) (unsigned : ∀ a ∈ d.arguments, a.value.Unsigned)
    (compile : PatternCompiler) :
    (∀ params, d.paramsBy compile = .ok params ↔ d.Configures compile params) ∧
    ∀ d' : Directive, d'.kind = d.kind → d'.arguments.Perm d.arguments →
      unnamed d'.arguments = unnamed d.arguments →
      ∀ params, d'.paramsBy compile = .ok params ↔ d.paramsBy compile = .ok params := by
  refine ⟨fun _ => paramsBy_eq_ok_iff unsigned, fun d' kind same nameless params => ?_⟩
  have unsigned' : ∀ a ∈ d'.arguments, a.value.Unsigned :=
    fun a found => unsigned a (same.mem_iff.1 found)
  rw [paramsBy_eq_ok_iff unsigned, paramsBy_eq_ok_iff unsigned']
  exact ⟨.of_perm kind.symm same.symm nameless.symm, .of_perm kind same nameless⟩

/-- The upper bound by its name, and then the lower one without a name:
`#[bounded_integer(max = 10, -5)]`. -/
def mixed : Directive where
  kind := .boundedInteger
  position := ⟨1, 2⟩
  arguments :=
    [⟨some ⟨.plain "max", ⟨1, 18⟩⟩, .integer false "10" "", ⟨1, 24⟩⟩,
      ⟨none, .integer true "5" "", ⟨1, 29⟩⟩]

theorem mixed_configures :
    (∀ a ∈ mixed.arguments, a.value.Unsigned) ∧
      mixed.Configures Pattern.compile (.boundedInteger (-5) 10) := by
  have unsigned : ∀ a ∈ mixed.arguments, a.value.Unsigned := by
    intro a found
    rcases List.mem_cons.1 found with rfl | found
    · exact ⟨by decide, List.all_eq_true.1 (by decide)⟩
    · rw [List.mem_singleton.1 found]
      exact ⟨by decide, List.all_eq_true.1 (by decide)⟩
  exact ⟨unsigned, ((params_exact mixed unsigned Pattern.compile).1 _).1 (by decide)⟩

end

end Directive
end DomainValues
