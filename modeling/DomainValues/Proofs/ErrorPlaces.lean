import DomainValues.Declaration
import DomainValues.Proofs.Binding
import DomainValues.Proofs.ItemPlaces

/-!
# The places of errors in directives

An error about a directive stands in its attribute: at a token of its arguments, at the bracket that
closes them, or at its path.  So do the arguments that are read from it, and what is wrong with them
as values of parameters.

Main statements: `Directive.ofAttribute_places`, `Directive.params_errorsAt` and
`Attribute.position_of_mem_derived`.
-/

namespace DomainValues

open Source Token

/-! ## Errors at places -/

section

variable {ε α β : Type} {position : ε → Position} {found others : List Position}

/-- Whatever error a computation ends in, it stands at one of some places. -/
def ErrorsAt (position : ε → Position) (found : List Position) (x : Except ε α) : Prop :=
  ∀ e, x = .error e → position e ∈ found

theorem ErrorsAt.ok (a : α) : ErrorsAt position found (.ok a) := nofun

theorem ErrorsAt.error {e : ε} (here : position e ∈ found) :
    ErrorsAt position found (.error e : Except ε α) := by
  intro e' same
  cases same
  exact here

theorem ErrorsAt.mono {x : Except ε α} (h : ErrorsAt position found x)
    (more : ∀ p ∈ found, p ∈ others) : ErrorsAt position others x :=
  fun e failed => more _ (h e failed)

theorem ErrorsAt.bind {x : Except ε α} {f : α → Except ε β} (first : ErrorsAt position found x)
    (later : ∀ a, x = .ok a → ErrorsAt position found (f a)) :
    ErrorsAt position found (x >>= f) := by
  cases x with
  | error e => exact .error (first e rfl)
  | ok a => exact later a rfl

theorem ErrorsAt.map {x : Except ε α} {f : α → β} (h : ErrorsAt position found x) :
    ErrorsAt position found (x.map f) := by
  cases x with
  | error e => exact .error (h e rfl)
  | ok a => exact .ok (f a)

end

/-! ## Arguments -/

/-- The places that are kept of an argument. -/
def Argument.places (a : Argument) : List Position :=
  a.name.toList.map Name.position ++ [a.valuePosition]

theorem Argument.position_mem_places (a : Argument) : a.position ∈ a.places := by
  obtain ⟨name, value, valuePosition⟩ := a
  cases name <;> simp [places, position]

/-- The places that are kept of a directive. -/
def Directive.places (d : Directive) : List Position :=
  d.position :: d.arguments.flatMap Argument.places

namespace Directive

theorem takeName_passes (row : List Token) :
    Passes row (takeName row).2 ((takeName row).1.toList.map Name.position) := by
  unfold takeName
  split
  · split
    · exact ((Passes.one _).append (.one _)).mono (by simp)
    · exact .nothing
  · exact .nothing

theorem takeMinus_passes (row : List Token) : Passes row (takeMinus row).2 [] := by
  unfold takeMinus
  split
  · exact (Passes.one _).unplaced
  · exact .nothing

variable {closes : Position} {row rest : List Token}

theorem readLiteral_passes {found : Found} {p : Position}
    (h : readLiteral closes row = .ok (found, p, rest)) : Passes row rest [p] := by
  unfold readLiteral at h
  split at h
  · cases h
  · cases h
    exact (Passes.one _).mono (by simp)
  · split at h
    · cases h
      exact (Passes.one _).mono (by simp)
    · cases h
  · split at h
    · cases h
      exact ((Passes.one _).append (.one _)).mono (by simp)
    · cases h
  · cases h

theorem readLiteral_errorsAt :
    ErrorsAt SyntaxError.position (Token.places row ++ [closes]) (readLiteral closes row) := by
  unfold readLiteral
  split
  · exact .error (by simp)
  · exact .ok _
  · split
    · exact .ok _
    · exact .error (by simp)
  · split
    · exact .ok _
    · exact .error (by simp)
  · exact .error (List.mem_append_left _ (position_mem_places _ _))

theorem argumentValue_errorsAt (negative : Bool) (found : Found) (p : Position) :
    ErrorsAt SyntaxError.position [p] (argumentValue negative found p) := by
  unfold argumentValue
  split
  · exact .ok _
  · exact .ok _
  · split
    · exact .error (by simp)
    · exact .ok _
  · exact .error (by simp)

theorem readArgument_passes {a : Argument} (h : readArgument closes row = .ok (a, rest)) :
    Passes row rest a.places := by
  unfold readArgument at h
  obtain ⟨⟨found, p, rest'⟩, read, h⟩ := bind_eq_ok_iff.1 h
  obtain ⟨value, -, h⟩ := bind_eq_ok_iff.1 h
  cases h
  exact (takeName_passes row).append ((takeMinus_passes _).append (readLiteral_passes read))

/-- What stands in what is left of arguments, or closes them, stands in them or closes them. -/
theorem places_closed {passed : List Position} (h : Passes row rest passed) :
    ∀ p ∈ Token.places rest ++ [closes], p ∈ Token.places row ++ [closes] := by
  intro p here
  rcases List.mem_append.1 here with here | here
  · exact List.mem_append_left _ (h.places_rest p here)
  · exact List.mem_append_right _ here

theorem readArgument_errorsAt :
    ErrorsAt SyntaxError.position (Token.places row ++ [closes]) (readArgument closes row) := by
  have ahead := (takeName_passes row).append (takeMinus_passes (takeName row).2)
  refine ErrorsAt.bind (readLiteral_errorsAt.mono (places_closed ahead))
    fun ⟨found, p, rest⟩ read => ?_
  have literal := (ahead.append (readLiteral_passes read)).mem_places p (by simp)
  refine ErrorsAt.bind ((argumentValue_errorsAt _ found p).mono ?_) fun _ _ => .ok _
  intro q here
  rw [List.mem_singleton.1 here]
  exact List.mem_append_left _ literal

theorem readArguments_places {fuel : Nat} {arguments : List Argument}
    (h : readArguments closes fuel row = .ok arguments) :
    ∀ p ∈ arguments.flatMap Argument.places, p ∈ Token.places row := by
  induction fuel generalizing row arguments with
  | zero =>
      cases row with
      | nil =>
          cases h
          nofun
      | cons t row => cases h
  | succ fuel ih =>
      cases row with
      | nil =>
          cases h
          nofun
      | cons t row =>
          obtain ⟨⟨a, rest⟩, read, h⟩ := bind_eq_ok_iff.1 h
          have passes := readArgument_passes read
          dsimp only at h
          split at h
          · cases h
            simpa using passes.mem_places
          case h_2 joint p after =>
            obtain ⟨more, others, h⟩ := bind_eq_ok_iff.1 h
            cases h
            rw [List.flatMap_cons, List.forall_mem_append]
            refine ⟨passes.mem_places, fun q here => passes.places_rest q ?_⟩
            exact List.mem_cons_of_mem _ (ih others q here)
          · cases h

theorem readArguments_errorsAt (fuel : Nat) :
    ErrorsAt SyntaxError.position (Token.places row ++ [closes])
      (readArguments closes fuel row) := by
  induction fuel generalizing row with
  | zero =>
      cases row with
      | nil => exact .ok _
      | cons t row => exact .error (List.mem_append_left _ (position_mem_places t row))
  | succ fuel ih =>
      cases row with
      | nil => exact .ok _
      | cons t row =>
          refine ErrorsAt.bind readArgument_errorsAt fun ⟨a, rest⟩ read => ?_
          have passes := readArgument_passes read
          dsimp only
          split
          · exact .ok _
          case h_2 joint p after =>
            have beyond := passes.append (.one (.mark ',' joint p))
            exact ErrorsAt.bind (ih.mono (places_closed beyond)) fun _ _ => .ok _
          case h_3 u after _ =>
            exact .error (List.mem_append_left _
              (passes.places_rest _ (position_mem_places u after)))

variable {kind : Kind} {a : Attribute}

theorem position_of_name? (named : a.name?.isSome = true) : a.path.position ∈ a.places := by
  have some : a.path.names ≠ [] := by
    rintro none
    simp [Attribute.name?, NamePath.single?, none] at named
  simp [Attribute.places, NamePath.places, some]

/-- A directive stands in its attribute. -/
theorem ofAttribute_places {d : Directive} (named : a.name?.isSome = true)
    (h : ofAttribute kind a = .ok d) : ∀ p ∈ d.places, p ∈ a.places := by
  have path := position_of_name? named
  unfold ofAttribute at h
  split at h
  · cases h
    simpa [places] using path
  case h_2 delimiter tokens opens closes listed =>
    obtain ⟨arguments, read, rfl⟩ := map_eq_ok_iff.1 h
    rw [places, List.forall_mem_cons]
    refine ⟨path, fun p here => ?_⟩
    have inTokens := readArguments_places read p here
    simp only [Attribute.places, listed, AttributeArguments.places, List.mem_cons, List.mem_append]
    exact .inr (.inr (.inl inTokens))
  · cases h

/-- What keeps an attribute from being read as a directive stands in it. -/
theorem ofAttribute_errorsAt (named : a.name?.isSome = true) :
    ErrorsAt SyntaxError.position a.places (ofAttribute kind a) := by
  unfold ofAttribute
  split
  · exact .ok _
  case h_2 delimiter tokens opens closes listed =>
    refine (readArguments_errorsAt _).map.mono fun p here => ?_
    simp only [Attribute.places, listed, AttributeArguments.places, List.mem_cons,
      List.mem_append] at here ⊢
    exact .inr (.inr here)
  · exact .error (position_of_name? named)

/-! ## Values -/

variable {d : Directive} {p : Parameter} {b : Argument} {found : List Position}

/-- What is wrong with the assignment of arguments stands at one of them. -/
theorem slotOf_errorsAt (positional : Nat) :
    ErrorsAt ConfigurationError.position b.places (d.slotOf positional b) := by
  unfold slotOf
  dsimp only
  split
  case h_1 name named =>
    split
    · exact .ok _
    · exact .error (by simp [Argument.places, named])
  case h_2 =>
    split
    · exact .ok _
    · exact .error b.position_mem_places

theorem fill_errorsAt (positional : Nat) (slots : List (Option Argument))
    (arguments : List Argument) :
    ErrorsAt ConfigurationError.position (arguments.flatMap Argument.places)
      (d.fill positional slots arguments) := by
  induction arguments generalizing positional slots with
  | nil => exact .ok _
  | cons b rest ih =>
      rw [fill, List.flatMap_cons]
      have first : ∀ p ∈ b.places, p ∈ b.places ++ rest.flatMap Argument.places :=
        fun _ => List.mem_append_left _
      refine ErrorsAt.bind ((slotOf_errorsAt positional).mono first) fun i _ => ?_
      split
      · exact .error (first _ b.position_mem_places)
      · exact (ih _ _).mono fun _ => List.mem_append_right _

theorem bind_errorsAt : ErrorsAt ConfigurationError.position d.places d.bind := by
  refine ErrorsAt.bind ((fill_errorsAt 0 _ d.arguments).mono fun _ => List.mem_cons_of_mem _) ?_
  intro slots _
  split
  · exact .error List.mem_cons_self
  · exact .ok _

theorem readLength_errorsAt :
    ErrorsAt ConfigurationError.position [b.valuePosition] (readLength p b) := by
  unfold readLength
  split
  · split
    · exact .error (by simp [invalidLiteral])
    · split
      · exact .error (by simp)
      · exact .ok _
  · exact .error (by simp [invalidLiteral])

theorem readInt32_errorsAt :
    ErrorsAt ConfigurationError.position [b.valuePosition] (readInt32 p b) := by
  unfold readInt32
  split
  · split
    · exact .error (by simp [invalidLiteral])
    · extract_lets value
      split
      · exact .ok _
      · exact .error (by simp [invalidLiteral])
  · exact .error (by simp [invalidLiteral])

theorem readReal_errorsAt :
    ErrorsAt ConfigurationError.position [b.valuePosition] (readReal p b) := by
  unfold readReal
  split
  · exact .error (by simp [invalidLiteral])
  · split
    · exact .error (by simp [invalidLiteral])
    · extract_lets value
      split
      · exact .ok _
      · exact .error (by simp [invalidLiteral])

theorem readPattern_errorsAt {compile : PatternCompiler} :
    ErrorsAt ConfigurationError.position [b.valuePosition] (readPattern compile p b) := by
  unfold readPattern
  split
  · split
    · exact .ok _
    · exact .error (by simp)
  · exact .error (by simp [invalidLiteral])

section

variable {α : Type} {read : Parameter → Argument → Except ConfigurationError α}
  (atValue : ∀ p b, ErrorsAt ConfigurationError.position [b.valuePosition] (read p b))
  {slot : Option Argument} (held : ∀ b ∈ slot, b ∈ d.arguments)
include atValue held

theorem valuePosition_errorsAt (p : Parameter) (b : Argument) (filled : slot = some b) :
    ErrorsAt ConfigurationError.position d.places (read p b) := by
  refine (atValue p b).mono fun q here => ?_
  rw [List.mem_singleton.1 here]
  refine List.mem_cons_of_mem _ (List.mem_flatMap.2 ⟨b, held b filled, ?_⟩)
  simp [Argument.places]

theorem required_errorsAt (p : Parameter) :
    ErrorsAt ConfigurationError.position d.places (d.required read p slot) := by
  cases slot with
  | none => exact .error List.mem_cons_self
  | some b => exact valuePosition_errorsAt atValue held p b rfl

theorem optional_errorsAt (p : Parameter) :
    ErrorsAt ConfigurationError.position d.places (optional read p slot) := by
  cases slot with
  | none => exact .ok none
  | some b => exact (valuePosition_errorsAt atValue held p b rfl).map

end

theorem readParams_errorsAt {compile : PatternCompiler} {slots : List (Option Argument)}
    (held : ∀ i : Nat, ∀ b ∈ slots[i]?.join, b ∈ d.arguments) :
    ErrorsAt ConfigurationError.position d.places (d.readParams compile slots) := by
  unfold readParams
  extract_lets slot
  split
  · exact .ok _
  · refine ErrorsAt.bind (required_errorsAt (fun _ _ => readLength_errorsAt) (held 0) _) ?_
    intro min _
    refine ErrorsAt.bind (required_errorsAt (fun _ _ => readLength_errorsAt) (held 1) _) ?_
    intro max _
    refine ErrorsAt.bind (optional_errorsAt (fun _ _ => readPattern_errorsAt) (held 2) _) ?_
    intro pattern _
    split
    · exact .error List.mem_cons_self
    · exact .ok _
  · refine ErrorsAt.bind (required_errorsAt (fun _ _ => readInt32_errorsAt) (held 0) _) ?_
    intro min _
    refine ErrorsAt.bind (required_errorsAt (fun _ _ => readInt32_errorsAt) (held 1) _) ?_
    intro max _
    split
    · exact .error List.mem_cons_self
    · exact .ok _
  · refine ErrorsAt.bind (required_errorsAt (fun _ _ => readReal_errorsAt) (held 0) _) ?_
    intro min _
    refine ErrorsAt.bind (required_errorsAt (fun _ _ => readReal_errorsAt) (held 1) _) ?_
    intro max _
    split
    · exact .error List.mem_cons_self
    · exact .ok _

/-- What keeps a directive from having a configuration stands in it. -/
theorem params_errorsAt : ErrorsAt ConfigurationError.position d.places d.params :=
  ErrorsAt.bind bind_errorsAt fun _ bound =>
    readParams_errorsAt fun _ _ filled => mem_arguments_of_bind bound filled

end Directive

/-! ## Names in a derive list -/

theorem takeLastName?_passes {fuel : Nat} {row rest : List Token} {n : Name}
    (h : takeLastName? fuel row = some (n, rest)) : Passes row rest [n.position] := by
  induction fuel generalizing row with
  | zero => cases h
  | succ fuel ih =>
      rw [takeLastName?] at h
      split at h
      case h_1 i p more after read =>
        have first := Rule.take?_passes read
        split at h
        case h_1 marks beyond colons =>
          split at h
          · cases h
            exact first.mono (by simp)
          · exact (first.append ((Rule.takeMarks_passes colons).append (ih h))).mono (by simp)
        case h_2 =>
          cases h
          exact first.mono (by simp)
      case h_2 => cases h

theorem lastNames?_places {fuel : Nat} {row : List Token} {names : List Name}
    (h : lastNames? fuel row = some names) : ∀ n ∈ names, n.position ∈ places row := by
  induction fuel generalizing row names with
  | zero =>
      cases row with
      | nil =>
          cases h
          nofun
      | cons t row => cases h
  | succ fuel ih =>
      cases row with
      | nil =>
          cases h
          nofun
      | cons t row =>
          unfold lastNames? at h
          extract_lets path at h
          have start : Passes (t :: row) path [] := by
            unfold path
            split
            case h_1 marks rest colons => exact (Rule.takeMarks_passes colons).unplaced
            case h_2 => exact .nothing
          obtain ⟨⟨name, rest⟩, read, h⟩ := Option.bind_eq_some_iff.1 h
          have passes := start.append (takeLastName?_passes read)
          have first := passes.mem_places name.position (by simp)
          dsimp only at h
          split at h
          · cases h
            simpa using first
          case h_2 joint p after =>
            obtain ⟨more, others, h⟩ := Option.bind_eq_some_iff.1 h
            cases h
            rw [List.forall_mem_cons]
            exact ⟨first, fun n listed =>
              passes.places_rest _ (List.mem_cons_of_mem _ (ih others n listed))⟩
          · cases h

/-- The names in a derive list stand in it. -/
theorem Attribute.position_of_mem_derived {a : Attribute} {n : Name} (h : n ∈ a.derived) :
    n.position ∈ a.places := by
  unfold derived at h
  split at h
  case h_1 i delimiter tokens opens closes named listed =>
    split at h
    · cases read : lastNames? (tokens.length + 1) tokens with
      | none =>
          rw [read] at h
          cases h
      | some names =>
          rw [read] at h
          have inTokens := lastNames?_places read n h
          simp only [places, listed, AttributeArguments.places, List.mem_cons, List.mem_append]
          exact .inr (.inr (.inl inTokens))
    · cases h
  case h_2 => cases h

end DomainValues
