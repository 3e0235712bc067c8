import DomainValues.Configuration
import DomainValues.Proofs.Positions

/-!
# Directives without positions

An argument, a directive and the refusal of either have positions, which are only reported.  A
directive that is read without positions is the one that is read with them, without positions
(`Directive.ofAttribute_unplaced`), and its parameters have the same values
(`Directive.params_unplaced`); if it is refused, it is refused for the same reason.

Readers are chained, so each lemma follows from those about the steps (`mapBoth_bind`).
-/

namespace DomainValues

/-! ## Computations that may fail -/

section

variable {α β γ δ ε φ : Type}

/-- A result or an error, each replaced. -/
def mapBoth (onError : ε → φ) (onResult : α → β) : Except ε α → Except φ β
  | .error e => .error (onError e)
  | .ok a => .ok (onResult a)

@[simp] theorem mapBoth_error {onError : ε → φ} {onResult : α → β} {e : ε} :
    mapBoth onError onResult (.error e) = .error (onError e) := rfl

@[simp] theorem mapBoth_ok {onError : ε → φ} {onResult : α → β} {a : α} :
    mapBoth onError onResult (.ok a) = .ok (onResult a) := rfl

/-- What follows a replaced result may be replaced afterwards. -/
theorem mapBoth_bind {onError : ε → φ} {onResult : α → β} {later : γ → δ} {x : Except ε α}
    {next : α → Except ε γ} {next' : β → Except φ δ}
    (same : ∀ a, next' (onResult a) = mapBoth onError later (next a)) :
    (mapBoth onError onResult x >>= next') = mapBoth onError later (x >>= next) := by
  cases x with
  | error e => rfl
  | ok a => exact same a

end

/-! ## Directives -/

/-- An argument without its positions. -/
def Argument.unplaced (a : Argument) : Argument := ⟨a.name.map Name.unplaced, a.value, .start⟩

/-- A directive without its positions. -/
def Directive.unplaced (d : Directive) : Directive :=
  ⟨d.kind, .start, d.arguments.map Argument.unplaced⟩

/-- A refusal without its place. -/
def SyntaxError.unplaced (e : SyntaxError) : SyntaxError := ⟨e.fault, .start⟩

namespace Directive

open Source

theorem readLiteral_unplaced (closes : Position) (tokens : List Token) :
    readLiteral .start (tokens.map Token.unplaced) =
      mapBoth SyntaxError.unplaced (fun (found, _, rest) =>
        (found, Position.start, rest.map Token.unplaced)) (readLiteral closes tokens) := by
  rcases tokens with _ | ⟨⟨i, p⟩ | ⟨c, joint, p⟩ | ⟨text, p⟩ | ⟨d, content, p, q⟩, rest⟩
  case nil => rfl
  case cons.literal => simp [readLiteral]
  case cons.group => simp [readLiteral, Token.position, SyntaxError.unplaced]
  case cons.word =>
    rw [List.map_cons, Token.unplaced_word, readLiteral, readLiteral]
    split <;> rfl
  case cons.mark =>
    by_cases minus : c = '-'
    · subst minus
      rcases rest with _ | ⟨_ | _ | ⟨text, q⟩ | _, rest⟩
      case cons.literal =>
        simp only [List.map_cons, Token.unplaced_mark, Token.unplaced_literal, readLiteral]
        cases numberValue? true text <;> rfl
      all_goals simp [readLiteral, Token.position, SyntaxError.unplaced]
    · simp [readLiteral, minus, Token.position, SyntaxError.unplaced]

theorem argumentValue_unplaced (negative : Bool) (found : Found) (p : Position) :
    argumentValue negative found .start =
      mapBoth SyntaxError.unplaced id (argumentValue negative found p) := by
  rcases found with (_ | _ | _ | _) | _ <;> cases negative <;> rfl

theorem takeMinus_unplaced (tokens : List Token) :
    takeMinus (tokens.map Token.unplaced) =
      Prod.map id (List.map Token.unplaced) (takeMinus tokens) := by
  rcases tokens with _ | ⟨_ | ⟨c, joint, p⟩ | _ | _, rest⟩
  case cons.mark => by_cases minus : c = '-' <;> simp [takeMinus, minus]
  all_goals simp [takeMinus]

theorem takeName_unplaced (tokens : List Token) :
    takeName (tokens.map Token.unplaced) =
      Prod.map (Option.map Name.unplaced) (List.map Token.unplaced) (takeName tokens) := by
  rcases tokens with _ | ⟨⟨i, p⟩ | _ | _ | _, _ | ⟨_ | ⟨c, joint, q⟩ | _ | _, rest⟩⟩
  case cons.word.cons.mark =>
    by_cases equals : c = '='
    · subst equals
      simp only [List.map_cons, Token.unplaced_word, Token.unplaced_mark, takeName]
      split <;> simp [Name.unplaced]
    · simp [takeName, equals]
  all_goals simp [takeName]

theorem readArgument_unplaced (closes : Position) (tokens : List Token) :
    readArgument .start (tokens.map Token.unplaced) =
      mapBoth SyntaxError.unplaced (Prod.map Argument.unplaced (List.map Token.unplaced))
        (readArgument closes tokens) := by
  rw [readArgument, readArgument, takeName_unplaced]
  obtain ⟨name, tokens⟩ := takeName tokens
  dsimp only [Prod.map_apply]
  rw [takeMinus_unplaced]
  obtain ⟨negative, tokens⟩ := takeMinus tokens
  dsimp only [Prod.map_apply, id_eq]
  rw [readLiteral_unplaced closes]
  refine mapBoth_bind fun (found, p, rest) => ?_
  dsimp only
  rw [argumentValue_unplaced negative found p]
  exact mapBoth_bind fun value => rfl

theorem readArguments_unplaced (closes : Position) (fuel : Nat) (tokens : List Token) :
    readArguments .start fuel (tokens.map Token.unplaced) =
      mapBoth SyntaxError.unplaced (List.map Argument.unplaced)
        (readArguments closes fuel tokens) := by
  induction fuel generalizing tokens with
  | zero =>
      rcases tokens with _ | ⟨t, tokens⟩
      · rfl
      · cases t <;> simp [readArguments, Token.position, SyntaxError.unplaced]
  | succ fuel ih =>
      rcases tokens with _ | ⟨t, tokens⟩
      · rfl
      rw [List.map_cons, readArguments, readArguments, ← List.map_cons,
        readArgument_unplaced closes]
      refine mapBoth_bind fun (argument, rest) => ?_
      rcases rest with _ | ⟨_ | ⟨c, joint, p⟩ | _ | _, rest⟩
      case nil => rfl
      case cons.mark =>
        by_cases comma : c = ','
        · subst comma
          simp only [Prod.map_apply, List.map_cons, Token.unplaced_mark, ih]
          exact mapBoth_bind fun more => rfl
        · simp [comma, Token.position, SyntaxError.unplaced]
      all_goals simp [Token.position, SyntaxError.unplaced]

/-- Reading a directive does not look at positions. -/
theorem ofAttribute_unplaced (kind : Kind) (a : Attribute) :
    ofAttribute kind a.unplaced =
      mapBoth SyntaxError.unplaced unplaced (ofAttribute kind a) := by
  obtain ⟨position, inner, path, arguments⟩ := a
  cases arguments with
  | none => rfl
  | value tokens => rfl
  | list d tokens p q =>
      rw [Attribute.unplaced, ofAttribute, ofAttribute]
      simp only [AttributeArguments.unplaced, List.length_map, readArguments_unplaced q]
      cases readArguments q (tokens.length + 1) tokens <;> rfl

end Directive

/-! ## Configurations -/

/-- A refused configuration without its place. -/
def ConfigurationError.unplaced (e : ConfigurationError) : ConfigurationError := ⟨e.fault, .start⟩

namespace Directive

variable (d : Directive)

theorem slotOf_unplaced (positional : Nat) (a : Argument) :
    d.unplaced.slotOf positional a.unplaced =
      mapBoth ConfigurationError.unplaced id (d.slotOf positional a) := by
  obtain ⟨name, value, position⟩ := a
  cases name with
  | none =>
      simp only [slotOf, Argument.unplaced, unplaced, Option.map_none, List.length_map]
      split <;> rfl
  | some name =>
      simp only [slotOf, Argument.unplaced, unplaced, Option.map_some, Name.text, Name.unplaced]
      cases d.kind.parameters.findIdx? fun p => name.ident.text == p.name <;> rfl

theorem fill_unplaced (positional : Nat) (slots : List (Option Argument))
    (arguments : List Argument) :
    d.unplaced.fill positional (slots.map (Option.map Argument.unplaced))
        (arguments.map Argument.unplaced) =
      mapBoth ConfigurationError.unplaced (List.map (Option.map Argument.unplaced))
        (d.fill positional slots arguments) := by
  induction arguments generalizing positional slots with
  | nil => rfl
  | cons a rest ih =>
      rw [List.map_cons, fill, fill, slotOf_unplaced]
      refine mapBoth_bind fun i => ?_
      have filled : ((slots.map (Option.map Argument.unplaced))[id i]?.join).isSome =
          (slots[i]?.join).isSome := by
        rw [id, List.getElem?_map]
        rcases slots[i]? with _ | _ | _ <;> rfl
      have set : (slots.map (Option.map Argument.unplaced)).set i (some a.unplaced) =
          (slots.set i (some a)).map (Option.map Argument.unplaced) := by
        rw [List.map_set, Option.map_some]
      have unnamed : a.unplaced.name.isNone = a.name.isNone := Option.isNone_map
      rw [filled, unnamed]
      split
      · obtain ⟨name, value, position⟩ := a
        cases name <;> rfl
      · rw [id, set]
        exact ih ..

theorem missing?_unplaced (parameters : List Parameter) (slots : List (Option Argument)) :
    missing? parameters (slots.map (Option.map Argument.unplaced)) = missing? parameters slots := by
  induction parameters generalizing slots with
  | nil => cases slots <;> rfl
  | cons p ps ih =>
      cases slots with
      | nil => rfl
      | cons slot slots => simp [missing?, ih]

theorem bind_unplaced :
    d.unplaced.bind = mapBoth ConfigurationError.unplaced
      (List.map (Option.map Argument.unplaced)) d.bind := by
  have empty : (d.kind.parameters.map fun _ => (none : Option Argument)) =
      (d.kind.parameters.map fun _ => none).map (Option.map Argument.unplaced) := by
    simp
  have kind : d.unplaced.kind = d.kind := rfl
  have arguments : d.unplaced.arguments = d.arguments.map Argument.unplaced := rfl
  have filled := d.fill_unplaced 0 (d.kind.parameters.map fun _ => none) d.arguments
  rw [← empty] at filled
  unfold bind
  dsimp only
  rw [kind, arguments, filled]
  refine mapBoth_bind fun slots => ?_
  rw [missing?_unplaced]
  cases missing? d.kind.parameters slots <;> rfl

theorem readLength_unplaced (p : Parameter) (a : Argument) :
    readLength p a.unplaced = mapBoth ConfigurationError.unplaced id (readLength p a) := by
  simp only [readLength, Argument.unplaced, invalidLiteral]
  (repeat' split) <;> rfl

theorem readInt32_unplaced (p : Parameter) (a : Argument) :
    readInt32 p a.unplaced = mapBoth ConfigurationError.unplaced id (readInt32 p a) := by
  simp only [readInt32, Argument.unplaced, invalidLiteral]
  (repeat' split) <;> rfl

theorem readReal_unplaced (p : Parameter) (a : Argument) :
    readReal p a.unplaced = mapBoth ConfigurationError.unplaced id (readReal p a) := by
  simp only [readReal, Argument.unplaced, invalidLiteral]
  (repeat' split) <;> rfl

theorem readPattern_unplaced (compile : PatternCompiler) (p : Parameter) (a : Argument) :
    readPattern compile p a.unplaced =
      mapBoth ConfigurationError.unplaced id (readPattern compile p a) := by
  simp only [readPattern, Argument.unplaced, invalidLiteral]
  (repeat' split) <;> rfl

section

variable {α : Type} {read : Parameter → Argument → Except ConfigurationError α}
  (same : ∀ p a, read p a.unplaced = mapBoth ConfigurationError.unplaced id (read p a))
include same

theorem required_unplaced (p : Parameter) (slot : Option Argument) :
    d.unplaced.required read p (slot.map Argument.unplaced) =
      mapBoth ConfigurationError.unplaced id (d.required read p slot) := by
  cases slot with
  | none => rfl
  | some a => exact same p a

theorem optional_unplaced (p : Parameter) (slot : Option Argument) :
    optional read p (slot.map Argument.unplaced) =
      mapBoth ConfigurationError.unplaced id (optional read p slot) := by
  cases slot with
  | none => rfl
  | some a =>
      rw [Option.map_some, optional, optional, same]
      cases read p a <;> rfl

end

/-- A slot without positions holds what the slot holds, without positions. -/
theorem slot_unplaced (slots : List (Option Argument)) (i : Nat) :
    (slots.map (Option.map Argument.unplaced))[i]?.join =
      (slots[i]?.join).map Argument.unplaced := by
  rw [List.getElem?_map]
  rcases slots[i]? with _ | _ | _ <;> rfl

/-- Reading the values of the parameters does not look at positions. -/
theorem readParams_unplaced (compile : PatternCompiler) (slots : List (Option Argument)) :
    d.unplaced.readParams compile (slots.map (Option.map Argument.unplaced)) =
      mapBoth ConfigurationError.unplaced id (d.readParams compile slots) := by
  have slot := slot_unplaced slots
  have kind : d.unplaced.kind = d.kind := rfl
  unfold readParams
  dsimp only
  rw [kind]
  split
  · rfl
  · rw [slot, d.required_unplaced readLength_unplaced]
    refine mapBoth_bind fun min => ?_
    rw [slot, d.required_unplaced readLength_unplaced]
    refine mapBoth_bind fun max => ?_
    rw [slot, optional_unplaced (readPattern_unplaced compile)]
    refine mapBoth_bind fun pattern => ?_
    dsimp only [id_eq]
    split <;> rfl
  · rw [slot, d.required_unplaced readInt32_unplaced]
    refine mapBoth_bind fun min => ?_
    rw [slot, d.required_unplaced readInt32_unplaced]
    refine mapBoth_bind fun max => ?_
    dsimp only [id_eq]
    split <;> rfl
  · rw [slot, d.required_unplaced readReal_unplaced]
    refine mapBoth_bind fun min => ?_
    rw [slot, d.required_unplaced readReal_unplaced]
    refine mapBoth_bind fun max => ?_
    dsimp only [id_eq]
    split <;> rfl

/-- Configuring does not look at positions. -/
theorem params_unplaced : d.unplaced.params = mapBoth ConfigurationError.unplaced id d.params := by
  rw [params, params, paramsBy, paramsBy, bind_unplaced]
  exact mapBoth_bind fun slots => readParams_unplaced d Pattern.compile slots

end Directive
end DomainValues
