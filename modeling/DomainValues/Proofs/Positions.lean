import DomainValues.Declaration

/-!
# Reading without positions

Tokens, names, attributes and visibilities without their positions (`unplaced`) all stand at the
start of the text.  Positions are only reported: what a rule takes from tokens without positions is
what it takes from the placed ones, without positions (`Source.Rule.run_unplaced`, by induction on
the fuel, with a case for each form of a rule), and so are the names in a derive list
(`Attribute.derived_unplaced`).
-/

namespace DomainValues

/-! ## Tokens without positions -/

mutual

/-- A token without its positions. -/
def Token.unplaced : Token → Token
  | .word i _ => .word i .start
  | .mark c joint _ => .mark c joint .start
  | .literal text _ => .literal text .start
  | .group d content _ _ => .group d (Token.allUnplaced content) .start .start

/-- Tokens without their positions. -/
def Token.allUnplaced : List Token → List Token
  | [] => []
  | t :: rest => t.unplaced :: Token.allUnplaced rest

end

namespace Token

theorem allUnplaced_eq_map (tokens : List Token) : allUnplaced tokens = tokens.map unplaced := by
  induction tokens with
  | nil => rfl
  | cons t rest ih => rw [allUnplaced, ih, List.map_cons]

@[simp] theorem unplaced_word {i : Ident} {p : Position} :
    (word i p).unplaced = word i .start := by rw [unplaced]

@[simp] theorem unplaced_mark {c : Char} {joint : Bool} {p : Position} :
    (mark c joint p).unplaced = mark c joint .start := by rw [unplaced]

@[simp] theorem unplaced_literal {text : String} {p : Position} :
    (literal text p).unplaced = literal text .start := by rw [unplaced]

@[simp] theorem unplaced_group {d : Delimiter} {content : List Token} {p q : Position} :
    (group d content p q).unplaced = group d (content.map unplaced) .start .start := by
  rw [unplaced, allUnplaced_eq_map]

mutual

@[simp] theorem size_unplaced : (t : Token) → t.unplaced.size = t.size
  | .word .. | .mark .. | .literal .. => by simp [size]
  | .group d content p q => by rw [unplaced_group, size, size, sizes_unplaced content]

@[simp] theorem sizes_unplaced : (tokens : List Token) →
    sizes (tokens.map unplaced) = sizes tokens
  | [] => rfl
  | t :: rest => by rw [List.map_cons, sizes, sizes, size_unplaced t, sizes_unplaced rest]

end

/-- Two rows without their positions. -/
def bothUnplaced : List Token × List Token → List Token × List Token :=
  Prod.map (List.map unplaced) (List.map unplaced)

end Token

namespace Source.Rule

open Token (bothUnplaced)

variable {π : Type} (grammar : π → Rule π)

theorem takeMarks_unplaced (marks : List Char) (tokens : List Token) :
    takeMarks marks (tokens.map Token.unplaced) = (takeMarks marks tokens).map bothUnplaced := by
  induction marks generalizing tokens with
  | nil => rfl
  | cons c more ih =>
      rcases tokens with _ | ⟨_ | ⟨d, joint, p⟩ | _ | _, rest⟩
      case cons.mark =>
        rw [List.map_cons, Token.unplaced_mark, takeMarks, takeMarks, ih]
        split
        · cases takeMarks more rest <;> simp [bothUnplaced]
        · rfl
      all_goals simp [takeMarks]

/-- What a rule for a single token asks of it is no position. -/
theorem unplaced_of_single? {rule : Rule π} {test : Token → Bool}
    (single : rule.single? = some test) (t : Token) : test t.unplaced = test t := by
  cases rule
  case word name =>
    cases single
    cases t <;> simp
  case ident =>
    cases single
    cases t <;> simp
  case anyWord =>
    cases single
    cases t <;> simp
  case literal test =>
    cases single
    cases t <;> simp
  all_goals cases single

theorem run_unplaced_of_single? {rule : Rule π} {test : Token → Bool}
    (single : rule.single? = some test) (fuel : Nat) (tokens : List Token) :
    run grammar (fuel + 1) rule (tokens.map Token.unplaced) =
      (run grammar (fuel + 1) rule tokens).map bothUnplaced := by
  rw [run_of_single? single, run_of_single? single]
  cases tokens with
  | nil => rfl
  | cons t rest =>
      rw [List.map_cons, takeOne, takeOne, unplaced_of_single? single]
      split <;> simp [bothUnplaced]

/-- What a rule takes does not depend on positions. -/
theorem run_unplaced (fuel : Nat) (rule : Rule π) (tokens : List Token) :
    run grammar fuel rule (tokens.map Token.unplaced) =
      (run grammar fuel rule tokens).map bothUnplaced := by
  induction fuel generalizing rule tokens with
  | zero => rfl
  | succ fuel ih =>
      cases rule with
      | empty => rfl
      | impossible => rfl
      | word _ | ident | anyWord | literal _ =>
          exact run_unplaced_of_single? grammar rfl fuel tokens
      | operator marks => exact takeMarks_unplaced marks tokens
      | lifetime =>
          rcases tokens with _ | ⟨_ | ⟨c, joint, p⟩ | _ | _, _ | ⟨_ | _ | _ | _, rest⟩⟩
          case cons.mark.cons.word i q =>
            by_cases quote : c = '\'' <;> cases joint <;> simp [run, quote, bothUnplaced]
          all_goals simp [run]
      | group delimiter content =>
          rcases tokens with _ | ⟨_ | _ | _ | ⟨d, inside, p, q⟩, rest⟩
          case cons.group =>
            simp only [run, List.map_cons, Token.unplaced_group, ih]
            split
            · rcases run grammar fuel content inside with _ | ⟨taken, _ | ⟨t, more⟩⟩ <;>
                simp [bothUnplaced]
            · rfl
          all_goals simp [run]
      | anything => simp [run, bothUnplaced]
      | both first second =>
          simp only [run, ih]
          rcases run grammar fuel first tokens with _ | ⟨taken, rest⟩
          · rfl
          · simp only [Option.map_some, Option.bind_eq_bind, Option.bind_some, bothUnplaced,
              Prod.map_apply, ih]
            rcases run grammar fuel second rest with _ | ⟨more, rest⟩ <;> simp
      | either first second =>
          simp only [run, ih]
          rcases run grammar fuel first tokens with _ | ⟨taken, rest⟩ <;> simp
      | many r =>
          simp only [run, ih]
          rcases run grammar fuel r tokens with _ | ⟨taken, rest⟩
          · simp [bothUnplaced]
          · simp only [Option.map_some, bothUnplaced, Prod.map_apply, List.length_map, ih]
            split
            · rcases run grammar fuel (many r) rest with _ | ⟨more, rest⟩ <;> simp
            · rfl
      | ahead r =>
          simp only [run, ih]
          cases run grammar fuel r tokens <;> simp [bothUnplaced]
      | absent r =>
          simp only [run, ih]
          cases run grammar fuel r tokens <;> simp [bothUnplaced]
      | finish => cases tokens <;> simp [run, bothUnplaced]
      | omitted r =>
          simp only [run, ih]
          cases run grammar fuel r tokens <;> simp [bothUnplaced]
      | verbatim r =>
          simp only [run, ih]
          cases run grammar fuel r tokens <;> simp [bothUnplaced, List.map_take]
      | call production => exact ih (grammar production) tokens

theorem take?_unplaced (rule : Rule π) (tokens : List Token) :
    take? grammar rule (tokens.map Token.unplaced) =
      (take? grammar rule tokens).map bothUnplaced := by
  rw [take?, take?, ample, ample, Token.sizes_unplaced, run_unplaced]

end Source.Rule

/-! ## Attributes -/

/-- A name without its position. -/
def Name.unplaced (n : Name) : Name := ⟨n.ident, .start⟩

/-- A path without its positions. -/
def NamePath.unplaced (p : NamePath) : NamePath := ⟨.start, p.absolute, p.names.map Name.unplaced⟩

/-- What follows the path of an attribute, without positions. -/
def AttributeArguments.unplaced : AttributeArguments → AttributeArguments
  | .none => .none
  | .list d tokens _ _ => .list d (tokens.map Token.unplaced) .start .start
  | .value tokens => .value (tokens.map Token.unplaced)

/-- An attribute without its positions. -/
def Attribute.unplaced (a : Attribute) : Attribute :=
  ⟨.start, a.inner, a.path.unplaced, a.arguments.unplaced⟩

/-- A visibility without its positions. -/
def Visibility.unplaced : Visibility → Visibility
  | .inherited => .inherited
  | .everywhere => .everywhere
  | .inside path spelled => .inside path.unplaced spelled

theorem NamePath.single?_unplaced (p : NamePath) : p.unplaced.single? = p.single? := by
  obtain ⟨position, absolute, names⟩ := p
  rcases absolute with _ | _ <;> rcases names with _ | ⟨n, _ | ⟨_, _⟩⟩ <;> rfl

theorem Visibility.reaches_unplaced (v : Visibility) (depth : Nat) :
    v.unplaced.reaches depth = v.reaches depth := by
  cases v with
  | inherited => rfl
  | everywhere => rfl
  | inside path spelled => rw [unplaced, reaches, reaches, NamePath.single?_unplaced]

/-! ### Names in a derive list -/

open Source in
theorem takeLastName?_unplaced (fuel : Nat) (tokens : List Token) :
    takeLastName? fuel (tokens.map Token.unplaced) =
      (takeLastName? fuel tokens).map (Prod.map Name.unplaced (List.map Token.unplaced)) := by
  induction fuel generalizing tokens with
  | zero => rfl
  | succ fuel ih =>
      rw [takeLastName?, takeLastName?, Grammar.take?, Grammar.take?, Rule.take?_unplaced]
      rcases Rule.take? Grammar.rules Grammar.angleSegment tokens with _ | ⟨taken, rest⟩
      · rfl
      rcases taken with _ | ⟨_ | _ | _ | _, _⟩
      case cons.word i p more =>
        simp only [Option.map_some, Token.bothUnplaced, Prod.map_apply, List.map_cons,
          Token.unplaced_word, Rule.takeMarks_unplaced]
        rcases Rule.takeMarks [':', ':'] rest with _ | ⟨marks, after⟩
        · rfl
        rcases after with _ | ⟨_ | _ | _ | ⟨d, _, _, _⟩, after⟩
        case nil => exact ih []
        case cons.group =>
          cases d
          case parenthesis => simp [Name.unplaced]
          all_goals exact ih (.group _ _ _ _ :: after)
        all_goals exact ih (_ :: after)
      all_goals simp [Token.bothUnplaced]

open Source in
/-- The last name of a path, and those of the paths after it.  The fuel bounds their number. -/
def namesFrom? (fuel : Nat) (path : List Token) : Option (List Name) := do
  let (name, rest) ← takeLastName? path.length path
  match rest with
  | [] => pure [name]
  | .mark ',' _ _ :: rest => do
      let names ← lastNames? fuel rest
      pure (name :: names)
  | _ => none

open Source in
theorem lastNames?_succ (fuel : Nat) (t : Token) (tokens : List Token) :
    lastNames? (fuel + 1) (t :: tokens) =
      namesFrom? fuel (((Rule.takeMarks [':', ':'] (t :: tokens)).map Prod.snd).getD
        (t :: tokens)) := by
  rw [lastNames?]
  rcases Rule.takeMarks [':', ':'] (t :: tokens) with _ | ⟨marks, rest⟩ <;> rfl

theorem lastNames?_unplaced (fuel : Nat) (tokens : List Token) :
    lastNames? fuel (tokens.map Token.unplaced) =
      (lastNames? fuel tokens).map (List.map Name.unplaced) := by
  induction fuel generalizing tokens with
  | zero => cases tokens <;> rfl
  | succ fuel ih =>
      have from? (path : List Token) : namesFrom? fuel (path.map Token.unplaced) =
          (namesFrom? fuel path).map (List.map Name.unplaced) := by
        rw [namesFrom?, namesFrom?, List.length_map, takeLastName?_unplaced]
        rcases takeLastName? path.length path with _ | ⟨name, rest⟩
        · rfl
        rcases rest with _ | ⟨_ | ⟨c, joint, p⟩ | _ | _, rest⟩
        case cons.mark =>
          by_cases comma : c = ','
          · subst comma
            simp only [Option.map_some, Prod.map_apply, List.map_cons, Token.unplaced_mark,
              Option.bind_eq_bind, Option.bind_some, ih]
            cases lastNames? fuel rest <;> simp
          · simp [comma]
        all_goals simp
      rcases tokens with _ | ⟨t, tokens⟩
      · rfl
      rw [List.map_cons, lastNames?_succ, lastNames?_succ, ← List.map_cons,
        Source.Rule.takeMarks_unplaced, ← from?]
      rcases Source.Rule.takeMarks [':', ':'] (t :: tokens) with _ | ⟨marks, rest⟩ <;> rfl

namespace Attribute

@[simp] theorem kind?_unplaced (a : Attribute) : a.unplaced.kind? = a.kind? := by
  rw [kind?, kind?, name?, name?, unplaced, NamePath.single?_unplaced]

theorem derived_unplaced (a : Attribute) : a.unplaced.derived = a.derived.map Name.unplaced := by
  obtain ⟨position, inner, path, arguments⟩ := a
  rw [derived, derived, name?, name?, unplaced, NamePath.single?_unplaced]
  cases path.single? with
  | none => rfl
  | some i =>
      cases arguments with
      | none => rfl
      | value tokens => rfl
      | list d tokens p q =>
          simp only [AttributeArguments.unplaced, List.length_map, lastNames?_unplaced]
          split
          · cases lastNames? (tokens.length + 1) tokens <;> rfl
          · rfl

theorem withoutDirectives_unplaced (attributes : List Attribute) :
    withoutDirectives (attributes.map unplaced) = (withoutDirectives attributes).map unplaced := by
  rw [withoutDirectives, withoutDirectives, List.filter_map]
  simp only [Function.comp_def, kind?_unplaced]

end Attribute

end DomainValues
