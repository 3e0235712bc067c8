import DomainValues.Source.Literal
import DomainValues.Source.Token

/-!
# Rules for rows of tokens

A rule describes rows of tokens by what may stand there, in order of preference: the first
choice that fits is taken and never given up.  Rules refer to one another through named
productions, so that a grammar is a function from productions to rules.

`Rule.run` finds the start of a row that a rule describes.  Its answer is that start in
*uniform* form and the tokens after it.  In uniform form the marks of one operator are joint
and the last mark of an operator is not, however closely the operators were written.
-/

namespace DomainValues.Source

/-- What may stand at the start of a row of tokens.  `π` names the productions. -/
inductive Rule (π : Type) where
  /-- Nothing. -/
  | empty
  /-- What never stands anywhere. -/
  | impossible
  /-- A word that is not raw. -/
  | word (name : String)
  /-- An identifier that is not a keyword. -/
  | ident
  /-- Any identifier or keyword. -/
  | anyWord
  /-- The marks of an operator. -/
  | operator (marks : List Char)
  /-- A lifetime. -/
  | lifetime
  /-- A literal that starts as the test says. -/
  | literal (test : List Char → Bool)
  /-- A group whose whole content fits. -/
  | group (delimiter : Delimiter) (content : Rule π)
  /-- All tokens there are, as they are. -/
  | anything
  /-- One after the other. -/
  | both (first second : Rule π)
  /-- The first that fits. -/
  | either (first second : Rule π)
  /-- As often as it fits. -/
  | many (rule : Rule π)
  /-- What fits must follow, and is not taken. -/
  | ahead (rule : Rule π)
  /-- What fits must not follow. -/
  | absent (rule : Rule π)
  /-- The end of the row. -/
  | finish
  /-- What fits, left out. -/
  | omitted (rule : Rule π)
  /-- What fits, as it is. -/
  | verbatim (rule : Rule π)
  /-- A production. -/
  | call (production : π)

namespace Rule

variable {π : Type}

/-- One after the other. -/
def seq : List (Rule π) → Rule π
  | [] => empty
  | [r] => r
  | r :: rest => both r (seq rest)

/-- The first that fits. -/
def alt : List (Rule π) → Rule π
  | [] => impossible
  | [r] => r
  | r :: rest => either r (alt rest)

/-- At most once. -/
def opt (r : Rule π) : Rule π := either r empty

/-- An operator. -/
def op (text : String) : Rule π := operator text.toList

/-- Any number, each but the last followed by a separator, which may follow the last too. -/
def separated (separator r : Rule π) : Rule π :=
  opt (seq [r, many (both separator r), opt separator])

/-- Any number, separated by commas. -/
def list (r : Rule π) : Rule π := separated (op ",") r

/-- At least one, joined by a separator. -/
def joined (separator r : Rule π) : Rule π := both r (many (both separator r))

/-! ## Running rules -/

/-- Takes the marks of an operator, all joint but the last, in uniform form. -/
def takeMarks : List Char → List Token → Option (List Token × List Token)
  | [], tokens => some ([], tokens)
  | c :: more, .mark d joint p :: rest =>
      if c = d ∧ (joint ∨ more = []) then
        (takeMarks more rest).map fun (taken, after) =>
          (.mark c (!more.isEmpty) p :: taken, after)
      else none
  | _ :: _, _ => none

/-- Whether the identifier may be used as a name. -/
def isName (i : Ident) : Bool := i.raw || !keywords.contains i.name

/-- The start of a row that a rule describes, in uniform form, and what follows it.  The fuel
bounds how deep rules may be entered. -/
def run (grammar : π → Rule π) :
    (fuel : Nat) → Rule π → List Token → Option (List Token × List Token)
  | 0, _, _ => none
  | fuel + 1, rule, tokens => match rule with
      | empty => some ([], tokens)
      | impossible => none
      | word name => match tokens with
          | .word i p :: rest => if i = .plain name then some ([.word i p], rest) else none
          | _ => none
      | ident => match tokens with
          | .word i p :: rest => if isName i then some ([.word i p], rest) else none
          | _ => none
      | anyWord => match tokens with
          | .word i p :: rest => some ([.word i p], rest)
          | _ => none
      | operator marks => takeMarks marks tokens
      | lifetime => match tokens with
          | .mark '\'' true p :: .word i q :: rest =>
              some ([.mark '\'' true p, .word i q], rest)
          | _ => none
      | literal test => match tokens with
          | .literal text p :: rest =>
              if test text.toList then some ([.literal text p], rest) else none
          | _ => none
      | group delimiter content => match tokens with
          | .group d inside p q :: rest =>
              if d = delimiter then
                match run grammar fuel content inside with
                | some (taken, []) => some ([.group d taken p q], rest)
                | _ => none
              else none
          | _ => none
      | anything => some (tokens, [])
      | both first second => do
          let (taken, rest) ← run grammar fuel first tokens
          let (more, rest) ← run grammar fuel second rest
          pure (taken ++ more, rest)
      | either first second =>
          match run grammar fuel first tokens with
          | some found => some found
          | none => run grammar fuel second tokens
      | many r => match run grammar fuel r tokens with
          | none => some ([], tokens)
          | some (taken, rest) =>
              if rest.length < tokens.length then
                (run grammar fuel (many r) rest).map fun (more, rest) => (taken ++ more, rest)
              else some (taken, rest)
      | ahead r => (run grammar fuel r tokens).map fun _ => ([], tokens)
      | absent r => if (run grammar fuel r tokens).isSome then none else some ([], tokens)
      | finish => if tokens.isEmpty then some ([], []) else none
      | omitted r => (run grammar fuel r tokens).map fun (_, rest) => ([], rest)
      | verbatim r => (run grammar fuel r tokens).map fun (_, rest) =>
          (tokens.take (tokens.length - rest.length), rest)
      | call production => run grammar fuel (grammar production) tokens

/-- Takes one token, if it is as a test says. -/
def takeOne (test : Token → Bool) : List Token → Option (List Token × List Token)
  | [] => none
  | t :: rest => if test t then some ([t], rest) else none

/-- What a rule for a single token asks of it. -/
def single? : Rule π → Option (Token → Bool)
  | word name => some fun
      | .word i _ => decide (i = .plain name)
      | _ => false
  | ident => some fun
      | .word i _ => isName i
      | _ => false
  | anyWord => some fun
      | .word _ _ => true
      | _ => false
  | literal test => some fun
      | .literal text _ => test text.toList
      | _ => false
  | _ => none

/-- A rule for a single token takes it. -/
theorem run_of_single? {grammar : π → Rule π} {rule : Rule π} {test : Token → Bool}
    (single : rule.single? = some test) (fuel : Nat) (tokens : List Token) :
    run grammar (fuel + 1) rule tokens = takeOne test tokens := by
  cases rule
  case word name =>
    cases single
    rcases tokens with _ | ⟨_ | _ | _ | _, rest⟩ <;> simp [run, takeOne]
  case ident =>
    cases single
    rcases tokens with _ | ⟨_ | _ | _ | _, rest⟩ <;> simp [run, takeOne]
  case anyWord =>
    cases single
    rcases tokens with _ | ⟨_ | _ | _ | _, rest⟩ <;> simp [run, takeOne]
  case literal test =>
    cases single
    rcases tokens with _ | ⟨_ | _ | _ | _, rest⟩ <;> simp [run, takeOne]
  all_goals cases single

/-- Fuel that is ample for a row of tokens. -/
def ample (tokens : List Token) : Nat := 256 * (Token.sizes tokens + 2)

/-- Takes what a rule describes from the start of a row, in uniform form. -/
def take? (grammar : π → Rule π) (rule : Rule π) (tokens : List Token) :
    Option (List Token × List Token) :=
  run grammar (ample tokens) rule tokens

end Rule
end DomainValues.Source
