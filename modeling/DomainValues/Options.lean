import DomainValues.Source.Attribute
import DomainValues.Source.SyntaxError

/-!
# Options of a pass

A pass takes two options, `registry = Name` and `runtime = path`, in any order and any number of
times; the last one of a name counts.  The runtime is reached from modules at any depth, so its
path must not depend on where it stands.

The end of the text has no place of its own: a fault there is placed at the start.
-/

namespace DomainValues

/-- The options of a pass. -/
structure Options where
  /-- The name of the registration type. -/
  registry : Ident
  /-- The path by which generated code reaches the runtime. -/
  runtime : List Token
  deriving Repr

namespace Options

open Source

/-- The options that hold where none are given. -/
def default : Options :=
  { registry := .plain "ValueTypes", runtime := Token.symbol "::" ++ [.ofWord "valtype"] }

/-- The path of what generated code alone may use. -/
def hidden (o : Options) : List Token := o.runtime ++ Token.symbol "::" ++ [.ofWord "__private"]

/-! ## Reading -/

/-- Where a row goes on; its end is placed at the start of the text. -/
def place (tokens : List Token) : Position := (tokens.head?.map Token.position).getD .start

/-- The refusal of what stands at the start of a row. -/
def refuse (expected : Expected) (tokens : List Token) : SyntaxError :=
  ⟨if tokens.isEmpty then .endOfInput expected else .missing expected, place tokens⟩

/-- Takes an operator. -/
def takeOperator (text : String) (tokens : List Token) : Except SyntaxError (List Token) :=
  match Rule.takeMarks text.toList tokens with
  | some (_, rest) => .ok rest
  | none => .error ⟨.missing (.operator text), place tokens⟩

/-- Takes an operator if it is there, and tells whether it was. -/
def skipOperator (text : String) (tokens : List Token) : Bool × List Token :=
  match Rule.takeMarks text.toList tokens with
  | some (_, rest) => (true, rest)
  | none => (false, tokens)

/-- Takes an identifier that is no keyword. -/
def takeIdentifier : List Token → Except SyntaxError (Name × List Token)
  | .word i p :: rest =>
      if Rule.isName i then .ok (⟨i, p⟩, rest) else .error ⟨.keyword i.text, p⟩
  | tokens => .error (refuse .identifier tokens)

/-- The names after the first of an option's path.  The fuel bounds their number. -/
def takeSegments : (fuel : Nat) → List Token → Except SyntaxError (List Name × List Token)
  | 0, tokens => .ok ([], tokens)
  | fuel + 1, tokens =>
      match skipOperator "::" tokens with
      | (false, _) => .ok ([], tokens)
      | (true, .word i p :: rest) => do
          let (more, rest) ← takeSegments fuel rest
          pure (⟨i, p⟩ :: more, rest)
      | (true, rest) => .error (refuse .segment rest)

/-- Whether a row starts with a literal. -/
def startsWithLiteral : List Token → Bool
  | .literal .. :: _ => true
  | .mark '-' _ _ :: .literal text _ :: _ => text.toList.head?.any Char.isDigit
  | _ => false

/-- Takes the path that names an option.  Any keyword may stand in it. -/
def takeOptionPath (tokens : List Token) : Except SyntaxError (NamePath × List Token) :=
  let (absolute, tokens) := skipOperator "::" tokens
  match tokens with
  | .word i p :: rest => do
      let (more, rest) ← takeSegments rest.length rest
      pure (⟨p, absolute, ⟨i, p⟩ :: more⟩, rest)
  | [] => .error (refuse .option [])
  | t :: rest =>
      .error
        ⟨if startsWithLiteral (t :: rest) then .optionLiteral else .optionToken, t.position⟩

/-- Takes a segment of the runtime's path, in uniform form. -/
def takePathSegment (tokens : List Token) : Except SyntaxError (List Token × List Token) :=
  match Grammar.take? Grammar.angleSegment tokens with
  | some found => .ok found
  | none => (takeIdentifier tokens).map fun (name, rest) => ([Token.ofName name], rest)

/-- Whether parentheses follow, which end a path. -/
def startsWithParentheses : List Token → Bool
  | .group .parenthesis .. :: _ => true
  | _ => false

/-- The segments after the first of the runtime's path.  The fuel bounds their number. -/
def takePathSegments : (fuel : Nat) → List Token → Except SyntaxError (List Token × List Token)
  | 0, tokens => .ok ([], tokens)
  | fuel + 1, tokens =>
      match skipOperator "::" tokens with
      | (false, _) => .ok ([], tokens)
      | (true, after) =>
          if startsWithParentheses after then .ok ([], tokens)
          else do
            let (segment, rest) ← takePathSegment after
            let (more, rest) ← takePathSegments fuel rest
            pure (Token.symbol "::" ++ segment ++ more, rest)

/-- Whether a segment is the root of the crate. -/
def isCrate : List Token → Bool
  | [.word i _] => i == .plain "crate"
  | _ => false

/-- Takes the runtime's path, in uniform form.  It starts with `::` or `crate`. -/
def takeRuntime (tokens : List Token) : Except SyntaxError (List Token × List Token) := do
  let (absolute, after) := skipOperator "::" tokens
  let (first, rest) ← takePathSegment after
  let (more, rest) ← takePathSegments rest.length rest
  if absolute then pure (Token.symbol "::" ++ first ++ more, rest)
  else if isCrate first then pure (first ++ more, rest)
  else .error ⟨.relativeRuntime, place tokens⟩

/-- Reads one option on top of those before it. -/
def readOption (before : Options) (tokens : List Token) :
    Except SyntaxError (Options × List Token) := do
  let (path, rest) ← takeOptionPath tokens
  if path.single? = some (.plain "registry") then
    let (name, rest) ← takeIdentifier (← takeOperator "=" rest)
    pure (⟨name.ident, before.runtime⟩, rest)
  else if path.single? = some (.plain "runtime") then
    let (runtime, rest) ← takeRuntime (← takeOperator "=" rest)
    pure (⟨before.registry, runtime⟩, rest)
  else .error ⟨.unknownOption (Token.render path.tokens), path.position⟩

/-- Reads options separated by commas up to the end of the row.  The fuel bounds their number. -/
def readFrom (before : Options) : (fuel : Nat) → List Token → Except SyntaxError Options
  | _, [] => .ok before
  | 0, t :: _ => .error ⟨.missing (.operator ","), t.position⟩
  | fuel + 1, t :: tokens => do
      let (read, rest) ← readOption before (t :: tokens)
      if rest.isEmpty then pure read
      else readFrom read fuel (← takeOperator "," rest)

/-- The options that tokens give. -/
def read (tokens : List Token) : Except SyntaxError Options :=
  readFrom default tokens.length tokens

end Options
end DomainValues
