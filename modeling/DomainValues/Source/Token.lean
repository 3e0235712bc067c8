/-!
# Tokens

Source text as trees of tokens: words, punctuation marks, literals, and groups in brackets.
A mark knows whether the next character is a mark too (it is *joint*), which is how `>>` as one
operator differs from two closing brackets.

Every token knows its place.  A place is a line, counted from one, and a column, counted in scalar
values from zero.  Only a line feed ends a line.

`Token.render` writes tokens with one blank between neighbours and none after a joint mark.
-/

namespace DomainValues

/-! ## Positions -/

/-- A place in a source text. -/
structure Position where
  /-- The line, from one. -/
  line : Nat
  /-- The column, from zero. -/
  column : Nat
  deriving DecidableEq, Repr, Inhabited

namespace Position

/-- The start of a text.  What stands nowhere in a text is placed here too. -/
def start : Position := ⟨1, 0⟩

/-- The place after one character. -/
def next (p : Position) (c : Char) : Position :=
  if c = '\n' then ⟨p.line + 1, 0⟩ else ⟨p.line, p.column + 1⟩

/-- The place after some characters. -/
def advance (p : Position) (cs : List Char) : Position := cs.foldl next p

theorem advance_append (p : Position) (cs ds : List Char) :
    p.advance (cs ++ ds) = (p.advance cs).advance ds := by
  simp [advance]

end Position
/-! ## Identifiers and tokens -/

/-- An identifier.  A raw one is written with `r#` and may be spelled like a keyword. -/
structure Ident where
  /-- Whether it is written raw. -/
  raw : Bool
  /-- The spelling without `r#`. -/
  name : String
  deriving DecidableEq, Repr, Inhabited

/-- The identifier as it is written. -/
def Ident.text (i : Ident) : String := if i.raw then "r#" ++ i.name else i.name

/-- The identifier that is written without `r#`. -/
def Ident.plain (name : String) : Ident := ⟨false, name⟩

/-- An identifier and where it stands. -/
structure Name where
  /-- The identifier. -/
  ident : Ident
  /-- Where it starts. -/
  position : Position
  deriving DecidableEq, Repr, Inhabited

/-- The name as it is written. -/
def Name.text (n : Name) : String := n.ident.text

/-- The spelling of the name, without `r#`. -/
def Name.bare (n : Name) : String := n.ident.name

/-- The brackets of a group. -/
inductive Delimiter where
  | parenthesis
  | bracket
  | brace
  deriving DecidableEq, Repr

/-- One token, or a group of them. -/
inductive Token where
  /-- An identifier or keyword. -/
  | word (ident : Ident) (position : Position)
  /-- A punctuation mark. -/
  | mark (char : Char) (joint : Bool) (position : Position)
  /-- A literal, as it is written. -/
  | literal (text : String) (position : Position)
  /-- Tokens in brackets, with the places of the brackets. -/
  | group (delimiter : Delimiter) (content : List Token) (opens closes : Position)
  deriving Repr, Inhabited

namespace Token

/-- Where the token starts. -/
def position : Token → Position
  | word _ p => p
  | mark _ _ p => p
  | literal _ p => p
  | group _ _ p _ => p

/-- Whether the token is a joint mark. -/
def isJoint : Token → Bool
  | mark _ joint _ => joint
  | _ => false

/-- The opening bracket of a group, as it is written. -/
def openText : Delimiter → String
  | .parenthesis => "("
  | .bracket => "["
  | .brace => "\x7b "

/-- The closing bracket of a group, as it is written after its content. -/
def closeText (content : List Token) : Delimiter → String
  | .parenthesis => ")"
  | .bracket => "]"
  | .brace => if content.isEmpty then "\x7d" else " \x7d"

mutual

/-- The text of one token. -/
def text : Token → String
  | word i _ => i.text
  | mark c _ _ => c.toString
  | literal t _ => t
  | group d content _ _ => openText d ++ render content ++ closeText content d

/-- The text of tokens in a row. -/
def render : List Token → String
  | [] => ""
  | [t] => text t
  | t :: u :: rest => text t ++ (if t.isJoint then "" else " ") ++ render (u :: rest)

end

mutual

/-- The number of tokens, counting each group with its content. -/
def size : Token → Nat
  | group _ content _ _ => sizes content + 1
  | _ => 1

/-- The number of tokens of a row. -/
def sizes : List Token → Nat
  | [] => 0
  | t :: rest => size t + sizes rest

end

/-! ## Making tokens

Tokens that are generated stand at the start of the text. -/

/-- A word. -/
def ofWord (name : String) : Token := word (.plain name) .start

/-- A name in its place. -/
def ofName (n : Name) : Token := word n.ident n.position

/-- The marks of an operator: all joint but the last. -/
def ofMarks (position : Position) : List Char → List Token
  | [] => []
  | [c] => [mark c false position]
  | c :: rest => mark c true position :: ofMarks (position.next c) rest

/-- The tokens of an operator. -/
def symbol (operator : String) : List Token := ofMarks .start operator.toList

/-- A group of generated tokens. -/
def inGroup (delimiter : Delimiter) (content : List Token) : Token :=
  group delimiter content .start .start

/-- A lifetime: the quote, joint, and the name. -/
def lifetime (name : String) : List Token := [mark '\'' true .start, ofWord name]

end Token
end DomainValues
