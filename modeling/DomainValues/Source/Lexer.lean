import DomainValues.Source.Literal
import DomainValues.Source.Token
import DomainValues.Text.Quoted

/-!
# From text to tokens

A text is cut into *lexemes*: tokens that are not groups, and single brackets.  White space and
comments fall between them.  A documentation comment is a lexeme sequence of its own, an
attribute that holds the text of the comment.  The brackets are then matched into groups
(`assemble?`).

Nothing stands for a text that cannot be cut or whose brackets do not match.
-/

namespace DomainValues.Source

/-- A piece of text. -/
inductive Lexeme where
  /-- A token that is not a group. -/
  | leaf (token : Token)
  /-- An opening bracket. -/
  | opening (delimiter : Delimiter) (position : Position)
  /-- A closing bracket. -/
  | closing (delimiter : Delimiter) (position : Position)

/-! ## Comments -/

/-- The end of a line: the text before its break and the text from the line feed on.  The
carriage return of a break belongs to neither. -/
def splitLine : List Char → List Char × List Char
  | [] => ([], [])
  | '\n' :: rest => ([], '\n' :: rest)
  | '\r' :: '\n' :: rest => ([], '\n' :: rest)
  | c :: rest => let (line, after) := splitLine rest; (c :: line, after)

/-- The inside of a block comment and what follows it, given the text after its opening and
how many comments are open inside it. -/
def splitBlock? : (depth : Nat) → List Char → Option (List Char × List Char)
  | _, [] => none
  | depth, '/' :: '*' :: rest =>
      (splitBlock? (depth + 1) rest).map fun (inside, after) => ('/' :: '*' :: inside, after)
  | 0, '*' :: '/' :: rest => some ([], rest)
  | depth + 1, '*' :: '/' :: rest =>
      (splitBlock? depth rest).map fun (inside, after) => ('*' :: '/' :: inside, after)
  | depth, c :: rest => (splitBlock? depth rest).map fun (inside, after) => (c :: inside, after)

/-- A comment. -/
inductive Comment where
  /-- A comment that says nothing to the reader of tokens, and the text after it. -/
  | plain (after : List Char)
  /-- The text of a documentation comment, and the text after it. -/
  | documentation (inner : Bool) (text after : List Char)

/-- The comment at the start of a text that starts with a slash and a slash or an asterisk.
Three slashes or two asterisks make documentation, more do not, nor does the empty block. -/
def comment? (cs : List Char) : Option Comment :=
  match cs with
  | '/' :: '/' :: '!' :: rest =>
      let (text, after) := splitLine rest
      some (.documentation true text after)
  | '/' :: '/' :: '/' :: '/' :: rest => some (.plain (splitLine rest).2)
  | '/' :: '/' :: '/' :: rest =>
      let (text, after) := splitLine rest
      some (.documentation false text after)
  | '/' :: '/' :: rest => some (.plain (splitLine rest).2)
  | '/' :: '*' :: '*' :: '/' :: rest => some (.plain rest)
  | '/' :: '*' :: '*' :: '*' :: rest =>
      (splitBlock? 0 ('*' :: '*' :: rest)).map fun (_, after) => .plain after
  | '/' :: '*' :: rest =>
      (splitBlock? 0 rest).map fun (inside, after) =>
        match inside with
        | '!' :: text => .documentation true text after
        | '*' :: text => .documentation false text after
        | _ => .plain after
  | _ => none

/-- Whether each carriage return stands before a line feed. -/
def returnsPaired : List Char → Bool
  | [] => true
  | '\r' :: '\n' :: rest => returnsPaired rest
  | '\r' :: _ => false
  | _ :: rest => returnsPaired rest

/-- The attribute that a documentation comment stands for. -/
def documentation (inner : Bool) (text : List Char) (p : Position) : List Lexeme :=
  [.leaf (.mark '#' false p)] ++ (if inner then [.leaf (.mark '!' false p)] else []) ++
    [.opening .bracket p, .leaf (.word (.plain "doc") p), .leaf (.mark '=' false p),
      .leaf (.literal (Text.literal (String.ofList text)) p), .closing .bracket p]

/-! ## Words and marks -/

/-- The openings of literals that no word starts with. -/
def literalOpenings : List (List Char) :=
  ["r\"", "r#\"", "r##", "b\"", "b'", "br\"", "br#", "c\"", "cr\"", "cr#"].map String.toList

/-- An identifier, raw or not, and what follows it. -/
def ident? (cs : List Char) : Option (Ident × List Char) :=
  match cs with
  | 'r' :: '#' :: rest =>
      (afterWord? rest).bind fun after =>
        let name := String.ofList (rest.take (rest.length - after.length))
        if ["_", "super", "self", "Self", "crate"].contains name then none
        else some (⟨true, name⟩, after)
  | _ =>
      (afterWord? cs).map fun after =>
        (.plain (String.ofList (cs.take (cs.length - after.length))), after)

/-- Whether a mark that is not the start of a comment stands at the start of the text. -/
def startsWithMark (cs : List Char) : Bool :=
  match cs with
  | '/' :: '/' :: _ => false
  | '/' :: '*' :: _ => false
  | c :: _ => isMark c
  | [] => false

/-- A mark and what follows it.  A single quote is the mark of a lifetime, whose name follows,
and no other quote or hash after that. -/
def mark? (p : Position) (cs : List Char) : Option (Token × List Char) :=
  if startsWithMark cs then
    match cs with
    | '\'' :: rest =>
        (ident? rest).bind fun (i, after) =>
          if after.head? = some '\'' ∨ (after.head? = some '#' ∧ ¬ i.raw) then none
          else some (.mark '\'' true p, rest)
    | c :: rest => some (.mark c (startsWithMark rest) p, rest)
    | [] => none
  else none

/-- A token that is not a group and what follows it: a literal, a mark or a word, whichever
stands there first in this order. -/
def leaf? (p : Position) (cs : List Char) : Option (Token × List Char) :=
  match afterLiteral? cs with
  | some after => some (.literal (String.ofList (cs.take (cs.length - after.length))) p, after)
  | none =>
      match mark? p cs with
      | some found => some found
      | none =>
          if literalOpenings.any fun opening => opening.isPrefixOf cs then none
          else (ident? cs).map fun (i, after) => (.word i p, after)

/-! ## Lexemes -/

/-- The literal that stands for a token that could not be made. -/
def placeholder : List Char := "(/*ERROR*/)".toList

/-- The bracket that a character opens. -/
def opens? : Char → Option Delimiter
  | '(' => some .parenthesis
  | '[' => some .bracket
  | '\x7b' => some .brace
  | _ => none

/-- The bracket that a character closes. -/
def closes? : Char → Option Delimiter
  | ')' => some .parenthesis
  | ']' => some .bracket
  | '\x7d' => some .brace
  | _ => none

/-- The lexemes at the start of a text that is not empty, possibly none, and what follows. -/
def lexeme? (p : Position) (cs : List Char) : Option (List Lexeme × List Char) :=
  match cs with
  | [] => none
  | c :: rest =>
      if isSpace c then some ([], rest)
      else match comment? cs with
        | some (.plain after) => some ([], after)
        | some (.documentation inner text after) =>
            if returnsPaired text then some (documentation inner text p, after) else none
        | none =>
            if placeholder.isPrefixOf cs then
              some ([.leaf (.literal (String.ofList placeholder) p)], cs.drop placeholder.length)
            else match opens? c, closes? c with
              | some d, _ => some ([.opening d p], rest)
              | none, some d => some ([.closing d p], rest)
              | none, none => (leaf? p cs).map fun (t, after) => ([.leaf t], after)

/-- The lexemes of a text. -/
def lexemes? : (fuel : Nat) → Position → List Char → Option (List Lexeme)
  | _, _, [] => some []
  | 0, _, _ :: _ => none
  | fuel + 1, p, c :: cs => do
      let (found, rest) ← lexeme? p (c :: cs)
      let more ← lexemes? fuel (p.advance ((c :: cs).take (cs.length + 1 - rest.length))) rest
      pure (found ++ more)

/-! ## Groups -/

/-- A group that is open: its bracket, where it stands, and the tokens before it, last first. -/
structure OpenGroup where
  /-- The bracket. -/
  delimiter : Delimiter
  /-- Where it opens. -/
  position : Position
  /-- The tokens before the group, last first. -/
  before : List Token

/-- Matches brackets: the open groups, innermost first, and the tokens of the innermost group
so far, last first. -/
def assemble? : List OpenGroup → List Token → List Lexeme → Option (List Token)
  | [], tokens, [] => some tokens.reverse
  | _ :: _, _, [] => none
  | stack, tokens, .leaf t :: rest => assemble? stack (t :: tokens) rest
  | stack, tokens, .opening d p :: rest => assemble? (⟨d, p, tokens⟩ :: stack) [] rest
  | [], _, .closing _ _ :: _ => none
  | g :: stack, tokens, .closing d p :: rest =>
      if g.delimiter = d then
        assemble? stack (.group d tokens.reverse g.position p :: g.before) rest
      else none

/-- The tokens of a text.  A byte order mark at its start is skipped. -/
def tokens? (text : String) : Option (List Token) :=
  let cs := text.toList
  let (p, cs) := match cs with
    | '\uFEFF' :: rest => (Position.start.next '\uFEFF', rest)
    | _ => (Position.start, cs)
  (lexemes? (cs.length + 1) p cs).bind (assemble? [] [])

end DomainValues.Source
