import DomainValues.Unicode.Property

/-!
# Characters and literals

Blanks, the characters of words, digits and punctuation marks, and the extent of literals.

For each form of literal, the function here gives the text that follows it, or nothing if no
literal of that form stands at the start of a text.  Any literal may be followed directly by a
word, its suffix.
-/

namespace DomainValues.Source

/-! ## Classes of characters -/

/-- The characters that start a word, apart from the underscore. -/
def wordStarts : CharSet :=
  (Unicode.findChars? Unicode.binaryPropertyRows "xidstart").getD CharSet.empty

/-- The characters that continue a word. -/
def wordRests : CharSet :=
  (Unicode.findChars? Unicode.binaryPropertyRows "xidcontinue").getD CharSet.empty

/-- Whether the character is an ASCII letter. -/
def isLetter (c : Char) : Bool :=
  (decide ('a' ≤ c) && decide (c ≤ 'z')) || (decide ('A' ≤ c) && decide (c ≤ 'Z'))

/-- Whether the character is an ASCII digit. -/
def isDigit (c : Char) : Bool := decide ('0' ≤ c) && decide (c ≤ '9')

/-- Whether a word may start with the character. -/
def isWordStart (c : Char) : Bool :=
  c == '_' || (if c.toNat < 0x80 then isLetter c else wordStarts.contains c.toNat)

/-- Whether a word may go on with the character. -/
def isWordRest (c : Char) : Bool :=
  if c.toNat < 0x80 then isLetter c || isDigit c || c == '_' else wordRests.contains c.toNat

/-- Whether the character separates tokens: white space and the two direction marks. -/
def isSpace (c : Char) : Bool :=
  if c.toNat < 0x80 then c == ' ' || (decide (9 ≤ c.toNat) && decide (c.toNat ≤ 13))
  else Unicode.whiteSpace.contains c.toNat || c.toNat == 0x200E || c.toNat == 0x200F

/-- Whether the character is a punctuation mark. -/
def isMark (c : Char) : Bool := "~!@#$%^&*-=+|;:,<.>/?'".toList.contains c

/-- Whether the character is a hexadecimal digit. -/
def isHexDigit (c : Char) : Bool :=
  isDigit c || (decide ('a' ≤ c) && decide (c ≤ 'f')) || (decide ('A' ≤ c) && decide (c ≤ 'F'))

/-- The value of a hexadecimal digit. -/
def hexValue (c : Char) : Nat :=
  if isDigit c then c.toNat - '0'.toNat
  else if 'a' ≤ c then c.toNat - 'a'.toNat + 10
  else c.toNat - 'A'.toNat + 10

/-- Whether the text is a word. -/
def isWord (text : List Char) : Bool :=
  match text with
  | c :: rest => isWordStart c && rest.all isWordRest
  | [] => false

/-- The keywords, which are identifiers only when written raw. -/
def keywords : List String := [
  "_", "abstract", "as", "async", "await", "become", "box", "break", "const", "continue",
  "crate", "do", "dyn", "else", "enum", "extern", "false", "final", "fn", "for", "if", "impl",
  "in", "let", "loop", "macro", "match", "mod", "move", "mut", "override", "priv", "pub", "ref",
  "return", "Self", "self", "static", "struct", "super", "trait", "true", "try", "type", "typeof",
  "unsafe", "unsized", "use", "virtual", "where", "while", "yield"]

/-! ## Literals -/

/-- What the text in quotes stands for. -/
inductive Flavour where
  /-- Text. -/
  | text
  /-- Bytes. -/
  | bytes
  /-- Text that ends at its first null. -/
  | terminated
  deriving DecidableEq

/-- Whether a character may stand for itself. -/
def Flavour.allows : Flavour → Char → Bool
  | text, _ => true
  | bytes, c => decide (c.toNat < 0x80)
  | terminated, c => c != '\x00'

/-- What follows a word. -/
def afterWord? : List Char → Option (List Char)
  | [] => none
  | c :: rest => if isWordStart c then some (rest.dropWhile isWordRest) else none

/-- What follows an optional suffix. -/
def afterSuffix (cs : List Char) : List Char := (afterWord? cs).getD cs

/-! ## Escapes -/

/-- What follows the digits and the brace of an escape by code.  There are one to six digits,
with underscores after the first, and they name a scalar value. -/
def afterCode? (f : Flavour) : (count value : Nat) → List Char → Option (List Char)
  | _, _, [] => none
  | count, value, c :: rest =>
      if isHexDigit c then
        if count = 6 then none else afterCode? f (count + 1) (16 * value + hexValue c) rest
      else if c = '_' ∧ 0 < count then afterCode? f count value rest
      else if c = '\x7d' ∧ 0 < count ∧ value.isValidChar ∧ (f = .terminated → value ≠ 0) then
        some rest
      else none

/-- What follows an escape, given the text after its backslash. -/
def afterEscape? (f : Flavour) : List Char → Option (List Char)
  | 'x' :: a :: b :: rest =>
      let fits := match f with
        | .text => decide ('0' ≤ a) && decide (a ≤ '7')
        | .bytes => isHexDigit a
        | .terminated => isHexDigit a && (a != '0' || b != '0')
      if fits && isHexDigit b then some rest else none
  | 'u' :: '\x7b' :: rest => if f = .bytes then none else afterCode? f 0 0 rest
  | c :: rest =>
      if "nrt\\'\"".toList.contains c || (c == '0' && f != .terminated) then some rest else none
  | [] => none

/-- What follows the white space that a backslash at the end of a line swallows.  A carriage
return only stands before a line feed, and the text goes on after the white space. -/
def afterContinuation? : List Char → Option (List Char)
  | [] => none
  | '\r' :: '\n' :: rest => match rest with
      | [] => none
      | _ => afterContinuation? rest
  | c :: rest =>
      if c = ' ' ∨ c = '\t' ∨ c = '\n' then afterContinuation? rest
      else if c = '\r' then none
      else some (c :: rest)

/-! ## Text in quotes -/

/-- What follows the closing quote, given the text after the opening one. -/
def afterQuoted? (f : Flavour) : (fuel : Nat) → List Char → Option (List Char)
  | 0, _ => none
  | fuel + 1, cs => match cs with
      | [] => none
      | '"' :: rest => some rest
      | '\r' :: '\n' :: rest => afterQuoted? f fuel rest
      | '\r' :: _ => none
      | '\\' :: '\n' :: rest => (afterContinuation? rest).bind (afterQuoted? f fuel)
      | '\\' :: '\r' :: '\n' :: rest => (afterContinuation? rest).bind (afterQuoted? f fuel)
      | '\\' :: rest => (afterEscape? f rest).bind (afterQuoted? f fuel)
      | c :: rest => if f.allows c then afterQuoted? f fuel rest else none

/-- What follows the closing quote and hashes of raw text. -/
def afterRaw? (f : Flavour) (hashes : Nat) : List Char → Option (List Char)
  | [] => none
  | '"' :: rest =>
      if (List.replicate hashes '#').isPrefixOf rest then some (rest.drop hashes)
      else afterRaw? f hashes rest
  | '\r' :: '\n' :: rest => afterRaw? f hashes rest
  | '\r' :: _ => none
  | c :: rest => if f.allows c then afterRaw? f hashes rest else none

/-- What follows raw text, given the text after its `r`. -/
def afterRawText? (f : Flavour) (cs : List Char) : Option (List Char) :=
  let hashes := (cs.takeWhile (· = '#')).length
  match cs.drop hashes with
  | '"' :: rest => if hashes ≤ 255 then afterRaw? f hashes rest else none
  | _ => none

/-- What follows text in quotes with its suffix, raw or not. -/
def afterString? (f : Flavour) (cs : List Char) : Option (List Char) :=
  (match cs with
    | '"' :: rest => afterQuoted? f (rest.length + 1) rest
    | 'r' :: rest => afterRawText? f rest
    | _ => none).map afterSuffix

/-- What follows one character in single quotes with its suffix, given the text after the
opening quote. -/
def afterCharacter? (f : Flavour) (cs : List Char) : Option (List Char) :=
  (match cs with
    | '\\' :: rest => afterEscape? f rest
    | c :: rest => if f.allows c then some rest else none
    | [] => none).bind fun
      | '\'' :: rest => some (afterSuffix rest)
      | _ => none

/-! ## Numbers -/

/-- Whether the character is a digit or an underscore. -/
def isDigitOrLow (c : Char) : Bool := isDigit c || c == '_'

/-- What follows an exponent, given the text after its `e`.  `before` is the answer for an
exponent that is none, `signed` and `valued` tell what has been seen. -/
def afterExponent? (before : Option (List Char)) :
    (signed valued : Bool) → List Char → Option (List Char)
  | _, valued, [] => if valued then some [] else before
  | signed, valued, c :: rest =>
      if c = '+' ∨ c = '-' then
        if valued then some (c :: rest)
        else if signed then before
        else afterExponent? before true valued rest
      else if isDigit c then afterExponent? before signed true rest
      else if c = '_' then afterExponent? before signed valued rest
      else if valued then some (c :: rest)
      else before

/-- What follows the digits, the point and the exponent of a real number.  A point before
another point or a word is not part of a number. -/
def afterReal? (cs : List Char) : Option (List Char) :=
  let rest := cs.dropWhile isDigitOrLow
  match rest with
  | '.' :: fraction =>
      if fraction.head?.any fun c => c = '.' || isWordStart c then none
      else
        let rest := fraction.dropWhile isDigitOrLow
        match rest with
        | 'e' :: exponent => afterExponent? (some rest) false false exponent
        | 'E' :: exponent => afterExponent? (some rest) false false exponent
        | _ => some rest
  | 'e' :: exponent => afterExponent? none false false exponent
  | 'E' :: exponent => afterExponent? none false false exponent
  | _ => none

/-- What follows the digits of a whole number.  `empty` tells that no digit has been seen. -/
def afterDigits? (base : Nat) : (empty : Bool) → List Char → Option (List Char)
  | empty, [] => if empty then none else some []
  | empty, c :: rest =>
      if isDigit c then
        if hexValue c < base then afterDigits? base false rest else none
      else if isHexDigit c ∧ hexValue c < base then afterDigits? base false rest
      else if c = '_' then
        if empty ∧ base = 10 then none else afterDigits? base empty rest
      else if empty then none
      else some (c :: rest)

/-- What follows the mark of the base and the digits of a whole number. -/
def afterWhole? (cs : List Char) : Option (List Char) :=
  match cs with
  | '0' :: 'x' :: rest => afterDigits? 16 true rest
  | '0' :: 'o' :: rest => afterDigits? 8 true rest
  | '0' :: 'b' :: rest => afterDigits? 2 true rest
  | _ => afterDigits? 10 true cs

/-- What follows the suffix of a number.  A number does not end inside a word. -/
def afterNumberSuffix? (cs : List Char) : Option (List Char) :=
  let rest := afterSuffix cs
  if rest.head?.any isWordRest then none else some rest

/-- What follows a number. -/
def afterNumber? (cs : List Char) : Option (List Char) :=
  if cs.head?.any isDigit then
    match (afterReal? cs).bind afterNumberSuffix? with
    | some rest => some rest
    | none => (afterWhole? cs).bind afterNumberSuffix?
  else none

/-- What follows the literal at the start of the text. -/
def afterLiteral? (cs : List Char) : Option (List Char) :=
  match cs with
  | 'b' :: '\'' :: rest => afterCharacter? .bytes rest
  | 'b' :: rest => afterString? .bytes rest
  | 'c' :: rest => afterString? .terminated rest
  | '\'' :: rest => afterCharacter? .text rest
  | c :: _ => if isDigit c then afterNumber? cs else afterString? .text cs
  | [] => none

end DomainValues.Source
