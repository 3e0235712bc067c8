import DomainValues.Source.Literal

/-!
# What literals denote

A literal token denotes a whole number, a real number, a text or something else.  Numbers are
given by their *numeral*, digits in base ten without underscores, and the suffix.  A numeral
begins with `-` if the literal was read together with a minus sign before it.
-/

namespace DomainValues.Source

/-- What a literal denotes. -/
inductive LiteralValue where
  /-- A whole number. -/
  | integer (numeral suffix : String)
  /-- A real number. -/
  | real (numeral suffix : String)
  /-- A text. -/
  | text (value : String)
  /-- A character, bytes, or a text that ends at a null. -/
  | other
  deriving DecidableEq, Repr

/-! ## Whole numbers -/

/-- Whether an exponent makes the number real, given the text after its `e`: digits follow,
with underscores, and then nothing or a word.  A sign makes it real too. -/
def isExponent : (seen : Bool) → List Char → Bool
  | seen, [] => seen
  | seen, c :: rest =>
      if c = '_' then isExponent seen rest
      else if c = '-' ∨ c = '+' then true
      else if isDigit c then isExponent true rest
      else seen && isWord (c :: rest)

/-- The value of the digits of a whole number and the text after them.  Nothing if the number
is real or a digit does not belong to the base. -/
def wholeDigits? (base : Nat) :
    (value : Nat) → (seen : Bool) → List Char → Option (Nat × List Char)
  | value, seen, [] => if seen then some (value, []) else none
  | value, seen, c :: rest =>
      if isDigit c ∨ (10 < base ∧ isHexDigit c) then
        if hexValue c < base then wholeDigits? base (base * value + hexValue c) true rest else none
      else if c = '_' then wholeDigits? base value seen rest
      else if c = '.' ∧ base = 10 then none
      else if (c = 'e' ∨ c = 'E') ∧ base = 10 ∧ isExponent false rest then none
      else if seen then some (value, c :: rest)
      else none

/-- The value of a whole number and its suffix. -/
def whole? (cs : List Char) : Option (Nat × List Char) :=
  (match cs with
    | '0' :: 'x' :: rest => wholeDigits? 16 0 false rest
    | '0' :: 'o' :: rest => wholeDigits? 8 0 false rest
    | '0' :: 'b' :: rest => wholeDigits? 2 0 false rest
    | _ => if cs.head?.any isDigit then wholeDigits? 10 0 false cs else none).filter
      fun (_, suffix) => suffix = [] || isWord suffix

/-! ## Real numbers -/

/-- What has been seen of a real number. -/
structure RealState where
  /-- Its point. -/
  point : Bool
  /-- The `e` of its exponent. -/
  exponent : Bool
  /-- The sign of its exponent. -/
  sign : Bool
  /-- A digit of its exponent. -/
  valued : Bool

/-- The numeral of a real number and the text after it.  Underscores and the plus sign of an
exponent are left out. -/
def realNumeral? : RealState → List Char → Option (List Char × List Char)
  | s, [] => if s.exponent && !s.valued then none else some ([], [])
  | s, c :: rest =>
      let stop := if s.exponent && !s.valued then none else some ([], c :: rest)
      let keep (d : Char) (s : RealState) :=
        (realNumeral? s rest).map fun (numeral, after) => (d :: numeral, after)
      if c = '_' then realNumeral? s rest
      else if isDigit c then keep c { s with valued := s.valued || s.exponent }
      else if c = '.' then
        if s.exponent || s.point then none else keep c { s with point := true }
      else if c = 'e' ∨ c = 'E' then
        if ((rest.dropWhile (· = '_')).head?.any fun d => d = '-' || d = '+' || isDigit d) then
          if s.exponent then (if s.valued then stop else none)
          else keep 'e' { s with exponent := true }
        else stop
      else if c = '-' then
        if s.sign || s.valued || !s.exponent then none else keep c { s with sign := true }
      else if c = '+' then
        if s.sign || s.valued || !s.exponent then none
        else realNumeral? { s with sign := true } rest
      else stop

/-- The numeral of a real number and its suffix. -/
def real? (cs : List Char) : Option (List Char × List Char) :=
  if cs.head?.any isDigit then
    (realNumeral? ⟨false, false, false, false⟩ cs).filter fun (_, suffix) =>
      suffix = [] || isWord suffix
  else none

/-! ## Text -/

/-- The value of the digits of an escape by code, and what follows its brace. -/
def codeValue : Nat → List Char → Nat × List Char
  | value, [] => (value, [])
  | value, c :: rest =>
      if c = '\x7d' then (value, rest)
      else if c = '_' then codeValue value rest
      else codeValue (16 * value + hexValue c) rest

/-- The text between quotes, given what follows the opening one.  A backslash at the end of a
line joins the lines, and a line break is a line feed. -/
def unescape : (fuel : Nat) → List Char → List Char
  | 0, _ => []
  | fuel + 1, cs => match cs with
      | [] => []
      | '"' :: _ => []
      | '\r' :: '\n' :: rest => '\n' :: unescape fuel rest
      | '\\' :: 'x' :: a :: b :: rest =>
          Char.ofNat (16 * hexValue a + hexValue b) :: unescape fuel rest
      | '\\' :: 'u' :: '\x7b' :: rest =>
          let (value, after) := codeValue 0 rest
          Char.ofNat value :: unescape fuel after
      | '\\' :: c :: rest =>
          if c = 'n' then '\n' :: unescape fuel rest
          else if c = 'r' then '\r' :: unescape fuel rest
          else if c = 't' then '\t' :: unescape fuel rest
          else if c = '0' then '\x00' :: unescape fuel rest
          else if c = '\n' ∨ c = '\r' then
            unescape fuel (rest.dropWhile fun d => d = ' ' || d = '\t' || d = '\n' || d = '\r')
          else c :: unescape fuel rest
      | c :: rest => c :: unescape fuel rest

/-- The text between the quotes of raw text, which has no escapes: all between the first quote
and the last. -/
def rawValue (cs : List Char) : List Char :=
  let inside := (cs.dropWhile (· ≠ '"')).drop 1
  ((inside.reverse.dropWhile (· ≠ '"')).drop 1).reverse

/-! ## Literals -/

/-- A numeral, after the sign that belongs to it. -/
def signed (negative : Bool) (numeral : List Char) : String :=
  String.ofList (if negative then '-' :: numeral else numeral)

/-- What a number denotes, read together with its sign. -/
def numberValue? (negative : Bool) (text : String) : Option LiteralValue :=
  match whole? text.toList with
  | some (value, suffix) =>
      some (.integer (signed negative (Nat.toDigits 10 value)) (String.ofList suffix))
  | none => (real? text.toList).map fun (numeral, suffix) =>
      .real (signed negative numeral) (String.ofList suffix)

/-- What a literal denotes. -/
def literalValue (text : String) : LiteralValue :=
  match text.toList with
  | '"' :: rest => .text (String.ofList (unescape (rest.length + 1) rest))
  | 'r' :: rest => .text (String.ofList (rawValue rest))
  | _ => (numberValue? false text).getD .other

example : literalValue "0x1f32" = .integer "7986" "" := by decide +kernel
example : literalValue "1_0f32" = .integer "10" "f32" := by decide +kernel
example : literalValue "1_0.5E+3" = .real "10.5e3" "" := by decide +kernel

end DomainValues.Source
