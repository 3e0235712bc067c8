import DomainValues.Json.Value

/-!
# Reading JSON

A document is read from a whole text, white space around it allowed.  Nesting deeper than
127 arrays and objects is refused, as are control characters in strings, escapes of surrogates
that are not paired, and reals beyond the range of the format.

A number without point and exponent is a whole number if it fits 64 bits; `-0` is a real.
For any other number the digits are gathered into a 64-bit significand as long as they fit,
and the rest counts for its place only.  The significand is then scaled by a power of ten,
each step rounding once (`scaleByPowers`), so the last place of a long number need not be the
nearest.
-/

namespace DomainValues
namespace Json

/-! ## Numbers -/

/-- Divides by `1e308` as often as the exponent asks for, then once by what remains, for an
exponent below zero given by its absolute value. -/
def scaleDown (value : Binary64) : Nat → Nat → Binary64
  | 0, _ => value
  | fuel + 1, exponent =>
      if exponent ≤ 308 then value.div (Binary64.ofDecimal false 1 exponent)
      else if value.isZero then value
      else scaleDown (value.div (Binary64.ofDecimal false 1 308)) fuel (exponent - 308)

/-- The significand times a power of ten, one rounding for each factor.  Nothing stands for
a number out of range. -/
def scaleByPowers (significand : Nat) (exponent : Int) : Option Binary64 :=
  let value := Binary64.ofInt significand
  if 0 ≤ exponent then
    if exponent ≤ 308 then
      let product := value.mul (Binary64.ofDecimal false 1 exponent)
      if product.isFinite then some product else none
    else if significand = 0 then some value else none
  else some (scaleDown value (exponent.natAbs / 308 + 1) exponent.natAbs)

/-- Gathers digits into the significand while it stays below `2 ^ 64`.  The second part of
the answer counts the digits gathered, the third holds the rest, from the first digit that
does not fit. -/
def gather : Nat → Nat → List Char → Nat × Nat × List Char
  | significand, count, [] => (significand, count, [])
  | significand, count, c :: rest =>
      let next := 10 * significand + digitValue c
      if isDigit c ∧ next < UInt64.size then gather next (count + 1) rest
      else (significand, count, c :: rest)

/-- The greatest exponent that is read as such. -/
def exponentLimit : Nat := Int32.maxValue.toNatClampNeg

/-- Scales by the exponent written, if one is, on top of the exponent so far. -/
def readExponent (negative : Bool) (significand : Nat) (exponent : Int) (text : List Char) :
    Option (Json × List Char) :=
  let finish (value : Option Binary64) (rest : List Char) :=
    value.map fun x => (real (if negative then x.negate else x), rest)
  match text with
  | c :: rest =>
      if c = 'e' ∨ c = 'E' then
        let (below, digits) := match rest with
          | '+' :: r => (false, r)
          | '-' :: r => (true, r)
          | r => (false, r)
        let written := digits.takeWhile isDigit
        let after := digits.dropWhile isDigit
        let e := digitsValue 0 written
        if written = [] then none
        else if exponentLimit < e then
          if significand ≠ 0 ∧ ¬ below then none else finish (some Binary64.zero) after
        else finish (scaleByPowers significand (if below then exponent - e else exponent + e)) after
      else finish (scaleByPowers significand exponent) text
  | [] => finish (scaleByPowers significand exponent) []

/-- Reads what follows the whole part: the fraction and the exponent. -/
def readFraction (negative : Bool) (significand : Nat) (exponent : Nat) (text : List Char) :
    Option (Json × List Char) :=
  match text with
  | '.' :: rest =>
      if rest.head?.any isDigit then
        let (significand, count, rest) := gather significand 0 rest
        readExponent negative significand ((exponent : Int) - count) (rest.dropWhile isDigit)
      else none
  | _ => readExponent negative significand exponent text

/-- Reads a number after its sign.  A zero is not followed by another digit. -/
def readUnsigned (negative : Bool) (text : List Char) : Option (Json × List Char) :=
  match text with
  | [] => none
  | c :: after =>
      if !isDigit c || (c = '0' && after.head?.any isDigit) then none
      else
        let (significand, _, rest) := gather 0 0 text
        let dropped := rest.takeWhile isDigit
        let rest := rest.dropWhile isDigit
        let isReal := rest.head?.any fun d => d = '.' || d = 'e' || d = 'E'
        if dropped ≠ [] ∨ isReal then readFraction negative significand dropped.length rest
        else if !negative then some (integer significand, rest)
        else if significand = 0 ∨ 1 <<< 63 < significand then
          some (real (Binary64.ofInt significand).negate, rest)
        else some (integer (-significand), rest)

/-- Reads a number. -/
def readNumber (text : List Char) : Option (Json × List Char) :=
  match text with
  | '-' :: rest => readUnsigned true rest
  | _ => readUnsigned false text

/-! ## Strings -/

/-- The value of a hexadecimal digit. -/
def hexValue? (c : Char) : Option Nat :=
  if isDigit c then some (digitValue c)
  else if 'a' ≤ c ∧ c ≤ 'f' then some (c.toNat - 'a'.toNat + 10)
  else if 'A' ≤ c ∧ c ≤ 'F' then some (c.toNat - 'A'.toNat + 10)
  else none

/-- The value of four hexadecimal digits. -/
def fourHex? (a b c d : Char) : Option Nat := do
  let a ← hexValue? a
  let b ← hexValue? b
  let c ← hexValue? c
  let d ← hexValue? d
  pure (((a * 16 + b) * 16 + c) * 16 + d)

/-- The character of an escape of one letter. -/
def unescape? (c : Char) : Option Char :=
  match c with
  | '"' => some '"'
  | '\\' => some '\\'
  | '/' => some '/'
  | 'b' => some '\x08'
  | 'f' => some '\x0c'
  | 'n' => some '\n'
  | 'r' => some '\r'
  | 't' => some '\t'
  | _ => none

/-- Reads the inside of a string up to the closing quote.  A surrogate stands only as the
first of a pair. -/
def readString : List Char → Option (List Char × List Char)
  | '"' :: rest => some ([], rest)
  | '\\' :: 'u' :: a :: b :: c :: d :: rest => do
      let unit ← fourHex? a b c d
      if 0xDC00 ≤ unit ∧ unit ≤ 0xDFFF then none
      else if 0xD800 ≤ unit ∧ unit ≤ 0xDBFF then
        match rest with
        | '\\' :: 'u' :: e :: f :: g :: h :: rest =>
            let low ← fourHex? e f g h
            if 0xDC00 ≤ low ∧ low ≤ 0xDFFF then do
              let (text, rest) ← readString rest
              pure (Char.ofNat (0x10000 + (unit - 0xD800) * 0x400 + (low - 0xDC00)) :: text, rest)
            else none
        | _ => none
      else do
        let (text, rest) ← readString rest
        pure (Char.ofNat unit :: text, rest)
  | '\\' :: c :: rest => do
      let c ← unescape? c
      let (text, rest) ← readString rest
      pure (c :: text, rest)
  | c :: rest =>
      if c.toNat < 0x20 ∨ c = '\\' then none
      else do
        let (text, rest) ← readString rest
        pure (c :: text, rest)
  | [] => none

/-! ## Documents -/

/-- Drops white space. -/
def skipBlanks (text : List Char) : List Char :=
  text.dropWhile fun c => c = ' ' || c = '\n' || c = '\t' || c = '\r'

/-- The rest of the text after a word. -/
def word? (w : List Char) (text : List Char) : Option (List Char) :=
  if w.isPrefixOf text then some (text.drop w.length) else none

mutual

/-- Reads a document.  `depth` is how many more arrays and objects may be entered. -/
def readValue : (fuel depth : Nat) → List Char → Option (Json × List Char)
  | 0, _, _ => none
  | fuel + 1, depth, text =>
      match skipBlanks text with
      | [] => none
      | '"' :: rest => (readString rest).map fun (s, rest) => (string (String.ofList s), rest)
      | '[' :: rest =>
          match depth with
          | 0 => none
          | depth + 1 =>
              match skipBlanks rest with
              | ']' :: rest => some (array [], rest)
              | rest => (readItems fuel depth rest).map fun (items, rest) => (array items, rest)
      | '\x7b' :: rest =>
          match depth with
          | 0 => none
          | depth + 1 =>
              match skipBlanks rest with
              | '\x7d' :: rest => some (object [], rest)
              | rest => (readMembers fuel depth rest).map fun (ms, rest) => (object ms, rest)
      | 'n' :: rest => (word? ['u', 'l', 'l'] rest).map (null, ·)
      | 't' :: rest => (word? ['r', 'u', 'e'] rest).map (bool true, ·)
      | 'f' :: rest => (word? ['a', 'l', 's', 'e'] rest).map (bool false, ·)
      | text => readNumber text

/-- Reads the items of an array, at least one, and its closing bracket. -/
def readItems : (fuel depth : Nat) → List Char → Option (List Json × List Char)
  | 0, _, _ => none
  | fuel + 1, depth, text => do
      let (item, rest) ← readValue fuel depth text
      match skipBlanks rest with
      | ',' :: rest => do
          let (items, rest) ← readItems fuel depth rest
          pure (item :: items, rest)
      | ']' :: rest => some ([item], rest)
      | _ => none

/-- Reads the members of an object, at least one, and its closing brace. -/
def readMembers : (fuel depth : Nat) → List Char → Option (List (String × Json) × List Char)
  | 0, _, _ => none
  | fuel + 1, depth, text =>
      match skipBlanks text with
      | '"' :: rest => do
          let (name, rest) ← readString rest
          match skipBlanks rest with
          | ':' :: rest => do
              let (value, rest) ← readValue fuel depth rest
              match skipBlanks rest with
              | ',' :: rest => do
                  let (members, rest) ← readMembers fuel depth rest
                  pure ((String.ofList name, value) :: members, rest)
              | '\x7d' :: rest => some ([(String.ofList name, value)], rest)
              | _ => none
          | _ => none
      | _ => none

end

/-- The number of arrays and objects that may stand inside one another. -/
def depthLimit : Nat := 127

/-- The document that is the whole text. -/
def read? (text : String) : Option Json :=
  match readValue (text.length + 1) depthLimit text.toList with
  | some (value, rest) => if skipBlanks rest = [] then some value else none
  | none => none

end Json
end DomainValues
