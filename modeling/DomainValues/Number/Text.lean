import DomainValues.Number.Shortest

/-!
# Numbers as text

How numbers are written and read.

A number is written with its shortest digits in one of four *layouts*.  A layout says
which decimal exponents are written positionally, whether a whole number keeps `.0`, and
whether a positive exponent has its sign.

* `Layout.plain`: always positional, `1`, `-0`, `0.00001`.
* `Layout.pointed`: always positional, `1.0`, `-0.0`, `0.00001`.
* `Layout.debug`: positional from `1e-4` below `1e16`, with `.0`, `1e16`, `1.5e-7`.
* `Layout.json`: positional from `1e-5` below `1e16`, with `.0`, `1e+16`, `1e-6`.

A real is read from an optional sign and either digits with an optional point and
exponent, or one of the words `inf`, `infinity` and `nan` in any case.  A whole number is
read from an optional sign and digits (`readInt?`, `readNat?`).
-/

namespace DomainValues

/-! ## Writing -/

/-- How a real number is laid out. -/
structure Layout where
  /-- The least exponent of the leading digit that is written positionally. -/
  positionalFrom : Option Int
  /-- The first exponent of the leading digit that is no longer written positionally. -/
  positionalBelow : Option Int
  /-- Whether a whole number written positionally ends in `.0`. -/
  pointZero : Bool
  /-- Whether a positive exponent is written with its sign. -/
  plusSign : Bool

namespace Layout

/-- Always positional, whole numbers without a point. -/
def plain : Layout := ⟨none, none, false, false⟩

/-- Always positional, whole numbers with a point. -/
def pointed : Layout := ⟨none, none, true, false⟩

/-- The layout of inspected values. -/
def debug : Layout := ⟨some (-4), some 16, true, false⟩

/-- The layout of JSON numbers. -/
def json : Layout := ⟨some (-5), some 16, true, true⟩

/-- Whether the exponent of the leading digit is written positionally. -/
def isPositional (l : Layout) (lead : Int) : Bool :=
  (match l.positionalFrom with | none => true | some e => decide (e ≤ lead)) &&
  (match l.positionalBelow with | none => true | some e => decide (lead < e))

/-- The digits of a decimal with the point put where it belongs. -/
def positional (l : Layout) (digits : List Char) (exponent : Int) : String :=
  let lead : Int := digits.length + exponent
  if 0 ≤ exponent then
    String.ofList (digits ++ List.replicate exponent.toNat '0') ++
      (if l.pointZero then ".0" else "")
  else if 0 < lead then
    String.ofList (digits.take lead.toNat ++ '.' :: digits.drop lead.toNat)
  else
    String.ofList ('0' :: '.' :: List.replicate (-lead).toNat '0' ++ digits)

/-- The digits of a decimal with the point after the first, and an exponent. -/
def scientific (l : Layout) (digits : List Char) (exponent : Int) : String :=
  let lead : Int := digits.length + exponent - 1
  let mantissa := match digits with
    | [] => []
    | [d] => [d]
    | d :: ds => d :: '.' :: ds
  String.ofList mantissa ++ "e" ++ (if l.plusSign && decide (0 < lead) then "+" else "") ++
    toString lead

/-- The text of a magnitude. -/
def ofMagnitude (l : Layout) (magnitude : Nat) : String :=
  if magnitude = 0 then (if l.pointZero then "0.0" else "0")
  else
    let d := (Decimal.shortest magnitude).trim 800
    let digits := Nat.toDigits 10 d.digits
    if l.isPositional (digits.length + d.exponent - 1) then l.positional digits d.exponent
    else l.scientific digits d.exponent

/-- The text of a number. -/
def text (l : Layout) : Binary64 → String
  | .nan => "NaN"
  | .infinite negative => if negative then "-inf" else "inf"
  | .finite negative m => (if negative then "-" else "") ++ l.ofMagnitude m.val

end Layout

/-! ## Reading -/

/-- The value of a decimal digit. -/
def digitValue (c : Char) : Nat := c.toNat - '0'.toNat

/-- Whether the character is one of the ten ASCII digits. -/
def isDigit (c : Char) : Bool := decide ('0' ≤ c) && decide (c ≤ '9')

/-- The value of a run of digits, after the digits already read. -/
def digitsValue (start : Nat) (digits : List Char) : Nat :=
  digits.foldl (fun n c => 10 * n + digitValue c) start

/-- A whole number without a sign: digits only, at least one. -/
def readDigits? (text : List Char) : Option Nat :=
  if text ≠ [] ∧ text.all isDigit then some (digitsValue 0 text) else none

/-- A whole number with an optional plus sign, below the limit. -/
def readNat? (limit : Nat) (text : List Char) : Option Nat :=
  let digits := match text with
    | '+' :: rest => rest
    | _ => text
  (readDigits? digits).filter (· < limit)

/-- A whole number with an optional sign, between the bounds. -/
def readInt? (least greatest : Int) (text : List Char) : Option Int :=
  let value : Option Int := match text with
    | '+' :: rest => (readDigits? rest).map Int.ofNat
    | '-' :: rest => (readDigits? rest).map fun n => -(n : Int)
    | _ => (readDigits? text).map Int.ofNat
  value.filter fun i => decide (least ≤ i) && decide (i ≤ greatest)

namespace Binary64

/-- The exponent part of a real: nothing, or a marker, an optional sign and digits. -/
def readExponent? : List Char → Option Int
  | [] => some 0
  | c :: rest =>
      if c = 'e' ∨ c = 'E' then
        match rest with
        | '+' :: ds => (readDigits? ds).map Int.ofNat
        | '-' :: ds => (readDigits? ds).map fun n => -(n : Int)
        | ds => (readDigits? ds).map Int.ofNat
      else none

/-- Digits, an optional point with digits, and an optional exponent.  At least one digit
stands before or after the point. -/
def readDecimal? (negative : Bool) (text : List Char) : Option Binary64 :=
  let whole := text.takeWhile isDigit
  let rest := text.dropWhile isDigit
  let (fraction, rest) := match rest with
    | '.' :: r => (r.takeWhile isDigit, r.dropWhile isDigit)
    | r => ([], r)
  if whole = [] ∧ fraction = [] then none
  else (readExponent? rest).map fun e =>
    ofDecimal negative (digitsValue (digitsValue 0 whole) fraction) (e - fraction.length)

/-- A real without its sign: a decimal or one of the words, in any case. -/
def readUnsigned? (negative : Bool) (text : List Char) : Option Binary64 :=
  let word := text.map Char.toLower
  if word = ['i', 'n', 'f'] ∨ word = ['i', 'n', 'f', 'i', 'n', 'i', 't', 'y'] then
    some (infinite negative)
  else if word = ['n', 'a', 'n'] then some nan
  else readDecimal? negative text

/-- A real number: an optional sign and a decimal or a word. -/
def read? (text : List Char) : Option Binary64 :=
  match text with
  | '+' :: rest => readUnsigned? false rest
  | '-' :: rest => readUnsigned? true rest
  | _ => readUnsigned? false text

end Binary64
end DomainValues
