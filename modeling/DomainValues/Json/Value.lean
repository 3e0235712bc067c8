import DomainValues.Number.Text

/-!
# JSON documents

A number of a document is a whole number that fits 64 bits, with or without sign, or a finite
real.  A real may have a whole value: `1.0` is a real.
-/

namespace DomainValues

/-- A JSON document. -/
inductive Json where
  | null
  | bool (value : Bool)
  /-- A whole number from `-2 ^ 63` to `2 ^ 64 - 1`. -/
  | integer (value : Int)
  /-- A finite real. -/
  | real (value : Binary64)
  | string (value : String)
  | array (items : List Json)
  /-- The members in the order they are written. -/
  | object (members : List (String × Json))

namespace Json

/-- The lower-case hexadecimal digit of a number below sixteen. -/
def hexDigit (n : Nat) : Char := Nat.digitChar n

/-- A character of a JSON string.  Only quotes, backslashes and control characters are
escaped. -/
def escape (c : Char) : List Char :=
  match c with
  | '"' => ['\\', '"']
  | '\\' => ['\\', '\\']
  | '\x08' => ['\\', 'b']
  | '\x0c' => ['\\', 'f']
  | '\n' => ['\\', 'n']
  | '\r' => ['\\', 'r']
  | '\t' => ['\\', 't']
  | c =>
      if c.toNat < 0x20 then
        ['\\', 'u', '0', '0', hexDigit (c.toNat / 16), hexDigit (c.toNat % 16)]
      else [c]

/-- Text as a JSON string. -/
def quoted (text : String) : String :=
  String.ofList ('"' :: text.toList.flatMap escape ++ ['"'])

mutual

/-- The compact text of a document.  A real that is not finite has no JSON form and is
written as `null`. -/
def text : Json → String
  | null => "null"
  | bool value => if value then "true" else "false"
  | integer value => toString value
  | real value => if value.isFinite then Layout.json.text value else "null"
  | string value => quoted value
  | array items => "[" ++ ",".intercalate (texts items) ++ "]"
  | object members => "\x7b" ++ ",".intercalate (memberTexts members) ++ "\x7d"

/-- The texts of some documents. -/
def texts : List Json → List String
  | [] => []
  | item :: rest => text item :: texts rest

/-- The texts of some members. -/
def memberTexts : List (String × Json) → List String
  | [] => []
  | (name, value) :: rest => (quoted name ++ ":" ++ text value) :: memberTexts rest

end

/-- The number as a whole number of 64 bits with sign. -/
def int64? : Json → Option Int64
  | integer value =>
      if Int64.minValue.toInt ≤ value ∧ value ≤ Int64.maxValue.toInt then some (Int64.ofInt value)
      else none
  | _ => none

/-- The number as a real, whole numbers rounded. -/
def real? : Json → Option Binary64
  | integer value => some (Binary64.ofInt value)
  | real value => some value
  | _ => none

end Json
end DomainValues
