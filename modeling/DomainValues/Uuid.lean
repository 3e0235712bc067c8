import DomainValues.Number.Text

/-!
# Universally unique identifiers

An identifier is a number of 128 bits.  Its canonical text has 32 lower-case hexadecimal digits
in groups of 8, 4, 4, 4 and 12, joined by hyphens.  Four spellings are read: the digits alone,
the groups, the groups in braces, and the groups after `urn:uuid:`.  Letters of either case are
read, and nothing may stand around a spelling.
-/

namespace DomainValues

/-- A 128-bit identifier. -/
structure Uuid where
  /-- The bits, as a number. -/
  bits : BitVec 128
  deriving DecidableEq

namespace Uuid

/-- The identifier without a set bit. -/
def nil : Uuid := ⟨0⟩

/-- The identifier of random bits: four bits say that it is random (version 4), two that it
follows the usual layout. -/
def ofRandomBits (bits : BitVec 128) : Uuid :=
  ⟨bits &&& ~~~(0xF#128 <<< 76 ||| 0x3#128 <<< 62) ||| (0x4#128 <<< 76 ||| 0x2#128 <<< 62)⟩

/-- The version that the bits name. -/
def version (u : Uuid) : Nat := (u.bits >>> 76).toNat % 16

/-- The lengths of the groups of digits. -/
def groups : List Nat := [8, 4, 4, 4, 12]

/-- The value of a hexadecimal digit. -/
def digit? (c : Char) : Option Nat :=
  if '0' ≤ c ∧ c ≤ '9' then some (c.toNat - '0'.toNat)
  else if 'a' ≤ c ∧ c ≤ 'f' then some (c.toNat - 'a'.toNat + 10)
  else if 'A' ≤ c ∧ c ≤ 'F' then some (c.toNat - 'A'.toNat + 10)
  else none

/-- The digits of a number, a given count of them. -/
def hexDigits : Nat → Nat → List Char
  | 0, _ => []
  | count + 1, n => hexDigits count (n / 16) ++ [Nat.digitChar (n % 16)]

/-- Cuts a list into groups of given lengths. -/
def cut : List Nat → List Char → List (List Char)
  | [], _ => []
  | n :: ns, cs => cs.take n :: cut ns (cs.drop n)

/-- The canonical text. -/
def text (u : Uuid) : String :=
  String.ofList (List.intercalate ['-'] (cut groups (hexDigits 32 u.bits.toNat)))

/-- The value of some digits, after those already read. -/
def digitsValue? : Nat → List Char → Option Nat
  | n, [] => some n
  | n, c :: cs => match digit? c with
      | some d => digitsValue? (16 * n + d) cs
      | none => none

/-- Reads 32 digits. -/
def readSimple? (cs : List Char) : Option Uuid :=
  if cs.length = 32 then (digitsValue? 0 cs).map fun n => ⟨BitVec.ofNat 128 n⟩ else none

/-- The digits of groups joined by hyphens. -/
def joinGroups? : List Nat → List Char → Option (List Char)
  | [], cs => if cs = [] then some [] else none
  | [n], cs => if cs.length = n then some cs else none
  | n :: ns, cs => match cs.drop n with
      | '-' :: rest => (joinGroups? ns rest).map (cs.take n ++ ·)
      | _ => none

/-- Reads groups joined by hyphens. -/
def readHyphenated? (cs : List Char) : Option Uuid :=
  (joinGroups? groups cs).bind readSimple?

/-- The inside of braces. -/
def inBraces? (cs : List Char) : Option (List Char) :=
  match cs with
  | '\x7b' :: rest => if rest.getLast? = some '\x7d' then some rest.dropLast else none
  | _ => none

/-- The name of the URN scheme. -/
def urn : List Char := ['u', 'r', 'n', ':', 'u', 'u', 'i', 'd', ':']

/-- What follows the name of the URN scheme, whose letters may have either case. -/
def afterUrn? (cs : List Char) : Option (List Char) :=
  if (cs.take urn.length).map Char.toLower = urn then some (cs.drop urn.length) else none

/-- Reads any of the four spellings. -/
def read? (text : String) : Option Uuid :=
  let cs := text.toList
  if cs.length = 32 then readSimple? cs
  else if cs.length = 36 then readHyphenated? cs
  else match inBraces? cs, afterUrn? cs with
    | some inner, _ => readHyphenated? inner
    | none, some rest => readHyphenated? rest
    | none, none => none

/-- The order of the bits as numbers. -/
def order (u v : Uuid) : Ordering := compare u.bits.toNat v.bits.toNat

example : (ofRandomBits 0).text = "00000000-0000-4000-8000-000000000000" := by decide +kernel
example : nil.text = "00000000-0000-0000-0000-000000000000" := by decide +kernel

end Uuid
end DomainValues
