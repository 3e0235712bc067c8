/-!
# Sets of code points

A set of code points as a list of closed ranges.  The operations build *normal* lists:
increasing, without overlap, and with a gap between neighbours.  A complement is taken
within a whole, either all scalar values or all bytes.

`CharSet.ofText` reads the compact text that the property tables are written in, such as
`41-5A 61-7A AA`: hexadecimal ranges and single code points, separated by blanks or line
breaks.

A row of a property table gives the names of a property, or of one of its values, and the
code points that have it.  Names are in *loose* form: lower case, without blanks, hyphens and
underscores (`Unicode.looseName`), so that `Script_Extensions` and `script extensions` are one
name.
-/

namespace DomainValues

/-- A closed range of code points. -/
structure CodeRange where
  /-- The first code point. -/
  first : Nat
  /-- The last code point. -/
  last : Nat
  deriving DecidableEq, Repr

/-- A set of code points. -/
structure CharSet where
  /-- The ranges, increasing and apart. -/
  ranges : List CodeRange
  deriving DecidableEq, Repr

namespace CharSet

/-- The set without members. -/
def empty : CharSet := ⟨[]⟩

/-- All scalar values: the code points without the surrogates. -/
def scalars : CharSet := ⟨[⟨0, 0xD7FF⟩, ⟨0xE000, 0x10FFFF⟩]⟩

/-- All bytes. -/
def bytes : CharSet := ⟨[⟨0, 0xFF⟩]⟩

/-- Whether the set has the code point. -/
def contains (s : CharSet) (n : Nat) : Bool :=
  s.ranges.any fun r => decide (r.first ≤ n) && decide (n ≤ r.last)

/-- Whether the set has no members. -/
def isEmpty (s : CharSet) : Bool := s.ranges.isEmpty

/-! ## Normal lists -/

/-- Joins each range to the one before it where they touch.  The ranges come in the order
of their first code points. -/
def merge : CodeRange → List CodeRange → List CodeRange
  | r, [] => [r]
  | r, s :: rest =>
      if s.first ≤ r.last + 1 then merge ⟨r.first, max r.last s.last⟩ rest
      else r :: merge s rest

/-- The set of the members of some ranges, in any order. -/
def ofRanges (rs : List CodeRange) : CharSet :=
  match rs.mergeSort (fun a b => decide (a.first ≤ b.first)) with
  | [] => empty
  | r :: rest => ⟨merge r rest⟩

/-- The set of one range, empty if its ends are out of order. -/
def ofRange (first last : Nat) : CharSet :=
  if first ≤ last then ⟨[⟨first, last⟩]⟩ else empty

/-- The set of one code point. -/
def singleton (n : Nat) : CharSet := ⟨[⟨n, n⟩]⟩

/-! ## Operations -/

/-- The members of either set. -/
def union (s t : CharSet) : CharSet := ofRanges (s.ranges ++ t.ranges)

/-- The part of a list of ranges that lies in one range. -/
def clip (r : CodeRange) (rs : List CodeRange) : List CodeRange :=
  rs.filterMap fun s =>
    let first := max r.first s.first
    let last := min r.last s.last
    if first ≤ last then some ⟨first, last⟩ else none

/-- The members of both sets. -/
def inter (s t : CharSet) : CharSet :=
  ofRanges (s.ranges.flatMap fun r => clip r t.ranges)

/-- The ranges between the given ones, from a code point on. -/
def gaps : Nat → List CodeRange → List CodeRange
  | start, [] => [⟨start, 0x10FFFF⟩]
  | start, r :: rest =>
      if start < r.first then ⟨start, r.first - 1⟩ :: gaps (r.last + 1) rest
      else gaps (max start (r.last + 1)) rest

/-- The members of the whole that the set lacks. -/
def complement (whole s : CharSet) : CharSet :=
  inter whole ⟨(gaps 0 s.ranges).filter fun r => decide (r.first ≤ r.last)⟩

/-- The members of the first set that the second lacks. -/
def diff (s t : CharSet) : CharSet := complement s t

/-- The members of exactly one of the sets. -/
def symmDiff (s t : CharSet) : CharSet := union (diff s t) (diff t s)

/-- The members of any of the sets. -/
def unions (ss : List CharSet) : CharSet := ofRanges (ss.flatMap CharSet.ranges)

/-! ## Reading tables -/

/-- The value of a hexadecimal digit of a table. -/
def hexValue (c : Char) : Nat :=
  if c.isDigit then c.toNat - '0'.toNat else c.toNat - 'A'.toNat + 10

/-- Reads ranges: the code point being read, the start of the range it closes, if any, and
whether a digit has been seen. -/
def readRanges : Nat → Option Nat → Bool → List Char → List CodeRange
  | n, start, seen, [] => if seen then [⟨start.getD n, n⟩] else []
  | n, start, seen, c :: cs =>
      if c = '-' then readRanges 0 (some n) false cs
      else if c = ' ' ∨ c = '\n' then
        if seen then ⟨start.getD n, n⟩ :: readRanges 0 none false cs else readRanges 0 none false cs
      else readRanges (16 * n + hexValue c) start true cs

/-- The set written as table text, whose ranges are increasing and apart. -/
def ofText (text : String) : CharSet := ⟨readRanges 0 none false text.toList⟩

example : (ofText "41-5A 61-7A AA").contains 0x42 = true := by decide +kernel
example : complement bytes (ofText "0-40 42-FE") = ofText "41 FF" := by cbv

end CharSet
end DomainValues

/-! ## Rows of property tables -/

namespace DomainValues.Unicode

/-- One row of a property table. -/
structure PropertyRow where
  /-- The loose names, any of which selects the row. -/
  names : List String
  /-- The code points, as table text. -/
  codes : String

/-- The code points of a row. -/
def PropertyRow.chars (row : PropertyRow) : CharSet := CharSet.ofText row.codes

/-- The first row that has a name. -/
def findRow? (rows : List PropertyRow) (name : String) : Option PropertyRow :=
  rows.find? fun row => row.names.contains name

/-- The code points of the row of a name. -/
def findChars? (rows : List PropertyRow) (name : String) : Option CharSet :=
  (findRow? rows name).map PropertyRow.chars

/-- Lower case for the letters `A` to `Z`. -/
def asciiLower (c : Char) : Char :=
  if 'A' ≤ c ∧ c ≤ 'Z' then Char.ofNat (c.toNat + 32) else c

/-- Drops a leading `is`, in any case. -/
def dropIs : List Char → Bool × List Char
  | a :: b :: rest =>
      if asciiLower a = 'i' ∧ asciiLower b = 's' then (true, rest) else (false, a :: b :: rest)
  | cs => (false, cs)

/-- The loose form of a name.  A leading `is` does not count, but the name `isc` is kept, for
it is not `is` before the name `c`.  Characters outside ASCII do not count either. -/
def looseName (name : String) : String :=
  let (hadIs, rest) := dropIs name.toList
  let kept := (rest.filter fun c => c ≠ ' ' ∧ c ≠ '_' ∧ c ≠ '-' ∧ c.toNat < 128).map asciiLower
  if hadIs ∧ kept = ['c'] then "isc" else String.ofList kept

example : looseName "Is_Script-Extensions" = "scriptextensions" := by decide +kernel
example : looseName "isc" = "isc" := by decide +kernel

end DomainValues.Unicode
