import DomainValues.Unicode.Property

/-!
# Text

Text is quoted and trimmed.  Trimming takes the white space of any script from both ends.  Quoted
text stands between double quotes, with escapes for what would not show as itself: a backslash
before a quote or a backslash, `\t`, `\r` and `\n`, and `\u{..}` with the hexadecimal code for
characters that are not printable or that join the character before them.

`quoted` is the form in messages and `literal` the form in source text.  They differ on the
null character: a message has `\0`, and a literal has `\x00` before an octal digit, so that
the escape is never read as longer than it is.
-/

namespace DomainValues.Text

open Unicode

/-! ## Trimming -/

/-- Whether a character is white space. -/
def isBlank (c : Char) : Bool :=
  if c.toNat < 0x80 then c == ' ' || (decide (9 ≤ c.toNat) && decide (c.toNat ≤ 13))
  else Unicode.whiteSpace.contains c.toNat

/-- The text without white space at either end. -/
def trim (text : List Char) : List Char :=
  ((text.dropWhile isBlank).reverse.dropWhile isBlank).reverse

example : trim ['\t', ' ', '1', ' ', '2', '\n'] = ['1', ' ', '2'] := by decide +kernel

/-! ## Quoting -/

/-- The characters that are written as themselves: all but controls, format characters,
separators other than the space, and code points without a character. -/
def printable : CharSet :=
  CharSet.union (CharSet.singleton 0x20)
    (CharSet.diff assigned (categories ["cc", "cf", "co", "zl", "zp", "zs"]))

/-- The characters that join the character before them. -/
def joining : CharSet := (findChars? binaryPropertyRows "graphemeextend").getD CharSet.empty

/-- Whether a character is written as itself. -/
def showsAsItself (c : Char) : Bool :=
  if c.toNat < 0x7F then decide (0x20 ≤ c.toNat)
  else printable.contains c.toNat && !joining.contains c.toNat

/-- The escape by code. -/
def codeEscape (c : Char) : List Char :=
  ['\\', 'u', '\x7b'] ++ Nat.toDigits 16 c.toNat ++ ['\x7d']

/-- A character of quoted text.  The single quote is not escaped. -/
def escape (c : Char) : List Char :=
  match c with
  | '\x00' => ['\\', '0']
  | '\t' => ['\\', 't']
  | '\r' => ['\\', 'r']
  | '\n' => ['\\', 'n']
  | '\\' => ['\\', '\\']
  | '"' => ['\\', '"']
  | c => if showsAsItself c then [c] else codeEscape c

/-- Text as it is quoted in messages. -/
def quoted (text : String) : String :=
  String.ofList ('"' :: text.toList.flatMap escape ++ ['"'])

/-- Whether the character is an octal digit. -/
def isOctalDigit (c : Char) : Bool := decide ('0' ≤ c) && decide (c ≤ '7')

/-- The characters between the quotes of a literal. -/
def literalBody : List Char → List Char
  | [] => []
  | c :: rest =>
      (if c = '\x00' ∧ (rest.head?.any isOctalDigit) then ['\\', 'x', '0', '0'] else escape c) ++
        literalBody rest

/-- Text as a literal of source text. -/
def literal (text : String) : String :=
  String.ofList ('"' :: literalBody text.toList ++ ['"'])

example : quoted "a\"b\\\n" = "\"a\\\"b\\\\\\n\"" := by decide +kernel
example : literal "\x007\x008" = "\"\\x007\\08\"" := by decide +kernel

end DomainValues.Text
