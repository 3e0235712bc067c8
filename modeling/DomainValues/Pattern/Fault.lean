import DomainValues.Pattern.Syntax

/-!
# Faults of patterns

Why a pattern is refused, and how the refusal is shown: the pattern, with carets under the
place of the fault, and the cause.  A pattern of more than one line is shown between rules, its
lines numbered.
-/

namespace DomainValues.Pattern

/-- The greatest number of parts that may stand inside one another. -/
def nestLimit : Nat := 250

/-- The greatest size of a compiled pattern, in bytes. -/
def sizeLimit : Nat := 10 * 1024 * 1024

/-- Why the text of a pattern is refused. -/
inductive Cause where
  | classEscapeInvalid
  | classRangeInvalid
  | classRangeLiteral
  | classUnclosed
  | decimalInvalid
  | escapeHexEmpty
  | escapeHexInvalid
  | escapeHexInvalidDigit
  | escapeUnexpectedEnd
  | escapeUnrecognized
  | flagDanglingNegation
  | flagDuplicate
  | flagRepeatedNegation
  | flagUnexpectedEnd
  | flagUnrecognized
  | groupNameDuplicate
  | groupNameEmpty
  | groupNameInvalid
  | groupNameUnexpectedEnd
  | groupUnclosed
  | groupUnopened
  | nestLimitExceeded
  | repetitionCountInvalid
  | repetitionCountEmpty
  | repetitionCountUnclosed
  | repetitionMissing
  | wordBoundaryUnclosed
  | wordBoundaryUnrecognized
  | wordBoundaryUnexpectedEnd
  | propertyInvalid
  | backreference
  | lookAround
  | invalidUtf8
  | unicodeNotAllowed
  | propertyNotFound
  | propertyValueNotFound
  deriving DecidableEq, Repr

/-- The cause in words. -/
def Cause.message : Cause → String
  | classEscapeInvalid => "invalid escape sequence found in character class"
  | classRangeInvalid => "invalid character class range, the start must be <= the end"
  | classRangeLiteral => "invalid range boundary, must be a literal"
  | classUnclosed => "unclosed character class"
  | decimalInvalid => "decimal literal invalid"
  | escapeHexEmpty => "hexadecimal literal empty"
  | escapeHexInvalid => "hexadecimal literal is not a Unicode scalar value"
  | escapeHexInvalidDigit => "invalid hexadecimal digit"
  | escapeUnexpectedEnd => "incomplete escape sequence, reached end of pattern prematurely"
  | escapeUnrecognized => "unrecognized escape sequence"
  | flagDanglingNegation => "dangling flag negation operator"
  | flagDuplicate => "duplicate flag"
  | flagRepeatedNegation => "flag negation operator repeated"
  | flagUnexpectedEnd => "expected flag but got end of regex"
  | flagUnrecognized => "unrecognized flag"
  | groupNameDuplicate => "duplicate capture group name"
  | groupNameEmpty => "empty capture group name"
  | groupNameInvalid => "invalid capture group character"
  | groupNameUnexpectedEnd => "unclosed capture group name"
  | groupUnclosed => "unclosed group"
  | groupUnopened => "unopened group"
  | nestLimitExceeded =>
      s!"exceed the maximum number of nested parentheses/brackets ({nestLimit})"
  | repetitionCountInvalid => "invalid repetition count range, the start must be <= the end"
  | repetitionCountEmpty => "repetition quantifier expects a valid decimal"
  | repetitionCountUnclosed => "unclosed counted repetition"
  | repetitionMissing => "repetition operator missing expression"
  | wordBoundaryUnclosed =>
      "special word boundary assertion is either unclosed or contains an invalid character"
  | wordBoundaryUnrecognized =>
      "unrecognized special word boundary assertion, valid choices are: start, end, " ++
        "start-half or end-half"
  | wordBoundaryUnexpectedEnd =>
      "found either the beginning of a special word boundary or a bounded repetition on a \\b " ++
        "with an opening brace, but no closing brace"
  | propertyInvalid => "invalid Unicode character class"
  | backreference => "backreferences are not supported"
  | lookAround => "look-around, including look-ahead and look-behind, is not supported"
  | invalidUtf8 => "pattern can match invalid UTF-8"
  | unicodeNotAllowed => "Unicode not allowed here"
  | propertyNotFound => "Unicode property not found"
  | propertyValueNotFound => "Unicode property value not found"

/-- A refusal of the text of a pattern. -/
structure Fault where
  /-- Why. -/
  cause : Cause
  /-- Where. -/
  span : Span
  /-- What came first, where the fault repeats something. -/
  earlier : Option Span
  deriving DecidableEq, Repr

/-- Why a pattern does not compile. -/
inductive CompileError where
  /-- Its text is refused. -/
  | syntaxFault (fault : Fault)
  /-- What it compiles to is too large. -/
  | tooLarge
  deriving DecidableEq, Repr

/-! ## Showing the place -/

/-- A place by line and column, both from one. -/
structure Place where
  /-- The line. -/
  line : Nat
  /-- The column. -/
  column : Nat
  deriving DecidableEq

/-- The place of an offset. -/
def placeOf (pattern : List Char) (offset : Nat) : Place :=
  (pattern.take offset).foldl
    (fun p c => if c = '\n' then ⟨p.line + 1, 1⟩ else ⟨p.line, p.column + 1⟩)
    ⟨1, 1⟩

/-- The pieces of a text between its line feeds. -/
def pieces : List Char → List (List Char)
  | [] => [[]]
  | c :: rest =>
      if c = '\n' then [] :: pieces rest
      else match pieces rest with
        | piece :: more => (c :: piece) :: more
        | [] => [[c]]

/-- The lines of a text, without their breaks.  The carriage return of a break belongs to it,
and a break at the end of the text does not start a line. -/
def lines (cs : List Char) : List (List Char) :=
  let ps := pieces cs
  let closed := ps.dropLast.map fun line =>
    if line.getLast? = some '\r' then line.dropLast else line
  closed ++ (ps.getLast?.toList.filter fun line => !line.isEmpty)

/-- A row of one character. -/
def repeated (count : Nat) (c : Char) : String := String.ofList (List.replicate count c)

/-- The carets of spans that lie on one line, from the given column on. -/
def carets (pattern : List Char) : (column : Nat) → List Span → String
  | _, [] => ""
  | column, s :: rest =>
      let start := (placeOf pattern s.start).column - 1
      let length := max 1 ((placeOf pattern s.stop).column - (placeOf pattern s.start).column)
      repeated (start - column) ' ' ++ repeated length '^' ++
        carets pattern (max start column + length) rest

/-- The spans of a fault, in the order of their places. -/
def Fault.spans (f : Fault) : List Span :=
  match f.earlier with
  | none => [f.span]
  | some e =>
      if e.start < f.span.start ∨ (e.start = f.span.start ∧ e.stop ≤ f.span.stop) then
        [e, f.span]
      else [f.span, e]

/-- Whether a span lies on one line. -/
def onOneLine (pattern : List Char) (s : Span) : Bool :=
  (placeOf pattern s.start).line = (placeOf pattern s.stop).line

/-- The lines of the pattern, each with the carets that belong under it.  `margin` is what
stands before a line and `indent` what stands before its carets. -/
def notated (pattern : List Char) (spans : List Span) (margin : Nat → String) (indent : String) :
    (number : Nat) → List (List Char) → String
  | _, [] => ""
  | number, line :: rest =>
      let here := spans.filter fun s =>
        onOneLine pattern s && (placeOf pattern s.start).line == number
      margin number ++ String.ofList line ++ "\n" ++
        (if here.isEmpty then "" else indent ++ carets pattern 0 here ++ "\n") ++
        notated pattern spans margin indent (number + 1) rest

/-- Where a span that covers more than one line runs. -/
def lineNote (pattern : List Char) (s : Span) : String :=
  let p := placeOf pattern s.start
  let q := placeOf pattern s.stop
  s!"on line {p.line} (column {p.column}) through line {q.line} (column {q.column - 1})"

/-- A refusal as a reader sees it. -/
def Fault.text (f : Fault) (pattern : String) : String :=
  let cs := pattern.toList
  let rows := lines cs
  let spans := f.spans
  let body :=
    if cs.contains '\n' then
      let count := rows.length + (if cs.getLast? = some '\n' then 1 else 0)
      let width := if count ≤ 1 then 0 else (toString count).length
      let margin (n : Nat) : String :=
        if width = 0 then "    "
        else repeated (width - (toString n).length) ' ' ++ toString n ++ ": "
      let indent := repeated (if width = 0 then 4 else 2 + width) ' '
      let divider := repeated 79 '~' ++ "\n"
      let long := spans.filter fun s => !onOneLine cs s
      divider ++ notated cs spans margin indent 1 rows ++ divider ++
        (if long.isEmpty then "" else "\n".intercalate (long.map (lineNote cs)) ++ "\n")
    else notated cs spans (fun _ => "    ") "    " 1 rows
  "regex parse error:\n" ++ body ++ "error: " ++ f.cause.message

/-- Why a pattern does not compile, as a reader sees it. -/
def CompileError.text (pattern : String) : CompileError → String
  | syntaxFault f => f.text pattern
  | tooLarge => s!"Compiled regex exceeds size limit of {sizeLimit} bytes."

/-- Why a pattern does not compile, without the place. -/
def CompileError.reason : CompileError → String
  | syntaxFault f => f.cause.message
  | tooLarge => s!"Compiled regex exceeds size limit of {sizeLimit} bytes."

end DomainValues.Pattern
