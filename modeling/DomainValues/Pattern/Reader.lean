import DomainValues.Pattern.Fault
import DomainValues.Unicode.Property

/-!
# Reading patterns

The text of a pattern is read from left to right into a `Node`.  In verbose text, which a flag
switches on, white space and comments between the parts do not count.

The first fault in reading order is reported.  A pattern that can be read may still be nested
too deeply (`Node.tooDeep?`).
-/

namespace DomainValues.Pattern

/-- How far a pattern has been read. -/
structure Cursor where
  /-- The text that is left. -/
  rest : List Char
  /-- How much has been read. -/
  offset : Nat
  /-- Whether the text is verbose. -/
  verbose : Bool
  /-- The names of groups so far, and where they stand. -/
  names : List (List Char × Span)

namespace Cursor

/-- Whether nothing is left. -/
def atEnd (c : Cursor) : Bool := c.rest.isEmpty

/-- Whether the character comes next. -/
def isAt (c : Cursor) (d : Char) : Bool := c.rest.head? == some d

/-- Past the next character. -/
def bump (c : Cursor) : Cursor :=
  match c.rest with
  | [] => c
  | _ :: rest => { c with rest, offset := c.offset + 1 }

/-- The empty span here. -/
def here (c : Cursor) : Span := ⟨c.offset, c.offset⟩

/-- The span of the next character. -/
def charSpan (c : Cursor) : Span := ⟨c.offset, c.offset + 1⟩

/-- White space in a pattern. -/
def isSpace (c : Char) : Bool := Unicode.whiteSpace.contains c.toNat

/-- How many characters of verbose text do not count: white space and comments, which run from
`#` to the end of the line. -/
def spaceLength : (comment : Bool) → List Char → Nat
  | _, [] => 0
  | true, c :: rest => 1 + spaceLength (c != '\n') rest
  | false, c :: rest =>
      if isSpace c then 1 + spaceLength false rest
      else if c = '#' then 1 + spaceLength true rest
      else 0

/-- Past what does not count. -/
def bumpSpace (c : Cursor) : Cursor :=
  if c.verbose then
    let n := spaceLength false c.rest
    { c with rest := c.rest.drop n, offset := c.offset + n }
  else c

/-- Past the next character and what does not count after it. -/
def bumpAndSpace (c : Cursor) : Cursor := c.bump.bumpSpace

/-- Past a text, if it comes next. -/
def bumpIf? (c : Cursor) (text : List Char) : Option Cursor :=
  if text.isPrefixOf c.rest then
    some { c with rest := c.rest.drop text.length, offset := c.offset + text.length }
  else none

/-- The character after the next one.  In verbose text, white space and one `#` between them do
not count. -/
def peekSpace (c : Cursor) : Option Char :=
  let after := c.rest.drop 1
  if c.verbose then
    match after.dropWhile isSpace with
    | '#' :: rest => (rest.dropWhile isSpace).head?
    | rest => rest.head?
  else after.head?

end Cursor

/-- A fault without an earlier place. -/
def fail {α : Type} (cause : Cause) (span : Span) : Except Fault α :=
  .error ⟨cause, span, none⟩

/-! ## Decimals -/

/-- The digits here and the cursor after them. -/
def readDigits : (fuel : Nat) → Cursor → List Char × Cursor
  | 0, c => ([], c)
  | fuel + 1, c => match c.rest with
      | d :: _ =>
          if '0' ≤ d ∧ d ≤ '9' then
            let (digits, after) := readDigits fuel c.bumpAndSpace
            (d :: digits, after)
          else ([], c)
      | [] => ([], c)

/-- Past white space. -/
def skipWhite (c : Cursor) : Cursor :=
  let n := (c.rest.takeWhile Cursor.isSpace).length
  { c with rest := c.rest.drop n, offset := c.offset + n }

/-- Reads a decimal below `2 ^ 32`, with white space around it.  The cursor after it is known
even if there is none. -/
def readDecimal (c : Cursor) : Except Fault Nat × Cursor :=
  let start := skipWhite c
  let (digits, after) := readDigits (start.rest.length + 1) start
  let span : Span := ⟨start.offset, after.offset⟩
  let value := digits.foldl (fun n d => 10 * n + (d.toNat - '0'.toNat)) 0
  let result :=
    if digits = [] then fail .repetitionCountEmpty span
    else if value < UInt32.size then .ok value
    else fail .decimalInvalid span
  (result, (skipWhite after).bumpSpace)

/-! ## Escapes -/

/-- Whether the character is a hexadecimal digit. -/
def isHex (c : Char) : Bool :=
  (decide ('0' ≤ c) && decide (c ≤ '9')) || (decide ('a' ≤ c) && decide (c ≤ 'f')) ||
    (decide ('A' ≤ c) && decide (c ≤ 'F'))

/-- The value of hexadecimal digits. -/
def hexValue (digits : List Char) : Nat :=
  digits.foldl (fun n d => 16 * n +
    (if d ≤ '9' then d.toNat - '0'.toNat
     else if 'a' ≤ d then d.toNat - 'a'.toNat + 10 else d.toNat - 'A'.toNat + 10)) 0

/-- The character of a code, if it has one. -/
def charOf? (n : Nat) : Option Char := if n.isValidChar then some (Char.ofNat n) else none

/-- Reads a fixed number of hexadecimal digits. -/
def readHexDigits : (count : Nat) → Cursor → Except Fault (List Char × Cursor)
  | 0, c => .ok ([], c)
  | count + 1, c => match c.rest with
      | [] => fail .escapeUnexpectedEnd c.here
      | d :: _ =>
          if isHex d then do
            let (digits, after) ← readHexDigits count c.bumpAndSpace
            .ok (d :: digits, after)
          else fail .escapeHexInvalidDigit c.charSpan

/-- Reads hexadecimal digits up to a closing brace, which is not taken. -/
def readHexBraced (brace : Nat) : (fuel : Nat) → Cursor → Except Fault (List Char × Cursor)
  | 0, c => fail .escapeUnexpectedEnd ⟨brace, c.offset⟩
  | fuel + 1, c => match c.rest with
      | [] => fail .escapeUnexpectedEnd ⟨brace, c.offset⟩
      | '\x7d' :: _ => .ok ([], c)
      | d :: _ =>
          if isHex d then do
            let (digits, after) ← readHexBraced brace fuel c.bumpAndSpace
            .ok (d :: digits, after)
          else fail .escapeHexInvalidDigit c.charSpan

/-- Reads an escape by code, given the cursor at its letter. -/
def readHex (count : Nat) (byteSpelling : Bool) (c : Cursor) : Except Fault (Letter × Cursor) :=
  let c := c.bumpAndSpace
  if c.atEnd then fail .escapeUnexpectedEnd c.here
  else if c.isAt '\x7b' then do
    let brace := c.offset
    let (digits, closing) ← readHexBraced brace (c.rest.length + 1) c.bumpAndSpace
    let after := closing.bumpAndSpace
    if digits = [] then fail .escapeHexEmpty ⟨brace, after.offset⟩
    else match charOf? (hexValue digits) with
      | some d => .ok (⟨d, false⟩, after)
      | none => fail .escapeHexInvalid ⟨brace + 1, closing.offset⟩
  else do
    let start := c.offset
    let (digits, after) ← readHexDigits count c
    match charOf? (hexValue digits) with
    | some d => .ok (⟨d, byteSpelling⟩, after)
    | none => fail .escapeHexInvalid ⟨start, after.offset⟩

/-- Reads the name of a property up to the closing brace, which is not taken. -/
def readName : (fuel : Nat) → Cursor → Except Fault (List Char × Cursor)
  | 0, c => fail .escapeUnexpectedEnd c.here
  | fuel + 1, c => match c.rest with
      | [] => fail .escapeUnexpectedEnd c.here
      | '\x7d' :: _ => .ok ([], c)
      | d :: _ => do
          let (name, after) ← readName fuel c.bumpAndSpace
          .ok (d :: name, after)

/-- What stands before and after the first `!=`. -/
def splitUnequal? : List Char → Option (List Char × List Char)
  | '!' :: '=' :: rest => some ([], rest)
  | c :: rest => (splitUnequal? rest).map fun (before, after) => (c :: before, after)
  | [] => none

/-- What stands before and after the first of a character. -/
def splitAt? (d : Char) (cs : List Char) : Option (List Char × List Char) :=
  if cs.contains d then
    some (cs.takeWhile fun c => c ≠ d, (cs.dropWhile fun c => c ≠ d).drop 1)
  else none

/-- The choice that is written in the braces of a property. -/
def queryOf (name : List Char) : PropertyQuery :=
  let valued (parts : List Char × List Char) : PropertyQuery :=
    .valued (String.ofList parts.1) (String.ofList parts.2)
  match splitUnequal? name, splitAt? ':' name, splitAt? '=' name with
  | some parts, _, _ => valued parts
  | none, some parts, _ => valued parts
  | none, none, some parts => valued parts
  | none, none, none => .named (String.ofList name)

/-- Reads a property, given the cursor at its letter. -/
def readProperty (c : Cursor) : Except Fault (PropertyQuery × Cursor) :=
  let c := c.bumpAndSpace
  match c.rest with
  | [] => fail .escapeUnexpectedEnd c.here
  | '\x7b' :: _ => do
      let (name, after) ← readName (c.rest.length + 1) c.bumpAndSpace
      .ok (queryOf name, after.bump)
  | d :: _ =>
      if d = '\\' then fail .propertyInvalid c.charSpan
      else .ok (.named d.toString, c.bumpAndSpace)

/-- Letters and the hyphen, of which the names of word boundaries consist. -/
def isBoundaryChar (c : Char) : Bool :=
  (decide ('a' ≤ c) && decide (c ≤ 'z')) || (decide ('A' ≤ c) && decide (c ≤ 'Z')) ||
    c == '-'

/-- Reads the name of a word boundary. -/
def readBoundaryName : (fuel : Nat) → Cursor → List Char × Cursor
  | 0, c => ([], c)
  | fuel + 1, c => match c.rest with
      | d :: _ =>
          if isBoundaryChar d then
            let (name, after) := readBoundaryName fuel c.bumpAndSpace
            (d :: name, after)
          else ([], c)
      | [] => ([], c)

/-- Reads what may follow the escape of a word boundary: a name in braces.  Braces without a
name are left for a repetition. -/
def readBoundary (start : Nat) (c : Cursor) : Except Fault (Assertion × Cursor) :=
  if !c.isAt '\x7b' then .ok (.wordBoundary, c)
  else
    let inside := c.bumpAndSpace
    match inside.rest with
    | [] => fail .wordBoundaryUnexpectedEnd ⟨start, inside.offset⟩
    | d :: _ =>
        if !isBoundaryChar d then .ok (.wordBoundary, c)
        else
          let (name, after) := readBoundaryName (inside.rest.length + 1) inside
          if !after.isAt '\x7d' then fail .wordBoundaryUnclosed ⟨c.offset, after.offset⟩
          else match String.ofList name with
            | "start" => .ok (.wordStart, after.bump)
            | "end" => .ok (.wordEnd, after.bump)
            | "start-half" => .ok (.wordStartHalf, after.bump)
            | "end-half" => .ok (.wordEndHalf, after.bump)
            | _ => fail .wordBoundaryUnrecognized ⟨inside.offset, after.offset⟩

/-- Whether a character stands for itself after a backslash: any ASCII character that is no
letter, no digit and no angle bracket. -/
def isEscapable (c : Char) : Bool :=
  decide (c.toNat < 0x80) && !c.isAlphanum && c != '<' && c != '>'

/-- The character that an escape of one letter stands for. -/
def specialChar? (c : Char) : Option Char :=
  match c with
  | 'a' => some '\x07'
  | 'f' => some '\x0c'
  | 't' => some '\t'
  | 'n' => some '\n'
  | 'r' => some '\r'
  | 'v' => some '\x0b'
  | _ => if isEscapable c then some c else none

/-- The assertion that an escape of one letter stands for. -/
def assertion? (c : Char) : Option Assertion :=
  match c with
  | 'A' => some .startText
  | 'z' => some .endText
  | 'B' => some .notWordBoundary
  | '<' => some .wordStart
  | '>' => some .wordEnd
  | _ => none

/-- The class that an escape of one letter stands for, and whether it is negated. -/
def perl? (c : Char) : Option (Bool × PerlClass) :=
  match c with
  | 'd' => some (false, .digit)
  | 's' => some (false, .space)
  | 'w' => some (false, .word)
  | 'D' => some (true, .digit)
  | 'S' => some (true, .space)
  | 'W' => some (true, .word)
  | _ => none

/-- Reads an escape, given the cursor at its backslash. -/
def readEscape (c : Cursor) : Except Fault (Node × Cursor) :=
  let start := c.offset
  let c := c.bump
  match c.rest with
  | [] => fail .escapeUnexpectedEnd ⟨start, c.offset⟩
  | d :: _ =>
      let after := c.bump
      let span : Span := ⟨start, after.offset⟩
      let hex (count : Nat) (byteSpelling : Bool) : Except Fault (Node × Cursor) :=
        (readHex count byteSpelling c).map fun (l, after) =>
          (.letter ⟨start, after.offset⟩ l, after)
      if d.isDigit then fail .backreference span
      else if d = 'x' then hex 2 true
      else if d = 'u' then hex 4 false
      else if d = 'U' then hex 8 false
      else if d = 'p' ∨ d = 'P' then
        (readProperty c).map fun (q, after) =>
          (.property ⟨start, after.offset⟩ (d = 'P') q, after)
      else match perl? d, specialChar? d, assertion? d with
        | some (negated, name), _, _ => .ok (.perl span negated name, after)
        | none, some e, _ => .ok (.letter span ⟨e, false⟩, after)
        | none, none, some a => .ok (.assertion span a, after)
        | none, none, none =>
            if d = 'b' then
              (readBoundary start after).map fun (a, after) =>
                (.assertion ⟨start, after.offset⟩ a, after)
            else fail .escapeUnrecognized span

/-! ## Sets in brackets -/

/-- The name of a class in brackets and colons. -/
def asciiClass? (name : List Char) : Option AsciiClass :=
  match String.ofList name with
  | "alnum" => some .alnum
  | "alpha" => some .alpha
  | "ascii" => some .ascii
  | "blank" => some .blank
  | "cntrl" => some .cntrl
  | "digit" => some .digit
  | "graph" => some .graph
  | "lower" => some .lower
  | "print" => some .print
  | "punct" => some .punct
  | "space" => some .space
  | "upper" => some .upper
  | "word" => some .word
  | "xdigit" => some .xdigit
  | _ => none

/-- Reads a class in brackets and colons, if there is one. -/
def readAscii? (c : Cursor) : Option (ClassSet × Cursor) :=
  match c.rest with
  | '[' :: ':' :: rest =>
      let negated := rest.head? == some '^'
      let rest := if negated then rest.drop 1 else rest
      let name := rest.takeWhile (· ≠ ':')
      match rest.drop name.length, asciiClass? name with
      | ':' :: ']' :: after, some kind =>
          let stop := c.offset + (c.rest.length - after.length)
          some (.ascii ⟨c.offset, stop⟩ negated kind, { c with rest := after, offset := stop })
      | _, _ => none
  | _ => none

/-- Reads one item of a set, as if it stood outside. -/
def readPrimitive (c : Cursor) : Except Fault (Node × Cursor) :=
  match c.rest with
  | '\\' :: _ => readEscape c
  | d :: _ => .ok (.letter c.charSpan ⟨d, false⟩, c.bump)
  | [] => fail .classUnclosed c.here

/-- The item of a set that a part is. -/
def itemOf (n : Node) : Except Fault ClassSet :=
  match n with
  | .letter s l => .ok (.letter s l)
  | .property s negated query => .ok (.property s negated query)
  | .perl s negated name => .ok (.perl s negated name)
  | n => fail .classEscapeInvalid n.span

/-- The end of a range that a part is. -/
def letterOf (n : Node) : Except Fault Letter :=
  match n with
  | .letter _ l => .ok l
  | n => fail .classRangeLiteral n.span

/-- Reads an item of a set or a range of two.  `opened` is where the set opens. -/
def readRange (opened : Span) (c : Cursor) : Except Fault (ClassSet × Cursor) := do
  let (first, c) ← readPrimitive c
  let c := c.bumpSpace
  if c.atEnd then fail .classUnclosed opened
  else if !c.isAt '-' || c.peekSpace == some ']' || c.peekSpace == some '-' then
    (itemOf first).map (·, c)
  else
    let c := c.bumpAndSpace
    if c.atEnd then fail .classUnclosed opened
    else
      let (last, c) ← readPrimitive c
      let span : Span := ⟨first.span.start, last.span.stop⟩
      let low ← letterOf first
      let high ← letterOf last
      if low.char ≤ high.char then .ok (.range span first.span last.span low high, c)
      else fail .classRangeInvalid span

/-- What opens a set: whether it is negated, the items that stand first and so count as
themselves, last first, and where it opens. -/
structure Opening where
  /-- Whether the set is negated. -/
  negated : Bool
  /-- The items so far, last first. -/
  items : List ClassSet
  /-- The opening, up to the first item that is read as usual. -/
  span : Span

/-- Reads hyphens at the start of a set. -/
def readHyphens (start : Nat) :
    (fuel : Nat) → List ClassSet → Cursor → Except Fault (List ClassSet × Cursor)
  | 0, items, c => .ok (items, c)
  | fuel + 1, items, c =>
      if c.isAt '-' then
        let after := c.bumpAndSpace
        if after.atEnd then fail .classUnclosed ⟨start, start⟩
        else readHyphens start fuel (.letter c.charSpan ⟨'-', false⟩ :: items) after
      else .ok (items, c)

/-- Reads the opening of a set. -/
def readOpening (c : Cursor) : Except Fault (Opening × Cursor) := do
  let start := c.offset
  let c := c.bumpAndSpace
  if c.atEnd then fail .classUnclosed ⟨start, c.offset⟩
  else
    let negated := c.isAt '^'
    let c := if negated then c.bumpAndSpace else c
    if c.atEnd then fail .classUnclosed ⟨start, c.offset⟩
    else
      let (items, c) ← readHyphens start (c.rest.length + 1) [] c
      if items.isEmpty && c.isAt ']' then
        let after := c.bumpAndSpace
        if after.atEnd then fail .classUnclosed ⟨start, after.offset⟩
        else .ok (⟨negated, [.letter c.charSpan ⟨']', false⟩], ⟨start, after.offset⟩⟩, after)
      else .ok (⟨negated, items, ⟨start, c.offset⟩⟩, c)

/-- An operation that waits for its right side. -/
structure Pending where
  /-- The operation. -/
  operation : SetOperation
  /-- Its left side. -/
  left : ClassSet

/-- The set of some items, last first, as the right side of what waits. -/
def close (pending : Option Pending) (here : Span) (items : List ClassSet) : ClassSet :=
  let right := ClassSet.ofItems here items.reverse
  match pending with
  | none => right
  | some p => .operation ⟨p.left.span.start, right.span.stop⟩ p.operation p.left right

/-- The operation that two characters stand for. -/
def operation? (c : Cursor) : Option SetOperation :=
  match c.rest with
  | '&' :: '&' :: _ => some .intersection
  | '-' :: '-' :: _ => some .difference
  | '~' :: '~' :: _ => some .symmetricDifference
  | _ => none

mutual

/-- Reads a set, given the cursor at its bracket. -/
def readSet : (fuel : Nat) → Cursor → Except Fault ((Span × Bool × ClassSet) × Cursor)
  | 0, c => fail .classUnclosed c.here
  | fuel + 1, c => do
      let (opening, inside) ← readOpening c
      let (set, after) ← readItems fuel opening.span none ⟨opening.span.stop, opening.span.stop⟩
        opening.items inside
      .ok ((⟨c.offset, after.offset⟩, opening.negated, set), after)

/-- Reads the items of a set and its closing bracket.  `opened` is where the set opens, `here`
where the items after the last operation start. -/
def readItems : (fuel : Nat) → (opened : Span) → Option Pending → (here : Span) → List ClassSet →
    Cursor → Except Fault (ClassSet × Cursor)
  | 0, opened, _, _, _, _ => fail .classUnclosed opened
  | fuel + 1, opened, pending, here, items, c =>
      let c := c.bumpSpace
      match c.rest with
      | [] => fail .classUnclosed opened
      | ']' :: _ => .ok (close pending here items, c.bump)
      | '[' :: _ =>
          match readAscii? c with
          | some (item, after) => readItems fuel opened pending here (item :: items) after
          | none => do
              let ((span, negated, inside), after) ← readSet fuel c
              readItems fuel opened pending here (.bracketed span negated inside :: items) after
      | _ =>
          match operation? c with
          | some operation =>
              let after := c.bump.bump
              readItems fuel opened (some ⟨operation, close pending here items⟩) after.here [] after
          | none => do
              let (item, after) ← readRange opened c
              readItems fuel opened pending here (item :: items) after

end

/-! ## Groups -/

/-- The flag of a letter. -/
def flag? (c : Char) : Option Flag :=
  match c with
  | 'i' => some .caseInsensitive
  | 'm' => some .multiLine
  | 's' => some .dotMatchesNewLine
  | 'U' => some .swapGreed
  | 'u' => some .unicode
  | 'R' => some .carriageReturn
  | 'x' => some .verbose
  | _ => none

/-- Reads flags up to the colon or the parenthesis, which is not taken.  The entries so far come
last first, with their places. -/
def readFlags :
    (fuel : Nat) → List (FlagEntry × Span) → Cursor → Except Fault (List FlagEntry × Cursor)
  | 0, _, c => fail .flagUnexpectedEnd c.here
  | fuel + 1, entries, c => match c.rest with
      | [] => fail .flagUnexpectedEnd c.here
      | d :: _ =>
          if d = ':' ∨ d = ')' then
            match entries with
            | (.negation, span) :: _ => fail .flagDanglingNegation span
            | _ => .ok ((entries.map Prod.fst).reverse, c)
          else
            let span := c.charSpan
            let next (entry : FlagEntry) (repeated : Cause) :
                Except Fault (List FlagEntry × Cursor) :=
              match entries.find? fun e => e.1 = entry with
              | some (_, first) => .error ⟨repeated, span, some first⟩
              | none => readFlags fuel ((entry, span) :: entries) c.bump
            if d = '-' then next .negation .flagRepeatedNegation
            else match flag? d with
              | some f => next (.flag f) .flagDuplicate
              | none => fail .flagUnrecognized span

/-- The letters of all scripts. -/
def alphabetic : CharSet :=
  (Unicode.findChars? Unicode.binaryPropertyRows "alphabetic").getD CharSet.empty

/-- The numbers of all scripts. -/
def numeric : CharSet := Unicode.categories ["nd", "nl", "no"]

/-- Whether a character may stand in the name of a group. -/
def isNameChar (first : Bool) (c : Char) : Bool :=
  c == '_' || alphabetic.contains c.toNat ||
    (!first && (c == '.' || c == '[' || c == ']' || numeric.contains c.toNat))

/-- Reads the characters of the name of a group up to `>`, which is not taken. -/
def readNameChars :
    (first : Bool) → (fuel : Nat) → Cursor → Except Fault (List Char × Cursor)
  | _, 0, c => fail .groupNameUnexpectedEnd c.here
  | first, fuel + 1, c => match c.rest with
      | [] => fail .groupNameUnexpectedEnd c.here
      | '>' :: _ => .ok ([], c)
      | d :: _ =>
          if isNameChar first d then do
            let (name, after) ← readNameChars false fuel c.bump
            .ok (d :: name, after)
          else fail .groupNameInvalid c.charSpan

/-- Reads the name of a group and `>`. -/
def readGroupName (c : Cursor) : Except Fault Cursor := do
  let (name, closing) ← readNameChars true (c.rest.length + 1) c
  let span : Span := ⟨c.offset, closing.offset⟩
  if name = [] then fail .groupNameEmpty ⟨c.offset, c.offset⟩
  else match closing.names.find? fun n => n.1 = name with
    | some (_, first) => .error ⟨.groupNameDuplicate, span, some first⟩
    | none =>
        let after := closing.bump
        .ok { after with names := (name, span) :: after.names }

/-- What an opening parenthesis starts. -/
inductive GroupOpening where
  /-- Flags for the rest of the group around it. -/
  | flags (entries : List FlagEntry)
  /-- A group that captures. -/
  | capture
  /-- A group with flags. -/
  | group (entries : List FlagEntry)

/-- Reads what follows an opening parenthesis. -/
def readGroupOpening (c : Cursor) : Except Fault (GroupOpening × Cursor) := do
  let opened := c.charSpan
  let c := c.bump.bumpSpace
  let inside := c.here
  let ahead (text : String) : Option Cursor := c.bumpIf? text.toList
  match (["?=", "?!", "?<=", "?<!"].filterMap ahead).head? with
  | some after => fail .lookAround ⟨opened.start, after.offset⟩
  | none =>
      match (["?P<", "?<"].filterMap ahead).head?, ahead "?" with
      | some after, _ => do
          let after ← readGroupName after
          .ok (.capture, after)
      | none, some after =>
          if after.atEnd then fail .groupUnclosed opened
          else do
            let (entries, closing) ← readFlags (after.rest.length + 1) [] after
            if closing.isAt ')' then
              if entries = [] then fail .repetitionMissing inside
              else .ok (.flags entries, closing.bump)
            else .ok (.group entries, closing.bump)
      | none, none => .ok (.capture, c)

/-! ## Repetition -/

/-- The part that a repetition repeats: the last one, unless it only sets flags. -/
def repeated? (c : Cursor) (parts : List Node) : Except Fault (Node × List Node) :=
  match parts with
  | .flags .. :: _ => fail .repetitionMissing c.here
  | .empty _ :: _ => fail .repetitionMissing c.here
  | part :: rest => .ok (part, rest)
  | [] => fail .repetitionMissing c.here

/-- Past the question mark that makes a repetition lazy. -/
def bumpLazy (c : Cursor) : Cursor := if c.isAt '?' then c.bump else c

/-- Reads the counts of a repetition after its opening brace. -/
def readCounts (start : Nat) (c : Cursor) : Except Fault ((Nat × Option Nat) × Cursor) :=
  let unclosed (c : Cursor) : Except Fault ((Nat × Option Nat) × Cursor) :=
    fail .repetitionCountUnclosed ⟨start, c.offset⟩
  let (least, c) := readDecimal c
  if c.atEnd then unclosed c
  else if c.isAt ',' then
    let c := c.bumpAndSpace
    if c.atEnd then unclosed c
    else if c.isAt '\x7d' then least.map fun n => ((n, none), c)
    else do
      let n ← least
      let (greatest, c) := readDecimal c
      let m ← greatest
      if c.isAt '\x7d' then .ok ((n, some m), c) else unclosed c
  else do
    let n ← least
    if c.isAt '\x7d' then .ok ((n, some n), c) else unclosed c

/-- Reads a repetition of the last part. -/
def readRepetition (parts : List Node) (c : Cursor) : Except Fault (List Node × Cursor) := do
  let start := c.offset
  let (part, rest) ← repeated? c parts
  let finish (least : Nat) (greatest : Option Nat) (c : Cursor) :
      Except Fault (List Node × Cursor) :=
    .ok (.repetition ⟨part.span.start, c.offset⟩ least greatest part :: rest, c)
  match c.rest.head? with
  | some '?' => finish 0 (some 1) (bumpLazy c.bump)
  | some '*' => finish 0 none (bumpLazy c.bump)
  | some '+' => finish 1 none (bumpLazy c.bump)
  | _ =>
      let c := c.bumpAndSpace
      if c.atEnd then fail .repetitionCountUnclosed ⟨start, c.offset⟩
      else
        let ((least, greatest), closing) ← readCounts start c
        let after := bumpLazy closing.bumpAndSpace
        match greatest with
        | some m =>
            if m < least then fail .repetitionCountInvalid ⟨start, after.offset⟩
            else finish least (some m) after
        | none => finish least none after

/-! ## Patterns -/

/-- Reads a part that is not a group, a set or a repetition. -/
def readSimple (c : Cursor) : Except Fault (Node × Cursor) :=
  match c.rest with
  | '\\' :: _ => readEscape c
  | '.' :: _ => .ok (.dot c.charSpan, c.bump)
  | '^' :: _ => .ok (.assertion c.charSpan .startLine, c.bump)
  | '$' :: _ => .ok (.assertion c.charSpan .endLine, c.bump)
  | d :: _ => .ok (.letter c.charSpan ⟨d, false⟩, c.bump)
  | [] => fail .escapeUnexpectedEnd c.here

/-- The alternatives read so far, last first, and where the first of them starts. -/
structure Alternatives where
  /-- Where they start. -/
  start : Nat
  /-- The alternatives, last first. -/
  nodes : List Node

/-- The alternatives with one more, as one part. -/
def Alternatives.finish (before : Option Alternatives) (last : Node) (stop : Nat) : Node :=
  match before with
  | none => last
  | some a => .alternation ⟨a.start, stop⟩ (last :: a.nodes).reverse

/-- Reads the inside of a group, or the whole pattern if `opened` is none, up to the end or the
closing parenthesis, which is not taken.  `start` is where the current alternative starts and
`parts` holds its parts, last first. -/
def readInside : (fuel : Nat) → (opened : Option Span) → Option Alternatives → (start : Nat) →
    List Node → Cursor → Except Fault (Node × Cursor)
  | 0, _, _, _, _, c => fail .groupUnclosed c.here
  | fuel + 1, opened, before, start, parts, c =>
      let c := c.bumpSpace
      let current := Node.ofParts ⟨start, c.offset⟩ parts.reverse
      match c.rest with
      | [] => match opened with
          | some span => fail .groupUnclosed span
          | none => .ok (Alternatives.finish before current c.offset, c)
      | ')' :: _ => match opened with
          | some _ => .ok (Alternatives.finish before current c.offset, c)
          | none => fail .groupUnopened c.charSpan
      | '|' :: _ =>
          let before : Alternatives := match before with
            | none => ⟨start, [current]⟩
            | some a => ⟨a.start, current :: a.nodes⟩
          readInside fuel opened (some before) (c.offset + 1) [] c.bump
      | '(' :: _ => do
          let (opening, inside) ← readGroupOpening c
          match opening with
          | .flags entries =>
              let verbose := (flagState? .verbose false entries).getD inside.verbose
              readInside fuel opened before start
                (.flags ⟨c.offset, inside.offset⟩ entries :: parts)
                { inside with verbose }
          | .capture =>
              let (node, closing) ← readInside fuel (some c.charSpan) none inside.offset [] inside
              let after := { closing.bump with verbose := c.verbose }
              readInside fuel opened before start
                (.capture ⟨c.offset, after.offset⟩ node :: parts) after
          | .group entries =>
              let verbose := (flagState? .verbose false entries).getD c.verbose
              let (node, closing) ← readInside fuel (some c.charSpan) none inside.offset []
                { inside with verbose }
              let after := { closing.bump with verbose := c.verbose }
              readInside fuel opened before start
                (.group ⟨c.offset, after.offset⟩ entries node :: parts) after
      | '[' :: _ => do
          let ((span, negated, set), after) ← readSet (c.rest.length + 1) c
          readInside fuel opened before start (.bracketed span negated set :: parts) after
      | d :: _ =>
          if d = '?' ∨ d = '*' ∨ d = '+' ∨ d = '\x7b' then do
            let (parts, after) ← readRepetition parts c
            readInside fuel opened before start parts after
          else do
            let (node, after) ← readSimple c
            readInside fuel opened before start (node :: parts) after

/-! ## Nesting -/

mutual

/-- The first part of a set that is nested too deeply, in reading order. -/
def ClassSet.tooDeep? (depth : Nat) : ClassSet → Option Span
  | .bracketed s _ inside => if depth = 0 then some s else inside.tooDeep? (depth - 1)
  | .union s items => if depth = 0 then some s else ClassSet.anyTooDeep? (depth - 1) items
  | .operation s _ left right =>
      if depth = 0 then some s
      else match left.tooDeep? (depth - 1) with
        | some t => some t
        | none => right.tooDeep? (depth - 1)
  | _ => none

/-- The first of some items that is nested too deeply. -/
def ClassSet.anyTooDeep? (depth : Nat) : List ClassSet → Option Span
  | [] => none
  | item :: rest => match item.tooDeep? depth with
      | some t => some t
      | none => ClassSet.anyTooDeep? depth rest

end

mutual

/-- The first part that is nested too deeply, in reading order.  `depth` is how much deeper
parts may be nested. -/
def Node.tooDeep? (depth : Nat) : Node → Option Span
  | .bracketed s _ inside => if depth = 0 then some s else inside.tooDeep? (depth - 1)
  | .repetition s _ _ n => if depth = 0 then some s else n.tooDeep? (depth - 1)
  | .capture s n => if depth = 0 then some s else n.tooDeep? (depth - 1)
  | .group s _ n => if depth = 0 then some s else n.tooDeep? (depth - 1)
  | .alternation s ns => if depth = 0 then some s else Node.anyTooDeep? (depth - 1) ns
  | .concat s ns => if depth = 0 then some s else Node.anyTooDeep? (depth - 1) ns
  | _ => none

/-- The first of some parts that is nested too deeply. -/
def Node.anyTooDeep? (depth : Nat) : List Node → Option Span
  | [] => none
  | n :: rest => match n.tooDeep? depth with
      | some t => some t
      | none => Node.anyTooDeep? depth rest

end

/-- Reads the text of a pattern. -/
def read (pattern : String) : Except Fault Node := do
  let cs := pattern.toList
  let (node, _) ← readInside (cs.length + 1) none none 0 [] ⟨cs, 0, false, []⟩
  match node.tooDeep? nestLimit with
  | some span => fail .nestLimitExceeded span
  | none => .ok node

end DomainValues.Pattern
