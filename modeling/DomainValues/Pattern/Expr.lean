import DomainValues.Pattern.Fault
import DomainValues.Unicode.CaseFold
import DomainValues.Unicode.Property

/-!
# Pattern expressions

What a pattern means, without its spelling: steps over one character of a set, tests of a
place, and their combinations.  `Node.toExpr` resolves flags, names of classes and case on the
way from the tree of the text, and refuses what could match part of a character.
-/

namespace DomainValues.Pattern

/-- A test of a place by the word characters around it. -/
inductive WordTest where
  /-- A word character on one side only. -/
  | boundary
  /-- Word characters on both sides or on neither. -/
  | notBoundary
  /-- A word starts. -/
  | start
  /-- A word ends. -/
  | stop
  /-- No word character before. -/
  | startHalf
  /-- No word character after. -/
  | stopHalf
  deriving DecidableEq, Repr

/-- A test of a place. -/
inductive Look where
  | textStart
  | textEnd
  /-- The start of a line; lines may end in a carriage return too. -/
  | lineStart (carriageReturn : Bool)
  /-- The end of a line; lines may end in a carriage return too. -/
  | lineEnd (carriageReturn : Bool)
  /-- By word characters, of all scripts or of ASCII. -/
  | word (unicode : Bool) (test : WordTest)
  deriving DecidableEq, Repr

/-- A pattern expression over steps and tests of some form. -/
inductive Expr (σ τ : Type) where
  /-- The empty text. -/
  | empty
  /-- One character. -/
  | step (set : σ)
  /-- A test of the place. -/
  | look (look : τ)
  /-- One after the other. -/
  | concat (parts : List (Expr σ τ))
  /-- Any of some. -/
  | either (parts : List (Expr σ τ))
  /-- Repeated at least and, if there is a limit, at most so often. -/
  | repeated (least : Nat) (greatest : Option Nat) (part : Expr σ τ)
  /-- Captured. -/
  | capture (part : Expr σ τ)
  deriving Inhabited

/-- The flags in force. -/
structure Flags where
  caseInsensitive : Bool
  multiLine : Bool
  dotMatchesNewLine : Bool
  unicode : Bool
  carriageReturn : Bool
  deriving DecidableEq

namespace Flags

/-- The flags at the start of a pattern. -/
def initial : Flags := ⟨false, false, false, true, false⟩

/-- The flags after a list of flags. -/
def set (f : Flags) (entries : List FlagEntry) : Flags :=
  let state (flag : Flag) (before : Bool) : Bool := (flagState? flag false entries).getD before
  { caseInsensitive := state .caseInsensitive f.caseInsensitive
    multiLine := state .multiLine f.multiLine
    dotMatchesNewLine := state .dotMatchesNewLine f.dotMatchesNewLine
    unicode := state .unicode f.unicode
    carriageReturn := state .carriageReturn f.carriageReturn }

end Flags

/-! ## Classes -/

/-- The characters of a named ASCII class. -/
def AsciiClass.chars : AsciiClass → CharSet
  | alnum => .ofText "30-39 41-5A 61-7A"
  | alpha => .ofText "41-5A 61-7A"
  | ascii => .ofText "0-7F"
  | blank => .ofText "9 20"
  | cntrl => .ofText "0-1F 7F"
  | digit => .ofText "30-39"
  | graph => .ofText "21-7E"
  | lower => .ofText "61-7A"
  | print => .ofText "20-7E"
  | punct => .ofText "21-2F 3A-40 5B-60 7B-7E"
  | space => .ofText "9-D 20"
  | upper => .ofText "41-5A"
  | word => .ofText "30-39 41-5A 5F 61-7A"
  | xdigit => .ofText "30-39 41-46 61-66"

/-- The characters of a class, of all scripts or of ASCII. -/
def PerlClass.chars (unicode : Bool) : PerlClass → CharSet
  | digit => if unicode then Unicode.decimalDigits else AsciiClass.digit.chars
  | space => if unicode then Unicode.whiteSpace else AsciiClass.space.chars
  | word => if unicode then Unicode.wordCharacters else AsciiClass.word.chars

/-- A refusal. -/
def refuse {α : Type} (cause : Cause) (span : Span) : Except Fault α :=
  .error ⟨cause, span, none⟩

/-- Whether a set has ASCII characters only. -/
def isAscii (s : CharSet) : Bool := s.ranges.all fun r => decide (r.last < 0x80)

/-- The set with the other cases of its members, where case does not count, and negated on
demand.  Without Unicode the set is one of bytes, and those that are not ASCII are parts of
characters. -/
def foldAndNegate (f : Flags) (span : Span) (negated : Bool) (s : CharSet) : Except Fault CharSet :=
  if f.unicode then
    let s := if f.caseInsensitive then s.caseClosure else s
    .ok (if negated then CharSet.complement CharSet.scalars s else s)
  else
    let s := if f.caseInsensitive then s.asciiCaseClosure else s
    let s := if negated then CharSet.complement CharSet.bytes s else s
    if isAscii s then .ok s else refuse .invalidUtf8 span

/-- The characters of a class with a one-letter escape. -/
def perlSet (f : Flags) (span : Span) (negated : Bool) (name : PerlClass) : Except Fault CharSet :=
  let s := name.chars f.unicode
  let whole := if f.unicode then CharSet.scalars else CharSet.bytes
  let s := if negated then CharSet.complement whole s else s
  if f.unicode || isAscii s then .ok s else refuse .invalidUtf8 span

/-- The characters with a property. -/
def propertySet (f : Flags) (span : Span) (negated : Bool) (query : PropertyQuery) :
    Except Fault CharSet :=
  if !f.unicode then refuse .unicodeNotAllowed span
  else
    let found := match query with
      | .named name => Unicode.lookUp name
      | .valued name value => Unicode.lookUpValue name value
    match found with
    | .ok s => foldAndNegate f span negated s
    | .error .propertyNotFound => refuse .propertyNotFound span
    | .error .valueNotFound => refuse .propertyValueNotFound span

/-- The character of a letter.  Without Unicode, two hexadecimal digits stand for a byte, which
is a character only if it is ASCII. -/
def letterChar (f : Flags) (span : Span) (l : Letter) : Except Fault Char :=
  if !f.unicode && l.byteSpelling && decide (0x80 ≤ l.char.toNat) then refuse .invalidUtf8 span
  else .ok l.char

/-- The code of a letter in a set.  Without Unicode a set holds bytes. -/
def letterCode (f : Flags) (span : Span) (l : Letter) : Except Fault Nat := do
  let c ← letterChar f span l
  if f.unicode || decide (c.toNat < 0x80) then .ok c.toNat else refuse .unicodeNotAllowed span

/-- The set that an operation makes of two. -/
def SetOperation.apply : SetOperation → CharSet → CharSet → CharSet
  | intersection => CharSet.inter
  | difference => CharSet.diff
  | symmetricDifference => CharSet.symmDiff

mutual

/-- The characters of a set. -/
def ClassSet.chars (f : Flags) : ClassSet → Except Fault CharSet
  | .empty _ => .ok CharSet.empty
  | .letter span l => (letterCode f span l).map CharSet.singleton
  | .range _ first last low high => do
      let a ← letterCode f first low
      let b ← letterCode f last high
      pure (CharSet.ofRange a b)
  | .ascii span negated name => foldAndNegate f span negated name.chars
  | .property span negated query => propertySet f span negated query
  | .perl span negated name => perlSet f span negated name
  | .bracketed span negated inside => do
      let s ← inside.chars f
      foldAndNegate f span negated s
  | .union _ items => ClassSet.charsOfAll f items
  | .operation _ kind left right => do
      let l ← left.chars f
      let r ← right.chars f
      let fold (s : CharSet) : CharSet :=
        if !f.caseInsensitive then s else if f.unicode then s.caseClosure else s.asciiCaseClosure
      pure (kind.apply (fold l) (fold r))

/-- The characters of some sets together. -/
def ClassSet.charsOfAll (f : Flags) : List ClassSet → Except Fault CharSet
  | [] => .ok CharSet.empty
  | item :: rest => do
      let s ← item.chars f
      let t ← ClassSet.charsOfAll f rest
      pure (CharSet.union s t)

end

/-! ## Expressions of patterns -/

/-- The expressions of patterns. -/
abbrev PatternExpr := Expr CharSet Look

/-- The test that an assertion makes. -/
def Assertion.look (f : Flags) : Assertion → Look
  | startLine => if f.multiLine then .lineStart f.carriageReturn else .textStart
  | endLine => if f.multiLine then .lineEnd f.carriageReturn else .textEnd
  | startText => .textStart
  | endText => .textEnd
  | wordBoundary => .word f.unicode .boundary
  | notWordBoundary => .word f.unicode .notBoundary
  | wordStart => .word f.unicode .start
  | wordEnd => .word f.unicode .stop
  | wordStartHalf => .word f.unicode .startHalf
  | wordEndHalf => .word f.unicode .stopHalf

/-- The characters that a dot stands for. -/
def dotSet (f : Flags) (span : Span) : Except Fault CharSet :=
  if !f.unicode then refuse .invalidUtf8 span
  else if f.dotMatchesNewLine then .ok CharSet.scalars
  else .ok (CharSet.complement CharSet.scalars
    (if f.carriageReturn then .ofText "A D" else .ofText "A"))

/-- The characters that a letter stands for. -/
def letterSet (f : Flags) (span : Span) (l : Letter) : Except Fault CharSet := do
  let c ← letterChar f span l
  let s := CharSet.singleton c.toNat
  pure (if !f.caseInsensitive then s else if f.unicode then s.caseClosure else s.asciiCaseClosure)

mutual

/-- What a part means under flags, and the flags after it. -/
def Node.toExpr (f : Flags) : Node → Except Fault (PatternExpr × Flags)
  | .empty _ => .ok (.empty, f)
  | .flags _ entries => .ok (.empty, f.set entries)
  | .letter span l => (letterSet f span l).map fun s => (.step s, f)
  | .dot span => (dotSet f span).map fun s => (.step s, f)
  | .assertion _ a => .ok (.look (a.look f), f)
  | .property span negated query => (propertySet f span negated query).map fun s => (.step s, f)
  | .perl span negated name => (perlSet f span negated name).map fun s => (.step s, f)
  | .bracketed span negated inside => do
      let s ← inside.chars f
      let s ← foldAndNegate f span negated s
      pure (.step s, f)
  | .repetition _ least greatest n => do
      let (e, f) ← n.toExpr f
      pure (.repeated least greatest e, f)
  | .capture _ n => do
      let (e, _) ← n.toExpr f
      pure (.capture e, f)
  | .group _ entries n => do
      let (e, _) ← n.toExpr (f.set entries)
      pure (e, f)
  | .alternation _ ns => do
      let (es, f) ← Node.toExprs f ns
      pure (.either es, f)
  | .concat _ ns => do
      let (es, f) ← Node.toExprs f ns
      pure (.concat es, f)

/-- What parts in a row mean.  The flags that one leaves behind hold for the next. -/
def Node.toExprs (f : Flags) : List Node → Except Fault (List PatternExpr × Flags)
  | [] => .ok ([], f)
  | n :: rest => do
      let (e, f) ← n.toExpr f
      let (es, f) ← Node.toExprs f rest
      pure (e :: es, f)

end
end DomainValues.Pattern
