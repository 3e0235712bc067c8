/-!
# The syntax of patterns

A pattern as a tree that keeps where in the text each part stands.  A span is a range of
offsets, counted in scalar values from the start of the pattern.
-/

namespace DomainValues.Pattern

/-- A range of offsets, the end excluded. -/
structure Span where
  /-- The first offset. -/
  start : Nat
  /-- The offset after the last. -/
  stop : Nat
  deriving DecidableEq, Repr, Inhabited

/-- A character, with what its spelling decides. -/
structure Letter where
  /-- The character. -/
  char : Char
  /-- Whether it is spelled by two hexadecimal digits, which may stand for a byte. -/
  byteSpelling : Bool
  deriving DecidableEq, Repr

/-- A flag that changes how the pattern is read or matched. -/
inductive Flag where
  | caseInsensitive
  | multiLine
  | dotMatchesNewLine
  | swapGreed
  | unicode
  | carriageReturn
  | verbose
  deriving DecidableEq, Repr

/-- An entry in a list of flags. -/
inductive FlagEntry where
  /-- What follows is switched off. -/
  | negation
  /-- A flag. -/
  | flag (flag : Flag)
  deriving DecidableEq, Repr

/-- Whether a list of flags sets a flag, if it mentions it. -/
def flagState? (flag : Flag) : (negated : Bool) → List FlagEntry → Option Bool
  | _, [] => none
  | _, .negation :: rest => flagState? flag true rest
  | negated, .flag f :: rest => if f = flag then some (!negated) else flagState? flag negated rest

/-- A test of a place between characters. -/
inductive Assertion where
  | startLine
  | endLine
  | startText
  | endText
  | wordBoundary
  | notWordBoundary
  | wordStart
  | wordEnd
  | wordStartHalf
  | wordEndHalf
  deriving DecidableEq, Repr

/-- A class with a one-letter escape. -/
inductive PerlClass where
  | digit
  | space
  | word
  deriving DecidableEq, Repr

/-- A class of ASCII characters with a name in brackets and colons. -/
inductive AsciiClass where
  | alnum
  | alpha
  | ascii
  | blank
  | cntrl
  | digit
  | graph
  | lower
  | print
  | punct
  | space
  | upper
  | word
  | xdigit
  deriving DecidableEq, Repr

/-- A choice of characters by property. -/
inductive PropertyQuery where
  /-- By a name alone. -/
  | named (name : String)
  /-- By a property and a value. -/
  | valued (name value : String)
  deriving DecidableEq, Repr

/-- An operation on two sets in brackets. -/
inductive SetOperation where
  | intersection
  | difference
  | symmetricDifference
  deriving DecidableEq, Repr

/-- A set of characters in brackets, or a part of one. -/
inductive ClassSet where
  | empty (span : Span)
  | letter (span : Span) (letter : Letter)
  | range (span first last : Span) (low high : Letter)
  | ascii (span : Span) (negated : Bool) (name : AsciiClass)
  | property (span : Span) (negated : Bool) (query : PropertyQuery)
  | perl (span : Span) (negated : Bool) (name : PerlClass)
  | bracketed (span : Span) (negated : Bool) (inside : ClassSet)
  | union (span : Span) (items : List ClassSet)
  | operation (span : Span) (operation : SetOperation) (left right : ClassSet)
  deriving Repr, Inhabited

/-- A pattern or a part of one. -/
inductive Node where
  | empty (span : Span)
  | flags (span : Span) (entries : List FlagEntry)
  | letter (span : Span) (letter : Letter)
  | dot (span : Span)
  | assertion (span : Span) (assertion : Assertion)
  | property (span : Span) (negated : Bool) (query : PropertyQuery)
  | perl (span : Span) (negated : Bool) (name : PerlClass)
  | bracketed (span : Span) (negated : Bool) (inside : ClassSet)
  /-- The least and, if there is one, the greatest number of repetitions. -/
  | repetition (span : Span) (least : Nat) (greatest : Option Nat) (node : Node)
  /-- A group that captures. -/
  | capture (span : Span) (node : Node)
  /-- A group that only sets flags for its inside. -/
  | group (span : Span) (entries : List FlagEntry) (node : Node)
  | alternation (span : Span) (nodes : List Node)
  | concat (span : Span) (nodes : List Node)
  deriving Repr, Inhabited

/-- Where a set stands. -/
def ClassSet.span : ClassSet → Span
  | empty s => s
  | letter s _ => s
  | range s .. => s
  | ascii s _ _ => s
  | property s _ _ => s
  | perl s _ _ => s
  | bracketed s _ _ => s
  | union s _ => s
  | operation s _ _ _ => s

/-- Where a part stands. -/
def Node.span : Node → Span
  | empty s => s
  | flags s _ => s
  | letter s _ => s
  | dot s => s
  | assertion s _ => s
  | property s _ _ => s
  | perl s _ _ => s
  | bracketed s _ _ => s
  | repetition s _ _ _ => s
  | capture s _ => s
  | group s _ _ => s
  | alternation s _ => s
  | concat s _ => s

/-- The set of some items: the item itself if it is the only one. -/
def ClassSet.ofItems (span : Span) : List ClassSet → ClassSet
  | [] => empty span
  | [item] => item
  | items =>
      union ⟨(items.head?.map (·.span.start)).getD span.start,
        (items.getLast?.map (·.span.stop)).getD span.stop⟩ items

/-- Parts one after the other: the part itself if it is the only one. -/
def Node.ofParts (span : Span) : List Node → Node
  | [] => empty span
  | [part] => part
  | parts => concat span parts

end DomainValues.Pattern
