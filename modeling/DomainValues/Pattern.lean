import DomainValues.Pattern.Expr
import DomainValues.Pattern.Match
import DomainValues.Pattern.Reader

/-!
# Patterns

A pattern is compiled from its text, and then searched for in texts.  Compilation fails if the
text is refused or if what it compiles to is too large.

A pattern compiles to two machines that read bytes, one that reads forwards and one that reads
backwards, and neither may grow too large.  Their sizes are known without building them: a state
takes 32 bytes, a transition of a branching state 8 and an alternative of a choice 4.

A set of characters compiles to a machine for their encodings.  Forwards it is the smallest tree of
byte ranges with equal branches shared (`CharSet.forwardSize`); backwards it is a choice of rows of
byte ranges that share what they end in (`CharSet.backwardSize`).  A repetition compiles to as many
copies as it has counts.  Only the forward machine notes what a part captures.
-/

namespace DomainValues

/-- A range of bytes. -/
structure ByteRange where
  /-- The first byte. -/
  first : Nat
  /-- The last byte. -/
  last : Nat
  deriving DecidableEq

namespace CharSet

/-- The bytes that encode a code point. -/
def encode (n : Nat) : List Nat :=
  if n < 0x80 then [n]
  else if n < 0x800 then [0xC0 + n / 0x40, 0x80 + n % 0x40]
  else if n < 0x10000 then [0xE0 + n / 0x1000, 0x80 + n / 0x40 % 0x40, 0x80 + n % 0x40]
  else [0xF0 + n / 0x40000, 0x80 + n / 0x1000 % 0x40, 0x80 + n / 0x40 % 0x40, 0x80 + n % 0x40]

/-- Cuts a range where the length of the encoding changes, and around the surrogates. -/
def cutByLength (r : CodeRange) : List CodeRange :=
  [(0, 0x7F), (0x80, 0x7FF), (0x800, 0xD7FF), (0xE000, 0xFFFF), (0x10000, 0x10FFFF)].filterMap
    fun (first, last) =>
      let a := max r.first first
      let b := min r.last last
      if a ≤ b then some ⟨a, b⟩ else none

/-- Cuts ranges so that the last `level` bytes of the encodings are either the same but for one
byte or run over all their values. -/
def cutByLevel (level : Nat) (r : CodeRange) : List CodeRange :=
  let unit := 1 <<< (6 * level)
  if r.first / unit = r.last / unit then [r]
  else
    let a := if r.first % unit = 0 then r.first else (r.first / unit + 1) * unit
    let b := if r.last % unit = unit - 1 then r.last else r.last / unit * unit - 1
    (if r.first < a then [⟨r.first, a - 1⟩] else []) ++
      (if a ≤ b then [⟨a, b⟩] else []) ++
      (if b < r.last then [⟨b + 1, r.last⟩] else [])

/-- The ranges of bytes, position by position, that encode the members. -/
def byteRows (s : CharSet) : List (List ByteRange) :=
  (((s.ranges.flatMap cutByLength).flatMap (cutByLevel 3)).flatMap (cutByLevel 2)).flatMap
    (cutByLevel 1) |>.map fun r => List.zipWith ByteRange.mk (encode r.first) (encode r.last)

/-- A state of a machine: its transitions, each with the number of the state it leads to. -/
abbrev MachineState := List (ByteRange × Nat)

/-- Groups rows by their first range; the rows of a group stand next to one another. -/
def groupRows : List (List ByteRange) → List (ByteRange × List (List ByteRange))
  | [] => []
  | [] :: rest => groupRows rest
  | (r :: row) :: rest =>
      match groupRows rest with
      | (q, rows) :: more =>
          if q = r then (r, row :: rows) :: more else (r, [row]) :: (q, rows) :: more
      | [] => [(r, [row])]

/-- The number of a state among the states so far, which it may join. -/
def intern (states : List MachineState) (s : MachineState) : List MachineState × Nat :=
  match states.findIdx? fun t => decide (t = s) with
  | some i => (states, i + 1)
  | none => (states ++ [s], states.length + 1)

mutual

/-- Adds the machine of some rows, all with as many ranges as `length`, to the states so far.
State zero accepts. -/
def addMachine :
    (length : Nat) → List MachineState → List (List ByteRange) → List MachineState × Nat
  | 0, states, _ => (states, 0)
  | length + 1, states, rows =>
      let (states, transitions) := addBranches length states (groupRows rows)
      intern states transitions

/-- Adds the machines of the rows after each first range. -/
def addBranches (length : Nat) : List MachineState → List (ByteRange × List (List ByteRange)) →
    List MachineState × MachineState
  | states, [] => (states, [])
  | states, (r, rows) :: rest =>
      let (states, target) := addMachine length states rows
      let (states, transitions) := addBranches length states rest
      (states, (r, target) :: transitions)

end

/-- The size of a state with its transitions. -/
def stateSize (s : MachineState) : Nat := 32 + 8 * s.length

/-- The single member of a set that has no other. -/
def single? (s : CharSet) : Option Nat :=
  match s.ranges with
  | [r] => if r.first = r.last then some r.first else none
  | _ => none

/-- The size of the machine of a set that reads forwards. -/
def forwardSize (s : CharSet) : Nat :=
  if s.ranges.isEmpty then 32
  else match s.single? with
    | some n => 32 * (encode n).length
    | none => sizeOfRows
where
  /-- The size of the machine of a set that is not a single character. -/
  sizeOfRows : Nat :=
    let rows := byteRows s
    let starts := [1, 2, 3, 4].foldl
      (fun (states, first) length =>
        let (states, transitions) := addBranches (length - 1) states
          (groupRows (rows.filter fun row => row.length == length))
        (states, first ++ transitions))
      (([] : List MachineState), ([] : MachineState))
    starts.1.foldl (fun size state => size + stateSize state) (32 + stateSize starts.2)

/-- The length of what two rows have in common before they differ. -/
def commonLength : List ByteRange → List ByteRange → Nat
  | a :: row, b :: other => if a = b then commonLength row other + 1 else 0
  | _, _ => 0

/-- The number of ranges in rows, those counted once that a row has in common with the one before
it. -/
def sharedRanges (before : List ByteRange) : List (List ByteRange) → Nat
  | [] => 0
  | row :: rest => row.length - commonLength before row + sharedRanges row rest

/-- The size of the machine of a set that reads backwards.  What rows begin with is read last, and
shared.  If all members have one byte, the machine is the one that reads forwards. -/
def backwardSize (s : CharSet) : Nat :=
  if s.single?.isSome || s.ranges.all (fun r => decide (r.last < 0x80)) then s.forwardSize
  else
    let rows := byteRows s
    (32 + 4 * rows.length) + 32 + 32 * sharedRanges [] rows

end CharSet

namespace Pattern

/-- Whether an expression can match the empty text only. -/
def Expr.onlyEmpty {σ τ : Type} : Expr σ τ → Bool
  | empty => true
  | step _ => false
  | look _ => true
  | concat parts => allOnlyEmpty parts
  | either parts => allOnlyEmpty parts
  | repeated _ greatest part => greatest == some 0 || part.onlyEmpty
  | capture part => part.onlyEmpty
where
  /-- Whether all of some expressions can match the empty text only. -/
  allOnlyEmpty : List (Expr σ τ) → Bool
    | [] => true
    | part :: rest => part.onlyEmpty && allOnlyEmpty rest

/-- Whether an expression can match the empty text. -/
def Expr.mayBeEmpty {σ τ : Type} : Expr σ τ → Bool
  | empty => true
  | step _ => false
  | look _ => true
  | concat parts => allMayBeEmpty parts
  | either parts => anyMayBeEmpty parts
  | repeated least _ part => least == 0 || part.mayBeEmpty
  | capture part => part.mayBeEmpty
where
  /-- Whether all of some expressions can match the empty text. -/
  allMayBeEmpty : List (Expr σ τ) → Bool
    | [] => true
    | part :: rest => part.mayBeEmpty && allMayBeEmpty rest
  /-- Whether any of some expressions can match the empty text. -/
  anyMayBeEmpty : List (Expr σ τ) → Bool
    | [] => false
    | part :: rest => part.mayBeEmpty || anyMayBeEmpty rest

/-- The ways in which a machine reads. -/
inductive Reading where
  /-- From the start of a text. -/
  | forward
  /-- From the end. -/
  | backward
  deriving DecidableEq

/-- The size of the machine of a set. -/
def Reading.sizeOfSet : Reading → CharSet → Nat
  | forward => CharSet.forwardSize
  | backward => CharSet.backwardSize

/-- The place where the machine begins. -/
def Reading.edge : Reading → Look
  | forward => .textStart
  | backward => .textEnd

/-- The size of a state. -/
def stateSize : Nat := 32

/-- The size of a choice with a number of alternatives. -/
def choiceSize (alternatives : Nat) : Nat := stateSize + 4 * alternatives

/-- The states that note where a part begins and ends. -/
def Reading.captureSize : Reading → Nat
  | forward => 2 * stateSize
  | backward => 0

section

variable (reading : Reading)

mutual

/-- The size of what an expression compiles to. -/
def sizeOf : PatternExpr → Nat
  | .empty => stateSize
  | .step s => reading.sizeOfSet s
  | .look _ => stateSize
  | .concat parts => sizeOfAll parts
  | .either parts => choiceSize parts.length + stateSize + sizeOfAll parts
  | .repeated least greatest part =>
      let size := sizeOf part
      let least := if part.onlyEmpty then min least 1 else least
      let greatest := if part.onlyEmpty then greatest.map (min 1) else greatest
      match greatest with
      | some 0 => stateSize
      | some m =>
          if least = 0 ∧ m = 1 then choiceSize 2 + size + stateSize
          else least * size + (m - least) * (choiceSize 2 + size) +
            (if least = m then 0 else stateSize)
      | none =>
          if least = 0 then
            if part.mayBeEmpty then 2 * choiceSize 2 + size + stateSize else choiceSize 2 + size
          else least * size + choiceSize 2
  | .capture part => sizeOf part + reading.captureSize

/-- The size of what some expressions compile to. -/
def sizeOfAll : List PatternExpr → Nat
  | [] => 0
  | part :: rest => sizeOf part + sizeOfAll rest

end

mutual

/-- Whether a match begins, as it is read, at the edge of the text. -/
def isAnchored : PatternExpr → Bool
  | .look l => l == reading.edge
  | .concat parts => if reading = .forward then anyAnchored parts else lastAnchored parts
  | .either parts => !parts.isEmpty && allAnchored parts
  | .repeated least _ part => least != 0 && isAnchored part
  | .capture part => isAnchored part
  | .empty | .step _ => false

/-- Whether one of some parts is at the edge, and those before it are empty. -/
def anyAnchored : List PatternExpr → Bool
  | [] => false
  | part :: rest => isAnchored part || part.onlyEmpty && anyAnchored rest

/-- Whether one of some parts is at the edge, and those after it are empty. -/
def lastAnchored : List PatternExpr → Bool
  | [] => false
  | part :: rest => lastAnchored rest || rest.all Expr.onlyEmpty && isAnchored part

/-- Whether all of some parts are at the edge. -/
def allAnchored : List PatternExpr → Bool
  | [] => true
  | part :: rest => isAnchored part && allAnchored rest

end

/-- The size of what a whole pattern compiles to: the search for an edge, the capture of the whole
match and the match itself come on top. -/
def compiledSize (e : PatternExpr) : Nat :=
  (if isAnchored reading e then stateSize else choiceSize 2 + stateSize) + reading.captureSize +
    stateSize + sizeOf reading e

end

/-! ## Compilation -/

end Pattern

/-- A compiled pattern. -/
structure Pattern where
  /-- The text it was compiled from. -/
  source : String
  /-- What it means. -/
  expr : Pattern.PatternExpr

namespace Pattern

/-- Compiles a pattern. -/
def compile (source : String) : Except CompileError Pattern :=
  match read source with
  | .error f => .error (.syntaxFault f)
  | .ok node =>
      match node.toExpr Flags.initial with
      | .error f => .error (.syntaxFault f)
      | .ok (expr, _) =>
          if compiledSize .forward expr ≤ sizeLimit ∧ compiledSize .backward expr ≤ sizeLimit then
            .ok ⟨source, expr⟩
          else .error .tooLarge

/-- Whether any part of a text matches. -/
def isMatch (p : Pattern) (text : String) : Bool := matchesIn p.expr text.toList

end Pattern
end DomainValues
