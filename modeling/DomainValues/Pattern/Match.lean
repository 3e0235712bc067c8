import DomainValues.Pattern.Expr

/-!
# Matching

A text of `n` characters has the places `0` to `n`.  A set of places is a number, place `i`
being its bit `i`, and an expression takes a set of places where it may start to the set of
places where it may end (`ends`).  A pattern matches a text if it ends anywhere when it may
start anywhere.

Over a fixed text, a step is the set of places before a character of its set, and a test is the
set of places that pass it (`locate`).
-/

namespace DomainValues.Pattern

/-- A set of places. -/
abbrev Places := Nat

/-- The places of a list of truth values, from place zero on. -/
def placesOf (bits : List Bool) : Places :=
  bits.foldr (fun b n => 2 * n + (if b then 1 else 0)) 0

/-- The characters on either side of each place, from place zero on. -/
def sides : (before : Option Char) → List Char → List (Option Char × Option Char)
  | before, [] => [(before, none)]
  | before, c :: rest => (before, some c) :: sides (some c) rest

/-- Whether a character is a word character. -/
def isWordChar (unicode : Bool) (c : Char) : Bool :=
  if c.toNat < 0x80 then c.isAlphanum || c == '_'
  else unicode && Unicode.wordCharacters.contains c.toNat

/-- Whether the characters on either side of a place pass a test. -/
def Look.holds (l : Look) (before after : Option Char) : Bool :=
  match l with
  | textStart => before.isNone
  | textEnd => after.isNone
  | lineStart false => before.all (· == '\n')
  | lineEnd false => after.all (· == '\n')
  | lineStart true =>
      before.all fun c => c == '\n' || (c == '\r' && after != some '\n')
  | lineEnd true =>
      after.all fun c => c == '\r' || (c == '\n' && before != some '\r')
  | word unicode test =>
      let b := before.any (isWordChar unicode)
      let a := after.any (isWordChar unicode)
      match test with
      | .boundary => b != a
      | .notBoundary => b == a
      | .start => !b && a
      | .stop => b && !a
      | .startHalf => !b
      | .stopHalf => !a

mutual

/-- The expression with its steps and tests located in a text. -/
def locate (text : List Char) : PatternExpr → Expr Places Places
  | .empty => .empty
  | .step s => .step (placesOf (text.map fun c => s.contains c.toNat))
  | .look l => .look (placesOf ((sides none text).map fun (b, a) => l.holds b a))
  | .concat parts => .concat (locateAll text parts)
  | .either parts => .either (locateAll text parts)
  | .repeated least greatest part => .repeated least greatest (locate text part)
  | .capture part => .capture (locate text part)

/-- Some expressions located in a text. -/
def locateAll (text : List Char) : List PatternExpr → List (Expr Places Places)
  | [] => []
  | part :: rest => locate text part :: locateAll text rest

end

/-- Takes a step from places to places at most so often, until nothing changes. -/
def iterate (f : Places → Places) : Nat → Places → Places
  | 0, s => s
  | n + 1, s => let t := f s; if t = s then s else iterate f n t

/-- The places reached by any number of steps up to a limit, the start among them. -/
def reach (f : Places → Places) (limit : Nat) (s : Places) : Places :=
  iterate (fun t => t ||| f t) limit s

mutual

/-- The places where an expression may end if it starts at one of some places.  `count` is the
number of places of the text. -/
def ends (count : Nat) : Expr Places Places → Places → Places
  | .empty, s => s
  | .step m, s => (s &&& m) <<< 1
  | .look m, s => s &&& m
  | .concat parts, s => endsInTurn count parts s
  | .either parts, s => endsOfAny count parts s
  | .repeated least greatest part, s =>
      let s := iterate (ends count part) least s
      match greatest with
      | none => reach (ends count part) count s
      | some m => reach (ends count part) (min (m - least) count) s
  | .capture part, s => ends count part s

/-- The places where expressions in a row may end. -/
def endsInTurn (count : Nat) : List (Expr Places Places) → Places → Places
  | [], s => s
  | part :: rest, s => endsInTurn count rest (ends count part s)

/-- The places where any of some expressions may end. -/
def endsOfAny (count : Nat) : List (Expr Places Places) → Places → Places
  | [], _ => 0
  | part :: rest, s => ends count part s ||| endsOfAny count rest s

end

/-- Whether an expression matches any part of a text. -/
def matchesIn (e : PatternExpr) (text : List Char) : Bool :=
  let count := text.length + 1
  ends count (locate text e) (1 <<< count - 1) != 0

end DomainValues.Pattern
