import DomainValues.Source.Token
import DomainValues.Text.Quoted

/-!
# Diagnostics

A diagnostic reports one fault of an annotated module: a code, a message, the place, and lines
of notes and help.  `Diagnostic.text` is what a reader sees.  It reaches the reader of a module
as a call of the compiler's error macro, with the text as a literal.

The first digit of a code names the phase that found the fault: finding declarations, reading
their configuration, or putting the module together.
-/

namespace DomainValues

/-- The codes of faults. -/
inductive ErrorCode where
  /-- A directive on something other than a plain unit struct. -/
  | v1001
  /-- More than one directive on one declaration. -/
  | v1002
  /-- A nested declaration that the registration cannot name. -/
  | v1003
  /-- Directive arguments that are not well formed. -/
  | v1004
  /-- Bounds out of order, or a negative length. -/
  | v2001
  /-- A pattern that does not compile. -/
  | v2002
  /-- A required argument is missing. -/
  | v2003
  /-- No parameter has the argument's name. -/
  | v2004
  /-- A parameter is filled twice. -/
  | v2005
  /-- More positional arguments than parameters. -/
  | v2006
  /-- A literal of the wrong type or out of range. -/
  | v2007
  /-- A faulty option of the pass. -/
  | v2008
  /-- A declared name occurs more than once. -/
  | v3001
  /-- A declared name collides with a generated item. -/
  | v3002
  deriving DecidableEq, Repr

namespace ErrorCode

/-- The codes, in their order. -/
def all : List ErrorCode :=
  [v1001, v1002, v1003, v1004, v2001, v2002, v2003, v2004, v2005, v2006, v2007, v2008, v3001, v3002]

/-- The text of a code. -/
def text : ErrorCode → String
  | v1001 => "V1001"
  | v1002 => "V1002"
  | v1003 => "V1003"
  | v1004 => "V1004"
  | v2001 => "V2001"
  | v2002 => "V2002"
  | v2003 => "V2003"
  | v2004 => "V2004"
  | v2005 => "V2005"
  | v2006 => "V2006"
  | v2007 => "V2007"
  | v2008 => "V2008"
  | v3001 => "V3001"
  | v3002 => "V3002"

/-- Whether the fault was found while looking for declarations. -/
def isScan (code : ErrorCode) : Bool := code ∈ [v1001, v1002, v1003, v1004]

/-- Whether the fault lies in a configuration. -/
def isConfiguration (code : ErrorCode) : Bool :=
  code ∈ [v2001, v2002, v2003, v2004, v2005, v2006, v2007, v2008]

/-- Whether the fault was found while putting the module together. -/
def isAggregation (code : ErrorCode) : Bool := code ∈ [v3001, v3002]

/-- The code of a text, in which the letter may have either case. -/
def read? (text : String) : Option ErrorCode :=
  let upper := text.map fun c => if c = 'v' then 'V' else c
  all.find? fun code => code.text == upper

theorem read?_text (code : ErrorCode) : read? code.text = some code := by
  cases code <;> decide +kernel

end ErrorCode

/-- A report of one fault. -/
structure Diagnostic where
  /-- What is at fault. -/
  code : ErrorCode
  /-- The fault in words. -/
  message : String
  /-- Where it is. -/
  position : Position
  /-- Lines that say more. -/
  notes : List String
  /-- Lines that say what to do. -/
  help : List String
  deriving DecidableEq, Repr

/-- The report as a reader sees it: the code and the message, then a line for each note and
each line of help. -/
def Diagnostic.text (d : Diagnostic) : String :=
  "[" ++ d.code.text ++ "] " ++ d.message ++
    String.join (d.notes.map ("\n  = note: " ++ ·)) ++
    String.join (d.help.map ("\n  = help: " ++ ·))

/-! ## Compile errors -/

/-- The call that makes a compiler report a message. -/
def compileError (message : String) : List Token :=
  Token.symbol "::" ++ [.ofWord "core"] ++ Token.symbol "::" ++ [.ofWord "compile_error"] ++
    Token.symbol "!" ++ [.inGroup .brace [.literal (Text.literal message) .start]]

/-- The call that makes a compiler report a diagnostic. -/
def Diagnostic.compileError (d : Diagnostic) : List Token := DomainValues.compileError d.text

end DomainValues
