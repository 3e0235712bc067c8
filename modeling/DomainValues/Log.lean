import DomainValues.Diagnostic
import DomainValues.Kind

/-!
# Log

What a pass and a registry tell while they work.  An event has a level, a text and fields; the
start of a pass opens a span, under whose name the events of the pass stand.
-/

namespace DomainValues

/-- How much an event matters. -/
inductive Level where
  | trace
  | debug
  | warn
  deriving DecidableEq, Repr

/-- The value of a field of an event. -/
inductive FieldValue where
  | text (value : String)
  | count (value : Nat)
  deriving DecidableEq, Repr

/-- Something that happened. -/
inductive Event where
  /-- A pass over a module started. -/
  | passStarted (module : String)
  /-- A declaration was found. -/
  | discovered (declaration : String) (kind : Kind)
  /-- A declaration collides with something. -/
  | collided (declaration : String) (code : ErrorCode)
  /-- The name of the registration type is taken. -/
  | registryTaken (registry : String)
  /-- The configuration of a declaration was refused. -/
  | refused (declaration error : String)
  /-- A declaration was generated. -/
  | generated (declaration : String) (kind : Kind) (adapter : String)
  /-- A pass was cancelled. -/
  | passCancelled
  /-- A pass came to its end. -/
  | passFinished (made reported : Nat)
  /-- An adapter was refused because its name or its type has one. -/
  | alreadyRegistered (name : String)
  /-- An adapter was registered. -/
  | registered (name : String) (kind : Kind)
  deriving DecidableEq, Repr

namespace Event

/-- The level of an event. -/
def level : Event → Level
  | discovered .. => .trace
  | refused .. | alreadyRegistered .. => .warn
  | _ => .debug

/-- Whether an event opens a span. -/
def opensSpan : Event → Bool
  | passStarted _ => true
  | _ => false

/-- The text of an event, or the name of the span that it opens. -/
def text : Event → String
  | passStarted _ => "generation_pass"
  | discovered .. => "discovered declaration"
  | collided .. => "rejected at aggregation"
  | registryTaken _ => "registration name taken"
  | refused .. => "declaration rejected"
  | generated .. => "generated value type"
  | passCancelled => "generation pass cancelled"
  | passFinished .. => "generation pass finished"
  | alreadyRegistered _ => "adapter already registered"
  | registered .. => "registered adapter"

/-- The fields of an event. -/
def fields : Event → List (String × FieldValue)
  | passStarted module => [("module", .text module)]
  | discovered declaration kind => [("name", .text declaration), ("kind", .text kind.directiveName)]
  | collided declaration code => [("declaration", .text declaration), ("code", .text code.text)]
  | registryTaken registry => [("registry", .text registry)]
  | refused declaration error => [("declaration", .text declaration), ("error", .text error)]
  | generated declaration kind adapter =>
      [("declaration", .text declaration), ("kind", .text kind.directiveName),
        ("adapter", .text adapter)]
  | passCancelled => []
  | passFinished made reported => [("generated", .count made), ("rejected", .count reported)]
  | alreadyRegistered name => [("type_name", .text name)]
  | registered name kind => [("type_name", .text name), ("kind", .text kind.directiveName)]

end Event
end DomainValues
