import Conformance.Error

/-!
# Logged events

## Main Definitions

* `LogLevel` — the levels of events, and the thresholds that can be set
* `Event` — what is logged
* `Event.name`, `Event.level`, `Event.fields` — how an event shows in a log
-/

namespace Conformance

/-- The levels of logged events. -/
inductive LogLevel where
  | debug
  | info
  | warning
  deriving DecidableEq, Repr, Inhabited

namespace LogLevel

/-- The name of a level. -/
def name : LogLevel → String
  | debug => "debug"
  | info => "info"
  | warning => "warning"

/-- The weight of a level; a threshold lets events of its own weight and above pass. -/
def weight : LogLevel → Nat
  | debug => 10
  | info => 20
  | warning => 30

/-- The threshold that a level name sets, without regard to case; an unknown name sets that of
`info`. -/
def threshold (name : String) : Nat :=
  match String.ofList (name.toList.map Char.toUpper) with
  | "NOTSET" => 0
  | "DEBUG" => 10
  | "INFO" => 20
  | "WARN" => 30
  | "WARNING" => 30
  | "ERROR" => 40
  | "CRITICAL" => 50
  | "FATAL" => 50
  | _ => 20

end LogLevel

/-- What is logged. -/
inductive Event where
  /-- References found in a fragment were taken over by the session that took it in. -/
  | referencesAdopted (count : Nat) (root : String)
  | patternCompiled (kind validator : String)
  | descriptorDecoded (validator : String)
  | descriptorRefused (code error : String) (pointer : Option String)
  /-- A reference was checked that belongs to no schema yet. -/
  | referenceUnbound (path : String)
  | validationCrashed (validator error kind : String)
  | absenceCheckCrashed (key error kind : String)
  deriving DecidableEq, Repr, Inhabited

/-- The content of a field of an event. -/
inductive EventField where
  | text (s : String)
  | count (n : Nat)
  | absent
  deriving DecidableEq, Repr, Inhabited

namespace Event

/-- The name of an event. -/
def name : Event → String
  | referencesAdopted .. => "self_references_adopted"
  | patternCompiled .. => "pattern_compiled"
  | descriptorDecoded _ => "descriptor_decoded"
  | descriptorRefused .. => "descriptor_decode_failed"
  | referenceUnbound _ => "self_reference_unbound"
  | validationCrashed .. => "validation_crashed"
  | absenceCheckCrashed .. => "absence_check_crashed"

/-- The level of an event. -/
def level : Event → LogLevel
  | referencesAdopted .. => .debug
  | patternCompiled .. => .debug
  | descriptorDecoded _ => .debug
  | descriptorRefused .. => .info
  | referenceUnbound _ => .debug
  | validationCrashed .. => .warning
  | absenceCheckCrashed .. => .warning

/-- The fields of an event. -/
def fields : Event → List (String × EventField)
  | referencesAdopted count root => [("count", .count count), ("root", .text root)]
  | patternCompiled kind validator => [("kind", .text kind), ("validator", .text validator)]
  | descriptorDecoded validator => [("validator", .text validator)]
  | descriptorRefused code error pointer =>
    [("code", .text code), ("error", .text error),
      ("pointer", match pointer with | some p => .text p | none => .absent)]
  | referenceUnbound path => [("path", .text path)]
  | validationCrashed validator error kind =>
    [("validator", .text validator), ("error", .text error), ("error_type", .text kind)]
  | absenceCheckCrashed key error kind =>
    [("key", .text key), ("error", .text error), ("error_type", .text kind)]

/-- An event passes a threshold. -/
def passes (threshold : Nat) (e : Event) : Bool := threshold ≤ e.level.weight

end Event

end Conformance
