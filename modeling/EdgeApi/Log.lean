/-!
# Log

What calls tell about their course, beside what they give.
-/

set_option autoImplicit false

namespace EdgeApi

inductive Severity where
  | trace
  | debug
  | info
  | warn
  | error
  deriving DecidableEq

def Severity.rank : Severity → Nat
  | .trace => 0
  | .debug => 1
  | .info => 2
  | .warn => 3
  | .error => 4

structure LogEvent where
  severity : Severity
  /-- The part of the client that tells it. -/
  target : String
  message : String
  deriving DecidableEq

/-- The event is for whoever asks for more than the course of things. -/
def LogEvent.IsDetail (event : LogEvent) : Prop :=
  event.severity.rank < Severity.info.rank

end EdgeApi
