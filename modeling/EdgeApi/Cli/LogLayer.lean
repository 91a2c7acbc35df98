import EdgeApi.Config
import EdgeApi.Log

/-!
# The log of the tool

The environment, or else the verbosity, says which events are shown. Each of them is a line of the
output.
-/

set_option autoImplicit false

namespace EdgeApi

namespace Severity

def label : Severity → String
  | .trace => "TRACE"
  | .debug => "DEBUG"
  | .info => " INFO"
  | .warn => " WARN"
  | .error => "ERROR"

def colour : Severity → Nat
  | .trace => 35
  | .debug => 34
  | .info => 32
  | .warn => 33
  | .error => 31

end Severity

namespace Cli

/-- What the logging library decides by itself. -/
structure LogLibrary where
  /-- The events that a text of directives lets through, if it is one. -/
  directives : String → Option (LogEvent → Bool)
  written : String → String

structure LogLayer where
  shows : LogEvent → Bool
  line : LogEvent → String

namespace LogLayer

def painted (code : Nat) (text : String) : String :=
  "\x1b[" ++ toString code ++ "m" ++ text ++ "\x1b[0m"

def format (coloured : Bool) (event : LogEvent) (written : String) : String :=
  if coloured then
    painted event.severity.colour event.severity.label ++ " " ++ painted 2 event.target ++
      painted 2 ":" ++ " " ++ written ++ "\n"
  else event.severity.label ++ " " ++ event.target ++ ": " ++ written ++ "\n"

/-- The layer for an environment. Directives that are none do not count. -/
def ofEnvironment (library : LogLibrary) (env : Environment) (verbose : Bool) : LogLayer where
  shows :=
    let least : Severity := if verbose then .debug else .info
    ((env.lookup "RUST_LOG").bind library.directives).getD fun event =>
      decide (least.rank ≤ event.severity.rank)
  line event :=
    format ((env.lookup "NO_COLOR").all String.isEmpty) event (library.written event.message)

def write (layer : LogLayer) (events : List LogEvent) : String :=
  String.join ((events.filter layer.shows).map layer.line)

end LogLayer

end Cli

end EdgeApi
