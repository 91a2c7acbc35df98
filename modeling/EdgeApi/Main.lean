import EdgeApi.Cli.Run
import EdgeApi.Client.Http

/-!
# The program

Reads the answers of the server from standard input, one JSON object a line, and runs the command
line against them.
-/

set_option autoImplicit false

namespace EdgeApi.Main

def variableNames : List String :=
  ["CF_API_TOKEN", "CF_API_KEY", "CF_API_EMAIL", "CF_API_USER_SERVICE_KEY", "CF_API_BASE_URL",
    "CF_ACCOUNT_ID", "CF_ZONE_ID", "CF_OUTPUT_FORMAT", "RUST_LOG", "NO_COLOR"]

def readEnvironment : IO Environment := do
  let found ← variableNames.mapM fun name => do
    return (← IO.getEnv name).map fun value => (name, value)
  return found.filterMap id

/-- Directives that name the least severity, and nothing else. -/
def directives (text : String) : Option (LogEvent → Bool) :=
  let severities : List (String × Severity) :=
    [("trace", .trace), ("debug", .debug), ("info", .info), ("warn", .warn), ("error", .error)]
  (severities.lookup (text.map Char.toLower)).map fun least event =>
    decide (least.rank ≤ event.severity.rank)

def library : Cli.LogLibrary where
  directives := directives
  written message := message

/-- An answer from its line: a status and a text. Any other line is a broken connection. -/
def attempt (line : String) : Http.Attempt :=
  match Json.parse (Text.Utf8.encode line) with
  | .ok j =>
    let status := (j.member? "status").bind fun s => (Codec.uint16.decodeJson s).toOption
    match j.member? "text" with
    | some (.text s) =>
      .answered { status := (status.getD 200).toNat, body := Text.Utf8.encode s }
    | _ => .dropped
  | .error _ => .dropped

partial def readAttempts (input : IO.FS.Stream) (found : List Http.Attempt) :
    IO (List Http.Attempt) := do
  let line ← input.getLine
  if line.isEmpty then return found.reverse else readAttempts input (attempt line :: found)

def write (output : IO.FS.Stream) (bytes : List UInt8) : IO Unit := do
  output.write ⟨bytes.toArray⟩
  output.flush

end EdgeApi.Main

open EdgeApi EdgeApi.Main in
def main (args : List String) : IO UInt32 := do
  let env ← readEnvironment
  let stderr ← IO.getStderr
  let complain (message : String) : IO UInt32 := do
    write stderr (Text.Utf8.encode ("Error: " ++ message ++ "\n"))
    return 1
  match Cli.prepare library env args with
  | .error (.usage .displayHelp) => return 0
  | .error (.usage .displayVersion) => return 0
  | .error (.usage fault) =>
    write stderr (Text.Utf8.encode ("error: " ++ fault.name ++ "\n"))
    return 2
  | .error (.config e) => complain e.message
  | .ok prepared =>
    match Http.Endpoint.ofConfig prepared.context.config with
    | .error e => complain e.message
    | .ok endpoint =>
      let settled := Http.settle Http.defaultRetries (← readAttempts (← IO.getStdin) [])
      let outcome := Cli.execute prepared { inbox := Http.inbox endpoint settled }
      write (← IO.getStdout) outcome.stdout
      write stderr outcome.stderr
      match outcome.result with
      | .ok () => return 0
      | .error failure => complain failure.message
