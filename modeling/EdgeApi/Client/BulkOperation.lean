import EdgeApi.Client.Reply
import EdgeApi.Record.Timestamp
import EdgeApi.Time.Duration

/-!
# Bulk operations

Operations that a server works off in its own time, and waiting for their end.
-/

set_option autoImplicit false

namespace EdgeApi

structure BulkOperation where
  id : String
  status : String
  error : Option String := none
  completed : Option Timestamp := none
  deriving DecidableEq

namespace BulkOperation

def fields := (
  .cons (.required "id" .text id) <|
  .cons (.required "status" .text status) <|
  .cons (.given "error" .text error) <|
  .cons (.given "completed" .timestamp completed) .nil :
    Fields BulkOperation _ _)

def codec : Codec BulkOperation :=
  .record "BulkOperation" fields
    fun (id, status, error, completed, ()) => { id, status, error, completed }

end BulkOperation

namespace Schedule

/-- How many times the base is waited for, which doubles with every other fetch. -/
def factor (step : Nat) : UInt32 :=
  1 <<< UInt32.ofNat (min (step / 2) 31)

/-- The wait before a fetch in nanoseconds; `none` if there is no duration that long. -/
def delay (s : Schedule) (step : Nat) : Option Nat := do
  let base ← Duration.ofNat? s.base
  let wait ← base.times? (factor step)
  return wait.toNat

end Schedule

namespace BulkOperation

/-- What a status fetched says: go on, or the outcome. -/
def verdict (op : BulkOperation) : Option (Except Error BulkOperation) :=
  if op.status = "completed" then some (.ok op)
  else if op.status = "pending" ∨ op.status = "running" then none
  else if op.status = "failed" then
    some (.error (.api .request (.ofMessage (op.error.getD "bulk operation failed"))))
  else
    some (.error (.api .request
      (.ofMessage ("operation returned unexpected status: " ++ op.status))))

def event (op : BulkOperation) (step : Nat) : LogEvent where
  severity := .debug
  target := "cfapi::api::bulk"
  message := "bulk operation " ++ op.id ++ " is " ++ op.status ++ " after step " ++ toString step

end BulkOperation

namespace Client

def telling (step : Nat) (fetch : Client BulkOperation) : Client BulkOperation := do
  let op ← fetch
  tell [op.event step]
  return op

def pollFrom (schedule : Schedule) (fetch : Nat → Client BulkOperation) :
    Nat → Nat → Client BulkOperation
  | _, 0 => throw .bulkOperationTimeout
  | step, left + 1 => do
    match schedule.delay step with
    | none => throw .delayOverflow
    | some d =>
      sleep d
      let op ← telling step (fetch step)
      match op.verdict with
      | some outcome => ofExcept outcome
      | none => pollFrom schedule fetch (step + 1) left

def poll (schedule : Schedule) (fetch : Nat → Client BulkOperation) : Client BulkOperation :=
  pollFrom schedule fetch 0 schedule.steps.toNat

end Client

end EdgeApi
