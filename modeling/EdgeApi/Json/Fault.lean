import EdgeApi.Json.Printer
import EdgeApi.Text.Quoted

/-!
# Reading faults

Why a JSON text or value is no value of a type, and how that is worded.
-/

set_option autoImplicit false

namespace EdgeApi

inductive Found where
  | null
  | boolean (value : Bool)
  | number (value : Number)
  | text (value : String)
  | sequence
  | map
  deriving DecidableEq

inductive Mismatch where
  | wrongType (found : Found) (expected : String)
  | wrongValue (found : Found) (expected : String)
  | wrongLength (length : Nat) (expected : String)
  | missingField (name : String)
  | duplicateField (name : String)
  | unknownVariant (name : String) (allowed : List String)
  /-- A rule of the type itself is not met. -/
  | refused (reason : String)
  deriving DecidableEq

inductive Fault where
  | malformed
  | truncated
  | mismatch (cause : Mismatch)
  deriving DecidableEq

namespace Found

def describe : Found → String
  | .null => "null"
  | .boolean b => "boolean `" ++ (if b then "true" else "false") ++ "`"
  | .number (.whole n _) => "integer `" ++ toString n ++ "`"
  | .number (.real x) => "floating point `" ++ x.render ++ "`"
  | .text s => "string " ++ Text.quoted s
  | .sequence => "sequence"
  | .map => "map"

end Found

/-- Names in backquotes as alternatives. -/
def alternatives (names : List String) : String :=
  let ticked := names.map fun n => "`" ++ n ++ "`"
  match ticked with
  | [] => "there are no variants"
  | [a] => "expected " ++ a
  | [a, b] => "expected " ++ a ++ " or " ++ b
  | _ => "expected one of " ++ ", ".intercalate ticked

namespace Mismatch

def message : Mismatch → String
  | .wrongType found expected => "invalid type: " ++ found.describe ++ ", expected " ++ expected
  | .wrongValue found expected => "invalid value: " ++ found.describe ++ ", expected " ++ expected
  | .wrongLength n expected => "invalid length " ++ toString n ++ ", expected " ++ expected
  | .missingField name => "missing field `" ++ name ++ "`"
  | .duplicateField name => "duplicate field `" ++ name ++ "`"
  | .unknownVariant name allowed => "unknown variant `" ++ name ++ "`, " ++ alternatives allowed
  | .refused reason => reason

end Mismatch

namespace Fault

def message : Fault → String
  | .malformed => "malformed JSON"
  | .truncated => "truncated JSON"
  | .mismatch cause => cause.message

def category : Fault → String
  | .malformed => "Syntax"
  | .truncated => "Eof"
  | .mismatch _ => "Data"

def wrongType (found : Found) (expected : String) : Fault :=
  .mismatch (.wrongType found expected)

def refused (reason : String) : Fault :=
  .mismatch (.refused reason)

end Fault

end EdgeApi
