import EdgeApi.Record.Fields

/-!
# Notices

Errors and informational messages of a response: a code and a text.
-/

set_option autoImplicit false

namespace EdgeApi

structure Notice where
  code : Int64
  message : String
  deriving DecidableEq

namespace Notice

def ofMessage (message : String) : Notice :=
  ⟨0, message⟩

def fields := (
  .cons (.lenient "code" .int64 0 code) <|
  .cons (.words "message" message) .nil : Fields Notice _ _)

def codec : Codec Notice :=
  .record "ResponseInfo" fields fun (code, message, ()) => ⟨code, message⟩

/-- The text, with a nonzero code after it. -/
def render (n : Notice) : String :=
  if n.code = 0 then n.message else n.message ++ " (" ++ toString n.code.toInt ++ ")"

end Notice

end EdgeApi
