import EdgeApi.Record.Fields
import EdgeApi.Time.Reading

/-!
# Timestamps in records
-/

set_option autoImplicit false

namespace EdgeApi.Codec

def timestamp : Codec Timestamp where
  decode := fun _ d =>
    match d with
    | .text (some s) =>
      match Timestamp.parse s with
      | some t => .ok t
      | none => .error (.refused "invalid timestamp")
    | d => .error (d.fault "an RFC 3339 formatted date and time string")
  encode := fun t => .text t.render

end EdgeApi.Codec
