import EdgeApi.Client.Session
import EdgeApi.Envelope
import EdgeApi.Text.Blank

/-!
# Replies

What a response means: a failure classed by its status, or the result in an envelope.
-/

set_option autoImplicit false

namespace EdgeApi

namespace Response

def header? (r : Response) (name : String) : Option (List UInt8) :=
  (r.headers.find? fun h => h.1.map Char.toLower == name).map Prod.snd

def isVisible (b : UInt8) : Bool :=
  (0x20 ≤ b && b < 0x7F) || b == 0x09

def headerText? (r : Response) (name : String) : Option String := do
  let value ← r.header? name
  if value.all isVisible then return String.ofList (value.map fun b => Char.ofNat b.toNat)
  else none

def rayId? (r : Response) : Option String :=
  r.headerText? "cf-ray"

/-- The details of a failure. A body that is no envelope stands as the text of the error. -/
def failure (r : Response) : ApiError :=
  match (Envelope.codec .ignored).decodeText r.body with
  | .ok e =>
    { status := r.status, errors := e.errors, messages := e.messages.map Notice.message,
      rayId := r.rayId? }
  | .error _ =>
    let text := Text.trim (Text.Utf8.decodeLossy r.body)
    { status := r.status, errors := if text.isEmpty then [] else [.ofMessage text], messages := [],
      rayId := r.rayId? }

def classify (r : Response) : Error :=
  .ofStatus r.status r.failure

def envelope {α : Type} (c : Codec α) (r : Response) : Except Error (Envelope α) :=
  match (Envelope.codec c).decodeText r.body with
  | .error fault => .error (.unmarshal fault (Text.Utf8.decodeLossy r.body))
  | .ok e =>
    if e.success then .ok e
    else
      .error <| .api .request
        { status := r.status, errors := e.errors, messages := e.messages.map Notice.message,
          rayId := r.rayId? }

def failureEvent (r : Response) : LogEvent where
  severity := .debug
  target := "cfapi::api::client"
  message := "API error (" ++ toString r.status ++ "): " ++ r.failure.message

def envelopeEvents {α : Type} (c : Codec α) (r : Response) : List LogEvent :=
  match (Envelope.codec c).decodeText r.body with
  | .error _ => []
  | .ok e =>
    if e.success then []
    else [⟨.trace, "cfapi::api::client",
      "Envelope reported failure with status " ++ toString r.status⟩]

end Response

namespace Envelope

/-- The result. Without one, null must be a value of the type. -/
def take {α : Type} (c : Codec α) (e : Envelope α) : Except Error α :=
  match e.result with
  | some a => .ok a
  | none =>
    match c.decodeJson .null with
    | .ok a => .ok a
    | .error _ => .error (.unmarshal (.refused "response has no result") "")

end Envelope

namespace Client

def send (request : Request) : Client Response := do
  let response ← exchange request
  if 400 ≤ response.status then
    tell [response.failureEvent]
    throw response.classify
  else return response

def read {α : Type} (c : Codec α) (response : Response) : Client (Envelope α) := do
  tell (response.envelopeEvents c)
  ofExcept (response.envelope c)

def request {α : Type} (c : Codec α) (method : Method) (path : String)
    (body : Option Json := none) : Client (Envelope α) := do
  let response ← send { method, path, body := body.map .json }
  read c response

def fetch {α : Type} (c : Codec α) (method : Method) (path : String)
    (body : Option Json := none) : Client α := do
  let envelope ← request c method path body
  ofExcept (envelope.take c)

def get {α : Type} (c : Codec α) (path : String) : Client α :=
  fetch c .get path

def post {α : Type} (c : Codec α) (path : String) (body : Json) : Client α :=
  fetch c .post path (some body.sorted)

def put {α : Type} (c : Codec α) (path : String) (body : Json) : Client α :=
  fetch c .put path (some body.sorted)

def patch {α : Type} (c : Codec α) (path : String) (body : Json) : Client α :=
  fetch c .patch path (some body.sorted)

/-- Deletes a resource; the result is not looked at. -/
def delete (path : String) : Client Unit :=
  fetch .ignored .delete path

def raw (method : Method) (path : String) (body : Option Json) : Client Json := do
  let path := if path.startsWith "/" then path else "/" ++ path
  let envelope ← request .json method path body
  return envelope.result.getD .null

end Client

end EdgeApi
