import EdgeApi.Client.Reply
import EdgeApi.Config
import EdgeApi.Uri.Reference

/-!
# HTTP

Requests as they go over the wire, how redirections are followed, and how requests that end in what
may be a passing trouble are made again.
-/

set_option autoImplicit false

namespace EdgeApi.Http

def defaultRetries : Nat := 3

structure Endpoint where
  baseUrl : String
  authHeaders : List (String × String)

structure WireRequest where
  method : Method
  target : String
  headers : List (String × String)
  body : List UInt8

def isHeaderChar (c : Char) : Bool :=
  c == '\t' || (0x20 ≤ c.toNat && c.toNat != 0x7F)

def trimBlanks (s : String) : String :=
  let blank (c : Char) : Bool := c == ' ' || c == '\t'
  String.ofList ((s.toList.dropWhile blank).reverse.dropWhile blank).reverse

def trimBlankBytes (bytes : List UInt8) : List UInt8 :=
  let blank (b : UInt8) : Bool := b == 0x20 || b == 0x09
  ((bytes.dropWhile blank).reverse.dropWhile blank).reverse

namespace Endpoint

def ofConfig (config : Config) : Except Error Endpoint := do
  config.validate
  return ⟨config.baseUrl, config.authHeaders⟩

def locate (e : Endpoint) (r : Request) : Except Uri.LocatorFault Uri.Locator :=
  Uri.Locator.parse (e.baseUrl ++ r.path)

def bodyBytes : Option Body → List UInt8
  | none => []
  | some (.json value) => Text.Utf8.encode value.render
  | some (.bytes bytes) => bytes

/-- The type of the content, JSON unless the request carries bytes. Headers of the request count
before it. -/
def contentType : Option Body → List (String × String)
  | some (.bytes _) => []
  | _ => [("content-type", "application/json")]

/-- The request for the wire; fails if a header cannot be written. -/
def prepare (e : Endpoint) (r : Request) : Except TransportError WireRequest :=
  match e.locate r with
  | .error _ => .error (.http "builder error")
  | .ok locator =>
    if e.authHeaders.all fun h => h.2.toList.all isHeaderChar then
      let body := bodyBytes r.body
      let standard := ("accept", "*/*") :: ("user-agent", "cfapi/0.5.0") :: contentType r.body
      let own := standard.filter fun h => (r.headers.lookup h.1).isNone
      let length := if body.isEmpty then [] else [("content-length", toString body.length)]
      .ok {
        method := r.method
        target := locator.target
        headers := (e.authHeaders ++ own ++ r.headers ++ length).map fun h =>
          (h.1.map Char.toLower, trimBlanks h.2)
        body := body }
    else .error (.http "builder error")

end Endpoint

inductive Attempt where
  | answered (response : Response)
  | dropped

structure Redirect where
  status : Nat
  location : Uri.Reference

def redirectStatuses : List Nat := [301, 302, 303, 307, 308]

namespace Attempt

def isTransient : Attempt → Bool
  | .dropped => true
  | .answered r => r.status == 408 || r.status == 429 || (500 ≤ r.status && r.status ≤ 599)

def redirect? : Attempt → Option Redirect
  | .dropped => none
  | .answered r => do
    if !redirectStatuses.contains r.status then none
    let text ← Text.Utf8.decode? (trimBlankBytes (← r.header? "location"))
    return ⟨r.status, ← Uri.Reference.parse? text⟩

end Attempt

namespace WireRequest

/-- The request that is made after a redirection. Status 303, and for a request that creates
something also 301 and 302, mean that the other place is only read; then the body is left out. -/
def follow (w : WireRequest) (d : Redirect) : WireRequest :=
  let target := d.location.resolve w.target
  if d.status == 303 || ((d.status == 301 || d.status == 302) && w.method == .post) then
    { method := if w.method.name == "HEAD" then w.method else .get
      target
      headers := w.headers.filter fun h => h.1 != "content-type" && h.1 != "content-length"
      body := [] }
  else { w with target }

end WireRequest

def mostRedirects : Nat := 10

/-- An attempt with the redirections that were followed before its end. Of several servers only one
is within reach. -/
structure Round where
  followed : List Redirect
  ending : Attempt

namespace Round

/-- The rounds that attempts make up; `followed` are the redirections so far, the latest first. -/
def ofAttempts (followed : List Redirect) : List Attempt → List Round
  | [] => []
  | a :: rest =>
    match a.redirect? with
    | none => ⟨followed.reverse, a⟩ :: ofAttempts [] rest
    | some d =>
      if followed.length < mostRedirects && !rest.isEmpty then
        if d.location.isAbsolute then ⟨(d :: followed).reverse, .dropped⟩ :: ofAttempts [] rest
        else ofAttempts (d :: followed) rest
      else ⟨followed.reverse, a⟩ :: ofAttempts [] rest

def isEndless (r : Round) : Bool :=
  r.ending.redirect?.isSome && decide (mostRedirects ≤ r.followed.length)

def requests (w : WireRequest) : List Redirect → List WireRequest
  | [] => [w]
  | d :: rest => if d.location.isAbsolute then [w] else w :: requests (w.follow d) rest

def latest (r : Round) (w : WireRequest) : WireRequest :=
  r.followed.foldl WireRequest.follow w

end Round

structure Settled where
  earlier : List Round
  last : Round

/-- Puts rounds together to ends of requests: a request is made again while its last round ends in
a passing trouble, a retry is left and another round follows. -/
def settleFrom (retries : Nat) : (earlier : List Round) → List Round → List Settled
  | _, [] => []
  | earlier, r :: rest =>
    if r.ending.isTransient && decide (earlier.length < retries) && !rest.isEmpty then
      settleFrom retries (earlier ++ [r]) rest
    else ⟨earlier, r⟩ :: settleFrom retries [] rest

def settle (retries : Nat) (attempts : List Attempt) : List Settled :=
  settleFrom retries [] (Round.ofAttempts [] attempts)

namespace Settled

def hasBody (method : Method) (status : Nat) : Bool :=
  method.name != "HEAD" && status != 204 && status != 304

/-- An answer as it is read: headers without blanks at their ends, and a body if it may have one. -/
def received (w : WireRequest) (r : Response) : Response :=
  { r with
    headers := r.headers.map fun h => (h.1, trimBlankBytes h.2)
    body := if hasBody w.method r.status then r.body else [] }

def failure (s : Settled) (text : String) : TransportError :=
  if s.earlier.isEmpty then .middleware text
  else .middleware ("Request failed after " ++ toString s.earlier.length ++ " retries")

def outcome (s : Settled) (e : Endpoint) (r : Request) : Except TransportError Response :=
  match e.locate r, e.prepare r with
  | .ok locator, .ok wire =>
    let latest := s.last.latest wire
    match s.last.ending with
    | .answered response =>
      if s.last.isEndless then
        let place := { locator with path := latest.target, query := none, fragment := none }
        .error (s.failure ("error following redirect for url (" ++ place.render ++ ")"))
      else .ok (received latest response)
    | .dropped => .error (s.failure ("error sending request for url (" ++ locator.render ++ ")"))
  | _, .error fault => .error fault
  | .error _, .ok _ => .error (.http "builder error")

def arrivals (s : Settled) (e : Endpoint) (r : Request) : List WireRequest :=
  match e.prepare r with
  | .ok wire => (s.earlier ++ [s.last]).flatMap fun round => Round.requests wire round.followed
  | .error _ => []

end Settled

/-! ## What is told -/

def event (severity : Severity) (message : String) : LogEvent where
  severity := severity
  target := "cfapi::api::transport"
  message := message

def reason (status : Nat) : String :=
  match status with
  | 429 => "Too Many Requests"
  | 500 => "Internal Server Error"
  | 501 => "Not Implemented"
  | 502 => "Bad Gateway"
  | 503 => "Service Unavailable"
  | 504 => "Gateway Timeout"
  | 505 => "HTTP Version Not Supported"
  | 506 => "Variant Also Negotiates"
  | 507 => "Insufficient Storage"
  | 508 => "Loop Detected"
  | 510 => "Not Extended"
  | 511 => "Network Authentication Required"
  | _ => "<unknown status code>"

def parseSeconds (text : String) : Option Nat :=
  let digits := match text.toList with
    | '+' :: rest => rest
    | digits => digits
  let seconds := digits.foldl (fun n c => n * 10 + (c.toNat - 48)) 0
  if !digits.isEmpty && digits.all Char.isDigit && decide (seconds < UInt64.size) then some seconds
  else none

def longestPause : Nat := 30

def pauseText (seconds : Nat) : String :=
  if seconds = 0 then "0ns" else toString seconds ++ "s"

namespace Round

def place (r : Round) (locator : Uri.Locator) (w : WireRequest) : Uri.Locator :=
  if r.followed.isEmpty then locator
  else { locator with path := (r.latest w).target, query := none, fragment := none }

/-- A refusal may come with a time to wait for. -/
def events (r : Round) (locator : Uri.Locator) (w : WireRequest) : List LogEvent :=
  match r.ending with
  | .dropped => []
  | .answered response =>
    if response.status = 429 ∨ 500 ≤ response.status ∧ response.status ≤ 599 then
      match (response.headerText? "retry-after").bind fun text => parseSeconds (Text.trim text) with
      | none => []
      | some seconds =>
        [event .warn <| (r.place locator w).render ++ " returned " ++ toString response.status ++
          " " ++ reason response.status ++ ", server asked to wait " ++
          pauseText (min seconds longestPause)]
    else []

end Round

namespace Settled

def requestEvents (e : Endpoint) (r : Request) : List LogEvent :=
  event .debug (r.method.name ++ " " ++ e.baseUrl ++ r.path) ::
    match r.body with
    | some (.json value) => [event .trace ("Request body: " ++ value.render)]
    | _ => []

def responseEvents : Except TransportError Response → List LogEvent
  | .ok response =>
    [event .trace <| "Response (" ++ toString response.status ++ "): " ++
      Text.Utf8.decodeLossy response.body]
  | .error _ => []

def events (s : Settled) (e : Endpoint) (below : List LogEvent) (r : Request) : List LogEvent :=
  let pauses := match e.locate r, e.prepare r with
    | .ok locator, .ok wire =>
      (s.earlier ++ [s.last]).flatMap fun round => round.events locator wire
    | _, _ => []
  requestEvents e r ++ below ++ pauses ++ responseEvents (s.outcome e r)

end Settled

/-- The replies of a server for a number of requests; `below` is what is told below this layer. -/
def inbox (e : Endpoint) (settled : List Settled)
    (below : Settled → List LogEvent := fun _ => []) : List (Request → Delivery) :=
  settled.map fun s r => { outcome := s.outcome e r, log := fun _ => s.events e (below s) r }

end EdgeApi.Http
