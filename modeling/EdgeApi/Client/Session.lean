import EdgeApi.Container
import EdgeApi.Log

/-!
# Sessions

Requests, replies and the state that calls share: a clock, a cancellation token, the replies still
to come and the requests sent so far. A call is a state transformer that may fail.
-/

set_option autoImplicit false

namespace EdgeApi

structure Method where
  name : String
  deriving DecidableEq

namespace Method

def get : Method := ⟨"GET"⟩
def post : Method := ⟨"POST"⟩
def put : Method := ⟨"PUT"⟩
def patch : Method := ⟨"PATCH"⟩
def delete : Method := ⟨"DELETE"⟩

def isNameChar (c : Char) : Bool :=
  c.isAlphanum || "!#$%&'*+-.^_`|~".toList.contains c

def parse? (name : String) : Option Method :=
  if !name.isEmpty && name.toList.all isNameChar then some ⟨name⟩ else none

end Method

inductive Body where
  | json (value : Json)
  | bytes (value : List UInt8)

structure Request where
  method : Method
  path : String
  body : Option Body := none
  /-- Headers beyond those of the transport. -/
  headers : List (String × String) := []

structure Response where
  status : Nat
  headers : List (String × List UInt8) := []
  body : List UInt8 := []

/-- How the transport answers a request, and after how many nanoseconds. -/
structure Delivery where
  delay : Nat := 0
  outcome : Except TransportError Response
  /-- What the transport has told so many nanoseconds after the request. -/
  log : Nat → List LogEvent := fun _ => []

structure Sent where
  request : Request
  time : Nat

/-- How long to wait between the status fetches of a bulk operation. -/
structure Schedule where
  steps : UInt32 := 16
  /-- The wait before the first fetches, in nanoseconds. -/
  base : Nat := 1000000000
  deriving DecidableEq

structure Session where
  now : Nat := 0
  cancelled : Bool := false
  cancelAt : Option Nat := none
  /-- The token is cancelled when this many requests have arrived. -/
  cancelAfter : Option Nat := none
  /-- The replies still to come, each of which may depend on its request. -/
  inbox : List (Request → Delivery) := []
  sent : List Sent := []
  log : List LogEvent := []
  schedule : Schedule := {}

abbrev Client (α : Type) := ExceptT Error (StateM Session) α

namespace Session

/-- Lets time pass. Tells whether the token was cancelled meanwhile; an end at the same instant
comes first. -/
def pass (duration : Nat) (s : Session) : Bool × Session :=
  if s.cancelled then (true, s)
  else if duration = 0 then (false, s)
  else
    match s.cancelAt with
    | some t =>
      if t < s.now + duration then (true, { s with now := max t s.now, cancelled := true })
      else (false, { s with now := s.now + duration })
    | none => (false, { s with now := s.now + duration })

def accept (request : Request) (s : Session) : Option Delivery × Session :=
  let sent := s.sent ++ [⟨request, s.now⟩]
  let cancelled := s.cancelled || s.cancelAfter == some sent.length
  match s.inbox with
  | [] => (none, { s with sent, cancelled })
  | reply :: inbox => (some (reply request), { s with sent, cancelled, inbox })

def tell (events : List LogEvent) (s : Session) : Session :=
  { s with log := s.log ++ events }

/-- Waits for a delivery while the transport tells what it does. -/
def await (delivery : Delivery) (s : Session) : Bool × Session :=
  let (interrupted, later) := if delivery.delay = 0 then (false, s) else s.pass delivery.delay
  (interrupted, later.tell (delivery.log (later.now - s.now)))

end Session

namespace Client

def run {α : Type} (call : Client α) (s : Session) : Except Error α × Session :=
  StateT.run (ExceptT.run call) s

def ofExcept {α : Type} (e : Except Error α) : Client α :=
  ExceptT.mk (pure e)

def tell (events : List LogEvent) : Client Unit :=
  modify (Session.tell events)

def check (e : Except Error Unit) : Client Unit :=
  ofExcept e

/-- Hands a request to the transport and waits for its reply or for cancellation, whichever is
first. -/
def exchange (request : Request) : Client Response := ExceptT.mk fun s =>
  if s.cancelled then (.error (.transport .canceled), s)
  else
    match s.accept request with
    | (none, s) => (.error (.transport (.other "no response queued")), s)
    | (some delivery, s) =>
      match s.await delivery with
      | (true, s) => (.error (.transport .canceled), s)
      | (false, s) => (delivery.outcome.mapError .transport, s)

def sleep (duration : Nat) : Client Unit := ExceptT.mk fun s =>
  match s.pass duration with
  | (true, s) => (.error (.bulkOperationAborted "context canceled"), s)
  | (false, s) => (.ok (), s)

end Client

end EdgeApi
