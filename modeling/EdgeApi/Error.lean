import EdgeApi.Level
import EdgeApi.Notice
import EdgeApi.Text.Substring
import EdgeApi.Uri.Locator

/-!
# Errors

Everything a call can fail with. Failures reported by the server are classed by their status;
preconditions are checked before anything is sent.
-/

set_option autoImplicit false

namespace EdgeApi

inductive TransportError where
  | canceled
  | http (message : String)
  | middleware (message : String)
  | other (message : String)
  deriving DecidableEq

namespace TransportError

def message : TransportError → String
  | .canceled => "context canceled"
  | .http m => m
  | .middleware m => m
  | .other m => m

end TransportError

inductive ErrorKind where
  | request
  | authentication
  | authorization
  | notFound
  | rateLimit
  | service
  deriving DecidableEq

namespace ErrorKind

def ofStatus (status : Nat) : ErrorKind :=
  if status = 401 then .authentication
  else if status = 403 then .authorization
  else if status = 404 then .notFound
  else if status = 429 then .rateLimit
  else if 500 ≤ status ∧ status ≤ 599 then .service
  else .request

end ErrorKind

structure ApiError where
  status : Nat
  errors : List Notice
  messages : List String
  rayId : Option String
  deriving DecidableEq

namespace ApiError

def ofMessage (message : String) : ApiError :=
  { status := 0, errors := [.ofMessage message], messages := [], rayId := none }

def codes (e : ApiError) : List Int64 :=
  e.errors.map Notice.code

def errorMessages (e : ApiError) : List String :=
  e.errors.map Notice.message

/-- The errors, or else the status, and each message on a line of its own. -/
def message (e : ApiError) : String :=
  let head := if e.errors.isEmpty then "HTTP status " ++ toString e.status
    else ", ".intercalate (e.errors.map Notice.render)
  "\n".intercalate (head :: e.messages)

end ApiError

inductive Error where
  | api (kind : ErrorKind) (details : ApiError)
  | transport (cause : TransportError)
  | unmarshal (fault : Fault) (body : String)
  | bulkOperationAborted (reason : String)
  | bulkOperationTimeout
  | delayOverflow
  | pageOverflow
  | missingAccountId
  | missingZoneId
  | unsupportedContainer (level : Level)
  | missingResourceId (what : String)
  | missingListId
  | missingDomain
  | missingHostname
  | missingRuleId
  | missingDatabaseId
  | missingProjectName
  | missingService
  | missingEnvironment
  | missingTlsSettingName
  | rolesAndPoliciesExclusive
  | keysAndTokensExclusive
  | missingCredentials
  | invalidBaseUrl (cause : Uri.LocatorFault)
  deriving DecidableEq

namespace Error

def ofStatus (status : Nat) (details : ApiError) : Error :=
  .api (.ofStatus status) details

def kind? : Error → Option ErrorKind
  | .api kind _ => some kind
  | _ => none

def details? : Error → Option ApiError
  | .api _ details => some details
  | _ => none

def status? (e : Error) : Option Nat :=
  e.details?.map ApiError.status

def rayId? (e : Error) : Option String :=
  e.details?.bind ApiError.rayId

def codes (e : Error) : List Int64 :=
  (e.details?.map ApiError.codes).getD []

def errorMessages (e : Error) : List String :=
  (e.details?.map ApiError.errorMessages).getD []

def isClientError (e : Error) : Bool :=
  e.status?.any fun s => decide (400 ≤ s ∧ s ≤ 499)

def isRateLimited (e : Error) : Bool :=
  e.kind? == some .rateLimit

def isNotFound (e : Error) : Bool :=
  e.kind? == some .notFound

/-- Whether the server reported the code. -/
def hasCode (e : Error) (code : Int64) : Bool :=
  e.codes.contains code

def mentions (e : Error) (needle : String) : Bool :=
  e.errorMessages.any fun m => Text.occursIn needle.toList m.toList

/-- Whether the error is raised before anything is sent. -/
def isPrecondition : Error → Bool
  | .missingAccountId | .missingZoneId | .unsupportedContainer _ | .missingResourceId _
  | .missingListId | .missingDomain | .missingHostname | .missingRuleId | .missingDatabaseId
  | .missingProjectName | .missingService | .missingEnvironment | .missingTlsSettingName
  | .rolesAndPoliciesExclusive => true
  | .api _ _ | .transport _ | .unmarshal _ _ | .bulkOperationAborted _ | .bulkOperationTimeout
  | .delayOverflow | .pageOverflow | .keysAndTokensExclusive | .missingCredentials
  | .invalidBaseUrl _ => false

def message : Error → String
  | .api _ details => details.message
  | .transport cause => "request error: " ++ cause.message
  | .unmarshal fault body =>
    "error unmarshalling the JSON response: " ++ fault.message ++ ": " ++ body
  | .bulkOperationAborted reason => "operation aborted during backoff: " ++ reason
  | .bulkOperationTimeout => "bulk operation did not finish before timeout"
  | .delayOverflow => "overflow when multiplying duration by scalar"
  | .pageOverflow => "attempt to add with overflow"
  | .missingAccountId => "missing account id"
  | .missingZoneId => "missing zone id"
  | .unsupportedContainer level =>
    "requested resource container is not supported for this endpoint (got " ++ level.label ++ ")"
  | .missingResourceId what => what ++ " cannot be empty"
  | .missingListId => "missing list id"
  | .missingDomain => "missing domain"
  | .missingHostname => "missing hostname"
  | .missingRuleId => "missing rule id"
  | .missingDatabaseId => "missing database id"
  | .missingProjectName => "missing project name"
  | .missingService => "missing service"
  | .missingEnvironment => "missing environment"
  | .missingTlsSettingName => "missing TLS setting name"
  | .rolesAndPoliciesExclusive => "account members cannot have both roles and policies"
  | .keysAndTokensExclusive => "api keys and tokens are mutually exclusive"
  | .missingCredentials =>
    "no credentials configured: set an API token, an API key and email, or a user service key"
  | .invalidBaseUrl cause => "invalid base URL: " ++ cause.message

end Error

end EdgeApi
