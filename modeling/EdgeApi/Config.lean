import EdgeApi.Error
import EdgeApi.Record.Fields

/-!
# Configuration

Credentials, default containers, the root of the API and the output format, as far as the
environment gives them.
-/

set_option autoImplicit false

namespace EdgeApi

inductive OutputFormat where
  | table
  | json
  | compact
  deriving DecidableEq

namespace OutputFormat

def name : OutputFormat → String
  | .table => "table"
  | .json => "json"
  | .compact => "compact"

/-- The format of that name in any case; any other text stands for tables. -/
def parse (s : String) : OutputFormat :=
  let lower := s.map Char.toLower
  if lower = "json" then .json else if lower = "compact" then .compact else .table

def codec : Codec OutputFormat :=
  .variant [("table", .table), ("json", .json), ("compact", .compact)] name

end OutputFormat

abbrev Environment := List (String × String)

namespace Environment

def set? (env : Environment) (name : String) : Option String :=
  (env.lookup name).filter fun v => !v.isEmpty

end Environment

structure Config where
  apiToken : Option String := none
  apiKey : Option String := none
  apiEmail : Option String := none
  userServiceKey : Option String := none
  accountId : Option String := none
  zoneId : Option String := none
  baseUrl : String := ""
  outputFormat : OutputFormat := .table
  deriving DecidableEq

namespace Config

def fields := (
  .cons (.nullable "api_token" .text apiToken) <|
  .cons (.nullable "api_key" .text apiKey) <|
  .cons (.nullable "api_email" .text apiEmail) <|
  .cons (.nullable "user_service_key" .text userServiceKey) <|
  .cons (.nullable "account_id" .text accountId) <|
  .cons (.nullable "zone_id" .text zoneId) <|
  .cons (.required "base_url" .text baseUrl) <|
  .cons (.required "output_format" OutputFormat.codec outputFormat) .nil : Fields Config _ _)

def codec : Codec Config :=
  .record "Config" fields
    fun (apiToken, apiKey, apiEmail, userServiceKey, accountId, zoneId, baseUrl, outputFormat,
        ()) =>
      { apiToken, apiKey, apiEmail, userServiceKey, accountId, zoneId, baseUrl, outputFormat }

def defaultBaseUrl : String :=
  "https://api.cloudflare.com/client/v4"

def trimSlashes (s : String) : String :=
  String.ofList (s.toList.reverse.dropWhile (· == '/')).reverse

def ofToken (token : String) : Config :=
  { apiToken := some token, baseUrl := defaultBaseUrl }

def withBaseUrl (config : Config) (url : String) : Config :=
  { config with baseUrl := trimSlashes url }

/-- Exactly one style of credentials must be configured, and the root must be a locator. -/
def validate (config : Config) : Except Error Unit :=
  let keyPair := config.apiKey.isSome && config.apiEmail.isSome
  if config.apiToken.isSome && (config.apiKey.isSome || config.apiEmail.isSome) then
    .error .keysAndTokensExclusive
  else if config.apiToken.isNone && !keyPair && config.userServiceKey.isNone then
    .error .missingCredentials
  else
    match Uri.Locator.parse config.baseUrl with
    | .ok _ => .ok ()
    | .error fault => .error (.invalidBaseUrl fault)

def authHeaders (config : Config) : List (String × String) :=
  match config.apiToken, config.apiKey, config.apiEmail, config.userServiceKey with
  | some token, _, _, _ => [("Authorization", "Bearer " ++ token)]
  | none, some key, some email, _ => [("X-Auth-Key", key), ("X-Auth-Email", email)]
  | none, _, _, some key => [("X-Auth-User-Service-Key", key)]
  | none, _, _, none => []

def ofEnvironment (env : Environment) : Config where
  apiToken := env.set? "CF_API_TOKEN"
  apiKey := env.set? "CF_API_KEY"
  apiEmail := env.set? "CF_API_EMAIL"
  userServiceKey := env.set? "CF_API_USER_SERVICE_KEY"
  accountId := env.set? "CF_ACCOUNT_ID"
  zoneId := env.set? "CF_ZONE_ID"
  baseUrl := ((env.set? "CF_API_BASE_URL").map trimSlashes).getD defaultBaseUrl
  outputFormat := .parse ((env.lookup "CF_OUTPUT_FORMAT").getD "")

def load (env : Environment) : Except Error Config := do
  let config := ofEnvironment env
  config.validate
  return config

end Config

end EdgeApi
