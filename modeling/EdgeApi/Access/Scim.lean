import EdgeApi.Record.Fields

/-!
# SCIM provisioning

How an application is provisioned at a remote service, and how it authenticates there. The scheme
of an authentication tells which fields it has.
-/

set_option autoImplicit false

namespace EdgeApi.Access

structure HttpBasic where
  user : String
  password : String
  deriving DecidableEq

namespace HttpBasic

def fields := (
  .cons (.required "user" .text user) <|
  .cons (.required "password" .text password) .nil : Fields HttpBasic _ _)

def codec : Codec HttpBasic :=
  .record "ScimHttpBasic" fields fun (user, password, ()) => { user, password }

end HttpBasic

structure BearerToken where
  token : String
  deriving DecidableEq

namespace BearerToken

def fields := (
  .cons (.required "token" .text token) .nil : Fields BearerToken _ _)

def codec : Codec BearerToken :=
  .record "ScimOauthBearerToken" fields fun (token, ()) => { token }

end BearerToken

structure OAuth2 where
  clientId : String
  clientSecret : String
  authorizationUrl : String
  tokenUrl : String
  scopes : List String
  deriving DecidableEq

namespace OAuth2

def fields := (
  .cons (.required "client_id" .text clientId) <|
  .cons (.required "client_secret" .text clientSecret) <|
  .cons (.required "authorization_url" .text authorizationUrl) <|
  .cons (.required "token_url" .text tokenUrl) <|
  .cons (.filled "scopes" .text scopes) .nil : Fields OAuth2 _ _)

def codec : Codec OAuth2 :=
  .record "ScimOauth2" fields
    fun (clientId, clientSecret, authorizationUrl, tokenUrl, scopes, ()) =>
      { clientId, clientSecret, authorizationUrl, tokenUrl, scopes }

end OAuth2

inductive ScimAuthentication where
  | httpBasic (fields : HttpBasic)
  | bearerToken (fields : BearerToken)
  | oauth2 (fields : OAuth2)
  deriving DecidableEq

namespace ScimAuthentication

def scheme : ScimAuthentication → String
  | .httpBasic _ => "httpbasic"
  | .bearerToken _ => "oauthbearertoken"
  | .oauth2 _ => "oauth2"

/-- What an authentication is written under as its scheme. -/
def tag : ScimAuthentication → String
  | .httpBasic _ => "httpbasic"
  | .bearerToken _ => "oauthbearertoken"
  | .oauth2 _ => "oauth2"

/-- Reads the fields of a scheme. -/
def ofScheme (scheme : String) (j : Json) : Except Fault ScimAuthentication :=
  if scheme = "httpbasic" then (HttpBasic.codec.decodeJson j).map .httpBasic
  else if scheme = "oauthbearertoken" then (BearerToken.codec.decodeJson j).map .bearerToken
  else if scheme = "oauth2" then (OAuth2.codec.decodeJson j).map .oauth2
  else .error (.refused ("invalid scheme: " ++ Text.quoted scheme))

def ofJson (j : Json) : Except Fault ScimAuthentication :=
  match j with
  | .object members =>
    match members.lookup "scheme" with
    | some (.text scheme) => ofScheme scheme j
    | _ => .error (.refused "invalid scheme")
  | _ => .error (.refused "invalid scheme: expected an object")

def members : ScimAuthentication → List (String × Json)
  | .httpBasic a => HttpBasic.fields.members a
  | .bearerToken a => BearerToken.fields.members a
  | .oauth2 a => OAuth2.fields.members a

def codec : Codec ScimAuthentication :=
  .viaJson ofJson fun a => .object (("scheme", .text a.tag) :: a.members)

end ScimAuthentication

structure ScimMappingOperations where
  onCreate : Option Bool
  onUpdate : Option Bool
  onDelete : Option Bool
  deriving DecidableEq

namespace ScimMappingOperations

def fields := (
  .cons (.given "create" .bool onCreate) <|
  .cons (.given "update" .bool onUpdate) <|
  .cons (.given "delete" .bool onDelete) .nil : Fields ScimMappingOperations _ _)

def codec : Codec ScimMappingOperations :=
  .record "ScimMappingOperations" fields fun (onCreate, onUpdate, onDelete, ()) =>
    { onCreate, onUpdate, onDelete }

end ScimMappingOperations

structure ScimMapping where
  schema : String
  enabled : Option Bool
  filter : String
  transformJsonata : String
  operations : Option ScimMappingOperations
  deriving DecidableEq

namespace ScimMapping

def fields := (
  .cons (.required "schema" .text schema) <|
  .cons (.given "enabled" .bool enabled) <|
  .cons (.label "filter" filter) <|
  .cons (.label "transform_jsonata" transformJsonata) <|
  .cons (.given "operations" ScimMappingOperations.codec operations) .nil :
    Fields ScimMapping _ _)

def codec : Codec ScimMapping :=
  .record "ScimMapping" fields fun (schema, enabled, filter, transformJsonata, operations, ()) =>
    { schema, enabled, filter, transformJsonata, operations }

end ScimMapping

structure ScimConfig where
  enabled : Option Bool
  remoteUri : String
  authentication : Option ScimAuthentication
  idpUid : String
  deactivateOnDelete : Option Bool
  mappings : List ScimMapping
  deriving DecidableEq

namespace ScimConfig

def fields := (
  .cons (.given "enabled" .bool enabled) <|
  .cons (.required "remote_uri" .text remoteUri) <|
  .cons (.given "authentication" ScimAuthentication.codec authentication) <|
  .cons (.required "idp_uid" .text idpUid) <|
  .cons (.given "deactivate_on_delete" .bool deactivateOnDelete) <|
  .cons (.filled "mappings" ScimMapping.codec mappings) .nil : Fields ScimConfig _ _)

def codec : Codec ScimConfig :=
  .record "ScimConfig" fields
    fun (enabled, remoteUri, authentication, idpUid, deactivateOnDelete, mappings, ()) =>
      { enabled, remoteUri, authentication, idpUid, deactivateOnDelete, mappings }

end ScimConfig

end EdgeApi.Access
