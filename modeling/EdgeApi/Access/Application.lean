import EdgeApi.Access.Scim
import EdgeApi.Client.Call
import EdgeApi.Record.Timestamp

/-!
# Access applications
-/

set_option autoImplicit false

namespace EdgeApi.Access

structure Application where
  id : String
  name : String
  domain : String
  kind : String
  audience : String
  sessionDuration : Option String
  allowedIdps : List String
  autoRedirectToIdentity : Option Bool
  selfHostedDomains : List String
  tags : List String
  scimConfig : Option ScimConfig
  createdAt : Option Timestamp
  updatedAt : Option Timestamp
  deriving DecidableEq

namespace Application

def fields := (
  .cons (.label "id" id) <|
  .cons (.required "name" .text name) <|
  .cons (.label "domain" domain) <|
  .cons (.label "type" kind) <|
  .cons (.label "aud" audience) <|
  .cons (.given "session_duration" .text sessionDuration) <|
  .cons (.filled "allowed_idps" .text allowedIdps) <|
  .cons (.given "auto_redirect_to_identity" .bool autoRedirectToIdentity) <|
  .cons (.filled "self_hosted_domains" .text selfHostedDomains) <|
  .cons (.filled "tags" .text tags) <|
  .cons (.given "scim_config" ScimConfig.codec scimConfig) <|
  .cons (.given "created_at" .timestamp createdAt) <|
  .cons (.given "updated_at" .timestamp updatedAt) .nil : Fields Application _ _)

def codec : Codec Application :=
  .record "AccessApplication" fields
    fun (id, name, domain, kind, audience, sessionDuration, allowedIdps, autoRedirectToIdentity,
        selfHostedDomains, tags, scimConfig, createdAt, updatedAt, ()) =>
      { id, name, domain, kind, audience, sessionDuration, allowedIdps, autoRedirectToIdentity,
        selfHostedDomains, tags, scimConfig, createdAt, updatedAt }

def collection : Collection Application where
  scope := .either
  path := "/access/apps"
  codec := codec
  unidentified := .missingResourceId "application id"
  pageSize := 25

structure Filter where
  name : Option String
  domain : Option String
  audience : Option String
  search : Option String

def Filter.query (f : Filter) : Uri.Query :=
  .opt "name" f.name ++ .opt "domain" f.domain ++ .opt "aud" f.audience ++ .opt "search" f.search

def list (f : Filter) (options : PageOptions) : Call (List Application × ResultInfo) :=
  collection.list f.query options

def get (id : String) : Call Application :=
  collection.get id

def create (a : Application) : Call Application :=
  collection.create (codec.encode a)

/-- Replaces the application with the identifier of the one given. -/
def update (a : Application) : Call Application :=
  collection.replace a.id (codec.encode a)

def delete (id : String) : Call Unit :=
  collection.delete id

end Application

end EdgeApi.Access
