import EdgeApi.Client.Call
import EdgeApi.Record.Timestamp

/-!
# Domains of projects
-/

set_option autoImplicit false

namespace EdgeApi.Hosting

structure PagesDomain where
  id : String
  name : String
  status : String
  verificationData : Option Json
  validationData : Option Json
  zoneTag : String
  certificateAuthority : String
  createdOn : Option Timestamp

namespace PagesDomain

def fields := (
  .cons (.required "id" .text id) <|
  .cons (.required "name" .text name) <|
  .cons (.words "status" status) <|
  .cons (.optional "verification_data" .json verificationData) <|
  .cons (.optional "validation_data" .json validationData) <|
  .cons (.words "zone_tag" zoneTag) <|
  .cons (.words "certificate_authority" certificateAuthority) <|
  .cons (.optional "created_on" .timestamp createdOn) .nil : Fields PagesDomain _ _)

def codec : Codec PagesDomain :=
  .record "PagesDomain" fields
    fun (id, name, status, verificationData, validationData, zoneTag, certificateAuthority,
        createdOn, ()) =>
      { id, name, status, verificationData, validationData, zoneTag, certificateAuthority,
        createdOn }

/-- The domains of a project. -/
def path (c : Container) (project : String) : String :=
  c.path ++ "/pages/projects/" ++ project ++ "/domains"

def needs (project domain : String) : List Need :=
  [.filled project .missingProjectName, .filled domain .missingDomain]

def list (project : String) : Call (List PagesDomain) where
  scope := .only .account
  needs := [.filled project .missingProjectName]
  exchange := fun c => Client.get (.list codec) (path c project)

def get (project domain : String) : Call PagesDomain where
  scope := .only .account
  needs := needs project domain
  exchange := fun c => Client.get codec (path c project ++ "/" ++ domain)

def add (project domain : String) : Call PagesDomain where
  scope := .only .account
  needs := needs project domain
  exchange := fun c => Client.post codec (path c project) (.object [("name", .text domain)])

/-- Asks for another try at the validation of a domain. -/
def patch (project domain : String) : Call PagesDomain where
  scope := .only .account
  needs := needs project domain
  exchange := fun c => Client.patch codec (path c project ++ "/" ++ domain) (.object [])

def delete (project domain : String) : Call Unit where
  scope := .only .account
  needs := needs project domain
  exchange := fun c => Client.delete (path c project ++ "/" ++ domain)

end PagesDomain

end EdgeApi.Hosting
