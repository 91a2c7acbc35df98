import EdgeApi.Client.Call

/-!
# Account members

A member is granted access by roles or by policies, never by both in one request.
-/

set_option autoImplicit false

namespace EdgeApi.Account

structure MemberUser where
  id : String
  firstName : Option String
  lastName : Option String
  email : String
  twoFactorAuthenticationEnabled : Bool

namespace MemberUser

def fields := (
  .cons (.required "id" .text id) <|
  .cons (.optional "first_name" .text firstName) <|
  .cons (.optional "last_name" .text lastName) <|
  .cons (.required "email" .text email) <|
  .cons (.lenient "two_factor_authentication_enabled" .bool false twoFactorAuthenticationEnabled)
    .nil : Fields MemberUser _ _)

def codec : Codec MemberUser :=
  .record "AccountMemberUser" fields
    fun (id, firstName, lastName, email, twoFactorAuthenticationEnabled, ()) =>
      { id, firstName, lastName, email, twoFactorAuthenticationEnabled }

end MemberUser

structure Role where
  id : String
  name : String
  description : String
  permissions : List (String × Json)

namespace Role

def fields := (
  .cons (.required "id" .text id) <|
  .cons (.words "name" name) <|
  .cons (.words "description" description) <|
  .cons (.lenient "permissions" .table [] permissions) .nil : Fields Role _ _)

def codec : Codec Role :=
  .record "AccountRole" fields fun (id, name, description, permissions, ()) =>
    { id, name, description, permissions }

def collection : Collection Role where
  scope := .only .account
  path := "/roles"
  codec := codec
  unidentified := .missingResourceId "role id"
  pageSize := 50

def list (options : PageOptions) : Call (List Role × ResultInfo) :=
  collection.list [] options

def get (id : String) : Call Role :=
  collection.get id

end Role

/-- A group of permissions or of resources. -/
structure GroupRef where
  id : String
  name : String

namespace GroupRef

def fields := (
  .cons (.required "id" .text id) <|
  .cons (.label "name" name) .nil : Fields GroupRef _ _)

def codec (title : String) : Codec GroupRef :=
  .record title fields fun (id, name, ()) => { id, name }

def permissions : Codec GroupRef :=
  codec "PermissionGroup"

def resources : Codec GroupRef :=
  codec "ResourceGroup"

end GroupRef

structure MemberPolicy where
  id : String
  access : String
  permissionGroups : List GroupRef
  resourceGroups : List GroupRef

namespace MemberPolicy

def fields := (
  .cons (.label "id" id) <|
  .cons (.required "access" .text access) <|
  .cons (.required "permission_groups" (.list GroupRef.permissions) permissionGroups) <|
  .cons (.required "resource_groups" (.list GroupRef.resources) resourceGroups) .nil :
    Fields MemberPolicy _ _)

def codec : Codec MemberPolicy :=
  .record "MemberPolicy" fields fun (id, access, permissionGroups, resourceGroups, ()) =>
    { id, access, permissionGroups, resourceGroups }

end MemberPolicy

structure Member where
  id : String
  user : MemberUser
  status : String
  roles : List Role
  policies : List MemberPolicy

namespace Member

def fields := (
  .cons (.required "id" .text id) <|
  .cons (.required "user" MemberUser.codec user) <|
  .cons (.words "status" status) <|
  .cons (.items "roles" Role.codec roles) <|
  .cons (.items "policies" MemberPolicy.codec policies) .nil : Fields Member _ _)

def codec : Codec Member :=
  .record "AccountMember" fields fun (id, user, status, roles, policies, ()) =>
    { id, user, status, roles, policies }

def collection : Collection Member where
  scope := .only .account
  path := "/members"
  codec := codec
  unidentified := .missingResourceId "member id"
  pageSize := 50

/-- An invitation to the account. -/
structure Invitation where
  email : String
  /-- Identifiers of roles. -/
  roles : List String
  policies : List MemberPolicy
  status : Option String

def Invitation.body (i : Invitation) : Json :=
  .object <|
    [("email", .text i.email)] ++
    Json.filled "roles" (i.roles.map .text) ++
    Json.filled "policies" (i.policies.map MemberPolicy.codec.encode) ++
    Json.given "status" (i.status.map .text)

/-- Roles and policies must not be given together. -/
def exclusive {α β : Type} (roles : List α) (policies : List β) : Need :=
  ⟨roles.isEmpty || policies.isEmpty, .rolesAndPoliciesExclusive⟩

def list (status : Option String) (options : PageOptions) : Call (List Member × ResultInfo) :=
  collection.list (.opt "status" status) options

def get (id : String) : Call Member :=
  collection.get id

def create (i : Invitation) : Call Member :=
  (collection.create i.body).needing
    [.filled i.email (.missingResourceId "email"), exclusive i.roles i.policies]

/-- Replaces the member with the identifier of the one given. -/
def update (m : Member) : Call Member :=
  (collection.replace m.id (codec.encode m)).needing [exclusive m.roles m.policies]

def delete (id : String) : Call Unit :=
  collection.delete id

end Member

end EdgeApi.Account
