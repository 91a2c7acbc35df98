import EdgeApi.Client.Call
import EdgeApi.Record.Timestamp

/-!
# Access policies

A policy belongs to one application, or it is reusable and belongs to the account.
-/

set_option autoImplicit false

namespace EdgeApi.Access

structure ApprovalGroup where
  emailListUuid : List String
  emailAddresses : List String
  approvalsNeeded : UInt32

namespace ApprovalGroup

def fields := (
  .cons (.filled "email_list_uuid" .text emailListUuid) <|
  .cons (.filled "email_addresses" .text emailAddresses) <|
  .cons (.required "approvals_needed" .uint32 approvalsNeeded) .nil : Fields ApprovalGroup _ _)

def codec : Codec ApprovalGroup :=
  .record "AccessApprovalGroup" fields fun (emailListUuid, emailAddresses, approvalsNeeded, ()) =>
    { emailListUuid, emailAddresses, approvalsNeeded }

end ApprovalGroup

structure Policy where
  id : String
  precedence : Option Int32
  decision : String
  name : String
  includes : List Json
  excludes : List Json
  requires : List Json
  sessionDuration : Option String
  approvalRequired : Option Bool
  approvalGroups : List ApprovalGroup
  purposeJustificationRequired : Option Bool
  isolationRequired : Option Bool
  reusable : Option Bool
  createdAt : Option Timestamp
  updatedAt : Option Timestamp

namespace Policy

def fields := (
  .cons (.label "id" id) <|
  .cons (.given "precedence" .int32 precedence) <|
  .cons (.required "decision" .text decision) <|
  .cons (.required "name" .text name) <|
  .cons (.items "include" .json includes) <|
  .cons (.items "exclude" .json excludes) <|
  .cons (.items "require" .json requires) <|
  .cons (.given "session_duration" .text sessionDuration) <|
  .cons (.given "approval_required" .bool approvalRequired) <|
  .cons (.filled "approval_groups" ApprovalGroup.codec approvalGroups) <|
  .cons (.given "purpose_justification_required" .bool purposeJustificationRequired) <|
  .cons (.given "isolation_required" .bool isolationRequired) <|
  .cons (.given "reusable" .bool reusable) <|
  .cons (.given "created_at" .timestamp createdAt) <|
  .cons (.given "updated_at" .timestamp updatedAt) .nil : Fields Policy _ _)

def codec : Codec Policy :=
  .record "AccessPolicy" fields
    fun (id, precedence, decision, name, includes, excludes, requires, sessionDuration,
        approvalRequired, approvalGroups, purposeJustificationRequired, isolationRequired, reusable,
        createdAt, updatedAt, ()) =>
      { id, precedence, decision, name, includes, excludes, requires, sessionDuration,
        approvalRequired, approvalGroups, purposeJustificationRequired, isolationRequired, reusable,
        createdAt, updatedAt }

/-- The policies of an application; of no application, the reusable policies of the account. -/
def collection (application : String) : Collection Policy where
  scope := if application.isEmpty then .only .account else .either
  path := if application.isEmpty then "/access/policies"
    else "/access/apps/" ++ application ++ "/policies"
  codec := codec
  unidentified := .missingResourceId "policy id"
  pageSize := 25

/-- What a caller says about a policy. -/
structure Draft where
  name : String
  decision : String
  precedence : Option Int32
  includes : List Json
  excludes : List Json
  requires : List Json
  sessionDuration : Option String
  approvalRequired : Option Bool
  approvalGroups : List ApprovalGroup
  purposeJustificationRequired : Option Bool
  isolationRequired : Option Bool

def Draft.body (d : Draft) : Json :=
  .object <|
    [("name", .text d.name), ("decision", .text d.decision)] ++
    Json.given "precedence" (d.precedence.map Json.ofInt32) ++
    [("include", .list d.includes)] ++
    Json.filled "exclude" d.excludes ++
    Json.filled "require" d.requires ++
    Json.given "session_duration" (d.sessionDuration.map .text) ++
    Json.given "approval_required" (d.approvalRequired.map .bool) ++
    Json.filled "approval_groups" (d.approvalGroups.map ApprovalGroup.codec.encode) ++
    Json.given "purpose_justification_required" (d.purposeJustificationRequired.map .bool) ++
    Json.given "isolation_required" (d.isolationRequired.map .bool)

def list (application : String) (options : PageOptions) : Call (List Policy × ResultInfo) :=
  (collection application).list [] options

def get (application id : String) : Call Policy :=
  (collection application).get id

def create (application : String) (d : Draft) : Call Policy :=
  (collection application).create d.body

def update (application id : String) (d : Draft) : Call Policy :=
  (collection application).replace id d.body

def delete (application id : String) : Call Unit :=
  (collection application).delete id

end Policy

end EdgeApi.Access
