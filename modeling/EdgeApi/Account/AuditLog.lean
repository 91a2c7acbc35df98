import EdgeApi.Client.Call
import EdgeApi.Record.Timestamp

/-!
# Audit logs
-/

set_option autoImplicit false

namespace EdgeApi.Account

structure AuditAction where
  result : Bool
  kind : String

namespace AuditAction

def fields := (
  .cons (.lenient "result" .bool false result) <|
  .cons (.words "type" kind) .nil : Fields AuditAction _ _)

def codec : Codec AuditAction :=
  .record "AuditLogAction" fields fun (result, kind, ()) => { result, kind }

end AuditAction

structure AuditActor where
  id : String
  email : String
  ip : String
  kind : String

namespace AuditActor

def fields := (
  .cons (.words "id" id) <|
  .cons (.words "email" email) <|
  .cons (.words "ip" ip) <|
  .cons (.words "type" kind) .nil : Fields AuditActor _ _)

def codec : Codec AuditActor :=
  .record "AuditLogActor" fields fun (id, email, ip, kind, ()) => { id, email, ip, kind }

end AuditActor

structure AuditOwner where
  id : String

namespace AuditOwner

def fields := (
  .cons (.words "id" id) .nil : Fields AuditOwner _ _)

def codec : Codec AuditOwner :=
  .record "AuditLogOwner" fields fun (id, ()) => { id }

end AuditOwner

structure AuditResource where
  id : String
  kind : String

namespace AuditResource

def fields := (
  .cons (.words "id" id) <|
  .cons (.words "type" kind) .nil : Fields AuditResource _ _)

def codec : Codec AuditResource :=
  .record "AuditLogResource" fields fun (id, kind, ()) => { id, kind }

end AuditResource

structure AuditLog where
  id : String
  action : AuditAction
  actor : AuditActor
  interface : String
  metadata : Option Json
  newValue : String
  oldValue : String
  owner : AuditOwner
  resource : AuditResource
  time : Option Timestamp

namespace AuditLog

def fields := (
  .cons (.required "id" .text id) <|
  .cons (.lenient "action" AuditAction.codec ⟨false, ""⟩ action) <|
  .cons (.lenient "actor" AuditActor.codec ⟨"", "", "", ""⟩ actor) <|
  .cons (.words "interface" interface) <|
  .cons (.optional "metadata" .json metadata) <|
  .cons (.words "newValue" newValue) <|
  .cons (.words "oldValue" oldValue) <|
  .cons (.lenient "owner" AuditOwner.codec ⟨""⟩ owner) <|
  .cons (.lenient "resource" AuditResource.codec ⟨"", ""⟩ resource) <|
  .cons (.optional "when" .timestamp time) .nil : Fields AuditLog _ _)

def codec : Codec AuditLog :=
  .record "AuditLog" fields
    fun (id, action, actor, interface, metadata, newValue, oldValue, owner, resource, time, ()) =>
      { id, action, actor, interface, metadata, newValue, oldValue, owner, resource, time }

/-- Which entries to list; `since` and `before` bound their time. -/
structure Filter where
  id : Option String
  actorIp : Option String
  actorEmail : Option String
  actionKind : Option String
  zoneName : Option String
  direction : Option String
  since : Option Timestamp
  before : Option Timestamp
  hideUserLogs : Option Bool

def Filter.query (f : Filter) : Uri.Query :=
  .opt "id" f.id ++ .opt "actor.ip" f.actorIp ++ .opt "actor.email" f.actorEmail ++
  .opt "action.type" f.actionKind ++ .opt "zone.name" f.zoneName ++
  .opt "direction" f.direction ++ .time "since" f.since ++ .time "before" f.before ++
  .flag "hide_user_logs" f.hideUserLogs

def list (f : Filter) (options : PageOptions) : Call (List AuditLog × ResultInfo) where
  scope := .only .account
  needs := []
  exchange := fun c => Client.listPages codec (c.path ++ "/audit_logs") f.query options 100

end AuditLog

end EdgeApi.Account
