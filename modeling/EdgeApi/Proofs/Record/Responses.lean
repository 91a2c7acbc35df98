import Mathlib.Control.Monad.Basic
import EdgeApi.Operation
import EdgeApi.Proofs.Record.Polymorphic

/-!
# Response types

The types that responses are read as. None of them looks at anything but the members it knows, and
to all of them null is the same as nothing.
-/

set_option autoImplicit false

namespace EdgeApi

open Json

instance : Notice.codec.Shaped :=
  .ofRecord (by delta Notice.fields; infer_instance) (by decide)

instance : Cursors.codec.Shaped :=
  .ofRecord (by delta Cursors.fields; infer_instance) (by decide)

instance : ResultInfo.codec.Shaped :=
  .ofRecord (by delta ResultInfo.fields; infer_instance) (by decide)

instance : BulkOperation.codec.Shaped :=
  .ofRecord (by delta BulkOperation.fields; infer_instance) (by decide)

instance {α : Type} {c : Codec α} [c.Shaped] : (Envelope.codec c).Shaped :=
  .ofRecord (by delta Envelope.fields; infer_instance) <| by
    change ["success", "errors", "messages", "result", "result_info"].Nodup
    decide

namespace Access

instance : Group.codec.Shaped :=
  .ofRecord (by delta Group.fields; infer_instance) (by decide)

instance : ApprovalGroup.codec.Shaped :=
  .ofRecord (by delta ApprovalGroup.fields; infer_instance) (by decide)

instance : Policy.codec.Shaped :=
  .ofRecord (by delta Policy.fields; infer_instance) (by decide)

instance : ScimMappingOperations.codec.Shaped :=
  .ofRecord (by delta ScimMappingOperations.fields; infer_instance) (by decide)

instance : ScimMapping.codec.Shaped :=
  .ofRecord (by delta ScimMapping.fields; infer_instance) (by decide)

instance : ScimConfig.codec.Shaped :=
  .ofRecord (by delta ScimConfig.fields; infer_instance) (by decide)

instance : Application.codec.Shaped :=
  .ofRecord (by delta Application.fields; infer_instance) (by decide)

instance : User.codec.Shaped :=
  .ofRecord (by delta User.fields; infer_instance) (by decide)

instance : ActiveSession.codec.Shaped :=
  .ofRecord (by delta ActiveSession.fields; infer_instance) (by decide)

end Access

namespace Account

instance : AuditAction.codec.Shaped :=
  .ofRecord (by delta AuditAction.fields; infer_instance) (by decide)

instance : AuditActor.codec.Shaped :=
  .ofRecord (by delta AuditActor.fields; infer_instance) (by decide)

instance : AuditOwner.codec.Shaped :=
  .ofRecord (by delta AuditOwner.fields; infer_instance) (by decide)

instance : AuditResource.codec.Shaped :=
  .ofRecord (by delta AuditResource.fields; infer_instance) (by decide)

instance : AuditLog.codec.Shaped :=
  .ofRecord (by delta AuditLog.fields; infer_instance) (by decide)

instance : MemberUser.codec.Shaped :=
  .ofRecord (by delta MemberUser.fields; infer_instance) (by decide)

instance : MemberUser.codec.RefusesNull :=
  .ofRecord

instance : Role.codec.Shaped :=
  .ofRecord (by delta Role.fields; infer_instance) (by decide)

instance : GroupRef.permissions.Shaped :=
  .ofRecord (by delta GroupRef.fields; infer_instance) (by decide)

instance : GroupRef.resources.Shaped :=
  .ofRecord (by delta GroupRef.fields; infer_instance) (by decide)

instance : MemberPolicy.codec.Shaped :=
  .ofRecord (by delta MemberPolicy.fields; infer_instance) (by decide)

instance : Member.codec.Shaped :=
  .ofRecord (by delta Member.fields; infer_instance) (by decide)

end Account

namespace Hosting

instance : PagesDomain.codec.Shaped :=
  .ofRecord (by delta PagesDomain.fields; infer_instance) (by decide)

instance : WorkersDomain.codec.Shaped :=
  .ofRecord (by delta WorkersDomain.fields; infer_instance) (by decide)

end Hosting

namespace Intelligence

instance : Category.codec.Shaped :=
  .ofRecord (by delta Category.fields; infer_instance) (by decide)

instance : DomainDetails.codec.Shaped :=
  .ofRecord (by delta DomainDetails.fields; infer_instance) (by decide)

instance : Categorization.codec.Shaped :=
  .ofRecord (by delta Categorization.fields; infer_instance) (by decide)

instance : DomainHistory.codec.Shaped :=
  .ofRecord (by delta DomainHistory.fields; infer_instance) (by decide)

instance : WhoisRecord.codec.Shaped :=
  .ofRecord (by delta WhoisRecord.fields; infer_instance) (by decide)

instance : AutonomousSystem.codec.Shaped :=
  .ofRecord (by delta AutonomousSystem.fields; infer_instance) (by decide)

instance : IpOverview.codec.Shaped :=
  .ofRecord (by delta IpOverview.fields; infer_instance) (by decide)

end Intelligence

namespace Lists

instance : ItemList.codec.Shaped :=
  .ofRecord (by delta ItemList.fields; infer_instance) (by decide)

instance : OperationRef.codec.Shaped :=
  .ofRecord (by delta OperationRef.fields; infer_instance) (by decide)

end Lists

namespace Storage

instance : Database.codec.Shaped :=
  .ofRecord (by delta Database.fields; infer_instance) (by decide)

instance : QueryMeta.codec.Shaped :=
  .ofRecord (by delta QueryMeta.fields; infer_instance) (by decide)

instance : QueryResult.codec.Shaped :=
  .ofRecord (by delta QueryResult.fields; infer_instance) (by decide)

instance : KvNamespace.codec.Shaped :=
  .ofRecord (by delta KvNamespace.fields; infer_instance) (by decide)

instance : StorageKey.codec.Shaped :=
  .ofRecord (by delta StorageKey.fields; infer_instance) (by decide)

end Storage

namespace Zone

instance : EmailMatcher.codec.Shaped :=
  .ofRecord (by delta EmailMatcher.fields; infer_instance) (by decide)

instance : EmailAction.codec.Shaped :=
  .ofRecord (by delta EmailAction.fields; infer_instance) (by decide)

instance : EmailRule.codec.Shaped :=
  .ofRecord (by delta EmailRule.fields; infer_instance) (by decide)

instance : LockdownTarget.codec.Shaped :=
  .ofRecord (by delta LockdownTarget.fields; infer_instance) (by decide)

instance : Lockdown.codec.Shaped :=
  .ofRecord (by delta Lockdown.fields; infer_instance) (by decide)

instance : TlsSetting.codec.Shaped :=
  .ofRecord (by delta TlsSetting.fields; infer_instance) (by decide)

end Zone

open Access Account Hosting Intelligence EdgeApi.Lists Storage Zone

/-- The types of responses and of the records in them. -/
inductive ResponseType : {α : Type} → Codec α → Type 1 where
  | envelope {α : Type} {c : Codec α} (result : ResponseType c) : ResponseType (Envelope.codec c)
  /-- A result that is a list. -/
  | list {α : Type} {c : Codec α} (items : ResponseType c) : ResponseType (.list c)
  /-- A result of any shape. -/
  | any : ResponseType .json
  /-- A result that is not looked at. -/
  | ignored : ResponseType .ignored
  | notice : ResponseType Notice.codec
  | cursors : ResponseType Cursors.codec
  | resultInfo : ResponseType ResultInfo.codec
  | bulkOperation : ResponseType BulkOperation.codec
  | group : ResponseType Group.codec
  | approvalGroup : ResponseType ApprovalGroup.codec
  | policy : ResponseType Policy.codec
  | httpBasic : ResponseType HttpBasic.codec
  | bearerToken : ResponseType BearerToken.codec
  | oAuth2 : ResponseType OAuth2.codec
  | scimAuthentication : ResponseType ScimAuthentication.codec
  | scimMappingOperations : ResponseType ScimMappingOperations.codec
  | scimMapping : ResponseType ScimMapping.codec
  | scimConfig : ResponseType ScimConfig.codec
  | application : ResponseType Application.codec
  | user : ResponseType User.codec
  | activeSession : ResponseType ActiveSession.codec
  | auditAction : ResponseType AuditAction.codec
  | auditActor : ResponseType AuditActor.codec
  | auditOwner : ResponseType AuditOwner.codec
  | auditResource : ResponseType AuditResource.codec
  | auditLog : ResponseType AuditLog.codec
  | memberUser : ResponseType MemberUser.codec
  | role : ResponseType Role.codec
  | permissionGroup : ResponseType GroupRef.permissions
  | resourceGroup : ResponseType GroupRef.resources
  | memberPolicy : ResponseType MemberPolicy.codec
  | member : ResponseType Member.codec
  | pagesDomain : ResponseType PagesDomain.codec
  | workersDomain : ResponseType WorkersDomain.codec
  | category : ResponseType Category.codec
  | domainDetails : ResponseType DomainDetails.codec
  | categorization : ResponseType Categorization.codec
  | domainHistory : ResponseType DomainHistory.codec
  | whoisRecord : ResponseType WhoisRecord.codec
  | autonomousSystem : ResponseType AutonomousSystem.codec
  | ipOverview : ResponseType IpOverview.codec
  | itemList : ResponseType ItemList.codec
  | redirect : ResponseType Redirect.codec
  | hostname : ResponseType Hostname.codec
  | itemDetails : ResponseType ItemDetails.codec
  | item : ResponseType Item.codec
  | operationRef : ResponseType OperationRef.codec
  | database : ResponseType Database.codec
  | queryMeta : ResponseType QueryMeta.codec
  | queryResult : ResponseType QueryResult.codec
  | kvNamespace : ResponseType KvNamespace.codec
  | storageKey : ResponseType StorageKey.codec
  | emailMatcher : ResponseType EmailMatcher.codec
  | emailAction : ResponseType EmailAction.codec
  | emailRule : ResponseType EmailRule.codec
  | lockdownTarget : ResponseType LockdownTarget.codec
  | lockdown : ResponseType Lockdown.codec
  | tlsSetting : ResponseType TlsSetting.codec

namespace ResponseType

variable {α : Type} {c : Codec α}

/-- Every response type looks at its values as far as a shape goes. -/
@[reducible]
def shaped {α : Type} {c : Codec α} : ResponseType c → c.Shaped
  | .envelope result =>
    have := result.shaped
    inferInstance
  | .list items =>
    have := items.shaped
    inferInstance
  | .any | .ignored | .notice | .cursors | .resultInfo | .bulkOperation | .group | .approvalGroup
  | .policy | .httpBasic | .bearerToken | .oAuth2 | .scimAuthentication | .scimMappingOperations
  | .scimMapping | .scimConfig | .application | .user | .activeSession | .auditAction
  | .auditActor | .auditOwner | .auditResource | .auditLog | .memberUser | .role
  | .permissionGroup | .resourceGroup | .memberPolicy | .member | .pagesDomain | .workersDomain
  | .category | .domainDetails | .categorization | .domainHistory | .whoisRecord
  | .autonomousSystem | .ipOverview | .itemList | .redirect | .hostname | .itemDetails | .item
  | .operationRef | .database | .queryMeta | .queryResult | .kvNamespace | .storageKey
  | .emailMatcher | .emailAction | .emailRule | .lockdownTarget | .lockdown | .tlsSetting =>
    inferInstance

/-- What is looked at in responses of the type. -/
def shape (t : ResponseType c) : Shape :=
  t.shaped.shape

/-- Every response type reads a value as it reads what is left of it without the members that it
does not know and those that are null, whether the value is given or stands in a text. -/
theorem decode_pruned_iff (t : ResponseType c) (j : Json) (a : α) :
    (Source.settled.Holds j →
      (c.decodeJson (j.prune t.shape) = .ok a ↔ c.decodeJson j = .ok a)) ∧
    ∀ bytes bytes', Source.text.Holds j → Document.read bytes = ⟨.ofJson j, false⟩ →
      Document.read bytes' = ⟨.ofJson (j.prune t.shape), false⟩ →
        (c.decodeText bytes' = .ok a ↔ c.decodeText bytes = .ok a) := by
  let _ := t.shaped
  refine ⟨Codec.decode_prune, fun bytes bytes' hHeld hRead hRead' => ?_⟩
  have hText {bytes : List UInt8} {j : Json} (hRead : Document.read bytes = ⟨.ofJson j, false⟩) :
      c.decodeText bytes = .ok a ↔ c.decode .text (.ofJson j) = .ok a := by
    rw [Codec.decodeText, hRead]
    change (c.decode .text (.ofJson j) >>= pure) = _ ↔ _
    rw [bind_pure]
  rw [hText hRead, hText hRead']
  exact Codec.decode_prune hHeld

/-! Cursors with a null and a member of another name. -/

def annotated : Json :=
  .object [("before", .null), ("after", .text "x"), ("note", .bool true)]

theorem holds_annotated : Source.text.Holds annotated := by
  refine .object rfl (by decide) ?_
  simp only [List.forall_mem_cons]
  exact ⟨.null, .text "x", .bool true, List.forall_mem_nil _⟩

theorem decode_pruned_iff_annotated :
    Cursors.codec.decodeJson annotated = .ok ⟨"", "x"⟩ ∧
      Cursors.codec.decodeText
        (Text.Utf8.encode "\x7b\"before\":null,\"after\":\"x\",\"note\":true\x7d") =
          .ok ⟨"", "x"⟩ := by
  obtain ⟨hJson, hText⟩ := decode_pruned_iff .cursors annotated ⟨"", "x"⟩
  have hRead : Document.read
      (Text.Utf8.encode "\x7b\"before\":null,\"after\":\"x\",\"note\":true\x7d") =
        ⟨.ofJson annotated, false⟩ := by
    decide +kernel
  have hPruned : annotated.prune (shape .cursors) = .object [("after", .text "x")] := rfl
  have hRead' : Document.read (Text.Utf8.encode "\x7b\"after\":\"x\"\x7d") =
      ⟨.ofJson (annotated.prune (shape .cursors)), false⟩ := by
    rw [hPruned]
    decide +kernel
  exact ⟨(hJson holds_annotated.toSettled).mp rfl,
    (hText _ _ holds_annotated hRead hRead').mp (by decide +kernel)⟩

end ResponseType

end EdgeApi
