import EdgeApi.Level
import EdgeApi.Proofs.Record.Responses
import EdgeApi.Proofs.Record.RoundTrip
import EdgeApi.Proofs.Record.Stable

/-!
# Stored types

The types that are both read and written. Whatever is read as one of them, from a text or from a
value, can be written and read again without a change.
-/

set_option autoImplicit false

namespace EdgeApi

instance : Notice.codec.Stable :=
  .ofRecord (by delta Notice.fields; infer_instance) (by decide) fun _ => rfl

instance : Cursors.codec.Stable :=
  .ofRecord (by delta Cursors.fields; infer_instance) (by decide) fun _ => rfl

instance : Cursors.codec.Restores {} :=
  Codec.Stable.restores_empty rfl

instance : ResultInfo.codec.Stable :=
  .ofRecord (by delta ResultInfo.fields; infer_instance) (by decide) fun _ => rfl

instance : BulkOperation.codec.Stable :=
  .ofRecord (by delta BulkOperation.fields; infer_instance) (by decide) fun _ => rfl

instance : Level.codec.RefusesNull :=
  inferInstanceAs (Codec.variant _ _).RefusesNull

instance : Level.codec.Shaped :=
  inferInstanceAs (Codec.variant _ _).Shaped

instance : Level.codec.Stable :=
  have : Level.codec.Faithful := .ofVariant fun l => by cases l <;> decide
  inferInstance

instance {α : Type} {c : Codec α} [c.Stable] : (Envelope.codec c).Stable :=
  .ofRecord (by delta Envelope.fields; infer_instance)
    (by change ["success", "errors", "messages", "result", "result_info"].Nodup; decide)
    fun _ => rfl

namespace Access

instance : Group.codec.Stable :=
  .ofRecord (by delta Group.fields; infer_instance) (by decide) fun _ => rfl

instance : ApprovalGroup.codec.Stable :=
  .ofRecord (by delta ApprovalGroup.fields; infer_instance) (by decide) fun _ => rfl

instance : Policy.codec.Stable :=
  .ofRecord (by delta Policy.fields; infer_instance) (by decide) fun _ => rfl

instance : HttpBasic.codec.Stable :=
  .ofRecord (by delta HttpBasic.fields; infer_instance) (by decide) fun _ => rfl

instance : BearerToken.codec.Stable :=
  .ofRecord (by delta BearerToken.fields; infer_instance) (by decide) fun _ => rfl

instance : OAuth2.codec.Stable :=
  .ofRecord (by delta OAuth2.fields; infer_instance) (by decide) fun _ => rfl

instance : ScimAuthentication.codec.Faithful :=
  ⟨ScimAuthentication.holds_encode, ScimAuthentication.decode_encode⟩

instance : ScimAuthentication.codec.RefusesNull := ⟨nofun⟩

instance : ScimMappingOperations.codec.Stable :=
  .ofRecord (by delta ScimMappingOperations.fields; infer_instance) (by decide) fun _ => rfl

instance : ScimMapping.codec.Stable :=
  .ofRecord (by delta ScimMapping.fields; infer_instance) (by decide) fun _ => rfl

instance : ScimConfig.codec.Stable :=
  .ofRecord (by delta ScimConfig.fields; infer_instance) (by decide) fun _ => rfl

instance : Application.codec.Stable :=
  .ofRecord (by delta Application.fields; infer_instance) (by decide) fun _ => rfl

instance : User.codec.Stable :=
  .ofRecord (by delta User.fields; infer_instance) (by decide) fun _ => rfl

instance : ActiveSession.codec.Stable :=
  .ofRecord (by delta ActiveSession.fields; infer_instance) (by decide) fun _ => rfl

end Access

namespace Account

instance : AuditAction.codec.Stable :=
  .ofRecord (by delta AuditAction.fields; infer_instance) (by decide) fun _ => rfl

instance : AuditAction.codec.Restores ⟨false, ""⟩ :=
  Codec.Stable.restores_empty rfl

instance : AuditActor.codec.Stable :=
  .ofRecord (by delta AuditActor.fields; infer_instance) (by decide) fun _ => rfl

instance : AuditActor.codec.Restores ⟨"", "", "", ""⟩ :=
  Codec.Stable.restores_empty rfl

instance : AuditOwner.codec.Stable :=
  .ofRecord (by delta AuditOwner.fields; infer_instance) (by decide) fun _ => rfl

instance : AuditOwner.codec.Restores ⟨""⟩ :=
  Codec.Stable.restores_empty rfl

instance : AuditResource.codec.Stable :=
  .ofRecord (by delta AuditResource.fields; infer_instance) (by decide) fun _ => rfl

instance : AuditResource.codec.Restores ⟨"", ""⟩ :=
  Codec.Stable.restores_empty rfl

instance : AuditLog.codec.Stable :=
  .ofRecord (by delta AuditLog.fields; infer_instance) (by decide) fun _ => rfl

instance : MemberUser.codec.Stable :=
  .ofRecord (by delta MemberUser.fields; infer_instance) (by decide) fun _ => rfl

instance : Role.codec.Stable :=
  .ofRecord (by delta Role.fields; infer_instance) (by decide) fun _ => rfl

instance : GroupRef.permissions.Stable :=
  .ofRecord (by delta GroupRef.fields; infer_instance) (by decide) fun _ => rfl

instance : GroupRef.resources.Stable :=
  .ofRecord (by delta GroupRef.fields; infer_instance) (by decide) fun _ => rfl

instance : MemberPolicy.codec.Stable :=
  .ofRecord (by delta MemberPolicy.fields; infer_instance) (by decide) fun _ => rfl

instance : Member.codec.Stable :=
  .ofRecord (by delta Member.fields; infer_instance) (by decide) fun _ => rfl

end Account

namespace Hosting

instance : PagesDomain.codec.Stable :=
  .ofRecord (by delta PagesDomain.fields; infer_instance) (by decide) fun _ => rfl

instance : WorkersDomain.codec.Stable :=
  .ofRecord (by delta WorkersDomain.fields; infer_instance) (by decide) fun _ => rfl

end Hosting

namespace Intelligence

instance : Category.codec.Stable :=
  .ofRecord (by delta Category.fields; infer_instance) (by decide) fun _ => rfl

instance : DomainDetails.codec.Stable :=
  .ofRecord (by delta DomainDetails.fields; infer_instance) (by decide) fun _ => rfl

instance : Categorization.codec.Stable :=
  .ofRecord (by delta Categorization.fields; infer_instance) (by decide) fun _ => rfl

instance : DomainHistory.codec.Stable :=
  .ofRecord (by delta DomainHistory.fields; infer_instance) (by decide) fun _ => rfl

instance : WhoisRecord.codec.Stable :=
  .ofRecord (by delta WhoisRecord.fields; infer_instance) (by decide) fun _ => rfl

instance : AutonomousSystem.codec.Stable :=
  .ofRecord (by delta AutonomousSystem.fields; infer_instance) (by decide) fun _ => rfl

instance : IpOverview.codec.Stable :=
  .ofRecord (by delta IpOverview.fields; infer_instance) (by decide) fun _ => rfl

end Intelligence

namespace Lists

instance : Kind.codec.Stable :=
  have : Kind.codec.Faithful := .ofVariant fun k => by cases k <;> decide
  inferInstance

instance : Item.codec.Faithful := ⟨Item.holds_encode, Item.decode_encode⟩

instance : Item.codec.RefusesNull := ⟨nofun⟩

instance : Redirect.codec.Stable :=
  .ofRecord (by delta Redirect.fields; infer_instance) (by decide) fun _ => rfl

instance : Hostname.codec.Stable :=
  .ofRecord (by delta Hostname.fields; infer_instance) (by decide) fun _ => rfl

instance : ItemDetails.codec.Stable :=
  .ofRecord (by delta ItemDetails.fields; infer_instance) (by decide) fun _ => rfl

instance : ItemList.codec.Stable :=
  .ofRecord (by delta ItemList.fields; infer_instance) (by decide) fun _ => rfl

instance : OperationRef.codec.Stable :=
  .ofRecord (by delta OperationRef.fields; infer_instance) (by decide) fun _ => rfl

end Lists

namespace Storage

instance : Database.codec.Stable :=
  .ofRecord (by delta Database.fields; infer_instance) (by decide) fun _ => rfl

instance : QueryMeta.codec.Stable :=
  .ofRecord (by delta QueryMeta.fields; infer_instance) (by decide) fun _ => rfl

instance : QueryMeta.codec.Restores .zero :=
  Codec.Stable.restores_empty rfl

instance : QueryResult.codec.Stable :=
  .ofRecord (by delta QueryResult.fields; infer_instance) (by decide) fun _ => rfl

instance : KvNamespace.codec.Stable :=
  .ofRecord (by delta KvNamespace.fields; infer_instance) (by decide) fun _ => rfl

instance : StorageKey.codec.Stable :=
  .ofRecord (by delta StorageKey.fields; infer_instance) (by decide) fun _ => rfl

end Storage

namespace Zone

instance : EmailMatcher.codec.Stable :=
  .ofRecord (by delta EmailMatcher.fields; infer_instance) (by decide) fun _ => rfl

instance : EmailAction.codec.Stable :=
  .ofRecord (by delta EmailAction.fields; infer_instance) (by decide) fun _ => rfl

instance : EmailRule.codec.Stable :=
  .ofRecord (by delta EmailRule.fields; infer_instance) (by decide) fun _ => rfl

instance : LockdownTarget.codec.Stable :=
  .ofRecord (by delta LockdownTarget.fields; infer_instance) (by decide) fun _ => rfl

instance : Lockdown.codec.Stable :=
  .ofRecord (by delta Lockdown.fields; infer_instance) (by decide) fun _ => rfl

instance : TlsSetting.codec.Stable :=
  .ofRecord (by delta TlsSetting.fields; infer_instance) (by decide) fun _ => rfl

end Zone

/-- Whether a result of the type is kept, so that it can be written. -/
def ResponseType.isKept {α : Type} {c : Codec α} : ResponseType c → Bool
  | .envelope result => result.isKept
  | .list items => items.isKept
  | .ignored => false
  | _ => true

theorem ResponseType.stable {α : Type} {c : Codec α} :
    ∀ t : ResponseType c, t.isKept = true → c.Stable
  | .envelope result, h =>
    have := result.stable h
    inferInstance
  | .list items, h =>
    have := items.stable h
    inferInstance
  | .ignored, h => nomatch h
  | .any, _ | .notice, _ | .cursors, _ | .resultInfo, _ | .bulkOperation, _ | .group, _
  | .approvalGroup, _ | .policy, _ | .httpBasic, _ | .bearerToken, _ | .oAuth2, _
  | .scimAuthentication, _ | .scimMappingOperations, _ | .scimMapping, _ | .scimConfig, _
  | .application, _ | .user, _ | .activeSession, _ | .auditAction, _ | .auditActor, _
  | .auditOwner, _ | .auditResource, _ | .auditLog, _ | .memberUser, _ | .role, _
  | .permissionGroup, _ | .resourceGroup, _ | .memberPolicy, _ | .member, _ | .pagesDomain, _
  | .workersDomain, _ | .category, _ | .domainDetails, _ | .categorization, _
  | .domainHistory, _ | .whoisRecord, _ | .autonomousSystem, _ | .ipOverview, _ | .itemList, _
  | .redirect, _ | .hostname, _ | .itemDetails, _ | .item, _ | .operationRef, _ | .database, _
  | .queryMeta, _ | .queryResult, _ | .kvNamespace, _ | .storageKey, _ | .emailMatcher, _
  | .emailAction, _ | .emailRule, _ | .lockdownTarget, _ | .lockdown, _ | .tlsSetting, _ =>
    inferInstance

/-- The types of values that are read and written. -/
inductive StoredType : {α : Type} → Codec α → Type 1 where
  | response {α : Type} {c : Codec α} (t : ResponseType c) (kept : t.isKept = true) : StoredType c
  | kind : StoredType Lists.Kind.codec
  | level : StoredType Level.codec

namespace StoredType

variable {α : Type} {c : Codec α}

theorem stable : StoredType c → c.Stable
  | .response t kept => t.stable kept
  | .kind => inferInstance
  | .level => inferInstance

@[reducible]
def shaped : StoredType c → c.Shaped
  | .response t _ => t.shaped
  | .kind => inferInstance
  | .level => inferInstance

/-- Whatever is read as a value of a stored type, from a value or from a text, is written so that it
is read again as the same, also once the members written are sorted. -/
theorem decode_encode_of_decode (t : StoredType c) {a : α}
    (h : (∃ j, c.decodeJson j = .ok a) ∨ ∃ bytes, c.decodeText bytes = .ok a) :
    c.decodeJson (c.encode a) = .ok a ∧ c.decodeJson (c.encode a).sorted = .ok a := by
  have hStable := t.stable
  have hShaped := t.shaped
  have hRestores : c.Restores a := by
    rcases h with ⟨j, hRead⟩ | ⟨bytes, hRead⟩
    · exact Codec.Stable.restores hRead
    · obtain ⟨b, hRoot, hEnd⟩ := except_bind_eq_ok.mp hRead
      split at hEnd
      · cases hEnd
      · cases hEnd
        exact Codec.Stable.restores hRoot
  exact ⟨hRestores.decode_encode, (Codec.decode_sorted hRestores.holds).mpr hRestores.decode_encode⟩

/-! A role with null for its description and a table of permissions that is not in order. -/

def auditor : Json :=
  .object [("description", .null), ("id", .text "r"),
    ("permissions", .object [("zone", .object [("read", .bool true)]), ("billing", .null)])]

theorem decode_encode_of_decode_auditor :
    ∃ role, Account.Role.codec.decodeJson auditor = .ok role ∧
      role.permissions.map Prod.fst = ["billing", "zone"] ∧
      Account.Role.codec.decodeJson (Account.Role.codec.encode role) = .ok role := by
  have hRead : Account.Role.codec.decodeJson auditor = .ok ⟨"r", "", "",
      [("billing", .null), ("zone", .object [("read", .bool true)])]⟩ :=
    rfl
  exact ⟨_, hRead, rfl, (decode_encode_of_decode (.response .role rfl) (.inl ⟨_, hRead⟩)).1⟩

end StoredType

end EdgeApi
