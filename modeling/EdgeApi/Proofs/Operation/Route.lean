import EdgeApi.Operation
import EdgeApi.Proofs.Client.Guard

/-!
# Routes

The paths of operations, made up of fixed texts and identifiers, and the levels that operations are
for. What speaks against a call can be read off them; its guard finds the same.
-/

set_option autoImplicit false

namespace EdgeApi

open Access Account Hosting Intelligence EdgeApi.Lists Storage Zone

/-- A part of a path: a text, or an identifier with the error if it is empty. -/
inductive Piece where
  | fixed (text : String)
  | named (id : String) (otherwise : Error)
  /-- An identifier that is percent-encoded. -/
  | encoded (key : String) (otherwise : Error)

namespace Piece

def extend (path : String) : Piece → String
  | fixed text => path ++ text
  | named id _ => path ++ "/" ++ id
  | encoded key _ => path ++ "/" ++ Uri.segment key

def fault : Piece → Option Error
  | fixed _ => none
  | named value otherwise | encoded value otherwise =>
    if value.isEmpty then some otherwise else none

/-- The piece is not an identifier that leaves its segment of the path empty. -/
def Filled : Piece → Prop
  | fixed _ => True
  | named id _ => id ≠ ""
  | encoded key _ => Uri.segment key ≠ ""

end Piece

theorem Uri.segment_ne_empty {s : String} (hs : s ≠ "") : segment s ≠ "" := by
  have hChar : ∀ c : Char, Text.Utf8.encodeChar c ≠ [] := by
    intro c
    unfold Text.Utf8.encodeChar
    dsimp only
    repeat' split
    all_goals exact List.cons_ne_nil _ _
  have hByte : ∀ b : UInt8,
      (if isUnreserved b then [Char.ofNat b.toNat] else percentByte b) ≠ [] := by
    intro b
    split <;> exact List.cons_ne_nil _ _
  intro hSegment
  have hEncoded : percentEncode isUnreserved (Text.Utf8.encode s) = [] := by
    simpa [segment] using hSegment
  rcases hChars : s.toList with _ | ⟨c, cs⟩
  · exact hs (String.toList_eq_nil_iff.mp hChars)
  · rw [Text.Utf8.encode, hChars, List.flatMap_cons] at hEncoded
    rcases hBytes : Text.Utf8.encodeChar c with _ | ⟨b, bs⟩
    · exact hChar c hBytes
    · rw [hBytes, percentEncode, List.cons_append, List.flatMap_cons] at hEncoded
      exact hByte b (List.append_eq_nil_iff.mp hEncoded).1

namespace Piece

theorem filled_of_fault {piece : Piece} (h : piece.fault = none) : piece.Filled := by
  cases piece with
  | fixed text => trivial
  | named id otherwise =>
    rintro rfl
    cases h
  | encoded key otherwise =>
    apply Uri.segment_ne_empty
    rintro rfl
    cases h

def isGuarded : Piece → Bool
  | fixed _ => true
  | named _ otherwise | encoded _ otherwise => otherwise.isPrecondition

theorem isPrecondition_of_fault {piece : Piece} {e : Error} (hGuarded : piece.isGuarded = true)
    (h : piece.fault = some e) : e.isPrecondition = true := by
  cases piece with
  | fixed text => cases h
  | named value otherwise | encoded value otherwise =>
    rw [fault] at h
    split at h <;> cases h
    exact hGuarded

def need? : Piece → Option Need
  | fixed _ => none
  | named value otherwise | encoded value otherwise => some (.filled value otherwise)

end Piece

abbrev Route := List Piece

namespace Route

def path (c : Container) (route : Route) : String :=
  route.foldl Piece.extend c.path

/-- The error of the first identifier that is empty. -/
def fault (route : Route) : Option Error :=
  route.findSome? Piece.fault

theorem fault_append (route more : Route) : fault (route ++ more) = route.fault.or more.fault :=
  List.findSome?_append

def needs (route : Route) : List Need :=
  route.filterMap Piece.need?

theorem checkAll_needs {route : Route} {e : Error} (h : route.fault = some e) (rest : List Need) :
    Need.checkAll (route.needs ++ rest) = .error e := by
  induction route with
  | nil => cases h
  | cons piece route ih =>
    rw [fault, List.findSome?_cons] at h
    cases piece with
    | fixed text => exact ih h
    | named value otherwise | encoded value otherwise =>
      change (if !value.isEmpty then Need.checkAll (needs route ++ rest) else .error otherwise) = _
      rw [Piece.fault] at h
      cases hValue : value.isEmpty with
      | true =>
        rw [hValue] at h
        cases h
        rfl
      | false =>
        rw [hValue] at h
        exact ih h

end Route

def Lists.Change.route (id : String) : Route :=
  [.fixed "/rules/lists", .fixed "/bulk_operations",
    .named id (.missingResourceId "operation id")]

namespace Operation

variable {α : Type}

/-- Every operation but a raw request has a container and a route. -/
def isTyped : Operation α → Bool
  | raw .. => false
  | _ => true

def levels : Operation α → List Level
  | raw .. | listGroups .. | getGroup .. | createGroup .. | updateGroup .. | deleteGroup ..
  | listApplications .. | getApplication .. | createApplication .. | updateApplication ..
  | deleteApplication .. => [.account, .zone]
  | listPolicies application _ | getPolicy application _ | createPolicy application _
  | updatePolicy application _ _ | deletePolicy application _ =>
    if application.isEmpty then [.account] else [.account, .zone]
  | listEmailRules .. | getEmailRule .. | createEmailRule .. | updateEmailRule ..
  | deleteEmailRule .. | getCatchAllRule | updateCatchAllRule .. | listTlsSettings ..
  | updateTlsSetting .. | deleteTlsSetting .. | listLockdowns .. | getLockdown ..
  | createLockdown .. | updateLockdown .. | deleteLockdown .. => [.zone]
  | _ => [.account]

def policies (application : String) : Route :=
  if application.isEmpty then [.fixed "/access/policies"]
  else
    [.fixed "/access/apps", .named application (.missingResourceId "application id"),
      .fixed "/policies"]

def route : Operation α → Route
  | raw .. => []
  | listGroups .. | createGroup .. => [.fixed "/access/groups"]
  | getGroup id | updateGroup id _ | deleteGroup id =>
    [.fixed "/access/groups", .named id (.missingResourceId "access group id")]
  | listPolicies application _ | createPolicy application _ => policies application
  | getPolicy application id | updatePolicy application id _ | deletePolicy application id =>
    policies application ++ [.named id (.missingResourceId "policy id")]
  | listApplications .. | createApplication .. => [.fixed "/access/apps"]
  | getApplication id | deleteApplication id =>
    [.fixed "/access/apps", .named id (.missingResourceId "application id")]
  | updateApplication application =>
    [.fixed "/access/apps", .named application.id (.missingResourceId "application id")]
  | listUsers .. => [.fixed "/access/users"]
  | listActiveSessions user =>
    [.fixed "/access/users", .named user (.missingResourceId "user id"),
      .fixed "/active_sessions"]
  | listMembers .. | createMember .. => [.fixed "/members"]
  | getMember id | deleteMember id =>
    [.fixed "/members", .named id (.missingResourceId "member id")]
  | updateMember member =>
    [.fixed "/members", .named member.id (.missingResourceId "member id")]
  | listRoles .. => [.fixed "/roles"]
  | getRole id => [.fixed "/roles", .named id (.missingResourceId "role id")]
  | listAuditLogs .. => [.fixed "/audit_logs"]
  | listDatabases .. | createDatabase .. => [.fixed "/d1/database"]
  | getDatabase id | deleteDatabase id => [.fixed "/d1/database", .named id .missingDatabaseId]
  | queryDatabase id _ _ =>
    [.fixed "/d1/database", .named id .missingDatabaseId, .fixed "/query"]
  | listEmailRules .. | createEmailRule .. => [.fixed "/email/routing/rules"]
  | getEmailRule tag | deleteEmailRule tag =>
    [.fixed "/email/routing/rules", .named tag .missingRuleId]
  | updateEmailRule rule => [.fixed "/email/routing/rules", .named rule.tag .missingRuleId]
  | getCatchAllRule | updateCatchAllRule .. =>
    [.fixed "/email/routing/rules", .fixed "/", .fixed "catch_all"]
  | listTlsSettings setting _ _ =>
    [.fixed "/hostnames/settings", .named setting .missingTlsSettingName]
  | updateTlsSetting setting hostname _ | deleteTlsSetting setting hostname =>
    [.fixed "/hostnames/settings", .named setting .missingTlsSettingName,
      .named hostname .missingHostname]
  | domainDetails .. => [.fixed "/intel/", .fixed "domain"]
  | domainDetailsOfAll .. => [.fixed "/intel/", .fixed "domain/bulk"]
  | domainHistory .. => [.fixed "/intel/", .fixed "domain-history"]
  | whois .. => [.fixed "/intel/", .fixed "whois"]
  | ipOverview .. => [.fixed "/intel/", .fixed "ip"]
  | listLists .. | createList .. => [.fixed "/rules/lists"]
  | getList id | updateList id _ | deleteList id =>
    [.fixed "/rules/lists", .named id .missingListId]
  | listItems list _ _ _ | startChange list _ | applyChange list _ =>
    [.fixed "/rules/lists", .named list .missingListId, .fixed "/items"]
  | getItem list item =>
    [.fixed "/rules/lists", .named list .missingListId, .fixed "/items",
      .named item (.missingResourceId "item id")]
  | getChange id | pollChange id => Change.route id
  | listPagesDomains project | addPagesDomain project _ =>
    [.fixed "/pages/projects", .named project .missingProjectName, .fixed "/domains"]
  | getPagesDomain project domain | patchPagesDomain project domain
  | deletePagesDomain project domain =>
    [.fixed "/pages/projects", .named project .missingProjectName, .fixed "/domains",
      .named domain .missingDomain]
  | listWorkersDomains .. | attachWorkersDomain .. => [.fixed "/workers/domains"]
  | getWorkersDomain id | detachWorkersDomain id =>
    [.fixed "/workers/domains", .named id (.missingResourceId "domain id")]
  | listNamespaces .. | createNamespace .. => [.fixed "/storage/kv/namespaces"]
  | renameNamespace id _ | deleteNamespace id =>
    [.fixed "/storage/kv/namespaces", .named id (.missingResourceId "namespace id")]
  | listKeys ns _ _ _ =>
    [.fixed "/storage/kv/namespaces", .named ns (.missingResourceId "namespace id"),
      .fixed "/keys"]
  | writeEntries ns _ =>
    [.fixed "/storage/kv/namespaces", .named ns (.missingResourceId "namespace id"),
      .fixed "/bulk"]
  | readValue ns key | writeValue ns key _ | deleteValue ns key =>
    [.fixed "/storage/kv/namespaces", .named ns (.missingResourceId "namespace id"),
      .fixed "/values", .encoded key (.missingResourceId "key name")]
  | listLockdowns .. | createLockdown .. => [.fixed "/firewall/lockdowns"]
  | getLockdown id | deleteLockdown id =>
    [.fixed "/firewall/lockdowns", .named id .missingRuleId]
  | updateLockdown lockdown => [.fixed "/firewall/lockdowns", .named lockdown.id .missingRuleId]

/-- What speaks against the operation before anything is sent. -/
def refusal (op : Operation α) (c : Container) : Option Error :=
  if c.level ∉ op.levels then some (.unsupportedContainer c.level)
  else if c.id.isEmpty then
    match c.level with
    | .account => some .missingAccountId
    | .zone => some .missingZoneId
  else op.route.fault

/-! ## Paths -/

theorem append_joined (path text rest : String) {joined : String} (h : text ++ rest = joined) :
    path ++ text ++ rest = path ++ joined := by
  rw [String.append_assoc, h]

theorem policies_path (application : String) (c : Container) :
    (policies application).path c = (Policy.collection application).pathIn c := by
  unfold policies Collection.pathIn Policy.collection
  cases application.isEmpty with
  | true => rfl
  | false =>
    change c.path ++ "/access/apps" ++ "/" ++ application ++ "/policies" =
      c.path ++ ("/access/apps/" ++ application ++ "/policies")
    rw [append_joined _ "/access/apps" "/" rfl]
    simp only [String.append_assoc]
    rfl

theorem policy_path (application id : String) (c : Container) :
    Route.path c (policies application ++ [.named id (.missingResourceId "policy id")]) =
      (Policy.collection application).memberPath c id := by
  rw [Route.path, List.foldl_append, ← Route.path, policies_path]
  rfl

theorem setting_path (setting : String) (c : Container) :
    Route.path c [.fixed "/hostnames/settings", .named setting .missingTlsSettingName] =
      (TlsSetting.collection setting).pathIn c := by
  change c.path ++ "/hostnames/settings" ++ "/" ++ setting =
    c.path ++ ("/hostnames/settings/" ++ setting)
  rw [append_joined _ "/hostnames/settings" "/" rfl, String.append_assoc]
  rfl

theorem value_path (ns key : String) (c : Container) :
    Route.path c
        [.fixed "/storage/kv/namespaces", .named ns (.missingResourceId "namespace id"),
          .fixed "/values", .encoded key (.missingResourceId "key name")] =
      KvValue.path c ns key :=
  congrArg (· ++ Uri.segment key)
    (append_joined (KvNamespace.collection.memberPath c ns) "/values" "/" rfl)

theorem domains_path (project : String) (c : Container) :
    Route.path c
        [.fixed "/pages/projects", .named project .missingProjectName, .fixed "/domains"] =
      PagesDomain.path c project :=
  congrArg (· ++ project ++ "/domains") (append_joined c.path "/pages/projects" "/" rfl)

theorem domain_path (project domain : String) (c : Container) :
    Route.path c
        [.fixed "/pages/projects", .named project .missingProjectName, .fixed "/domains",
          .named domain .missingDomain] =
      PagesDomain.path c project ++ "/" ++ domain :=
  congrArg (· ++ "/" ++ domain) (domains_path project c)

theorem setting_member_path (setting hostname : String) (c : Container) :
    Route.path c
        [.fixed "/hostnames/settings", .named setting .missingTlsSettingName,
          .named hostname .missingHostname] =
      (TlsSetting.collection setting).memberPath c hostname :=
  congrArg (· ++ "/" ++ hostname) (setting_path setting c)

/-! ## Refusals -/

theorem policies_fault (application : String) : (policies application).fault = none := by
  by_cases hApplication : application = ""
  · subst hApplication
    rfl
  · simp [policies, Route.fault, Piece.fault, hApplication]

theorem checkAll_of_fault {op : Operation α} {e : Error} (h : op.route.fault = some e) :
    Need.checkAll op.call.needs = .error e := by
  cases op with
  | listPolicies application | createPolicy application =>
    change (policies application).fault = some e at h
    rw [policies_fault] at h
    cases h
  | getPolicy application id | updatePolicy application id | deletePolicy application id =>
    have hId : Route.fault [.named id (.missingResourceId "policy id")] = some e := by
      rw [route, Route.fault_append, policies_fault] at h
      exact h
    exact Route.checkAll_needs hId []
  | _ => exact Route.checkAll_needs h _

theorem check_scope {op : Operation α} (hTyped : op.isTyped = true) (c : Container) :
    op.call.scope.check c =
      if c.level ∈ op.levels then c.validate else .error (.unsupportedContainer c.level) := by
  have hOnly : ∀ level, Scope.check (.only level) c =
      if c.level ∈ [level] then c.validate else .error (.unsupportedContainer c.level) := by
    intro level
    simp only [List.mem_singleton]
    rfl
  have hEither : Scope.check .either c =
      if c.level ∈ [Level.account, .zone] then c.validate
      else .error (.unsupportedContainer c.level) := by
    rw [if_pos (by cases c.level <;> decide)]
    rfl
  have hPolicies : ∀ application : String,
      Scope.check (if application.isEmpty then .only .account else .either) c =
        if c.level ∈ (if application.isEmpty then [Level.account] else [.account, .zone]) then
          c.validate
        else .error (.unsupportedContainer c.level) := by
    intro application
    cases application.isEmpty with
    | true => exact hOnly .account
    | false => exact hEither
  cases op with
  | raw => cases hTyped
  | listPolicies application | getPolicy application | createPolicy application
  | updatePolicy application | deletePolicy application => exact hPolicies application
  | listGroups | getGroup | createGroup | updateGroup | deleteGroup | listApplications
  | getApplication | createApplication | updateApplication | deleteApplication => exact hEither
  | _ => exact hOnly _

theorem guard_of_refusal {op : Operation α} {c : Container} {e : Error}
    (hTyped : op.isTyped = true) (h : op.refusal c = some e) : op.call.guard c = .error e := by
  rw [Call.guard, check_scope hTyped]
  rw [refusal] at h
  split at h
  · rename_i hLevel
    cases h
    rw [if_neg hLevel]
    rfl
  · rename_i hLevel
    rw [if_pos (Decidable.not_not.mp hLevel), Container.validate]
    split at h
    · rename_i hId
      rw [if_pos hId]
      cases hKind : c.level <;> rw [hKind] at h <;> cases h <;> rfl
    · rename_i hId
      rw [if_neg hId]
      exact checkAll_of_fault h

theorem all_isGuarded (op : Operation α) : op.route.all Piece.isGuarded = true := by
  have hPolicies : ∀ application : String,
      (policies application).all Piece.isGuarded = true := by
    intro application
    unfold policies
    cases application.isEmpty <;> rfl
  cases op with
  | listPolicies application | createPolicy application => exact hPolicies application
  | getPolicy application id | updatePolicy application id | deletePolicy application id =>
    rw [route, List.all_append, hPolicies]
    rfl
  | _ => rfl

theorem isPrecondition_of_refusal {op : Operation α} {c : Container} {e : Error}
    (h : op.refusal c = some e) : e.isPrecondition = true := by
  rw [refusal] at h
  split at h
  · cases h
    rfl
  · split at h
    · cases hKind : c.level <;> rw [hKind] at h <;> cases h <;> rfl
    · obtain ⟨piece, hMem, hFault⟩ := List.exists_of_findSome?_eq_some h
      exact Piece.isPrecondition_of_fault (List.all_eq_true.mp op.all_isGuarded piece hMem) hFault

end Operation

end EdgeApi
