import EdgeApi.Proofs.Client.Dialogue
import EdgeApi.Proofs.Operation.Route

/-!
# Forms of operations

The forms in which the answers to an operation are read. A law that allows them governs the
operation.
-/

set_option autoImplicit false

namespace EdgeApi

open Access Account Client Hosting Intelligence EdgeApi.Lists Law Storage Zone

namespace Lists.Change

def request (list : String) (change : Change) (c : Container) : Request where
  method := change.method
  path := ItemList.itemsPath c list
  body := some (.json change.body.sorted)

def operationRequest (id : String) (c : Container) : Request where
  method := .get
  path := ItemList.collection.pathIn c ++ "/bulk_operations/" ++ id

theorem route_path (id : String) (c : Container) :
    (route id).path c = (operationRequest id c).path :=
  congrArg (· ++ id)
    (Operation.append_joined (ItemList.collection.pathIn c) "/bulk_operations" "/" rfl)

theorem guard_poll {c : Container} (hScope : Scope.check (.only .account) c = .ok ())
    (id : String) : (poll id).guard c =
      if id.isEmpty then .error (.missingResourceId "operation id") else .ok () := by
  change (Scope.check (.only .account) c >>= fun _ =>
    if !id.isEmpty then .ok () else .error (.missingResourceId "operation id")) = _
  rw [hScope]
  cases id.isEmpty <;> rfl

theorem ne_empty_of_guard {id : String} {c : Container} (hGuard : (poll id).guard c = .ok ()) :
    id ≠ "" := by
  rintro rfl
  rw [guard_poll (Call.guard_eq_ok_iff.mp hGuard).1] at hGuard
  cases hGuard

/-- In which form the answer to a request of a change that is carried out is read. -/
inductive Reads (list : String) (change : Change) (c : Container) : Request → Form → Prop
  | start : Reads list change c (change.request list c) (.envelope OperationRef.codec)
  | poll (id : String) :
      Reads list change c (operationRequest id c) (.envelope BulkOperation.codec)
  | items (cursor : Option String) :
      Reads list change c
        (cursorRequest (ItemList.itemsPath c list)
          (.opt "search" none ++ .number "per_page" none) cursor)
        (.envelope (.list Item.codec))

end Lists.Change

namespace Operation

variable {α : Type}

def forms : Operation α → List Form
  | raw .. => [.envelope .json]
  | listGroups .. => [.envelope (.list Group.codec)]
  | getGroup .. | createGroup .. | updateGroup .. => [.envelope Group.codec]
  | listPolicies .. => [.envelope (.list Policy.codec)]
  | getPolicy .. | createPolicy .. | updatePolicy .. => [.envelope Policy.codec]
  | listApplications .. => [.envelope (.list Application.codec)]
  | getApplication .. | createApplication .. | updateApplication .. =>
    [.envelope Application.codec]
  | listUsers .. => [.envelope (.list User.codec)]
  | listActiveSessions .. => [.envelope (.list ActiveSession.codec)]
  | listMembers .. => [.envelope (.list Member.codec)]
  | getMember .. | createMember .. | updateMember .. => [.envelope Member.codec]
  | listRoles .. => [.envelope (.list Role.codec)]
  | getRole .. => [.envelope Role.codec]
  | listAuditLogs .. => [.envelope (.list AuditLog.codec)]
  | listDatabases .. => [.envelope (.list Database.codec)]
  | getDatabase .. | createDatabase .. => [.envelope Database.codec]
  | queryDatabase .. => [.envelope (.list QueryResult.codec)]
  | listEmailRules .. => [.envelope (.list EmailRule.codec)]
  | getEmailRule .. | createEmailRule .. | updateEmailRule .. | deleteEmailRule ..
  | getCatchAllRule | updateCatchAllRule .. => [.envelope EmailRule.codec]
  | listTlsSettings .. => [.envelope (.list TlsSetting.codec)]
  | updateTlsSetting .. | deleteTlsSetting .. => [.envelope TlsSetting.codec]
  | domainDetails .. => [.envelope DomainDetails.codec]
  | domainDetailsOfAll .. => [.envelope (.list DomainDetails.codec)]
  | domainHistory .. => [.envelope (.list DomainHistory.codec)]
  | whois .. => [.envelope WhoisRecord.codec]
  | ipOverview .. => [.envelope (.list IpOverview.codec)]
  | listLists .. => [.envelope (.list ItemList.codec)]
  | getList .. | createList .. | updateList .. => [.envelope ItemList.codec]
  | listItems .. => [.envelope (.list Item.codec)]
  | getItem .. => [.envelope Item.codec]
  | startChange .. => [.envelope OperationRef.codec]
  | getChange .. | pollChange .. => [.envelope BulkOperation.codec]
  | applyChange .. =>
    [.envelope OperationRef.codec, .envelope BulkOperation.codec, .envelope (.list Item.codec)]
  | listPagesDomains .. => [.envelope (.list PagesDomain.codec)]
  | getPagesDomain .. | addPagesDomain .. | patchPagesDomain .. => [.envelope PagesDomain.codec]
  | listWorkersDomains .. => [.envelope (.list WorkersDomain.codec)]
  | attachWorkersDomain .. | getWorkersDomain .. => [.envelope WorkersDomain.codec]
  | listNamespaces .. => [.envelope (.list KvNamespace.codec)]
  | createNamespace .. => [.envelope KvNamespace.codec]
  | listKeys .. => [.envelope (.list StorageKey.codec)]
  | readValue .. => [.bytes]
  | listLockdowns .. => [.envelope (.list Lockdown.codec)]
  | getLockdown .. | createLockdown .. | updateLockdown .. => [.envelope Lockdown.codec]
  | deleteGroup .. | deletePolicy .. | deleteApplication .. | deleteMember .. | deleteDatabase ..
  | deleteList .. | deletePagesDomain .. | detachWorkersDomain .. | renameNamespace ..
  | deleteNamespace .. | writeValue .. | writeEntries .. | deleteValue .. | deleteLockdown .. =>
    [.envelope .ignored]

/-- Whether the operation goes on with an identifier that a reply gave. -/
def appliesChange : Operation α → Bool
  | applyChange .. => true
  | _ => false

def Reads (op : Operation α) (c : Container) (request : Request) (form : Form) : Prop :=
  match op with
  | applyChange list change => change.Reads list c request form
  | op => form ∈ op.forms

/-- The routes of the requests of the operation. -/
def Follows (op : Operation α) (route : Route) : Prop :=
  route = op.route ∨ op.appliesChange = true ∧ ∃ id, id ≠ "" ∧ route = Change.route id

def Sends (op : Operation α) (c : Container) (request : Request) : Prop :=
  op.isTyped = true →
    ∃ route query, op.Follows route ∧ request.path = Uri.build (route.path c) query

theorem sends_of_path {op : Operation α} {c : Container} {request : Request} {path : String}
    (query : Uri.Query) (hPath : op.route.path c = path)
    (hRequest : request.path = Uri.build path query) : op.Sends c request :=
  fun _ => ⟨op.route, query, .inl rfl, hPath ▸ hRequest⟩

theorem mem_forms_of_reads {op : Operation α} {c : Container} {request : Request} {form : Form}
    (h : op.Reads c request form) : form ∈ op.forms := by
  cases op with
  | applyChange list change =>
    cases h with
    | start => exact .head _
    | poll id => exact .tail _ (.head _)
    | items cursor => exact .tail _ (.tail _ (.head _))
  | _ => exact h

variable {law : Law} {container : Container}

theorem governs_pollChange {id : String}
    (hReads : law.reads (Change.operationRequest id container) (.envelope BulkOperation.codec))
    (hGuard : (Change.poll id).guard container = .ok ()) :
    law.Governs ((Change.poll id).exchange container) := by
  change law.Governs (consult fun schedule _ => poll schedule fun _ => _)
  apply law.consult
  intro schedule _
  apply governs_poll
  intro step
  have hFetch : (Change.operation id).guard container = .ok () := hGuard
  exact governs_run_of_guard hFetch (governs_fetch hReads)

theorem governs_exchange {op : Operation α}
    (hReads : ∀ request form, op.Reads container request form → op.Sends container request →
      law.reads request form)
    (hGuard : op.call.guard container = .ok ())
    (hRaise : op.appliesChange = true → ∀ {β : Type} e, law.Governs (throw e : Client β)) :
    law.Governs (op.call.exchange container) := by
  cases op with
  | raw => exact governs_raw fun _ => hReads _ _ (.head _) nofun
  | readValue ns key =>
    exact Governs.map _
      (law.send _ (hReads _ _ (.head _) (sends_of_path [] (value_path ns key container) rfl)))
  | writeValue ns key value =>
    change law.Governs (Client.send _ >>= fun response => Client.read .ignored response >>= _)
    rw [← bind_assoc]
    exact Governs.bind (law.receive _ _
      (hReads _ _ (.head _) (sends_of_path [] (value_path ns key container) rfl))) governs_take
  | deleteValue ns key =>
    exact governs_fetch (hReads _ _ (.head _) (sends_of_path [] (value_path ns key container) rfl))
  | listPolicies application =>
    exact governs_listPages (fun _ _ => hReads _ _ (.head _)
      (sends_of_path _ (policies_path application container) rfl)) _ _
  | createPolicy application =>
    exact governs_fetch (hReads _ _ (.head _)
      (sends_of_path [] (policies_path application container) rfl))
  | getPolicy application id | updatePolicy application id | deletePolicy application id =>
    exact governs_fetch (hReads _ _ (.head _)
      (sends_of_path [] (policy_path application id container) rfl))
  | listTlsSettings setting =>
    exact governs_listPages (fun _ _ => hReads _ _ (.head _)
      (sends_of_path _ (setting_path setting container) rfl)) _ _
  | updateTlsSetting setting hostname | deleteTlsSetting setting hostname =>
    exact governs_fetch (hReads _ _ (.head _)
      (sends_of_path [] (setting_member_path setting hostname container) rfl))
  | listPagesDomains project | addPagesDomain project =>
    exact governs_fetch (hReads _ _ (.head _)
      (sends_of_path [] (domains_path project container) rfl))
  | getPagesDomain project domain | patchPagesDomain project domain
  | deletePagesDomain project domain =>
    exact governs_fetch (hReads _ _ (.head _)
      (sends_of_path [] (domain_path project domain container) rfl))
  | domainDetails | domainDetailsOfAll | domainHistory | whois | ipOverview
  | listWorkersDomains => exact governs_fetch (hReads _ _ (.head _) (sends_of_path _ rfl rfl))
  | listGroups | listApplications | listUsers | listMembers | listRoles | listAuditLogs
  | listDatabases | listEmailRules | listLists | listNamespaces | listLockdowns =>
    exact governs_listPages (fun _ _ => hReads _ _ (.head _) (sends_of_path _ rfl rfl)) _ _
  | listItems | listKeys =>
    exact (governs_listCursor (fun _ => hReads _ _ (.head _) (sends_of_path _ rfl rfl)) _).map _
  | startChange =>
    exact (governs_fetch (hReads _ _ (.head _) (sends_of_path [] rfl rfl))).map _
  | getChange id =>
    exact governs_fetch (hReads _ _ (.head _)
      (sends_of_path [] (Change.route_path id container) rfl))
  | pollChange id =>
    exact governs_pollChange (hReads _ _ (.head _)
      (sends_of_path [] (Change.route_path id container) rfl)) hGuard
  | applyChange list change =>
    have hAny : ∀ {β : Type} e, law.Governs (throw e : Client β) := hRaise rfl
    have hStart : law.reads (change.request list container) (.envelope OperationRef.codec) :=
      hReads _ _ .start (sends_of_path [] rfl rfl)
    apply Governs.bind
    · exact governs_run hAny fun _ => (governs_fetch hStart).map _
    · intro id
      apply Governs.bind
      · apply governs_run hAny
        intro hPoll
        have hId : id ≠ "" := Change.ne_empty_of_guard hPoll
        exact governs_pollChange (hReads _ _ (.poll id) fun _ =>
          ⟨Change.route id, [], .inr ⟨rfl, id, hId, rfl⟩, (Change.route_path id container).symm⟩)
          hPoll
      · intro _
        exact governs_run hAny fun _ => (governs_listCursor
          (fun cursor => hReads _ _ (.items cursor) (sends_of_path _ rfl rfl)) _).map _
  | _ => exact governs_fetch (hReads _ _ (.head _) (sends_of_path [] rfl rfl))

/-- A law that lets any error be raised governs the checks of an operation too. -/
theorem governs {op : Operation α}
    (hReads : ∀ request form, op.Reads container request form → op.Sends container request →
      law.reads request form)
    (hRaise : ∀ {β : Type} e, law.Governs (throw e : Client β)) : law.Governs (op.run container) :=
  governs_run hRaise fun hGuard => governs_exchange hReads hGuard fun _ => hRaise

/-- An operation passes in a dialogue that ends with the first answer refused. -/
theorem exists_dialogue (op : Operation α) (c : Container) (s : Session) :
    ∃ turns, Dialogue s turns ((op.run c).run s).2 ∧
      Settled (op.Reads c) turns (errorOf ((op.run c).run s).1) := by
  have hLaw : (Conduct.settling (op.Reads c)).law.Governs (op.run c) :=
    governs (fun _ _ h _ => h) fun e => Conduct.settling_throw e
  exact hLaw s

end Operation

end EdgeApi
