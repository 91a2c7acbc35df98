import EdgeApi.Access.Application
import EdgeApi.Access.Group
import EdgeApi.Access.Policy
import EdgeApi.Access.User
import EdgeApi.Account.AuditLog
import EdgeApi.Account.Member
import EdgeApi.Hosting.PagesDomain
import EdgeApi.Hosting.WorkersDomain
import EdgeApi.Intelligence
import EdgeApi.Lists.ItemList
import EdgeApi.Storage.Database
import EdgeApi.Storage.KeyValue
import EdgeApi.Zone.EmailRule
import EdgeApi.Zone.Lockdown
import EdgeApi.Zone.TlsSetting

/-!
# Operations

All operations of the client with their arguments, told apart by the type of their results, and the
call that each one makes.
-/

set_option autoImplicit false

namespace EdgeApi

open Access Account Hosting Intelligence EdgeApi.Lists Storage Zone

/-- The items of a listing, and where it stands after them. -/
abbrev Paged (α : Type) := List α × ResultInfo

inductive Operation : Type → Type where
  | raw (method : Method) (path : String) (body : Option Json) : Operation Json
  | listGroups (filter : Group.Filter) (options : PageOptions) : Operation (Paged Group)
  | getGroup (id : String) : Operation Group
  | createGroup (draft : Group.Draft) : Operation Group
  | updateGroup (id : String) (draft : Group.Draft) : Operation Group
  | deleteGroup (id : String) : Operation Unit
  | listPolicies (application : String) (options : PageOptions) : Operation (Paged Policy)
  | getPolicy (application id : String) : Operation Policy
  | createPolicy (application : String) (draft : Policy.Draft) : Operation Policy
  | updatePolicy (application id : String) (draft : Policy.Draft) : Operation Policy
  | deletePolicy (application id : String) : Operation Unit
  | listApplications (filter : Application.Filter) (options : PageOptions) :
      Operation (Paged Application)
  | getApplication (id : String) : Operation Application
  | createApplication (application : Application) : Operation Application
  | updateApplication (application : Application) : Operation Application
  | deleteApplication (id : String) : Operation Unit
  | listUsers (filter : User.Filter) (options : PageOptions) : Operation (Paged User)
  | listActiveSessions (user : String) : Operation (List ActiveSession)
  | listMembers (status : Option String) (options : PageOptions) : Operation (Paged Member)
  | getMember (id : String) : Operation Member
  | createMember (invitation : Member.Invitation) : Operation Member
  | updateMember (member : Member) : Operation Member
  | deleteMember (id : String) : Operation Unit
  | listRoles (options : PageOptions) : Operation (Paged Role)
  | getRole (id : String) : Operation Role
  | listAuditLogs (filter : AuditLog.Filter) (options : PageOptions) : Operation (Paged AuditLog)
  | listDatabases (name : Option String) (options : PageOptions) : Operation (Paged Database)
  | getDatabase (id : String) : Operation Database
  | createDatabase (name : String) (primaryLocationHint : Option String) : Operation Database
  | deleteDatabase (id : String) : Operation Unit
  | queryDatabase (id sql : String) (params : List String) : Operation (List QueryResult)
  | listEmailRules (enabled : Option Bool) (options : PageOptions) : Operation (Paged EmailRule)
  | getEmailRule (tag : String) : Operation EmailRule
  | createEmailRule (rule : EmailRule) : Operation EmailRule
  | updateEmailRule (rule : EmailRule) : Operation EmailRule
  | deleteEmailRule (tag : String) : Operation EmailRule
  | getCatchAllRule : Operation EmailRule
  | updateCatchAllRule (rule : EmailRule) : Operation EmailRule
  | listTlsSettings (setting : String) (hostnames : List String) (options : PageOptions) :
      Operation (Paged TlsSetting)
  | updateTlsSetting (setting hostname : String) (value : Json) : Operation TlsSetting
  | deleteTlsSetting (setting hostname : String) : Operation TlsSetting
  | domainDetails (domain : String) : Operation DomainDetails
  | domainDetailsOfAll (domains : List String) : Operation (List DomainDetails)
  | domainHistory (domain : String) : Operation (List DomainHistory)
  | whois (domain : String) : Operation WhoisRecord
  | ipOverview (address : Address) : Operation (List IpOverview)
  | listLists (options : PageOptions) : Operation (Paged ItemList)
  | getList (id : String) : Operation ItemList
  | createList (name description : String) (kind : Kind) : Operation ItemList
  | updateList (id description : String) : Operation ItemList
  | deleteList (id : String) : Operation Unit
  | listItems (list : String) (search : Option String) (perPage : Option UInt32)
      (cursor : Option String) : Operation (List Item)
  | getItem (list item : String) : Operation Item
  | startChange (list : String) (change : Change) : Operation String
  | getChange (id : String) : Operation BulkOperation
  | pollChange (id : String) : Operation BulkOperation
  | applyChange (list : String) (change : Change) : Operation (List Item)
  | listPagesDomains (project : String) : Operation (List PagesDomain)
  | getPagesDomain (project domain : String) : Operation PagesDomain
  | addPagesDomain (project domain : String) : Operation PagesDomain
  | patchPagesDomain (project domain : String) : Operation PagesDomain
  | deletePagesDomain (project domain : String) : Operation Unit
  | listWorkersDomains (filter : WorkersDomain.Filter) : Operation (List WorkersDomain)
  | attachWorkersDomain (binding : WorkersDomain.Binding) : Operation WorkersDomain
  | getWorkersDomain (id : String) : Operation WorkersDomain
  | detachWorkersDomain (id : String) : Operation Unit
  | listNamespaces (order direction : Option String) (options : PageOptions) :
      Operation (Paged KvNamespace)
  | createNamespace (title : String) : Operation KvNamespace
  | renameNamespace (id title : String) : Operation Unit
  | deleteNamespace (id : String) : Operation Unit
  | listKeys (ns : String) (start : Option String) (limit : Option UInt32)
      (cursor : Option String) : Operation (List StorageKey)
  | readValue (ns key : String) : Operation (List UInt8)
  | writeValue (ns key : String) (value : List UInt8) : Operation Unit
  | writeEntries (ns : String) (entries : List Entry) : Operation Unit
  | deleteValue (ns key : String) : Operation Unit
  | listLockdowns (filter : Lockdown.Filter) (options : PageOptions) : Operation (Paged Lockdown)
  | getLockdown (id : String) : Operation Lockdown
  | createLockdown (lockdown : Lockdown) : Operation Lockdown
  | updateLockdown (lockdown : Lockdown) : Operation Lockdown
  | deleteLockdown (id : String) : Operation Unit

namespace Operation

def call {α : Type} : Operation α → Call α
  | raw method path body => .raw method path body
  | listGroups f o => Group.list f o
  | getGroup id => Group.get id
  | createGroup d => Group.create d
  | updateGroup id d => Group.update id d
  | deleteGroup id => Group.delete id
  | listPolicies app o => Policy.list app o
  | getPolicy app id => Policy.get app id
  | createPolicy app d => Policy.create app d
  | updatePolicy app id d => Policy.update app id d
  | deletePolicy app id => Policy.delete app id
  | listApplications f o => Application.list f o
  | getApplication id => Application.get id
  | createApplication a => Application.create a
  | updateApplication a => Application.update a
  | deleteApplication id => Application.delete id
  | listUsers f o => User.list f o
  | listActiveSessions user => ActiveSession.list user
  | listMembers status o => Member.list status o
  | getMember id => Member.get id
  | createMember i => Member.create i
  | updateMember m => Member.update m
  | deleteMember id => Member.delete id
  | listRoles o => Role.list o
  | getRole id => Role.get id
  | listAuditLogs f o => AuditLog.list f o
  | listDatabases name o => Database.list name o
  | getDatabase id => Database.get id
  | createDatabase name hint => Database.create name hint
  | deleteDatabase id => Database.delete id
  | queryDatabase id sql params => Database.query id sql params
  | listEmailRules enabled o => EmailRule.list enabled o
  | getEmailRule tag => EmailRule.get tag
  | createEmailRule r => EmailRule.create r
  | updateEmailRule r => EmailRule.update r
  | deleteEmailRule tag => EmailRule.delete tag
  | getCatchAllRule => EmailRule.getCatchAll
  | updateCatchAllRule r => EmailRule.updateCatchAll r
  | listTlsSettings setting hostnames o => TlsSetting.list setting hostnames o
  | updateTlsSetting setting hostname value => TlsSetting.update setting hostname value
  | deleteTlsSetting setting hostname => TlsSetting.delete setting hostname
  | domainDetails domain => Intelligence.domainDetails domain
  | domainDetailsOfAll domains => Intelligence.domainDetailsOfAll domains
  | domainHistory domain => Intelligence.domainHistory domain
  | whois domain => Intelligence.whois domain
  | ipOverview address => Intelligence.ipOverview address
  | listLists o => ItemList.list o
  | getList id => ItemList.get id
  | createList name description kind => ItemList.create name description kind
  | updateList id description => ItemList.update id description
  | deleteList id => ItemList.delete id
  | listItems list search perPage cursor => Item.list list search perPage cursor
  | getItem list item => Item.get list item
  | startChange list change => Change.start list change
  | getChange id => Change.operation id
  | pollChange id => Change.poll id
  | applyChange list change => Change.apply list change
  | listPagesDomains project => PagesDomain.list project
  | getPagesDomain project domain => PagesDomain.get project domain
  | addPagesDomain project domain => PagesDomain.add project domain
  | patchPagesDomain project domain => PagesDomain.patch project domain
  | deletePagesDomain project domain => PagesDomain.delete project domain
  | listWorkersDomains f => WorkersDomain.list f
  | attachWorkersDomain b => WorkersDomain.attach b
  | getWorkersDomain id => WorkersDomain.get id
  | detachWorkersDomain id => WorkersDomain.detach id
  | listNamespaces order direction o => KvNamespace.list order direction o
  | createNamespace title => KvNamespace.create title
  | renameNamespace id title => KvNamespace.rename id title
  | deleteNamespace id => KvNamespace.delete id
  | listKeys ns start limit cursor => StorageKey.list ns start limit cursor
  | readValue ns key => KvValue.read ns key
  | writeValue ns key value => KvValue.write ns key value
  | writeEntries ns entries => Entry.writeAll ns entries
  | deleteValue ns key => KvValue.delete ns key
  | listLockdowns f o => Lockdown.list f o
  | getLockdown id => Lockdown.get id
  | createLockdown l => Lockdown.create l
  | updateLockdown l => Lockdown.update l
  | deleteLockdown id => Lockdown.delete id

def run {α : Type} (op : Operation α) (c : Container) : Client α :=
  op.call.run c

end Operation

end EdgeApi
