import EdgeApi.Proofs.Operation.Forms
import EdgeApi.Proofs.Uri.Query

/-!
# Filters of listings

A listing goes on from page to page or from cursor to cursor. Whatever the replies are, it filters by
the same pairs in every request; only the pairs that say where it stands change.
-/

set_option autoImplicit false

namespace EdgeApi

open Access Account Client EdgeApi.Lists Law Storage Zone

/-! ## Queries -/

namespace Uri

def pairsAfter (path target : String) : Query :=
  Query.decode (String.ofList (target.toList.drop (path.toList.length + 1)))

/-- The path may itself hold question marks. -/
theorem pairsAfter_build (path : String) (q : Query) : pairsAfter path (build path q) = q := by
  rw [pairsAfter, toList_build, List.drop_append, List.drop_of_length_le (Nat.le_succ _),
    List.nil_append, Nat.add_sub_cancel_left, queryPart]
  cases q with
  | nil => rfl
  | cons pair q =>
    change Query.decode (String.ofList (Query.encode (pair :: q)).toList) = pair :: q
    rw [String.ofList_toList, Query.decode_encode]

namespace Query

variable {keys : List String} {key : String}

def Avoids (keys : List String) (q : Query) : Prop :=
  ∀ pair ∈ q, pair.1 ∉ keys

theorem avoids_nil (keys : List String) : Avoids keys [] :=
  nofun

theorem avoids_append {q q' : Query} :
    Avoids keys (q ++ q') ↔ q.Avoids keys ∧ q'.Avoids keys :=
  List.forall_mem_append

theorem avoids_opt (hKey : key ∉ keys) (value : Option String) : Avoids keys (opt key value) := by
  cases value with
  | none => exact avoids_nil keys
  | some v =>
    intro pair hMem
    rw [List.mem_singleton.mp hMem]
    exact hKey

theorem avoids_each (hKey : key ∉ keys) (values : List String) :
    Avoids keys (each key values) := by
  intro pair hMem
  obtain ⟨v, _, rfl⟩ := List.mem_map.mp hMem
  exact hKey

end Query

end Uri

open Uri (pairsAfter pairsAfter_build)
open Uri.Query (avoids_nil avoids_append avoids_opt avoids_each)

/-! ## Listings -/

inductive Paging where
  | pages
  | cursors

namespace Paging

def keys : Paging → List String
  | pages => ["page", "per_page"]
  | cursors => ["cursor"]

/-- The pairs that say where a listing stands: a page and its size, or a cursor unless it is at its
start. -/
inductive Stands : Paging → Uri.Query → Prop
  | page (page perPage : UInt32) :
      Stands pages [("page", toString page.toNat), ("per_page", toString perPage.toNat)]
  | start : Stands cursors []
  | cursor (value : String) : Stands cursors [("cursor", value)]

theorem stands_opt (cursor : Option String) : Stands cursors (.opt "cursor" cursor) := by
  cases cursor with
  | none => exact .start
  | some value => exact .cursor value

/-- A request of a listing: it gets the path with the filters and with where the listing stands, in
this order, and sends nothing else. -/
structure Asks (paging : Paging) (path : String) (filters : Uri.Query) (request : Request) :
    Prop where
  method : request.method = .get
  headers : request.headers = []
  body : request.body = none
  target : ∃ place, paging.Stands place ∧ request.path = Uri.build path (filters ++ place) ∧
    pairsAfter path request.path = filters ++ place

theorem Stands.asks {paging : Paging} {place : Uri.Query} (h : paging.Stands place) (path : String)
    (filters : Uri.Query) :
    paging.Asks path filters { method := .get, path := Uri.build path (filters ++ place) } where
  method := rfl
  headers := rfl
  body := rfl
  target := ⟨place, h, rfl, pairsAfter_build path _⟩

end Paging

namespace Operation

variable {α : Type}

/-- How the operation goes on, and the pairs that it filters by, if it is a listing of which a
request may give a part only. -/
def listing : Operation α → Option (Paging × Uri.Query)
  | listGroups filter _ => some (.pages, filter.query)
  | listApplications filter _ => some (.pages, filter.query)
  | listUsers filter _ => some (.pages, filter.query)
  | listAuditLogs filter _ => some (.pages, filter.query)
  | listLockdowns filter _ => some (.pages, filter.query)
  | listMembers status _ => some (.pages, .opt "status" status)
  | listDatabases name _ => some (.pages, .opt "name" name)
  | listEmailRules enabled _ => some (.pages, .flag "enabled" enabled)
  | listTlsSettings _ hostnames _ => some (.pages, .each "hostname" hostnames)
  | listNamespaces order direction _ =>
    some (.pages, .opt "order" order ++ .opt "direction" direction)
  | listPolicies .. | listRoles _ | listLists _ => some (.pages, [])
  | listItems _ search perPage _ =>
    some (.cursors, .opt "search" search ++ .number "per_page" perPage)
  | listKeys _ start limit _ => some (.cursors, .opt "prefix" start ++ .number "limit" limit)
  | _ => none

variable {op : Operation α} {c : Container} {paging : Paging} {filters : Uri.Query}

theorem avoids_keys (h : op.listing = some (paging, filters)) : filters.Avoids paging.keys := by
  cases op with
  | listGroups | listApplications | listUsers | listAuditLogs | listLockdowns | listNamespaces
  | listItems | listKeys =>
    cases h
    simp (disch := decide) only [Group.Filter.query, Application.Filter.query, User.Filter.query,
      AuditLog.Filter.query, Lockdown.Filter.query, Uri.Query.number, Uri.Query.flag,
      Uri.Query.time, avoids_append, avoids_opt, and_self]
  | listMembers | listDatabases | listEmailRules =>
    cases h
    exact avoids_opt (by decide) _
  | listTlsSettings =>
    cases h
    exact avoids_each (by decide) _
  | listPolicies | listRoles | listLists =>
    cases h
    exact avoids_nil _
  | _ => cases h

theorem governs_listing {law : Law} (h : op.listing = some (paging, filters))
    (hReads : ∀ request form, paging.Asks (op.route.path c) filters request →
      law.reads request form) : law.Governs (op.call.exchange c) := by
  -- whichever page or cursor the replies lead to, its request has the filters in front
  have hPage : ∀ {path : String}, op.route.path c = path → paging = .pages → ∀ page perPage form,
      law.reads (pageRequest path filters page perPage) form := by
    rintro _ rfl rfl page perPage form
    exact hReads _ form ((Paging.Stands.page page perPage).asks _ filters)
  have hCursor : paging = .cursors → ∀ cursor form,
      law.reads (cursorRequest (op.route.path c) filters cursor) form := by
    rintro rfl cursor form
    exact hReads _ form ((Paging.stands_opt cursor).asks _ filters)
  cases op with
  | listPolicies application =>
    cases h
    exact governs_listPages (fun _ _ => hPage (policies_path application c) rfl _ _ _) _ _
  | listTlsSettings setting =>
    cases h
    exact governs_listPages (fun _ _ => hPage (setting_path setting c) rfl _ _ _) _ _
  | listGroups | listApplications | listUsers | listMembers | listRoles | listAuditLogs
  | listDatabases | listEmailRules | listLists | listNamespaces | listLockdowns =>
    cases h
    exact governs_listPages (fun _ _ => hPage rfl rfl _ _ _) _ _
  | listItems | listKeys =>
    cases h
    exact (governs_listCursor (fun _ => hCursor rfl _ _) _).map _
  | _ => cases h

/-- Every request of a listing filters by the same pairs, which no reply changes and which stand
before those that say where the listing stands. -/
theorem filters_in_every_request (op : Operation α) (c : Container) (s : Session)
    (hListing : op.listing = some (paging, filters)) :
    filters.Avoids paging.keys ∧
      ∃ requests, ((op.run c).run s).2.sent.map Sent.request = s.sent.map Sent.request ++ requests ∧
        ∀ request ∈ requests, paging.Asks (op.route.path c) filters request := by
  refine ⟨avoids_keys hListing, ?_⟩
  apply Conduct.exists_requests
  exact governs_run Conduct.settling_throw fun _ =>
    governs_listing hListing fun _ _ hAsks => hAsks

/-! Members by their status, listed against two pages without members. -/

def emptyPage (number : String) (_ : Request) : Delivery where
  outcome := .ok
    { status := 200
      body := Text.Utf8.encode <| "\x7b\"success\":true,\"result\":[],\"result_info\":" ++
        "\x7b\"page\":" ++ number ++ ",\"per_page\":7,\"total_pages\":2\x7d\x7d" }

def pendingSession : Session :=
  (((listMembers (some "pending") {}).run ⟨.account, "A"⟩).run
    { inbox := [emptyPage "1", emptyPage "2"] }).2

theorem filters_in_every_request_pending :
    (listMembers (some "pending") {}).listing = some (.pages, [("status", "pending")]) ∧
      pendingSession.sent.map (fun sent => sent.request.path) =
        ["/accounts/A/members?status=pending&page=1&per_page=50",
          "/accounts/A/members?status=pending&page=2&per_page=7"] ∧
      ∀ sent ∈ pendingSession.sent,
        Paging.pages.Asks (Route.path ⟨.account, "A"⟩ [.fixed "/members"]) [("status", "pending")]
          sent.request := by
  obtain ⟨_, requests, hSent, hAsks⟩ :=
    filters_in_every_request (listMembers (some "pending") {}) ⟨.account, "A"⟩
      { inbox := [emptyPage "1", emptyPage "2"] } rfl
  refine ⟨rfl, by decide +kernel, ?_⟩
  intro sent hMem
  have hRequest : sent.request ∈ pendingSession.sent.map Sent.request := List.mem_map_of_mem hMem
  rw [pendingSession, hSent] at hRequest
  exact hAsks _ hRequest

end Operation

end EdgeApi
