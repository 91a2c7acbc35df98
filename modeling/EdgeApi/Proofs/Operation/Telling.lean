import EdgeApi.Proofs.Client.Interruption
import EdgeApi.Proofs.Listing.Cursors
import EdgeApi.Proofs.Listing.Filters
import EdgeApi.Proofs.Listing.Pages

/-!
# What operations tell

The log only grows. What an operation tells itself are details; anything else in the log comes from
the transport, with one of the replies. A listing that comes through has told of its pages.
-/

set_option autoImplicit false

namespace EdgeApi

open Client Law

namespace Session

/-- The transport may tell the event with one of the replies still to come. -/
def Tells (s : Session) (event : LogEvent) : Prop :=
  ∃ reply ∈ s.inbox, ∃ request elapsed, event ∈ (reply request).log elapsed

/-- From one session to a later one replies are taken, and something is told. -/
structure Grows (s s' : Session) : Prop where
  inbox : s'.inbox <:+ s.inbox
  log : ∃ events, s'.log = s.log ++ events ∧ ∀ event ∈ events, event.IsDetail ∨ s.Tells event

namespace Grows

variable {s s' s'' : Session} {events : List LogEvent}

theorem of_same (hInbox : s'.inbox = s.inbox) (hLog : s'.log = s.log) : s.Grows s' :=
  ⟨hInbox ▸ List.suffix_rfl, [], by rw [hLog, List.append_nil], List.forall_mem_nil _⟩

theorem refl (s : Session) : s.Grows s :=
  of_same rfl rfl

theorem trans (h : s.Grows s') (hMore : s'.Grows s'') : s.Grows s'' := by
  obtain ⟨hInbox, events, hLog, hTold⟩ := h
  obtain ⟨hInbox', more, hLog', hMoreTold⟩ := hMore
  refine ⟨hInbox'.trans hInbox, events ++ more, by rw [hLog', hLog, List.append_assoc], ?_⟩
  simp only [List.forall_mem_append]
  refine ⟨hTold, fun event hMem => ?_⟩
  rcases hMoreTold event hMem with hDetail | ⟨reply, hReply, hTells⟩
  · exact .inl hDetail
  · exact .inr ⟨reply, hInbox.mem hReply, hTells⟩

theorem tell (h : s.Grows s') (hDetails : ∀ event ∈ events, event.IsDetail) :
    s.Grows (s'.tell events) :=
  h.trans ⟨List.suffix_rfl, events, rfl, fun event hMem => .inl (hDetails event hMem)⟩

end Grows

theorem grows_pass (duration : Nat) (s : Session) : s.Grows (s.pass duration).2 := by
  obtain ⟨now, cancelled, hPass⟩ := s.pass_eq duration
  rw [hPass]
  exact .of_same rfl rfl

/-- While a request is under way its reply is taken, and the transport tells what goes with it. -/
theorem grows_exchange (request : Request) (s : Session) :
    s.Grows ((exchange request).run s).2 := by
  rw [run_exchange, Event.step]
  split
  · exact .refl s
  · rcases hInbox : s.inbox with _ | ⟨reply, rest⟩
    · obtain ⟨cancelled, hAccept⟩ := Session.accept_nil request hInbox
      rw [hAccept]
      exact .of_same rfl rfl
    · obtain ⟨cancelled, hAccept⟩ := Session.accept_cons request hInbox
      rw [hAccept]
      dsimp only
      obtain ⟨now, cancelled', hAwait⟩ := Session.await_eq (reply request)
        { s with sent := s.sent ++ [⟨request, s.now⟩], inbox := rest, cancelled }
      rw [hAwait]
      refine ⟨hInbox ▸ List.suffix_cons reply rest, _, rfl, fun event hMem => .inr ?_⟩
      exact ⟨reply, hInbox ▸ List.mem_cons_self, request, _, hMem⟩

end Session

namespace Response

theorem isDetail_failureEvent (r : Response) : r.failureEvent.IsDetail :=
  show Severity.debug.rank < Severity.info.rank by decide

theorem isDetail_of_mem_envelopeEvents {α : Type} {c : Codec α} {r : Response} {event : LogEvent}
    (h : event ∈ r.envelopeEvents c) : event.IsDetail := by
  unfold envelopeEvents at h
  split at h
  · cases h
  · split at h
    · cases h
    · rw [List.mem_singleton.mp h]
      exact show Severity.trace.rank < Severity.info.rank by decide

end Response

namespace Client

variable {α β : Type}

theorem grows_send (request : Request) (s : Session) : s.Grows ((send request).run s).2 := by
  have hGrows := Session.grows_exchange request s
  rw [run_send]
  rcases hRun : (exchange request).run s with ⟨e | response, s'⟩ <;> rw [hRun] at hGrows
  · exact hGrows
  · dsimp only
    split
    · exact hGrows.tell (by simpa using response.isDetail_failureEvent)
    · exact hGrows

theorem grows_receive (c : Codec α) (request : Request) (s : Session) :
    s.Grows ((send request >>= Client.read c).run s).2 := by
  have hGrows := grows_send request s
  rw [run_bind]
  rcases hRun : (send request).run s with ⟨e | response, s'⟩ <;> rw [hRun] at hGrows
  · exact hGrows
  · exact hGrows.tell fun _ => Response.isDetail_of_mem_envelopeEvents

theorem grows_request (c : Codec α) (path : String) (s : Session) :
    s.Grows ((Client.request c .get path).run s).2 :=
  grows_receive c { method := .get, path } s

end Client

def Conduct.telling : Conduct where
  holds s _ s' := s.Grows s'
  reads _ _ := True
  done := .refl
  andThen := .trans
  raise s _ _ := .refl s
  wait duration s := by
    rw [run_sleep]
    exact s.grows_pass duration
  tell _ hDetails s := (Session.Grows.refl s).tell hDetails
  send request _ := grows_send request
  receive c request _ := grows_receive c request

/-! ## Pages of listings -/

structure LogEvent.IsPage (event : LogEvent) : Prop where
  severity : event.severity = .debug
  target : event.target = "cfapi::api::pagination"

theorem LogEvent.IsPage.isDetail {event : LogEvent} (h : event.IsPage) : event.IsDetail := by
  rw [IsDetail, h.severity]
  decide

def Session.TellsPage (s s' : Session) : Prop :=
  ∃ events, s'.log = s.log ++ events ∧ ∃ event ∈ events, event.IsPage

theorem Session.TellsPage.of_grows {s s' s'' : Session} (h : s.TellsPage s')
    (hMore : s'.Grows s'') : s.TellsPage s'' := by
  obtain ⟨events, hLog, event, hMem, hPage⟩ := h
  obtain ⟨more, hLog', -⟩ := hMore.log
  exact ⟨events ++ more, by rw [hLog', hLog, List.append_assoc], event,
    List.mem_append_left _ hMem, hPage⟩

namespace Walk.IsStep

variable {σ α β : Type} {k : Walk σ α β} {step : σ → Client (σ ⊕ β)} {w : σ} {s s' : Session}

theorem governed (hStep : k.IsStep step)
    (hPages : ∀ w envelope, ∀ event ∈ k.events w envelope, event.IsPage) (w : σ) :
    Conduct.telling.law.Governs (step w) := by
  intro s
  have hRequest := grows_request k.codec (k.path w) s
  rw [hStep]
  rcases hRun : (Client.request k.codec .get (k.path w)).run s with ⟨e | envelope, s₁⟩ <;>
    rw [hRun] at hRequest
  · exact hRequest
  · exact hRequest.tell fun event hMem => (hPages w envelope event hMem).isDetail

/-- A step that a page leads on tells of it. -/
theorem tellsPage_of_ok (hStep : k.IsStep step)
    (hPages : ∀ w envelope, ∀ event ∈ k.events w envelope, event.IsPage)
    (hEvents : ∀ w envelope next, k.advance w envelope = .ok next → k.events w envelope ≠ [])
    {next : σ ⊕ β} (h : (step w).run s = (.ok next, s')) : s.TellsPage s' := by
  have hRequest := grows_request k.codec (k.path w) s
  rw [hStep] at h
  rcases hRun : (Client.request k.codec .get (k.path w)).run s with ⟨e | envelope, s₁⟩ <;>
    rw [hRun] at h hRequest
  · cases h
  · obtain ⟨hAdvance, rfl⟩ := Prod.mk.inj h
    obtain ⟨events, hLog, -⟩ := hRequest.log
    obtain ⟨event, hMem⟩ := List.exists_mem_of_ne_nil _ (hEvents w envelope next hAdvance)
    refine ⟨events ++ k.events w envelope, ?_, event, List.mem_append_right _ hMem,
      hPages w envelope event hMem⟩
    rw [Session.log_tell, hLog, List.append_assoc]

theorem tellsPage (hStep : k.IsStep step)
    (hPages : ∀ w envelope, ∀ event ∈ k.events w envelope, event.IsPage)
    (hEvents : ∀ w envelope next, k.advance w envelope = .ok next → k.events w envelope ≠ [])
    {b : β} (h : (repeatUntil step w).run s = (.ok b, s')) : s.TellsPage s' := by
  -- the first page is told of, and the log only grows from there
  rw [run_repeatUntil hStep.consumes] at h
  rcases hRun : (step w).run s with ⟨e | next | result, s₁⟩ <;> rw [hRun] at h
  · cases h
  · have hLater := Law.Governs.repeatUntil (hStep.governed hPages) next s₁
    rw [show (repeatUntil step next).run s₁ = _ from h] at hLater
    exact (hStep.tellsPage_of_ok hPages hEvents hRun).of_grows hLater
  · cases h
    exact hStep.tellsPage_of_ok hPages hEvents hRun

end Walk.IsStep

section Listings

variable {α : Type} {c : Codec α} {path : String} {filters : Uri.Query} {s s' : Session}
  {result : List α × ResultInfo}

theorem tellsPage_listPages {options : PageOptions} {defaultPerPage : UInt32}
    (h : (listPages c path filters options defaultPerPage).run s = (.ok result, s')) :
    s.TellsPage s' := by
  refine (isStep_pageStep c path filters options.isAuto).tellsPage ?_ ?_ h
  · intro w envelope event hMem
    obtain ⟨next, _, rfl⟩ := List.mem_map.mp hMem
    exact ⟨rfl, rfl⟩
  · intro w envelope next hAdvance
    change PageWalk.advance _ w envelope = _ at hAdvance
    change PageWalk.events path w envelope ≠ []
    unfold PageWalk.advance at hAdvance
    unfold PageWalk.events
    rcases hNext : (envelope.info.getD {}).next? with _ | info
    · rw [hNext] at hAdvance
      cases hAdvance
    · simp

theorem tellsPage_listCursor {cursor : Option String}
    (h : (listCursor c path filters cursor).run s = (.ok result, s')) : s.TellsPage s' := by
  refine (isStep_cursorStep c path filters).tellsPage ?_ ?_ h
  · intro w envelope event hMem
    rw [List.mem_singleton.mp hMem]
    exact ⟨rfl, rfl⟩
  · intro w envelope next _
    exact List.cons_ne_nil _ _

end Listings

namespace Operation

variable {α : Type} {op : Operation α} {c : Container} {s s' : Session}

theorem grows_run (op : Operation α) (c : Container) (s : Session) :
    s.Grows ((op.run c).run s).2 := by
  have hGoverned : Conduct.telling.law.Governs (op.run c) :=
    governs (fun _ _ _ _ => trivial) fun _ s => .refl s
  exact hGoverned s

/-- A listing that comes through has told of a page. -/
theorem tellsPage_of_listing {x : Paging × Uri.Query} {a : α} (hListing : op.listing = some x)
    (h : (op.run c).run s = (.ok a, s')) : s.TellsPage s' := by
  obtain ⟨-, hRun⟩ := Call.exchange_of_run h
  cases op with
  | listItems | listKeys =>
    change (Prod.fst <$> listCursor _ _ _ _).run s = _ at hRun
    rw [run_map] at hRun
    obtain ⟨hFirst, rfl⟩ := Prod.mk.inj hRun
    rcases hCursor : (listCursor _ _ _ _).run s with ⟨e | result, s₁⟩
    · rw [hCursor] at hFirst
      cases hFirst
    · exact tellsPage_listCursor hCursor
  | listPolicies | listTlsSettings | listGroups | listApplications | listUsers | listMembers
  | listRoles | listAuditLogs | listDatabases | listEmailRules | listLists | listNamespaces
  | listLockdowns => exact tellsPage_listPages hRun
  | _ => cases hListing

end Operation

end EdgeApi
