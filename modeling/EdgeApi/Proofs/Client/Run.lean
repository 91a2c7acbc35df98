import EdgeApi.Client.BulkOperation
import EdgeApi.Client.Listing

/-!
# Running calls

Equations for running a call in a session, and what a request that is sent does to the session. A
step that takes a reply out of the inbox whenever it goes on never meets the bound on repetitions.
-/

set_option autoImplicit false

namespace EdgeApi

namespace Session

theorem pass_eq (duration : Nat) (s : Session) :
    ∃ now cancelled, (s.pass duration).2 = { s with now, cancelled } := by
  unfold pass
  split
  · exact ⟨s.now, s.cancelled, rfl⟩
  · split
    · exact ⟨s.now, s.cancelled, rfl⟩
    · split
      · split
        · exact ⟨_, _, rfl⟩
        · exact ⟨_, s.cancelled, rfl⟩
      · exact ⟨_, s.cancelled, rfl⟩

theorem eq_of_pass {duration : Nat} {s s' : Session} (h : s.pass duration = (false, s')) :
    s.cancelled = false ∧ s' = { s with now := s.now + duration } := by
  unfold pass at h
  split at h
  · cases h
  · rename_i hActive
    refine ⟨Bool.not_eq_true _ ▸ hActive, ?_⟩
    split at h
    · rename_i hDuration
      cases h
      rw [hDuration]
      rfl
    · split at h
      · split at h <;> cases h
        rfl
      · cases h
        rfl

/-! ## Telling

What is told stands in the log, and nothing else of the session changes. -/

variable (events : List LogEvent) (s : Session)

@[simp] theorem tell_nil : s.tell [] = s := by
  simp [tell]

@[simp] theorem now_tell : (s.tell events).now = s.now := rfl

@[simp] theorem cancelled_tell : (s.tell events).cancelled = s.cancelled := rfl

@[simp] theorem cancelAt_tell : (s.tell events).cancelAt = s.cancelAt := rfl

@[simp] theorem cancelAfter_tell : (s.tell events).cancelAfter = s.cancelAfter := rfl

@[simp] theorem inbox_tell : (s.tell events).inbox = s.inbox := rfl

@[simp] theorem sent_tell : (s.tell events).sent = s.sent := rfl

@[simp] theorem schedule_tell : (s.tell events).schedule = s.schedule := rfl

@[simp] theorem log_tell : (s.tell events).log = s.log ++ events := rfl

variable {s}

/-- Waiting for a delivery is waiting, and telling what the transport has told by then. -/
theorem await_eq (delivery : Delivery) (s : Session) :
    ∃ now cancelled, (s.await delivery).2 =
      { s with now, cancelled, log := s.log ++ delivery.log (now - s.now) } := by
  unfold await
  by_cases hDelay : delivery.delay = 0
  · rw [if_pos hDelay]
    exact ⟨s.now, s.cancelled, rfl⟩
  · obtain ⟨now, cancelled, hPass⟩ := s.pass_eq delivery.delay
    rw [if_neg hDelay]
    dsimp only
    rw [hPass]
    exact ⟨now, cancelled, rfl⟩

theorem await_of_active (hs : s.cancelled = false) (delivery : Delivery) :
    s.await delivery = ((s.pass delivery.delay).1,
      (s.pass delivery.delay).2.tell
        (delivery.log ((s.pass delivery.delay).2.now - s.now))) := by
  unfold await
  by_cases hDelay : delivery.delay = 0
  · simp [hDelay, pass, hs]
  · simp [hDelay]

/-- The token is not cancelled, and nothing will cancel it. -/
structure Calm (s : Session) : Prop where
  cancelled : s.cancelled = false
  cancelAt : s.cancelAt = none
  cancelAfter : s.cancelAfter = none

theorem Calm.pass_eq {s : Session} (hs : s.Calm) (duration : Nat) :
    s.pass duration = (false, { s with now := s.now + duration }) := by
  unfold pass
  rw [hs.cancelled, hs.cancelAt]
  by_cases hDuration : duration = 0
  · simp [hDuration, ← hs.cancelled, ← hs.cancelAt]
  · simp [hDuration]

theorem Calm.tell (hs : s.Calm) (events : List LogEvent) : (s.tell events).Calm :=
  ⟨hs.cancelled, hs.cancelAt, hs.cancelAfter⟩

theorem Calm.await_eq (hs : s.Calm) (delivery : Delivery) :
    s.await delivery = (false,
      { s with now := s.now + delivery.delay, log := s.log ++ delivery.log delivery.delay }) := by
  simp [await_of_active hs.cancelled, hs.pass_eq, Session.tell]

theorem accept_nil {s : Session} (request : Request) (hInbox : s.inbox = []) :
    ∃ cancelled, s.accept request =
      (none, { s with sent := s.sent ++ [⟨request, s.now⟩], cancelled }) := by
  refine ⟨s.cancelled || s.cancelAfter == some (s.sent.length + 1), ?_⟩
  simp [accept, hInbox]

theorem accept_cons {s : Session} {reply : Request → Delivery} {rest : List (Request → Delivery)}
    (request : Request) (hInbox : s.inbox = reply :: rest) :
    ∃ cancelled, s.accept request = (some (reply request),
      { s with sent := s.sent ++ [⟨request, s.now⟩], inbox := rest, cancelled }) := by
  refine ⟨s.cancelled || s.cancelAfter == some (s.sent.length + 1), ?_⟩
  simp [accept, hInbox]

theorem Calm.accept_cons {s : Session} {reply : Request → Delivery}
    {rest : List (Request → Delivery)} (hs : s.Calm) (request : Request)
    (hInbox : s.inbox = reply :: rest) :
    s.accept request =
      (some (reply request), { s with sent := s.sent ++ [⟨request, s.now⟩], inbox := rest }) := by
  simp [accept, hInbox, hs.cancelAfter]

end Session

namespace Client

variable {α β σ : Type}

theorem run_bind (call : Client α) (next : α → Client β) (s : Session) :
    (call >>= next).run s =
      match call.run s with
      | (.ok a, s') => (next a).run s'
      | (.error e, s') => (.error e, s') := by
  simp only [run, ExceptT.run, bind, ExceptT.bind, ExceptT.mk, StateT.run, StateT.bind]
  rcases call s with ⟨e | a, s'⟩ <;> rfl

theorem run_map (f : α → β) (call : Client α) (s : Session) :
    (f <$> call).run s = ((call.run s).1.map f, (call.run s).2) := by
  simp only [run, ExceptT.run, Functor.map, ExceptT.map, ExceptT.mk, StateT.run, StateT.bind, bind]
  rcases call s with ⟨e | a, s'⟩ <;> rfl

theorem run_bind_ok {call : Client α} {next : α → Client β} {s s' : Session} {a : α}
    (h : call.run s = (.ok a, s')) : (call >>= next).run s = (next a).run s' := by
  rw [run_bind, h]

theorem exists_of_run_bind_ok {call : Client α} {next : α → Client β} {s s' : Session} {b : β}
    (h : (call >>= next).run s = (.ok b, s')) :
    ∃ a s₁, call.run s = (.ok a, s₁) ∧ (next a).run s₁ = (.ok b, s') := by
  rw [run_bind] at h
  rcases hCall : call.run s with ⟨e | a, s₁⟩
  · rw [hCall] at h
    cases h
  · rw [hCall] at h
    exact ⟨a, s₁, rfl, h⟩

theorem run_bind_error {call : Client α} {next : α → Client β} {s s' : Session} {e : Error}
    (h : call.run s = (.error e, s')) : (call >>= next).run s = (.error e, s') := by
  rw [run_bind, h]

theorem run_sleep (duration : Nat) (s : Session) :
    (sleep duration).run s =
      (if (s.pass duration).1 then .error (.bulkOperationAborted "context canceled") else .ok (),
        (s.pass duration).2) := by
  rcases hPass : s.pass duration with ⟨_ | _, s'⟩ <;>
    simp [run, sleep, ExceptT.run, ExceptT.mk, StateT.run, hPass]

theorem run_tell (events : List LogEvent) (s : Session) :
    (tell events).run s = (.ok (), s.tell events) :=
  rfl

theorem run_telling (step : Nat) (fetch : Client BulkOperation) (s : Session) :
    (telling step fetch).run s = ((fetch.run s).1,
      (fetch.run s).2.tell ((fetch.run s).1.toOption.toList.map (BulkOperation.event · step))) := by
  rw [telling, run_bind]
  rcases fetch.run s with ⟨e | op, s'⟩
  · exact congrArg (Prod.mk _) s'.tell_nil.symm
  · rfl

/-! ## Exchanges -/

theorem run_exchange_of_cancelled {s : Session} (request : Request) (hs : s.cancelled = true) :
    (exchange request).run s = (.error (.transport .canceled), s) := by
  change (if s.cancelled then _ else _) = _
  rw [hs]
  rfl

/-- What may come back for a request, and which replies are left then. -/
def Answers (request : Request) (s s' : Session) (answer : Except TransportError Response) : Prop :=
  answer = .error (.other "no response queued") ∧ s.inbox = [] ∧ s'.inbox = [] ∨
    ∃ reply, s.inbox = reply :: s'.inbox ∧
      (answer = (reply request).outcome ∨ answer = .error .canceled)

theorem run_exchange_of_not_cancelled {s : Session} (request : Request)
    (hs : s.cancelled = false) :
    ∃ answer s', (exchange request).run s = (answer.mapError .transport, s') ∧
      s'.sent = s.sent ++ [⟨request, s.now⟩] ∧ s'.schedule = s.schedule ∧
      Answers request s s' answer := by
  change ∃ answer s', (if s.cancelled then _ else _) = _ ∧ _
  rw [if_neg (by simp [hs])]
  cases hInbox : s.inbox with
  | nil =>
    obtain ⟨cancelled, hAccept⟩ := Session.accept_nil request hInbox
    rw [hAccept]
    exact ⟨.error (.other "no response queued"), _, rfl, rfl, rfl, .inl ⟨rfl, hInbox, hInbox⟩⟩
  | cons reply rest =>
    obtain ⟨cancelled, hAccept⟩ := Session.accept_cons request hInbox
    rw [hAccept]
    dsimp only
    obtain ⟨now, cancelled', hAwait⟩ := Session.await_eq (reply request)
      { s with sent := s.sent ++ [⟨request, s.now⟩], inbox := rest, cancelled }
    split
    · rename_i s' hWait
      rw [hWait] at hAwait
      subst hAwait
      exact ⟨.error .canceled, _, rfl, rfl, rfl, .inr ⟨reply, hInbox, .inr rfl⟩⟩
    · rename_i s' hWait
      rw [hWait] at hAwait
      subst hAwait
      exact ⟨_, _, rfl, rfl, rfl, .inr ⟨reply, hInbox, .inl rfl⟩⟩

theorem exists_inbox_of_exchange {request : Request} {s s' : Session} {response : Response}
    (h : (exchange request).run s = (.ok response, s')) : ∃ reply, s.inbox = reply :: s'.inbox := by
  cases hs : s.cancelled with
  | true =>
    rw [run_exchange_of_cancelled request hs] at h
    cases h
  | false =>
    obtain ⟨answer, s'', hRun, _, _, hAnswer⟩ := run_exchange_of_not_cancelled request hs
    obtain ⟨hOutcome, rfl⟩ := Prod.mk.inj (hRun.symm.trans h)
    rcases hAnswer with ⟨rfl, _, _⟩ | ⟨reply, hInbox, _⟩
    · cases hOutcome
    · exact ⟨reply, hInbox⟩

theorem sent_of_exchange {request : Request} {s s' : Session} {response : Response}
    (h : (exchange request).run s = (.ok response, s')) :
    s'.sent = s.sent ++ [⟨request, s.now⟩] := by
  cases hs : s.cancelled with
  | true =>
    rw [run_exchange_of_cancelled request hs] at h
    cases h
  | false =>
    obtain ⟨answer, s'', hRun, hSent, _⟩ := run_exchange_of_not_cancelled request hs
    obtain ⟨_, rfl⟩ := Prod.mk.inj (hRun.symm.trans h)
    exact hSent

/-- In a calm session the next reply answers, however long it takes. -/
theorem run_exchange_of_calm {s : Session} {reply : Request → Delivery}
    {rest : List (Request → Delivery)} (request : Request) (hs : s.Calm)
    (hInbox : s.inbox = reply :: rest) :
    ∃ s', (exchange request).run s = ((reply request).outcome.mapError .transport, s') ∧
      s'.Calm ∧ s'.inbox = rest ∧ s'.sent = s.sent ++ [⟨request, s.now⟩] := by
  have hCalm : Session.Calm { s with sent := s.sent ++ [⟨request, s.now⟩], inbox := rest } :=
    ⟨hs.cancelled, hs.cancelAt, hs.cancelAfter⟩
  refine ⟨{ s with
    sent := s.sent ++ [⟨request, s.now⟩], inbox := rest, now := s.now + (reply request).delay
    log := s.log ++ (reply request).log (reply request).delay },
    ?_, ⟨hs.cancelled, hs.cancelAt, hs.cancelAfter⟩, rfl, rfl⟩
  change (if s.cancelled then _ else _) = _
  rw [if_neg (by simp [hs.cancelled]), hs.accept_cons request hInbox]
  dsimp only
  rw [hCalm.await_eq]

/-! ## Requests -/

theorem run_send (request : Request) (s : Session) :
    (send request).run s =
      match (exchange request).run s with
      | (.ok response, s') =>
        if 400 ≤ response.status then (.error response.classify, s'.tell [response.failureEvent])
        else (.ok response, s')
      | (.error e, s') => (.error e, s') := by
  rw [send, run_bind]
  rcases (exchange request).run s with ⟨e | response, s'⟩
  · rfl
  · dsimp only
    split <;> rfl

/-- Nothing is told about an envelope that is read. -/
theorem envelopeEvents_of_ok {c : Codec α} {response : Response} {envelope : Envelope α}
    (h : response.envelope c = .ok envelope) : response.envelopeEvents c = [] := by
  unfold Response.envelope at h
  unfold Response.envelopeEvents
  split at h
  · cases h
  · split at h <;> simp_all

theorem run_read (c : Codec α) (response : Response) (s : Session) :
    (read c response).run s = (response.envelope c, s.tell (response.envelopeEvents c)) :=
  rfl

theorem run_request (c : Codec α) (method : Method) (path : String) (body : Option Json)
    (s : Session) :
    (request c method path body).run s =
      match (send { method, path, body := body.map .json }).run s with
      | (.ok response, s') => (response.envelope c, s'.tell (response.envelopeEvents c))
      | (.error e, s') => (.error e, s') := by
  rw [request, run_bind]
  rcases (send { method, path, body := body.map .json }).run s with ⟨e | response, s'⟩ <;> rfl

theorem run_request_of_calm {s : Session} {reply : Request → Delivery}
    {rest : List (Request → Delivery)} {c : Codec α} {method : Method} {path : String}
    {body : Option Json} {response : Response} {envelope : Envelope α} (hs : s.Calm)
    (hInbox : s.inbox = reply :: rest)
    (hReply : (reply { method, path, body := body.map .json }).outcome = .ok response)
    (hStatus : response.status < 400) (hBody : response.envelope c = .ok envelope) :
    ∃ s', (request c method path body).run s = (.ok envelope, s') ∧ s'.Calm ∧ s'.inbox = rest ∧
      s'.sent = s.sent ++ [⟨{ method, path, body := body.map .json }, s.now⟩] := by
  obtain ⟨s', hRun, hCalm, hRest, hSent⟩ :=
    run_exchange_of_calm { method, path, body := body.map .json } hs hInbox
  refine ⟨s', ?_, hCalm, hRest, hSent⟩
  have hExchange : (exchange { method, path, body := body.map .json }).run s =
      (.ok response, s') := by
    rw [hRun, hReply]
    rfl
  rw [run_request, run_send, hExchange]
  simp only [if_neg (Nat.not_le.mpr hStatus), hBody, envelopeEvents_of_ok hBody, Session.tell_nil]

theorem exists_exchange_of_request {c : Codec α} {method : Method} {path : String}
    {body : Option Json} {s s' : Session} {envelope : Envelope α}
    (h : (request c method path body).run s = (.ok envelope, s')) :
    ∃ response, (exchange { method, path, body := body.map .json }).run s = (.ok response, s') := by
  obtain ⟨response, s₁, hSend, hRead⟩ := exists_of_run_bind_ok h
  obtain ⟨hEnvelope, rfl⟩ := Prod.mk.inj hRead
  obtain ⟨response', s₂, hExchange, hStatus⟩ := exists_of_run_bind_ok hSend
  have hSame : s₂ = s₁ := by
    split at hStatus
    · cases hStatus
    · exact (Prod.mk.inj hStatus).2
  refine ⟨response', ?_⟩
  rw [hExchange, hSame, envelopeEvents_of_ok hEnvelope, Session.tell_nil]

theorem exists_inbox_of_request {c : Codec α} {method : Method} {path : String} {body : Option Json}
    {s s' : Session} {envelope : Envelope α}
    (h : (request c method path body).run s = (.ok envelope, s')) :
    ∃ reply, s.inbox = reply :: s'.inbox := by
  obtain ⟨response, hExchange⟩ := exists_exchange_of_request h
  exact exists_inbox_of_exchange hExchange

theorem sent_of_request {c : Codec α} {method : Method} {path : String} {body : Option Json}
    {s s' : Session} {envelope : Envelope α}
    (h : (request c method path body).run s = (.ok envelope, s')) :
    s'.sent = s.sent ++ [⟨{ method, path, body := body.map .json }, s.now⟩] := by
  obtain ⟨response, hExchange⟩ := exists_exchange_of_request h
  exact sent_of_exchange hExchange

theorem sent_of_fetch {c : Codec α} {method : Method} {path : String} {body : Option Json}
    {s s' : Session} {a : α} (h : (fetch c method path body).run s = (.ok a, s')) :
    s'.sent = s.sent ++ [⟨{ method, path, body := body.map .json }, s.now⟩] := by
  obtain ⟨envelope, s₁, hRequest, hTake⟩ := exists_of_run_bind_ok h
  rw [← (Prod.mk.inj hTake).2]
  exact sent_of_request hRequest

/-! ## Requests, whatever comes back -/

theorem sent_run_bind {call : Client α} {next : α → Client β} (s : Session)
    (h : ∀ a s, ((next a).run s).2.sent = s.sent) :
    ((call >>= next).run s).2.sent = (call.run s).2.sent := by
  rw [run_bind]
  rcases call.run s with ⟨e | a, s'⟩
  · rfl
  · exact h a s'

/-- Whatever comes back, one request is sent, or none if the token is cancelled. -/
theorem sent_of_send (request : Request) (s : Session) :
    ((send request).run s).2.sent =
      if s.cancelled then s.sent else s.sent ++ [⟨request, s.now⟩] := by
  have hSession : ((send request).run s).2.sent = ((exchange request).run s).2.sent := by
    refine sent_run_bind s fun response s => ?_
    split <;> rfl
  rw [hSession]
  cases hs : s.cancelled with
  | true =>
    rw [run_exchange_of_cancelled request hs]
    rfl
  | false =>
    obtain ⟨answer, s', hRun, hSent, -⟩ := run_exchange_of_not_cancelled request hs
    rw [hRun, hSent]
    rfl

theorem sent_fetch {c : Codec α} {method : Method} {path : String} {body : Option Json}
    (s : Session) :
    ((fetch c method path body).run s).2.sent =
      if s.cancelled then s.sent
      else s.sent ++ [⟨{ method, path, body := body.map .json }, s.now⟩] := by
  rw [← sent_of_send]
  exact (sent_run_bind s fun _ _ => rfl).trans (sent_run_bind s fun _ _ => rfl)

/-! ## Listings -/

def pageRequest (path : String) (filters : Uri.Query) (page perPage : UInt32) : Request where
  method := .get
  path := Uri.build path (filters ++ PageOptions.query { page := some page, perPage := some perPage })

def cursorRequest (path : String) (filters : Uri.Query) (cursor : Option String) : Request where
  method := .get
  path := Uri.build path (filters ++ Uri.Query.opt "cursor" cursor)

/-! ## Repetition -/

/-- Whenever the step goes on, it has taken a reply out of the inbox. -/
def Consumes (step : σ → Client (σ ⊕ β)) : Prop :=
  ∀ ⦃state next : σ⦄ ⦃s s' : Session⦄, (step state).run s = (.ok (.inl next), s') →
    s'.inbox.length < s.inbox.length

/-- Beyond the replies in the inbox, the bound on the repetitions does not matter. -/
theorem loop_eq_loop {step : σ → Client (σ ⊕ β)} (hStep : Consumes step) (fuel fuel' : Nat)
    (state : σ) (s : Session) (hFuel : s.inbox.length < fuel) (hFuel' : s.inbox.length < fuel') :
    repeatUntil.loop step fuel state s = repeatUntil.loop step fuel' state s := by
  induction fuel generalizing fuel' state s with
  | zero => omega
  | succ fuel ih =>
    cases fuel' with
    | zero => omega
    | succ fuel' =>
      rw [repeatUntil.loop, repeatUntil.loop]
      rcases hRun : (step state).run s with ⟨e | next | result, s'⟩
      · rfl
      · have hLess := hStep hRun
        exact ih fuel' next s' (by omega) (by omega)
      · rfl

theorem run_repeatUntil {step : σ → Client (σ ⊕ β)} (hStep : Consumes step) (start : σ)
    (s : Session) :
    (repeatUntil step start).run s =
      match (step start).run s with
      | (.error e, s') => (.error e, s')
      | (.ok (.inl next), s') => (repeatUntil step next).run s'
      | (.ok (.inr result), s') => (.ok result, s') := by
  change repeatUntil.loop step (s.inbox.length + 1) start s = _
  rw [repeatUntil.loop]
  rcases hRun : (step start).run s with ⟨e | next | result, s'⟩
  · rfl
  · have hLess := hStep hRun
    exact loop_eq_loop hStep _ _ next s' (by omega) (by omega)
  · rfl

end Client

end EdgeApi
