import EdgeApi.Proofs.Client.Law

/-!
# Interruptions

What a call does in a session is a course of waits and requests, and of what it tells. Cancellation
changes nothing of a course but its length: a call does what it would do if the token was never
cancelled, up to the first wait or request that is interrupted, and ends there.
-/

set_option autoImplicit false

namespace EdgeApi

open Client

namespace Session

def calm (s : Session) : Session :=
  { s with cancelled := false, cancelAt := none, cancelAfter := none }

theorem calm_calm (s : Session) : s.calm.Calm :=
  ⟨rfl, rfl, rfl⟩

theorem pass_calm (duration : Nat) (s : Session) :
    s.calm.pass duration = (false, calm { s with now := s.now + duration }) :=
  s.calm_calm.pass_eq duration

theorem calm_pass {duration : Nat} {s s' : Session} (h : s.pass duration = (false, s')) :
    s.calm.pass duration = (false, s'.calm) := by
  obtain ⟨_, rfl⟩ := eq_of_pass h
  exact s.pass_calm duration

theorem await_calm (delivery : Delivery) (s : Session) :
    s.calm.await delivery = (false, calm
      { s with now := s.now + delivery.delay, log := s.log ++ delivery.log delivery.delay }) :=
  s.calm_calm.await_eq delivery

theorem calm_await {delivery : Delivery} {s s' : Session} (h : s.await delivery = (false, s')) :
    s.calm.await delivery = (false, s'.calm) := by
  rw [await_calm]
  unfold await at h
  by_cases hDelay : delivery.delay = 0
  · simp only [if_pos hDelay, Prod.mk.injEq, true_and, Nat.sub_self] at h
    simp [← h, hDelay, calm, tell]
  · rw [if_neg hDelay] at h
    rcases hPass : s.pass delivery.delay with ⟨_ | _, later⟩ <;> rw [hPass] at h <;> cases h
    obtain ⟨_, rfl⟩ := eq_of_pass hPass
    simp [calm, tell]

theorem pass_of_cancelled {s : Session} (hs : s.cancelled = true) (duration : Nat) :
    s.pass duration = (true, s) := by
  rw [pass, if_pos hs]

theorem cancelled_of_pass {duration : Nat} {s s' : Session} (h : s.pass duration = (true, s')) :
    s'.cancelled = true := by
  unfold pass at h
  split at h
  · rename_i hCancelled
    cases h
    exact hCancelled
  · split at h
    · cases h
    · split at h
      · split at h <;> cases h
        rfl
      · cases h

theorem accept_calm (request : Request) (s : Session) :
    s.calm.accept request = ((s.accept request).1, (s.accept request).2.calm) := by
  unfold accept
  cases hInbox : s.inbox <;> simp [calm, hInbox]

def answer (request : Request) (s : Session) : Except TransportError Response :=
  match s.inbox with
  | [] => .error (.other "no response queued")
  | reply :: _ => (reply request).outcome

end Session

/-- What happens in a call. -/
inductive Event where
  | wait (duration : Nat)
  | tell (events : List LogEvent)
  | ask (request : Request)

namespace Event

/-- Whether the event is interrupted, and the session after it. -/
def step : Event → Session → Bool × Session
  | wait duration, s => s.pass duration
  | tell events, s => (false, s.tell events)
  | ask request, s =>
    if s.cancelled then (true, s)
    else
      match s.accept request with
      | (none, s) => (false, s)
      | (some delivery, s) => s.await delivery

def interruption : Event → Error
  | wait _ => .bulkOperationAborted "context canceled"
  | tell _ | ask _ => .transport .canceled

variable {event : Event} {s s' : Session}

theorem exists_step_calm (event : Event) (s : Session) :
    ∃ s' : Session, event.step s.calm = (false, s'.calm) := by
  cases event with
  | wait duration => exact ⟨_, s.pass_calm duration⟩
  | tell events => exact ⟨s.tell events, rfl⟩
  | ask request =>
    rw [step, if_neg (by simp [s.calm_calm.cancelled]), Session.accept_calm]
    rcases s.accept request with ⟨_ | delivery, s₁⟩
    · exact ⟨s₁, rfl⟩
    · exact ⟨_, s₁.await_calm delivery⟩

/-- An event that is not interrupted happens as it would without the token. -/
theorem calm_step (h : event.step s = (false, s')) : event.step s.calm = (false, s'.calm) := by
  cases event with
  | wait duration => exact Session.calm_pass h
  | tell events =>
    cases h
    rfl
  | ask request =>
    rw [step] at h ⊢
    rw [if_neg (by simp [s.calm_calm.cancelled]), Session.accept_calm]
    split at h
    · cases h
    · rcases hAccept : s.accept request with ⟨_ | delivery, s₁⟩ <;> rw [hAccept] at h
      · cases h
        rfl
      · exact Session.calm_await h

end Event

namespace Client

theorem run_exchange (request : Request) (s : Session) :
    (exchange request).run s =
      (if ((Event.ask request).step s).1 then .error (.transport .canceled)
        else (s.answer request).mapError .transport, ((Event.ask request).step s).2) := by
  change (if s.cancelled then _ else _) = _
  rw [Event.step]
  split
  · rfl
  · rcases hInbox : s.inbox with _ | ⟨reply, rest⟩
    · obtain ⟨cancelled, hAccept⟩ := Session.accept_nil request hInbox
      rw [hAccept, Session.answer, hInbox]
      rfl
    · obtain ⟨cancelled, hAccept⟩ := Session.accept_cons request hInbox
      rw [hAccept, Session.answer, hInbox]
      dsimp only
      split <;> rename_i hAwait <;> simp only [hAwait] <;> rfl

end Client

/-- The events that happen between two sessions, none of them interrupted. -/
inductive Course : Session → List Event → Session → Prop
  | done {s : Session} : Course s [] s
  | step {s s₁ s' : Session} {event : Event} {events : List Event} :
      event.step s = (false, s₁) → Course s₁ events s' → Course s (event :: events) s'

namespace Course

variable {s s' s'' : Session} {events more : List Event}

theorem append (h : Course s events s') (hMore : Course s' more s'') :
    Course s (events ++ more) s'' := by
  induction h with
  | done => exact hMore
  | step hStep _ ih => exact .step hStep (ih hMore)

theorem calm (h : Course s events s') : Course s.calm events s'.calm := by
  induction h with
  | done => exact .done
  | step hStep _ ih => exact .step (Event.calm_step hStep) ih

theorem unique (h : Course s events s') (h' : Course s events s'') : s' = s'' := by
  induction h with
  | done =>
    cases h'
    rfl
  | step hStep _ ih =>
    cases h' with
    | step hStep' hRest =>
      cases hStep.symm.trans hStep'
      exact ih hRest

theorem preserves {holds : Session → Prop}
    (hStep : ∀ (event : Event) s, holds s → holds (event.step s).2) (h : Course s events s')
    (hs : holds s) : holds s' := by
  induction h with
  | done => exact hs
  | @step s _ _ event _ hEvent _ ih =>
    have hAfter := hStep event s hs
    rw [hEvent] at hAfter
    exact ih hAfter

end Course

/-- A call that does what it would do without the token, or ends with the first event that is
interrupted. -/
def Heeds {α : Type} (call : Client α) (s : Session) : Prop :=
  ∃ events, Course s.calm events (call.run s.calm).2 ∧
    (Course s events (call.run s).2 ∧ (call.run s).1 = (call.run s.calm).1 ∨
      ∃ passed event rest s₁, events = passed ++ event :: rest ∧ Course s passed s₁ ∧
        event.step s₁ = (true, (call.run s).2) ∧ (call.run s).1 = .error event.interruption)

namespace Heeds

variable {α β : Type} {s : Session}

theorem pure (a : α) : Heeds (Pure.pure a : Client α) s :=
  ⟨[], .done, .inl ⟨.done, rfl⟩⟩

theorem throw (e : Error) : Heeds (throw e : Client α) s :=
  ⟨[], .done, .inl ⟨.done, rfl⟩⟩

theorem bind {call : Client α} {next : α → Client β} (hCall : ∀ s, Heeds call s)
    (hNext : ∀ a s, Heeds (next a) s) (s : Session) : Heeds (call >>= next) s := by
  obtain ⟨events, hCalm, hCall⟩ := hCall s
  rcases hTwin : call.run s.calm with ⟨e | a, s₁⟩
  · rw [hTwin] at hCalm hCall
    refine ⟨events, by rw [run_bind_error hTwin]; exact hCalm, ?_⟩
    rw [run_bind_error hTwin]
    rcases hCall with ⟨hCourse, hOutcome⟩ |
      ⟨passed, event, rest, s₂, hEvents, hPassed, hStep, hOutcome⟩
    · have hRun : call.run s = (.error e, (call.run s).2) := Prod.ext hOutcome rfl
      rw [run_bind_error hRun]
      exact .inl ⟨hCourse, rfl⟩
    · rw [run_bind_error (Prod.ext hOutcome rfl)]
      exact .inr ⟨passed, event, rest, s₂, hEvents, hPassed, hStep, rfl⟩
  · rw [hTwin] at hCalm hCall
    rcases hCall with ⟨hCourse, hOutcome⟩ |
      ⟨passed, event, rest, s₂, rfl, hPassed, hStep, hOutcome⟩
    · obtain rfl : s₁ = (call.run s).2.calm := hCalm.unique hCourse.calm
      obtain ⟨more, hMoreCalm, hLater⟩ := hNext a (call.run s).2
      refine ⟨events ++ more, by rw [run_bind_ok hTwin]; exact hCalm.append hMoreCalm, ?_⟩
      have hRun : call.run s = (.ok a, (call.run s).2) := Prod.ext hOutcome rfl
      rw [run_bind_ok hTwin, run_bind_ok hRun]
      rcases hLater with ⟨hMore, hSame⟩ | ⟨passed, event, rest, s₂, rfl, hPassed, hStep, hError⟩
      · exact .inl ⟨hCourse.append hMore, hSame⟩
      · exact .inr ⟨events ++ passed, event, rest, s₂, by simp, hCourse.append hPassed, hStep,
          hError⟩
    · -- Without the token the call goes on from a session that has none.
      have hStill : s₁.calm = s₁ := hCalm.calm.unique hCalm
      obtain ⟨more, hMoreCalm, _⟩ := hNext a s₁
      rw [hStill] at hMoreCalm
      refine ⟨(passed ++ event :: rest) ++ more, by
        rw [run_bind_ok hTwin]; exact hCalm.append hMoreCalm, ?_⟩
      rw [run_bind_error (Prod.ext hOutcome rfl)]
      exact .inr ⟨passed, event, rest ++ more, s₂, by simp, hPassed, hStep, rfl⟩

/-- What happens with one event heeds cancellation, if its outcome does not depend on the token. -/
theorem single {call : Client α} (event : Event) {outcome : Session → Except Error α}
    (hRun : ∀ s, call.run s =
      (if (event.step s).1 then .error event.interruption else outcome s, (event.step s).2))
    (hOutcome : ∀ s : Session, outcome s.calm = outcome s) (s : Session) : Heeds call s := by
  obtain ⟨s₁, hCalm⟩ := event.exists_step_calm s
  refine ⟨[event], ?_, ?_⟩
  · rw [hRun, hCalm]
    exact .step hCalm .done
  · rw [hRun, hRun, hCalm, hOutcome]
    rcases hStep : event.step s with ⟨_ | _, s'⟩
    · exact .inl ⟨.step hStep .done, rfl⟩
    · exact .inr ⟨[], event, [], s, rfl, .done, hStep, rfl⟩

theorem sleep (duration : Nat) (s : Session) : Heeds (Client.sleep duration) s :=
  single (.wait duration) (run_sleep duration) (fun _ => rfl) s

theorem tell (events : List LogEvent) (s : Session) : Heeds (Client.tell events) s :=
  single (.tell events) (fun _ => rfl) (fun _ => rfl) s

theorem exchange (request : Request) (s : Session) : Heeds (Client.exchange request) s :=
  single (.ask request) (run_exchange request) (fun _ => rfl) s

theorem send (request : Request) : ∀ s, Heeds (Client.send request) s := by
  apply bind (exchange request)
  intro response
  split
  · exact bind (tell _) fun _ _ => throw _
  · exact fun _ => pure _

/-- What every event keeps, interrupted or not, is kept by a call. -/
theorem preserves {call : Client α} {holds : Session → Prop}
    (hStep : ∀ (event : Event) s, holds s → holds (event.step s).2) (h : Heeds call s)
    (hs : holds s) : holds (call.run s).2 := by
  obtain ⟨events, _, ⟨hWhole, _⟩ | ⟨passed, event, rest, s₁, _, hPassed, hEvent, _⟩⟩ := h
  · exact hWhole.preserves hStep hs
  · have hAfter := hStep event s₁ (hPassed.preserves hStep hs)
    rw [hEvent] at hAfter
    exact hAfter

end Heeds

def Law.heeding : Law where
  Governs call := ∀ s, Heeds call s
  reads _ _ := True
  done a _ := .pure a
  andThen := Heeds.bind
  raise _ _ := .throw _
  consult hCall s := hCall s.schedule s.inbox.length s
  wait := Heeds.sleep
  tell events _ := Heeds.tell events
  send request _ := .send request
  receive c request _ := by
    apply Heeds.bind (.send request)
    intro response
    apply Heeds.bind (.tell _)
    intro _ s
    cases response.envelope c with
    | ok envelope => exact .pure envelope
    | error e => exact .throw e

end EdgeApi
