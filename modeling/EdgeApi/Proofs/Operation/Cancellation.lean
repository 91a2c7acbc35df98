import EdgeApi.Proofs.Client.Interruption
import EdgeApi.Proofs.Operation.Forms

/-!
# Cancellation

Calls in turn on one client with one token. Wherever the token is cancelled, no request is sent from
then on, and a call that still needs one fails.
-/

set_option autoImplicit false

namespace EdgeApi

open Client EdgeApi.Lists Law

/-! ## When a token is cancelled -/

inductive Moment where
  /-- Before anything is done. -/
  | start
  | instant (time : Nat)
  /-- While a request is under way that so many were sent before. -/
  | request (earlier : Nat)

namespace Moment

def session (inbox : List (Request → Delivery)) (schedule : Schedule) : Moment → Session
  | start => { cancelled := true, inbox, schedule }
  | instant time => { cancelAt := some time, inbox, schedule }
  | request earlier => { cancelAfter := some (earlier + 1), inbox, schedule }

/-- None of the requests was sent after the moment. -/
def Permits : Moment → List Sent → Prop
  | start, sent => sent = []
  | instant time, sent => ∀ request ∈ sent, request.time ≤ time
  | request earlier, sent => sent.length ≤ earlier + 1

/-- The moment is still to come, or the token is cancelled. -/
def Awaits : Moment → Session → Prop
  | start, s => s.cancelled = true
  | instant time, s => s.cancelAt = some time ∧ (s.cancelled = true ∨ s.now ≤ time)
  | request earlier, s =>
    s.cancelAfter = some (earlier + 1) ∧ (s.cancelled = true ∨ s.sent.length ≤ earlier)

def Holds (moment : Moment) (s : Session) : Prop :=
  moment.Awaits s ∧ moment.Permits s.sent

variable {moment : Moment} {s : Session}

theorem holds_session (moment : Moment) (inbox : List (Request → Delivery)) (schedule : Schedule) :
    moment.Holds (moment.session inbox schedule) := by
  cases moment with
  | start => exact ⟨rfl, rfl⟩
  | instant time => exact ⟨⟨rfl, .inr (Nat.zero_le _)⟩, fun _ hMem => nomatch hMem⟩
  | request earlier => exact ⟨⟨rfl, .inr (Nat.zero_le _)⟩, Nat.zero_le _⟩

theorem cancelled_or_now_le_of_pass {time : Nat} (hAt : s.cancelAt = some time)
    (hNow : s.now ≤ time) (duration : Nat) :
    (s.pass duration).2.cancelled = true ∨ (s.pass duration).2.now ≤ time := by
  rcases hPass : s.pass duration with ⟨_ | _, s'⟩
  · unfold Session.pass at hPass
    rw [hAt] at hPass
    split at hPass
    · cases hPass
    · split at hPass
      · cases hPass
        exact .inr hNow
      · dsimp only at hPass
        split at hPass <;> cases hPass
        exact .inr (by dsimp only; omega)
  · exact .inl (Session.cancelled_of_pass hPass)

theorem holds_pass (h : moment.Holds s) (duration : Nat) : moment.Holds (s.pass duration).2 := by
  cases hs : s.cancelled with
  | true =>
    rw [Session.pass_of_cancelled hs]
    exact h
  | false =>
    obtain ⟨hAwaits, hPermits⟩ := h
    obtain ⟨now, cancelled, hPass⟩ := s.pass_eq duration
    cases moment with
    | start => cases hs.symm.trans hAwaits
    | instant time =>
      have hDue := cancelled_or_now_le_of_pass hAwaits.1
        (hAwaits.2.resolve_left (by simp [hs])) duration
      rw [hPass] at hDue ⊢
      exact ⟨⟨hAwaits.1, hDue⟩, hPermits⟩
    | request earlier =>
      rw [hPass]
      exact ⟨⟨hAwaits.1, .inr (hAwaits.2.resolve_left (by simp [hs]))⟩, hPermits⟩

theorem holds_accept (h : moment.Holds s) (hs : s.cancelled = false) (request : Request) :
    moment.Holds (s.accept request).2 := by
  obtain ⟨hAwaits, hPermits⟩ := h
  have hAccept : (s.accept request).2 = { s with
      sent := s.sent ++ [⟨request, s.now⟩], inbox := s.inbox.tail
      cancelled := s.cancelled || s.cancelAfter == some (s.sent.length + 1) } := by
    unfold Session.accept
    cases s.inbox <;> simp
  rw [hAccept]
  cases moment with
  | start => cases hs.symm.trans hAwaits
  | instant time =>
    have hNow : s.now ≤ time := hAwaits.2.resolve_left (by simp [hs])
    refine ⟨⟨hAwaits.1, .inr hNow⟩, ?_⟩
    intro sent hMem
    rcases List.mem_append.mp hMem with hEarlier | hLast
    · exact hPermits sent hEarlier
    · rw [List.mem_singleton.mp hLast]
      exact hNow
  | request earlier =>
    have hEarlier : s.sent.length ≤ earlier := hAwaits.2.resolve_left (by simp [hs])
    refine ⟨⟨hAwaits.1, ?_⟩, by simpa [Permits] using hEarlier⟩
    rcases Nat.eq_or_lt_of_le hEarlier with hLast | hMore
    · exact .inl (by simp [hAwaits.1, hLast])
    · exact .inr (by simpa using Nat.succ_le_of_lt hMore)

theorem holds_tell (h : moment.Holds s) (events : List LogEvent) :
    moment.Holds (s.tell events) := by
  cases moment <;> exact h

theorem holds_await (h : moment.Holds s) (delivery : Delivery) :
    moment.Holds (s.await delivery).2 := by
  unfold Session.await
  by_cases hDelay : delivery.delay = 0
  · rw [if_pos hDelay]
    exact holds_tell h _
  · rw [if_neg hDelay]
    exact holds_tell (holds_pass h delivery.delay) _

theorem holds_step (event : Event) (s : Session) (h : moment.Holds s) :
    moment.Holds (event.step s).2 := by
  cases event with
  | wait duration => exact holds_pass h duration
  | tell events => exact holds_tell h events
  | ask request =>
    rw [Event.step]
    split
    · exact h
    · rename_i hs
      have hAfter := holds_accept h (Bool.not_eq_true _ ▸ hs) request
      rcases hAccept : s.accept request with ⟨_ | delivery, s₁⟩ <;> rw [hAccept] at hAfter
      · exact hAfter
      · exact holds_await hAfter delivery

end Moment

/-! ## Calls after cancellation -/

/-- A call that sends a request before it does anything else. -/
def Asks {α : Type} (call : Client α) : Prop :=
  ∀ s : Session, s.cancelled = true → call.run s = (.error (.transport .canceled), s)

namespace Asks

variable {α β σ : Type}

theorem exchange (request : Request) : Asks (Client.exchange request) :=
  fun _ hs => run_exchange_of_cancelled request hs

theorem bind {call : Client α} (h : Asks call) (next : α → Client β) : Asks (call >>= next) :=
  fun s hs => run_bind_error (h s hs)

theorem map (f : α → β) {call : Client α} (h : Asks call) : Asks (f <$> call) := by
  rw [← bind_pure_comp]
  exact h.bind _

theorem send (request : Request) : Asks (Client.send request) :=
  (exchange request).bind _

theorem request (c : Codec α) (method : Method) (path : String) (body : Option Json) :
    Asks (Client.request c method path body) :=
  (send _).bind _

theorem fetch (c : Codec α) (method : Method) (path : String) (body : Option Json) :
    Asks (Client.fetch c method path body) :=
  (request c method path body).bind _

theorem repeatUntil {step : σ → Client (σ ⊕ β)} {start : σ} (h : Asks (step start)) :
    Asks (Client.repeatUntil step start) := by
  intro s hs
  change Client.repeatUntil.loop step (s.inbox.length + 1) start s = _
  rw [Client.repeatUntil.loop, h s hs]

end Asks

/-- The error of waiting for an operation once the token is cancelled. -/
def Schedule.lateError (schedule : Schedule) : Error :=
  if schedule.steps = 0 then .bulkOperationTimeout
  else if (schedule.delay 0).isNone then .delayOverflow
  else .bulkOperationAborted "context canceled"

theorem Client.run_poll_of_cancelled (schedule : Schedule) (fetch : Nat → Client BulkOperation)
    {s : Session} (hs : s.cancelled = true) :
    (poll schedule fetch).run s = (.error schedule.lateError, s) := by
  rw [poll, Schedule.lateError]
  by_cases hSteps : schedule.steps = 0
  · rw [if_pos hSteps, hSteps]
    rfl
  · have hLeft : schedule.steps.toNat ≠ 0 := by
      intro hZero
      exact hSteps (UInt32.toNat_inj.mp hZero)
    obtain ⟨left, hLeft⟩ := Nat.exists_eq_succ_of_ne_zero hLeft
    rw [if_neg hSteps, hLeft, pollFrom]
    cases schedule.delay 0 with
    | none => rfl
    | some duration =>
      have hSleep : (sleep duration).run s =
          (.error (.bulkOperationAborted "context canceled"), s) := by
        rw [run_sleep, Session.pass_of_cancelled hs]
        rfl
      exact run_bind_error hSleep

namespace Operation

variable {α : Type}

def waitsFirst : Operation α → Bool
  | pollChange _ => true
  | _ => false

theorem asks {op : Operation α} {c : Container} (hGuard : op.call.guard c = .ok ())
    (hFirst : op.waitsFirst = false) : Asks (op.call.exchange c) := by
  cases op with
  | raw => exact (Asks.request _ _ _ _).bind _
  | readValue => exact (Asks.send _).map _
  | writeValue => exact (Asks.send _).bind _
  | listGroups | listPolicies | listApplications | listUsers | listMembers | listRoles
  | listAuditLogs | listDatabases | listEmailRules | listTlsSettings | listLists | listNamespaces
  | listLockdowns => exact Asks.repeatUntil ((Asks.request _ _ _ _).bind _)
  | listItems | listKeys => exact (Asks.repeatUntil ((Asks.request _ _ _ _).bind _)).map _
  | startChange => exact (Asks.fetch _ _ _ _).map _
  | pollChange => cases hFirst
  | applyChange list change =>
    have hStart : (Change.start list change).guard c = .ok () := hGuard
    have hAsks : Asks ((Change.start list change).run c) := by
      rw [Call.run_eq_exchange hStart]
      exact (Asks.fetch _ _ _ _).map _
    exact hAsks.bind _
  | _ => exact Asks.fetch _ _ _ _

/-- The error of the operation once the token is cancelled. -/
def lateError (op : Operation α) (c : Container) (schedule : Schedule) : Error :=
  match op.call.guard c with
  | .error e => e
  | .ok _ =>
    if op.waitsFirst then schedule.lateError else .transport .canceled

theorem run_of_cancelled (op : Operation α) (c : Container) {s : Session}
    (hs : s.cancelled = true) : (op.run c).run s = (.error (op.lateError c s.schedule), s) := by
  cases hGuard : op.call.guard c with
  | error e =>
    rw [lateError, hGuard]
    exact Call.run_of_guard_eq_error hGuard s
  | ok _ =>
    rw [lateError, hGuard, run, op.call.run_of_guard hGuard]
    cases hFirst : op.waitsFirst with
    | false => exact asks hGuard hFirst s hs
    | true =>
      cases op with
      | pollChange id => exact run_poll_of_cancelled s.schedule _ hs
      | _ => cases hFirst

end Operation

/-! ## Calls in turn -/

/-- One use of a client, and how long the client rests before it. -/
structure Use where
  pause : Nat
  {α : Type}
  operation : Operation α
  container : Container

namespace Use

def call (use : Use) : Client use.α :=
  use.operation.run use.container

def start (use : Use) (s : Session) : Session :=
  (s.pass use.pause).2

def after (s : Session) (use : Use) : Session :=
  (use.call.run (use.start s)).2

theorem heeds (use : Use) (s : Session) : Heeds use.call s := by
  have hLaw : Law.heeding.Governs use.call :=
    Operation.governs (fun _ _ _ _ => trivial) fun e s => .throw e
  exact hLaw s

theorem holds_after {moment : Moment} {s : Session} (use : Use) (h : moment.Holds s) :
    moment.Holds (after s use) :=
  (use.heeds (use.start s)).preserves moment.holds_step (moment.holds_pass h use.pause)

theorem holds_foldl {moment : Moment} (uses : List Use) {s : Session} (h : moment.Holds s) :
    moment.Holds (uses.foldl after s) := by
  induction uses generalizing s with
  | nil => exact h
  | cons use uses ih => exact ih (holds_after use h)

end Use

/-- Wherever the token is cancelled in a row of uses, nothing is sent from then on. Every use does
what it would do without the token, or ends with the error of the first wait or request that is
interrupted; one that begins after the cancellation does nothing but fail. -/
theorem Use.sent_before_cancellation (moment : Moment) (inbox : List (Request → Delivery))
    (schedule : Schedule) (earlier : List Use) (use : Use) :
    let s := use.start (earlier.foldl after (moment.session inbox schedule))
    moment.Permits (use.call.run s).2.sent ∧ Heeds use.call s ∧
      (s.cancelled = true →
        use.call.run s = (.error (use.operation.lateError use.container s.schedule), s)) := by
  have hEarlier := holds_foldl earlier (moment.holds_session inbox schedule)
  exact ⟨(holds_after use hEarlier).2, use.heeds _, use.operation.run_of_cancelled use.container⟩

end EdgeApi
