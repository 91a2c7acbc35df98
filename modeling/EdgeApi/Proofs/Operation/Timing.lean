import Mathlib.Control.Monad.Basic
import EdgeApi.Proofs.Operation.Cancellation

/-!
# Timing of a poll

A poll is a course of instants: it waits, fetches a state and gets it, and so on until a state ends
it. Where the token is cancelled between two of these instants, the poll ends there and then, with
the fetches made so far.
-/

set_option autoImplicit false

namespace EdgeApi

open Client EdgeApi.Lists

namespace Session

def cancelledAt (time : Nat) (s : Session) : Session :=
  { s with cancelled := decide (time < s.now), cancelAt := some time }

/-- Nothing cancels the token before an instant. -/
structure QuietUntil (time : Nat) (s : Session) : Prop where
  cancelled : s.cancelled = false
  cancelAfter : s.cancelAfter = none
  cancelAt : ∀ t, s.cancelAt = some t → time ≤ t

/-- The token is cancelled at an instant that is still to come, and by nothing else. -/
structure Due (time : Nat) (s : Session) : Prop where
  cancelled : s.cancelled = false
  cancelAfter : s.cancelAfter = none
  cancelAt : s.cancelAt = some time
  now : s.now ≤ time

variable {s : Session} {time duration : Nat}

theorem Calm.quietUntil (h : s.Calm) (time : Nat) : s.QuietUntil time where
  cancelled := h.cancelled
  cancelAfter := h.cancelAfter
  cancelAt t ht := by
    rw [h.cancelAt] at ht
    cases ht

theorem Due.quietUntil (h : s.Due time) : s.QuietUntil time where
  cancelled := h.cancelled
  cancelAfter := h.cancelAfter
  cancelAt t ht := by
    rw [h.cancelAt] at ht
    cases ht
    exact Nat.le_refl time

theorem QuietUntil.mono {earlier : Nat} (h : s.QuietUntil time) (hLe : earlier ≤ time) :
    s.QuietUntil earlier where
  cancelled := h.cancelled
  cancelAfter := h.cancelAfter
  cancelAt t ht := Nat.le_trans hLe (h.cancelAt t ht)

theorem due_cancelledAt (h : s.Calm) (hNow : s.now ≤ time) : (s.cancelledAt time).Due time where
  cancelled := by simpa [cancelledAt] using hNow
  cancelAfter := h.cancelAfter
  cancelAt := rfl
  now := hNow

theorem QuietUntil.pass_eq (h : s.QuietUntil (s.now + duration)) :
    s.pass duration = (false, { s with now := s.now + duration }) := by
  unfold pass
  rw [if_neg (by simp [h.cancelled])]
  split
  · rename_i hDuration
    rw [hDuration]
    rfl
  · split
    · rename_i t ht
      have hLate := h.cancelAt t ht
      rw [if_neg (Nat.not_lt.mpr hLate)]
    · rfl

theorem Due.pass_eq (h : s.Due time) (hBefore : time < s.now + duration) :
    s.pass duration = (true, { s with now := time, cancelled := true }) := by
  have hNow := h.now
  unfold pass
  rw [if_neg (by simp [h.cancelled]), if_neg (by omega), h.cancelAt]
  dsimp only
  rw [if_pos hBefore, Nat.max_eq_left hNow]

theorem QuietUntil.await_eq {delivery : Delivery} (h : s.QuietUntil (s.now + delivery.delay)) :
    s.await delivery = (false,
      { s with now := s.now + delivery.delay, log := s.log ++ delivery.log delivery.delay }) := by
  simp [await_of_active h.cancelled, h.pass_eq, tell]

theorem Due.await_eq {delivery : Delivery} (h : s.Due time)
    (hBefore : time < s.now + delivery.delay) :
    s.await delivery = (true,
      { s with now := time, cancelled := true, log := s.log ++ delivery.log (time - s.now) }) := by
  simp [await_of_active h.cancelled, h.pass_eq hBefore, tell]

theorem accept_of_not_cancelAfter {reply : Request → Delivery} {rest : List (Request → Delivery)}
    (request : Request) (hAfter : s.cancelAfter = none) (hInbox : s.inbox = reply :: rest) :
    s.accept request =
      (some (reply request), { s with sent := s.sent ++ [⟨request, s.now⟩], inbox := rest }) := by
  simp [accept, hInbox, hAfter]

end Session

namespace Client

variable {s : Session} {reply : Request → Delivery} {rest : List (Request → Delivery)}

theorem run_exchange_of_quiet (request : Request)
    (hQuiet : s.QuietUntil (s.now + (reply request).delay)) (hInbox : s.inbox = reply :: rest) :
    (exchange request).run s = ((reply request).outcome.mapError .transport,
      { s with
        now := s.now + (reply request).delay
        sent := s.sent ++ [⟨request, s.now⟩], inbox := rest
        log := s.log ++ (reply request).log (reply request).delay }) := by
  have hWait : Session.QuietUntil (s.now + (reply request).delay)
      { s with sent := s.sent ++ [⟨request, s.now⟩], inbox := rest } :=
    ⟨hQuiet.cancelled, hQuiet.cancelAfter, hQuiet.cancelAt⟩
  change (if s.cancelled then _ else _) = _
  rw [if_neg (by simp [hQuiet.cancelled]),
    Session.accept_of_not_cancelAfter request hQuiet.cancelAfter hInbox]
  dsimp only
  rw [hWait.await_eq]

theorem run_exchange_of_due {time : Nat} (request : Request) (hDue : s.Due time)
    (hInbox : s.inbox = reply :: rest) (hBefore : time < s.now + (reply request).delay) :
    (exchange request).run s = (.error (.transport .canceled),
      { s with
        now := time, cancelled := true
        sent := s.sent ++ [⟨request, s.now⟩], inbox := rest
        log := s.log ++ (reply request).log (time - s.now) }) := by
  have hNow := hDue.now
  have hWait : Session.Due time
      { s with sent := s.sent ++ [⟨request, s.now⟩], inbox := rest } :=
    ⟨hDue.cancelled, hDue.cancelAfter, hDue.cancelAt, hNow⟩
  change (if s.cancelled then _ else _) = _
  rw [if_neg (by simp [hDue.cancelled]),
    Session.accept_of_not_cancelAfter request hDue.cancelAfter hInbox]
  dsimp only
  rw [hWait.await_eq hBefore]

end Client

/-- A poll for the end of an operation, with what the server reports: the state at each fetch, and
how long the report takes. -/
structure Poll where
  id : String
  container : Container
  schedule : Schedule
  start : Nat
  state : Nat → BulkOperation
  latency : Nat → Nat

namespace Poll

/-- The poll passes its checks and has a step at least, and none of its waits overflows. -/
structure Valid (p : Poll) : Prop where
  level : p.container.level = .account
  container : p.container.id ≠ ""
  id : p.id ≠ ""
  steps : p.schedule.steps ≠ 0
  delays : ∀ k < p.schedule.steps.toNat, p.schedule.delay k ≠ none

def wait (p : Poll) (k : Nat) : Nat :=
  (p.schedule.delay k).getD 0

/-- When so many reports have come. -/
def arrival (p : Poll) : Nat → Nat
  | 0 => p.start
  | k + 1 => p.arrival k + p.wait k + p.latency k

/-- When the fetch after so many others is sent. -/
def departure (p : Poll) (k : Nat) : Nat :=
  p.arrival k + p.wait k

/-- How many fetches there are from a step on, with so many steps left. -/
def fetchesFrom (p : Poll) : Nat → Nat → Nat
  | _, 0 => 0
  | step, left + 1 =>
    if (p.state step).verdict.isSome then 1 else p.fetchesFrom (step + 1) left + 1

def fetches (p : Poll) : Nat :=
  p.fetchesFrom 0 p.schedule.steps.toNat

def outcome (p : Poll) : Except Error BulkOperation :=
  (p.state (p.fetches - 1)).verdict.getD (.error .bulkOperationTimeout)

def request (p : Poll) : Request :=
  Change.operationRequest p.id p.container

def sent (p : Poll) (k : Nat) : List Sent :=
  (List.range k).map fun j => ⟨p.request, p.departure j⟩

/-- A session in which the poll starts: the replies to its fetches report the states. -/
structure Starts (p : Poll) (s : Session) : Prop where
  now : s.now = p.start
  schedule : s.schedule = p.schedule
  replies : ∀ k < p.fetches, ∃ reply, s.inbox[k]? = some reply ∧
    (reply p.request).delay = p.latency k ∧
      Turn.result BulkOperation.codec ⟨p.request, (reply p.request).outcome⟩ = .ok (p.state k)

/-- What is told between the fetch after so many others and the next wait. -/
def told (p : Poll) (inbox : List (Request → Delivery)) (k : Nat) : List LogEvent :=
  (inbox[k]?.map fun reply => (reply p.request).log (p.latency k)).getD [] ++
    [(p.state k).event k]

/-- The session when so many reports have come. -/
def after (p : Poll) (s : Session) (k : Nat) : Session :=
  { s with
    now := p.arrival k, sent := s.sent ++ p.sent k, inbox := s.inbox.drop k
    log := s.log ++ (List.range k).flatMap (p.told s.inbox) }

def waited (p : Poll) (s : Session) (k : Nat) : Session :=
  { p.after s k with now := p.departure k }

variable {p : Poll} {s : Session} {k left time : Nat}

theorem arrival_succ (p : Poll) (k : Nat) : p.arrival (k + 1) = p.departure k + p.latency k :=
  rfl

theorem arrival_le_departure (p : Poll) (k : Nat) : p.arrival k ≤ p.departure k :=
  Nat.le_add_right _ _

theorem departure_le_arrival_succ (p : Poll) (k : Nat) : p.departure k ≤ p.arrival (k + 1) :=
  Nat.le_add_right _ _

theorem arrival_mono (p : Poll) {j k : Nat} (h : j ≤ k) : p.arrival j ≤ p.arrival k := by
  induction h with
  | refl => exact Nat.le_refl _
  | @step k _ ih =>
    exact Nat.le_trans ih
      (Nat.le_trans (p.arrival_le_departure k) (p.departure_le_arrival_succ k))

theorem sent_succ (p : Poll) (k : Nat) :
    p.sent (k + 1) = p.sent k ++ [⟨p.request, p.departure k⟩] := by
  simp [sent, List.range_succ]

/-- A state is fetched if a step is left for it and no state before says to end. -/
theorem lt_fetchesFrom_iff (p : Poll) (step left : Nat) :
    k < p.fetchesFrom step left ↔ k < left ∧ ∀ j < k, (p.state (step + j)).verdict = none := by
  induction left generalizing step k with
  | zero => simp [fetchesFrom]
  | succ left ih =>
    rw [fetchesFrom]
    cases k with
    | zero => split <;> simp
    | succ k =>
      rcases hVerdict : (p.state step).verdict with _ | outcome
      · have hShift : (∀ j < k, (p.state (step + 1 + j)).verdict = none) ↔
            ∀ j < k + 1, (p.state (step + j)).verdict = none := by
          constructor
          · rintro h (_ | j) hj
            · exact hVerdict
            · rw [← h j (by omega), Nat.add_right_comm, Nat.add_assoc]
          · intro h j hj
            rw [← h (j + 1) (by omega), Nat.add_right_comm, Nat.add_assoc]
        simp [ih, hShift]
      · simp only [Option.isSome_some, if_true]
        constructor
        · intro h
          omega
        · rintro ⟨_, h⟩
          cases hVerdict.symm.trans (h 0 (by omega))

theorem lt_fetches_iff :
    k < p.fetches ↔ k < p.schedule.steps.toNat ∧ ∀ j < k, (p.state j).verdict = none := by
  simp [fetches, lt_fetchesFrom_iff]

theorem fetches_pos (hSteps : p.schedule.steps ≠ 0) : 0 < p.fetches := by
  have hPos : 0 < p.schedule.steps.toNat := by
    rw [Nat.pos_iff_ne_zero]
    exact fun hZero => hSteps (UInt32.toNat_inj.mp hZero)
  exact lt_fetches_iff.mpr ⟨hPos, fun j hj => absurd hj (Nat.not_lt_zero j)⟩

theorem Valid.delay_eq (h : p.Valid) (hk : k < p.fetches) :
    p.schedule.delay k = some (p.wait k) := by
  obtain ⟨duration, hDuration⟩ :=
    Option.ne_none_iff_exists'.mp (h.delays k (lt_fetches_iff.mp hk).1)
  rw [wait, hDuration]
  rfl

theorem Valid.guard_eq (h : p.Valid) : (Change.poll p.id).guard p.container = .ok () := by
  rw [Change.guard_poll (Scope.check_only h.level h.container), if_neg (by simpa using h.id)]

theorem steps_sub (hk : k < p.fetches) :
    p.schedule.steps.toNat - k = p.schedule.steps.toNat - (k + 1) + 1 := by
  have hLeft := (lt_fetches_iff.mp hk).1
  omega

theorem Valid.lateError_eq (h : p.Valid) :
    p.schedule.lateError = .bulkOperationAborted "context canceled" := by
  rw [Schedule.lateError, if_neg h.steps, h.delay_eq (fetches_pos h.steps)]
  rfl

/-! ## Steps -/

theorem starts_cancelledAt (h : p.Starts s) (time : Nat) : p.Starts (s.cancelledAt time) :=
  ⟨h.now, h.schedule, h.replies⟩

theorem after_zero (h : p.Starts s) : p.after s 0 = s := by
  simp [after, sent, arrival, ← h.now]

theorem after_succ (p : Poll) (s : Session) (k : Nat) :
    p.after s (k + 1) = { p.waited s k with
      now := (p.waited s k).now + p.latency k
      sent := (p.waited s k).sent ++ [⟨p.request, (p.waited s k).now⟩]
      inbox := s.inbox.drop (k + 1)
      log := (p.waited s k).log ++ p.told s.inbox k } := by
  simp [after, waited, sent_succ, arrival_succ, List.range_succ]

theorem exists_reply (h : p.Starts s) (hk : k < p.fetches) :
    ∃ reply, (p.waited s k).inbox = reply :: s.inbox.drop (k + 1) ∧
      (reply p.request).delay = p.latency k ∧
      p.told s.inbox k = (reply p.request).log (p.latency k) ++ [(p.state k).event k] ∧
        Turn.result BulkOperation.codec ⟨p.request, (reply p.request).outcome⟩ =
          .ok (p.state k) := by
  obtain ⟨reply, hReply, hLatency, hState⟩ := h.replies k hk
  obtain ⟨hLength, hGet⟩ := List.getElem?_eq_some_iff.mp hReply
  refine ⟨reply, ?_, hLatency, by rw [told, hReply]; rfl, hState⟩
  rw [waited, after, ← hGet]
  exact List.drop_eq_getElem_cons hLength

theorem quietUntil_after (h : s.QuietUntil time) : (p.after s k).QuietUntil time :=
  ⟨h.cancelled, h.cancelAfter, h.cancelAt⟩

theorem due_after (h : s.Due time) (hNow : p.arrival k ≤ time) : (p.after s k).Due time :=
  ⟨h.cancelled, h.cancelAfter, h.cancelAt, hNow⟩

theorem run_sleep_after (hQuiet : s.QuietUntil (p.departure k)) :
    (sleep (p.wait k)).run (p.after s k) = (.ok (), p.waited s k) := by
  have hWait : (p.after s k).QuietUntil ((p.after s k).now + p.wait k) := quietUntil_after hQuiet
  rw [run_sleep, hWait.pass_eq]
  rfl

def fetch (p : Poll) : Client BulkOperation :=
  get BulkOperation.codec p.request.path

theorem run_fetch_of_exchange {s' : Session} {answer : Except TransportError Response}
    (h : (exchange p.request).run s = (answer.mapError .transport, s')) :
    p.fetch.run s = (Turn.result BulkOperation.codec ⟨p.request, answer⟩,
      s'.tell (Turn.events ⟨p.request, answer⟩ (.envelope BulkOperation.codec))) :=
  Turn.run_fetch BulkOperation.codec h

theorem run_telling_waited (hStarts : p.Starts s) (hk : k < p.fetches)
    (hQuiet : s.QuietUntil (p.arrival (k + 1))) :
    (telling k p.fetch).run (p.waited s k) = (.ok (p.state k), p.after s (k + 1)) := by
  obtain ⟨reply, hInbox, hLatency, hTold, hState⟩ := exists_reply hStarts hk
  have hUnder : (p.waited s k).QuietUntil ((p.waited s k).now + (reply p.request).delay) := by
    rw [hLatency]
    exact ⟨hQuiet.cancelled, hQuiet.cancelAfter, hQuiet.cancelAt⟩
  rw [run_telling, run_fetch_of_exchange (run_exchange_of_quiet _ hUnder hInbox), hState,
    Turn.events_of_result hState, Session.tell_nil, hLatency, after_succ, hTold,
    ← List.append_assoc]
  rfl

theorem run_telling_waited_of_due (hStarts : p.Starts s) (hk : k < p.fetches) (hDue : s.Due time)
    (hAfter : p.departure k ≤ time) (hBefore : time < p.arrival (k + 1)) :
    ∃ log, (telling k p.fetch).run (p.waited s k) =
      (.error (.transport .canceled),
        { p.after s (k + 1) with now := time, cancelled := true, log }) := by
  obtain ⟨reply, hInbox, hLatency, -, -⟩ := exists_reply hStarts hk
  have hUnder : (p.waited s k).Due time :=
    ⟨hDue.cancelled, hDue.cancelAfter, hDue.cancelAt, hAfter⟩
  have hExchange := run_exchange_of_due p.request hUnder hInbox (by rw [hLatency]; exact hBefore)
  have hFetch : p.fetch.run (p.waited s k) =
      (Turn.result BulkOperation.codec ⟨p.request, .error .canceled⟩, _) :=
    run_fetch_of_exchange hExchange
  refine ⟨(p.waited s k).log ++ (reply p.request).log (time - (p.waited s k).now), ?_⟩
  rw [run_telling, hFetch, after_succ]
  exact congrArg (Prod.mk _) ((Session.tell_nil _).trans (Session.tell_nil _))

def runFrom (p : Poll) (step left : Nat) (s : Session) : Except Error BulkOperation × Session :=
  (pollFrom p.schedule (fun _ => p.fetch) step left).run s

section Steps

variable (hValid : p.Valid) (hk : k < p.fetches)

include hValid hk

/-- A step that nothing interrupts gets the next state. -/
theorem runFrom_after (hStarts : p.Starts s) (hQuiet : s.QuietUntil (p.arrival (k + 1))) :
    p.runFrom k (left + 1) (p.after s k) =
      match (p.state k).verdict with
      | some outcome => (outcome, p.after s (k + 1))
      | none => p.runFrom (k + 1) left (p.after s (k + 1)) := by
  have hSleep := run_sleep_after (hQuiet.mono (p.departure_le_arrival_succ k))
  have hFetch := run_telling_waited hStarts hk hQuiet
  rw [runFrom, pollFrom, hValid.delay_eq hk]
  simp only [run_bind_ok hSleep, run_bind_ok hFetch]
  rcases (p.state k).verdict with _ | outcome <;> rfl

theorem runFrom_of_due_wait (hDue : s.Due time) (hAfter : p.arrival k ≤ time)
    (hBefore : time < p.departure k) :
    p.runFrom k (left + 1) (p.after s k) =
      (.error (.bulkOperationAborted "context canceled"),
        { p.after s k with now := time, cancelled := true }) := by
  have hSleep : (sleep (p.wait k)).run (p.after s k) =
      (.error (.bulkOperationAborted "context canceled"),
        { p.after s k with now := time, cancelled := true }) := by
    rw [run_sleep, (due_after hDue hAfter).pass_eq hBefore]
    rfl
  rw [runFrom, pollFrom, hValid.delay_eq hk]
  exact run_bind_error hSleep

theorem runFrom_of_due_fetch (hStarts : p.Starts s) (hDue : s.Due time)
    (hAfter : p.departure k ≤ time) (hBefore : time < p.arrival (k + 1)) :
    ∃ log, p.runFrom k (left + 1) (p.after s k) =
      (.error (.transport .canceled),
        { p.after s (k + 1) with now := time, cancelled := true, log }) := by
  have hSleep := run_sleep_after (hDue.quietUntil.mono hAfter)
  obtain ⟨log, hFetch⟩ := run_telling_waited_of_due hStarts hk hDue hAfter hBefore
  refine ⟨log, ?_⟩
  rw [runFrom, pollFrom, hValid.delay_eq hk]
  simp only [run_bind_ok hSleep]
  exact run_bind_error hFetch

/-! ## Runs -/

/-- Up to a fetch that is made nothing ends the poll but the token. -/
theorem runFrom_eq_after (hStarts : p.Starts s) (hQuiet : s.QuietUntil (p.arrival k)) :
    p.runFrom 0 p.schedule.steps.toNat s =
      p.runFrom k (p.schedule.steps.toNat - k) (p.after s k) := by
  induction k with
  | zero => rw [after_zero hStarts, Nat.sub_zero]
  | succ k ih =>
    obtain ⟨_, hOn⟩ := lt_fetches_iff.mp hk
    have hEarlier : k < p.fetches := Nat.lt_of_succ_lt hk
    rw [ih hEarlier (hQuiet.mono (p.arrival_mono (Nat.le_succ k))), steps_sub hEarlier,
      runFrom_after hValid hEarlier hStarts hQuiet, hOn k (Nat.lt_succ_self k)]

end Steps

theorem runFrom_of_quiet (hValid : p.Valid) (hStarts : p.Starts s)
    (hQuiet : s.QuietUntil (p.arrival p.fetches)) :
    p.runFrom 0 p.schedule.steps.toNat s = (p.outcome, p.after s p.fetches) := by
  obtain ⟨last, hLast⟩ :=
    Nat.exists_eq_add_one_of_ne_zero (Nat.ne_of_gt (fetches_pos hValid.steps))
  have hFetched : last < p.fetches := by omega
  obtain ⟨_, hOn⟩ := lt_fetches_iff.mp hFetched
  have hQuietLast : s.QuietUntil (p.arrival last) :=
    hQuiet.mono (p.arrival_mono (Nat.le_of_lt hFetched))
  rw [hLast] at hQuiet
  rw [runFrom_eq_after hValid hFetched hStarts hQuietLast, steps_sub hFetched,
    runFrom_after hValid hFetched hStarts hQuiet, outcome, hLast, Nat.add_sub_cancel]
  cases hVerdict : (p.state last).verdict with
  | some outcome => rfl
  | none =>
    -- A state that does not end the poll is the last one only if no step is left.
    have hEnd : ¬ last + 1 < p.fetches := by omega
    have hNone : p.schedule.steps.toNat ≤ last + 1 := by
      refine Nat.le_of_not_lt fun hMore => hEnd (lt_fetches_iff.mpr ⟨hMore, ?_⟩)
      intro j hj
      rcases Nat.lt_succ_iff_lt_or_eq.mp hj with hEarlier | rfl
      · exact hOn j hEarlier
      · exact hVerdict
    rw [Nat.sub_eq_zero_of_le hNone]
    rfl

theorem run_pollChange (hValid : p.Valid) (hStarts : p.Starts s) :
    ((Operation.pollChange p.id).run p.container).run s =
      p.runFrom 0 p.schedule.steps.toNat s := by
  have hFetch : (Change.operation p.id).run p.container = p.fetch :=
    Call.run_eq_exchange hValid.guard_eq
  have hPoll : ((Operation.pollChange p.id).run p.container).run s =
      (poll s.schedule fun _ => (Change.operation p.id).run p.container).run s :=
    Call.run_of_guard hValid.guard_eq s
  rw [hPoll, hFetch, hStarts.schedule]
  rfl

section Outcomes

variable (hValid : p.Valid) (hStarts : p.Starts s)

include hValid hStarts

theorem run_pollChange_of_quiet (hQuiet : s.QuietUntil (p.arrival p.fetches)) :
    ((Operation.pollChange p.id).run p.container).run s = (p.outcome, p.after s p.fetches) := by
  rw [run_pollChange hValid hStarts, runFrom_of_quiet hValid hStarts hQuiet]

theorem run_pollChange_of_cancelled (hCancelled : s.cancelled = true) :
    ((Operation.pollChange p.id).run p.container).run s =
      (.error (.bulkOperationAborted "context canceled"), s) := by
  rw [run_pollChange hValid hStarts, ← hValid.lateError_eq]
  exact run_poll_of_cancelled p.schedule _ hCancelled

theorem run_pollChange_of_due_wait (hk : k < p.fetches) (hDue : s.Due time)
    (hAfter : p.arrival k ≤ time) (hBefore : time < p.departure k) :
    ((Operation.pollChange p.id).run p.container).run s =
      (.error (.bulkOperationAborted "context canceled"),
        { p.after s k with now := time, cancelled := true }) := by
  rw [run_pollChange hValid hStarts,
    runFrom_eq_after hValid hk hStarts (hDue.quietUntil.mono hAfter), steps_sub hk,
    runFrom_of_due_wait hValid hk hDue hAfter hBefore]

theorem run_pollChange_of_due_fetch (hk : k < p.fetches) (hDue : s.Due time)
    (hAfter : p.departure k ≤ time) (hBefore : time < p.arrival (k + 1)) :
    ∃ log, ((Operation.pollChange p.id).run p.container).run s =
      (.error (.transport .canceled),
        { p.after s (k + 1) with now := time, cancelled := true, log }) := by
  have hReached : p.arrival k ≤ time := Nat.le_trans (p.arrival_le_departure k) hAfter
  rw [run_pollChange hValid hStarts,
    runFrom_eq_after hValid hk hStarts (hDue.quietUntil.mono hReached), steps_sub hk]
  exact runFrom_of_due_fetch hValid hk hStarts hDue hAfter hBefore

end Outcomes

end Poll

/-- A call ends in a session with an outcome at an instant, and has sent these requests. -/
structure Client.Ends {α : Type} (call : Client α) (s : Session) (outcome : Except Error α)
    (time : Nat) (sent : List Sent) : Prop where
  outcome : (call.run s).1 = outcome
  now : (call.run s).2.now = time
  sent : (call.run s).2.sent = s.sent ++ sent

/-- Without cancellation a poll sends each fetch at its instant, up to the state that ends it or
the last one. A token that is cancelled before the start lets nothing be sent. One that is cancelled
in a wait or while a fetch is under way ends the poll at that instant, with the fetches sent so far.
After the end it changes nothing. -/
theorem Poll.cancelled_in_time (p : Poll) (s : Session) (time : Nat) (hValid : p.Valid)
    (hStarts : p.Starts s) (hCalm : s.Calm) :
    let call := (Operation.pollChange p.id).run p.container
    call.Ends s p.outcome (p.arrival p.fetches) (p.sent p.fetches) ∧
      (time < p.start → call.Ends (s.cancelledAt time)
        (.error (.bulkOperationAborted "context canceled")) p.start []) ∧
      (∀ k < p.fetches, p.arrival k < time → time < p.departure k →
        call.Ends (s.cancelledAt time)
          (.error (.bulkOperationAborted "context canceled")) time (p.sent k)) ∧
      (∀ k < p.fetches, p.departure k < time → time < p.arrival (k + 1) →
        call.Ends (s.cancelledAt time) (.error (.transport .canceled)) time (p.sent (k + 1))) ∧
      (p.arrival p.fetches < time →
        call.run (s.cancelledAt time) = ((call.run s).1, (call.run s).2.cancelledAt time)) := by
  intro call
  have hToken := starts_cancelledAt hStarts time
  have hWhole : call.run s = (p.outcome, p.after s p.fetches) :=
    run_pollChange_of_quiet hValid hStarts (hCalm.quietUntil _)
  have hStart (k : Nat) : p.start ≤ p.arrival k := p.arrival_mono (Nat.zero_le k)
  have hDue {k : Nat} (hReached : p.arrival k ≤ time) : (s.cancelledAt time).Due time :=
    Session.due_cancelledAt hCalm (hStarts.now ▸ Nat.le_trans (hStart k) hReached)
  refine ⟨?_, ?_, ?_, ?_, ?_⟩
  · constructor <;> rw [hWhole] <;> rfl
  · intro hEarly
    have hCancelled : (s.cancelledAt time).cancelled = true := by
      simpa [Session.cancelledAt, hStarts.now] using hEarly
    have hRun := run_pollChange_of_cancelled hValid hToken hCancelled
    constructor <;> rw [hRun]
    · exact hStarts.now
    · exact (List.append_nil _).symm
  · intro k hk hAfter hBefore
    have hReached : p.arrival k ≤ time := Nat.le_of_lt hAfter
    have hRun := run_pollChange_of_due_wait hValid hToken hk (hDue hReached) hReached hBefore
    constructor <;> rw [hRun]
    rfl
  · intro k hk hAfter hBefore
    have hSent : p.departure k ≤ time := Nat.le_of_lt hAfter
    have hReached : p.arrival k ≤ time := Nat.le_trans (p.arrival_le_departure k) hSent
    obtain ⟨log, hRun⟩ :=
      run_pollChange_of_due_fetch hValid hToken hk (hDue hReached) hSent hBefore
    constructor <;> rw [hRun]
    rfl
  · intro hEnd
    have hReached : p.arrival p.fetches ≤ time := Nat.le_of_lt hEnd
    have hRun := run_pollChange_of_quiet hValid hToken ((hDue hReached).quietUntil.mono hReached)
    have hNow : ¬ time < s.now := by
      rw [hStarts.now]
      exact Nat.not_lt.mpr (Nat.le_trans (hStart p.fetches) hReached)
    rw [hRun, hWhole]
    simp [after, Session.cancelledAt, hNow, Nat.not_lt.mpr hReached]

def secondCompleted (k : Nat) : BulkOperation :=
  { id := "op", status := if k = 0 then "pending" else "completed" }

def secondCompletedReply (k : Nat) (_ : Request) : Delivery where
  delay := 3 + k
  outcome := .ok {
    status := 200
    body := Text.Utf8.encode <| "\x7b\"success\":true,\"result\":\x7b\"id\":\"op\",\"status\":\"" ++
      (secondCompleted k).status ++ "\"\x7d\x7d" }

def secondCompletedPoll : Poll where
  id := "op"
  container := ⟨.account, "A"⟩
  schedule := { steps := 5, base := 10 }
  start := 5
  state := secondCompleted
  latency k := 3 + k

theorem Poll.cancelled_in_time_second :
    let s : Session :=
      { now := 5, schedule := { steps := 5, base := 10 }
        inbox := [secondCompletedReply 0, secondCompletedReply 1] }
    let call := (Operation.pollChange "op").run ⟨.account, "A"⟩
    let sent (time : Nat) : Sent :=
      ⟨{ method := .get, path := "/accounts/A/rules/lists/bulk_operations/op" }, time⟩
    (secondCompletedPoll.Valid ∧ secondCompletedPoll.Starts s ∧ s.Calm) ∧
      call.Ends s (.ok { id := "op", status := "completed" }) 32 [sent 15, sent 28] ∧
      call.Ends (s.cancelledAt 4) (.error (.bulkOperationAborted "context canceled")) 5 [] ∧
      call.Ends (s.cancelledAt 20) (.error (.bulkOperationAborted "context canceled")) 20
        [sent 15] ∧
      call.Ends (s.cancelledAt 30) (.error (.transport .canceled)) 30 [sent 15, sent 28] ∧
      call.run (s.cancelledAt 40) = ((call.run s).1, (call.run s).2.cancelledAt 40) := by
  intro s call sent
  have hValid : secondCompletedPoll.Valid := ⟨rfl, by decide, by decide, by decide, by decide⟩
  have hStarts : secondCompletedPoll.Starts s := by
    refine ⟨rfl, rfl, ?_⟩
    intro k hk
    match k, hk with
    | 0, _ => exact ⟨secondCompletedReply 0, rfl, rfl, by decide +kernel⟩
    | 1, _ => exact ⟨secondCompletedReply 1, rfl, rfl, by decide +kernel⟩
  have hCalm : s.Calm := ⟨rfl, rfl, rfl⟩
  have timed (time : Nat) := secondCompletedPoll.cancelled_in_time s time hValid hStarts hCalm
  exact ⟨⟨hValid, hStarts, hCalm⟩, (timed 0).1, (timed 4).2.1 (by decide),
    (timed 20).2.2.1 1 (by decide) (by decide) (by decide),
    (timed 30).2.2.2.1 1 (by decide) (by decide) (by decide), (timed 40).2.2.2.2 (by decide)⟩

end EdgeApi
