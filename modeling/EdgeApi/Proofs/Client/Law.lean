import EdgeApi.Proofs.Client.Guard

/-!
# Laws of calls

A law is a property of calls that carries over from one call to the next. Whatever waiting, telling
and single requests obey governs all that calls are made of. Most laws relate the session before a
call, the error that the call ends with, if any, and the session after it.
-/

set_option autoImplicit false

namespace EdgeApi

/-- What the body of a response is read as. -/
inductive Form : Type 1 where
  | bytes
  | envelope {α : Type} (codec : Codec α)

namespace Client

variable {α β σ : Type}

/-- A call that may look at the schedule and at the number of replies still to come. -/
def consult (f : Schedule → Nat → Client α) : Client α :=
  ExceptT.mk fun s => (f s.schedule s.inbox.length).run s

def repetition (step : σ → Client (σ ⊕ β)) : Nat → σ → Client β
  | 0, _ => throw (.transport (.other "no response queued"))
  | fuel + 1, state => step state >>= fun
    | .inl next => repetition step fuel next
    | .inr result => pure result

theorem run_repetition (step : σ → Client (σ ⊕ β)) (fuel : Nat) (state : σ) (s : Session) :
    (repetition step fuel state).run s = repeatUntil.loop step fuel state s := by
  induction fuel generalizing state s with
  | zero => rfl
  | succ fuel ih =>
    rw [repetition, repeatUntil.loop, run_bind]
    rcases (step state).run s with ⟨e | next | result, s'⟩
    · rfl
    · exact ih next s'
    · rfl

theorem repeatUntil_eq_consult (step : σ → Client (σ ⊕ β)) (start : σ) :
    repeatUntil step start = consult fun _ replies => repetition step (replies + 1) start :=
  funext fun s => (run_repetition step (s.inbox.length + 1) start s).symm

end Client

open Client

structure Law where
  Governs : {α : Type} → Client α → Prop
  /-- The requests that may be sent, and the forms in which their answers may be read. -/
  reads : Request → Form → Prop
  done {α : Type} (a : α) : Governs (Pure.pure a : Client α)
  andThen {α β : Type} {call : Client α} {next : α → Client β} :
    Governs call → (∀ a, Governs (next a)) → Governs (call >>= next)
  raise {α : Type} {e : Error} : e.isPrecondition = false → Governs (throw e : Client α)
  consult {α : Type} {f : Schedule → Nat → Client α} :
    (∀ schedule replies, Governs (f schedule replies)) → Governs (Client.consult f)
  wait (duration : Nat) : Governs (sleep duration)
  tell (events : List LogEvent) : (∀ event ∈ events, event.IsDetail) →
    Governs (Client.tell events)
  send (request : Request) : reads request .bytes → Governs (Client.send request)
  receive {α : Type} (c : Codec α) (request : Request) : reads request (.envelope c) →
    Governs (Client.send request >>= Client.read c)

namespace Law

variable {law : Law} {α β σ : Type}

theorem Governs.pure (a : α) : law.Governs (Pure.pure a : Client α) :=
  law.done a

theorem Governs.throw {e : Error} (he : e.isPrecondition = false) :
    law.Governs (throw e : Client α) :=
  law.raise he

theorem Governs.ofExcept {outcome : Except Error α}
    (h : ∀ e, outcome = .error e → e.isPrecondition = false) :
    law.Governs (Client.ofExcept outcome) := by
  cases outcome with
  | ok a => exact law.done a
  | error e => exact law.raise (h e rfl)

theorem Governs.bind {call : Client α} {next : α → Client β} (hCall : law.Governs call)
    (hNext : ∀ a, law.Governs (next a)) : law.Governs (call >>= next) :=
  law.andThen hCall hNext

theorem Governs.map {call : Client α} (f : α → β) (hCall : law.Governs call) :
    law.Governs (f <$> call) := by
  rw [← bind_pure_comp]
  exact hCall.bind fun a => .pure (f a)

theorem Governs.repeatUntil {step : σ → Client (σ ⊕ β)} (hStep : ∀ state, law.Governs (step state))
    (start : σ) : law.Governs (repeatUntil step start) := by
  have hRepetition : ∀ fuel state, law.Governs (repetition step fuel state) := by
    intro fuel
    induction fuel with
    | zero => exact fun _ => .throw rfl
    | succ fuel ih =>
      intro state
      apply (hStep state).bind
      rintro (next | result)
      · exact ih next
      · exact .pure result
  rw [repeatUntil_eq_consult]
  exact law.consult fun _ replies => hRepetition (replies + 1) start

/-! ## Requests -/

variable {c : Codec α}

variable {method : Method} {path : String} {body : Option Json}

theorem governs_request
    (hReads : law.reads { method, path, body := body.map .json } (.envelope c)) :
    law.Governs (request c method path body) :=
  law.receive c _ hReads

theorem governs_take (envelope : Envelope α) : law.Governs (Client.ofExcept (envelope.take c)) := by
  apply Governs.ofExcept
  intro e he
  unfold Envelope.take at he
  split at he
  · cases he
  · split at he
    · cases he
    · cases he
      rfl

theorem governs_fetch
    (hReads : law.reads { method, path, body := body.map .json } (.envelope c)) :
    law.Governs (fetch c method path body) :=
  (governs_request hReads).bind governs_take

theorem governs_raw
    (hReads : ∀ path, law.reads { method, path, body := body.map .json } (.envelope .json)) :
    law.Governs (raw method path body) :=
  (governs_request (hReads _)).bind fun _ => .pure _

theorem governs_listPages {filters : Uri.Query}
    (hReads : ∀ page perPage,
      law.reads (pageRequest path filters page perPage) (.envelope (.list c)))
    (options : PageOptions) (defaultPerPage : UInt32) :
    law.Governs (listPages c path filters options defaultPerPage) := by
  apply Governs.repeatUntil
  intro w
  apply (governs_request (hReads w.page w.perPage)).bind
  intro envelope
  dsimp only
  split
  · exact .throw rfl
  · apply (law.tell _ (by simp [LogEvent.IsDetail, pageEvent, Severity.rank])).bind
    intro _
    split <;> exact .pure _

theorem governs_listCursor {filters : Uri.Query}
    (hReads : ∀ cursor, law.reads (cursorRequest path filters cursor) (.envelope (.list c)))
    (cursor : Option String) : law.Governs (listCursor c path filters cursor) := by
  apply Governs.repeatUntil
  intro w
  apply (governs_request (hReads w.cursor)).bind
  intro envelope
  apply (law.tell _ (by simp [LogEvent.IsDetail, cursorEvent, Severity.rank])).bind
  intro _
  split <;> exact .pure _

theorem governs_telling {fetch : Client BulkOperation} (hFetch : law.Governs fetch) (step : Nat) :
    law.Governs (telling step fetch) := by
  apply hFetch.bind
  intro op
  apply (law.tell _ (by simp [LogEvent.IsDetail, BulkOperation.event, Severity.rank])).bind
  exact fun _ => .pure op

theorem governs_poll {fetch : Nat → Client BulkOperation}
    (hFetch : ∀ step, law.Governs (fetch step)) (schedule : Schedule) :
    law.Governs (poll schedule fetch) := by
  have hPoll : ∀ left step, law.Governs (pollFrom schedule fetch step left) := by
    intro left
    induction left with
    | zero => exact fun _ => .throw rfl
    | succ left ih =>
      intro step
      rw [pollFrom]
      split
      · exact .throw rfl
      · apply Governs.bind (law.wait _)
        intro _
        apply (governs_telling (hFetch step) step).bind
        intro op
        split
        · rename_i outcome hVerdict
          apply Governs.ofExcept
          rintro e rfl
          unfold BulkOperation.verdict at hVerdict
          split at hVerdict
          · cases hVerdict
          · split at hVerdict
            · cases hVerdict
            · split at hVerdict <;> cases hVerdict <;> rfl
        · exact ih (step + 1)
  exact hPoll _ 0

/-! ## Calls -/

theorem governs_run_of_guard {call : Call α} {container : Container}
    (hGuard : call.guard container = .ok ()) (hExchange : law.Governs (call.exchange container)) :
    law.Governs (call.run container) := by
  rw [call.run_eq_exchange hGuard]
  exact hExchange

/-- Where any error may be raised, the checks of a call are governed too. -/
theorem governs_run {call : Call α} {container : Container}
    (hRaise : ∀ e, law.Governs (throw e : Client α))
    (hExchange : call.guard container = .ok () → law.Governs (call.exchange container)) :
    law.Governs (call.run container) := by
  cases hGuard : call.guard container with
  | ok _ => exact governs_run_of_guard hGuard (hExchange hGuard)
  | error e =>
    rw [call.run_eq_throw hGuard]
    exact hRaise e

end Law

/-! ## Laws about sessions -/

namespace Client

def errorOf {α : Type} : Except Error α → Option Error
  | .ok _ => none
  | .error e => some e

theorem errorOf_eq_some_iff {α : Type} {outcome : Except Error α} {e : Error} :
    errorOf outcome = some e ↔ outcome = .error e := by
  rcases outcome with e' | a <;> simp [errorOf]

def Keeps {α : Type} (holds : Session → Option Error → Session → Prop) (call : Client α) : Prop :=
  ∀ s, holds s (errorOf (call.run s).1) (call.run s).2

end Client

/-- What holds of the session before a call, the error that the call ends with and the session after
it. -/
structure Conduct where
  holds : Session → Option Error → Session → Prop
  reads : Request → Form → Prop
  done (s : Session) : holds s none s
  andThen {s s' s'' : Session} {e : Option Error} : holds s none s' → holds s' e s'' → holds s e s''
  raise (s : Session) {e : Error} : e.isPrecondition = false → holds s (some e) s
  wait (duration : Nat) : Keeps holds (sleep duration)
  tell (events : List LogEvent) : (∀ event ∈ events, event.IsDetail) →
    Keeps holds (Client.tell events)
  send (request : Request) : reads request .bytes → Keeps holds (Client.send request)
  receive {α : Type} (c : Codec α) (request : Request) : reads request (.envelope c) →
    Keeps holds (Client.send request >>= Client.read c)

def Conduct.law (k : Conduct) : Law where
  Governs := Keeps k.holds
  reads := k.reads
  done _ s := k.done s
  andThen {_ _ call next} hCall hNext := by
    intro s
    have hFirst := hCall s
    rw [run_bind]
    rcases hRun : call.run s with ⟨e | a, s'⟩
    · rw [hRun] at hFirst
      exact hFirst
    · rw [hRun] at hFirst
      exact k.andThen hFirst (hNext a s')
  raise he s := k.raise s he
  consult hCall s := hCall s.schedule s.inbox.length s
  wait := k.wait
  tell := k.tell
  send := k.send
  receive := k.receive

end EdgeApi
