import EdgeApi.Proofs.Client.Law

/-!
# Dialogues

The requests of a call with their answers, as they pass between two sessions. A refused answer ends
the call: it is the last one, and the call fails with the error that the answer stands for.
-/

set_option autoImplicit false

namespace EdgeApi

open Client

theorem Response.isPrecondition_of_envelope {α : Type} {c : Codec α} {r : Response} {e : Error}
    (h : r.envelope c = .error e) : e.isPrecondition = false := by
  unfold envelope at h
  split at h
  · cases h
    rfl
  · split at h <;> cases h
    rfl

structure Turn where
  request : Request
  answer : Except TransportError Response

namespace Turn

def response (turn : Turn) : Except Error Response :=
  match turn.answer with
  | .ok response => if 400 ≤ response.status then .error response.classify else .ok response
  | .error cause => .error (.transport cause)

def envelope {α : Type} (c : Codec α) (turn : Turn) : Except Error (Envelope α) :=
  turn.response >>= Response.envelope c

def result {α : Type} (c : Codec α) (turn : Turn) : Except Error α :=
  turn.envelope c >>= Envelope.take c

/-- The error that the answer stands for where it is read in a form. -/
def refusal (turn : Turn) : Form → Option Error
  | .bytes => errorOf turn.response
  | .envelope c => errorOf (turn.envelope c)

def events (turn : Turn) (form : Form) : List LogEvent :=
  match turn.answer with
  | .error _ => []
  | .ok response =>
    if 400 ≤ response.status then [response.failureEvent]
    else
      match form with
      | .bytes => []
      | .envelope c => response.envelopeEvents c

theorem isPrecondition_of_response {turn : Turn} {e : Error} (h : turn.response = .error e) :
    e.isPrecondition = false := by
  unfold response at h
  split at h
  · split at h <;> cases h
    rfl
  · cases h
    rfl

theorem isPrecondition_of_refusal {turn : Turn} {form : Form} {e : Error}
    (h : turn.refusal form = some e) : e.isPrecondition = false := by
  rcases form with _ | c
  · exact isPrecondition_of_response (errorOf_eq_some_iff.mp h)
  · have hEnvelope := errorOf_eq_some_iff.mp h
    rw [envelope] at hEnvelope
    rcases hResponse : turn.response with e' | response
    · rw [hResponse] at hEnvelope
      cases hEnvelope
      exact isPrecondition_of_response hResponse
    · rw [hResponse] at hEnvelope
      exact Response.isPrecondition_of_envelope hEnvelope

variable {α : Type} {s s' : Session} {request : Request} {answer : Except TransportError Response}

theorem run_send (h : (exchange request).run s = (answer.mapError .transport, s')) :
    (send request).run s =
      (Turn.response ⟨request, answer⟩, s'.tell (Turn.events ⟨request, answer⟩ .bytes)) := by
  rw [Client.run_send, h]
  rcases answer with cause | response
  · exact congrArg (Prod.mk _) s'.tell_nil.symm
  · change (if 400 ≤ response.status then _ else _) = ((if 400 ≤ response.status then _ else _), _)
    by_cases hStatus : 400 ≤ response.status
    · rw [if_pos hStatus, if_pos hStatus, events]
      simp only [if_pos hStatus]
    · rw [if_neg hStatus, if_neg hStatus, events]
      simp only [if_neg hStatus, Session.tell_nil]

theorem run_receive (c : Codec α)
    (h : (exchange request).run s = (answer.mapError .transport, s')) :
    (send request >>= Client.read c).run s =
      (Turn.envelope c ⟨request, answer⟩,
        s'.tell (Turn.events ⟨request, answer⟩ (.envelope c))) := by
  rw [run_bind, run_send h, envelope]
  rcases answer with cause | response
  · rfl
  · simp only [Turn.response, events]
    by_cases hStatus : 400 ≤ response.status
    · simp only [if_pos hStatus]
      rfl
    · simp only [if_neg hStatus, Session.tell_nil]
      rfl

theorem run_fetch (c : Codec α) {method : Method} {path : String} {body : Option Json}
    (h : (exchange { method, path, body := body.map .json }).run s =
      (answer.mapError .transport, s')) :
    (fetch c method path body).run s =
      (Turn.result c ⟨{ method, path, body := body.map .json }, answer⟩,
        s'.tell (Turn.events ⟨{ method, path, body := body.map .json }, answer⟩
          (.envelope c))) := by
  have hRequest : (Client.request c method path body).run s = _ := run_receive c h
  rw [fetch, run_bind, hRequest, result]
  rcases Turn.envelope c _ with e | envelope <;> rfl

theorem events_of_result {c : Codec α} {turn : Turn} {a : α} (h : turn.result c = .ok a) :
    turn.events (.envelope c) = [] := by
  obtain ⟨request, cause | response⟩ := turn
  · rfl
  · rw [result, envelope, Turn.response] at h
    rw [events]
    by_cases hStatus : 400 ≤ response.status
    · simp only [if_pos hStatus] at h
      cases h
    · simp only [if_neg hStatus] at h ⊢
      rcases hEnvelope : response.envelope c with e | envelope
      · rw [show Except.ok response >>= Response.envelope c = _ from hEnvelope] at h
        cases h
      · exact envelopeEvents_of_ok hEnvelope

end Turn

/-- Between two sessions these turns were taken, and nothing else happened but that time passed and
something was told. -/
inductive Dialogue : Session → List Turn → Session → Prop
  | done {s : Session} : Dialogue s [] s
  | wait {s s' : Session} {turns : List Turn} (duration : Nat) :
      Dialogue (s.pass duration).2 turns s' → Dialogue s turns s'
  | tell {s s' : Session} {turns : List Turn} (events : List LogEvent) :
      Dialogue (s.tell events) turns s' → Dialogue s turns s'
  | turn {s s₁ s' : Session} {request : Request} {answer : Except TransportError Response}
      {turns : List Turn} : s.cancelled = false →
      (exchange request).run s = (answer.mapError .transport, s₁) → Dialogue s₁ turns s' →
      Dialogue s (⟨request, answer⟩ :: turns) s'

namespace Dialogue

variable {s s' s'' : Session} {turns more : List Turn}

theorem append (h : Dialogue s turns s') (hMore : Dialogue s' more s'') :
    Dialogue s (turns ++ more) s'' := by
  induction h with
  | done => exact hMore
  | wait duration _ ih => exact .wait duration (ih hMore)
  | tell events _ ih => exact .tell events (ih hMore)
  | turn hActive hRun _ ih => exact .turn hActive hRun (ih hMore)

/-- The turns account for the requests sent. -/
theorem map_request (h : Dialogue s turns s') :
    s'.sent.map Sent.request = s.sent.map Sent.request ++ turns.map Turn.request := by
  induction h with
  | done => simp
  | @wait s _ _ duration _ ih =>
    obtain ⟨now, cancelled, hPass⟩ := s.pass_eq duration
    rw [ih, hPass]
  | tell events _ ih => exact ih
  | turn hActive hRun _ ih =>
    obtain ⟨answer, s₁, hRun', hSent, _⟩ := run_exchange_of_not_cancelled _ hActive
    obtain ⟨_, rfl⟩ := Prod.mk.inj (hRun'.symm.trans hRun)
    rw [ih, hSent]
    simp

theorem schedule_eq (h : Dialogue s turns s') : s'.schedule = s.schedule := by
  induction h with
  | done => rfl
  | @wait s _ _ duration _ ih =>
    obtain ⟨now, cancelled, hPass⟩ := s.pass_eq duration
    rw [ih, hPass]
  | tell events _ ih => exact ih
  | turn hActive hRun _ ih =>
    obtain ⟨answer, s₁, hRun', _, hSchedule, _⟩ := run_exchange_of_not_cancelled _ hActive
    obtain ⟨_, rfl⟩ := Prod.mk.inj (hRun'.symm.trans hRun)
    rw [ih, hSchedule]

theorem exists_of_exchange (request : Request) (s : Session) :
    s.cancelled = true ∧ (exchange request).run s = (.error (.transport .canceled), s) ∨
      ∃ answer s', (∀ events, Dialogue s [⟨request, answer⟩] (s'.tell events)) ∧
        (exchange request).run s = (answer.mapError .transport, s') := by
  cases hs : s.cancelled with
  | true => exact .inl ⟨rfl, run_exchange_of_cancelled request hs⟩
  | false =>
    obtain ⟨answer, s', hRun, _⟩ := run_exchange_of_not_cancelled request hs
    exact .inr ⟨answer, s', fun events => .turn hs hRun (.tell events .done), hRun⟩

theorem exists_of_send (request : Request) (s : Session) :
    s.cancelled = true ∧ (send request).run s = (.error (.transport .canceled), s) ∨
      ∃ turn s', Dialogue s [turn] s' ∧ turn.request = request ∧
        (send request).run s = (turn.response, s') := by
  rcases exists_of_exchange request s with ⟨hs, hRun⟩ | ⟨answer, s', hTurn, hRun⟩
  · exact .inl ⟨hs, run_bind_error hRun⟩
  · exact .inr ⟨⟨request, answer⟩, _, hTurn _, rfl, Turn.run_send hRun⟩

theorem exists_of_receive {α : Type} (c : Codec α) (request : Request) (s : Session) :
    s.cancelled = true ∧
        (send request >>= Client.read c).run s = (.error (.transport .canceled), s) ∨
      ∃ turn s', Dialogue s [turn] s' ∧ turn.request = request ∧
        (send request >>= Client.read c).run s = (turn.envelope c, s') := by
  rcases exists_of_exchange request s with ⟨hs, hRun⟩ | ⟨answer, s', hTurn, hRun⟩
  · exact .inl ⟨hs, run_bind_error (run_bind_error hRun)⟩
  · exact .inr ⟨⟨request, answer⟩, _, hTurn _, rfl, Turn.run_receive c hRun⟩

theorem exists_of_request {α : Type} (c : Codec α) (method : Method) (path : String)
    (body : Option Json) (s : Session) :
    s.cancelled = true ∧
        (request c method path body).run s = (.error (.transport .canceled), s) ∨
      ∃ turn s', Dialogue s [turn] s' ∧
        turn.request = { method, path, body := body.map .json } ∧
        (request c method path body).run s = (turn.envelope c, s') :=
  exists_of_receive c _ s

theorem exists_of_fetch {α : Type} (c : Codec α) (method : Method) (path : String)
    (body : Option Json) (s : Session) :
    s.cancelled = true ∧ (fetch c method path body).run s = (.error (.transport .canceled), s) ∨
      ∃ turn s', Dialogue s [turn] s' ∧
        turn.request = { method, path, body := body.map .json } ∧
        (fetch c method path body).run s = (turn.result c, s') := by
  rcases exists_of_exchange { method, path, body := body.map .json } s with
    ⟨hs, hRun⟩ | ⟨answer, s', hTurn, hRun⟩
  · exact .inl ⟨hs, run_bind_error (run_bind_error (run_bind_error hRun))⟩
  · exact .inr ⟨⟨_, answer⟩, _, hTurn _, rfl, Turn.run_fetch c hRun⟩

end Dialogue

/-! ## Refused answers -/

/-- Every turn is read in a form that its request allows, and a refused one is the last and gives
the outcome. -/
def Settled (reads : Request → Form → Prop) (turns : List Turn) (outcome : Option Error) : Prop :=
  ∀ earlier turn later, turns = earlier ++ turn :: later →
    ∃ form, reads turn.request form ∧
      ∀ e, turn.refusal form = some e → later = [] ∧ outcome = some e

namespace Settled

variable {reads : Request → Form → Prop} {turns more : List Turn} {outcome : Option Error}

theorem nil (outcome : Option Error) : Settled reads [] outcome := by
  intro earlier turn later hTurns
  simp at hTurns

theorem single {turn : Turn} {form : Form} (hForm : reads turn.request form) :
    Settled reads [turn] (turn.refusal form) := by
  intro earlier turn' later hTurns
  obtain ⟨rfl, rfl, rfl⟩ : earlier = [] ∧ turn = turn' ∧ later = [] := by
    rcases earlier with _ | ⟨_, earlier⟩ <;> simp_all
  exact ⟨form, hForm, fun e he => ⟨rfl, he⟩⟩

theorem append (h : Settled reads turns none) (hMore : Settled reads more outcome) :
    Settled reads (turns ++ more) outcome := by
  intro earlier turn later hTurns
  rcases List.append_eq_append_iff.mp hTurns with ⟨start, rfl, rfl⟩ | ⟨rest, hSplit, hRest⟩
  · exact hMore start turn later rfl
  · rcases rest with _ | ⟨_, rest⟩
    · exact hMore [] turn later (by simpa using hRest.symm)
    · obtain ⟨rfl, rfl⟩ := List.cons.inj hRest
      obtain ⟨form, hForm, hRefused⟩ := h earlier turn rest (by simp [hSplit])
      refine ⟨form, hForm, fun e he => ?_⟩
      cases (hRefused e he).2

end Settled

def Conduct.settling (reads : Request → Form → Prop) : Conduct where
  holds s outcome s' := ∃ turns, Dialogue s turns s' ∧ Settled reads turns outcome
  reads := reads
  done _ := ⟨[], .done, .nil none⟩
  andThen := by
    rintro s s' s'' outcome ⟨turns, hDialogue, hSettled⟩ ⟨more, hMore, hLater⟩
    exact ⟨turns ++ more, hDialogue.append hMore, hSettled.append hLater⟩
  raise _ e _ := ⟨[], .done, .nil (some e)⟩
  wait duration := by
    intro s
    refine ⟨[], .wait duration ?_, .nil _⟩
    rw [run_sleep]
    exact .done
  tell events _ _ := ⟨[], .tell events .done, .nil _⟩
  send request hForm := by
    intro s
    rcases Dialogue.exists_of_send request s with ⟨_, hRun⟩ | ⟨turn, s', hTurn, rfl, hRun⟩
    · rw [hRun]
      exact ⟨[], .done, .nil _⟩
    · rw [hRun]
      exact ⟨[turn], hTurn, .single hForm⟩
  receive c request hForm := by
    intro s
    rcases Dialogue.exists_of_receive c request s with ⟨_, hRun⟩ | ⟨turn, s', hTurn, rfl, hRun⟩
    · rw [hRun]
      exact ⟨[], .done, .nil _⟩
    · rw [hRun]
      exact ⟨[turn], hTurn, .single (show reads turn.request (.envelope c) from hForm)⟩

theorem Conduct.settling_throw {α : Type} {reads : Request → Form → Prop} (e : Error) :
    (settling reads).law.Governs (throw e : Client α) :=
  fun _ => ⟨[], .done, .nil (some e)⟩

/-- Whatever may be asked, and nothing else, is asked. -/
theorem Conduct.exists_requests {α : Type} {may : Request → Prop} {call : Client α}
    (h : (settling fun request _ => may request).law.Governs call) (s : Session) :
    ∃ requests, (call.run s).2.sent.map Sent.request = s.sent.map Sent.request ++ requests ∧
      ∀ request ∈ requests, may request := by
  obtain ⟨turns, hTurns, hSettled⟩ := h s
  refine ⟨turns.map Turn.request, hTurns.map_request, ?_⟩
  intro request hMem
  obtain ⟨turn, hTurn, rfl⟩ := List.mem_map.mp hMem
  obtain ⟨earlier, later, hSplit⟩ := List.append_of_mem hTurn
  obtain ⟨_, hMay, _⟩ := hSettled earlier turn later hSplit
  exact hMay

end EdgeApi
