import EdgeApi.Proofs.Envelope.Entries
import EdgeApi.Proofs.Operation.FailedStatus

/-!
# Acknowledgements

An operation that returns nothing sends one request, and of the answer it wants to know whether it
is a success. What stands for the result in the answer makes no difference.
-/

set_option autoImplicit false

namespace EdgeApi

open Client Storage

/-! ## Answers -/

theorem Envelope.take_ignored (e : Envelope Unit) : e.take .ignored = .ok () := by
  rw [take]
  cases e.result <;> rfl

namespace Response

/-- The body is an object with these members, all of them well formed and none of those of an
envelope given twice. -/
structure HasEntries (r : Response) (entries : List (String × Document)) : Prop where
  body : Document.read r.body = ⟨.object (.ofEntries entries), false⟩
  values : ∀ entry ∈ entries, entry.2.skip = .ok ()
  once : ((entries.map Prod.fst).filter (· ∈ Envelope.names)).Nodup

/-- A text in which one object is open. -/
def inside : Source :=
  .streamed 126

variable {r other : Response} {entries others : List (String × Document)} {e : Envelope Unit}

theorem HasEntries.skip_result (h : r.HasEntries entries) :
    ∀ value, entries.lookup "result" = some value → value.skip = .ok () :=
  fun _ hFound => h.values _ (mem_of_lookup hFound)

theorem HasEntries.report_eq (h : r.HasEntries entries) {found : Envelope.Slots Unit}
    (hTakes : (Envelope.fields .ignored).Takes inside (entries.lookup ·)
      (Envelope.fields .ignored).empty found) : r.report = .ok found.envelope := by
  have hDistinct : (Envelope.fields .ignored).names.Nodup := by
    change Envelope.names.Nodup
    decide
  have hTaken := Fields.takeMembers_ofEntries hDistinct h.values h.once hTakes
  rw [report_of_read h.body]
  change (Fields.takeMembers _ inside _ _).map _ = _
  rw [hTaken]
  rfl

/-- Bodies with the same members beside the result are the same envelopes beside the result. -/
theorem exists_report_withResult (h : r.HasEntries entries) (hOther : other.HasEntries others)
    (hWell : Envelope.WellFormed inside (entries.lookup ·))
    (hSame : ∀ name ∈ Envelope.names, name ≠ "result" →
      entries.lookup name = others.lookup name) :
    ∃ e result, r.report = .ok e ∧ other.report = .ok (e.withResult result) ∧
      (e.success = true ↔ entries.lookup "success" = some (.bool true)) := by
  obtain ⟨found, hTakes⟩ := Envelope.exists_takes hWell h.skip_result
  obtain ⟨result, hTakes'⟩ := Envelope.exists_takes_setResult hTakes hSame hOther.skip_result
  have hReport := hOther.report_eq hTakes'
  exact ⟨found.envelope, result.getD none, h.report_eq hTakes, hReport,
    Envelope.success_envelope_iff hTakes⟩

def acknowledged (r : Response) : Except Error Unit :=
  if 400 ≤ r.status then .error r.classify else r.envelope .ignored >>= Envelope.take .ignored

def complaint (r : Response) (e : Envelope Unit) : Error :=
  .api (if 400 ≤ r.status then .ofStatus r.status else .request)
    { status := r.status, errors := e.errors, messages := e.messages.map Notice.message,
      rayId := r.rayId? }

theorem acknowledged_of_report (h : r.report = .ok e) :
    r.acknowledged =
      if r.status < 400 ∧ e.success = true then .ok () else .error (r.complaint e) := by
  rw [acknowledged, complaint]
  by_cases hStatus : 400 ≤ r.status
  · rw [if_pos hStatus, if_pos hStatus, if_neg (by omega), classify, failure_of_report h]
    rfl
  · rw [report] at h
    rw [if_neg hStatus, if_neg hStatus, envelope, h]
    cases hSuccess : e.success with
    | true =>
      rw [if_pos ⟨Nat.lt_of_not_le hStatus, rfl⟩, ← e.take_ignored]
      simp only [hSuccess, if_true]
      rfl
    | false =>
      simp only [hSuccess, Bool.false_eq_true, and_false, if_false]
      rfl

theorem acknowledged_eq_ok_iff (h : r.report = .ok e) :
    r.acknowledged = .ok () ↔ r.status < 400 ∧ e.success = true := by
  rw [acknowledged_of_report h]
  split <;> simp [*]

theorem acknowledged_congr {result : Option Unit} (h : r.report = .ok e)
    (hOther : other.report = .ok (e.withResult result)) (hStatus : r.status = other.status)
    (hHeaders : r.headers = other.headers) : r.acknowledged = other.acknowledged := by
  have hRay : r.rayId? = other.rayId? := by
    rw [rayId?, rayId?, headerText?, headerText?, header?, header?, hHeaders]
  rw [acknowledged_of_report h, acknowledged_of_report hOther, complaint, complaint, hStatus, hRay]
  rfl

end Response

namespace Session

variable (s : Session) (request : Request) (delay : Nat) (rest : List (Request → Delivery))

/-- The session with an answer that comes next, after some time. -/
def answered (response : Response) : Session :=
  { s with inbox := (fun _ => { delay, outcome := .ok response }) :: rest }

def accepted : Session :=
  { s with
    sent := s.sent ++ [⟨request, s.now⟩], inbox := rest
    cancelled := s.cancelled ||
      s.cancelAfter == some (s.sent ++ [(⟨request, s.now⟩ : Sent)]).length }

theorem accept_answered (response : Response) :
    (s.answered delay rest response).accept request =
      (some { delay, outcome := .ok response }, s.accepted request rest) :=
  rfl

theorem await_silent (outcome : Except TransportError Response) :
    s.await { delay, outcome } = if delay = 0 then (false, s) else s.pass delay := by
  simp [await]

theorem sent_pass : (s.pass delay).2.sent = s.sent := by
  obtain ⟨now, cancelled, hPass⟩ := s.pass_eq delay
  rw [hPass]

variable {s}

theorem Calm.accepted (hs : s.Calm) : (s.accepted request rest).Calm where
  cancelled := by simp [Session.accepted, hs.cancelled, hs.cancelAfter]
  cancelAt := hs.cancelAt
  cancelAfter := hs.cancelAfter

end Session

namespace Client

def acknowledge (request : Request) : Client Unit := do
  let response ← send request
  let envelope ← read .ignored response
  ofExcept (envelope.take .ignored)

theorem fetch_ignored (method : Method) (path : String) (body : Option Json) :
    fetch .ignored method path body =
      acknowledge { method, path, body := body.map .json } := by
  rw [fetch, request, bind_assoc]
  rfl

theorem run_acknowledge (request : Request) (s : Session) :
    (acknowledge request).run s =
      match (exchange request).run s with
      | (.ok response, s') => (response.acknowledged,
          s'.tell (Turn.events ⟨request, .ok response⟩ (.envelope .ignored)))
      | (.error e, s') => (.error e, s') := by
  rw [acknowledge, run_bind, run_send]
  rcases (exchange request).run s with ⟨e | response, s'⟩
  · rfl
  · simp only [Response.acknowledged, Turn.events]
    by_cases hStatus : 400 ≤ response.status
    · simp only [if_pos hStatus]
    · simp only [if_neg hStatus, run_bind, run_read]
      rcases response.envelope .ignored with e | envelope <;> rfl

theorem run_exchange_answered {s : Session} (hs : s.cancelled = false) (request : Request)
    (delay : Nat) (rest : List (Request → Delivery)) (response : Response) :
    (exchange request).run (s.answered delay rest response) =
      if delay = 0 then (.ok response, s.accepted request rest)
      else
        match (s.accepted request rest).pass delay with
        | (true, s') => (.error (.transport .canceled), s')
        | (false, s') => (.ok response, s') := by
  change (if s.cancelled then _ else _) = _
  rw [if_neg (by simp [hs]), Session.accept_answered]
  dsimp only
  rw [Session.await_silent]
  by_cases hDelay : delay = 0
  · simp only [if_pos hDelay]
    rfl
  · simp only [if_neg hDelay]
    rcases (s.accepted request rest).pass delay with ⟨_ | _, s'⟩ <;> rfl

/-- With an answer next, a request is not sent, or it is answered, or cancelled while it waits for
the answer. Which of these happens, and what becomes of the session, does not depend on what the
answer says. -/
theorem run_exchange_cases (request : Request) (s : Session) (delay : Nat)
    (rest : List (Request → Delivery)) :
    (s.cancelled = true ∧ ∀ response, (exchange request).run (s.answered delay rest response) =
      (.error (.transport .canceled), s.answered delay rest response)) ∨
    ∃ s' : Session, s'.sent = s.sent ++ [⟨request, s.now⟩] ∧
      ((∀ response, (exchange request).run (s.answered delay rest response) =
          (.ok response, s')) ∨
        ¬s.Calm ∧ ∀ response, (exchange request).run (s.answered delay rest response) =
          (.error (.transport .canceled), s')) := by
  -- only the delay of the answer decides, and it is the same whatever the answer says
  cases hs : s.cancelled with
  | true => exact .inl ⟨rfl, fun response => run_exchange_of_cancelled request hs⟩
  | false =>
    have hRun := run_exchange_answered hs request delay rest
    refine .inr ?_
    by_cases hDelay : delay = 0
    · exact ⟨s.accepted request rest, rfl,
        .inl fun response => (hRun response).trans (if_pos hDelay)⟩
    · have hSent := (s.accepted request rest).sent_pass delay
      simp only [if_neg hDelay] at hRun
      rcases hPass : (s.accepted request rest).pass delay with ⟨_ | _, s'⟩
      · rw [hPass] at hSent hRun
        exact ⟨s', hSent, .inl hRun⟩
      · rw [hPass] at hSent hRun
        refine ⟨s', hSent, .inr ⟨fun hCalm => ?_, hRun⟩⟩
        have hPasses := (hCalm.accepted request rest).pass_eq delay
        rw [hPass] at hPasses
        cases hPasses

end Client

namespace Operation

variable {α : Type}

def instruction (c : Container) (op : Operation α) : Option Request :=
  match op with
  | deleteGroup .. | deletePolicy .. | deleteApplication .. | deleteMember .. | deleteDatabase ..
  | deleteList .. | deletePagesDomain .. | detachWorkersDomain .. | deleteNamespace ..
  | deleteValue .. | deleteLockdown .. => some { method := .delete, path := op.route.path c }
  | renameNamespace _ title =>
    some { method := .put, path := op.route.path c,
           body := some (.json (Json.object [("title", .text title)])) }
  | writeEntries _ entries =>
    some { method := .put, path := op.route.path c,
           body := some (.json (Json.list (entries.map Entry.toJson)).sorted) }
  | writeValue _ _ value =>
    some { method := .put, path := op.route.path c, body := some (.bytes value),
           headers := [("content-type", "application/octet-stream")] }
  | _ => none

variable {op : Operation α} {c : Container} {request : Request}

theorem exchange_of_instruction (h : op.instruction c = some request) :
    (fun _ => ()) <$> op.call.exchange c = acknowledge request := by
  have hSame (call : Client Unit) : (fun _ => ()) <$> call = call := id_map call
  cases op with
  | deletePolicy application id =>
    cases h
    rw [route, policy_path]
    exact (hSame _).trans (fetch_ignored _ _ _)
  | deletePagesDomain project domain =>
    cases h
    rw [route, domain_path]
    exact (hSame _).trans (fetch_ignored _ _ _)
  | deleteValue ns key =>
    cases h
    rw [route, value_path]
    exact (hSame _).trans (fetch_ignored _ _ _)
  | writeValue ns key value =>
    cases h
    rw [route, value_path]
    exact hSame _
  | deleteGroup | deleteApplication | deleteMember | deleteDatabase | deleteList
  | detachWorkersDomain | deleteNamespace | deleteLockdown | renameNamespace | writeEntries =>
    cases h
    exact (hSame _).trans (fetch_ignored _ _ _)
  | _ => cases h

theorem run_of_instruction {op : Operation Unit} (h : op.instruction c = some request)
    (hGuard : op.call.guard c = .ok ()) (s : Session) :
    (op.run c).run s = (acknowledge request).run s := by
  have hExchange : op.call.exchange c = acknowledge request :=
    (id_map (op.call.exchange c)).symm.trans (exchange_of_instruction h)
  rw [run, Call.run_of_guard hGuard, hExchange]

/-- Two answers of the same status and headers, whose bodies are objects with the same members
beside the result, make no difference to an operation that returns nothing: it sends its request
and, if it gets an answer, succeeds exactly if the status is below 400 and the body says so. -/
theorem outcome_ignores_result {op : Operation Unit} (hOp : op.instruction c = some request)
    (hGuard : op.call.guard c = .ok ()) {first second : Response}
    {entries others : List (String × Document)} (hFirst : first.HasEntries entries)
    (hSecond : second.HasEntries others)
    (hWell : Envelope.WellFormed Response.inside (entries.lookup ·))
    (hStatus : first.status = second.status) (hHeaders : first.headers = second.headers)
    (hSame : ∀ name ∈ Envelope.names, name ≠ "result" →
      entries.lookup name = others.lookup name)
    (s : Session) (delay : Nat) (rest : List (Request → Delivery)) :
    ((op.run c).run (s.answered delay rest first)).1 =
        ((op.run c).run (s.answered delay rest second)).1 ∧
      ((op.run c).run (s.answered delay rest first)).2.sent =
        ((op.run c).run (s.answered delay rest second)).2.sent ∧
      (s.Calm →
        ((op.run c).run (s.answered delay rest first)).2.sent = s.sent ++ [⟨request, s.now⟩] ∧
        (((op.run c).run (s.answered delay rest first)).1 = .ok () ↔
          first.status < 400 ∧ entries.lookup "success" = some (.bool true))) := by
  obtain ⟨e, result, hReport, hOther, hSuccess⟩ :=
    Response.exists_report_withResult hFirst hSecond hWell hSame
  have hOutcome : first.acknowledged = second.acknowledged :=
    Response.acknowledged_congr hReport hOther hStatus hHeaders
  simp only [run_of_instruction hOp hGuard, run_acknowledge]
  rcases run_exchange_cases request s delay rest with
    ⟨hCancelled, hRun⟩ | ⟨s', hSent, hRun | ⟨hStormy, hRun⟩⟩
  · simp only [hRun]
    refine ⟨trivial, rfl, fun hCalm => ?_⟩
    rw [hCalm.cancelled] at hCancelled
    cases hCancelled
  · simp only [hRun, Session.sent_tell]
    refine ⟨hOutcome, trivial, fun _ => ⟨hSent, ?_⟩⟩
    rw [Response.acknowledged_eq_ok_iff hReport, hSuccess]
  · simp only [hRun]
    exact ⟨trivial, trivial, fun hCalm => absurd hCalm hStormy⟩

/-! A list deleted, with an answer that has no result and with one that has a list for it. -/

def bareEntries : List (String × Document) :=
  [("success", .bool true), ("errors", .list .nil), ("messages", .list .nil)]

def bareAnswer : Response where
  status := 200
  body := Text.Utf8.encode "\x7b\"success\":true,\"errors\":[],\"messages\":[]\x7d"

def loadedEntries : List (String × Document) :=
  [("result", .list (.cons .null .nil)), ("messages", .list .nil), ("errors", .list .nil),
    ("success", .bool true)]

def loadedAnswer : Response where
  status := 200
  body := Text.Utf8.encode <| "\x7b\"result\":[null],\"messages\":[],\"errors\":[]," ++
    "\"success\":true\x7d"

theorem hasEntries_bareAnswer : bareAnswer.HasEntries bareEntries where
  body := by decide +kernel
  values := by
    simp only [bareEntries, List.forall_mem_cons]
    exact ⟨rfl, rfl, rfl, List.forall_mem_nil _⟩
  once := by decide

theorem hasEntries_loadedAnswer : loadedAnswer.HasEntries loadedEntries where
  body := by decide +kernel
  values := by
    simp only [loadedEntries, List.forall_mem_cons]
    exact ⟨rfl, rfl, rfl, rfl, List.forall_mem_nil _⟩
  once := by decide

theorem wellFormed_bareEntries : Envelope.WellFormed Response.inside (bareEntries.lookup ·) where
  success := by
    rintro _ ⟨⟩
    exact ⟨true, rfl⟩
  errors := by
    rintro _ ⟨⟩
    exact ⟨[], rfl⟩
  messages := by
    rintro _ ⟨⟩
    exact ⟨[], rfl⟩
  info := nofun

theorem outcome_ignores_result_deleteList :
    ((deleteList "L").instruction ⟨.account, "A"⟩).isSome = true ∧
      (((deleteList "L").run ⟨.account, "A"⟩).run (Session.answered {} 0 [] bareAnswer)).1 =
        .ok () ∧
      (((deleteList "L").run ⟨.account, "A"⟩).run (Session.answered {} 0 [] loadedAnswer)).1 =
        .ok () := by
  have hSame : ∀ name ∈ Envelope.names, name ≠ "result" →
      bareEntries.lookup name = loadedEntries.lookup name := by
    simp only [Envelope.names, List.forall_mem_cons]
    exact ⟨fun _ => rfl, fun _ => rfl, fun _ => rfl, fun hName => absurd rfl hName, fun _ => rfl,
      List.forall_mem_nil _⟩
  have hOp : (deleteList "L").instruction ⟨.account, "A"⟩ =
      some { method := .delete, path := (deleteList "L").route.path ⟨.account, "A"⟩ } := rfl
  obtain ⟨hOutcome, -, hCalm⟩ := outcome_ignores_result hOp rfl hasEntries_bareAnswer
    hasEntries_loadedAnswer wellFormed_bareEntries rfl rfl hSame {} 0 []
  have hOk := (hCalm ⟨rfl, rfl, rfl⟩).2.mpr ⟨by decide, rfl⟩
  exact ⟨rfl, hOk, hOutcome.symm.trans hOk⟩

end Operation

end EdgeApi
