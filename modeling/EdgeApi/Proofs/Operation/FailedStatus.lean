import EdgeApi.Proofs.Envelope.Result
import EdgeApi.Proofs.Operation.Forms

/-!
# Failed statuses

An answer with a status of 400 or more ends the operation. Its status alone gives the class of the
error; its body only gives what the error says.
-/

set_option autoImplicit false

namespace EdgeApi

theorem ErrorKind.ofStatus_eq_iff (status : Nat) :
    (ErrorKind.ofStatus status = .authentication ↔ status = 401) ∧
      (ErrorKind.ofStatus status = .authorization ↔ status = 403) ∧
      (ErrorKind.ofStatus status = .notFound ↔ status = 404) ∧
      (ErrorKind.ofStatus status = .rateLimit ↔ status = 429) ∧
      (ErrorKind.ofStatus status = .service ↔ 500 ≤ status ∧ status ≤ 599) ∧
      (ErrorKind.ofStatus status = .request ↔
        status ∉ [401, 403, 404, 429] ∧ ¬(500 ≤ status ∧ status ≤ 599)) := by
  refine ⟨?_, ?_, ?_, ?_, ?_, ?_⟩ <;> grind [ErrorKind.ofStatus]

namespace Error

variable {kind : ErrorKind} {details : ApiError}

theorem codes_api : (api kind details).codes = details.errors.map Notice.code :=
  rfl

theorem errorMessages_api :
    (api kind details).errorMessages = details.errors.map Notice.message :=
  rfl

theorem isClientError_api :
    (api kind details).isClientError = true ↔ 400 ≤ details.status ∧ details.status ≤ 499 :=
  decide_eq_true_iff

theorem isRateLimited_api : (api kind details).isRateLimited = true ↔ kind = .rateLimit := by
  change (some kind == some ErrorKind.rateLimit) = true ↔ _
  rw [beq_iff_eq, Option.some_inj]

theorem isNotFound_api : (api kind details).isNotFound = true ↔ kind = .notFound := by
  change (some kind == some ErrorKind.notFound) = true ↔ _
  rw [beq_iff_eq, Option.some_inj]

end Error

namespace Members

def put (name : String) (value : Document) : Members → Members
  | .cons (some n) v tail => .cons (some n) (if n = name then value else v) (tail.put name value)
  | .cons none v tail => .cons none v (tail.put name value)
  | .nameless found => .nameless found
  | .broken b => .broken b
  | .nil => .nil

end Members

namespace Envelope

variable {source : Source} {members : Members} {found found' : Slots Unit} {value : Document}

/-- Whatever well-formed value stands for a result that is passed over, the other members are read
alike. -/
theorem exists_takeMembers_put (hValue : value.skip = .ok ()) (r : Option (Option Unit))
    (hFound : r.isSome = found.result.isSome)
    (h : (fields .ignored).takeMembers source members found = .ok found') :
    ∃ r', (fields .ignored).takeMembers source (members.put "result" value)
      (found.setResult r) = .ok (found'.setResult r') := by
  induction members using Members.inductTail generalizing found r with
  | nil =>
    cases h
    exact ⟨r, rfl⟩
  | broken | nameless => cases h
  | cons name v tail ih =>
    rcases name with _ | name
    · cases h
    · by_cases hName : name = "result"
      · subst hName
        obtain ⟨a, hRead⟩ := exists_decode_of_skip hValue
        rw [Fields.takeMembers, take_result] at h
        rcases hResult : found.result with _ | result
        · obtain rfl : r = none := by
            rw [hResult] at hFound
            exact Option.not_isSome_iff_eq_none.mp (by simp [hFound])
          rw [hResult] at h
          rcases hDecode : (Codec.optional .ignored).decode source v with fault | b
          · rw [hDecode] at h
            cases h
          · rw [hDecode] at h
            rw [Members.put, if_pos rfl, Fields.takeMembers, take_result, hRead]
            have hTail : (fields .ignored).takeMembers source tail (found.setResult (some b)) =
              .ok found' := h
            obtain ⟨r', hPut⟩ := ih (some a) rfl hTail
            exact ⟨r', hPut⟩
        · rw [hResult] at h
          cases h
      · have hSame := take_setResult .ignored .ignored source v found r hName
        rw [Members.put, if_neg hName, Fields.takeMembers, hSame]
        rcases Fields.takeMembers_cons_eq_ok h with ⟨next, hTake, hTail⟩ | ⟨hTake, hSkip, hTail⟩
        · rw [hTake]
          exact ih r (by rw [result_of_take hTake hName, hFound]) hTail
        · rw [hTake, hSkip]
          exact ih r hFound hTail

end Envelope

namespace Response

/-- The body as an envelope, whatever its result is. -/
def report (r : Response) : Except Fault (Envelope Unit) :=
  (Envelope.codec .ignored).decodeText r.body

/-- The bodies are objects with the same members, but for what stands for the result. -/
def SameButResult (r other : Response) : Prop :=
  ∃ members value, Document.read r.body = ⟨.object members, false⟩ ∧ value.skip = .ok () ∧
    Document.read other.body = ⟨.object (members.put "result" value), false⟩

theorem report_of_read {r : Response} {members : Members}
    (hRead : Document.read r.body = ⟨.object members, false⟩) :
    r.report = ((Envelope.fields .ignored).takeMembers (.streamed 126) members
      (Envelope.fields .ignored).empty).map Envelope.Slots.envelope := by
  have hEnter : Source.text.enter = .ok (.streamed 126) := rfl
  rw [report, Codec.decodeText_eq (by rw [hRead]), hRead, Envelope.decode_object .ignored hEnter]

theorem exists_report_of_sameButResult {r other : Response} {e : Envelope Unit}
    (hSame : r.SameButResult other) (h : r.report = .ok e) :
    ∃ result, other.report = .ok (e.withResult result) := by
  obtain ⟨members, value, hBody, hValue, hOther⟩ := hSame
  rw [report_of_read hBody] at h
  rw [report_of_read hOther]
  rcases hTake : (Envelope.fields .ignored).takeMembers (.streamed 126) members
    (Envelope.fields .ignored).empty with fault | found
  · rw [hTake] at h
    cases h
  · rw [hTake] at h
    cases h
    obtain ⟨r', hPut⟩ := Envelope.exists_takeMembers_put hValue none rfl hTake
    have hPut' : (Envelope.fields .ignored).takeMembers (.streamed 126)
        (members.put "result" value) (Envelope.fields .ignored).empty = _ := hPut
    rw [hPut']
    exact ⟨r'.getD none, rfl⟩

def bodyText (r : Response) : String :=
  Text.trim (Text.Utf8.decodeLossy r.body)

theorem failure_of_report {r : Response} {e : Envelope Unit} (h : r.report = .ok e) :
    r.failure = {
      status := r.status, errors := e.errors, messages := e.messages.map Notice.message
      rayId := r.rayId? } := by
  rw [report] at h
  rw [failure, h]

theorem failure_of_report_eq_error {r : Response} {fault : Fault} (h : r.report = .error fault) :
    r.failure = {
      status := r.status, errors := if r.bodyText = "" then [] else [⟨0, r.bodyText⟩]
      messages := [], rayId := r.rayId? } := by
  have hEmpty : r.bodyText.isEmpty = true ↔ r.bodyText = "" := String.isEmpty_iff
  rw [report] at h
  rw [failure, h]
  simp only [← hEmpty]
  rfl

theorem status_failure (r : Response) : r.failure.status = r.status := by
  rcases hReport : r.report with fault | e
  · rw [failure_of_report_eq_error hReport]
  · rw [failure_of_report hReport]

theorem rayId_failure (r : Response) : r.failure.rayId = r.rayId? := by
  rcases hReport : r.report with fault | e
  · rw [failure_of_report_eq_error hReport]
  · rw [failure_of_report hReport]

/-- How a failed response is classed, and what the error says of it. -/
structure ClassedAs (r : Response) (kind : ErrorKind) (details : ApiError) : Prop where
  authentication : kind = .authentication ↔ r.status = 401
  authorization : kind = .authorization ↔ r.status = 403
  notFound : kind = .notFound ↔ r.status = 404
  rateLimit : kind = .rateLimit ↔ r.status = 429
  service : kind = .service ↔ 500 ≤ r.status ∧ r.status ≤ 599
  request : kind = .request ↔
    r.status ∉ [401, 403, 404, 429] ∧ ¬(500 ≤ r.status ∧ r.status ≤ 599)
  status : (Error.api kind details).status? = some r.status
  rayId : (Error.api kind details).rayId? = r.rayId?
  /-- A body that is an envelope gives the errors and the messages. -/
  reported : ∀ e, r.report = .ok e →
    details.errors = e.errors ∧ details.messages = e.messages.map Notice.message
  /-- What stands for the result of the envelope does not matter. -/
  anyResult : ∀ other e, r.SameButResult other → r.report = .ok e →
    ∃ e', other.report = .ok e' ∧ e'.errors = details.errors ∧
      e'.messages.map Notice.message = details.messages
  /-- Any other body stands as the text of a single error. -/
  unreported : ∀ fault, r.report = .error fault →
    details.errors = (if r.bodyText = "" then [] else [⟨0, r.bodyText⟩]) ∧ details.messages = []
  codes : (Error.api kind details).codes = details.errors.map Notice.code
  errorMessages : (Error.api kind details).errorMessages = details.errors.map Notice.message
  isClientError : (Error.api kind details).isClientError = true ↔ 400 ≤ r.status ∧ r.status ≤ 499
  isRateLimited : (Error.api kind details).isRateLimited = true ↔ r.status = 429
  isNotFound : (Error.api kind details).isNotFound = true ↔ r.status = 404

theorem classedAs_failure (r : Response) : r.ClassedAs (.ofStatus r.status) r.failure := by
  obtain ⟨hAuthentication, hAuthorization, hNotFound, hRateLimit, hService, hRequest⟩ :=
    ErrorKind.ofStatus_eq_iff r.status
  exact {
    authentication := hAuthentication
    authorization := hAuthorization
    notFound := hNotFound
    rateLimit := hRateLimit
    service := hService
    request := hRequest
    status := congrArg some r.status_failure
    rayId := r.rayId_failure
    reported := fun e hReport => by
      rw [failure_of_report hReport]
      exact ⟨rfl, rfl⟩
    anyResult := fun other e hSame hReport => by
      obtain ⟨result, hOther⟩ := exists_report_of_sameButResult hSame hReport
      rw [failure_of_report hReport]
      exact ⟨_, hOther, rfl, rfl⟩
    unreported := fun fault hReport => by
      simp only [failure_of_report_eq_error hReport, and_self]
    codes := Error.codes_api
    errorMessages := Error.errorMessages_api
    isClientError := by
      rw [Error.isClientError_api, r.status_failure]
    isRateLimited := Error.isRateLimited_api.trans hRateLimit
    isNotFound := Error.isNotFound_api.trans hNotFound }

end Response

namespace Turn

open Client

/-- In every form a failed status is refused with the error of its class. -/
theorem refusal_of_failed {turn : Turn} {response : Response} (hAnswer : turn.answer = .ok response)
    (hStatus : 400 ≤ response.status) (form : Form) :
    turn.refusal form = some response.classify := by
  have hResponse : turn.response = .error response.classify := by
    rw [Turn.response, hAnswer]
    exact if_pos hStatus
  cases form with
  | bytes => exact congrArg errorOf hResponse
  | envelope codec =>
    have hEnvelope : turn.envelope codec = .error response.classify := by
      rw [Turn.envelope, hResponse]
      rfl
    exact congrArg errorOf hEnvelope

end Turn

namespace Operation

open Client

variable {α : Type}

/-- Whichever request of an operation is answered with a status of 400 or more, it is the last one,
and the operation fails with the error of the class of that status. -/
theorem outcome_of_failed_status (op : Operation α) (c : Container) (s : Session) :
    ∃ turns, Dialogue s turns ((op.run c).run s).2 ∧
      ((op.run c).run s).2.sent.map Sent.request =
        s.sent.map Sent.request ++ turns.map Turn.request ∧
      ∀ earlier turn later response, turns = earlier ++ turn :: later →
        turn.answer = .ok response → 400 ≤ response.status →
          later = [] ∧ ∃ kind details,
            ((op.run c).run s).1 = .error (.api kind details) ∧
              response.ClassedAs kind details := by
  obtain ⟨turns, hDialogue, hSettled⟩ := op.exists_dialogue c s
  refine ⟨turns, hDialogue, hDialogue.map_request, ?_⟩
  intro earlier turn later response hTurns hAnswer hStatus
  obtain ⟨form, _, hRefused⟩ := hSettled earlier turn later hTurns
  obtain ⟨hLast, hOutcome⟩ := hRefused _ (turn.refusal_of_failed hAnswer hStatus form)
  exact ⟨hLast, _, _, errorOf_eq_some_iff.mp hOutcome, response.classedAs_failure⟩

end Operation

end EdgeApi
