import Mathlib.Control.Monad.Basic
import EdgeApi.Proofs.Envelope.Result
import EdgeApi.Proofs.Operation.Forms

/-!
# Reported failures

A body may report a failure although the status is one of a success. The call then fails with what
the body reports if the result member could have been the result, and with a reading fault if not.
-/

set_option autoImplicit false

namespace EdgeApi

namespace Codec

variable {α : Type} {c : Codec α} {bytes : List UInt8}

theorem trailing_of_decodeText {a : α} (h : c.decodeText bytes = .ok a) :
    (Document.read bytes).trailing = false := by
  change (c.decode .text (Document.read bytes).root >>= fun value =>
    if (Document.read bytes).trailing then .error .malformed else pure value) = _ at h
  rcases hDecode : c.decode .text (Document.read bytes).root with fault | value
  · rw [hDecode] at h
    cases h
  · rw [hDecode] at h
    cases hTrailing : (Document.read bytes).trailing with
    | false => rfl
    | true =>
      rw [hTrailing] at h
      cases h

end Codec

namespace Document

def isObject : Document → Bool
  | object _ => true
  | _ => false

theorem isObject_iff {d : Document} : d.isObject = true ↔ ∃ members, d = object members := by
  cases d <;> simp [isObject]

end Document

namespace Response

variable {α : Type} {r : Response} {e : Envelope Unit}

/-- The body is the object of an envelope that reports a failure, whatever its result is. -/
structure ReportsFailure (r : Response) (e : Envelope Unit) : Prop where
  status : r.status < 400
  isObject : (Document.read r.body).root.isObject = true
  body : (Envelope.codec .ignored).decodeText r.body = .ok e
  failure : e.success = false

def reported (r : Response) (e : Envelope Unit) : Error :=
  .api .request
    { status := r.status, errors := e.errors, messages := e.messages.map Notice.message,
      rayId := r.rayId? }

/-- What the result member of the body is read as by itself. -/
def readResult (c : Codec α) (r : Response) : Except Fault (Option α) :=
  match (Document.read r.body).root with
  | .object members => Envelope.readResult c (.streamed 126) members
  | _ => .ok none

theorem ReportsFailure.envelope_eq (h : r.ReportsFailure e) (c : Codec α) :
    r.envelope c = .error
      (match r.readResult c with
      | .ok _ => r.reported e
      | .error fault => .unmarshal fault (Text.Utf8.decodeLossy r.body)) := by
  obtain ⟨members, hRoot⟩ := Document.isObject_iff.mp h.isObject
  have hTrailing := Codec.trailing_of_decodeText h.body
  have hDecode := h.body
  rw [Codec.decodeText_eq hTrailing, hRoot] at hDecode
  have hEnter : Source.text.enter = .ok (.streamed 126) := rfl
  have hText : (Envelope.codec c).decodeText r.body = (r.readResult c).map e.withResult := by
    rw [Codec.decodeText_eq hTrailing, hRoot, Envelope.decode_of_decode c hEnter hDecode,
      readResult, hRoot]
  rw [envelope, hText]
  rcases r.readResult c with fault | result
  · rfl
  · have hFailure : (e.withResult result).success = false := h.failure
    simp only [Except.map, hFailure]
    rfl

end Response

namespace Operation

open Client

variable {α : Type}

/-- An answer that reports a failure is the last one. The operation fails with the failure reported
exactly if the result member can be read in the form of the answer, and else with the fault of
reading it. -/
theorem outcome_of_reportsFailure {op : Operation α} (hForms : Form.bytes ∉ op.forms)
    (c : Container) (s : Session) :
    ∃ turns, Dialogue s turns ((op.run c).run s).2 ∧
      ∀ earlier turn later response e, turns = earlier ++ turn :: later →
        turn.answer = .ok response → response.ReportsFailure e →
        later = [] ∧ ∃ (β : Type) (codec : Codec β),
          op.Reads c turn.request (.envelope codec) ∧
          (((op.run c).run s).1 = .error (response.reported e) ↔
            ∃ result, response.readResult codec = .ok result) ∧
          ∀ fault, response.readResult codec = .error fault →
            ((op.run c).run s).1 =
              .error (.unmarshal fault (Text.Utf8.decodeLossy response.body)) := by
  obtain ⟨turns, hDialogue, hSettled⟩ := op.exists_dialogue c s
  refine ⟨turns, hDialogue, ?_⟩
  intro earlier turn later response e hTurns hAnswer hReports
  obtain ⟨form, hForm, hRefused⟩ := hSettled earlier turn later hTurns
  rcases form with _ | codec
  · exact absurd (mem_forms_of_reads hForm) hForms
  · have hResponse : turn.response = .ok response := by
      rw [Turn.response, hAnswer]
      exact if_neg (Nat.not_le.mpr hReports.status)
    have hRefusal : turn.refusal (.envelope codec) = some
        (match response.readResult codec with
        | .ok _ => response.reported e
        | .error fault => .unmarshal fault (Text.Utf8.decodeLossy response.body)) := by
      rw [Turn.refusal, Turn.envelope, hResponse]
      exact congrArg errorOf (hReports.envelope_eq codec)
    obtain ⟨hLast, hOutcome⟩ := hRefused _ hRefusal
    rw [errorOf_eq_some_iff] at hOutcome
    refine ⟨hLast, _, codec, hForm, ?_⟩
    rw [hOutcome]
    rcases response.readResult codec with fault | result <;> simp [Response.reported]

/-! A lookup whose answer reports a failure beside an empty object. -/

def unroutable : Response where
  status := 200
  body := Text.Utf8.encode <| "\x7b\"success\":false,\"errors\":[\x7b\"code\":7003," ++
    "\"message\":\"Could not route\"\x7d],\"messages\":[],\"result\":\x7b\x7d\x7d"

def unroutableReport : Envelope Unit :=
  ⟨false, [⟨7003, "Could not route"⟩], [], some (), none⟩

def unroutableLookup : Except Error Lists.ItemList × Session :=
  ((getList "L").run ⟨.account, "A"⟩).run { inbox := [fun _ => { outcome := .ok unroutable }] }

theorem outcome_of_reportsFailure_getList :
    Form.bytes ∉ (getList "L").forms ∧
      ∃ turns, Dialogue { inbox := [fun _ => { outcome := .ok unroutable }] } turns
          unroutableLookup.2 ∧
        ∀ earlier turn later response e, turns = earlier ++ turn :: later →
          turn.answer = .ok response → response.ReportsFailure e →
          later = [] ∧ ∃ (β : Type) (codec : Codec β),
            (getList "L").Reads ⟨.account, "A"⟩ turn.request (.envelope codec) ∧
            (unroutableLookup.1 = .error (response.reported e) ↔
              ∃ result, response.readResult codec = .ok result) ∧
            ∀ fault, response.readResult codec = .error fault →
              unroutableLookup.1 =
                .error (.unmarshal fault (Text.Utf8.decodeLossy response.body)) :=
  have hForms : Form.bytes ∉ (getList "L").forms := by
    rintro (_ | ⟨_, ⟨⟩⟩)
  ⟨hForms, outcome_of_reportsFailure hForms ⟨.account, "A"⟩ _⟩

theorem reportsFailure_unroutable : unroutable.ReportsFailure unroutableReport where
  status := by decide
  isObject := by decide +kernel
  body := by decide +kernel
  failure := rfl

theorem unroutableLookup_ne_reported :
    unroutable.ReportsFailure unroutableReport ∧
      unroutableLookup.1 ≠ .error (unroutable.reported unroutableReport) ∧
      unroutableLookup.1 = .error (.unmarshal (.mismatch (.missingField "id"))
        (Text.Utf8.decodeLossy unroutable.body)) := by
  have hOutcome : unroutableLookup.1 = .error (.unmarshal (.mismatch (.missingField "id"))
      (Text.Utf8.decodeLossy unroutable.body)) :=
    errorOf_eq_some_iff.mp (by decide +kernel)
  refine ⟨reportsFailure_unroutable, ?_, hOutcome⟩
  intro hReported
  rw [hOutcome] at hReported
  cases hReported

end Operation

end EdgeApi
