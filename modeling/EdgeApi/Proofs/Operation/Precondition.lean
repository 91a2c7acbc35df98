import EdgeApi.Proofs.Operation.Forms

/-!
# Preconditions

Errors of preconditions and the requests sent before them. Replies raise no such errors, but one of
them gives the identifier that a change goes on with.
-/

set_option autoImplicit false

namespace EdgeApi

open Client EdgeApi.Lists Law

def Conduct.admitted : Conduct where
  holds _ outcome _ := ∀ e, outcome = some e → e.isPrecondition = false
  reads _ _ := True
  done _ := by rintro e ⟨⟩
  andThen _ h := h
  raise _ e he := by
    rintro _ ⟨⟩
    exact he
  wait duration := by
    intro s e he
    rw [run_sleep] at he
    rcases hPass : s.pass duration with ⟨_ | _, s'⟩ <;> rw [hPass] at he <;> cases he
    rfl
  tell _ _ _ := by rintro e ⟨⟩
  send request _ := by
    intro s e he
    rcases Dialogue.exists_of_send request s with ⟨_, hRun⟩ | ⟨turn, s', _, _, hRun⟩ <;>
      rw [hRun] at he
    · cases he
      rfl
    · exact Turn.isPrecondition_of_response (errorOf_eq_some_iff.mp he)
  receive c request _ := by
    intro s e he
    rcases Dialogue.exists_of_receive c request s with ⟨_, hRun⟩ | ⟨turn, s', _, _, hRun⟩ <;>
      rw [hRun] at he
    · cases he
      rfl
    · exact Turn.isPrecondition_of_refusal (show turn.refusal (.envelope c) = some e from he)

namespace Lists.Change

theorem sent_of_start {list id : String} {change : Change} {c : Container} {s s' : Session}
    (h : ((start list change).run c).run s = (.ok id, s')) :
    s'.sent = s.sent ++ [⟨request list change c, s.now⟩] := by
  obtain ⟨_, hExchange⟩ := Call.exchange_of_run h
  change (OperationRef.operationId <$> fetch OperationRef.codec change.method
    (ItemList.itemsPath c list) (some change.body.sorted)).run s = _ at hExchange
  rw [run_map] at hExchange
  rcases hFetch : (fetch OperationRef.codec change.method (ItemList.itemsPath c list)
    (some change.body.sorted)).run s with ⟨e | ref, s₁⟩
  · rw [hFetch] at hExchange
    cases hExchange
  · rw [hFetch] at hExchange
    cases hExchange
    exact sent_of_fetch hFetch

end Lists.Change

namespace Operation

variable {α : Type} {c : Container} {s : Session}

/-- A change that was started by a reply without the identifier of its operation. -/
def startsNameless : Operation α → Container → Session → Prop
  | applyChange list change, c, s => (((Change.start list change).run c).run s).1 = .ok ""
  | _, _, _ => False

theorem run_applyChange_of_nameless {list : String} {change : Change}
    (h : (applyChange list change).startsNameless c s) :
    ∃ s', ((applyChange list change).run c).run s =
        (.error (.missingResourceId "operation id"), s') ∧
      s'.sent = s.sent ++ [⟨change.request list c, s.now⟩] := by
  rcases hStart : ((Change.start list change).run c).run s with ⟨outcome, s'⟩
  rw [startsNameless, hStart] at h
  subst h
  refine ⟨s', ?_, Change.sent_of_start hStart⟩
  obtain ⟨hGuard, _⟩ := Call.exchange_of_run hStart
  have hApply : (Change.apply list change).guard c = .ok () := hGuard
  have hPoll := Change.guard_poll (Call.guard_eq_ok_iff.mp hGuard).1 ""
  rw [run, call, Call.run_of_guard hApply]
  exact (run_bind_ok hStart).trans (run_bind_error (Call.run_of_guard_eq_error hPoll s'))

theorem isPrecondition_applyChange {list : String} {change : Change} {e : Error}
    (hGuard : (Change.apply list change).guard c = .ok ())
    (hNamed : (((Change.start list change).run c).run s).1 ≠ .ok "")
    (hOutcome : (((Change.apply list change).run c).run s).1 = .error e) :
    e.isPrecondition = false := by
  have hStartGuard : (Change.start list change).guard c = .ok () := hGuard
  have hItemsGuard : (Item.list list none none none).guard c = .ok () := hGuard
  rw [Call.run_of_guard hGuard] at hOutcome
  change (((Change.start list change).run c >>= fun id => (Change.poll id).run c >>= fun _ =>
    (Item.list list none none none).run c).run s).1 = .error e at hOutcome
  rcases hStart : ((Change.start list change).run c).run s with ⟨e' | id, s'⟩
  · have hLaw : Conduct.admitted.law.Governs ((Change.start list change).run c) :=
      governs_run_of_guard hStartGuard ((governs_fetch trivial).map _)
    rw [run_bind_error hStart] at hOutcome
    cases hOutcome
    exact hLaw s e (by rw [hStart]; rfl)
  · have hId : id ≠ "" := by
      rintro rfl
      exact hNamed (congrArg Prod.fst hStart)
    have hPollGuard : (Change.poll id).guard c = .ok () := by
      rw [Change.guard_poll (Call.guard_eq_ok_iff.mp hGuard).1, if_neg (by simpa using hId)]
    have hLaw : Conduct.admitted.law.Governs ((Change.poll id).run c >>= fun _ =>
        (Item.list list none none none).run c) :=
      Governs.bind (governs_run_of_guard hPollGuard (governs_pollChange trivial hPollGuard))
        fun _ => governs_run_of_guard hItemsGuard ((governs_listCursor (fun _ => trivial) _).map _)
    rw [run_bind_ok hStart] at hOutcome
    exact hLaw s' e (errorOf_eq_some_iff.mpr hOutcome)

/-- Outside of nameless changes, what passes its guard ends in no error of a precondition. -/
theorem isPrecondition_of_guard {op : Operation α} (hGuard : op.call.guard c = .ok ())
    (hNamed : ¬ op.startsNameless c s) {e : Error} (hOutcome : ((op.run c).run s).1 = .error e) :
    e.isPrecondition = false := by
  by_cases hApplies : op.appliesChange = true
  · cases op with
    | applyChange list change => exact isPrecondition_applyChange hGuard hNamed hOutcome
    | _ => cases hApplies
  · have hLaw : Conduct.admitted.law.Governs (op.call.exchange c) :=
      governs_exchange (fun _ _ _ _ => trivial) hGuard fun h => absurd h hApplies
    rw [run, op.call.run_of_guard hGuard] at hOutcome
    exact hLaw s e (errorOf_eq_some_iff.mpr hOutcome)

/-- The error of a precondition means that nothing was sent, exactly outside of nameless changes. -/
theorem sent_of_isPrecondition_iff (op : Operation α) (c : Container) (s : Session) :
    (∀ e, ((op.run c).run s).1 = .error e → e.isPrecondition = true →
      ((op.run c).run s).2.sent = s.sent) ↔ ¬ op.startsNameless c s := by
  constructor
  · intro hSent hNameless
    cases op with
    | applyChange list change =>
      obtain ⟨s', hRun, hMore⟩ := run_applyChange_of_nameless hNameless
      have hSame := hSent (.missingResourceId "operation id") (by rw [hRun]) rfl
      rw [hRun, hMore] at hSame
      simp at hSame
    | _ => exact hNameless
  · intro hNamed e hOutcome hPrecondition
    cases hGuard : op.call.guard c with
    | error e' => rw [run, op.call.run_of_guard_eq_error hGuard]
    | ok _ =>
      rw [isPrecondition_of_guard hGuard hNamed hOutcome] at hPrecondition
      cases hPrecondition

/-! A change started by a reply whose operation has an empty identifier. -/

def namelessReply : Response where
  status := 200
  body := Text.Utf8.encode <| "\x7b\"success\":true,\"errors\":[],\"messages\":[]," ++
    "\"result\":\x7b\"operation_id\":\"\"\x7d\x7d"

def namelessChange : Except Error (List Item) × Session :=
  ((applyChange "L" (.add [⟨.ip "1.2.3.4", ""⟩])).run ⟨.account, "A"⟩).run
    { inbox := [fun _ => { outcome := .ok namelessReply }] }

theorem isPrecondition_namelessChange :
    (∃ e, namelessChange.1 = .error e ∧ e.isPrecondition = true) ∧
      namelessChange.2.sent.map (fun sent => sent.request.path) =
        ["/accounts/A/rules/lists/L/items"] := by
  have hOutcome : namelessChange.1 = .error (.missingResourceId "operation id") :=
    errorOf_eq_some_iff.mp (by decide +kernel)
  exact ⟨⟨_, hOutcome, rfl⟩, by decide +kernel⟩

end Operation

end EdgeApi
