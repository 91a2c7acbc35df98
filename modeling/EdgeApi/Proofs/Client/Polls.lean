import EdgeApi.Proofs.Client.Dialogue

/-!
# Polls

The turns that are taken while an operation is waited for. Each one fetches its state, after a wait
that cancellation cuts short; the first state that is not one of going on gives the outcome.
-/

set_option autoImplicit false

namespace EdgeApi

open Client

theorem BulkOperation.status_of_verdict {op op' : BulkOperation}
    (h : op.verdict = some (.ok op')) : op' = op ∧ op.status = "completed" := by
  unfold verdict at h
  split at h
  · rename_i hStatus
    cases h
    exact ⟨rfl, hStatus⟩
  · split at h
    · cases h
    · split at h <;> cases h

/-- The turns that are taken from a step on with a number of steps left, and the outcome. -/
inductive Polls (schedule : Schedule) (request : Request) :
    Nat → Nat → List Turn → Except Error BulkOperation → Prop
  | timedOut {step : Nat} : Polls schedule request step 0 [] (.error .bulkOperationTimeout)
  | overflow {step left : Nat} : schedule.delay step = none →
      Polls schedule request step (left + 1) [] (.error .delayOverflow)
  | aborted {step left : Nat} : Polls schedule request step (left + 1) []
      (.error (.bulkOperationAborted "context canceled"))
  | failed {step left : Nat} {turn : Turn} {e : Error} : turn.request = request →
      turn.result BulkOperation.codec = .error e →
      Polls schedule request step (left + 1) [turn] (.error e)
  | ended {step left : Nat} {turn : Turn} {op : BulkOperation}
      {outcome : Except Error BulkOperation} : turn.request = request →
      turn.result BulkOperation.codec = .ok op → op.verdict = some outcome →
      Polls schedule request step (left + 1) [turn] outcome
  | next {step left : Nat} {turn : Turn} {op : BulkOperation} {turns : List Turn}
      {outcome : Except Error BulkOperation} : turn.request = request →
      turn.result BulkOperation.codec = .ok op → op.verdict = none →
      Polls schedule request (step + 1) left turns outcome →
      Polls schedule request step (left + 1) (turn :: turns) outcome

namespace Polls

variable {schedule : Schedule} {request : Request} {step left : Nat} {turns : List Turn}
  {outcome : Except Error BulkOperation}

theorem length_le (h : Polls schedule request step left turns outcome) : turns.length ≤ left := by
  induction h with
  | timedOut => exact Nat.le_refl 0
  | overflow | aborted => exact Nat.zero_le _
  | failed | ended => exact Nat.succ_pos _
  | next _ _ _ _ ih => exact Nat.succ_le_succ ih

theorem request_eq (h : Polls schedule request step left turns outcome) :
    ∀ turn ∈ turns, turn.request = request := by
  induction h with
  | timedOut | overflow | aborted => exact fun _ hMem => absurd hMem List.not_mem_nil
  | failed hRequest _ | ended hRequest _ _ =>
    rintro turn (_ | ⟨_, ⟨⟩⟩)
    exact hRequest
  | next hRequest _ _ _ ih =>
    rintro turn (_ | ⟨_, hMem⟩)
    · exact hRequest
    · exact ih turn hMem

/-- The last state fetched before success is that of a completed operation. -/
theorem completed (h : Polls schedule request step left turns outcome) {op : BulkOperation}
    (hOutcome : outcome = .ok op) :
    turns.getLast?.map (Turn.result BulkOperation.codec) = some (.ok op) ∧
      op.status = "completed" := by
  induction h with
  | timedOut | overflow | aborted | failed => cases hOutcome
  | ended _ hResult hVerdict =>
    subst hOutcome
    obtain ⟨rfl, hStatus⟩ := BulkOperation.status_of_verdict hVerdict
    exact ⟨congrArg some hResult, hStatus⟩
  | @next _ _ turn _ turns _ _ _ _ _ ih =>
    obtain ⟨hLast, hStatus⟩ := ih hOutcome
    rcases turns with _ | ⟨turn', turns⟩
    · cases hLast
    · exact ⟨hLast, hStatus⟩

end Polls

theorem Client.exists_polls (schedule : Schedule) (path : String) (left step : Nat) (s : Session) :
    ∃ turns, Dialogue s turns
        ((pollFrom schedule (fun _ => get BulkOperation.codec path) step left).run s).2 ∧
      Polls schedule { method := .get, path } step left turns
        ((pollFrom schedule (fun _ => get BulkOperation.codec path) step left).run s).1 := by
  induction left generalizing step s with
  | zero => exact ⟨[], .done, .timedOut⟩
  | succ left ih =>
    rw [pollFrom]
    cases hDelay : schedule.delay step with
    | none => exact ⟨[], .done, .overflow hDelay⟩
    | some duration =>
      rcases hPass : s.pass duration with ⟨_ | _, s₁⟩
      · have hSleep : (sleep duration).run s = (.ok (), s₁) := by
          rw [run_sleep, hPass]
          rfl
        have hWait : ∀ {turns s'}, Dialogue s₁ turns s' → Dialogue s turns s' := by
          intro turns s' hTurns
          refine .wait duration ?_
          rw [hPass]
          exact hTurns
        simp only [run_bind_ok hSleep]
        rcases Dialogue.exists_of_fetch BulkOperation.codec .get path none s₁ with
          ⟨hCancelled, _⟩ | ⟨turn, s₂, hTurn, hRequest, hRun⟩
        · obtain ⟨hActive, rfl⟩ := Session.eq_of_pass hPass
          cases hActive.symm.trans hCancelled
        · change (get BulkOperation.codec path).run s₁ = _ at hRun
          have hTold := hTurn.append (.tell ((turn.result BulkOperation.codec).toOption.toList.map
            (BulkOperation.event · step)) .done)
          rw [run_bind, run_telling, hRun]
          rcases hResult : turn.result BulkOperation.codec with e | op
          · rw [hResult] at hTold
            exact ⟨[turn], hWait hTold, .failed hRequest hResult⟩
          · rw [hResult] at hTold
            dsimp only
            cases hVerdict : op.verdict with
            | some outcome => exact ⟨[turn], hWait hTold, .ended hRequest hResult hVerdict⟩
            | none =>
              obtain ⟨turns, hTurns, hPolls⟩ := ih (step + 1) _
              exact ⟨turn :: turns, hWait (hTold.append hTurns),
                .next hRequest hResult hVerdict hPolls⟩
      · have hSleep : (sleep duration).run s =
            (.error (.bulkOperationAborted "context canceled"), s₁) := by
          rw [run_sleep, hPass]
          rfl
        simp only [run_bind_error hSleep]
        refine ⟨[], .wait duration ?_, .aborted⟩
        rw [hPass]
        exact .done

end EdgeApi
