import EdgeApi.Proofs.Client.Law

/-!
# Fetches

Waiting for an operation, whatever fetches its state. While nothing is cancelled, the fetches are
made one after another, and the first one that does not say to go on gives the outcome.
-/

set_option autoImplicit false

namespace EdgeApi

open Client

/-- The fetch gave the state of an operation that is still worked off. -/
def GoesOn (fetched : Except Error BulkOperation) : Prop :=
  ∃ op, fetched = .ok op ∧ (op.status = "pending" ∨ op.status = "running")

/-- What is left to say after a fetch that does not say to go on. -/
inductive Settles : Except Error BulkOperation → Except Error BulkOperation → Prop
  | failed (e : Error) : Settles (.error e) (.error e)
  | completed {op : BulkOperation} : op.status = "completed" → Settles (.ok op) (.ok op)
  | reported {op : BulkOperation} : op.status = "failed" →
      Settles (.ok op) (.error (.api .request {
        status := 0, errors := [⟨0, op.error.getD "bulk operation failed"⟩], messages := []
        rayId := none }))
  | unexpected {op : BulkOperation} :
      op.status ∉ ["completed", "pending", "running", "failed"] →
      Settles (.ok op) (.error (.api .request {
        status := 0, errors := [⟨0, "operation returned unexpected status: " ++ op.status⟩]
        messages := [], rayId := none }))

theorem BulkOperation.verdict_eq_none_iff {op : BulkOperation} :
    op.verdict = none ↔ op.status = "pending" ∨ op.status = "running" := by
  unfold verdict
  split
  · rename_i hStatus
    simp [hStatus]
  · split
    · rename_i hStatus
      simp [hStatus]
    · rename_i hStatus
      split <;> simp [hStatus]

theorem BulkOperation.settles_of_verdict {op : BulkOperation} {outcome : Except Error BulkOperation}
    (h : op.verdict = some outcome) : Settles (.ok op) outcome := by
  unfold verdict at h
  split at h
  · rename_i hStatus
    cases h
    exact .completed hStatus
  · rename_i hCompleted
    split at h
    · cases h
    · rename_i hOngoing
      split at h
      · rename_i hStatus
        cases h
        exact .reported hStatus
      · rename_i hFailed
        cases h
        refine .unexpected ?_
        simp only [not_or] at hOngoing
        simp [hCompleted, hOngoing, hFailed]

theorem Session.Calm.pass {s : Session} (hCalm : s.Calm) (duration : Nat) :
    (s.pass duration).2.Calm := by
  rw [hCalm.pass_eq]
  exact ⟨hCalm.cancelled, hCalm.cancelAt, hCalm.cancelAfter⟩

namespace Schedule

variable (schedule : Schedule) (fetch : Nat → Client BulkOperation) (s : Session)

def after : Nat → Session
  | 0 => s
  | step + 1 =>
    ((telling step (fetch step)).run ((after step).pass ((schedule.delay step).getD 0)).2).2

def fetched (step : Nat) : Except Error BulkOperation :=
  ((fetch step).run ((schedule.after fetch s step).pass ((schedule.delay step).getD 0)).2).1

variable {schedule fetch s} {step left : Nat} {duration : Nat}

theorem run_pollFrom_succ (hCalm : (schedule.after fetch s step).Calm)
    (hDelay : schedule.delay step = some duration) :
    (pollFrom schedule fetch step (left + 1)).run (schedule.after fetch s step) =
      match schedule.fetched fetch s step with
      | .error e => (.error e, schedule.after fetch s (step + 1))
      | .ok op =>
        match op.verdict with
        | some outcome => (outcome, schedule.after fetch s (step + 1))
        | none =>
          (pollFrom schedule fetch (step + 1) left).run (schedule.after fetch s (step + 1)) := by
  have hSleep : (sleep duration).run (schedule.after fetch s step) =
      (.ok (), ((schedule.after fetch s step).pass duration).2) := by
    rw [run_sleep, hCalm.pass_eq]
    rfl
  have hFetch : (telling step (fetch step)).run ((schedule.after fetch s step).pass duration).2 =
      (schedule.fetched fetch s step, schedule.after fetch s (step + 1)) := by
    rw [fetched, after, hDelay, Option.getD_some, run_telling]
  rw [pollFrom, hDelay]
  simp only [run_bind_ok hSleep]
  rw [run_bind, hFetch]
  rcases schedule.fetched fetch s step with e | op
  · rfl
  · dsimp only
    rcases op.verdict with _ | outcome <;> rfl

theorem calm_after (hCalm : s.Calm) (hFetch : ∀ step s, s.Calm → ((fetch step).run s).2.Calm)
    (step : Nat) : (schedule.after fetch s step).Calm := by
  induction step with
  | zero => exact hCalm
  | succ step ih =>
    rw [after, run_telling]
    exact (hFetch step _ (ih.pass _)).tell _

theorem length_sent_after (hCalm : ∀ step, (schedule.after fetch s step).Calm)
    (hFetch : ∀ step s, s.Calm → ((fetch step).run s).2.sent.length = s.sent.length + 1)
    (step : Nat) : (schedule.after fetch s step).sent.length = s.sent.length + step := by
  induction step with
  | zero => rfl
  | succ step ih =>
    obtain ⟨now, cancelled, hPass⟩ :=
      (schedule.after fetch s step).pass_eq ((schedule.delay step).getD 0)
    rw [after, run_telling, Session.sent_tell, hFetch step _ ((hCalm step).pass _), hPass, ih,
      Nat.add_assoc]

/-- As long as the fetches say to go on, polling comes to the next step. -/
theorem run_pollFrom_of_goesOn {steps : Nat} (hCalm : ∀ step, (schedule.after fetch s step).Calm)
    (hDelay : ∀ step < steps, schedule.delay step ≠ none) (hStep : step ≤ steps)
    (hOn : ∀ i < step, GoesOn (schedule.fetched fetch s i)) :
    (pollFrom schedule fetch 0 steps).run s =
      (pollFrom schedule fetch step (steps - step)).run (schedule.after fetch s step) := by
  induction step with
  | zero => rfl
  | succ step ih =>
    obtain ⟨op, hFetched, hStatus⟩ := hOn step (Nat.lt_succ_self step)
    obtain ⟨duration, hDuration⟩ := Option.ne_none_iff_exists'.mp (hDelay step hStep)
    have hLeft : steps - step = steps - (step + 1) + 1 := by omega
    rw [ih (Nat.le_of_succ_le hStep) fun i hi => hOn i (Nat.lt_succ_of_lt hi), hLeft,
      run_pollFrom_succ (hCalm step) hDuration, hFetched]
    simp only [BulkOperation.verdict_eq_none_iff.mpr hStatus]

end Schedule

namespace Client

variable {schedule : Schedule} {fetch : Nat → Client BulkOperation} {s : Session}

/-- The first fetch that does not say to go on is the last one and gives the outcome; if there is
none, every step of the schedule is taken, and waiting ends without an answer. The session in the
end is the one after so many fetches, which shows in the requests if each fetch sends one. -/
theorem run_poll_of_first (hCalm : s.Calm)
    (hFetch : ∀ step s, s.Calm → ((fetch step).run s).2.Calm)
    (hDelay : ∀ step < schedule.steps.toNat, schedule.delay step ≠ none) :
    ((∀ i < schedule.steps.toNat, GoesOn (schedule.fetched fetch s i)) →
      (poll schedule fetch).run s =
        (.error .bulkOperationTimeout, schedule.after fetch s schedule.steps.toNat)) ∧
    (∀ k < schedule.steps.toNat, (∀ i < k, GoesOn (schedule.fetched fetch s i)) →
      ¬GoesOn (schedule.fetched fetch s k) →
        ∃ outcome, Settles (schedule.fetched fetch s k) outcome ∧
          (poll schedule fetch).run s = (outcome, schedule.after fetch s (k + 1))) ∧
    ((∀ step s, s.Calm → ((fetch step).run s).2.sent.length = s.sent.length + 1) →
      ∀ k, (schedule.after fetch s k).sent.length = s.sent.length + k) := by
  have hAfter : ∀ step, (schedule.after fetch s step).Calm := schedule.calm_after hCalm hFetch
  refine ⟨?_, ?_, Schedule.length_sent_after hAfter⟩
  · intro hOn
    rw [poll, Schedule.run_pollFrom_of_goesOn hAfter hDelay (Nat.le_refl _) hOn, Nat.sub_self]
    rfl
  · intro k hk hOn hLast
    obtain ⟨duration, hDuration⟩ := Option.ne_none_iff_exists'.mp (hDelay k hk)
    have hLeft : schedule.steps.toNat - k = schedule.steps.toNat - (k + 1) + 1 := by omega
    have hRun := Schedule.run_pollFrom_of_goesOn hAfter hDelay (Nat.le_of_lt hk) hOn
    rw [hLeft, Schedule.run_pollFrom_succ (hAfter k) hDuration] at hRun
    rw [poll, hRun]
    rcases hFetched : schedule.fetched fetch s k with e | op
    · exact ⟨_, .failed e, rfl⟩
    · dsimp only
      rcases hVerdict : op.verdict with _ | outcome
      · exact absurd ⟨op, hFetched, BulkOperation.verdict_eq_none_iff.mp hVerdict⟩ hLast
      · exact ⟨outcome, BulkOperation.settles_of_verdict hVerdict, rfl⟩

/-! An operation that fails after it was seen twice at work. -/

def failingOperation (step : Nat) : BulkOperation where
  id := "op"
  status := if step = 0 then "pending" else if step = 1 then "running" else "failed"

def fetchFailing (step : Nat) : Client BulkOperation :=
  ofExcept (.ok (failingOperation step))

def threeSteps : Schedule :=
  { steps := 3, base := 1 }

theorem run_poll_of_first_failing :
    (({} : Session).Calm ∧ (∀ step s, s.Calm → ((fetchFailing step).run s).2.Calm) ∧
      ∀ step < threeSteps.steps.toNat, threeSteps.delay step ≠ none) ∧
    (poll threeSteps fetchFailing).run {} =
      (.error (.api .request {
        status := 0, errors := [⟨0, "bulk operation failed"⟩], messages := [], rayId := none }),
        threeSteps.after fetchFailing {} 3) := by
  have hCalm : ({} : Session).Calm := ⟨rfl, rfl, rfl⟩
  have hFetch : ∀ step s, s.Calm → ((fetchFailing step).run s).2.Calm := fun _ _ h => h
  have hDelay : ∀ step < threeSteps.steps.toNat, threeSteps.delay step ≠ none := by decide
  have hFetched : ∀ step, threeSteps.fetched fetchFailing {} step = .ok (failingOperation step) :=
    fun _ => rfl
  have hOn : ∀ i < 2, (failingOperation i).status = "pending" ∨
      (failingOperation i).status = "running" := by decide
  have hLast : ¬GoesOn (threeSteps.fetched fetchFailing {} 2) := by
    rintro ⟨op, hOp, hStatus⟩
    cases (hFetched 2).symm.trans hOp
    revert hStatus
    decide
  obtain ⟨_, hFirst, _⟩ := run_poll_of_first hCalm hFetch hDelay
  obtain ⟨outcome, hSettles, hRun⟩ :=
    hFirst 2 (by decide) (fun i hi => ⟨_, hFetched i, hOn i hi⟩) hLast
  refine ⟨⟨hCalm, hFetch, hDelay⟩, ?_⟩
  rw [hFetched] at hSettles
  rw [hRun]
  cases hSettles with
  | completed hStatus => exact absurd hStatus (by decide)
  | reported _ => rfl
  | unexpected hStatus => exact absurd (by decide) hStatus

end Client

end EdgeApi
