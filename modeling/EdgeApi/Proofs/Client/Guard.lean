import EdgeApi.Client.Call
import EdgeApi.Proofs.Client.Run

/-!
# Guards

A call whose checks pass is its exchange; one whose checks fail leaves the session as it is.
-/

set_option autoImplicit false

namespace EdgeApi

theorem Need.checkAll_eq_ok_iff {needs : List Need} :
    Need.checkAll needs = .ok () ↔ ∀ need ∈ needs, need.met = true := by
  induction needs with
  | nil => simp [Need.checkAll]
  | cons need rest ih =>
    rw [Need.checkAll]
    by_cases hMet : need.met = true
    · simp [hMet, ih]
    · simp [hMet]

theorem Scope.check_only {level : Level} {c : Container} (hLevel : c.level = level)
    (hId : c.id ≠ "") : Scope.check (.only level) c = .ok () := by
  change c.require level = .ok ()
  rw [Container.require, if_pos hLevel, Container.validate, if_neg (by simpa using hId)]

namespace Call

open Client

variable {α : Type} {call : Call α} {container : Container}

theorem guard_eq_ok_iff :
    call.guard container = .ok () ↔
      call.scope.check container = .ok () ∧ ∀ need ∈ call.needs, need.met = true := by
  rw [← Need.checkAll_eq_ok_iff, guard]
  rcases call.scope.check container with e | _
  · simp [bind, Except.bind]
  · simp [bind, Except.bind]

theorem run_eq_exchange (hGuard : call.guard container = .ok ()) :
    call.run container = call.exchange container := by
  rw [Call.run, hGuard]
  rfl

theorem run_eq_throw {e : Error} (hGuard : call.guard container = .error e) :
    call.run container = throw e := by
  rw [Call.run, hGuard]
  rfl

theorem run_of_guard (hGuard : call.guard container = .ok ()) (s : Session) :
    (call.run container).run s = (call.exchange container).run s := by
  rw [call.run_eq_exchange hGuard]

theorem run_of_guard_eq_error {e : Error} (hGuard : call.guard container = .error e)
    (s : Session) : (call.run container).run s = (.error e, s) := by
  rw [call.run_eq_throw hGuard]
  rfl

theorem exchange_of_run {s s' : Session} {a : α} (h : (call.run container).run s = (.ok a, s')) :
    call.guard container = .ok () ∧ (call.exchange container).run s = (.ok a, s') := by
  cases hGuard : call.guard container with
  | ok _ => exact ⟨rfl, call.run_of_guard hGuard s ▸ h⟩
  | error e =>
    rw [run_of_guard_eq_error hGuard] at h
    cases h

end Call

end EdgeApi
