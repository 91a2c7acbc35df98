import EdgeApi.Proofs.Operation.Forms

/-!
# Validation

An operation whose container or identifiers are not in order fails before anything is sent. So no
request ever goes to a path in which an identifier is missing.
-/

set_option autoImplicit false

namespace EdgeApi

open Client

namespace Operation

variable {α : Type} {op : Operation α} {c : Container}

theorem of_refusal_eq_none (h : op.refusal c = none) :
    c.level ∈ op.levels ∧ c.id ≠ "" ∧ op.route.fault = none := by
  rw [refusal] at h
  split at h
  · cases h
  · rename_i hLevel
    split at h
    · cases hKind : c.level <;> rw [hKind] at h <;> cases h
    · rename_i hId
      exact ⟨Decidable.not_not.mp hLevel, by simpa using hId, h⟩

theorem filled_of_follows (hFault : op.route.fault = none) {route : Route}
    (h : op.Follows route) : ∀ piece ∈ route, piece.Filled := by
  have hFilled : ∀ {route : Route}, route.fault = none → ∀ piece ∈ route, piece.Filled :=
    fun hNone piece hMem => Piece.filled_of_fault (List.findSome?_eq_none_iff.mp hNone piece hMem)
  rcases h with rfl | ⟨_, id, hId, rfl⟩
  · exact hFilled hFault
  · apply hFilled
    simp [Lists.Change.route, Route.fault, Piece.fault, hId]

theorem exists_sends (op : Operation α) (c : Container) (s : Session) :
    ∃ requests, ((op.run c).run s).2.sent.map Sent.request = s.sent.map Sent.request ++ requests ∧
      ∀ request ∈ requests, op.Sends c request := by
  exact Conduct.exists_requests
    (governs (fun _ _ _ hSends => hSends) fun e => Conduct.settling_throw e) s

/-- What speaks against an operation is its outcome, the error of a precondition, and nothing is
sent. All that is sent goes to paths without empty identifiers, in a container that is supported and
has an identifier. -/
theorem validated_before_sending (op : Operation α) (hTyped : op.isTyped = true) (c : Container)
    (s : Session) :
    (∀ e, op.refusal c = some e →
      (op.run c).run s = (.error e, s) ∧ e.isPrecondition = true) ∧
    ∃ requests, ((op.run c).run s).2.sent.map Sent.request = s.sent.map Sent.request ++ requests ∧
      ∀ request ∈ requests, c.level ∈ op.levels ∧ c.id ≠ "" ∧
        ∃ route query, op.Follows route ∧ (∀ piece ∈ route, piece.Filled) ∧
          request.path = Uri.build (route.path c) query := by
  have hRefused : ∀ e, op.refusal c = some e → (op.run c).run s = (.error e, s) :=
    fun e he => Call.run_of_guard_eq_error (guard_of_refusal hTyped he) s
  refine ⟨fun e he => ⟨hRefused e he, isPrecondition_of_refusal he⟩, ?_⟩
  cases hRefusal : op.refusal c with
  | some e =>
    rw [hRefused e hRefusal]
    exact ⟨[], (List.append_nil _).symm, nofun⟩
  | none =>
    obtain ⟨hLevel, hId, hFault⟩ := of_refusal_eq_none hRefusal
    obtain ⟨requests, hSent, hSends⟩ := op.exists_sends c s
    refine ⟨requests, hSent, ?_⟩
    intro request hMem
    obtain ⟨route, query, hFollows, hPath⟩ := hSends request hMem hTyped
    exact ⟨hLevel, hId, route, query, hFollows, filled_of_follows hFault hFollows, hPath⟩

theorem validated_before_sending_deletePolicy :
    (deletePolicy "" "").isTyped = true ∧
      ((deletePolicy "" "").run ⟨.zone, "Z"⟩).run {} = (.error (.unsupportedContainer .zone), {}) ∧
      ((deletePolicy "" "").run ⟨.account, ""⟩).run {} = (.error .missingAccountId, {}) ∧
      ((deletePolicy "" "").run ⟨.account, "A"⟩).run {} =
        (.error (.missingResourceId "policy id"), {}) :=
  have refused := validated_before_sending (deletePolicy "" "") rfl
  ⟨rfl, ((refused ⟨.zone, "Z"⟩ {}).1 _ rfl).1, ((refused ⟨.account, ""⟩ {}).1 _ rfl).1,
    ((refused ⟨.account, "A"⟩ {}).1 _ rfl).1⟩

end Operation

end EdgeApi
