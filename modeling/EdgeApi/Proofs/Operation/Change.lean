import EdgeApi.Proofs.Client.Polls
import EdgeApi.Proofs.Listing.Cursors
import EdgeApi.Proofs.Operation.Forms
import EdgeApi.Proofs.Record.Members

/-!
# Changes carried out

A change that is carried out passes through three stages: it is started, its end is waited for, and
the items are listed. Each stage starts only after the stage before it came through.
-/

set_option autoImplicit false

namespace EdgeApi

open Client EdgeApi.Lists

namespace Lists.Change

def entries : Change → Json
  | add items => .list (items.map fun item => item.toJson.sorted)
  | replace items => .list (items.map fun item => item.toJson.sorted)
  | remove ids => .object [("items", .list (ids.map fun id => .object [("id", .text id)]))]

theorem sorted_body (change : Change) : change.body.sorted = change.entries := by
  cases change with
  | add items | replace items =>
    rw [body, Json.sorted, Json.sortedItems_eq_map, List.map_map]
    rfl
  | remove ids =>
    change Json.object [("items", .list (Json.sortedItems _))] = _
    rw [Json.sortedItems_eq_map, List.map_map]
    rfl

variable {list : String} {change : Change} {c : Container}

theorem exists_start (list : String) (change : Change) (c : Container) (s : Session) :
    ∃ turns, Dialogue s turns (((start list change).run c).run s).2 ∧
      turns.map Turn.request <+: [change.request list c] ∧
      ∀ id, (((start list change).run c).run s).1 = .ok id →
        turns.map (Turn.result OperationRef.codec) = [.ok ⟨id⟩] := by
  cases hGuard : (start list change).guard c with
  | error e =>
    rw [Call.run_of_guard_eq_error hGuard]
    exact ⟨[], .done, List.nil_prefix, fun _ h => nomatch h⟩
  | ok _ =>
    have hRun : ((start list change).run c).run s =
        (OperationRef.operationId <$> fetch OperationRef.codec change.method
          (ItemList.itemsPath c list) (some change.body.sorted)).run s :=
      Call.run_of_guard hGuard s
    rw [hRun, run_map]
    rcases Dialogue.exists_of_fetch OperationRef.codec change.method (ItemList.itemsPath c list)
      (some change.body.sorted) s with ⟨_, hFetch⟩ | ⟨turn, s', hTurn, hRequest, hFetch⟩
    · rw [hFetch]
      exact ⟨[], .done, List.nil_prefix, fun _ h => nomatch h⟩
    · rw [hFetch]
      refine ⟨[turn], hTurn, ?_, ?_⟩
      · rw [List.map_singleton, hRequest]
        exact List.prefix_refl _
      · intro id hOutcome
        rcases hResult : turn.result OperationRef.codec with e | ref
        · rw [hResult] at hOutcome
          cases hOutcome
        · rw [hResult] at hOutcome
          cases hOutcome
          rw [List.map_singleton, hResult]

/-- Waiting for a change is polling its state, as many times as the schedule allows. -/
theorem exists_poll (id : String) (c : Container) (s : Session) :
    ∃ turns, Dialogue s turns (((poll id).run c).run s).2 ∧
      turns.length ≤ s.schedule.steps.toNat ∧
      (∀ turn ∈ turns, id ≠ "" ∧ turn.request = operationRequest id c) ∧
      ∀ op, (((poll id).run c).run s).1 = .ok op →
        turns.getLast?.map (Turn.result BulkOperation.codec) = some (.ok op) ∧
          op.status = "completed" := by
  cases hGuard : (poll id).guard c with
  | error e =>
    rw [Call.run_of_guard_eq_error hGuard]
    exact ⟨[], .done, Nat.zero_le _, nofun, fun _ h => nomatch h⟩
  | ok _ =>
    have hFetch : (operation id).run c =
        Client.get BulkOperation.codec (operationRequest id c).path :=
      Call.run_eq_exchange hGuard
    have hRun : ((poll id).run c).run s =
        (pollFrom s.schedule (fun _ => (operation id).run c) 0 s.schedule.steps.toNat).run s :=
      Call.run_of_guard hGuard s
    rw [hRun, hFetch]
    obtain ⟨turns, hTurns, hPolls⟩ := exists_polls s.schedule (operationRequest id c).path
      s.schedule.steps.toNat 0 s
    exact ⟨turns, hTurns, hPolls.length_le,
      fun turn hMem => ⟨ne_empty_of_guard hGuard, hPolls.request_eq turn hMem⟩,
      fun op hOutcome => hPolls.completed hOutcome⟩

theorem exists_items (list : String) (c : Container) (s : Session) :
    ∃ turns, Dialogue s turns (((Item.list list none none none).run c).run s).2 ∧
      turns.map Turn.request =
        (asked Item.codec none turns).map (cursorRequest (ItemList.itemsPath c list) []) ∧
      ∀ items, (((Item.list list none none none).run c).run s).1 = .ok items →
        items = turns.flatMap (Turn.items Item.codec) := by
  cases hGuard : (Item.list list none none none).guard c with
  | error e =>
    rw [Call.run_of_guard_eq_error hGuard]
    exact ⟨[], .done, rfl, fun _ h => nomatch h⟩
  | ok _ =>
    have hRun : ((Item.list list none none none).run c).run s =
        (Prod.fst <$> listCursor Item.codec (ItemList.itemsPath c list) [] none).run s :=
      Call.run_of_guard hGuard s
    rw [hRun, run_map]
    obtain ⟨turns, hTurns, hTakes⟩ :=
      (isStep_cursorStep Item.codec (ItemList.itemsPath c list) []).exists_takes ⟨[], none, ""⟩ s
    refine ⟨turns, hTurns, hTakes.map_request, ?_⟩
    intro items hOutcome
    rcases hRun : ((listCursor Item.codec (ItemList.itemsPath c list) [] none).run s).1 with
      e | result
    · rw [hRun] at hOutcome
      cases hOutcome
    · rw [hRun] at hOutcome
      cases hOutcome
      exact hTakes.items_eq hRun

end Lists.Change

namespace Operation

/-- A change that is carried out sends one request for it at most, with the items in their order;
then it asks for the state of the operation that the reply names, as many times as the schedule
allows; then, only if the last state was that of a completed operation, it lists the items. Its
outcome is the error of the first stage that fails, or the items listed. -/
theorem run_applyChange (list : String) (change : Change) (c : Container) (s : Session) :
    ∃ mutation polls listing,
      Dialogue s (mutation ++ polls ++ listing) (((applyChange list change).run c).run s).2 ∧
      mutation.map Turn.request <+: [{
        method := change.method, path := ItemList.itemsPath c list
        body := some (.json change.entries) }] ∧
      polls.length ≤ s.schedule.steps.toNat ∧
      (∀ turn ∈ polls, ∃ id, mutation.map (Turn.result OperationRef.codec) = [.ok ⟨id⟩] ∧
        id ≠ "" ∧ turn.request = Change.operationRequest id c) ∧
      (listing ≠ [] → ∃ op,
        polls.getLast?.map (Turn.result BulkOperation.codec) = some (.ok op) ∧
          op.status = "completed") ∧
      listing.map Turn.request =
        (asked Item.codec none listing).map (cursorRequest (ItemList.itemsPath c list) []) ∧
      ((∃ e, (((startChange list change).run c).run s).1 = .error e ∧
          (((applyChange list change).run c).run s).1 = .error e ∧ polls = [] ∧ listing = []) ∨
        ∃ id s₁, ((startChange list change).run c).run s = (.ok id, s₁) ∧
          ((∃ e, (((pollChange id).run c).run s₁).1 = .error e ∧
              (((applyChange list change).run c).run s).1 = .error e ∧ listing = []) ∨
            ∃ op s₂, ((pollChange id).run c).run s₁ = (.ok op, s₂) ∧
              (((applyChange list change).run c).run s).1 =
                (((listItems list none none none).run c).run s₂).1 ∧
              ∀ items, (((applyChange list change).run c).run s).1 = .ok items →
                items = listing.flatMap (Turn.items Item.codec))) := by
  have hApply : ((applyChange list change).run c).run s =
      (((Change.start list change).run c >>= fun id => (Change.poll id).run c >>= fun _ =>
        (Item.list list none none none).run c).run s) := by
    cases hGuard : (Change.apply list change).guard c with
    | ok _ => exact Call.run_of_guard hGuard s
    | error e =>
      have hStart : (Change.start list change).guard c = .error e := hGuard
      exact (Call.run_of_guard_eq_error hGuard s).trans
        (run_bind_error (Call.run_of_guard_eq_error hStart s)).symm
  rw [hApply]
  change ∃ mutation polls listing, _ ∧ _ ∧ _ ∧ _ ∧ _ ∧ _ ∧
    ((∃ e, (((Change.start list change).run c).run s).1 = .error e ∧ _) ∨
      ∃ id s₁, ((Change.start list change).run c).run s = (.ok id, s₁) ∧
        ((∃ e, (((Change.poll id).run c).run s₁).1 = .error e ∧ _) ∨
          ∃ op s₂, ((Change.poll id).run c).run s₁ = (.ok op, s₂) ∧
            _ = (((Item.list list none none none).run c).run s₂).1 ∧ _))
  obtain ⟨mutation, hMutation, hFirst, hStarted⟩ := Change.exists_start list change c s
  rw [Change.request, Change.sorted_body] at hFirst
  rcases hStart : ((Change.start list change).run c).run s with ⟨e | id, s₁⟩ <;>
    rw [hStart] at hMutation hStarted
  · rw [run_bind_error hStart]
    refine ⟨mutation, [], [], ?_, hFirst, Nat.zero_le _, nofun, absurd rfl, rfl,
      .inl ⟨e, rfl, rfl, rfl, rfl⟩⟩
    simpa using hMutation
  · have hRef := hStarted id rfl
    rw [run_bind_ok hStart]
    obtain ⟨polls, hPolls, hLength, hRequests, hCompleted⟩ := Change.exists_poll id c s₁
    rw [hMutation.schedule_eq] at hLength
    have hNamed : ∀ turn ∈ polls, ∃ id, mutation.map (Turn.result OperationRef.codec) =
        [.ok ⟨id⟩] ∧ id ≠ "" ∧ turn.request = Change.operationRequest id c :=
      fun turn hMem => ⟨id, hRef, hRequests turn hMem⟩
    rcases hPoll : ((Change.poll id).run c).run s₁ with ⟨e | op, s₂⟩ <;>
      rw [hPoll] at hPolls hCompleted
    · rw [run_bind_error hPoll]
      refine ⟨mutation, polls, [], ?_, hFirst, hLength, hNamed, absurd rfl, rfl,
        .inr ⟨id, s₁, rfl, .inl ⟨e, by rw [hPoll], rfl, rfl⟩⟩⟩
      simpa using hMutation.append hPolls
    · rw [run_bind_ok hPoll]
      obtain ⟨listing, hListing, hAsked, hItems⟩ := Change.exists_items list c s₂
      exact ⟨mutation, polls, listing, (hMutation.append hPolls).append hListing, hFirst, hLength,
        hNamed, fun _ => ⟨op, hCompleted op rfl⟩, hAsked,
        .inr ⟨id, s₁, rfl, .inr ⟨op, s₂, hPoll, rfl, hItems⟩⟩⟩

end Operation

end EdgeApi
