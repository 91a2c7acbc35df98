import EdgeApi.Proofs.Client.Dialogue

/-!
# Walks

Loops that ask for something in every state and go on with what the answer makes of the state. A
relation tells the turns that a walk takes without the sessions that it passes through.
-/

set_option autoImplicit false

namespace EdgeApi

open Client

namespace Turn

variable {α : Type} (c : Codec α) (turn : Turn)

def items : List α :=
  match turn.envelope (.list c) with
  | .ok envelope => envelope.result.getD []
  | .error _ => []

variable {c turn} {envelope : Envelope (List α)}

theorem items_eq (h : turn.envelope (.list c) = .ok envelope) :
    turn.items c = envelope.result.getD [] := by
  rw [items, h]

end Turn

structure Walk (σ α β : Type) where
  codec : Codec α
  path : σ → String
  /-- What an envelope makes of a state: the next one, or the result. -/
  advance : σ → Envelope α → Except Error (σ ⊕ β)
  events : σ → Envelope α → List LogEvent

namespace Walk

variable {σ α β : Type} (k : Walk σ α β)

def request (w : σ) : Request where
  method := .get
  path := k.path w

/-- The turns that the walk takes from a state on, and its outcome; `cancelled` tells whether the
token is cancelled in the end. -/
inductive Takes (cancelled : Bool) : σ → List Turn → Except Error β → Prop
  /-- The token was cancelled before the request. -/
  | unsent {w : σ} : cancelled = true → Takes cancelled w [] (.error (.transport .canceled))
  | failed {w : σ} {turn : Turn} {e : Error} : turn.request = k.request w →
      turn.envelope k.codec = .error e → Takes cancelled w [turn] (.error e)
  | stuck {w : σ} {turn : Turn} {envelope : Envelope α} {e : Error} :
      turn.request = k.request w → turn.envelope k.codec = .ok envelope →
      k.advance w envelope = .error e → Takes cancelled w [turn] (.error e)
  | ended {w : σ} {turn : Turn} {envelope : Envelope α} {result : β} :
      turn.request = k.request w → turn.envelope k.codec = .ok envelope →
      k.advance w envelope = .ok (.inr result) → Takes cancelled w [turn] (.ok result)
  | next {w w' : σ} {turn : Turn} {envelope : Envelope α} {turns : List Turn}
      {outcome : Except Error β} : turn.request = k.request w →
      turn.envelope k.codec = .ok envelope →
      k.advance w envelope = .ok (.inl w') →
      Takes cancelled w' turns outcome → Takes cancelled w (turn :: turns) outcome

theorem Takes.cancelled_of_nil {k : Walk σ α β} {cancelled : Bool} {w : σ}
    {outcome : Except Error β} (h : k.Takes cancelled w [] outcome) : cancelled = true := by
  cases h with
  | unsent hCancelled => exact hCancelled

/-- A step that asks for what the walk asks for and advances as the walk does. -/
def IsStep (step : σ → Client (σ ⊕ β)) : Prop :=
  ∀ w s, (step w).run s =
    match (Client.request k.codec .get (k.path w)).run s with
    | (.ok envelope, s') => (k.advance w envelope, s'.tell (k.events w envelope))
    | (.error e, s') => (.error e, s')

variable {k} {step : σ → Client (σ ⊕ β)}

theorem IsStep.run_ok (hStep : k.IsStep step) {w : σ} {s s' : Session} {envelope : Envelope α}
    (h : (Client.request k.codec .get (k.path w)).run s = (.ok envelope, s')) :
    (step w).run s = (k.advance w envelope, s'.tell (k.events w envelope)) := by
  rw [hStep, h]

theorem IsStep.consumes (hStep : k.IsStep step) : Consumes step := by
  intro w next s s' hRun
  rw [hStep] at hRun
  split at hRun
  · rename_i hRequest
    obtain ⟨reply, hInbox⟩ := exists_inbox_of_request hRequest
    rw [hInbox, ← (Prod.mk.inj hRun).2]
    simp
  · cases hRun

/-- Every run of the loop takes turns of the walk. -/
theorem IsStep.exists_takes (hStep : k.IsStep step) (w : σ) (s : Session) :
    ∃ turns, Dialogue s turns ((repeatUntil step w).run s).2 ∧
      k.Takes ((repeatUntil step w).run s).2.cancelled w turns ((repeatUntil step w).run s).1 := by
  -- every turn that the walk goes on after leaves fewer replies
  induction hLength : s.inbox.length using Nat.strongRecOn generalizing w s with
  | ind n ih =>
    have hFirst := hStep w s
    rw [run_repeatUntil hStep.consumes]
    rcases Dialogue.exists_of_request k.codec .get (k.path w) none s with
      ⟨hs, hRun⟩ | ⟨turn, s₁, hTurn, hRequest, hRun⟩
    · rw [hRun] at hFirst
      rw [hFirst]
      exact ⟨[], .done, .unsent hs⟩
    · rw [hRun] at hFirst
      rcases hEnvelope : turn.envelope k.codec with e | envelope
      · rw [hEnvelope] at hFirst
        rw [hFirst]
        exact ⟨[turn], hTurn, .failed hRequest hEnvelope⟩
      · rw [hEnvelope] at hFirst
        have hTold := hTurn.append (.tell (k.events w envelope) .done)
        rcases hAdvance : k.advance w envelope with e | w' | result
        · simp only [hAdvance] at hFirst
          rw [hFirst]
          exact ⟨[turn], hTold, .stuck hRequest hEnvelope hAdvance⟩
        · simp only [hAdvance] at hFirst
          rw [hFirst]
          have hLess := hStep.consumes hFirst
          obtain ⟨turns, hTurns, hTakes⟩ := ih _ (hLength ▸ hLess) w' _ rfl
          exact ⟨turn :: turns, hTold.append hTurns, .next hRequest hEnvelope hAdvance hTakes⟩
        · simp only [hAdvance] at hFirst
          rw [hFirst]
          exact ⟨[turn], hTold, .ended hRequest hEnvelope hAdvance⟩

end Walk

end EdgeApi
