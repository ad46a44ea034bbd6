import Rvpn.Lib.Transition
import Rvpn.Mux.Protocol

/-! `wait_for_credit_or_stall` between `grant`, `close` and `try_consume` of other tasks. A step is one access to an
atomic or to `Notify`: `notify_one` wakes the waiter, or stores the one permit if nobody waits. -/

namespace Rvpn.Mux

inductive CreditWait where
  | granted
  | closed
  | stalled
  deriving DecidableEq

/-- Where the one waiting task is. -/
inductive WaiterPhase where
  | outside (last : Option CreditWait)
  | loadCredits
  | loadClosed
  -- before the first poll of `notified()`
  | polling
  | parked
  | woken
  deriving DecidableEq

/-- `notifying` counts the calls of `grant` and `close` between their update and their `notify_one`. -/
structure CreditGate where
  credits : FlowSendCredits
  permit : Bool
  waiter : WaiterPhase
  notifying : Nat

inductive GateAction where
  | grant (n : Nat)
  | close
  | notifyOne
  | tryConsume (max : Nat)
  | waiter
  | timeout

namespace CreditGate

def new : CreditGate := ⟨.new, false, .outside none, 0⟩

def resume (gate : CreditGate) : Option CreditGate :=
  match gate.waiter with
  | .outside _ | .woken => some { gate with waiter := .loadCredits }
  | .loadCredits =>
    some { gate with waiter := if 0 < gate.credits.available then .outside (some .granted) else .loadClosed }
  | .loadClosed => some { gate with waiter := if gate.credits.closed then .outside (some .closed) else .polling }
  | .polling =>
    if gate.permit then some { gate with permit := false, waiter := .loadCredits }
    else some { gate with waiter := .parked }
  | .parked => none

/-- The timer ends a wait that is parked. A wake-up that comes too late is passed on when `notified()` is dropped. -/
def expire (gate : CreditGate) : Option CreditGate :=
  let outcome := if gate.credits.closed then CreditWait.closed else .stalled
  match gate.waiter with
  | .parked => some { gate with waiter := .outside (some outcome) }
  | .woken => some { gate with permit := true, waiter := .outside (some outcome) }
  | _ => none

def step (gate : CreditGate) : GateAction → Option CreditGate
  | .grant n => some { gate with credits := gate.credits.grant n, notifying := gate.notifying + 1 }
  | .close => some { gate with credits := gate.credits.close, notifying := gate.notifying + 1 }
  | .notifyOne =>
    if gate.notifying = 0 then none
    else if gate.waiter = .parked then some { gate with waiter := .woken, notifying := gate.notifying - 1 }
    else some { gate with permit := true, notifying := gate.notifying - 1 }
  | .tryConsume max => some { gate with credits := gate.credits.tryConsume max }
  | .waiter => gate.resume
  | .timeout => gate.expire

/-- What the waiter has seen still holds, or somebody is about to say otherwise, or has. -/
def Watched (gate : CreditGate) : Prop :=
  match gate.waiter with
  | .outside _ | .loadCredits | .woken => True
  | .loadClosed => gate.credits.available = 0 ∨ 0 < gate.notifying ∨ gate.permit = true
  | .polling => gate.credits.available = 0 ∧ gate.credits.closed = false ∨ 0 < gate.notifying ∨ gate.permit = true
  | .parked => gate.credits.available = 0 ∧ gate.credits.closed = false ∨ 0 < gate.notifying

theorem watched_step {gate next : CreditGate} {action : GateAction} (watched : gate.Watched)
    (taken : gate.step action = some next) : next.Watched := by
  obtain ⟨credits, permit, waiter, notifying⟩ := gate
  cases action with
  | grant n | close =>
    cases taken
    cases waiter <;> simp [Watched]
  | notifyOne =>
    simp only [step] at taken
    split at taken
    · cases taken
    · split at taken
      · cases taken
        trivial
      · cases taken
        cases waiter <;> simp_all [Watched]
  | tryConsume max =>
    cases taken
    have exhausted : credits.available = 0 → (credits.tryConsume max).available = 0 := fun none => by
      simp [FlowSendCredits.tryConsume, none]
    cases waiter with
    | loadClosed => exact watched.imp_left exhausted
    | polling | parked => exact watched.imp_left (And.imp_left exhausted)
    | outside _ | loadCredits | woken => trivial
  | waiter =>
    cases waiter with
    | outside last | woken =>
      cases taken
      trivial
    | loadCredits =>
      cases taken
      by_cases ready : 0 < credits.available
      · simp [Watched, ready]
      · simp [Watched, Nat.eq_zero_of_not_pos ready]
    | loadClosed =>
      cases taken
      cases closed : credits.closed with
      | false => simpa [Watched, closed] using watched
      | true => simp [Watched]
    | polling =>
      simp only [step, resume] at taken
      split at taken
      · cases taken
        trivial
      · cases taken
        simp_all [Watched]
    | parked => cases taken
  | timeout => cases waiter <;> cases taken <;> trivial

/-- In every interleaving a parked waiter with credits or with its gate closed is about to be notified. -/
theorem parked_notified (actions : List GateAction) (gate : CreditGate)
    (reached : Transition.run step new actions = some gate) (parked : gate.waiter = .parked)
    (due : 0 < gate.credits.available ∨ gate.credits.closed = true) : 0 < gate.notifying := by
  have watched : gate.Watched :=
    Transition.run_preserves (fun _ _ _ => watched_step) (show new.Watched from trivial) reached
  simp only [Watched, parked] at watched
  obtain ⟨exhausted, opened⟩ | notifying := watched
  · simp [exhausted, opened] at due
  · exact notifying

def parkAndGrant : List GateAction :=
  [.tryConsume initialFlowWindow, .waiter, .waiter, .waiter, .waiter, .grant 1]

/-- The counter of a parked waiter is raised before the waiter is notified. -/
theorem raised_before_notified : (Transition.run step new parkAndGrant).map
    (fun gate => (gate.waiter, gate.permit, gate.credits.available)) = some (.parked, false, 1) := by
  decide

theorem grant_notifies : 0 < (CreditGate.mk ((FlowSendCredits.new.tryConsume initialFlowWindow).grant 1)
    false .parked 1).notifying :=
  parked_notified parkAndGrant _ rfl rfl (.inl (by decide))

end CreditGate

end Rvpn.Mux
