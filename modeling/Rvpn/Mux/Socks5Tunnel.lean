import Mathlib.Data.Finset.Card
import Mathlib.Data.Finset.Range
import Rvpn.Mux.Lifecycle

/-! The client's end of the tunnel as an object, `Socks5Tunnel`. -/

namespace Rvpn.Mux

/-- The spawned receive loop runs, has returned, and its task has failed the pending flows. -/
inductive ReceiveLoop where
  | receiving | returned | cleaned
  deriving DecidableEq

/-- `shutdown` has not been called, has marked the tunnel dead, has cleared `flow_states`, has returned. -/
inductive ShutdownPhase where
  | uncalled | begun | cleared | returned
  deriving DecidableEq

structure Socks5Tunnel where
  mux : State
  alive : Bool
  loop : ReceiveLoop
  shutdown : ShutdownPhase
  pendingFlows : List FlowId
  /-- The flows in `flow_states` that `open_flow` has not counted yet. -/
  counting : List FlowId
  /-- How often `flow_count` has gone up and down since it was last set to zero. -/
  added : Nat
  subtracted : Nat

inductive TunnelAction where
  | openFlow
  | mux (action : Action)
  | count (f : FlowId)
  /-- The receive loop returns: the peer has closed, the read fails or times out, the tunnel is
  marked dead, or a frame cannot be decrypted. -/
  | receiveEnd (desync : Bool)
  | markDead | cleanUp
  | shutdownBegin | shutdownClear | shutdownReset
  deriving DecidableEq

/-- The ids in `flow_states`. -/
def State.flowStates (state : State) : Finset FlowId :=
  (Finset.range state.nextFlowId).filter fun f => (state.client f).registered

namespace Socks5Tunnel

def new : Socks5Tunnel := ⟨.start, true, .receiving, .uncalled, [], [], 0, 0⟩

def activeFlowCount (tunnel : Socks5Tunnel) : BitVec 64 :=
  BitVec.ofNat 64 tunnel.added - BitVec.ofNat 64 tunnel.subtracted

/-- What runs without regard to the flag. The receive loop's own look at it may be older than the frame
it goes on to handle. -/
def admits (tunnel : Socks5Tunnel) : Action → Bool
  | .openFlow | .shutdown => false
  | .clientReceive | .clientClose => tunnel.loop = .receiving
  | _ => true

def answered (state : State) : Action → Option FlowId
  | .clientReceive =>
    match state.downWire with
    | .control (.flowCreated f _) :: _ | .control (.flowFailed f _) :: _ => some f
    | _ => none
  | .clientClose => state.clientRx
  | .client f .loopStall => some f
  | _ => none

def registering : Action → List FlowId
  | .client f .register => [f]
  | _ => []

/-- A step of the tunnel's tasks: every entry that it takes out is subtracted at once, and a new one
is still to be counted. -/
def follow (tunnel : Socks5Tunnel) (action : Action) (next : State) : Socks5Tunnel :=
  { tunnel with
    mux := next
    pendingFlows := tunnel.pendingFlows.filter fun f => answered tunnel.mux action ≠ some f
    counting := registering action ++ tunnel.counting
    subtracted := tunnel.subtracted + (tunnel.mux.flowStates \ next.flowStates).card }

def step (cfg : Config) (tunnel : Socks5Tunnel) : TunnelAction → Option Socks5Tunnel
  | .openFlow =>
    if tunnel.alive then
      (Mux.step cfg tunnel.mux .openFlow).map fun next =>
        { tunnel with mux := next, pendingFlows := tunnel.mux.nextFlowId :: tunnel.pendingFlows }
    else none
  | .mux action =>
    if tunnel.admits action then (Mux.step cfg tunnel.mux action).map (tunnel.follow action) else none
  | .count f =>
    if f ∈ tunnel.counting then
      some { tunnel with counting := tunnel.counting.erase f, added := tunnel.added + 1 }
    else none
  | .receiveEnd desync =>
    if tunnel.loop = .receiving ∧ tunnel.mux.clientRx = none then
      some { tunnel with
        loop := .returned
        alive := tunnel.alive && !desync
        pendingFlows := if desync then [] else tunnel.pendingFlows }
    else none
  | .markDead => if tunnel.loop = .returned then some { tunnel with alive := false } else none
  | .cleanUp =>
    if tunnel.loop = .returned ∧ tunnel.alive = false then
      some { tunnel with loop := .cleaned, pendingFlows := [] }
    else none
  | .shutdownBegin =>
    if tunnel.shutdown = .uncalled then
      some { tunnel with shutdown := .begun, alive := false, pendingFlows := [] }
    else none
  | .shutdownClear =>
    if tunnel.shutdown = .begun then
      (Mux.step cfg tunnel.mux .shutdown).map fun next => { tunnel with mux := next, shutdown := .cleared }
    else none
  | .shutdownReset =>
    if tunnel.shutdown = .cleared then
      some { tunnel with shutdown := .returned, added := 0, subtracted := 0 }
    else none

def task : TunnelAction → Option Action
  | .openFlow => some .openFlow
  | .mux action => some action
  | .shutdownClear => some .shutdown
  | _ => none

variable {cfg : Config} {tunnel next : Socks5Tunnel} {action : TunnelAction}

theorem mux_of_step (taken : step cfg tunnel action = some next) :
    match task action with
    | some action => Mux.step cfg tunnel.mux action = some next.mux
    | none => next.mux = tunnel.mux := by
  cases action with
  | openFlow | mux action | shutdownClear =>
    obtain ⟨-, taken⟩ := Option.ite_none_right_eq_some.mp taken
    obtain ⟨state, stepped, rfl⟩ := Option.map_eq_some_iff.mp taken
    exact stepped
  | _ =>
    obtain ⟨-, rfl⟩ := Transition.of_guard taken
    rfl

theorem tracked_step
    (preserved : ∀ view move next, invariant view → condition view move → FlowMoves cfg f view move next →
      invariant next) (tracked : State.Tracked f invariant tunnel.mux)
    (taken : step cfg tunnel action = some next)
    (guarded : ∀ task', task action = some task' → State.Guarded f condition tunnel.mux task') :
    State.Tracked f invariant next.mux := by
  have stepped := mux_of_step taken
  cases found : task action with
  | none =>
    rw [found] at stepped
    exact stepped ▸ tracked
  | some other =>
    rw [found] at stepped
    exact State.step_tracked preserved tracked (guarded other found) stepped

end Socks5Tunnel

end Rvpn.Mux
