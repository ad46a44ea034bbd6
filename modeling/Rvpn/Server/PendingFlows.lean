import Rvpn.Server.CreateFlow

/-! `pending_flows`, the buffer of data frames whose flow is not in the map, under whatever frames a client sends. -/

namespace Rvpn.Server

open Mux (FlowId)

variable {Stream : Type}

/-- The cap in `process_incoming_frame_static`, which nothing calls. -/
def pendingFrameCap : Nat := 100

def Session.has (session : Session Stream) (f : FlowId) : Bool := session.flows.any fun flow => flow.1 = f

def Session.buffered (session : Session Stream) (f : FlowId) : List Bytes := (session.pending f).getD []

/-- `dispatch_decrypted_frame` for a data frame. -/
def Session.dispatchData (config : TunNetworkConfig) (session : Session Stream) (f : FlowId) (payload : Bytes)
    (found : FlowData) : Session Stream :=
  if session.has f then { session with flows := (handleFlowData f session.flows found).1 }
  else if config.enabled then session
  else { session with pending := Function.update session.pending f (some (session.buffered f ++ [payload])) }

inductive SessionEvent (Stream : Type) where
  | data (f : FlowId) (payload : Bytes) (found : FlowData)
  | createFlow (f : FlowId) (target : String) (port : UInt16) (world : World Stream)
  /-- By the client, or by one of the flow's tasks. -/
  | closeFlow (f : FlowId)

/-- A session and, as a history, the flows that were closed or could not be created. -/
structure Buffering (Stream : Type) where
  session : Session Stream
  gone : FlowId → Bool

namespace Buffering

def start : Buffering Stream := ⟨⟨[], fun _ => none, [], fun _ => []⟩, fun _ => false⟩

def step (config : TunNetworkConfig) (state : Buffering Stream) : SessionEvent Stream → Option (Buffering Stream)
  | .data f payload found =>
    let session := state.session.dispatchData config f payload found
    some ⟨session, Function.update state.gone f (state.gone f || state.session.has f && !session.has f)⟩
  | .createFlow f target port world =>
    let session := (state.session.createFlow world config f target port).session
    some ⟨session, Function.update state.gone f (!session.has f)⟩
  | .closeFlow f =>
    some ⟨{ state.session with flows := removeFlow f state.session.flows }, Function.update state.gone f true⟩

def Bounded (state : Buffering Stream) (f : FlowId) : Prop :=
  (state.session.buffered f).length ≤ pendingFrameCap ∧ (state.gone f = true → state.session.buffered f = [])

/-- Data is buffered only below the cap and for a flow that is not gone, and a flow goes with nothing buffered. -/
def modest (config : TunNetworkConfig) (state : Buffering Stream) : SessionEvent Stream → Bool
  | .data f _ found =>
    if state.session.has f then found ≠ .full || (state.session.buffered f).isEmpty
    else config.enabled || (state.session.buffered f).length < pendingFrameCap && !state.gone f
  | .createFlow f target port world =>
    let session := (state.session.createFlow world config f target port).session
    session.has f || (session.buffered f).isEmpty
  | .closeFlow f => (state.session.buffered f).isEmpty

theorem pending_createFlow (world : World Stream) (config : TunNetworkConfig) (session : Session Stream) (f : FlowId)
    (target : String) (port : UInt16) :
    let pending := (session.createFlow world config f target port).session.pending
    pending = session.pending ∨ pending = Function.update session.pending f none := by
  have same : (session.obtainStream world config s!"{target}:{port}").2.pending = session.pending := by
    unfold Session.obtainStream
    dsimp only
    split <;> rfl
  unfold Session.createFlow
  split
  · exact .inl rfl
  · dsimp only
    split
    all_goals
      rename_i obtained
      rw [obtained] at same
    · exact .inl same
    · exact .inr (by rw [← same]; rfl)

/-- An event changes only what is buffered for its own flow. -/
theorem bounded_iff {state : Buffering Stream} (bounded : ∀ g, state.Bounded g) (session : Session Stream)
    (buffered : ∀ g ≠ f, session.buffered g = state.session.buffered g) (gone : Bool) :
    (∀ g, Bounded ⟨session, Function.update state.gone f gone⟩ g) ↔
      (session.buffered f).length ≤ pendingFrameCap ∧ (gone = true → session.buffered f = []) := by
  refine ⟨fun all => by simpa [Bounded] using all f, fun own g => ?_⟩
  by_cases same : g = f
  · simpa [same, Bounded] using own
  · simpa [Bounded, same, buffered g same] using bounded g

theorem step_bounded_iff {state : Buffering Stream} (bounded : ∀ g, state.Bounded g)
    (taken : state.step config event = some next) : (∀ g, next.Bounded g) ↔ state.modest config event = true := by
  cases event with
  | data f payload found =>
    cases taken
    obtain ⟨below, emptied⟩ := bounded f
    rw [bounded_iff bounded]
    · by_cases known : state.session.has f = true
      · have out : Session.has { state.session with flows := removeFlow f state.session.flows } f = false := by
          simp [Session.has, removeFlow]
        cases found
        case full =>
          simpa [modest, Session.dispatchData, handleFlowData, known, out, Session.buffered] using fun _ => below
        all_goals simpa [modest, Session.dispatchData, handleFlowData, known] using ⟨below, emptied⟩
      · by_cases tun : config.enabled = true
        · simpa [modest, Session.dispatchData, known, tun] using ⟨below, emptied⟩
        · simp [modest, Session.dispatchData, known, tun, Session.buffered, Nat.add_one_le_iff]
          exact fun _ => decide_eq_true_iff.symm
    · intro g other
      unfold Session.dispatchData
      split_ifs <;> simp [Session.buffered, other]
  | createFlow f target port world =>
    cases taken
    have pending := pending_createFlow world config state.session f target port
    rw [bounded_iff bounded]
    · have below : ((state.session.createFlow world config f target port).session.buffered f).length ≤
          pendingFrameCap := by
        rcases pending with same | cleared
        · simpa [Session.buffered, same] using (bounded f).1
        · simp [Session.buffered, cleared]
      cases known : (state.session.createFlow world config f target port).session.has f <;> simp [modest, known, below]
    · intro g other
      rcases pending with changed | changed <;> simp [Session.buffered, changed, other]
  | closeFlow f =>
    cases taken
    rw [bounded_iff bounded]
    · simpa [modest, Session.buffered] using fun _ => (bounded f).1
    · exact fun _ _ => rfl

/-- At every point of a session every flow id has at most 100 frames buffered, and none once it is gone, exactly if no
frame of the session is buffered beyond the cap or for a flow that is gone, and no flow goes with frames buffered. -/
theorem pending_bounded_iff (config : TunNetworkConfig) (events : List (SessionEvent Stream)) (final : Buffering Stream)
    (reached : Transition.run (step config) start events = some final) :
    (∀ n state, Transition.run (step config) start (events.take n) = some state → ∀ f, state.Bounded f) ↔
      Transition.Meets (step config) (fun state event => state.modest config event = true) start events :=
  Transition.always_iff_meets (fun _ _ _ _ _ => trivial) (fun _ _ _ _ => step_bounded_iff) trivial
    (fun _ => ⟨Nat.zero_le _, fun _ => rfl⟩) reached

open Sample in
/-- One early frame, then a `CreateFlow` that takes it. -/
def earlyFrame : List (SessionEvent Unit) :=
  [.data 1 [0] .unknown, .createFlow 1 "192.0.2.1" 80 { deadWorld with connect := fun _ => .connected () }]

theorem early_frame_bounded :
    ∃ state, Transition.run (step ⟨false, ""⟩) start earlyFrame = some state ∧ state.Bounded 1 :=
  ⟨_, rfl, (pending_bounded_iff ⟨false, ""⟩ earlyFrame _ rfl).mpr (by decide +kernel) 2 _ rfl 1⟩

/-- 101 frames of a flow that is never created; and one for a flow that is then closed. -/
theorem pending_unbounded :
    (Transition.run (step ⟨false, ""⟩) (start : Buffering Unit) (List.replicate 101 (.data 1 [0] .unknown))).map
        (fun state => (state.session.buffered 1).length) = some 101 ∧
      (Transition.run (step ⟨false, ""⟩) (start : Buffering Unit) [.data 1 [0] .unknown, .closeFlow 1]).map
        (fun state => (state.gone 1, state.session.buffered 1)) = some (true, [[0]]) := by
  decide +kernel

end Buffering

end Rvpn.Server
