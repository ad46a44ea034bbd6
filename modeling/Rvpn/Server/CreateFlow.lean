import Rvpn.Mux.Tunnel
import Rvpn.Server.Connect

/-! `handle_control` on a `CreateFlow`, with every exit. -/

namespace Rvpn.Server

open Mux (FlowId ControlMessage Frame)

structure Session (Stream : Type) where
  flows : List (FlowId × Stream)
  pending : FlowId → Option (List Bytes)
  dnsCache : DnsCache
  tcpPool : TcpPool Stream

/-- What the handler returns and its caller logs, what it puts on the control channel, the
session after it, and the target of the connection it starts in the background. -/
structure Handled (Stream : Type) where
  result : Except String Unit
  sent : List ControlMessage
  session : Session Stream
  preconnects : Option String

variable {Stream : Type}

/-- `remove_flow`. -/
def removeFlow (f : FlowId) (flows : List (FlowId × Stream)) : List (FlowId × Stream) :=
  flows.filter fun flow => flow.1 ≠ f

/-- `handle_flow_data`: a full queue costs the flow and tells the client. -/
def handleFlowData (f : FlowId) (flows : List (FlowId × Stream)) :
    FlowData → List (FlowId × Stream) × List ControlMessage
  | .full => (removeFlow f flows, [.closeFlow f])
  | .queued | .closed | .unknown => (flows, [])

def flushPending (f : FlowId) :
    List FlowData → List (FlowId × Stream) → List (FlowId × Stream) × List ControlMessage
  | [], flows => (flows, [])
  | found :: rest, flows =>
    let (flows, sent) := handleFlowData f flows found
    let (flows, sentLater) := flushPending f rest flows
    (flows, sent ++ sentLater)

def Session.obtainStream (world : World Stream) (config : TunNetworkConfig) (session : Session Stream)
    (connectTarget : String) : Except String Stream × Session Stream :=
  let (pooled, queue) := popUsable world (session.tcpPool connectTarget)
  let session := { session with tcpPool := Function.update session.tcpPool connectTarget queue }
  match pooled with
  | some stream => (.ok stream, session)
  | none =>
    let (stream, dnsCache) := connectWithDnsCache world config connectTarget session.dnsCache
    (stream, { session with dnsCache })

/-- The flow is stored, `FlowCreated` sent and the first buffered frames flushed. -/
def Session.storeFlow (world : World Stream) (session : Session Stream) (f : FlowId) (stream : Stream)
    (connectTarget : String) : Handled Stream :=
  let frames := ((session.pending f).getD []).take Mux.maxFlushFrames
  let (flows, sent) := flushPending f ((List.range frames.length).map world.flowData)
    ((f, stream) :: removeFlow f session.flows)
  { result := .ok ()
    sent := .flowCreated f none :: sent
    session := { session with flows, pending := Function.update session.pending f none }
    preconnects := some connectTarget }

/-- The `CreateFlow` arm. An error of `connect_with_dns_cache` leaves by `?`, so the arm that
would send `FlowFailed` for it matches a value that is always `Ok`. -/
def Session.createFlow (world : World Stream) (config : TunNetworkConfig) (session : Session Stream)
    (f : FlowId) (target : String) (port : UInt16) : Handled Stream :=
  if Mux.maxFlowsPerSession ≤ session.flows.length then
    { result := .ok ()
      sent := [.flowFailed f (Mux.State.tooManyFlows session.flows.length)]
      session
      preconnects := none }
  else
    let connectTarget := s!"{target}:{port}"
    match session.obtainStream world config connectTarget with
    | (.error failure, session) => { result := .error failure, sent := [], session, preconnects := none }
    | (.ok stream, session) => session.storeFlow world f stream connectTarget

/-- `FlowCreated` and `FlowFailed` of the flow. -/
def answers (f : FlowId) : ControlMessage → Bool
  | .flowCreated g _ | .flowFailed g _ => g = f
  | .createFlow _ _ _ | .closeFlow _ | .ping _ | .pong _ | .windowUpdate _ _ => false

variable {world : World Stream} {config : TunNetworkConfig} {session : Session Stream} {f : FlowId}
  {target : String} {port : UInt16}

theorem filter_answers_flushPending (found : List FlowData) (flows : List (FlowId × Stream)) :
    (flushPending f found flows).2.filter (answers f) = [] := by
  induction found generalizing flows with
  | nil => rfl
  | cons first rest ih =>
    cases first <;> simp [flushPending, handleFlowData, answers, ih]

theorem filter_answers_storeFlow (stream : Stream) (connectTarget : String) :
    (session.storeFlow world f stream connectTarget).sent.filter (answers f) = [.flowCreated f none] := by
  simp [Session.storeFlow, answers, filter_answers_flushPending]

/-- There is a connection to be had: pooled and usable, or an address that accepts. -/
def Session.Obtainable (world : World Stream) (config : TunNetworkConfig) (session : Session Stream)
    (connectTarget : String) : Prop :=
  (∃ entry ∈ session.tcpPool connectTarget, tcpPoolEntryUsable world entry = true) ∨
    Reachable world config session.dnsCache connectTarget

theorem obtainStream_ok_iff :
    (∃ stream, (session.obtainStream world config connectTarget).1 = .ok stream) ↔
      session.Obtainable world config connectTarget := by
  rw [Session.Obtainable, ← popUsable_isSome_iff, ← connectWithDnsCache_ok_iff]
  unfold Session.obtainStream
  obtain ⟨pooled, queue⟩ := popUsable world (session.tcpPool connectTarget)
  cases pooled <;> simp

theorem filter_answers_createFlow :
    (session.createFlow world config f target port).sent.filter (answers f) =
      if Mux.maxFlowsPerSession ≤ session.flows.length then
        [.flowFailed f (Mux.State.tooManyFlows session.flows.length)]
      else match (session.obtainStream world config s!"{target}:{port}").1 with
        | .ok _ => [.flowCreated f none]
        | .error _ => [] := by
  unfold Session.createFlow
  split
  · simp [answers]
  · dsimp only
    obtain ⟨obtained, after⟩ := session.obtainStream world config s!"{target}:{port}"
    cases obtained with
    | error failure => rfl
    | ok stream => exact filter_answers_storeFlow stream _

/-- A `CreateFlow` is answered with exactly one of `FlowCreated` and `FlowFailed` exactly
when the session is at its flow limit or a connection to the target can be had. -/
theorem createFlow_answered_once_iff (world : World Stream) (config : TunNetworkConfig)
    (session : Session Stream) (f : FlowId) (target : String) (port : UInt16) :
    (session.createFlow world config f target port).sent.countP (answers f) = 1 ↔
      Mux.maxFlowsPerSession ≤ session.flows.length ∨
        session.Obtainable world config s!"{target}:{port}" := by
  rw [List.countP_eq_length_filter, filter_answers_createFlow, ← obtainStream_ok_iff]
  split
  · rename_i crowded
    simp [crowded]
  · rename_i sparse
    cases (session.obtainStream world config s!"{target}:{port}").1 with
    | error failure => simp [sparse]
    | ok stream => simp

namespace Sample

def deadWorld : World Unit where
  parseNetwork _ := none
  parseSocketAddr text := if text = "192.0.2.1:80" then some ⟨.v4 #v[192, 0, 2, 1], 80⟩ else none
  parseIpAddr _ := none
  parsePort _ := none
  now := 0
  lookedUp := 0
  lookupHost _ := .error "failed to lookup address information"
  connect _ := .failed "Os \x7b code: 111, kind: ConnectionRefused, message: \"Connection refused\" \x7d"
  finished addrs := addrs
  finished_perm _ := .refl _
  probe _ := .failed
  flowData _ := .queued

def emptySession : Session Unit := ⟨[], fun _ => none, [], fun _ => []⟩

end Sample

open Sample in
/-- A target that refuses the connection: nothing is put on the control channel. -/
theorem refused_connection_unanswered :
    (emptySession.createFlow deadWorld ⟨false, ""⟩ 1 "192.0.2.1" 80).sent.countP (answers 1) = 0 := by
  decide

end Rvpn.Server
