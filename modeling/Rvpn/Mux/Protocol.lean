import Rvpn.Crypto.Primitives

/-! What the ends of a tunnel exchange. Flow ids are natural numbers: a tunnel is taken to open fewer than 2^32
flows. -/

namespace Rvpn.Mux

abbrev FlowId := Nat

def initialFlowWindow : Nat := 256 * 1024
/-- The relays' read buffer on both ends: two bytes less than 8192 for the padding length. -/
def readBufferSize : Nat := 8190
/-- Capacity of `local_to_ws` and of `ws_to_local`. -/
def flowChannelCap : Nat := 256
def flowUplinkQueueCap : Nat := 64
/-- Capacity of the session's data channel `tx`. -/
def dataChannelCap : Nat := 2000
/-- Capacity of the session's control channel `control_tx`. -/
def controlChannelCap : Nat := 256
def maxFlowsPerSession : Nat := 2000
def maxFlushFrames : Nat := 5

inductive ControlMessage where
  | createFlow (flowId : FlowId) (target : String) (port : UInt16)
  | closeFlow (flowId : FlowId)
  | flowCreated (flowId : FlowId) (localPort : Option UInt16)
  | flowFailed (flowId : FlowId) (error : String)
  | ping (timestamp : UInt64)
  | pong (timestamp : UInt64)
  | windowUpdate (flowId : FlowId) (windowSize : Nat)
  deriving DecidableEq, Repr

def ControlMessage.flow : ControlMessage → Option FlowId
  | .createFlow f _ _ | .closeFlow f | .flowCreated f _ | .flowFailed f _ | .windowUpdate f _ => some f
  | .ping _ | .pong _ => none

def ControlMessage.endsFlow : ControlMessage → Bool
  | .closeFlow _ | .flowFailed _ _ => true
  | .createFlow _ _ _ | .flowCreated _ _ | .ping _ | .pong _ | .windowUpdate _ _ => false

/-- A frame on the wire, after padding, encryption and their inverses. Flow 0 is
the control channel; no data frame carries it. -/
inductive Frame where
  | control (message : ControlMessage)
  | data (flowId : FlowId) (payload : Bytes)
  deriving DecidableEq, Repr

namespace Frame

def flow : Frame → Option FlowId
  | .control message => message.flow
  | .data f _ => some f

def isData : Frame → Bool
  | .control _ => false
  | .data _ _ => true

def isCreate : Frame → Bool
  | .control (.createFlow _ _ _) => true
  | _ => false

def isClose : Frame → Bool
  | .control (.closeFlow _) => true
  | _ => false

def endsFlow : Frame → Bool
  | .control message => message.endsFlow
  | .data _ _ => false

def payload : Frame → Bytes
  | .control _ => []
  | .data _ payload => payload

@[simp] theorem flow_data (f : FlowId) (bytes : Bytes) : (Frame.data f bytes).flow = some f := rfl

@[simp] theorem flow_control (message : ControlMessage) :
    (Frame.control message).flow = message.flow := rfl

end Frame

def payloads (frames : List Frame) : Bytes := frames.flatMap Frame.payload

def dataCount (frames : List Frame) : Nat := frames.countP Frame.isData

@[simp] theorem payloads_nil : payloads [] = [] := rfl

@[simp] theorem payloads_cons (frame : Frame) (rest : List Frame) :
    payloads (frame :: rest) = frame.payload ++ payloads rest := by
  simp [payloads]

@[simp] theorem payloads_append (first second : List Frame) :
    payloads (first ++ second) = payloads first ++ payloads second := by
  simp [payloads]

@[simp] theorem payload_data (f : FlowId) (bytes : Bytes) : (Frame.data f bytes).payload = bytes := rfl

@[simp] theorem payload_control (message : ControlMessage) : (Frame.control message).payload = [] :=
  rfl

@[simp] theorem dataCount_nil : dataCount [] = 0 := rfl

@[simp] theorem dataCount_data (f : FlowId) (bytes : Bytes) (rest : List Frame) :
    dataCount (.data f bytes :: rest) = dataCount rest + 1 :=
  List.countP_cons_of_pos rfl

@[simp] theorem dataCount_control (message : ControlMessage) (rest : List Frame) :
    dataCount (.control message :: rest) = dataCount rest := by
  simp [dataCount, Frame.isData]

@[simp] theorem dataCount_append (first second : List Frame) :
    dataCount (first ++ second) = dataCount first + dataCount second := by
  simp [dataCount]

theorem length_mul_le_flatten {messages : List Bytes} (bulky : ∀ message ∈ messages, size ≤ message.length) :
    messages.length * size ≤ messages.flatten.length := by
  induction messages with
  | nil => simp
  | cons message rest ih =>
    have first := bulky message List.mem_cons_self
    have others := ih fun other member => bulky other (List.mem_cons_of_mem _ member)
    rw [List.length_cons, Nat.succ_mul, List.flatten_cons, List.length_append]
    omega

def NoDataAfter (ends : Frame → Bool) : List Frame → Prop
  | [] => True
  | frame :: rest => (ends frame = true → payloads rest = []) ∧ NoDataAfter ends rest

theorem NoDataAfter.append (last : NoDataAfter ends frames)
    (silent : (∃ other ∈ frames, ends other = true) → frame.payload = []) :
    NoDataAfter ends (frames ++ [frame]) := by
  induction frames with
  | nil => exact ⟨fun _ => rfl, trivial⟩
  | cons first rest ih =>
    refine ⟨?_, ih last.2 fun ⟨other, member, ended⟩ => silent ⟨other, List.mem_cons_of_mem _ member, ended⟩⟩
    intro ended
    simp [last.1 ended, silent ⟨first, List.mem_cons_self, ended⟩]

/-- The sending side's gate of one flow: an atomic 64-bit counter of bytes that
may still be sent, and the flag `close` sets. -/
structure FlowSendCredits where
  available : Nat
  closed : Bool
  bounded : available < UInt64.size
  deriving DecidableEq, Repr

namespace FlowSendCredits

def new : FlowSendCredits where
  available := initialFlowWindow
  closed := false
  bounded := by decide

/-- What `try_consume(max)` returns. -/
def consumable (credits : FlowSendCredits) (max : Nat) : Nat := min credits.available max

/-- The gate after `try_consume(max)`. -/
def tryConsume (credits : FlowSendCredits) (max : Nat) : FlowSendCredits where
  available := credits.available - credits.consumable max
  closed := credits.closed
  bounded := Nat.lt_of_le_of_lt (Nat.sub_le _ _) credits.bounded

/-- `grant`: saturating, so that a misbehaving peer cannot wrap the counter. -/
def grant (credits : FlowSendCredits) (n : Nat) : FlowSendCredits where
  available := min (credits.available + n) (UInt64.size - 1)
  closed := credits.closed
  bounded := Nat.lt_of_le_of_lt (Nat.min_le_right _ _) (by decide)

def close (credits : FlowSendCredits) : FlowSendCredits :=
  { credits with closed := true }

@[simp] theorem available_new : new.available = initialFlowWindow := rfl

@[simp] theorem closed_new : new.closed = false := rfl

theorem consumable_le (credits : FlowSendCredits) (max : Nat) : credits.consumable max ≤ max :=
  Nat.min_le_right _ _

theorem available_tryConsume (credits : FlowSendCredits) (max : Nat) :
    (credits.tryConsume max).available + credits.consumable max = credits.available :=
  Nat.sub_add_cancel (Nat.min_le_left _ _)

theorem available_le_grant (credits : FlowSendCredits) (n : Nat) :
    credits.available ≤ (credits.grant n).available := by
  have bounded := credits.bounded
  simp only [grant]
  omega

end FlowSendCredits

end Rvpn.Mux
