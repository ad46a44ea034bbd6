import Mathlib.Data.List.DropRight
import Rvpn.Lib.Transition
import Rvpn.Mobile.NatRewrite

/-! The uplink of a secondary exit, alike on iOS and Android: packets wait until `connect` has stored the tunnel IP.
-/

namespace Rvpn.Mobile

abbrev Ipv4Addr := Vector UInt8 4

/-- A packet with the number of the `enqueue_uplink` call that brought it. -/
structure Queued where
  ticket : Nat
  bytes : Bytes
  deriving DecidableEq

/-- How far `connect` is with `flush_pending`; only `flushing` has the lock of the queue. -/
inductive Flush where
  | idle
  | stored
  | locking (ip : Ipv4Addr)
  | flushing (ip : Ipv4Addr)
  deriving DecidableEq

def Flush.locked : Flush → Bool
  | .flushing _ => true
  | _ => false

structure PendingUplink where
  tunnelIp : Option Ipv4Addr := none
  pending : List Queued := []
  /-- A call that has read the tunnel IP and given the lock back, before its `try_send`. -/
  demux : Option (Queued × Ipv4Addr) := none
  flush : Flush := .idle
  channel : List Queued := []
  put : List Queued := []
  /-- Everything `enqueue_uplink` was called with so far. -/
  enqueued : List Queued := []
  /-- How many calls there had been at the last `drop_pending`. -/
  cleared : Nat := 0
  deriving DecidableEq

inductive UplinkAction where
  | enqueue (packet : Bytes)
  | trySend
  | storeIp (ip : Ipv4Addr)
  | readIp
  | lock
  | pop
  | unlock
  | dropPending
  | take
  deriving DecidableEq

def pendingUplinkCap : Nat := 32

def stash (pending : List Queued) (item : Queued) : List Queued :=
  (if pendingUplinkCap ≤ pending.length then pending.tail else pending) ++ [item]

namespace PendingUplink

/-- A packet whose header cannot be rewritten is dropped, as is one that the channel has no room for. -/
def offer (capacity : Nat) (item : Queued) (ip : Ipv4Addr) (state : PendingUplink) : PendingUplink :=
  match rewriteSrcIp item.bytes ip with
  | none => state
  | some bytes =>
    if state.channel.length < capacity then
      { state with
        channel := state.channel ++ [⟨item.ticket, bytes⟩]
        put := state.put ++ [⟨item.ticket, bytes⟩] }
    else state

/-- The part of `enqueue_uplink` under the lock of the queue: it reads the tunnel IP and either stashes
the packet or goes on without the lock. -/
def enqueueUplink (packet : Bytes) (state : PendingUplink) : PendingUplink :=
  let item : Queued := ⟨state.enqueued.length, packet⟩
  let state := { state with enqueued := state.enqueued ++ [item] }
  match state.tunnelIp with
  | some ip => { state with demux := some (item, ip) }
  | none => { state with pending := stash state.pending item }

def step (capacity : Nat) (state : PendingUplink) : UplinkAction → Option PendingUplink
  | .enqueue packet =>
    if state.demux = none ∧ state.flush.locked = false then some (state.enqueueUplink packet) else none
  | .trySend => state.demux.map fun held => { state with demux := none }.offer capacity held.1 held.2
  | .storeIp ip =>
    if state.flush = .idle then some { state with tunnelIp := some ip, flush := .stored } else none
  | .readIp =>
    match state.flush, state.tunnelIp with
    | .stored, some ip => some { state with flush := .locking ip }
    | _, _ => none
  | .lock =>
    match state.flush with
    | .locking ip => some { state with flush := .flushing ip }
    | _ => none
  | .pop =>
    match state.flush, state.pending with
    | .flushing ip, item :: rest => some ({ state with pending := rest }.offer capacity item ip)
    | _, _ => none
  | .unlock =>
    match state.flush, state.pending with
    | .flushing _, [] => some { state with flush := .idle }
    | _, _ => none
  | .dropPending =>
    if state.flush.locked = false then some { state with pending := [], cleared := state.enqueued.length }
    else none
  | .take => if state.channel = [] then none else some { state with channel := state.channel.tail }

/-- What a step does to the state, but for the channel: it changes nothing but the flush, or it is one of
the calls that move packets. -/
inductive Moves (capacity : Nat) (state next : PendingUplink) : UplinkAction → Prop
  | sent {packet ip} (known : state.tunnelIp = some ip) (free : state.demux = none)
      (same : next = { state with
        enqueued := state.enqueued ++ [⟨state.enqueued.length, packet⟩]
        demux := some (⟨state.enqueued.length, packet⟩, ip) }) : Moves capacity state next (.enqueue packet)
  | stashed {packet} (unknown : state.tunnelIp = none) (free : state.demux = none)
      (same : next = { state with
        enqueued := state.enqueued ++ [⟨state.enqueued.length, packet⟩]
        pending := stash state.pending ⟨state.enqueued.length, packet⟩ }) : Moves capacity state next (.enqueue packet)
  | trySend {item ip} (held : state.demux = some (item, ip))
      (same : next = { state with demux := none }.offer capacity item ip) : Moves capacity state next .trySend
  | storeIp {ip} (idle : state.flush = .idle) (same : next = { state with tunnelIp := some ip, flush := .stored }) :
      Moves capacity state next (.storeIp ip)
  | readIp {ip} (known : state.tunnelIp = some ip) (same : next = { state with flush := .locking ip }) :
      Moves capacity state next .readIp
  | lock {ip} (ready : state.flush = .locking ip) (same : next = { state with flush := .flushing ip }) :
      Moves capacity state next .lock
  | pop {item rest ip} (flushing : state.flush = .flushing ip) (first : state.pending = item :: rest)
      (same : next = { state with pending := rest }.offer capacity item ip) : Moves capacity state next .pop
  | unlock {ip} (flushing : state.flush = .flushing ip) (empty : state.pending = [])
      (same : next = { state with flush := .idle }) : Moves capacity state next .unlock
  | dropPending (same : next = { state with pending := [], cleared := state.enqueued.length }) :
      Moves capacity state next .dropPending
  | take (same : next = { state with channel := state.channel.tail }) : Moves capacity state next .take

variable {capacity : Nat} {state next : PendingUplink} {action : UplinkAction}

theorem moves_of_step (taken : step capacity state action = some next) : Moves capacity state next action := by
  cases action with
  | enqueue packet =>
    obtain ⟨ready, same⟩ := Option.ite_none_right_eq_some.mp taken
    cases known : state.tunnelIp with
    | none =>
      simp only [enqueueUplink, known, Option.some.injEq] at same
      exact .stashed known ready.1 (by rw [known]; exact same.symm)
    | some ip =>
      simp only [enqueueUplink, known, Option.some.injEq] at same
      exact .sent known ready.1 (by rw [known]; exact same.symm)
  | trySend =>
    obtain ⟨held, found, same⟩ := Option.map_eq_some_iff.mp taken
    exact .trySend found same.symm
  | storeIp ip =>
    obtain ⟨idle, same⟩ := Option.ite_none_right_eq_some.mp taken
    exact .storeIp idle (Option.some.inj same).symm
  | readIp =>
    simp only [step] at taken
    split at taken
    · rename_i ip stored known
      exact .readIp known (Option.some.inj taken).symm
    · cases taken
  | lock =>
    simp only [step] at taken
    split at taken
    · rename_i ip ready
      exact .lock ready (Option.some.inj taken).symm
    · cases taken
  | pop =>
    simp only [step] at taken
    split at taken
    · rename_i ip item rest flushing first
      exact .pop flushing first (Option.some.inj taken).symm
    · cases taken
  | unlock =>
    simp only [step] at taken
    split at taken
    · rename_i ip flushing empty
      exact .unlock flushing empty (Option.some.inj taken).symm
    · cases taken
  | dropPending =>
    obtain ⟨-, same⟩ := Option.ite_none_right_eq_some.mp taken
    exact .dropPending (Option.some.inj same).symm
  | take =>
    obtain ⟨-, same⟩ := Option.ite_none_left_eq_some.mp taken
    exact .take (Option.some.inj same).symm

section offer

variable (capacity : Nat) (item : Queued) (ip : Ipv4Addr) (state : PendingUplink)

theorem offer_cases : state.offer capacity item ip = state ∨
    ∃ bytes, rewriteSrcIp item.bytes ip = some bytes ∧ state.offer capacity item ip =
      { state with
        channel := state.channel ++ [⟨item.ticket, bytes⟩]
        put := state.put ++ [⟨item.ticket, bytes⟩] } := by
  cases rewritten : rewriteSrcIp item.bytes ip with
  | none => exact .inl (by simp only [offer, rewritten])
  | some bytes =>
    by_cases room : state.channel.length < capacity
    · exact .inr ⟨bytes, rfl, by simp only [offer, rewritten, if_pos room]⟩
    · exact .inl (by simp only [offer, rewritten, if_neg room])

end offer

def Rewritten (enqueued : List Queued) (item : Queued) : Prop :=
  ∃ original ∈ enqueued, ∃ ip, original.ticket = item.ticket ∧ rewriteSrcIp original.bytes ip = some item.bytes

/-- The packets that wait are the last ones that came, and those that `held` is about to put on the
channel lie between them and the ones put there. -/
structure Ordered (state : PendingUplink) (held : List Queued) : Prop where
  numbered : state.enqueued.map Queued.ticket = List.range state.enqueued.length
  inOrder : ((state.put ++ held ++ state.pending).map Queued.ticket).Sublist (state.enqueued.map Queued.ticket)
  recent : state.pending <:+ state.enqueued
  brought : ∀ item ∈ held, item ∈ state.enqueued
  rewritten : ∀ item ∈ state.put, Rewritten state.enqueued item

namespace Ordered

variable {held : List Queued} {item : Queued} {ip : Ipv4Addr}

theorem offer (ordered : Ordered state [item]) (capacity : Nat) (ip : Ipv4Addr) :
    Ordered (state.offer capacity item ip) [] := by
  rcases offer_cases capacity item ip state with same | ⟨bytes, rewritten, same⟩
  · rw [same]
    refine { ordered with inOrder := ?_, brought := by simp }
    refine List.Sublist.trans (List.Sublist.map _ ?_) ordered.inOrder
    simp
  · rw [same]
    refine { ordered with inOrder := ?_, brought := by simp, rewritten := ?_ }
    · simpa using ordered.inOrder
    · exact List.forall_mem_append.mpr ⟨ordered.rewritten,
        List.forall_mem_singleton.mpr ⟨item, ordered.brought item List.mem_cons_self, ip, rfl, rewritten⟩⟩

theorem enqueue (ordered : Ordered state []) {packet : Bytes} {pending : List Queued}
    {demux : Option (Queued × Ipv4Addr)}
    (recent : pending <:+ state.enqueued ++ [⟨state.enqueued.length, packet⟩])
    (kept : (held ++ pending).Sublist (state.pending ++ [⟨state.enqueued.length, packet⟩])) :
    Ordered { state with
      enqueued := state.enqueued ++ [⟨state.enqueued.length, packet⟩]
      pending
      demux } held where
  numbered := by
    rw [List.map_append, ordered.numbered, List.length_append, List.length_singleton, List.range_succ]
    rfl
  inOrder := by
    have wider : (state.put ++ held ++ pending).Sublist
        (state.put ++ state.pending ++ [⟨state.enqueued.length, packet⟩]) := by
      rw [List.append_assoc, List.append_assoc]
      exact (List.Sublist.refl state.put).append kept
    have before := ordered.inOrder
    rw [List.append_nil] at before
    have both := before.append (List.Sublist.refl ([⟨state.enqueued.length, packet⟩].map Queued.ticket))
    rw [← List.map_append, ← List.map_append] at both
    exact (wider.map _).trans both
  recent
  brought item listed := by
    have member := kept.subset (List.mem_append_left pending listed)
    rcases List.mem_append.mp member with old | new
    · exact List.mem_append_left _ (ordered.recent.subset old)
    · exact List.mem_append_right _ new
  rewritten item listed := by
    obtain ⟨original, member, same⟩ := ordered.rewritten item listed
    exact ⟨original, List.mem_append_left _ member, same⟩

theorem getElem?_ticket (ordered : Ordered state held) (member : item ∈ state.enqueued) :
    state.enqueued[item.ticket]? = some item := by
  obtain ⟨position, found⟩ := List.mem_iff_getElem?.mp member
  have number : (state.enqueued.map Queued.ticket)[position]? = some item.ticket := by
    rw [List.getElem?_map, found]
    rfl
  rw [ordered.numbered, List.getElem?_eq_some_iff] at number
  obtain ⟨inside, same⟩ := number
  rw [List.getElem_range] at same
  rwa [← same]

end Ordered

def flushedFirst (state : PendingUplink) : UplinkAction → Bool
  | .enqueue _ => state.tunnelIp.isNone || state.pending.isEmpty
  | _ => true

theorem stash_eq_rtake (packets : List Queued) (item : Queued) :
    stash (packets.rtake pendingUplinkCap) item = (packets ++ [item]).rtake pendingUplinkCap := by
  rw [stash, show pendingUplinkCap = 31 + 1 from rfl, List.rtake_concat_succ]
  congr 1
  unfold List.rtake
  rw [List.length_drop]
  split
  · rw [List.tail_drop]
    congr 1
    omega
  · congr 1
    omega

theorem stash_sublist (pending : List Queued) (item : Queued) : (stash pending item).Sublist (pending ++ [item]) := by
  refine List.Sublist.append ?_ (List.Sublist.refl _)
  split
  · exact List.tail_sublist pending
  · exact List.Sublist.refl pending

theorem stash_suffix {pending enqueued : List Queued} (recent : pending <:+ enqueued) (item : Queued) :
    stash pending item <:+ enqueued ++ [item] := by
  have kept : (if pendingUplinkCap ≤ pending.length then pending.tail else pending) <:+ enqueued := by
    split
    · exact (List.tail_suffix pending).trans recent
    · exact recent
  obtain ⟨older, same⟩ := kept
  exact ⟨older, by rw [stash, ← List.append_assoc, same]⟩

theorem length_stash_le {pending : List Queued} (bounded : pending.length ≤ pendingUplinkCap) (item : Queued) :
    (stash pending item).length ≤ pendingUplinkCap := by
  unfold stash
  rw [List.length_append, List.length_singleton]
  split
  · rw [List.length_tail]
    unfold pendingUplinkCap at *
    omega
  · omega

structure Coherent (state : PendingUplink) : Prop where
  ordered : Ordered state (state.demux.toList.map Prod.fst)
  emptied : state.demux ≠ none → state.pending = []
  bounded : state.pending.length ≤ pendingUplinkCap
  known : state.flush ≠ .idle → state.tunnelIp ≠ none
  counted : state.cleared ≤ state.enqueued.length
  stashing : state.tunnelIp = none → state.demux = none ∧
    state.pending = (state.enqueued.drop state.cleared).rtake pendingUplinkCap

namespace Coherent

theorem initial : Coherent {} where
  ordered := ⟨rfl, List.Sublist.refl [], List.suffix_rfl, by simp, by simp⟩
  emptied unheld := absurd rfl unheld
  bounded := Nat.zero_le _
  known busy := absurd rfl busy
  counted := Nat.le_refl 0
  stashing _ := ⟨rfl, rfl⟩

theorem of_offer (ordered : Ordered state [item]) (free : state.demux = none) (known : state.tunnelIp ≠ none)
    (bounded : state.pending.length ≤ pendingUplinkCap) (counted : state.cleared ≤ state.enqueued.length)
    (capacity : Nat) :
    Coherent (state.offer capacity item ip) := by
  have after := ordered.offer capacity ip
  have unheld : state.demux.toList.map Prod.fst = [] := by
    rw [free]
    rfl
  rcases offer_cases capacity item ip state with same | ⟨bytes, -, same⟩
  · rw [same] at after ⊢
    exact ⟨unheld ▸ after, fun held => absurd free held, bounded, fun _ => known, counted,
      fun unknown => absurd unknown known⟩
  · rw [same] at after ⊢
    refine ⟨?_, fun held => absurd free held, bounded, fun _ => known, counted,
      fun unknown => absurd unknown known⟩
    rw [unheld]
    exact after

theorem step (coherent : Coherent state) (met : flushedFirst state action = true)
    (taken : PendingUplink.step capacity state action = some next) : Coherent next := by
  have ordered := coherent.ordered
  cases moves_of_step taken with
  | @sent packet ip known free same =>
    have empty : state.pending = [] := by simpa [flushedFirst, known] using met
    rw [free] at ordered
    subst same
    refine { coherent with ordered := ?_, emptied := fun _ => empty, counted := ?_, stashing := ?_ }
    · refine ordered.enqueue ?_ ?_
      · rw [empty]
        exact List.nil_suffix
      · simp [empty]
    · rw [List.length_append]
      exact Nat.le_add_right_of_le coherent.counted
    · intro unknown
      rw [known] at unknown
      cases unknown
  | @stashed packet unknown free same =>
    rw [free] at ordered
    subst same
    refine { coherent with ordered := ?_, emptied := ?_, bounded := ?_, counted := ?_, stashing := ?_ }
    · rw [free]
      exact ordered.enqueue (stash_suffix ordered.recent _) (stash_sublist _ _)
    · exact fun held => absurd free held
    · exact length_stash_le coherent.bounded _
    · rw [List.length_append]
      exact Nat.le_add_right_of_le coherent.counted
    · intro _
      rw [List.drop_append_of_le_length coherent.counted, ← stash_eq_rtake, ← (coherent.stashing unknown).2]
      exact ⟨free, rfl⟩
  | @trySend item ip held same =>
    rw [held] at ordered
    have between : Ordered { state with demux := none } [item] := { ordered with }
    subst same
    refine of_offer between rfl ?_ coherent.bounded coherent.counted capacity
    intro unknown
    have free := (coherent.stashing unknown).1
    rw [held] at free
    cases free
  | storeIp idle same =>
    subst same
    exact { coherent with ordered := { ordered with }, known := fun _ => nofun, stashing := nofun }
  | @readIp ip known same =>
    subst same
    exact { coherent with ordered := { ordered with }, known := fun _ => by rw [known]; nofun }
  | @lock ip ready same =>
    subst same
    exact { coherent with ordered := { ordered with }, known := fun _ => coherent.known (by rw [ready]; nofun) }
  | @pop item rest ip flushing first same =>
    have free : state.demux = none := by
      by_contra held
      rw [coherent.emptied held] at first
      cases first
    have busy : state.tunnelIp ≠ none := coherent.known (by rw [flushing]; nofun)
    have shorter : rest.length ≤ pendingUplinkCap := by
      have bounded := coherent.bounded
      rw [first, List.length_cons] at bounded
      omega
    have older : item :: rest <:+ state.enqueued := first ▸ ordered.recent
    rw [free] at ordered
    have between : Ordered { state with pending := rest } [item] := by
      refine { ordered with inOrder := ?_, recent := (List.suffix_cons item rest).trans older, brought := ?_ }
      · simpa [first] using ordered.inOrder
      · intro other listed
        rw [List.mem_singleton.mp listed]
        exact older.subset List.mem_cons_self
    subst same
    exact of_offer between free busy shorter coherent.counted capacity
  | unlock flushing empty same =>
    subst same
    exact { coherent with ordered := { ordered with }, known := fun busy => absurd rfl busy }
  | dropPending same =>
    subst same
    refine { coherent with
      ordered := { ordered with inOrder := ?_, recent := List.nil_suffix }
      emptied := fun _ => rfl
      bounded := Nat.zero_le _
      counted := Nat.le_refl _
      stashing := ?_ }
    · refine List.Sublist.trans (List.Sublist.map _ ?_) ordered.inOrder
      rw [List.append_nil]
      exact List.sublist_append_left _ _
    · intro unknown
      rw [List.drop_length]
      exact ⟨(coherent.stashing unknown).1, rfl⟩
  | take same =>
    subst same
    exact { coherent with ordered := { ordered with } }

end Coherent

/-- As long as every call that finds the tunnel IP stored finds the queue empty: what is on the channel was put there
in the order of the calls, each packet rewritten, and what waits are the last packets that came, none of them sent and
at most 32; before the tunnel IP is stored all since the last `drop_pending` that there is room for. -/
theorem uplink_in_order (capacity : Nat) (actions : List UplinkAction) (final : PendingUplink)
    (met : Transition.Meets (step capacity) (fun state action => flushedFirst state action = true) {} actions)
    (reached : Transition.run (step capacity) {} actions = some final) :
    (final.put.map Queued.ticket).Pairwise (· < ·) ∧
    (∀ item ∈ final.put, ∃ packet ip, final.enqueued[item.ticket]? = some ⟨item.ticket, packet⟩ ∧
      rewriteSrcIp packet ip = some item.bytes) ∧
    final.pending.length ≤ 32 ∧
    final.pending <:+ final.enqueued ∧
    (∀ waiting ∈ final.pending, ∀ sent ∈ final.put, sent.ticket < waiting.ticket) ∧
    (final.tunnelIp = none → final.pending = (final.enqueued.drop final.cleared).rtake 32) := by
  have coherent : Coherent final := Transition.run_preserves_of_meets
    (fun state action next holds met taken => holds.step met taken) Coherent.initial met reached
  have ordered := coherent.ordered
  have ascending : ((final.put ++ final.demux.toList.map Prod.fst ++ final.pending).map Queued.ticket).Pairwise
      (· < ·) := (ordered.numbered ▸ List.pairwise_lt_range).sublist ordered.inOrder
  rw [List.map_append, List.pairwise_append, List.map_append, List.pairwise_append] at ascending
  obtain ⟨⟨sorted, -, -⟩, -, before⟩ := ascending
  refine ⟨sorted, ?_, coherent.bounded, ordered.recent, ?_, fun unknown => (coherent.stashing unknown).2⟩
  · intro item listed
    obtain ⟨original, member, ip, same, rewritten⟩ := ordered.rewritten item listed
    refine ⟨original.bytes, ip, ?_, rewritten⟩
    rw [← same]
    exact ordered.getElem?_ticket member
  · intro waiting listed sent old
    refine before _ ?_ _ (List.mem_map_of_mem listed)
    exact List.mem_append_left _ (List.mem_map_of_mem old)

end PendingUplink

namespace PendingUplinkSample

def packet (host : UInt8) : Bytes := [0x45, 0, 0, 20, 0, 0, 0, 0, 64, 1, 0, 0, 10, 0, 0, 1, 8, 8, 8, host]

def tunnelIp : Ipv4Addr := #v[10, 8, 0, 2]

def flushedInTime : List UplinkAction :=
  [.enqueue (packet 1), .enqueue (packet 2), .storeIp tunnelIp, .readIp, .lock, .pop, .pop, .unlock,
    .enqueue (packet 3), .trySend]

def overtaken : List UplinkAction :=
  [.enqueue (packet 1), .storeIp tunnelIp, .enqueue (packet 2), .trySend, .readIp, .lock, .pop, .unlock]

end PendingUplinkSample

namespace PendingUplink

open PendingUplinkSample in
theorem three_packets_in_order :
    ∃ final, Transition.run (step 64) {} flushedInTime = some final ∧ final.put.length = 3 ∧
      (final.put.map Queued.ticket).Pairwise (· < ·) ∧ final.pending <:+ final.enqueued := by
  refine Transition.exists_of_evaluated (p := fun final => final.put.length = 3) (by decide +kernel) ?_
  intro final reached count
  have correct := uplink_in_order 64 flushedInTime final (by decide +kernel) reached
  exact ⟨count, correct.1, correct.2.2.2.1⟩

open PendingUplinkSample in
theorem packet_overtakes_pending :
    ∃ final, Transition.run (step 64) {} overtaken = some final ∧ final.enqueued.map Queued.ticket = [0, 1] ∧
      final.put.map Queued.ticket = [1, 0] ∧ ¬ (final.put.map Queued.ticket).Pairwise (· < ·) := by
  decide +kernel

end PendingUplink

end Rvpn.Mobile
