import Mathlib.Data.List.Nodup
import Mathlib.Logic.Function.Basic
import Rvpn.Lib.Transition

/-! `resumption.rs`, the rustls side: what is stored of each server, and the queue that evicts servers. -/

namespace Rvpn.Tls

def maxTicketsPerServer : Nat := 8

structure RustlsState (Name Group Session Ticket : Type) where
  order : List Name
  kxHints : Name → Option Group
  tls12 : Name → Option Session
  tls13 : Name → Option (List Ticket)

/-- The queue lists the servers of which something is stored, each once, within the capacity. -/
structure Consistent {Name : Type} (capacity : Nat) (order : List Name) (stored : Name → Bool) : Prop where
  nodup : order.Nodup
  listed : ∀ name, name ∈ order ↔ stored name = true
  within : order.length ≤ capacity

inductive StoreCall (Name Group Session Ticket : Type) where
  | setKxHint (name : Name) (group : Group)
  | setTls12Session (name : Name) (value : Session)
  | removeTls12Session (name : Name)
  | insertTls13Ticket (name : Name) (value : Ticket)
  | takeTls13Ticket (name : Name)

namespace RustlsState

variable {Name Group Session Ticket : Type}

def empty : RustlsState Name Group Session Ticket := ⟨[], fun _ => none, fun _ => none, fun _ => none⟩

section calls

variable (state : RustlsState Name Group Session Ticket)

def tickets (name : Name) : List Ticket := (state.tls13 name).getD []

def known (name : Name) : Bool :=
  (state.kxHints name).isSome || (state.tls12 name).isSome || (state.tls13 name).isSome

/-- The server has a hint, a session or a ticket; it may also have an empty queue of tickets. -/
def holds (name : Name) : Bool :=
  (state.kxHints name).isSome || (state.tls12 name).isSome || !(state.tickets name).isEmpty

variable [DecidableEq Name]

def drop (old : Name) : RustlsState Name Group Session Ticket where
  order := state.order
  kxHints := Function.update state.kxHints old none
  tls12 := Function.update state.tls12 old none
  tls13 := Function.update state.tls13 old none

/-- The loop of `note_server`, on the queue as it is then. -/
def evict (capacity : Nat) :
    List Name → RustlsState Name Group Session Ticket → RustlsState Name Group Session Ticket
  | [], rest => { rest with order := [] }
  | old :: queue, rest =>
    if capacity < (old :: queue).length then evict capacity queue (rest.drop old)
    else { rest with order := old :: queue }

def noteServer (name : Name) (capacity : Nat) : RustlsState Name Group Session Ticket :=
  evict capacity (if state.known name then state.order else state.order ++ [name]) state

def forgetIfEmpty (name : Name) : RustlsState Name Group Session Ticket :=
  { state with order := if state.holds name then state.order else state.order.filter (· ≠ name) }

/-- The ticket that a call returns, and the state after it. -/
def call (capacity : Nat) :
    StoreCall Name Group Session Ticket → Option Ticket × RustlsState Name Group Session Ticket
  | .setKxHint name group =>
    let state := state.noteServer name capacity
    (none, { state with kxHints := Function.update state.kxHints name (some group) })
  | .setTls12Session name value =>
    let state := state.noteServer name capacity
    (none, { state with tls12 := Function.update state.tls12 name (some value) })
  | .removeTls12Session name =>
    (none, forgetIfEmpty { state with tls12 := Function.update state.tls12 name none } name)
  | .insertTls13Ticket name value =>
    let state := state.noteServer name capacity
    let tickets := state.tickets name
    let tickets := if maxTicketsPerServer ≤ tickets.length then tickets.tail else tickets
    (none, { state with tls13 := Function.update state.tls13 name (some (tickets ++ [value])) })
  | .takeTls13Ticket name =>
    let tls13 := Function.update state.tls13 name ((state.tls13 name).map List.tail)
    ((state.tickets name).head?, forgetIfEmpty { state with tls13 } name)

def step (capacity : Nat) (request : StoreCall Name Group Session Ticket) :
    Option (RustlsState Name Group Session Ticket) :=
  some (state.call capacity request).2

/-- Nothing is stored for a server of which only an empty queue of tickets is left. -/
def settled : StoreCall Name Group Session Ticket → Bool
  | .setKxHint name _ | .setTls12Session name _ | .insertTls13Ticket name _ => state.known name → state.holds name
  | .removeTls12Session _ | .takeTls13Ticket _ => true

end calls

variable [DecidableEq Name] {capacity : Nat} {name : Name} {state next : RustlsState Name Group Session Ticket}

theorem evict_of_le (fits : queue.length ≤ capacity) (state : RustlsState Name Group Session Ticket) :
    evict capacity queue state = { state with order := queue } := by
  cases queue with
  | nil => rfl
  | cons old queue => rw [evict, if_neg (Nat.not_lt.mpr fits)]

theorem holds_drop (state : RustlsState Name Group Session Ticket) (old name : Name) :
    (state.drop old).holds name = (state.holds name && name ≠ old) := by
  by_cases same : name = old <;> simp [holds, tickets, drop, same]

/-- The server that is noted last is not evicted. -/
theorem consistent_evict (positive : 1 ≤ capacity) (nodup : (queue ++ [name]).Nodup)
    (listed : ∀ other ≠ name, other ∈ queue ↔ state.holds other = true) :
    Consistent capacity (evict capacity (queue ++ [name]) state).order
      fun other => other = name || (evict capacity (queue ++ [name]) state).holds other := by
  induction queue generalizing state with
  | nil =>
    rw [List.nil_append, evict_of_le positive]
    refine ⟨List.nodup_singleton name, fun other => ?_, positive⟩
    by_cases same : other = name
    · simp [same]
    · simpa [same, holds, tickets] using listed other same
  | cons old queue ih =>
    rw [List.cons_append, evict]
    obtain ⟨fresh, later⟩ := List.nodup_cons.mp nodup
    split
    · apply ih later
      intro other differs
      rw [holds_drop, Bool.and_eq_true, ← listed other differs]
      by_cases same : other = old
      · simpa [same] using fun member => fresh (List.mem_append_left _ member)
      · simp [same]
    · rename_i roomy
      refine ⟨nodup, fun other => ?_, Nat.not_lt.mp roomy⟩
      by_cases same : other = name
      · simp [same]
      · simpa [same, holds, tickets] using listed other same

/-- Once a server is noted, the queue is that of a store that has something of it. -/
theorem consistent_noteServer (consistent : Consistent capacity state.order state.holds) (positive : 1 ≤ capacity)
    (settled : state.known name = true → state.holds name = true) :
    Consistent capacity (state.noteServer name capacity).order
      fun other => other = name || (state.noteServer name capacity).holds other := by
  obtain ⟨nodup, listed, within⟩ := consistent
  unfold noteServer
  split
  · rename_i known
    rw [evict_of_le within]
    refine ⟨nodup, fun other => ?_, within⟩
    rw [listed, Bool.or_eq_true, decide_eq_true_iff]
    exact (or_iff_right_of_imp fun same => same ▸ settled known).symm
  · rename_i unknown
    have absent : name ∉ state.order := by
      rw [listed]
      intro stored
      simp_all [known, holds, tickets]
    apply consistent_evict positive (List.nodup_append_comm.mp (List.nodup_cons.mpr ⟨absent, nodup⟩))
    exact fun other _ => listed other

/-- Storing something keeps the queue consistent exactly if the server is listed, or not known at all. -/
theorem consistent_store_iff (consistent : Consistent capacity state.order state.holds) (positive : 1 ≤ capacity)
    (order : next.order = (state.noteServer name capacity).order)
    (stored : ∀ other, next.holds other = (other = name || (state.noteServer name capacity).holds other)) :
    Consistent capacity next.order next.holds ↔ (state.known name = true → state.holds name = true) := by
  rw [order, funext stored]
  constructor
  · intro after known
    have listed := (after.listed name).mpr (by simp)
    rw [noteServer, if_pos known, evict_of_le consistent.within] at listed
    exact (consistent.listed name).mp listed
  · exact consistent_noteServer consistent positive

theorem consistent_forgetIfEmpty (consistent : Consistent capacity state.order stored)
    (others : ∀ other ≠ name, state.holds other = stored other)
    (fewer : state.holds name = true → stored name = true) :
    Consistent capacity (state.forgetIfEmpty name).order state.holds := by
  obtain ⟨nodup, listed, within⟩ := consistent
  unfold forgetIfEmpty
  split
  · rename_i left
    refine ⟨nodup, fun other => ?_, within⟩
    by_cases same : other = name
    · simp [same, listed, left, fewer left]
    · rw [listed, others other same]
  · rename_i emptied
    refine ⟨nodup.filter _, fun other => ?_, Nat.le_trans (List.length_filter_le _ _) within⟩
    by_cases same : other = name
    · simp [same, emptied]
    · simp [listed, others other same, same]

theorem step_consistent_iff (positive : 1 ≤ capacity) (consistent : Consistent capacity state.order state.holds)
    (taken : state.step capacity request = some next) :
    Consistent capacity next.order next.holds ↔ state.settled request = true := by
  cases taken
  cases request with
  | setKxHint name _ | setTls12Session name _ | insertTls13Ticket name _ =>
    rw [settled, decide_eq_true_iff]
    refine consistent_store_iff consistent positive rfl fun other => ?_
    by_cases same : other = name <;> simp [call, holds, tickets, same]
  | removeTls12Session name | takeTls13Ticket name =>
    refine iff_of_true (consistent_forgetIfEmpty consistent ?_ ?_) rfl
    · intro other differs
      simp [holds, tickets, differs]
    · cases queue : state.tls13 name with
      | none => simp +contextual [holds, tickets, queue]
      | some stored => cases stored <;> simp +contextual [holds, tickets, queue]

/-- The queue is consistent at every point of a run exactly if nothing is ever stored for a server that is known only
by an empty queue of tickets. -/
theorem order_consistent_iff (capacity : Nat) (positive : 1 ≤ capacity)
    (requests : List (StoreCall Name Group Session Ticket)) (final : RustlsState Name Group Session Ticket)
    (reached : Transition.run (step · capacity) empty requests = some final) :
    (∀ n state, Transition.run (step · capacity) empty (requests.take n) = some state →
      Consistent capacity state.order state.holds) ↔
      Transition.Meets (step · capacity) (fun state request => state.settled request = true) empty requests :=
  Transition.always_iff_meets (fun _ _ _ _ _ => trivial) (fun _ _ _ _ => step_consistent_iff positive) trivial
    ⟨List.nodup_nil, fun _ => by simp [empty, holds, tickets], Nat.zero_le _⟩ reached

def spentTicket : List (StoreCall Nat Unit Unit Nat) := [.insertTls13Ticket 1 7, .takeTls13Ticket 1]

theorem spent_ticket_consistent :
    ∃ state, Transition.run (step · 1) empty spentTicket = some state ∧
      Consistent 1 state.order state.holds :=
  ⟨_, rfl, (order_consistent_iff 1 (Nat.le_refl 1) spentTicket _ rfl).mpr (by decide +kernel) 2 _ rfl⟩

/-- The server gets another ticket and is not listed again, so that two servers are stored where there is room for
one. -/
theorem refilled_server_unlisted :
    (Transition.run (step · 1) empty (spentTicket ++ [.insertTls13Ticket 1 8, .insertTls13Ticket 2 9])).map
      (fun state => (state.order, state.holds 1, state.holds 2)) = some ([2], true, true) := by
  decide +kernel

/-- The store with the tickets that were inserted for each server, and those that were returned. -/
structure Traced (Name Group Session Ticket : Type) where
  state : RustlsState Name Group Session Ticket := empty
  inserted : Name → List Ticket := fun _ => []
  returned : Name → List Ticket := fun _ => []

namespace Traced

variable {traced : Traced Name Group Session Ticket}

def call (capacity : Nat) (traced : Traced Name Group Session Ticket)
    (request : StoreCall Name Group Session Ticket) : Traced Name Group Session Ticket :=
  let (ticket, state) := traced.state.call capacity request
  match request with
  | .insertTls13Ticket name value =>
    { traced with state, inserted := Function.update traced.inserted name (traced.inserted name ++ [value]) }
  | .takeTls13Ticket name =>
    { traced with state, returned := Function.update traced.returned name (traced.returned name ++ ticket.toList) }
  | .setKxHint _ _ | .setTls12Session _ _ | .removeTls12Session _ => { traced with state }

/-- What was returned for the server and then what is stored, among what was inserted for it. -/
def Spent (traced : Traced Name Group Session Ticket) (name : Name) : Prop :=
  (traced.returned name ++ traced.state.tickets name).Sublist (traced.inserted name) ∧
    (traced.state.tickets name).length ≤ maxTicketsPerServer

theorem tickets_evict (capacity : Nat) (queue : List Name) (state : RustlsState Name Group Session Ticket)
    (name : Name) : ((evict capacity queue state).tickets name).Sublist (state.tickets name) := by
  induction queue generalizing state with
  | nil => exact .refl _
  | cons old queue ih =>
    rw [evict]
    split
    · apply (ih _).trans
      by_cases same : name = old <;> simp [tickets, drop, same]
    · exact .refl _

omit [DecidableEq Name] in
theorem Spent.shrink (spent : traced.Spent name)
    (shrunk : (state.tickets name).Sublist (traced.state.tickets name)) : Spent { traced with state } name :=
  ⟨(shrunk.append_left _).trans spent.1, Nat.le_trans shrunk.length_le spent.2⟩

theorem Spent.insert (spent : Spent { traced with state := traced.state.noteServer name capacity } name)
    (value : Ticket) : (traced.call capacity (.insertTls13Ticket name value)).Spent name := by
  obtain ⟨inOrder, few⟩ := spent
  generalize kept : (traced.state.noteServer name capacity).tickets name = tickets at inOrder few
  have after : (traced.call capacity (.insertTls13Ticket name value)).state.tickets name =
      (if maxTicketsPerServer ≤ tickets.length then tickets.tail else tickets) ++ [value] := by
    simp only [Traced.call, RustlsState.call, RustlsState.tickets, Function.update_self, ← kept]
    rfl
  constructor
  · rw [after, ← List.append_assoc]
    simp only [Traced.call, Function.update_self]
    apply List.Sublist.append_right
    refine .trans (List.Sublist.append_left ?_ _) inOrder
    split
    · exact List.tail_sublist _
    · exact .refl _
  · rw [after, List.length_append, List.length_singleton]
    split
    · rw [List.length_tail]
      have positive : 1 ≤ maxTicketsPerServer := by decide
      omega
    · rename_i room
      exact Nat.not_le.mp room

theorem Spent.take (spent : traced.Spent name) :
    (traced.call capacity (.takeTls13Ticket name)).Spent name := by
  obtain ⟨inOrder, few⟩ := spent
  have after : (traced.call capacity (.takeTls13Ticket name)).state.tickets name =
      (traced.state.tickets name).tail := by
    cases queue : traced.state.tls13 name <;>
      simp [Traced.call, RustlsState.call, RustlsState.tickets, forgetIfEmpty, queue]
  constructor
  · rw [after]
    cases stored : traced.state.tickets name <;> simpa [Traced.call, RustlsState.call, stored] using inOrder
  · rw [after, List.length_tail]
    omega

theorem Spent.call (spent : ∀ name, traced.Spent name) (request : StoreCall Name Group Session Ticket) (name : Name) :
    (traced.call capacity request).Spent name := by
  have noted (server : Name) : Spent { traced with state := traced.state.noteServer server capacity } name :=
    (spent name).shrink (tickets_evict ..)
  cases request with
  | setKxHint server _ | setTls12Session server _ => exact noted server
  | removeTls12Session server => exact (spent name).shrink (.refl _)
  | insertTls13Ticket server value =>
    by_cases same : name = server
    · exact same ▸ (noted name).insert value
    · simpa [Spent, Traced.call, RustlsState.call, tickets, same] using noted server
  | takeTls13Ticket server =>
    by_cases same : name = server
    · exact same ▸ (spent name).take
    · simpa [Spent, Traced.call, RustlsState.call, tickets, same, forgetIfEmpty] using spent name

/-- The tickets returned for a server are among those inserted for it, each once and in order, and at most eight are
stored. -/
theorem tickets_spent_once (capacity : Nat) (requests : List (StoreCall Name Group Session Ticket)) (name : Name) :
    let traced := requests.foldl (Traced.call capacity) {}
    (traced.returned name).Sublist (traced.inserted name) ∧
      (traced.state.tickets name).length ≤ maxTicketsPerServer := by
  intro traced
  have spent : ∀ name, traced.Spent name :=
    List.foldlRecOn requests (Traced.call capacity) (motive := fun traced => ∀ name, traced.Spent name)
      (fun _ => ⟨.refl _, Nat.zero_le _⟩) fun _ spent request _ => Spent.call spent request
  exact ⟨(List.sublist_append_left _ _).trans (spent name).1, (spent name).2⟩

end Traced

end RustlsState

end Rvpn.Tls
