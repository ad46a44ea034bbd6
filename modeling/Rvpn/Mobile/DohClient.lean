import Rvpn.Lib.Slots
import Rvpn.Lib.Transition
import Rvpn.SplitTunnel.DnsWire

/-! `doh_client.rs`: the table of pending queries. The steps are those between which a lock is free. -/

namespace Rvpn.Mobile

open SplitTunnel (DnsQuery DnsResponse Text)
open Transition

inductive DohOutcome where
  | notStarted
  | channelClosed
  | timedOut
  | replyClosed
  | response (response : DnsResponse)
  deriving DecidableEq

inductive ReplySlot where
  | empty
  | sent (response : DnsResponse)
  | dropped
  deriving DecidableEq

inductive CallPhase where
  | drawn
  | registered
  /-- The query could not be handed over, and the entry is still there. -/
  | failing (outcome : DohOutcome)
  | waiting
  | returned (outcome : DohOutcome)
  deriving DecidableEq

structure DohCall where
  query : DnsQuery
  phase : CallPhase := .drawn
  slot : ReplySlot := .empty
  deriving DecidableEq

inductive QueryChannel where
  | notStarted
  | running (queries : List DnsQuery)
  | closed
  deriving DecidableEq

structure DohState where
  calls : List DohCall := []
  pending : Table UInt64 Nat := .empty
  nextId : UInt64 := 1
  channel : QueryChannel := .notStarted
  connected : Bool := false

inductive DohAction where
  | call (domain : Text) (queryType : UInt16)
  | register (call : Nat)
  | send (call : Nat)
  | abandon (call : Nat)
  | timeout (call : Nat)
  | wake (call : Nat)
  | start
  /-- The connection's task is gone, and its end of the channel with it. -/
  | shutdown
  | connect
  | disconnect
  | forward
  | respond (response : DnsResponse)
  deriving DecidableEq

namespace DohState

def update (state : DohState) (call : Nat) (change : DohCall → DohCall) : DohState :=
  { state with calls := state.calls.modify call change }

def settle (state : DohState) (id : UInt64) (slot : ReplySlot) : DohState :=
  match state.pending.lookup id with
  | some call => { state.update call fun call => { call with slot } with pending := state.pending.erase id }
  | none => state

def sendOutcome : QueryChannel → Option DohOutcome
  | .notStarted => some .notStarted
  | .closed => some .channelClosed
  | .running _ => none

def enqueue (query : DnsQuery) : QueryChannel → QueryChannel
  | .running queries => .running (queries ++ [query])
  | channel => channel

def wakeOutcome : ReplySlot → Option DohOutcome
  | .empty => none
  | .sent response => some (.response response)
  | .dropped => some .replyClosed

def step (state : DohState) : DohAction → Option DohState
  | .call domain queryType => some { state with
      calls := state.calls ++ [{ query := ⟨state.nextId, domain, queryType⟩ }]
      nextId := state.nextId + 1 }
  | .register call => state.calls[call]?.bind fun found =>
      if found.phase = .drawn then
        -- an older entry of the same id is replaced
        let state :=
          (state.settle found.query.queryId .dropped).update call fun call => { call with phase := .registered }
        some { state with pending := state.pending.insert found.query.queryId call }
      else none
  | .send call => state.calls[call]?.bind fun found =>
      if found.phase = .registered then
        match sendOutcome state.channel with
        | some outcome => some (state.update call fun call => { call with phase := .failing outcome })
        | none => some { state.update call fun call => { call with phase := .waiting } with
            channel := enqueue found.query state.channel }
      else none
  | .abandon call => state.calls[call]?.bind fun found =>
      match found.phase with
      | .failing outcome =>
        some ((state.settle found.query.queryId .dropped).update call fun call =>
          { call with phase := .returned outcome })
      | _ => none
  | .timeout call => state.calls[call]?.bind fun found =>
      if found.phase = .waiting ∧ found.slot = .empty then
        some (state.update call fun call => { call with phase := .returned .timedOut })
      else none
  | .wake call => state.calls[call]?.bind fun found =>
      if found.phase = .waiting then
        (wakeOutcome found.slot).map fun outcome =>
          state.update call fun call => { call with phase := .returned outcome }
      else none
  | .start => some { state with channel := .running [] }
  | .shutdown => some { state with channel := .closed, connected := false }
  | .connect => some { state with connected := true }
  | .disconnect => some { state with connected := false }
  | .forward =>
      match state.connected, state.channel with
      | true, .running (_ :: rest) => some { state with channel := .running rest }
      | _, _ => none
  | .respond response =>
      if state.connected then some (state.settle response.queryId (.sent response)) else none

def Quiescent (state : DohState) : Prop :=
  ∀ found ∈ state.calls, found.phase = .waiting ∨ ∃ outcome, found.phase = .returned outcome

end DohState

namespace DohCall

/-- It still waits for an answer: nothing was sent to it, and the sender is not gone. -/
def Awaits (call : DohCall) : Prop := call.phase = .waiting ∧ call.slot = .empty

def Live (call : DohCall) : Prop :=
  call.slot = .empty ∧ (call.phase = .registered ∨ (∃ outcome, call.phase = .failing outcome) ∨ call.phase = .waiting)

end DohCall

structure DohState.Matched (state : DohState) : Prop where
  entry : ∀ id call, state.pending.lookup id = some call →
    ∃ found, state.calls[call]? = some found ∧ found.query.queryId = id ∧ found.Live
  live : ∀ (call : Nat) (found : DohCall), state.calls[call]? = some found → found.Live →
    state.pending.lookup found.query.queryId = some call
  drawn : ∀ (call : Nat) (found : DohCall), state.calls[call]? = some found → found.phase = .drawn → found.slot = .empty

namespace DohState

variable {state next : DohState} {call : Nat} {found : DohCall} {id : UInt64} {change : DohCall → DohCall}

theorem of_update (present : (state.update call change).calls[other]? = some after) :
    (other = call ∧ ∃ before, state.calls[call]? = some before ∧ after = change before) ∨
      (other ≠ call ∧ state.calls[other]? = some after) :=
  Slots.of_modify present

theorem update_self (present : state.calls[call]? = some found) :
    (state.update call change).calls[call]? = some (change found) := by
  simp [update, present]

theorem update_other (different : other ≠ call) :
    (state.update call change).calls[other]? = state.calls[other]? := by
  simp [update, Ne.symm different]

theorem not_live_of_drawn (drawn : found.phase = .drawn) : ¬ found.Live := by
  intro live
  have begun := live.2
  rw [drawn] at begun
  simp at begun

namespace Matched

theorem initial : Matched {} := by
  refine ⟨?_, ?_, ?_⟩
  · intro id call present
    cases present
  · intro call found present
    cases present
  · intro call found present
    cases present

theorem update (matched : Matched state) (present : state.calls[call]? = some found)
    (sameQuery : (change found).query = found.query) (sameLive : (change found).Live ↔ found.Live)
    (begun : (change found).phase ≠ .drawn) : Matched (state.update call change) := by
  refine ⟨?_, ?_, ?_⟩
  · intro id other listed
    obtain ⟨before, stored, rfl, live⟩ := matched.entry id other listed
    by_cases same : other = call
    · subst same
      cases present.symm.trans stored
      exact ⟨change found, update_self present, congrArg DnsQuery.queryId sameQuery, sameLive.mpr live⟩
    · exact ⟨before, (update_other same).trans stored, rfl, live⟩
  · intro other after stored live
    rcases of_update stored with ⟨rfl, before, place, rfl⟩ | ⟨-, stored⟩
    · cases present.symm.trans place
      rw [sameQuery]
      exact matched.live other found present (sameLive.mp live)
    · exact matched.live other after stored live
  · intro other after stored drawn
    rcases of_update stored with ⟨rfl, before, place, rfl⟩ | ⟨-, stored⟩
    · cases present.symm.trans place
      exact absurd drawn begun
    · exact matched.drawn other after stored drawn

theorem settle (matched : Matched state) (id : UInt64) (used : slot ≠ .empty) :
    Matched (state.settle id slot) ∧ (state.settle id slot).pending.lookup id = none := by
  unfold DohState.settle
  split
  · rename_i owner listed
    obtain ⟨owned, stored, rfl, live⟩ := matched.entry id owner listed
    refine ⟨⟨?_, ?_, ?_⟩, ?_⟩
    · intro other call present
      obtain ⟨different, present⟩ := Table.of_lookup_erase present
      obtain ⟨found, place, rfl, alive⟩ := matched.entry other call present
      refine ⟨found, ?_, rfl, alive⟩
      refine (update_other ?_).trans place
      rintro rfl
      exact different (congrArg (fun call => call.query.queryId) (Option.some.inj (place.symm.trans stored)))
    · intro call found present alive
      rcases of_update present with ⟨rfl, before, -, rfl⟩ | ⟨different, present⟩
      · exact absurd alive.1 used
      · have entry := matched.live call found present alive
        have other : found.query.queryId ≠ owned.query.queryId := by
          intro same
          rw [same, listed] at entry
          exact different (Option.some.inj entry).symm
        rw [Table.lookup_erase, if_neg other]
        exact entry
    · intro call found present drawn
      rcases of_update present with ⟨rfl, before, place, rfl⟩ | ⟨-, present⟩
      · cases stored.symm.trans place
        exact absurd live (not_live_of_drawn drawn)
      · exact matched.drawn call found present drawn
    · rw [Table.lookup_erase, if_pos rfl]
  · rename_i missing
    exact ⟨matched, missing⟩

theorem settle_present (present : state.calls[call]? = some found) :
    ∃ after, (state.settle id slot).calls[call]? = some after ∧ after.query = found.query := by
  unfold DohState.settle
  split
  · rename_i owner listed
    by_cases same : call = owner
    · subst same
      exact ⟨_, update_self present, rfl⟩
    · exact ⟨found, (update_other same).trans present, rfl⟩
  · exact ⟨found, present, rfl⟩

theorem register (matched : Matched state) (present : state.calls[call]? = some found)
    (drawn : found.phase = .drawn) (taken : state.step (.register call) = some next) : Matched next := by
  have dropped : ReplySlot.dropped ≠ .empty := by simp
  simp only [step, present, Option.bind_some, drawn, if_true, Option.some.injEq] at taken
  subst taken
  obtain ⟨settled, missing⟩ := matched.settle found.query.queryId dropped
  -- no entry was for this call, which was not live
  have unlisted : (state.settle found.query.queryId .dropped).calls[call]? = some found := by
    unfold DohState.settle
    split
    · rename_i owner listed
      refine (update_other ?_).trans present
      rintro rfl
      obtain ⟨owned, stored, -, live⟩ := matched.entry _ call listed
      cases present.symm.trans stored
      exact not_live_of_drawn drawn live
    · exact present
  refine ⟨?_, ?_, ?_⟩
  · intro id other listed
    rcases Table.of_lookup_insert listed with ⟨rfl, rfl⟩ | ⟨-, listed⟩
    · exact ⟨_, update_self unlisted, rfl, matched.drawn _ found present drawn, .inl rfl⟩
    · obtain ⟨before, stored, rfl, live⟩ := settled.entry id other listed
      refine ⟨before, (update_other ?_).trans stored, rfl, live⟩
      rintro rfl
      cases unlisted.symm.trans stored
      exact not_live_of_drawn drawn live
  · intro other after stored live
    rw [Table.lookup_insert]
    rcases of_update stored with ⟨rfl, before, place, rfl⟩ | ⟨different, stored⟩
    · cases unlisted.symm.trans place
      exact if_pos rfl
    · have entry := settled.live other after stored live
      rw [if_neg ?_]
      · exact entry
      · intro same
        rw [same, missing] at entry
        cases entry
  · intro other after stored again
    rcases of_update stored with ⟨rfl, before, stored, rfl⟩ | ⟨-, stored⟩
    · cases again
    · exact settled.drawn other after stored again

theorem append (matched : Matched state) (query : DnsQuery) (nextId : UInt64) :
    Matched { state with calls := state.calls ++ [{ query }], nextId } := by
  refine ⟨?_, ?_, ?_⟩
  · intro id call listed
    obtain ⟨found, stored, rfl, live⟩ := matched.entry id call listed
    exact ⟨found, List.getElem?_append_left (List.getElem?_eq_some_iff.mp stored).1 ▸ stored, rfl, live⟩
  · intro call found present live
    rcases Slots.of_append present with stored | ⟨-, rfl⟩
    · exact matched.live call found stored live
    · exact absurd live (not_live_of_drawn rfl)
  · intro call found present drawn
    rcases Slots.of_append present with stored | ⟨-, rfl⟩
    · exact matched.drawn call found stored drawn
    · rfl

theorem abandon (matched : Matched state) (present : state.calls[call]? = some found) (outcome : DohOutcome) :
    Matched ((state.settle found.query.queryId .dropped).update call fun call =>
      { call with phase := .returned outcome }) := by
  have dropped : ReplySlot.dropped ≠ .empty := by simp
  obtain ⟨settled, missing⟩ := matched.settle found.query.queryId dropped
  obtain ⟨after, stored, same⟩ := settle_present present
  have unlisted : ¬ after.Live := by
    intro live
    have entry := settled.live call after stored live
    rw [same, missing] at entry
    cases entry
  exact settled.update stored rfl (iff_of_false (by simp [DohCall.Live]) unlisted) (by simp)

theorem step (matched : Matched state) (patient : ∀ call, action ≠ .timeout call)
    (taken : state.step action = some next) : Matched next := by
  cases action with
  | call domain queryType =>
    cases taken
    exact matched.append _ _
  | register call =>
    obtain ⟨found, present, drawn, -⟩ := guarded_eq_some_iff.mp taken
    exact matched.register present drawn taken
  | send call =>
    obtain ⟨found, present, ready⟩ := Option.bind_eq_some_iff.mp taken
    obtain ⟨registered, taken⟩ := Option.ite_none_right_eq_some.mp ready
    split at taken
    · cases taken
      exact matched.update present rfl (by simp [DohCall.Live, registered]) (by simp)
    · cases taken
      have moved : Matched (state.update call fun call => { call with phase := .waiting }) :=
        matched.update present rfl (by simp [DohCall.Live, registered]) (by simp)
      exact { moved with }
  | abandon call =>
    obtain ⟨found, present, failed⟩ := Option.bind_eq_some_iff.mp taken
    split at failed
    · rename_i outcome failing
      cases failed
      exact matched.abandon present outcome
    · cases failed
  | timeout call => exact absurd rfl (patient call)
  | wake call =>
    obtain ⟨found, present, ready⟩ := Option.bind_eq_some_iff.mp taken
    obtain ⟨waiting, woken⟩ := Option.ite_none_right_eq_some.mp ready
    obtain ⟨outcome, used, rfl⟩ := Option.map_eq_some_iff.mp woken
    refine matched.update present rfl ?_ (by simp)
    have answered : found.slot ≠ .empty := by
      intro empty
      rw [empty] at used
      cases used
    simp [DohCall.Live, answered]
  | start | shutdown | connect | disconnect =>
    cases taken
    exact { matched with }
  | forward =>
    simp only [DohState.step] at taken
    split at taken
    · cases taken
      exact { matched with }
    · cases taken
  | respond response =>
    obtain ⟨-, rfl⟩ := of_guard taken
    exact (matched.settle response.queryId (by simp)).1

end Matched

/-- If no call times out: whenever no call is in the middle of a step, each call that still waits for an answer has
exactly one entry in the table, under its id, and every entry is for such a call. -/
theorem pending_iff_awaits (actions : List DohAction) (final : DohState)
    (reached : Transition.run step {} actions = some final) (patient : ∀ call, .timeout call ∉ actions)
    (quiescent : final.Quiescent) (id : UInt64) (call : Nat) :
    final.pending.lookup id = some call ↔
      ∃ found, final.calls[call]? = some found ∧ found.query.queryId = id ∧ found.Awaits := by
  have meets : Meets step (fun _ action => ∀ call, action ≠ .timeout call) {} actions :=
    meets_of_forall (by
      rintro action listed - call rfl
      exact patient call listed) _
  have matched : Matched final :=
    run_preserves_of_meets (fun _ _ _ holds met taken => holds.step met taken) Matched.initial meets reached
  constructor
  · intro listed
    obtain ⟨found, present, same, empty, begun⟩ := matched.entry id call listed
    refine ⟨found, present, same, ?_, empty⟩
    rcases quiescent found (List.mem_of_getElem? present) with waiting | ⟨outcome, returned⟩
    · exact waiting
    · rw [returned] at begun
      simp at begun
  · rintro ⟨found, present, rfl, waiting, empty⟩
    exact matched.live call found present ⟨empty, .inr (.inr waiting)⟩

end DohState

namespace DohSample

def response : DnsResponse := ⟨1, true, [#v[104, 16, 0, 1]], [], 60, none⟩

def asking : List DohAction :=
  [.start, .connect, .call "example.com".toList 1, .register 0, .send 0, .call "example.org".toList 1, .register 1,
    .send 1, .forward, .forward]

def answered : List DohAction := asking ++ [.respond response, .wake 0]

def givenUp : List DohAction := answered ++ [.timeout 1]

end DohSample

namespace DohState

open DohSample in
theorem answered_call_leaves_table :
    ∃ final, Transition.run step {} answered = some final ∧ final.Quiescent ∧
      (final.pending.lookup 2 = some 1 ↔
        ∃ found, final.calls[1]? = some found ∧ found.query.queryId = 2 ∧ found.Awaits) ∧
      final.pending.lookup 1 = none := by
  refine exists_of_evaluated (p := fun final => final.calls =
    [⟨⟨1, "example.com".toList, 1⟩, .returned (.response response), .sent response⟩,
      ⟨⟨2, "example.org".toList, 1⟩, .waiting, .empty⟩] ∧ final.pending.lookup 1 = none) (by decide +kernel) ?_
  rintro final reached ⟨calls, gone⟩
  have quiescent : final.Quiescent := by simp [Quiescent, calls]
  exact ⟨quiescent, pending_iff_awaits answered final reached (by simp [answered, asking]) quiescent 2 1, gone⟩

open DohSample in
/-- The entry of a call that timed out stays in the table when the call has returned. -/
theorem timed_out_call_stays_pending :
    ∃ final, Transition.run step {} givenUp = some final ∧ final.Quiescent ∧ final.pending.lookup 2 = some 1 ∧
      ∃ found, final.calls[1]? = some found ∧ found.phase = .returned .timedOut := by
  refine exists_of_evaluated (p := fun final => final.calls =
    [⟨⟨1, "example.com".toList, 1⟩, .returned (.response response), .sent response⟩,
      ⟨⟨2, "example.org".toList, 1⟩, .returned .timedOut, .empty⟩] ∧ final.pending.lookup 2 = some 1) (by decide +kernel) ?_
  rintro final - ⟨calls, listed⟩
  exact ⟨by simp [Quiescent, calls], listed, _, by rw [calls]; rfl, rfl⟩

end DohState

end Rvpn.Mobile
