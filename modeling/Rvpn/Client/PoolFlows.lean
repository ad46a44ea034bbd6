import Mathlib.Data.List.MinMax
import Rvpn.Client.PoolBounds

/-! Between `pick_tunnel` and the end of `open_flow` a tunnel has a flow that no counter shows. -/

namespace Rvpn.Client

namespace TunnelPool

variable {config : PoolConfig} {pool next : TunnelPool} {action : PoolAction} {tunnel : TunnelId}

def offers (pool : TunnelPool) (tunnel : TunnelId) : Bool := (pool.entryOf tunnel).any PoolEntry.assignable

def Listed (pool : TunnelPool) (tunnel : TunnelId) : Prop := tunnel ∈ pool.tunnels.map PoolEntry.tunnel

def Draining (pool : TunnelPool) (tunnel : TunnelId) : Prop :=
  ∃ entry ∈ pool.tunnels, entry.tunnel = tunnel ∧ entry.draining = true

theorem Draining.listed (draining : Draining pool tunnel) : Listed pool tunnel := by
  obtain ⟨entry, member, named, -⟩ := draining
  exact List.mem_map.mpr ⟨entry, member, named⟩

theorem Tracked.lt_of_listed (tracked : Tracked pool) (listed : Listed pool tunnel) :
    tunnel < pool.nextTunnel := tracked.fresh tunnel listed

theorem listed_of_offers (offered : pool.offers tunnel = true) : Listed pool tunnel := by
  obtain ⟨entry, present, -⟩ := (Option.any_eq_true ..).mp offered
  exact List.mem_map.mpr ⟨entry, List.mem_of_find?_eq_some present, by simpa using List.find?_some present⟩

theorem Tracked.not_draining_of_offers (tracked : Tracked pool) (offered : pool.offers tunnel = true) :
    ¬ Draining pool tunnel := by
  rintro ⟨entry, member, rfl, draining⟩
  rw [offers, tracked.entryOf_eq member] at offered
  simp [PoolEntry.assignable, draining] at offered

section

variable (moved : Moves config pool action next)
include moved

theorem Moves.origin (member : entry ∈ next.tunnels) :
    (∃ before ∈ pool.tunnels, before.tunnel = entry.tunnel ∧ (entry.draining = true → before.draining = true ∨
      action = .rotate true ∧ pool.holder = some (.rotation entry.tunnel))) ∨
      entry = ⟨pool.nextTunnel, true, false⟩ := by
  have unchanged (old : entry ∈ pool.tunnels) :
      ∃ before ∈ pool.tunnels, before.tunnel = entry.tunnel ∧ (entry.draining = true → before.draining = true ∨
        action = .rotate true ∧ pool.holder = some (.rotation entry.tunnel)) := ⟨entry, old, rfl, .inl⟩
  cases moved with
  | died tunnel =>
    obtain ⟨before, old, rfl⟩ := List.mem_map.mp member
    exact .inl ⟨before, old, (kill_tunnel tunnel before).symm, fun marked => .inl (kill_draining tunnel before ▸ marked)⟩
  | picks | buries => exact .inl (unchanged (List.mem_of_mem_filter member))
  | drains => exact .inl (unchanged (List.mem_of_mem_eraseP member))
  | pickConnected | backgroundConnected =>
    exact (List.mem_append.mp member).imp unchanged List.mem_singleton.mp
  | tops picked here =>
    rw [ensureTarget_eq] at member
    exact .inl (unchanged member)
  | rotates tunnel here =>
    rw [ensureTarget_eq] at member
    obtain ⟨before, old, rfl⟩ := List.mem_map.mp member
    refine .inl ⟨before, old, (markDraining_tunnel tunnel before).symm, fun marked => ?_⟩
    rw [markDraining_tunnel]
    unfold markDraining at marked
    split at marked
    · rename_i same
      exact .inr ⟨rfl, same ▸ here⟩
    · exact .inl marked
  | _ => exact .inl (unchanged member)

theorem Moves.draining (draining : Draining next tunnel) :
    Draining pool tunnel ∨ action = .rotate true ∧ pool.holder = some (.rotation tunnel) := by
  obtain ⟨entry, member, rfl, marked⟩ := draining
  rcases moved.origin member with ⟨before, old, same, drains⟩ | rfl
  · exact (drains marked).imp_left fun already => ⟨before, old, same, already⟩
  · cases marked

theorem Moves.listed (listed : Listed next tunnel) :
    Listed pool tunnel ∨ pool.nextTunnel ≤ tunnel := by
  obtain ⟨entry, member, rfl⟩ := List.mem_map.mp listed
  rcases moved.origin member with ⟨before, old, same, -⟩ | rfl
  · exact .inl (List.mem_map.mpr ⟨before, old, same⟩)
  · exact .inr (Nat.le_refl _)

theorem Moves.nextTunnel_le : pool.nextTunnel ≤ next.nextTunnel := by
  cases moved with
  | tops picked here | rotates other here => exact Nat.le_of_eq (by rw [ensureTarget_eq])
  | pickConnected | backgroundConnected => exact Nat.le_succ _
  | _ => exact Nat.le_refl _

end

theorem Moves.holder_eq {picked : Bool} (moved : Moves config pool action next)
    (here : pool.holder = some (.topUp picked)) (other : action ≠ .topUp) : next.holder = some (.topUp picked) := by
  cases moved with
  | _ => simp_all

end TunnelPool

structure PoolFlows where
  pool : TunnelPool
  chosen : Option TunnelId
  /-- Returned by `pick_tunnel`. -/
  picked : List TunnelId
  /-- `open_flow` has found the tunnel alive. -/
  opening : List TunnelId
  /-- The flow is in `flow_states`, but not in `flow_count`. -/
  registered : List TunnelId
  flowStates : List TunnelId
  /-- Each `fetch_add` and each `fetch_sub` of a `flow_count`. -/
  added : List TunnelId
  subtracted : List TunnelId
  /-- Drained out of the pool, and whether as empty; `shutdown` is still to come. -/
  leaving : List (TunnelId × Bool)
  dead : List TunnelId
  drained : List TunnelId
  deriving DecidableEq

inductive FlowAction where
  | pool (action : PoolAction)
  | die (tunnel : TunnelId)
  | search (found : Option TunnelId)
  | choose (found : Option TunnelId)
  | topUp
  | pickConnected
  | drain (overdue : Bool)
  | shutdown (tunnel : TunnelId) (empty : Bool)
  | openFlow (tunnel : TunnelId)
  | register (tunnel : TunnelId)
  | count (tunnel : TunnelId)
  /-- The pick is not used, or the `CreateFlow` cannot be sent. -/
  | unused (tunnel : TunnelId)
  | openFailed (tunnel : TunnelId)
  | removeFlowState (tunnel : TunnelId)
  deriving DecidableEq

namespace PoolFlows

def new : PoolFlows := ⟨.new, none, [], [], [], [], [], [], [], [], []⟩

/-- A flow can fail between its registration and its count, and the counter then wraps. -/
def activeFlowCount (state : PoolFlows) (tunnel : TunnelId) : BitVec 64 :=
  BitVec.ofNat 64 (state.added.count tunnel) - BitVec.ofNat 64 (state.subtracted.count tunnel)

def awaiting (state : PoolFlows) : List TunnelId := state.picked ++ state.opening ++ state.registered

def flowless : PoolAction → Bool
  | .die _ | .search _ | .choose | .topUp | .pickConnected | .drain _ => false
  | _ => true

def step (config : PoolConfig) (state : PoolFlows) : FlowAction → Option PoolFlows
  | .pool action =>
    if flowless action then (state.pool.step config action).map fun pool => { state with pool := pool } else none
  | .die tunnel =>
    (state.pool.step config (.die tunnel)).map fun pool =>
      { state with pool := pool, dead := tunnel :: state.dead }
  -- The counters move while `min_by_key` reads them: any tunnel under the cap can come out least loaded.
  | .search found =>
    if found.all fun tunnel =>
        state.pool.offers tunnel && (state.activeFlowCount tunnel).toNat < config.maxFlowsPerConn then
      (state.pool.step config (.search found.isSome)).map fun pool => { state with pool := pool, chosen := found }
    else none
  | .choose found =>
    if found.all state.pool.offers ∧ (found = none → state.pool.assignableCount = 0) then
      (state.pool.step config .choose).map fun pool => { state with pool := pool, chosen := found }
    else none
  | .topUp =>
    (state.pool.step config .topUp).map fun pool =>
      { state with pool := pool, chosen := none, picked := state.picked ++ state.chosen.toList }
  | .pickConnected =>
    (state.pool.step config .pickConnected).map fun pool =>
      { state with pool := pool, chosen := some state.pool.nextTunnel }
  | .drain overdue =>
    match state.pool.holder with
    | some (.drain tunnel) =>
      let empty := decide (state.activeFlowCount tunnel = 0)
      (state.pool.step config (.drain (empty || overdue))).map fun pool =>
        if (empty || overdue) ∧ (state.pool.entryOf tunnel).any PoolEntry.draining then
          { state with pool := pool, leaving := state.leaving ++ [(tunnel, empty)] }
        else { state with pool := pool }
    | _ => none
  | .shutdown tunnel empty =>
    if (tunnel, empty) ∈ state.leaving then
      some { state with
        leaving := state.leaving.erase (tunnel, empty)
        dead := tunnel :: state.dead
        flowStates := state.flowStates.filter (· ≠ tunnel)
        added := state.added.filter (· ≠ tunnel)
        subtracted := state.subtracted.filter (· ≠ tunnel)
        drained := if empty then tunnel :: state.drained else state.drained }
    else none
  | .openFlow tunnel =>
    if tunnel ∈ state.picked then
      if tunnel ∈ state.dead then some { state with picked := state.picked.erase tunnel }
      else some { state with picked := state.picked.erase tunnel, opening := tunnel :: state.opening }
    else none
  | .register tunnel =>
    if tunnel ∈ state.opening then
      some { state with
        opening := state.opening.erase tunnel
        registered := tunnel :: state.registered
        flowStates := tunnel :: state.flowStates }
    else none
  | .count tunnel =>
    if tunnel ∈ state.registered then
      some { state with registered := state.registered.erase tunnel, added := tunnel :: state.added }
    else none
  | .unused tunnel =>
    if tunnel ∈ state.picked then some { state with picked := state.picked.erase tunnel } else none
  | .openFailed tunnel =>
    if tunnel ∈ state.opening then some { state with opening := state.opening.erase tunnel } else none
  | .removeFlowState tunnel =>
    if tunnel ∈ state.flowStates then
      some { state with
        flowStates := state.flowStates.erase tunnel, subtracted := tunnel :: state.subtracted }
    else none

/-- A watcher marks its tunnel as draining only when every flow picked for it has been opened. -/
def rotatesUnclaimed (state : PoolFlows) : FlowAction → Bool
  | .pool (.rotate true) =>
    match state.pool.holder with
    | some (.rotation tunnel) => tunnel ∉ state.awaiting
    | _ => true
  | _ => true

def Left (state : PoolFlows) (tunnel : TunnelId) : Prop :=
  tunnel ∈ state.leaving.map Prod.fst ∨ tunnel ∈ state.drained

def Wanted (state : PoolFlows) (tunnel : TunnelId) : Prop :=
  state.chosen = some tunnel ∨ tunnel ∈ state.awaiting

/-- What a flow is to be opened on neither drains nor has been drained. -/
structure Reserved (state : PoolFlows) : Prop where
  tracked : state.pool.Tracked
  holding : ∀ tunnel, state.chosen = some tunnel → state.pool.holder = some (.topUp true)
  left : ∀ tunnel, state.Left tunnel → tunnel < state.pool.nextTunnel ∧ ¬ state.pool.Listed tunnel
  known : ∀ tunnel, state.Wanted tunnel → tunnel < state.pool.nextTunnel
  serving : ∀ tunnel, state.Wanted tunnel → ¬ state.pool.Draining tunnel ∧ ¬ state.Left tunnel

variable {config : PoolConfig} {state next : PoolFlows} {tunnel : TunnelId}

theorem Reserved.pool {pool : TunnelPool} {action : PoolAction} (reserved : Reserved state)
    (moved : TunnelPool.Moves config state.pool action pool) (other : action = .topUp → state.chosen = none)
    (unclaimed : ∀ tunnel, action = .rotate true → state.pool.holder = some (.rotation tunnel) →
      tunnel ∉ state.awaiting) : Reserved { state with pool := pool } where
  tracked := moved.tracked reserved.tracked
  holding tunnel chosen :=
    moved.holder_eq (reserved.holding tunnel chosen) fun same => by cases (other same).symm.trans chosen
  left tunnel left := by
    obtain ⟨old, unlisted⟩ := reserved.left tunnel left
    refine ⟨Nat.lt_of_lt_of_le old moved.nextTunnel_le, fun listed => ?_⟩
    exact (moved.listed listed).elim unlisted (Nat.not_le_of_lt old)
  known tunnel wanted := Nat.lt_of_lt_of_le (reserved.known tunnel wanted) moved.nextTunnel_le
  serving tunnel wanted := by
    obtain ⟨serving, here⟩ := reserved.serving tunnel wanted
    refine ⟨fun draining => ?_, here⟩
    rcases moved.draining draining with already | ⟨rotates, holder⟩
    · exact serving already
    · rcases wanted with chosen | awaited
      · cases (reserved.holding tunnel chosen).symm.trans holder
      · exact unclaimed tunnel rotates holder awaited

theorem Reserved.mono (reserved : Reserved state) (same : next.pool = state.pool)
    (chosen : ∀ tunnel, next.chosen = some tunnel → state.chosen = some tunnel)
    (wanted : ∀ tunnel, next.Wanted tunnel → state.Wanted tunnel)
    (left : ∀ tunnel, next.Left tunnel → state.Left tunnel) : Reserved next where
  tracked := same ▸ reserved.tracked
  holding tunnel holds := same ▸ reserved.holding tunnel (chosen tunnel holds)
  left tunnel holds := same ▸ reserved.left tunnel (left tunnel holds)
  known tunnel holds := same ▸ reserved.known tunnel (wanted tunnel holds)
  serving tunnel holds :=
    ⟨same ▸ (reserved.serving tunnel (wanted tunnel holds)).1,
      fun gone => (reserved.serving tunnel (wanted tunnel holds)).2 (left tunnel gone)⟩

theorem Reserved.choose (reserved : Reserved state) (here : state.pool.holder = some (.topUp true))
    (known : tunnel < state.pool.nextTunnel) (serving : ¬ state.pool.Draining tunnel) (present : ¬ state.Left tunnel) :
    Reserved { state with chosen := some tunnel } := by
  have cases_of_wanted (other) (wanted : Wanted { state with chosen := some tunnel } other) :
      other = tunnel ∨ state.Wanted other :=
    wanted.imp (fun chosen => (Option.some.inj chosen).symm) .inr
  refine ⟨reserved.tracked, fun _ _ => here, reserved.left, fun other wanted => ?_, fun other wanted => ?_⟩
  · rcases cases_of_wanted other wanted with rfl | wanted
    · exact known
    · exact reserved.known other wanted
  · rcases cases_of_wanted other wanted with rfl | wanted
    · exact ⟨serving, present⟩
    · exact reserved.serving other wanted

theorem Reserved.offered (reserved : Reserved state) (offered : state.pool.offers tunnel = true) :
    tunnel < state.pool.nextTunnel ∧ ¬ state.pool.Draining tunnel ∧ ¬ state.Left tunnel :=
  have listed := TunnelPool.listed_of_offers offered
  ⟨reserved.tracked.lt_of_listed listed, reserved.tracked.not_draining_of_offers offered,
    fun left => (reserved.left tunnel left).2 listed⟩

theorem Reserved.unchosen (reserved : Reserved state) : Reserved { state with chosen := none } :=
  reserved.mono rfl nofun
    (fun _ wanted => wanted.elim nofun .inr) fun _ left => left

theorem Reserved.found {pool : TunnelPool} {action : PoolAction} {found : Option TunnelId} (reserved : Reserved state)
    (moved : TunnelPool.Moves config state.pool action pool) (searches : action = .search found.isSome ∨ action = .choose)
    (offered : ∀ tunnel, found = some tunnel →
      state.pool.offers tunnel = true ∧ pool = { state.pool with holder := some (.topUp true) }) :
    Reserved { state with pool := pool, chosen := found } := by
  cases found with
  | none =>
    refine (reserved.unchosen.pool moved (fun _ => rfl) fun tunnel rotates _ => ?_)
    rcases searches with rfl | rfl <;> cases rotates
  | some tunnel =>
    obtain ⟨free, rfl⟩ := offered tunnel rfl
    obtain ⟨known, serving, present⟩ := reserved.offered free
    have held : Reserved { state with pool := { state.pool with holder := some (.topUp true) } } :=
      ⟨⟨reserved.tracked.watched, reserved.tracked.fresh, reserved.tracked.distinct⟩, fun _ _ => rfl,
        reserved.left, reserved.known, reserved.serving⟩
    exact held.choose rfl known serving present

theorem Reserved.leave {pool : TunnelPool} (reserved : Reserved { state with pool := pool }) (empty : Bool)
    (known : tunnel < pool.nextTunnel) (unlisted : ¬ pool.Listed tunnel) (unwanted : ¬ state.Wanted tunnel) :
    Reserved { state with pool := pool, leaving := state.leaving ++ [(tunnel, empty)] } := by
  have cases_of_left (other)
      (left : Left { state with pool := pool, leaving := state.leaving ++ [(tunnel, empty)] } other) :
      other = tunnel ∨ state.Left other := by
    rcases left with leaving | drained
    · rw [List.map_append, List.mem_append] at leaving
      exact leaving.elim (.inr ∘ .inl) (.inl ∘ List.mem_singleton.mp)
    · exact .inr (.inr drained)
  refine ⟨reserved.tracked, reserved.holding, fun other left => ?_, reserved.known, fun other wanted => ?_⟩
  · rcases cases_of_left other left with rfl | left
    · exact ⟨known, unlisted⟩
    · exact reserved.left other left
  · refine ⟨(reserved.serving other wanted).1, fun left => ?_⟩
    rcases cases_of_left other left with rfl | left
    · exact unwanted wanted
    · exact (reserved.serving other wanted).2 left

theorem Reserved.drain {overdue : Bool} (reserved : Reserved state)
    (taken : step config state (.drain overdue) = some next) : Reserved next := by
  simp only [step] at taken
  split at taken
  · rename_i tunnel here
    obtain ⟨pool, stepped, rfl⟩ := Option.map_eq_some_iff.mp taken
    have moved := TunnelPool.moves_of_step stepped
    have after := reserved.pool moved nofun nofun
    split
    · rename_i complete
      simp only [TunnelPool.step, here, if_pos complete] at stepped
      cases stepped
      obtain ⟨entry, present, draining⟩ := (Option.any_eq_true ..).mp complete.2
      have named : entry.tunnel = tunnel := by simpa using List.find?_some present
      have drains : state.pool.Draining tunnel := ⟨entry, List.mem_of_find?_eq_some present, named, draining⟩
      exact after.leave _ (reserved.tracked.lt_of_listed drains.listed) (reserved.tracked.not_mem_eraseP present)
        fun wanted => (reserved.serving tunnel wanted).1 drains
    · exact after
  · cases taken

theorem Reserved.pickConnected (reserved : Reserved state)
    (taken : step config state .pickConnected = some next) : Reserved next := by
  obtain ⟨pool, stepped, rfl⟩ := Option.map_eq_some_iff.mp taken
  have moved := TunnelPool.moves_of_step stepped
  refine (reserved.pool moved nofun nofun).choose ?_ ?_ (fun draining => ?_) fun left => ?_
  · cases moved with
    | pickConnected free waiting => rfl
  · cases moved with
    | pickConnected free waiting => exact Nat.lt_succ_self _
  · rcases moved.draining draining with already | ⟨rotates, -⟩
    · exact Nat.lt_irrefl _ (reserved.tracked.lt_of_listed already.listed)
    · cases rotates
  · exact Nat.lt_irrefl _ (reserved.left _ left).1

/-- One stage of `open_flow` less, or one more in place of another. -/
theorem Reserved.awaits {picked opening registered flowStates added subtracted : List TunnelId}
    (reserved : Reserved state) (fewer : picked ++ opening ++ registered ⊆ state.awaiting) :
    Reserved { state with
      picked := picked, opening := opening, registered := registered
      flowStates := flowStates, added := added, subtracted := subtracted } :=
  reserved.mono rfl (fun _ chosen => chosen) (fun _ wanted => wanted.imp_right fun awaited => fewer awaited)
    fun _ left => left

theorem Reserved.step {action : FlowAction} (reserved : Reserved state)
    (met : rotatesUnclaimed state action = true) (taken : step config state action = some next) : Reserved next := by
  cases action with
  | pool action =>
    obtain ⟨plain, taken⟩ := Option.ite_none_right_eq_some.mp taken
    obtain ⟨pool, stepped, rfl⟩ := Option.map_eq_some_iff.mp taken
    refine reserved.pool (TunnelPool.moves_of_step stepped) (fun same => ?_) fun tunnel rotates here => ?_
    · subst same
      cases plain
    · subst rotates
      simpa [rotatesUnclaimed, here] using met
  | die tunnel =>
    simp only [PoolFlows.step] at taken
    obtain ⟨pool, stepped, rfl⟩ := Option.map_eq_some_iff.mp taken
    have after := reserved.pool (TunnelPool.moves_of_step stepped) nofun nofun
    exact { after with }
  | search found =>
    obtain ⟨all, taken⟩ := Option.ite_none_right_eq_some.mp taken
    obtain ⟨pool, stepped, rfl⟩ := Option.map_eq_some_iff.mp taken
    have moved := TunnelPool.moves_of_step stepped
    refine reserved.found moved (.inl rfl) ?_
    rintro tunnel rfl
    rw [Option.all_some, Bool.and_eq_true] at all
    cases moved with
    | finds here available => exact ⟨all.1, rfl⟩
  | choose found =>
    obtain ⟨⟨all, -⟩, taken⟩ := Option.ite_none_right_eq_some.mp taken
    obtain ⟨pool, stepped, rfl⟩ := Option.map_eq_some_iff.mp taken
    have moved := TunnelPool.moves_of_step stepped
    refine reserved.found moved (.inr rfl) ?_
    rintro tunnel rfl
    refine ⟨all, ?_⟩
    cases moved with
    | chooses here available => rfl
    | panics here unavailable =>
      obtain ⟨entry, present, assignable⟩ := (Option.any_eq_true ..).mp all
      have counted := List.countP_pos_iff.mpr ⟨entry, List.mem_of_find?_eq_some present, assignable⟩
      exact absurd unavailable (Nat.ne_of_gt counted)
  | topUp =>
    obtain ⟨pool, stepped, rfl⟩ := Option.map_eq_some_iff.mp taken
    have returned : Reserved { state with chosen := none, picked := state.picked ++ state.chosen.toList } := by
      refine reserved.mono rfl nofun (fun tunnel wanted => ?_) fun _ left => left
      rcases wanted with chosen | awaited
      · cases chosen
      · simp only [awaiting, List.mem_append, Option.mem_toList] at awaited
        simp only [Wanted, awaiting, List.mem_append]
        tauto
    exact returned.pool (TunnelPool.moves_of_step stepped) (fun _ => rfl) nofun
  | pickConnected => exact reserved.pickConnected taken
  | drain overdue => exact reserved.drain taken
  | shutdown tunnel empty =>
    obtain ⟨member, rfl⟩ := Transition.of_guard taken
    refine reserved.mono rfl (fun _ chosen => chosen) (fun _ wanted => wanted) fun other left => ?_
    rcases left with leaving | drained
    · exact .inl ((List.erase_sublist.map _).subset leaving)
    · cases empty with
      | false => exact .inr drained
      | true =>
        rcases List.mem_cons.mp drained with rfl | drained
        · exact .inl (List.mem_map_of_mem member)
        · exact .inr drained
  | openFlow tunnel =>
    obtain ⟨member, taken⟩ := Option.ite_none_right_eq_some.mp taken
    split at taken
    · cases taken
      exact reserved.awaits (by grind [awaiting])
    · cases taken
      exact reserved.awaits (by grind [awaiting])
  | register tunnel | count tunnel | unused tunnel | openFailed tunnel | removeFlowState tunnel =>
    obtain ⟨member, rfl⟩ := Transition.of_guard taken
    exact reserved.awaits (by grind [awaiting])

/-- If a watcher marks a tunnel as draining only when all flows picked for it have been opened, no drain shuts down a
tunnel that a flow is still to be opened on. -/
theorem picked_not_drained {config : PoolConfig} {actions : List FlowAction} {final : PoolFlows}
    (unclaimed : Transition.Meets (step config) (fun state action => rotatesUnclaimed state action = true) new actions)
    (reached : Transition.run (step config) new actions = some final) :
    ∀ tunnel ∈ final.drained, tunnel ∉ final.awaiting := by
  have preserved : ∀ state action next, Reserved state → rotatesUnclaimed state action = true →
      step config state action = some next → Reserved next :=
    fun state action next reserved met taken => reserved.step met taken
  have initially : Reserved new :=
    { tracked := ⟨nofun, nofun, List.nodup_nil⟩
      holding := nofun
      left := nofun
      known := nofun
      serving := nofun }
  intro tunnel drained awaited
  have reserved := Transition.run_preserves_of_meets preserved initially unclaimed reached
  exact (reserved.serving tunnel (.inr awaited)).2 (.inr drained)

namespace PoolFlowSample

def firstFlow : List FlowAction :=
  [.pool .pick, .search none, .pool .count, .pickConnected, .topUp, .openFlow 0, .register 0, .count 0]

def watch (thresholdHit : Bool) : List FlowAction :=
  [.pool (.watch 0), .pool (.rotate thresholdHit), .drain false]

def drainLast : List FlowAction :=
  firstFlow ++ watch true ++ ([.removeFlowState 0] : List FlowAction) ++ watch false ++
    ([.shutdown 0 true] : List FlowAction)

/-- The first flow has ended when the second picks the same tunnel, and the watcher comes in between. -/
def drainPicked : List FlowAction :=
  firstFlow ++ ([.removeFlowState 0, .pool .pick, .search (some 0), .topUp] : List FlowAction) ++ watch true ++
    ([.shutdown 0 true] : List FlowAction)

end PoolFlowSample

/-- The tunnel is drained once its only flow has ended. -/
theorem drained_after_last_flow :
    ∃ final, Transition.run (step .default) new PoolFlowSample.drainLast = some final ∧
      final.drained = [0] ∧ ∀ tunnel ∈ final.drained, tunnel ∉ final.awaiting := by
  obtain ⟨final, reached, drained⟩ : ∃ final,
      Transition.run (step .default) new PoolFlowSample.drainLast = some final ∧ final.drained = [0] :=
    ⟨_, rfl, by decide +kernel⟩
  exact ⟨final, reached, drained, picked_not_drained (by decide +kernel) reached⟩

/-- A tunnel is shut down as empty between `pick_tunnel` and `open_flow`, which then finds it dead. -/
theorem drained_while_picked :
    (Transition.run (step .default) new PoolFlowSample.drainPicked).map
        (fun final => (final.drained, final.awaiting)) = some ([0], [0]) ∧
      (Transition.run (step .default) new (PoolFlowSample.drainPicked ++ [.openFlow 0])).map
        (fun final => (final.awaiting, final.flowStates)) = some ([], []) := by
  decide +kernel

end PoolFlows

namespace TunnelPool

variable {config : PoolConfig} {flows : TunnelId → Nat} {pool : TunnelPool} {entry : PoolEntry}

/-- `under_cap` of `pick_tunnel`, for the flow counts of the moment; `min_by_key` returns the first of the least. -/
def underCap (config : PoolConfig) (flows : TunnelId → Nat) (pool : TunnelPool) : Option PoolEntry :=
  (pool.tunnels.filter fun entry => entry.assignable && decide (flows entry.tunnel < config.maxFlowsPerConn)).argmin
    fun entry => flows entry.tunnel

/-- What `pick_tunnel` takes when it has found no tunnel under the cap. -/
def leastLoaded (flows : TunnelId → Nat) (pool : TunnelPool) : Option PoolEntry :=
  (pool.tunnels.filter PoolEntry.assignable).argmin fun entry => flows entry.tunnel

/-- The existing entry that `pick_tunnel` returns from a pool in this state; without one it connects. -/
def pickTunnel (config : PoolConfig) (flows : TunnelId → Nat) (pool : TunnelPool) : Option PoolEntry :=
  let pruned := { pool with tunnels := pool.tunnels.filter PoolEntry.alive }
  match pruned.underCap config flows with
  | some entry => some entry
  | none => if 0 < pruned.assignableCount then pruned.leastLoaded flows else none

theorem mem_filter_alive_of_assignable (member : entry ∈ pool.tunnels) (assignable : entry.assignable = true) :
    entry ∈ pool.tunnels.filter PoolEntry.alive := by
  simp only [PoolEntry.assignable, Bool.and_eq_true] at assignable
  exact List.mem_filter.mpr ⟨member, assignable.2⟩

/-- At the moment of either choice the entry is assignable, no assignable one has fewer flows, and it is under the cap if
one is. -/
structure WellChosen (config : PoolConfig) (flows : TunnelId → Nat) (pool : TunnelPool) (entry : PoolEntry) : Prop where
  listed : entry ∈ pool.tunnels
  alive : entry.alive = true
  notDraining : entry.draining = false
  least : ∀ other ∈ pool.tunnels, other.assignable = true → flows entry.tunnel ≤ flows other.tunnel
  capped : ∀ other ∈ pool.tunnels, other.assignable = true → flows other.tunnel < config.maxFlowsPerConn →
    flows entry.tunnel < config.maxFlowsPerConn

theorem WellChosen.of_least (listed : entry ∈ pool.tunnels) (assignable : entry.assignable = true)
    (least : ∀ other ∈ pool.tunnels, other.assignable = true → flows entry.tunnel ≤ flows other.tunnel) :
    WellChosen config flows pool entry := by
  simp only [PoolEntry.assignable, Bool.and_eq_true, Bool.not_eq_true'] at assignable
  exact ⟨listed, assignable.2, assignable.1, least, fun other member offered below =>
    Nat.lt_of_le_of_lt (least other member offered) below⟩

theorem wellChosen_of_underCap (found : pool.underCap config flows = some entry) :
    WellChosen config flows pool entry := by
  obtain ⟨listed, chosen⟩ := List.mem_filter.mp (List.argmin_mem found)
  obtain ⟨assignable, below⟩ := Bool.and_eq_true_iff.mp chosen
  refine .of_least listed assignable fun other member offered => ?_
  -- a tunnel at the cap has more flows than any under it
  by_cases within : flows other.tunnel < config.maxFlowsPerConn
  · have considered : other ∈ pool.tunnels.filter fun entry =>
        entry.assignable && decide (flows entry.tunnel < config.maxFlowsPerConn) :=
      List.mem_filter.mpr ⟨member, by simp [offered, within]⟩
    exact List.le_of_mem_argmin (f := fun entry : PoolEntry => flows entry.tunnel) considered found
  · exact Nat.le_trans (Nat.le_of_lt (of_decide_eq_true below)) (Nat.le_of_not_lt within)

theorem wellChosen_of_leastLoaded (found : pool.leastLoaded flows = some entry) :
    WellChosen config flows pool entry := by
  obtain ⟨listed, assignable⟩ := List.mem_filter.mp (List.argmin_mem found)
  refine .of_least listed assignable fun other member offered => ?_
  have considered : other ∈ pool.tunnels.filter PoolEntry.assignable := List.mem_filter.mpr ⟨member, offered⟩
  exact List.le_of_mem_argmin (f := fun entry : PoolEntry => flows entry.tunnel) considered found

theorem pickTunnel_wellChosen (found : pool.pickTunnel config flows = some entry) :
    WellChosen config flows pool entry := by
  have pruned : WellChosen config flows { pool with tunnels := pool.tunnels.filter PoolEntry.alive } entry := by
    unfold pickTunnel at found
    dsimp only at found
    split at found
    · cases found
      exact wellChosen_of_underCap ‹_›
    · split at found
      · exact wellChosen_of_leastLoaded found
      · cases found
  exact ⟨List.mem_of_mem_filter pruned.listed, pruned.alive, pruned.notDraining,
    fun other member offered => pruned.least other (mem_filter_alive_of_assignable member offered) offered,
    fun other member offered => pruned.capped other (mem_filter_alive_of_assignable member offered) offered⟩

/-- The first tunnel is dead, the second at the cap and the third drains; the fourth is taken. -/
theorem fourth_tunnel_well_chosen :
    WellChosen .default (fun tunnel => [0, 64, 1, 2][tunnel]?.getD 0)
      { new with tunnels := [⟨0, false, false⟩, ⟨1, true, false⟩, ⟨2, true, true⟩, ⟨3, true, false⟩] }
      ⟨3, true, false⟩ :=
  pickTunnel_wellChosen (by decide)

end TunnelPool

end Rvpn.Client
