import Rvpn.Client.TunnelPool
import Mathlib.Data.List.Nodup

/-! How many tunnels the pool has. -/

namespace Rvpn.Client.TunnelPool

open Transition

variable {config : PoolConfig} {pool next final : TunnelPool} {action : PoolAction}

/-- `connecting` follows the connects in flight, but for a pick that is dropped with its slot. -/
theorem Moves.balanced (moved : Moves config pool action next) (counted : pool.inFlight ≤ pool.connecting)
    (completes : action ≠ .pickCancelled) :
    next.connecting + pool.inFlight = pool.connecting + next.inFlight := by
  unfold inFlight at *
  cases moved with
  | pickCancelled waiting => exact absurd rfl completes
  | tops | rotates =>
    simp only [ensureTarget_eq]
    omega
  | _ => simp only [spawnConnect, push, watchDead] <;> omega

theorem Moves.counted (moved : Moves config pool action next) (counted : pool.inFlight ≤ pool.connecting) :
    next.inFlight ≤ next.connecting := by
  by_cases completes : action = .pickCancelled
  · subst completes
    cases moved with
    | pickCancelled waiting =>
      simp only [inFlight] at *
      omega
  · have balance := moved.balanced counted completes
    omega

/-- A pick that is to connect by itself finds fewer than `pool_max` connects in flight. -/
def leavesRoom (config : PoolConfig) (pool : TunnelPool) : PoolAction → Bool
  | .count => 0 < pool.assignableCount || pool.inFlight < config.poolMax
  | _ => true

theorem leavesRoom_count :
    leavesRoom config pool .count = true ↔ 0 < pool.assignableCount ∨ pool.inFlight < config.poolMax := by
  simp [leavesRoom]

def Bounded (config : PoolConfig) (pool : TunnelPool) : Prop :=
  pool.assignableCount + pool.inFlight ≤ config.poolMax

theorem Bounded.ensureTarget (bounded : Bounded config pool) (sized : config.poolSize ≤ config.poolMax)
    (counted : pool.inFlight ≤ pool.connecting) : Bounded config (pool.ensureTarget config) := by
  rw [ensureTarget_eq]
  unfold Bounded inFlight at *
  show pool.assignableCount + (pool.picking + (pool.background + _)) ≤ _
  omega

theorem Bounded.mono (bounded : Bounded config pool) (fewer : next.assignableCount ≤ pool.assignableCount)
    (same : next.inFlight = pool.inFlight) : Bounded config next := by
  unfold Bounded at *
  omega

theorem Bounded.push (bounded : Bounded config pool) (more : next.assignableCount = pool.assignableCount + 1)
    (ended : next.inFlight + 1 = pool.inFlight) : Bounded config next := by
  unfold Bounded at *
  omega

theorem Moves.bounded_iff (moved : Moves config pool action next) (sized : config.poolSize ≤ config.poolMax)
    (counted : pool.inFlight ≤ pool.connecting) (bounded : Bounded config pool) :
    Bounded config next ↔ leavesRoom config pool action = true := by
  cases moved with
  | connects here unavailable =>
    rw [leavesRoom_count]
    unfold Bounded inFlight
    show pool.assignableCount + (pool.picking + 1 + pool.background) ≤ _ ↔ _
    omega
  | died tunnel => exact iff_of_true (bounded.mono (countP_map_le _ fun _ => assignable_of_kill) rfl) rfl
  | picks | buries => exact iff_of_true (bounded.mono (Nat.le_of_eq (countP_alive _)) rfl) rfl
  | grows here available room =>
    refine iff_of_true ?_ (leavesRoom_count.mpr (.inl available))
    unfold Bounded inFlight at *
    show pool.assignableCount + (pool.picking + (pool.background + 1)) ≤ _
    omega
  | stays here available => exact iff_of_true bounded (leavesRoom_count.mpr (.inl available))
  | tops picked here => exact iff_of_true (bounded.ensureTarget sized counted) rfl
  | retries here below =>
    refine iff_of_true ?_ rfl
    unfold Bounded inFlight at *
    show pool.assignableCount + (pool.picking + (pool.background + 1)) ≤ _
    omega
  | pickConnected | backgroundConnected =>
    refine iff_of_true (bounded.push (assignableCount_push pool) ?_) rfl
    simp only [inFlight, TunnelPool.push]
    omega
  | pickFailed free waiting | backgroundFailed free waiting | pickCancelled waiting =>
    refine iff_of_true ?_ rfl
    unfold Bounded inFlight at *
    show pool.assignableCount + _ ≤ _
    dsimp only
    omega
  | rotates tunnel here =>
    refine iff_of_true ?_ rfl
    have marked : Bounded config { pool with tunnels := pool.tunnels.map (markDraining tunnel) } :=
      bounded.mono (countP_map_le _ fun _ => assignable_of_markDraining) rfl
    exact marked.ensureTarget sized counted
  | drains tunnel entry here present draining =>
    exact iff_of_true (bounded.mono (List.eraseP_sublist.countP_le) rfl) rfl
  | finds | misses | chooses | panics | rests | watches | forgets | skips | leaves => exact iff_of_true bounded rfl

/-- The assignable tunnels and those being connected are always at most `pool_max` together, exactly if no pick of the
run that is to connect by itself finds `pool_max` connects in flight. -/
theorem pool_max_respected_iff {config : PoolConfig} (accepted : config.validatePool = .ok ())
    {actions : List PoolAction} {final : TunnelPool}
    (reached : Transition.run (step config) new actions = some final) :
    (∀ n pool, Transition.run (step config) new (actions.take n) = some pool →
      pool.assignableCount + pool.inFlight ≤ config.poolMax) ↔
      Transition.Meets (step config) (fun pool action => leavesRoom config pool action = true) new actions := by
  have preserved : ∀ pool action next, pool.inFlight ≤ pool.connecting → step config pool action = some next →
      next.inFlight ≤ next.connecting :=
    fun pool action next counted taken => (moves_of_step taken).counted counted
  refine always_iff_meets preserved ?_ (Nat.le_refl 0) (Nat.zero_le _) reached
  intro pool action next counted bounded taken
  exact (moves_of_step taken).bounded_iff (config.poolSize_le_poolMax accepted) counted bounded

namespace PoolSample

def lonelyPick : List PoolAction := [.pick, .search false, .count]

def twoPicks : List PoolAction :=
  lonelyPick ++ lonelyPick ++ ([.pickConnected, .topUp, .pickConnected, .topUp] : List PoolAction) ++
    ([.backgroundConnected, .topUp, .backgroundConnected, .topUp] : List PoolAction)

def warm : TunnelPool := (run (step .default) new twoPicks).getD new

end PoolSample

/-- Nine flows come before the first tunnel is there, and each of them connects by itself. -/
theorem nine_picks_exceed_pool_max :
    PoolConfig.default.validatePool = .ok () ∧ PoolConfig.default.poolMax = 8 ∧
      (Transition.run (step .default) new (List.replicate 9 PoolSample.lonelyPick).flatten).map
        (fun pool => (pool.assignableCount, pool.inFlight)) = some (0, 9) :=
  ⟨PoolConfig.validatePool_default, rfl, by decide +kernel⟩

/-- Two flows come first; four tunnels are there in the end, none of them beyond the target. -/
theorem two_picks_within_pool_max :
    PoolConfig.default.validatePool = .ok () ∧
      (∃ final, Transition.run (step .default) new PoolSample.twoPicks = some final ∧ final.assignableCount = 4) ∧
      ∀ n pool, Transition.run (step .default) new (PoolSample.twoPicks.take n) = some pool →
        pool.assignableCount + pool.inFlight ≤ PoolConfig.default.poolMax := by
  have reached : run (step .default) new PoolSample.twoPicks = some PoolSample.warm := rfl
  have counted : PoolSample.warm.assignableCount = 4 := by decide +kernel
  refine ⟨PoolConfig.validatePool_default, ⟨_, reached, counted⟩, ?_⟩
  exact (pool_max_respected_iff PoolConfig.validatePool_default reached).mpr (by decide +kernel)

/-! ### Somebody sees to it -/

structure Tracked (pool : TunnelPool) : Prop where
  watched : ∀ tunnel ∈ pool.tunnels.map PoolEntry.tunnel, tunnel ∈ pool.watchers
  fresh : ∀ tunnel ∈ pool.tunnels.map PoolEntry.tunnel, tunnel < pool.nextTunnel
  distinct : (pool.tunnels.map PoolEntry.tunnel).Nodup

section

variable (tracked : Tracked pool)
include tracked

theorem Tracked.of_sublist (fewer : (next.tunnels.map PoolEntry.tunnel).Sublist (pool.tunnels.map PoolEntry.tunnel))
    (stays : ∀ tunnel ∈ next.tunnels.map PoolEntry.tunnel, tunnel ∈ pool.watchers → tunnel ∈ next.watchers)
    (same : next.nextTunnel = pool.nextTunnel) : Tracked next where
  watched tunnel member := stays tunnel member (tracked.watched tunnel (fewer.subset member))
  fresh tunnel member := same ▸ tracked.fresh tunnel (fewer.subset member)
  distinct := tracked.distinct.sublist fewer

theorem Tracked.of_map (keeps : ∀ entry, (change entry).tunnel = entry.tunnel)
    (changed : next.tunnels = pool.tunnels.map change) (watchers : next.watchers = pool.watchers)
    (same : next.nextTunnel = pool.nextTunnel) : Tracked next := by
  have named : next.tunnels.map PoolEntry.tunnel = pool.tunnels.map PoolEntry.tunnel := by
    rw [changed, List.map_map]
    exact List.map_congr_left fun entry _ => keeps entry
  exact tracked.of_sublist (named ▸ List.Sublist.refl _) (fun _ _ watched => watchers ▸ watched) same

theorem Tracked.push : Tracked pool.push where
  watched tunnel member := by
    simp only [TunnelPool.push, List.map_append, List.mem_append] at *
    exact member.imp_left (tracked.watched tunnel)
  fresh tunnel member := by
    simp only [TunnelPool.push, List.map_append, List.mem_append, List.map_cons, List.map_nil,
      List.mem_singleton] at *
    rcases member with old | new
    · exact Nat.lt_succ_of_lt (tracked.fresh tunnel old)
    · exact new ▸ Nat.lt_succ_self _
  distinct := by
    simp only [TunnelPool.push, List.map_append]
    refine List.nodup_append.mpr ⟨tracked.distinct, List.nodup_singleton _, fun tunnel old other new => ?_⟩
    exact Nat.ne_of_lt (List.mem_singleton.mp new ▸ tracked.fresh tunnel old)

theorem Tracked.entryOf_eq (member : entry ∈ pool.tunnels) :
    pool.entryOf entry.tunnel = some entry := by
  cases found : pool.entryOf entry.tunnel with
  | none => simpa using List.find?_eq_none.mp found entry member
  | some other =>
    have same : other.tunnel = entry.tunnel := by simpa using List.find?_some found
    rw [List.inj_on_of_nodup_map tracked.distinct (List.mem_of_find?_eq_some found) member same]

theorem Tracked.eraseP_eq (present : pool.entryOf tunnel = some entry) :
    ∃ before after, pool.tunnels = before ++ entry :: after ∧ entry.tunnel = tunnel ∧
      pool.tunnels.eraseP (fun entry => entry.tunnel = tunnel) = before ++ after := by
  have named : entry.tunnel = tunnel := by simpa using List.find?_some present
  obtain ⟨found, before, after, -, hit, split, erased⟩ :=
    List.exists_of_eraseP (p := fun entry : PoolEntry => decide (entry.tunnel = tunnel))
      (List.mem_of_find?_eq_some present) (by simpa using named)
  have same : pool.entryOf found.tunnel = some found := tracked.entryOf_eq (by simp [split])
  rw [of_decide_eq_true hit, present] at same
  cases same
  exact ⟨before, after, split, named, erased⟩

theorem Tracked.not_mem_eraseP (present : pool.entryOf tunnel = some entry) :
    tunnel ∉ (pool.tunnels.eraseP (fun entry => entry.tunnel = tunnel)).map PoolEntry.tunnel := by
  obtain ⟨before, after, split, named, erased⟩ := tracked.eraseP_eq present
  have distinct := tracked.distinct
  rw [split, List.map_append, List.map_cons, List.nodup_middle] at distinct
  rw [erased, List.map_append, ← named]
  exact (List.nodup_cons.mp distinct).1

end

theorem Moves.tracked (moved : Moves config pool action next) (tracked : Tracked pool) : Tracked next := by
  cases moved with
  | died tunnel => exact tracked.of_map (kill_tunnel tunnel) rfl rfl rfl
  | picks free =>
    exact tracked.of_sublist (List.filter_sublist.map _) (fun _ _ watched => watched) rfl
  | pickConnected free waiting | backgroundConnected free waiting =>
    exact ⟨tracked.push.watched, tracked.push.fresh, tracked.push.distinct⟩
  | buries tunnel free dead =>
    refine tracked.of_sublist (List.filter_sublist.map _) (fun other member watched => ?_) rfl
    obtain ⟨entry, live, rfl⟩ := List.mem_map.mp member
    obtain ⟨present, alive⟩ := List.mem_filter.mp live
    refine (List.mem_erase_of_ne fun same => ?_).mpr watched
    rw [dead entry (same ▸ tracked.entryOf_eq present)] at alive
    cases alive
  | forgets tunnel absent =>
    refine tracked.of_sublist (List.Sublist.refl _) (fun other member watched => ?_) rfl
    obtain ⟨entry, present, rfl⟩ := List.mem_map.mp member
    refine (List.mem_erase_of_ne fun same => ?_).mpr watched
    cases absent.symm.trans (same ▸ tracked.entryOf_eq present)
  | tops picked here =>
    rw [ensureTarget_eq]
    exact { tracked with }
  | rotates tunnel here =>
    rw [ensureTarget_eq]
    exact tracked.of_map (markDraining_tunnel tunnel) rfl rfl rfl
  | drains tunnel entry here present draining =>
    refine tracked.of_sublist (List.eraseP_sublist.map _) (fun other member watched => ?_) rfl
    have differs : other ≠ tunnel := by
      rintro rfl
      exact tracked.not_mem_eraseP present member
    exact (List.mem_erase_of_ne differs).mpr watched
  | _ => exact { tracked with }

/-- The pool is at its target, or a connect is on its way, or a watcher has yet to find its tunnel dead. A draining
tunnel does not count: no one replaces it twice. -/
def Attended (config : PoolConfig) (pool : TunnelPool) : Prop :=
  config.poolSize ≤ pool.assignableCount + pool.connecting ∨ 0 < pool.connecting ∨
    ∃ entry ∈ pool.tunnels, entry.draining = false ∧ entry.alive = false

theorem exists_of_assignable (available : 0 < pool.assignableCount) :
    ∃ entry ∈ pool.tunnels, entry.draining = false := by
  obtain ⟨entry, member, assignable⟩ := List.countP_pos_iff.mp available
  refine ⟨entry, member, ?_⟩
  simp only [PoolEntry.assignable, Bool.and_eq_true, Bool.not_eq_true'] at assignable
  exact assignable.1

theorem Attended.died (attended : Attended config pool) (tunnel : TunnelId) :
    Attended config { pool with tunnels := pool.tunnels.map (kill tunnel) } := by
  by_cases hit : ∃ entry ∈ pool.tunnels, entry.tunnel = tunnel ∧ entry.draining = false
  · obtain ⟨entry, member, rfl, active⟩ := hit
    exact .inr (.inr ⟨_, List.mem_map_of_mem member, (kill_draining _ _).trans active, by simp [kill]⟩)
  · have same : (pool.tunnels.map (kill tunnel)).countP PoolEntry.assignable = pool.assignableCount := by
      rw [List.countP_map, assignableCount]
      refine List.countP_congr fun entry member => ?_
      simp only [Function.comp_apply, kill]
      split
      · rename_i named
        have draining : entry.draining = true := by
          by_contra active
          exact hit ⟨entry, member, named, Bool.eq_false_iff.mpr active⟩
        simp [PoolEntry.assignable, draining]
      · exact Iff.rfl
    rcases attended with enough | connecting | ⟨entry, member, active, dead⟩
    · exact .inl (Nat.le_trans enough (Nat.le_of_eq (by rw [← same]; rfl)))
    · exact .inr (.inl connecting)
    · refine .inr (.inr ⟨_, List.mem_map_of_mem member, (kill_draining _ _).trans active, ?_⟩)
      unfold kill
      split
      · rfl
      · exact dead

theorem Attended.drained (attended : Attended config pool) (tracked : Tracked pool)
    (present : pool.entryOf tunnel = some entry) (draining : entry.draining = true)
    (erased : next.tunnels = pool.tunnels.eraseP (fun entry => entry.tunnel = tunnel))
    (same : next.connecting = pool.connecting) : Attended config next := by
  obtain ⟨before, after, split, -, rest⟩ := tracked.eraseP_eq present
  have count : next.assignableCount = pool.assignableCount := by
    rw [assignableCount, assignableCount, erased, rest, split]
    simp [PoolEntry.assignable, draining]
  unfold Attended
  rw [count, same]
  refine attended.imp_right (Or.imp_right ?_)
  rintro ⟨other, member, active, dead⟩
  refine ⟨other, ?_, active, dead⟩
  have differs : other ≠ entry := by
    rintro rfl
    exact Bool.false_ne_true (active.symm.trans draining)
  rw [erased, rest]
  simpa [split, differs] using member

/-- What holds of the pool once a pick has succeeded, by where the holder of the lock is. -/
def Due (config : PoolConfig) (pool : TunnelPool) : Option Section → Prop
  | none | some (.rotation _) | some (.drain _) => Attended config pool
  | some .choose => ∃ entry ∈ pool.tunnels, entry.draining = false
  -- The section ends in `ensure_target`, in a retry or in a connect.
  | some .search | some .count | some (.topUp _) | some .retry => True

theorem Due.died {holder : Option Section} (due : Due config pool holder) (tunnel : TunnelId) :
    Due config { pool with tunnels := pool.tunnels.map (kill tunnel) } holder := by
  match holder with
  | none | some (.rotation _) | some (.drain _) => exact Attended.died due tunnel
  | some .choose =>
    obtain ⟨entry, member, active⟩ := due
    exact ⟨_, List.mem_map_of_mem member, (kill_draining _ _).trans active⟩
  | some .search | some .count | some (.topUp _) | some .retry => trivial

theorem Moves.due (moved : Moves config pool action next) (tracked : Tracked pool)
    (due : pool.picked = true → Due config pool pool.holder) : next.picked = true → Due config next next.holder := by
  intro picked
  cases moved with
  | died tunnel => exact (due picked).died tunnel
  | grows here available room | stays here available => exact exists_of_assignable available
  | connects | retries => exact .inr (.inl (Nat.succ_pos _))
  | panics here unavailable =>
    have due := due picked
    rw [here] at due
    obtain ⟨entry, member, active⟩ := due
    refine .inr (.inr ⟨entry, member, active, ?_⟩)
    by_contra alive
    have none := List.countP_eq_zero.mp unavailable entry member
    simp [PoolEntry.assignable, active, alive] at none
  | tops picked here => exact .inl (ensureTarget_reaches config pool)
  | rests here enough => exact .inl enough
  | watches tunnel free =>
    have due := due picked
    rw [free] at due
    exact due
  | buries tunnel free dead =>
    have due := due picked
    rw [free] at due
    simp only [watchDead]
    split
    · trivial
    · rename_i unpruned
      -- The dead one has already been pruned, and so has every other.
      have same : pool.tunnels.filter PoolEntry.alive = pool.tunnels :=
        List.filter_sublist.eq_of_length_le (Nat.le_of_not_lt unpruned)
      rw [same]
      exact due
  | rotates tunnel here => exact .inl (ensureTarget_reaches config _)
  | skips tunnel thresholdHit here | leaves tunnel complete here =>
    have due := due picked
    rw [here] at due
    exact due
  | drains tunnel entry here present draining =>
    have due := due picked
    rw [here] at due
    exact Attended.drained due tracked present draining rfl rfl
  | pickCancelled waiting | forgets tunnel absent => exact due picked
  | _ => trivial

structure Kept (config : PoolConfig) (pool : TunnelPool) : Prop where
  tracked : Tracked pool
  counted : pool.inFlight = pool.connecting
  due : pool.picked = true → Due config pool pool.holder

theorem Kept.moves (kept : Kept config pool) (moved : Moves config pool action next)
    (completes : action ≠ .pickCancelled) : Kept config next where
  tracked := moved.tracked kept.tracked
  counted := by
    have balance := moved.balanced (Nat.le_of_eq kept.counted) completes
    have counted := kept.counted
    omega
  due := moved.due kept.tracked kept.due

theorem kept_new : Kept config new where
  tracked := ⟨nofun, nofun,
    List.nodup_nil⟩
  counted := rfl
  due picked := absurd picked Bool.false_ne_true

theorem kept_of_run (completes : ∀ action ∈ actions, action ≠ .pickCancelled)
    (reached : run (step config) new actions = some final) : Kept config final := by
  have meets : Meets (step config) (fun _ action => action ≠ .pickCancelled) new actions :=
    meets_of_forall (fun action member _ => completes action member) new
  refine run_preserves_of_meets (fun pool action next kept completes taken => ?_) kept_new meets reached
  exact kept.moves (moves_of_step taken) completes

/-- Whatever becomes of the picks, no tunnel is in the pool twice, and each has its watcher. -/
theorem every_tunnel_watched (config : PoolConfig) : Always (step config) new fun pool =>
    (pool.tunnels.map PoolEntry.tunnel).Nodup ∧ ∀ entry ∈ pool.tunnels, entry.tunnel ∈ pool.watchers := by
  intro actions final reached
  have tracked : Tracked final := run_preserves (fun _ _ _ tracked taken => (moves_of_step taken).tracked tracked)
    (kept_new : Kept config new).tracked reached
  exact ⟨tracked.distinct, fun _ member => tracked.watched _ (List.mem_map_of_mem member)⟩

/-- Once a pick has succeeded, and if no pick is dropped, a free lock means that the pool has
`pool_size` tunnels with those on their way, or a connect is on its way, or a dead tunnel is still in
the pool and has its watcher. A tunnel is marked for rotation only with `pool_size` others there or on
their way. -/
theorem never_abandoned (config : PoolConfig) {actions : List PoolAction} {final : TunnelPool}
    (completes : ∀ action ∈ actions, action ≠ .pickCancelled)
    (reached : Transition.run (step config) new actions = some final) :
    (final.holder = none → final.picked = true →
      config.poolSize ≤ final.assignableCount + final.inFlight ∨ 0 < final.inFlight ∨
        ∃ entry ∈ final.tunnels, entry.alive = false ∧ entry.tunnel ∈ final.watchers) ∧
      ∀ tunnel next, final.holder = some (.rotation tunnel) →
        (∃ entry ∈ final.tunnels, entry.tunnel = tunnel ∧ entry.draining = false) →
        final.step config (.rotate true) = some next →
        (∃ entry ∈ next.tunnels, entry.tunnel = tunnel ∧ entry.draining = true) ∧
          config.poolSize ≤ next.assignableCount + next.inFlight := by
  have kept := kept_of_run completes reached
  refine ⟨fun free picked => ?_, fun tunnel next here active taken => ?_⟩
  · have due := kept.due picked
    rw [free] at due
    rw [kept.counted]
    refine Or.imp_right (Or.imp_right ?_) due
    rintro ⟨entry, member, -, dead⟩
    exact ⟨entry, member, dead, kept.tracked.watched _ (List.mem_map_of_mem member)⟩
  · have kept' := kept.moves (moves_of_step taken) PoolAction.noConfusion
    obtain ⟨entry, member, rfl, active⟩ := active
    have hit : (final.entryOf entry.tunnel).any (fun entry => !entry.draining) = true := by
      simp [kept.tracked.entryOf_eq member, active]
    simp only [step, here, hit] at taken
    cases taken
    refine ⟨⟨markDraining entry.tunnel entry, ?_, ?_⟩, ?_⟩
    · rw [ensureTarget_eq]
      exact List.mem_map_of_mem member
    · simp [markDraining]
    · rw [kept'.counted]
      exact ensureTarget_reaches config _

namespace PoolSample

def turnover : List PoolAction :=
  twoPicks ++ ([.die 0, .watch 1, .rotate true, .drain false, .watch 2] : List PoolAction)

def turned : TunnelPool := (run (step .default) new turnover).getD new

def replaced : TunnelPool := (turned.step .default (.rotate true)).getD new

end PoolSample

theorem turnover_attended :
    Transition.run (step .default) new PoolSample.turnover = some PoolSample.turned ∧
      PoolSample.turned.step .default (.rotate true) = some PoolSample.replaced ∧
      PoolSample.replaced.inFlight = 3 ∧
      PoolConfig.default.poolSize ≤ PoolSample.replaced.assignableCount + PoolSample.replaced.inFlight := by
  have reached : run (step .default) new PoolSample.turnover = some PoolSample.turned := rfl
  have taken : PoolSample.turned.step .default (.rotate true) = some PoolSample.replaced := rfl
  have active : ∃ entry ∈ PoolSample.turned.tunnels, entry.tunnel = 2 ∧ entry.draining = false := by
    decide +kernel
  have rotated := (never_abandoned .default (by decide) reached).2 2 PoolSample.replaced (by decide +kernel) active
    taken
  exact ⟨reached, taken, by decide +kernel, rotated.2⟩

end Rvpn.Client.TunnelPool
