import Rvpn.Lib.Transition
import Mathlib.Data.List.Count
import Mathlib.Logic.Function.Iterate

/-! `tunnel_pool.rs`. A tunnel can die at any time, so a critical section is cut wherever it looks at the tunnels
again. -/

namespace Rvpn.Client

structure PoolConfig where
  poolSize : Nat
  poolMax : Nat
  maxFlowsPerConn : Nat
  rotateAfterSecs : Nat
  rotateAfterMb : Nat
  /-- `none` for what is not a number. -/
  rotationJitter : Option Rat

inductive PoolConfigError where
  | poolSize
  | poolMax (poolMax poolSize : Nat)
  | maxFlowsPerConn
  | rotateAfterSecs (secs : Nat)
  | rotateAfterMb (mb : Nat)
  | rotationJitter (jitter : Option Rat)
  deriving DecidableEq

def PoolConfigError.message (display : Option Rat → String) : PoolConfigError → String
  | .poolSize => "socks5.pool_size must be at least 1"
  | .poolMax most target => s!"socks5.pool_max ({most}) must be >= socks5.pool_size ({target})"
  | .maxFlowsPerConn => "socks5.max_flows_per_conn must be at least 1"
  | .rotateAfterSecs secs => s!"socks5.rotate_after_secs ({secs}) must be at least 60"
  | .rotateAfterMb mb => s!"socks5.rotate_after_mb ({mb}) must be at least 16"
  | .rotationJitter jitter =>
    "socks5.rotation_jitter (" ++ display jitter ++ ") must be between 0.0 and 0.5"

def PoolConfig.validatePool (config : PoolConfig) : Except PoolConfigError Unit :=
  if config.poolSize = 0 then .error .poolSize
  else if config.poolMax < config.poolSize then .error (.poolMax config.poolMax config.poolSize)
  else if config.maxFlowsPerConn = 0 then .error .maxFlowsPerConn
  else if config.rotateAfterSecs < 60 then .error (.rotateAfterSecs config.rotateAfterSecs)
  else if config.rotateAfterMb < 16 then .error (.rotateAfterMb config.rotateAfterMb)
  else if config.rotationJitter.any (fun jitter => 0 ≤ jitter ∧ 2 * jitter ≤ 1) then .ok ()
  else .error (.rotationJitter config.rotationJitter)

def PoolConfig.default : PoolConfig where
  poolSize := 4
  poolMax := 8
  maxFlowsPerConn := 64
  rotateAfterSecs := 600
  rotateAfterMb := 256
  rotationJitter := some (mkRat 1 5)

theorem PoolConfig.validatePool_default : PoolConfig.default.validatePool = .ok () := by decide +kernel

theorem PoolConfig.poolSize_le_poolMax {config : PoolConfig} (accepted : config.validatePool = .ok ()) :
    config.poolSize ≤ config.poolMax := by
  unfold validatePool at accepted
  split at accepted
  · cases accepted
  · split at accepted
    · cases accepted
    · omega

abbrev TunnelId := Nat

structure PoolEntry where
  tunnel : TunnelId
  alive : Bool
  draining : Bool
  deriving DecidableEq

def PoolEntry.assignable (entry : PoolEntry) : Bool := !entry.draining && entry.alive

inductive Section where
  /-- `pick_tunnel` looks for a tunnel under the flow cap, -/
  | search
  | count
  | choose
  /-- `ensure_target`, at the end of a successful pick or of something else. -/
  | topUp (picked : Bool)
  | retry
  | rotation (tunnel : TunnelId)
  | drain (tunnel : TunnelId)
  deriving DecidableEq

structure TunnelPool where
  tunnels : List PoolEntry
  connecting : Nat
  /-- The `pick_tunnel` futures that wait for their own connect. -/
  picking : Nat
  /-- The tasks of `spawn_connect`, asleep or connecting. -/
  background : Nat
  watchers : List TunnelId
  holder : Option Section
  picked : Bool
  nextTunnel : TunnelId
  deriving DecidableEq

inductive PoolAction where
  | die (tunnel : TunnelId)
  | pick
  | search (found : Bool)
  | count
  | choose
  | topUp
  | retry
  | pickConnected
  | pickFailed
  | pickCancelled
  | backgroundConnected
  | backgroundFailed
  | watch (tunnel : TunnelId)
  | watchGone (tunnel : TunnelId)
  | rotate (thresholdHit : Bool)
  | drain (complete : Bool)
  deriving DecidableEq

namespace TunnelPool

def new : TunnelPool := ⟨[], 0, 0, 0, [], none, false, 0⟩

def assignableCount (pool : TunnelPool) : Nat := pool.tunnels.countP PoolEntry.assignable

def inFlight (pool : TunnelPool) : Nat := pool.picking + pool.background

def spawnConnect (pool : TunnelPool) : TunnelPool :=
  { pool with connecting := pool.connecting + 1, background := pool.background + 1 }

def ensureTarget (config : PoolConfig) (pool : TunnelPool) : TunnelPool :=
  spawnConnect^[config.poolSize - (pool.assignableCount + pool.connecting)] pool

def push (pool : TunnelPool) : TunnelPool :=
  { pool with
    tunnels := pool.tunnels ++ [⟨pool.nextTunnel, true, false⟩]
    watchers := pool.watchers ++ [pool.nextTunnel]
    nextTunnel := pool.nextTunnel + 1 }

def kill (tunnel : TunnelId) (entry : PoolEntry) : PoolEntry :=
  if entry.tunnel = tunnel then { entry with alive := false } else entry

def markDraining (tunnel : TunnelId) (entry : PoolEntry) : PoolEntry :=
  if entry.tunnel = tunnel then { entry with draining := true } else entry

section entry

variable (tunnel : TunnelId) (entry : PoolEntry)

theorem kill_tunnel : (kill tunnel entry).tunnel = entry.tunnel := by
  unfold kill
  split <;> rfl

theorem kill_draining : (kill tunnel entry).draining = entry.draining := by
  unfold kill
  split <;> rfl

theorem markDraining_tunnel : (markDraining tunnel entry).tunnel = entry.tunnel := by
  unfold markDraining
  split <;> rfl

variable {tunnel entry}

theorem assignable_of_kill (assignable : (kill tunnel entry).assignable = true) : entry.assignable = true := by
  unfold kill at assignable
  split at assignable
  · simp [PoolEntry.assignable] at assignable
  · exact assignable

theorem assignable_of_markDraining (assignable : (markDraining tunnel entry).assignable = true) :
    entry.assignable = true := by
  unfold markDraining at assignable
  split at assignable
  · simp [PoolEntry.assignable] at assignable
  · exact assignable

end entry

def watchDead (pool : TunnelPool) (tunnel : TunnelId) : TunnelPool :=
  let live := pool.tunnels.filter PoolEntry.alive
  { pool with
    tunnels := live
    watchers := pool.watchers.erase tunnel
    holder := if live.length < pool.tunnels.length then some (.topUp false) else none }

def entryOf (pool : TunnelPool) (tunnel : TunnelId) : Option PoolEntry :=
  pool.tunnels.find? fun entry => entry.tunnel = tunnel

def step (config : PoolConfig) (pool : TunnelPool) : PoolAction → Option TunnelPool
  | .die tunnel => some { pool with tunnels := pool.tunnels.map (kill tunnel) }
  | .pick =>
    if pool.holder = none then
      some { pool with tunnels := pool.tunnels.filter PoolEntry.alive, holder := some .search }
    else none
  | .search found =>
    if pool.holder = some .search then
      if found then
        if 0 < pool.assignableCount then some { pool with holder := some (.topUp true) } else none
      else some { pool with holder := some .count }
    else none
  | .count =>
    if pool.holder = some .count then
      if 0 < pool.assignableCount then
        let grown := if pool.assignableCount + pool.connecting < config.poolMax then pool.spawnConnect else pool
        some { grown with holder := some .choose }
      else some { pool with connecting := pool.connecting + 1, picking := pool.picking + 1, holder := none }
    else none
  | .choose =>
    if pool.holder = some .choose then
      if 0 < pool.assignableCount then some { pool with holder := some (.topUp true) }
      -- All of them have died since: `expect("assignable non-empty")` panics and frees the lock.
      else some { pool with holder := none }
    else none
  | .topUp =>
    match pool.holder with
    | some (.topUp picked) =>
      some { pool.ensureTarget config with holder := none, picked := pool.picked || picked }
    | _ => none
  | .retry =>
    if pool.holder = some .retry then
      if pool.assignableCount + pool.connecting < config.poolSize then
        some { pool.spawnConnect with holder := none }
      else some { pool with holder := none }
    else none
  | .pickConnected =>
    if pool.holder = none ∧ 0 < pool.picking then
      some { pool.push with
        connecting := pool.connecting - 1, picking := pool.picking - 1, holder := some (.topUp true) }
    else none
  | .pickFailed =>
    if pool.holder = none ∧ 0 < pool.picking then
      some { pool with connecting := pool.connecting - 1, picking := pool.picking - 1, holder := some .retry }
    else none
  | .pickCancelled => if 0 < pool.picking then some { pool with picking := pool.picking - 1 } else none
  | .backgroundConnected =>
    if pool.holder = none ∧ 0 < pool.background then
      some { pool.push with
        connecting := pool.connecting - 1, background := pool.background - 1, holder := some (.topUp false) }
    else none
  | .backgroundFailed =>
    if pool.holder = none ∧ 0 < pool.background then
      some { pool with
        connecting := pool.connecting - 1, background := pool.background - 1, holder := some .retry }
    else none
  | .watch tunnel =>
    if pool.holder = none ∧ tunnel ∈ pool.watchers then
      match pool.entryOf tunnel with
      | some entry =>
        if entry.alive then some { pool with holder := some (.rotation tunnel) } else some (pool.watchDead tunnel)
      -- But for the drain that ends its watcher, a tunnel leaves the pool dead.
      | none => some (pool.watchDead tunnel)
    else none
  | .watchGone tunnel =>
    if tunnel ∈ pool.watchers ∧ pool.entryOf tunnel = none then
      some { pool with watchers := pool.watchers.erase tunnel }
    else none
  | .rotate thresholdHit =>
    match pool.holder with
    | some (.rotation tunnel) =>
      if thresholdHit ∧ (pool.entryOf tunnel).any (fun entry => !entry.draining) then
        let marked := { pool with tunnels := pool.tunnels.map (markDraining tunnel) }
        some { marked.ensureTarget config with holder := some (.drain tunnel) }
      else some { pool with holder := some (.drain tunnel) }
    | _ => none
  | .drain complete =>
    match pool.holder with
    | some (.drain tunnel) =>
      if complete ∧ (pool.entryOf tunnel).any PoolEntry.draining then
        some { pool with
          tunnels := pool.tunnels.eraseP (fun entry => entry.tunnel = tunnel)
          watchers := pool.watchers.erase tunnel
          holder := none }
      else some { pool with holder := none }
    | _ => none

inductive Moves (config : PoolConfig) (pool : TunnelPool) : PoolAction → TunnelPool → Prop
  | died (tunnel) : Moves config pool (.die tunnel) { pool with tunnels := pool.tunnels.map (kill tunnel) }
  | picks (free : pool.holder = none) :
    Moves config pool .pick
      { pool with tunnels := pool.tunnels.filter PoolEntry.alive, holder := some .search }
  | finds (here : pool.holder = some .search) (available : 0 < pool.assignableCount) :
    Moves config pool (.search true) { pool with holder := some (.topUp true) }
  | misses (here : pool.holder = some .search) :
    Moves config pool (.search false) { pool with holder := some .count }
  | grows (here : pool.holder = some .count) (available : 0 < pool.assignableCount)
    (room : pool.assignableCount + pool.connecting < config.poolMax) :
    Moves config pool .count { pool.spawnConnect with holder := some .choose }
  | stays (here : pool.holder = some .count) (available : 0 < pool.assignableCount) :
    Moves config pool .count { pool with holder := some .choose }
  | connects (here : pool.holder = some .count) (unavailable : pool.assignableCount = 0) :
    Moves config pool .count
      { pool with connecting := pool.connecting + 1, picking := pool.picking + 1, holder := none }
  | chooses (here : pool.holder = some .choose) (available : 0 < pool.assignableCount) :
    Moves config pool .choose { pool with holder := some (.topUp true) }
  | panics (here : pool.holder = some .choose) (unavailable : pool.assignableCount = 0) :
    Moves config pool .choose { pool with holder := none }
  | tops (picked) (here : pool.holder = some (.topUp picked)) :
    Moves config pool .topUp
      { pool.ensureTarget config with holder := none, picked := pool.picked || picked }
  | retries (here : pool.holder = some .retry) (below : pool.assignableCount + pool.connecting < config.poolSize) :
    Moves config pool .retry { pool.spawnConnect with holder := none }
  | rests (here : pool.holder = some .retry)
    (enough : config.poolSize ≤ pool.assignableCount + pool.connecting) :
    Moves config pool .retry { pool with holder := none }
  | pickConnected (free : pool.holder = none) (waiting : 0 < pool.picking) :
    Moves config pool .pickConnected
      { pool.push with
        connecting := pool.connecting - 1, picking := pool.picking - 1, holder := some (.topUp true) }
  | pickFailed (free : pool.holder = none) (waiting : 0 < pool.picking) :
    Moves config pool .pickFailed
      { pool with connecting := pool.connecting - 1, picking := pool.picking - 1, holder := some .retry }
  | pickCancelled (waiting : 0 < pool.picking) :
    Moves config pool .pickCancelled { pool with picking := pool.picking - 1 }
  | backgroundConnected (free : pool.holder = none) (waiting : 0 < pool.background) :
    Moves config pool .backgroundConnected
      { pool.push with
        connecting := pool.connecting - 1, background := pool.background - 1, holder := some (.topUp false) }
  | backgroundFailed (free : pool.holder = none) (waiting : 0 < pool.background) :
    Moves config pool .backgroundFailed
      { pool with
        connecting := pool.connecting - 1, background := pool.background - 1, holder := some .retry }
  | watches (tunnel) (free : pool.holder = none) :
    Moves config pool (.watch tunnel) { pool with holder := some (.rotation tunnel) }
  | buries (tunnel) (free : pool.holder = none)
    (dead : ∀ entry, pool.entryOf tunnel = some entry → entry.alive = false) :
    Moves config pool (.watch tunnel) (pool.watchDead tunnel)
  | forgets (tunnel) (absent : pool.entryOf tunnel = none) :
    Moves config pool (.watchGone tunnel) { pool with watchers := pool.watchers.erase tunnel }
  | rotates (tunnel) (here : pool.holder = some (.rotation tunnel)) :
    Moves config pool (.rotate true)
      { ensureTarget config { pool with tunnels := pool.tunnels.map (markDraining tunnel) } with
        holder := some (.drain tunnel) }
  | skips (tunnel thresholdHit) (here : pool.holder = some (.rotation tunnel)) :
    Moves config pool (.rotate thresholdHit) { pool with holder := some (.drain tunnel) }
  | drains (tunnel entry) (here : pool.holder = some (.drain tunnel)) (present : pool.entryOf tunnel = some entry)
    (draining : entry.draining = true) :
    Moves config pool (.drain true)
      { pool with
        tunnels := pool.tunnels.eraseP (fun entry => entry.tunnel = tunnel)
        watchers := pool.watchers.erase tunnel
        holder := none }
  | leaves (tunnel complete) (here : pool.holder = some (.drain tunnel)) :
    Moves config pool (.drain complete) { pool with holder := none }

theorem moves_of_step (taken : pool.step config action = some next) : Moves config pool action next := by
  cases action with
  | die tunnel =>
    cases taken
    exact .died tunnel
  | pick =>
    obtain ⟨free, rfl⟩ := Transition.of_guard taken
    exact .picks free
  | search found =>
    obtain ⟨here, taken⟩ := Option.ite_none_right_eq_some.mp taken
    cases found with
    | true =>
      obtain ⟨available, rfl⟩ := Transition.of_guard taken
      exact .finds here available
    | false =>
      cases taken
      exact .misses here
  | count =>
    obtain ⟨here, taken⟩ := Option.ite_none_right_eq_some.mp taken
    split at taken
    · rename_i available
      cases taken
      split
      · rename_i room
        exact .grows here available room
      · exact .stays here available
    · rename_i unavailable
      cases taken
      exact .connects here (Nat.eq_zero_of_not_pos unavailable)
  | choose =>
    obtain ⟨here, taken⟩ := Option.ite_none_right_eq_some.mp taken
    split at taken
    · rename_i available
      cases taken
      exact .chooses here available
    · rename_i unavailable
      cases taken
      exact .panics here (Nat.eq_zero_of_not_pos unavailable)
  | topUp =>
    simp only [step] at taken
    split at taken
    · rename_i picked here
      cases taken
      exact .tops picked here
    · cases taken
  | retry =>
    obtain ⟨here, taken⟩ := Option.ite_none_right_eq_some.mp taken
    split at taken
    · rename_i below
      cases taken
      exact .retries here below
    · rename_i enough
      cases taken
      exact .rests here (Nat.le_of_not_lt enough)
  | pickConnected =>
    obtain ⟨⟨free, waiting⟩, rfl⟩ := Transition.of_guard taken
    exact .pickConnected free waiting
  | pickFailed =>
    obtain ⟨⟨free, waiting⟩, rfl⟩ := Transition.of_guard taken
    exact .pickFailed free waiting
  | pickCancelled =>
    obtain ⟨waiting, rfl⟩ := Transition.of_guard taken
    exact .pickCancelled waiting
  | backgroundConnected =>
    obtain ⟨⟨free, waiting⟩, rfl⟩ := Transition.of_guard taken
    exact .backgroundConnected free waiting
  | backgroundFailed =>
    obtain ⟨⟨free, waiting⟩, rfl⟩ := Transition.of_guard taken
    exact .backgroundFailed free waiting
  | watch tunnel =>
    obtain ⟨⟨free, -⟩, taken⟩ := Option.ite_none_right_eq_some.mp taken
    split at taken
    · rename_i entry present
      split at taken
      · cases taken
        exact .watches tunnel free
      · rename_i dead
        cases taken
        refine .buries tunnel free fun other found => ?_
        cases present.symm.trans found
        exact Bool.eq_false_iff.mpr dead
    · rename_i absent
      cases taken
      refine .buries tunnel free fun other found => ?_
      cases absent.symm.trans found
  | watchGone tunnel =>
    obtain ⟨⟨-, absent⟩, rfl⟩ := Transition.of_guard taken
    exact .forgets tunnel absent
  | rotate thresholdHit =>
    simp only [step] at taken
    split at taken
    · rename_i tunnel here
      split at taken
      · rename_i hit
        cases taken
        cases hit.1
        exact .rotates tunnel here
      · cases taken
        exact .skips tunnel thresholdHit here
    · cases taken
  | drain complete =>
    simp only [step] at taken
    split at taken
    · rename_i tunnel here
      split at taken
      · rename_i hit
        obtain ⟨entry, present, draining⟩ := (Option.any_eq_true ..).mp hit.2
        cases taken
        cases hit.1
        exact .drains tunnel entry here present draining
      · cases taken
        exact .leaves tunnel complete here
    · cases taken

variable (pool : TunnelPool)

theorem iterate_spawnConnect (n : Nat) :
    spawnConnect^[n] pool =
      { pool with connecting := pool.connecting + n, background := pool.background + n } := by
  induction n generalizing pool with
  | zero => rfl
  | succ n ih =>
    rw [Function.iterate_succ_apply, ih]
    simp only [spawnConnect, Nat.add_assoc, Nat.add_comm 1 n]

theorem ensureTarget_eq (config : PoolConfig) :
    pool.ensureTarget config =
      { pool with
        connecting := pool.connecting + (config.poolSize - (pool.assignableCount + pool.connecting))
        background := pool.background + (config.poolSize - (pool.assignableCount + pool.connecting)) } :=
  iterate_spawnConnect pool _

theorem ensureTarget_reaches (config : PoolConfig) (pool : TunnelPool) :
    config.poolSize ≤ (pool.ensureTarget config).assignableCount + (pool.ensureTarget config).connecting := by
  rw [ensureTarget_eq]
  show _ ≤ pool.assignableCount + (pool.connecting + _)
  omega

theorem countP_map_le (entries : List PoolEntry)
    (fewer : ∀ entry, (change entry).assignable = true → entry.assignable = true) :
    (entries.map change).countP PoolEntry.assignable ≤ entries.countP PoolEntry.assignable := by
  rw [List.countP_map]
  exact List.countP_mono_left fun entry _ => fewer entry

theorem countP_alive (entries : List PoolEntry) :
    (entries.filter PoolEntry.alive).countP PoolEntry.assignable = entries.countP PoolEntry.assignable := by
  rw [List.countP_filter]
  refine List.countP_congr fun entry _ => ?_
  simp +contextual [PoolEntry.assignable]

theorem assignableCount_push : pool.push.assignableCount = pool.assignableCount + 1 := by
  simp [assignableCount, push, PoolEntry.assignable]

end TunnelPool

end Rvpn.Client
