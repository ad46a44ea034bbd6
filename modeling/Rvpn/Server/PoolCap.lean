import Rvpn.Server.OutboundSafety

/-! How many connections wait in a session's pool for one target. A task that connects in advance looks at the pool
before, and adds to it afterwards. -/

namespace Rvpn.Server

variable {Socket : Type}

/-- The job has found room in the pool and may still put a connection there. -/
def Job.reserves (session : Nat) (target : String) (job : Job Socket) : Bool :=
  job.purpose = .preconnect session && job.target = target &&
    match job.progress with
    | .lookingUp | .resolving | .connecting _ => true
    | .checkingPool | .relaying _ | .sending _ | .ended => false

namespace Outbound

variable {server next : Outbound Socket} {session : Nat} {target : String}

def pooled (server : Outbound Socket) (session : Nat) (target : String) : Nat :=
  ((server.sessions session).tcpPool target).length

def load (server : Outbound Socket) (session : Nat) (target : String) : Nat :=
  server.pooled session target + server.jobs.countP (Job.reserves session target)

/-- A task goes on past its check only with room for every connection that is on its way. -/
def reserving (server : Outbound Socket) : OutboundAction Socket → Bool
  | .advance index _ =>
    server.jobs[index]?.all fun job =>
      match job.purpose, job.progress with
      | .preconnect session, .checkingPool => maxPoolPerTarget ≤ server.pooled session job.target ||
          server.load session job.target < maxPoolPerTarget
      | _, _ => true
  | _ => true

theorem load_setProgress {job : Job Socket} (listed : server.jobs[index]? = some job) (progress : Progress Socket) :
    (server.setProgress index job progress).load session target + (if job.reserves session target then 1 else 0) =
      server.load session target + if Job.reserves session target { job with progress } then 1 else 0 := by
  obtain ⟨inside, rfl⟩ := List.getElem?_eq_some_iff.mp listed
  have counted : (if server.jobs[index].reserves session target then 1 else 0) ≤
      server.jobs.countP (Job.reserves session target) := by
    split
    · rename_i reserved
      exact List.countP_pos_iff.mpr ⟨_, List.getElem_mem inside, reserved⟩
    · exact Nat.zero_le _
  simp only [load, pooled, setProgress, List.countP_set inside]
  omega

theorem load_setProgress_le {job : Job Socket} (listed : server.jobs[index]? = some job) {progress : Progress Socket}
    (kept : Job.reserves session target { job with progress } = true → job.reserves session target = true) :
    (server.setProgress index job progress).load session target ≤ server.load session target := by
  have moved := @load_setProgress Socket server session target index job listed progress
  split at moved <;> split at moved
  all_goals first | omega | simp_all

theorem load_spawn {purpose : Purpose} {progress : Progress Socket}
    (idle : Job.reserves session target ⟨purpose, other, progress⟩ = false) :
    (server.spawn purpose other progress).load session target = server.load session target := by
  simp [load, pooled, spawn, idle]

theorem load_setSession_le {state : MuxSession Socket} (fewer : session = changed →
      (state.tcpPool target).length ≤ server.pooled session target) :
    (server.setSession changed state).load session target ≤ server.load session target := by
  apply Nat.add_le_add_right
  by_cases same : session = changed
  · subst same
    simpa [pooled, setSession] using fewer rfl
  · simp [pooled, setSession, same]

theorem load_storeFlow_le (stream : TcpStream Socket) :
    (server.storeFlow changed f other stream).load session target ≤ server.load session target := by
  rw [storeFlow, load_spawn (by simp [Job.reserves])]
  exact load_setSession_le fun same => same ▸ Nat.le_refl _

theorem load_createFlow_le (world : World (TcpStream Socket)) :
    (server.createFlow world changed f connectTarget).load session target ≤ server.load session target := by
  unfold createFlow
  dsimp only
  split
  · exact Nat.le_refl _
  · have popped : (server.setSession changed { server.sessions changed with
        tcpPool := Function.update (server.sessions changed).tcpPool connectTarget
          (popUsable world ((server.sessions changed).tcpPool connectTarget)).2 }).load session target ≤
        server.load session target := by
      refine load_setSession_le fun same => ?_
      subst same
      by_cases own : target = connectTarget
      · subst own
        simpa [pooled] using popUsable_sublist.2.length_le
      · simp [pooled, own]
    split
    · exact Nat.le_trans (load_storeFlow_le _) popped
    · rw [load_spawn (by simp [Job.reserves])]
      exact popped

theorem reserves_of_underway {job : Job Socket} {progress : Progress Socket}
    (underway : job.progress = .lookingUp ∨ job.progress = .resolving ∨ ∃ addrs, job.progress = .connecting addrs)
    (reserved : Job.reserves session target { job with progress } = true) : job.reserves session target = true := by
  simp only [Job.reserves, Bool.and_eq_true] at reserved ⊢
  refine ⟨reserved.1, ?_⟩
  rcases underway with found | found | ⟨addrs, found⟩ <;> rw [found]

/-- A connection goes from a reservation to the pool. -/
theorem load_connected_le {job : Job Socket} (listed : server.jobs[index]? = some job)
    (connecting : job.progress = .connecting addrs) (world : World (TcpStream Socket)) (stream : TcpStream Socket) :
    (server.connected world index job stream).load session target ≤ server.load session target := by
  have done : ∀ progress, (server.setProgress index job progress).load session target ≤ server.load session target :=
    fun progress => load_setProgress_le listed (reserves_of_underway (.inr (.inr ⟨addrs, connecting⟩)))
  unfold connected
  split
  · exact Nat.le_trans (load_storeFlow_le _) (done _)
  · rename_i owner purpose
    by_cases own : session = owner ∧ target = job.target
    · obtain ⟨rfl, rfl⟩ := own
      have reserved : job.reserves session job.target = true := by simp [Job.reserves, purpose, connecting]
      have moved := @load_setProgress _ server session job.target _ _ listed .ended
      rw [if_pos reserved, if_neg (by simp [Job.reserves])] at moved
      simp [load, pooled, setProgress, setSession] at moved ⊢
      omega
    · refine Nat.le_trans (load_setSession_le fun same => ?_) (done .ended)
      subst same
      have elsewhere : target ≠ job.target := fun same => own ⟨rfl, same⟩
      simp [pooled, setProgress, elsewhere]
  · exact done _
  · exact done _

theorem load_advance_le {job : Job Socket} {found : Answers Socket} (listed : server.jobs[index]? = some job)
    (reserved : server.reserving (.advance index found) = true)
    (bounded : server.load session target ≤ maxPoolPerTarget)
    (taken : server.advance world config index job = some next) : next.load session target ≤ maxPoolPerTarget := by
  have onward (progress : Progress Socket) (underway : job.progress = .lookingUp ∨ job.progress = .resolving ∨
      ∃ addrs, job.progress = .connecting addrs) :
      (server.setProgress index job progress).load session target ≤ maxPoolPerTarget :=
    Nat.le_trans (load_setProgress_le listed (reserves_of_underway underway)) bounded
  unfold advance at taken
  split at taken
  · rename_i checking
    split at taken
    · rename_i owner purpose
      cases taken
      split
      · rename_i room
        have moved := @load_setProgress _ server session target _ _ listed .lookingUp
        have idle : job.reserves session target = false := by simp [Job.reserves, checking]
        rw [if_neg (by simp [idle])] at moved
        split at moved
        · rename_i own
          simp only [Job.reserves, Bool.and_eq_true, decide_eq_true_eq] at own
          obtain ⟨⟨same, rfl⟩, -⟩ := own
          cases Purpose.preconnect.inj (same.symm.trans purpose)
          have within : server.load session job.target < maxPoolPerTarget := by
            simpa [reserving, listed, purpose, checking, Nat.not_le.mpr room, pooled] using reserved
          omega
        · omega
      · exact Nat.le_trans (load_setProgress_le listed (by simp [Job.reserves])) bounded
    all_goals cases taken
  · rename_i looking
    cases taken
    exact onward _ (.inl looking)
  · rename_i resolving
    split at taken
    · cases taken
      exact onward _ (.inr (.inl resolving))
    · rename_i addrs cache answered
      cases taken
      have same := setCache_frame server job.purpose cache
      have := onward (resolved world config job.purpose addrs) (.inr (.inl resolving))
      simpa [load, pooled, setProgress, same] using this
  · rename_i addrs connecting
    dsimp only at taken
    split at taken
    · cases taken
      exact onward .ended (.inr (.inr ⟨addrs, connecting⟩))
    · rename_i stream connected
      cases taken
      exact Nat.le_trans (@load_connected_le _ (server.recordAttempts _ addrs) _ _ _ _ _ listed connecting _ stream) bounded
  all_goals cases taken

def Capped (server : Outbound Socket) : Prop := ∀ session target, server.load session target ≤ maxPoolPerTarget

theorem Capped.step (capped : server.Capped) (reserved : server.reserving action = true)
    (taken : Outbound.step parsers config server action = some next) : next.Capped := by
  intro session target
  have enough (shrinks : next.load session target ≤ server.load session target) :=
    Nat.le_trans shrinks (capped session target)
  cases action with
  | createFlow owner f target port answers =>
    cases taken
    exact enough (load_createFlow_le _)
  | connectRequest request =>
    simp only [Outbound.step] at taken
    split at taken
    all_goals
      cases taken
      exact enough (Nat.le_of_eq (load_spawn (by simp [Job.reserves])))
  | advance index answers =>
    obtain ⟨job, listed, taken⟩ := Option.bind_eq_some_iff.mp taken
    exact load_advance_le listed reserved (capped session target) taken
  | datagram index =>
    obtain ⟨job, listed, taken⟩ := Option.bind_eq_some_iff.mp taken
    split at taken
    · cases taken
      exact capped session target
    · cases taken
  | removeFlow owner f =>
    cases taken
    exact enough (load_setSession_le fun same => same ▸ Nat.le_refl _)
  | endSession owner =>
    cases taken
    exact enough (load_setSession_le fun _ => Nat.zero_le _)

end Outbound

end Rvpn.Server
