import Rvpn.Client.IdentityCheck
import Rvpn.Lib.Slots
import Rvpn.Lib.Transition

/-! The `known_hosts.json` file under several handshakes at once: loaded, changed in memory, written back whole. -/

namespace Rvpn.Client

open Crypto Identity
open Transition

/-- The file on disk. One that cannot be read or parsed may still have pins in it. -/
inductive Disk where
  | missing
  | damaged (pins : String → Option String)
  | holds (hosts : KnownHosts)

namespace Disk

/-- What `KnownHosts::load` makes of it. -/
def file : Disk → HostsFile
  | .missing => .missing
  | .damaged _ => .unreadable
  | .holds hosts => .holds hosts

def pin : Disk → String → Option String
  | .missing, _ => none
  | .damaged pins, address => pins address
  | .holds hosts, address => hosts.getFingerprint address

def Readable : Disk → Prop
  | .damaged _ => False
  | _ => True

theorem getFingerprint_load {disk : Disk} (readable : disk.Readable) (address : String) :
    disk.file.load.getFingerprint address = disk.pin address := by
  cases disk with
  | missing => rfl
  | damaged pins => exact readable.elim
  | holds hosts => rfl

end Disk

variable {Secret Private : Type} {P : Primitives Secret Private} (ed : Ed25519)

namespace Attempt

def address (attempt : Attempt P) : String := s!"{attempt.host}:{attempt.port}"

def finding (attempt : Attempt P) (disk : Disk) : Attempt P := { attempt with file := disk.file }

def copy (attempt : Attempt P) : DesktopPath → Option KnownHosts
  | .dnsProxy => none
  | path =>
    match attempt.bundle ed path with
    | .error _ => none
    | .ok bundle => some (verifyServerIdentity attempt.around.sha256 attempt.around.now attempt.address bundle
        attempt.file.load attempt.config.fingerprint attempt.config.trustOnFirstUse attempt.config.strictMode).2.2

variable {ed}

theorem getFingerprint_copy {attempt : Attempt P} {path : DesktopPath} {hosts : KnownHosts}
    (copied : attempt.copy ed path = some hosts) (differs : other ≠ attempt.address) :
    hosts.getFingerprint other = attempt.file.load.getFingerprint other := by
  unfold copy at copied
  split at copied
  · cases copied
  · split at copied
    · cases copied
    · cases copied
      exact getFingerprint_verifyServerIdentity _ _ _ _ _ _ _ differs

end Attempt

inductive CheckPhase where
  | checked (hosts : KnownHosts)
  | opened (hosts : KnownHosts)
  | finished

structure PinTask where
  address : String
  phase : CheckPhase

def PinTask.copy (task : PinTask) : Option KnownHosts :=
  match task.phase with
  | .checked hosts | .opened hosts => some hosts
  | .finished => none

/-- `pins` is what each server's own handshakes have left as its pin. -/
structure PinStore where
  disk : Disk
  tasks : List PinTask
  pins : String → Option String

namespace PinStore

inductive Action (P : Primitives Secret Private) where
  | check (path : DesktopPath) (attempt : Attempt P)
  | openFile (index : Nat)
  | openFails (index : Nat)
  | write (index : Nat)
  | cutShort (index : Nat) (left : String → Option String)

def start (disk : Disk) : PinStore := ⟨disk, [], disk.pin⟩

/-- A handshake has given the file this content; its own server's pin is what it is now. -/
def written (state : PinStore) (index : Nat) (address : String) (disk : Disk) : PinStore where
  disk := disk
  tasks := state.tasks.set index ⟨address, .finished⟩
  pins := Function.update state.pins address (disk.pin address)

def step (state : PinStore) : Action P → Option PinStore
  | .check path attempt =>
    let phase : CheckPhase := match (attempt.finding state.disk).copy ed path with
      | some hosts => .checked hosts
      | none => .finished
    some { state with tasks := state.tasks ++ [⟨attempt.address, phase⟩] }
  | .openFile index =>
    match state.tasks[index]? with
    | some ⟨address, .checked hosts⟩ =>
      -- the file is truncated when it is opened
      some { state with disk := .damaged fun _ => none, tasks := state.tasks.set index ⟨address, .opened hosts⟩ }
    | _ => none
  | .openFails index =>
    match state.tasks[index]? with
    | some ⟨address, .checked _⟩ => some { state with tasks := state.tasks.set index ⟨address, .finished⟩ }
    | _ => none
  | .write index =>
    match state.tasks[index]? with
    | some ⟨address, .opened hosts⟩ => some (state.written index address (.holds hosts))
    | _ => none
  | .cutShort index left =>
    match state.tasks[index]? with
    | some ⟨address, .opened _⟩ => some (state.written index address (.damaged left))
    | _ => none

/-- A handshake checks only while no other has a copy to write and the file can be read, and writes are whole. -/
def Careful (state : PinStore) : Action P → Prop
  | .check path attempt => ((attempt.finding state.disk).copy ed path).isSome →
      (∀ task ∈ state.tasks, task.copy = none) ∧ state.disk.Readable
  | .cutShort _ _ => False
  | _ => True

def Settled (state : PinStore) : Prop := ∀ task ∈ state.tasks, ∀ hosts, task.phase ≠ .opened hosts

structure Guarded (state : PinStore) : Prop where
  alone : ∀ {i j : Nat} {first second : PinTask}, state.tasks[i]? = some first → state.tasks[j]? = some second →
    first.copy ≠ none → second.copy ≠ none → i = j
  current : ∀ task ∈ state.tasks, ∀ hosts, task.copy = some hosts → ∀ other, other ≠ task.address →
    hosts.getFingerprint other = state.pins other
  kept : state.Settled → ∀ address, state.disk.pin address = state.pins address

variable {ed} {state next : PinStore}

theorem guarded_start (disk : Disk) : Guarded (start disk) where
  alone := nofun
  current := nofun
  kept _ _ := rfl

theorem of_set_copy {tasks : List PinTask} {index k : Nat} {task entry other : PinTask}
    (found : tasks[index]? = some task) (same : entry.address = task.address)
    (less : entry.copy = task.copy ∨ entry.copy = none) (there : (tasks.set index entry)[k]? = some other)
    (busy : other.copy ≠ none) :
    ∃ old, tasks[k]? = some old ∧ old.copy = other.copy ∧ old.address = other.address := by
  rcases Slots.of_set there with ⟨rfl, rfl⟩ | ⟨-, before⟩
  · rcases less with less | less
    · exact ⟨task, found, less.symm, same.symm⟩
    · exact absurd less busy
  · exact ⟨other, before, rfl, rfl⟩

theorem settled_of_idle (idle : ∀ task ∈ state.tasks, task.copy = none) : state.Settled := by
  rintro task member hosts opened
  have nothing := idle task member
  rw [PinTask.copy, opened] at nothing
  cases nothing

theorem Guarded.append (guarded : Guarded state)
    (idle : entry.copy ≠ none → ∀ task ∈ state.tasks, task.copy = none)
    (current : ∀ hosts, entry.copy = some hosts → ∀ other, other ≠ entry.address →
      hosts.getFingerprint other = state.pins other) :
    Guarded { state with tasks := state.tasks ++ [entry] } where
  alone former latter busy busy' := by
    rcases Slots.of_append former with before | ⟨rfl, rfl⟩
    · rcases Slots.of_append latter with before' | ⟨rfl, rfl⟩
      · exact guarded.alone before before' busy busy'
      · exact absurd (idle busy' _ (List.mem_of_getElem? before)) busy
    · rcases Slots.of_append latter with before' | ⟨rfl, rfl⟩
      · exact absurd (idle busy _ (List.mem_of_getElem? before')) busy'
      · rfl
  current task member hosts copied := by
    rcases List.mem_append.mp member with before | new
    · exact guarded.current task before hosts copied
    · cases List.mem_singleton.mp new
      exact current hosts copied
  kept settled := guarded.kept fun task member => settled task (List.mem_append_left _ member)

theorem Guarded.replace (guarded : Guarded state) (found : state.tasks[index]? = some task) (entry : PinTask)
    (same : entry.address = task.address) (less : entry.copy = task.copy ∨ entry.copy = none) (disk : Disk)
    (kept : Settled ⟨disk, state.tasks.set index entry, state.pins⟩ → ∀ address, disk.pin address = state.pins address) :
    Guarded ⟨disk, state.tasks.set index entry, state.pins⟩ where
  alone former latter busy busy' := by
    obtain ⟨first, before, copies, -⟩ := of_set_copy found same less former busy
    obtain ⟨second, before', copies', -⟩ := of_set_copy found same less latter busy'
    exact guarded.alone before before' (copies ▸ busy) (copies' ▸ busy')
  current other member hosts copied := by
    obtain ⟨k, there⟩ := List.mem_iff_getElem?.mp member
    obtain ⟨old, before, copies, address⟩ := of_set_copy found same less there (by simp [copied])
    exact address ▸ guarded.current old (List.mem_of_getElem? before) hosts (copies.trans copied)
  kept := kept

theorem Guarded.written (guarded : Guarded state) (found : state.tasks[index]? = some ⟨address, .opened hosts⟩) :
    Guarded (state.written index address (.holds hosts)) := by
  have nothing : ∀ {k : Nat} {other : PinTask}, (state.tasks.set index ⟨address, .finished⟩)[k]? = some other →
      other.copy = none := by
    intro k other there
    rcases Slots.of_set there with ⟨-, rfl⟩ | ⟨differs, before⟩
    · rfl
    · by_contra busy
      exact differs (guarded.alone before found busy nofun)
  refine ⟨fun former _ busy _ => absurd (nothing former) busy, fun other member hosts' copied => ?_, fun _ other => ?_⟩
  · obtain ⟨k, there⟩ := List.mem_iff_getElem?.mp member
    cases (nothing there).symm.trans copied
  · by_cases own : other = address
    · subst own
      exact (Function.update_self other _ state.pins).symm
    · refine (guarded.current _ (List.mem_of_getElem? found) hosts rfl other own).trans ?_
      exact (Function.update_of_ne own _ state.pins).symm

theorem Guarded.step {action : Action P} (guarded : Guarded state) (careful : Careful ed state action)
    (taken : step ed state action = some next) : Guarded next := by
  cases action with
  | check path attempt =>
    cases taken
    rcases copied : (attempt.finding state.disk).copy ed path with _ | hosts
    · exact guarded.append (fun busy => absurd rfl busy) nofun
    · obtain ⟨idle, readable⟩ := careful (Option.isSome_of_eq_some copied)
      refine guarded.append (fun _ => idle) fun copy same other differs => ?_
      cases same
      rw [Attempt.getFingerprint_copy copied differs]
      exact (Disk.getFingerprint_load readable other).trans (guarded.kept (settled_of_idle idle) other)
  | openFile index =>
    simp only [PinStore.step] at taken
    split at taken
    · rename_i address hosts found
      cases taken
      refine guarded.replace found ⟨address, .opened hosts⟩ rfl (.inl rfl) _ fun settled => ?_
      have inside : index < state.tasks.length := (List.getElem?_eq_some_iff.mp found).1
      exact absurd rfl (settled ⟨address, .opened hosts⟩ (List.mem_set inside _) hosts)
    · cases taken
  | openFails index =>
    simp only [PinStore.step] at taken
    split at taken
    · rename_i address hosts found
      cases taken
      refine guarded.replace found ⟨address, .finished⟩ rfl (.inr rfl) _ fun settled => guarded.kept fun task member => ?_
      obtain ⟨k, there⟩ := List.mem_iff_getElem?.mp member
      by_cases same : k = index
      · subst same
        cases found.symm.trans there
        exact nofun
      · exact settled task (List.mem_of_getElem? ((List.getElem?_set_ne (Ne.symm same)).trans there))
    · cases taken
  | write index =>
    simp only [PinStore.step] at taken
    split at taken
    · rename_i address hosts found
      cases taken
      exact guarded.written found
    · cases taken
  | cutShort index left => exact careful.elim

/-- If each handshake comes to the check while it is the only one with a copy and the file can be read, and the writes
are whole, the pin of a server is never changed by a handshake with another. -/
theorem pins_kept_by_others (disk : Disk) (actions : List (Action P))
    (careful : Transition.Meets (step ed) (Careful ed) (start disk) actions)
    (reached : Transition.run (step ed) (start disk) actions = some state) (settled : state.Settled) (address : String) :
    state.disk.pin address = state.pins address :=
  (run_preserves_of_meets (fun _ _ _ guarded met taken => guarded.step met taken) (guarded_start disk) careful
    reached).kept settled address

def sampleAttempt (host : String) : Attempt Symbolic.primitives :=
  { Sample.refusedAttempt .default with host := host }

def samplePins (address : String) : Option String := if address = "old.example:443" then some "aa" else none

def sampleDisk : Disk := .holds ⟨fun address => (samplePins address).map (⟨·, "then", "then"⟩)⟩

def sampleRun : List (Action Symbolic.primitives) :=
  [.check .streamRelay (sampleAttempt "new.example"), .openFile 0, .write 0]

def sampleRace : List (Action Symbolic.primitives) :=
  [.check .streamRelay (sampleAttempt "a.example"), .check .socks5Tunnel (sampleAttempt "b.example"),
    .openFile 0, .write 0, .openFile 1, .write 1]

theorem pinned_server_kept : ∃ state, Transition.run (step Sample.trusting) (start sampleDisk) sampleRun = some state ∧
      state.disk.pin "old.example:443" = state.pins "old.example:443" ∧ state.pins "old.example:443" = some "aa" := by
  refine ⟨_, rfl, @pins_kept_by_others _ _ _ Sample.trusting _ sampleDisk sampleRun ?_ rfl ?_ _, ?_⟩
  · exact ⟨fun _ => ⟨nofun, trivial⟩, fun _ _ => ⟨trivial, fun _ _ => ⟨trivial, fun _ _ => trivial⟩⟩⟩
  · intro task member
    cases List.mem_singleton.mp member
    exact nofun
  · decide +kernel

/-- A pin in a file that cannot be parsed is gone after a handshake with another server; and of two handshakes at once
the last to write removes the pin that the other has learnt. -/
theorem pins_lost :
    (∃ state, Transition.run (step Sample.trusting) (start (.damaged samplePins)) sampleRun = some state ∧
      state.Settled ∧ state.disk.pin "old.example:443" ≠ state.pins "old.example:443") ∧
    ∃ state, Transition.run (step Sample.trusting) (start .missing) sampleRace = some state ∧
      state.Settled ∧ state.disk.pin "a.example:443" ≠ state.pins "a.example:443" := by
  refine ⟨⟨_, rfl, ?_, ?_⟩, ⟨_, rfl, ?_, ?_⟩⟩
  · intro task member
    cases List.mem_singleton.mp member
    exact nofun
  · decide +kernel
  · intro task member
    rcases List.mem_cons.mp member with rfl | member
    · exact nofun
    · cases List.mem_singleton.mp member
      exact nofun
  · decide +kernel

end PinStore

end Rvpn.Client
