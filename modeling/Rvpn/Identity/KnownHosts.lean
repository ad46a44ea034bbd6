import Mathlib.Logic.Function.Basic
import Rvpn.Crypto.X3dh
import Rvpn.Identity.Pin

/-! Trust on first use, `identity_verification.rs`. The clock's text is an argument. -/

namespace Rvpn.Identity

open Crypto (X3dhPublicBundle PublicKey)

structure ServerIdentity where
  fingerprint : String
  firstSeen : String
  lastVerified : String
  deriving DecidableEq

structure KnownHosts where
  servers : String → Option ServerIdentity

inductive VerificationResult where
  | verified
  | new
  | mismatch (expected got : String)
  deriving DecidableEq

namespace KnownHosts

def empty : KnownHosts := ⟨fun _ => none⟩

def getFingerprint (hosts : KnownHosts) (serverAddress : String) : Option String :=
  (hosts.servers serverAddress).map (·.fingerprint)

/-- `add_server`: the time of the first sight survives a rewrite. -/
def addServer (hosts : KnownHosts) (now serverAddress fingerprint : String) : KnownHosts :=
  let firstSeen := ((hosts.servers serverAddress).map (·.firstSeen)).getD now
  ⟨Function.update hosts.servers serverAddress (some ⟨fingerprint, firstSeen, now⟩)⟩

def updateVerified (hosts : KnownHosts) (now serverAddress : String) : KnownHosts :=
  match hosts.servers serverAddress with
  | some identity => ⟨Function.update hosts.servers serverAddress (some { identity with lastVerified := now })⟩
  | none => hosts

end KnownHosts

/-- `matches!(parse_pin(pin), Ok(ParsedPin { version: 0, .. }))`. -/
def isLegacy (pin : String) : Bool :=
  match parsePin pin with
  | .ok parsed => parsed.version == 0
  | .error _ => false

def canonicaliseForDisplay (pin : String) : String :=
  match parsePin pin with
  | .ok parsed => if parsed.version ≠ 0 then parsed.toCanonical else pin
  | .error _ => pin

variable (sha256 : Bytes → Digest)

def computeFingerprint (bundle : X3dhPublicBundle) : String := encodeIdentityPin sha256 bundle.identityKey

def verifyConfigured (bundle : X3dhPublicBundle) (expected : String) : VerificationResult × Bool :=
  let actual := computeFingerprint sha256 bundle
  match pinsMatch sha256 expected bundle.identityKey with
  | .error _ => (.mismatch expected actual, false)
  | .ok false => (.mismatch (canonicaliseForDisplay expected) actual, false)
  | .ok true => (.verified, true)

/-- The pin that the store holds for the address; a legacy one that matches is rewritten. -/
def verifyStored (now serverAddress : String) (bundle : X3dhPublicBundle) (hosts : KnownHosts)
    (stored : String) : VerificationResult × Bool × KnownHosts :=
  let actual := computeFingerprint sha256 bundle
  match pinsMatch sha256 stored bundle.identityKey with
  | .ok true =>
    (.verified, true,
      if isLegacy stored then hosts.addServer now serverAddress actual
      else hosts.updateVerified now serverAddress)
  | _ => (.mismatch (canonicaliseForDisplay stored) actual, false, hosts)

def verifyServerIdentity (now serverAddress : String) (bundle : X3dhPublicBundle) (hosts : KnownHosts)
    (configFingerprint : Option String) (trustOnFirstUse strictMode : Bool) :
    VerificationResult × Bool × KnownHosts :=
  match configFingerprint with
  | some expected =>
    let (result, proceed) := verifyConfigured sha256 bundle expected
    (result, proceed, hosts)
  | none =>
    match hosts.getFingerprint serverAddress with
    | some stored => verifyStored sha256 now serverAddress bundle hosts stored
    | none =>
      if trustOnFirstUse then
        if strictMode then (.new, false, hosts)
        else (.new, true, hosts.addServer now serverAddress (computeFingerprint sha256 bundle))
      else (.new, false, hosts)

/-- A call leaves the store, or proceeds and writes the entry of its address. -/
theorem store_verifyServerIdentity (now serverAddress : String) (bundle : X3dhPublicBundle) (hosts : KnownHosts)
    (configFingerprint : Option String) (trustOnFirstUse strictMode : Bool) :
    let outcome := verifyServerIdentity sha256 now serverAddress bundle hosts configFingerprint trustOnFirstUse strictMode
    outcome.2.2 = hosts ∨ outcome.2.1 = true ∧ ∃ identity : ServerIdentity,
      outcome.2.2 = ⟨Function.update hosts.servers serverAddress (some identity)⟩ ∧
      ∀ previous, hosts.servers serverAddress = some previous → identity.firstSeen = previous.firstSeen := by
  unfold verifyServerIdentity verifyStored KnownHosts.addServer KnownHosts.updateVerified
  dsimp only
  split
  · exact .inl rfl
  · split
    · split
      · split
        · exact .inr ⟨rfl, _, rfl, by simp +contextual⟩
        · split
          · exact .inr ⟨rfl, _, rfl, by simp_all⟩
          · exact .inl rfl
      · exact .inl rfl
    · split
      · split
        · exact .inl rfl
        · exact .inr ⟨rfl, _, rfl, by simp +contextual⟩
      · exact .inl rfl

theorem servers_verifyServerIdentity (now : String) (bundle : X3dhPublicBundle) (hosts : KnownHosts)
    (configFingerprint : Option String) (trustOnFirstUse strictMode : Bool) {serverAddress other : String}
    (differs : other ≠ serverAddress) :
    (verifyServerIdentity sha256 now serverAddress bundle hosts configFingerprint trustOnFirstUse
      strictMode).2.2.servers other = hosts.servers other := by
  obtain same | ⟨-, identity, written, -⟩ := store_verifyServerIdentity sha256 now serverAddress bundle hosts
    configFingerprint trustOnFirstUse strictMode
  · rw [same]
  · simp [written, differs]

theorem getFingerprint_verifyServerIdentity (now : String) (bundle : X3dhPublicBundle) (hosts : KnownHosts)
    (configFingerprint : Option String) (trustOnFirstUse strictMode : Bool) {serverAddress other : String}
    (differs : other ≠ serverAddress) :
    (verifyServerIdentity sha256 now serverAddress bundle hosts configFingerprint trustOnFirstUse
      strictMode).2.2.getFingerprint other = hosts.getFingerprint other := by
  rw [KnownHosts.getFingerprint, servers_verifyServerIdentity sha256 _ _ _ _ _ _ differs, KnownHosts.getFingerprint]

section Calls

structure VerifyCall where
  now : String
  serverAddress : String
  bundle : X3dhPublicBundle
  configFingerprint : Option String
  trustOnFirstUse : Bool
  strictMode : Bool

def VerifyCall.verify (call : VerifyCall) (hosts : KnownHosts) : VerificationResult × Bool × KnownHosts :=
  verifyServerIdentity sha256 call.now call.serverAddress call.bundle hosts call.configFingerprint
    call.trustOnFirstUse call.strictMode

def KnownHosts.after (hosts : KnownHosts) (calls : List VerifyCall) : KnownHosts :=
  calls.foldl (fun store call => (call.verify sha256 store).2.2) hosts

/-- `address` is pinned by a text that carries the whole hash. -/
def KnownHosts.Pinned (hosts : KnownHosts) (address : String) (hash : Digest) : Prop :=
  ∃ stored, hosts.getFingerprint address = some stored ∧ parsePin stored = .ok ⟨pinVersion, hash⟩

theorem KnownHosts.after_preserves (invariant : KnownHosts → Prop) {hosts : KnownHosts}
    (kept : ∀ store (call : VerifyCall), invariant store → invariant (call.verify sha256 store).2.2)
    (holds : invariant hosts) (calls : List VerifyCall) : invariant (hosts.after sha256 calls) := by
  induction calls generalizing hosts with
  | nil => exact holds
  | cons call rest ih => exact ih (kept hosts call holds)

theorem KnownHosts.getFingerprint_updateVerified (hosts : KnownHosts) (now serverAddress : String) :
    (hosts.updateVerified now serverAddress).getFingerprint serverAddress = hosts.getFingerprint serverAddress := by
  unfold updateVerified
  split
  · rename_i identity entry
    simp [getFingerprint, entry]
  · rfl

/-- A stored text that carries the whole hash stays, and decides. -/
theorem verifyStored_of_parsePin {hosts : KnownHosts} {serverAddress stored : String} {hash : Digest}
    (parsed : parsePin stored = .ok ⟨pinVersion, hash⟩) (now : String) (bundle : X3dhPublicBundle)
    (present : hosts.getFingerprint serverAddress = some stored) :
    let verdict := verifyStored sha256 now serverAddress bundle hosts stored
    (verdict.2.1 = true ↔ hash = sha256 bundle.identityKey.toList) ∧
      verdict.2.2.getFingerprint serverAddress = some stored := by
  have whole : isLegacy stored = false := by simp [isLegacy, parsed, pinVersion]
  simp only [verifyStored, pinsMatch_of_parsePin sha256 parsed, whole]
  by_cases same : hash = sha256 bundle.identityKey.toList
  · simpa [same, KnownHosts.getFingerprint_updateVerified] using present
  · simpa [same] using present

theorem verify_of_pinned {hosts : KnownHosts} {call : VerifyCall} {hash : Digest}
    (pinned : hosts.Pinned call.serverAddress hash) :
    (call.verify sha256 hosts).2.2.Pinned call.serverAddress hash ∧
      (call.configFingerprint = none →
        ((call.verify sha256 hosts).2.1 = true ↔ hash = sha256 call.bundle.identityKey.toList)) := by
  obtain ⟨stored, present, parsed⟩ := pinned
  unfold VerifyCall.verify verifyServerIdentity
  split
  · rename_i configured
    exact ⟨⟨stored, present, parsed⟩, by simp [configured]⟩
  · simp only [present]
    obtain ⟨decides, kept⟩ := verifyStored_of_parsePin sha256 parsed call.now call.bundle present
    exact ⟨⟨stored, kept, parsed⟩, fun _ => decides⟩

theorem verify_keeps_pinned {hosts : KnownHosts} {address : String} {hash : Digest} (pinned : hosts.Pinned address hash)
    (call : VerifyCall) : (call.verify sha256 hosts).2.2.Pinned address hash := by
  by_cases own : address = call.serverAddress
  · subst own
    exact (verify_of_pinned sha256 pinned).1
  · obtain ⟨stored, present, parsed⟩ := pinned
    refine ⟨stored, ?_, parsed⟩
    rwa [VerifyCall.verify, getFingerprint_verifyServerIdentity sha256 _ _ _ _ _ _ own]

theorem verify_keeps_firstSeen {hosts : KnownHosts} {address firstSeen : String}
    (seen : (hosts.servers address).map (·.firstSeen) = some firstSeen) (call : VerifyCall) :
    ((call.verify sha256 hosts).2.2.servers address).map (·.firstSeen) = some firstSeen := by
  obtain same | ⟨-, identity, written, kept⟩ := store_verifyServerIdentity sha256 call.now call.serverAddress call.bundle
    hosts call.configFingerprint call.trustOnFirstUse call.strictMode
  · rwa [VerifyCall.verify, same]
  · rw [VerifyCall.verify, written]
    obtain ⟨previous, entry, first⟩ := Option.map_eq_some_iff.mp seen
    by_cases own : address = call.serverAddress
    · subst own
      simp [kept previous entry, first]
    · simp [own, entry, first]

/-- What the store owes its callers, from any store and after any calls. -/
theorem verify_discipline (hosts : KnownHosts) (calls : List VerifyCall) (call : VerifyCall) :
    let before := hosts.after sha256 calls
    let outcome := call.verify sha256 before
    (outcome.2.2 ≠ before → outcome.2.1 = true) ∧
      (∀ other, other ≠ call.serverAddress → outcome.2.2.servers other = before.servers other) ∧
      (∀ hash, hosts.Pinned call.serverAddress hash → call.configFingerprint = none →
        (outcome.2.1 = true ↔ hash = sha256 call.bundle.identityKey.toList)) ∧
      ∀ address firstSeen, (hosts.servers address).map (·.firstSeen) = some firstSeen →
        (outcome.2.2.servers address).map (·.firstSeen) = some firstSeen := by
  refine ⟨?_, ?_, ?_, ?_⟩
  · intro changed
    obtain same | ⟨proceeds, -⟩ := store_verifyServerIdentity sha256 call.now call.serverAddress call.bundle
      (hosts.after sha256 calls) call.configFingerprint call.trustOnFirstUse call.strictMode
    · exact absurd same changed
    · exact proceeds
  · intro other differs
    exact servers_verifyServerIdentity sha256 _ _ _ _ _ _ differs
  · intro hash pinned unconfigured
    have later := KnownHosts.after_preserves sha256 (·.Pinned call.serverAddress hash)
      (fun _ earlier pinned => verify_keeps_pinned sha256 pinned earlier) pinned calls
    exact (verify_of_pinned sha256 later).2 unconfigured
  · intro address firstSeen seen
    have later := KnownHosts.after_preserves sha256 (fun store => (store.servers address).map (·.firstSeen) = some firstSeen)
      (fun _ earlier seen => verify_keeps_firstSeen sha256 seen earlier) seen calls
    exact verify_keeps_firstSeen sha256 later call

end Calls

end Rvpn.Identity
