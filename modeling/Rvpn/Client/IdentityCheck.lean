import Rvpn.Client.Handshake
import Rvpn.Crypto.Symbolic

/-! Which of the desktop client's handshakes act on the verdict about the server's
identity. -/

namespace Rvpn.Client

open Crypto Identity Session

variable {Secret Private : Type} {P : Primitives Secret Private} {ed : Ed25519}

/-- The handshakes of `rvpn-client`. -/
inductive DesktopPath where
  | streamRelay | vpnTunnel | socks5Tunnel | dnsProxy
  deriving DecidableEq

structure Attempt (P : Primitives Secret Private) where
  around : Surroundings
  initiator : X3dhInitiator P
  drawn : Private
  serverBundle : X3dhPublicBundle
  host : String
  port : UInt16
  config : ServerIdentityConfig
  file : HostsFile
  received : Received

namespace DesktopPath

/-- The handshake as its callers run it: they hand over the configuration they have, and
the DNS proxy has none to hand over. -/
def performHandshake (ed : Ed25519) (path : DesktopPath) (attempt : Attempt P) :
    Except String (DoubleRatchet P) × HostsFile :=
  match path with
  | .streamRelay =>
    StreamRelay.performHandshake ed attempt.around attempt.initiator attempt.drawn attempt.serverBundle
      attempt.host attempt.port (some attempt.config) attempt.file attempt.received
  | .vpnTunnel =>
    VpnTunnel.performHandshake ed attempt.around attempt.initiator attempt.drawn attempt.serverBundle
      attempt.host attempt.port attempt.config attempt.file attempt.received
  | .socks5Tunnel =>
    Socks5Tunnel.performHandshake ed attempt.around attempt.initiator attempt.drawn attempt.serverBundle
      attempt.host attempt.port (some attempt.config) attempt.file attempt.received
  | .dnsProxy =>
    (dnsHandshake ed attempt.initiator attempt.drawn attempt.serverBundle attempt.received, attempt.file)

def wording : DesktopPath → Wording
  | .streamRelay | .vpnTunnel => Client.wording "Unexpected handshake message type from server"
  | .socks5Tunnel => Socks5Tunnel.wording
  | .dnsProxy => Client.wording "Unexpected handshake message from server"

def Enforces (config : ServerIdentityConfig) : DesktopPath → Prop
  | .streamRelay | .vpnTunnel => config.strict = true
  | .socks5Tunnel => config.strictMode = true
  | .dnsProxy => False

end DesktopPath

def Attempt.bundle (ed : Ed25519) (path : DesktopPath) (attempt : Attempt P) :
    Except String X3dhPublicBundle :=
  receiveBundle ed path.wording attempt.serverBundle attempt.received

/-- What `verify_server_identity` says of a bundle, given the attempt's configuration and
the store on disk. -/
def Attempt.verdict (attempt : Attempt P) (bundle : X3dhPublicBundle) : VerificationResult × Bool :=
  (checkIdentity attempt.around attempt.config s!"{attempt.host}:{attempt.port}" bundle attempt.file).1

/-- `should_proceed`. -/
def Attempt.ShouldProceed (attempt : Attempt P) (bundle : X3dhPublicBundle) : Prop :=
  (attempt.verdict bundle).2 = true

theorem checkedHandshake_ok_iff {wording : Wording}
    {judge : ServerIdentityConfig → VerificationResult × Bool → Except String Unit} (attempt : Attempt P) :
    (∃ ratchet, (checkedHandshake ed wording judge attempt.around attempt.initiator attempt.drawn
        attempt.serverBundle s!"{attempt.host}:{attempt.port}" (some attempt.config) attempt.file
        attempt.received).1 = .ok ratchet) ↔
      ∃ bundle, receiveBundle ed wording attempt.serverBundle attempt.received = .ok bundle ∧
        judge attempt.config (attempt.verdict bundle) = .ok () := by
  unfold checkedHandshake Attempt.verdict
  cases receiveBundle ed wording attempt.serverBundle attempt.received with
  | error failure => simp
  | ok bundle =>
    simp only [Except.ok.injEq, exists_eq_left']
    split
    · rename_i failure judged
      simp [judged]
    · rename_i judged
      simp [judged]

theorem uncheckedHandshake_ok_iff {wording : Wording} (attempt : Attempt P) :
    (∃ ratchet, uncheckedHandshake ed wording attempt.initiator attempt.drawn attempt.serverBundle
        attempt.received = .ok ratchet) ↔
      ∃ bundle, receiveBundle ed wording attempt.serverBundle attempt.received = .ok bundle := by
  unfold uncheckedHandshake
  cases receiveBundle ed wording attempt.serverBundle attempt.received with
  | error | ok => simp [Except.map]

theorem enforce_refused (refused : verdict.2 = false) :
    enforce strict verdict = .ok () ↔ strict = false := by
  obtain ⟨result, proceed⟩ := verdict
  obtain rfl : proceed = false := refused
  cases strict <;> cases result <;> simp [enforce]

theorem Socks5Tunnel.enforce_refused (refused : verdict.2 = false) :
    Socks5Tunnel.enforce strictMode verdict = .ok () ↔ strictMode = false := by
  simp [Socks5Tunnel.enforce, refused]

theorem checkedHandshake_refused {wording : Wording}
    {judge : ServerIdentityConfig → VerificationResult × Bool → Except String Unit} {flag : Bool}
    (attempt : Attempt P)
    (judges : ∀ verdict, verdict.2 = false → (judge attempt.config verdict = .ok () ↔ flag = false))
    (refused : ∀ bundle, receiveBundle ed wording attempt.serverBundle attempt.received = .ok bundle →
      (attempt.verdict bundle).2 = false) :
    (∃ ratchet, (checkedHandshake ed wording judge attempt.around attempt.initiator attempt.drawn
        attempt.serverBundle s!"{attempt.host}:{attempt.port}" (some attempt.config) attempt.file
        attempt.received).1 = .ok ratchet) ↔
      (∃ bundle, receiveBundle ed wording attempt.serverBundle attempt.received = .ok bundle) ∧
        ¬ flag = true := by
  rw [checkedHandshake_ok_iff]
  constructor
  · rintro ⟨bundle, received, passed⟩
    have lax := (judges _ (refused bundle received)).mp passed
    exact ⟨⟨bundle, received⟩, by simp [lax]⟩
  · rintro ⟨⟨bundle, received⟩, lax⟩
    exact ⟨bundle, received, (judges _ (refused bundle received)).mpr (by simpa using lax)⟩

theorem DesktopPath.performHandshake_refused (path : DesktopPath) (attempt : Attempt P)
    (refused : ∀ bundle, attempt.bundle ed path = .ok bundle → ¬ attempt.ShouldProceed bundle) :
    (∃ ratchet, (path.performHandshake ed attempt).1 = .ok ratchet) ↔
      (∃ bundle, attempt.bundle ed path = .ok bundle) ∧ ¬ path.Enforces attempt.config := by
  have judged : ∀ bundle, attempt.bundle ed path = .ok bundle → (attempt.verdict bundle).2 = false := by
    intro bundle received
    simpa [Attempt.ShouldProceed] using refused bundle received
  cases path with
  | streamRelay | vpnTunnel => exact checkedHandshake_refused attempt (fun _ => enforce_refused) judged
  | socks5Tunnel => exact checkedHandshake_refused attempt (fun _ => Socks5Tunnel.enforce_refused) judged
  | dnsProxy =>
    rw [DesktopPath.Enforces, not_false_iff, and_true]
    exact uncheckedHandshake_ok_iff attempt

/-- With `strict` set, a server that is refused gets no ratchet exactly when the path is
one that tests `strict`, or tests `strict_mode` and that is set too, or when its
ServerHello does not pass the checks on sizes and signature. -/
theorem refused_server_gets_no_ratchet_iff (path : DesktopPath) (attempt : Attempt P)
    (strict : attempt.config.strict = true)
    (refused : ∀ bundle, attempt.bundle ed path = .ok bundle → ¬ attempt.ShouldProceed bundle) :
    (∀ ratchet, (path.performHandshake ed attempt).1 ≠ .ok ratchet) ↔
      path = .streamRelay ∨ path = .vpnTunnel ∨
        (path = .socks5Tunnel ∧ attempt.config.strictMode = true) ∨
        ∀ bundle, attempt.bundle ed path ≠ .ok bundle := by
  rw [← not_exists, path.performHandshake_refused attempt refused, not_and_or, not_not, not_exists, or_comm]
  cases path <;> simp [DesktopPath.Enforces, strict]

namespace Sample

open Symbolic (keyOf)

/-- Signatures that always verify: the server that is refused has signed its prekey. -/
def trusting : Ed25519 where
  verifyingKey _ := keyOf 1
  sign _ _ := Vector.replicate 64 0
  fromBytes _ := .ok ()
  verify _ _ _ := .ok ()

/-- The store pins a key that starts with 16 bytes `aa`; the server shows another key. -/
def refusedAttempt (config : ServerIdentityConfig) : Attempt Symbolic.primitives where
  around := ⟨fun _ => keyOf 0, "now", .saved⟩
  initiator := ⟨keyOf 2, .generate _ (keyOf 3)⟩
  drawn := keyOf 4
  serverBundle := ⟨keyOf 0xAA, keyOf 6, keyOf 7, [], none⟩
  host := "vpn.example"
  port := 443
  config := config
  file := .holds ⟨fun address => if address = "vpn.example:443" then
    some ⟨"aaaaaaaaaaaaaaaaaaaaaaaaaaaaaaaa", "then", "then"⟩ else none⟩
  received := .message (.serverHello [] (List.replicate 32 8) (List.replicate 64 9) (List.replicate 32 0xBB))

def refusedBundle : X3dhPublicBundle := ⟨keyOf 0xBB, keyOf 6, keyOf 8, List.replicate 64 9, none⟩

theorem refusedAttempt_bundle (config : ServerIdentityConfig) (path : DesktopPath) :
    (refusedAttempt config).bundle trusting path = .ok refusedBundle := by
  cases path <;> rfl

theorem not_shouldProceed_refusedBundle :
    ¬ (refusedAttempt .default).ShouldProceed refusedBundle := by
  unfold Attempt.ShouldProceed
  decide +kernel

end Sample

open Sample in
theorem streamRelay_refuses :
    (refusedAttempt .default).config.strict = true ∧
      ∀ ratchet, (DesktopPath.streamRelay.performHandshake trusting (refusedAttempt .default)).1 ≠ .ok ratchet := by
  refine ⟨rfl, (refused_server_gets_no_ratchet_iff .streamRelay (refusedAttempt .default) rfl ?_).mpr (.inl rfl)⟩
  intro bundle received
  cases (refusedAttempt_bundle .default .streamRelay).symm.trans received
  exact not_shouldProceed_refusedBundle

open Sample in
/-- With the strict default configuration and a server whose key is not the pinned one, `Socks5Tunnel` and the DNS
proxy go on to a ratchet. -/
theorem refused_server_gets_ratchet :
    (refusedAttempt .default).config.strict = true ∧
      (∃ bundle, (refusedAttempt .default).bundle trusting .socks5Tunnel = .ok bundle ∧
        ¬ (refusedAttempt .default).ShouldProceed bundle) ∧
      (∃ ratchet, (DesktopPath.socks5Tunnel.performHandshake trusting (refusedAttempt .default)).1 = .ok ratchet) ∧
      (∃ ratchet, (DesktopPath.dnsProxy.performHandshake trusting (refusedAttempt .default)).1 = .ok ratchet) := by
  have refused : ∀ path bundle, (refusedAttempt .default).bundle trusting path = .ok bundle →
      ¬ (refusedAttempt .default).ShouldProceed bundle := by
    intro path bundle received
    cases (refusedAttempt_bundle .default path).symm.trans received
    exact not_shouldProceed_refusedBundle
  have opened : ∀ path, (∃ bundle, (refusedAttempt .default).bundle trusting path = .ok bundle) := fun path =>
    ⟨refusedBundle, refusedAttempt_bundle .default path⟩
  refine ⟨rfl, ⟨refusedBundle, refusedAttempt_bundle .default _, not_shouldProceed_refusedBundle⟩, ?_, ?_⟩
  · exact (DesktopPath.performHandshake_refused _ _ (refused _)).mpr ⟨opened _, nofun⟩
  · exact (DesktopPath.performHandshake_refused _ _ (refused _)).mpr ⟨opened _, nofun⟩

end Rvpn.Client
