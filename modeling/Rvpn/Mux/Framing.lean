import Rvpn.Mux.Protocol

/-! The plaintext of a ratchet message: padding with its length in the last two bytes, and
under it frames one after another. -/

namespace Rvpn.Mux

inductive PaddingError where
  | dataTooShort | invalidPaddingLength
  deriving DecidableEq, Repr

def ofBigEndian (bytes : Bytes) : Nat := bytes.foldl (fun n byte => n * 256 + byte.toNat) 0

def unpadPacket (data : Bytes) : Except PaddingError Bytes :=
  if data.length < 2 then .error .dataTooShort
  else
    let paddingLen := ofBigEndian (data.drop (data.length - 2))
    if data.length - 2 < paddingLen then .error .invalidPaddingLength
    else .ok (data.take (data.length - 2 - paddingLen))

structure MultiplexedFrame where
  flowId : FlowId
  payload : Bytes
  deriving DecidableEq, Repr

/-- The loop of `parse_frames`, which takes at least six bytes a round, and the position it
stops at. -/
def parseFramesFrom (pos : Nat) : Nat → Bytes → List MultiplexedFrame × Nat
  | 0, _ => ([], pos)
  | rounds + 1, data =>
    let payloadLen := ofBigEndian ((data.drop 4).take 2)
    if data.length < 6 ∨ data.length < 6 + payloadLen then ([], pos)
    else
      let frame := ⟨ofBigEndian (data.take 4), (data.drop 6).take payloadLen⟩
      let (frames, consumed) := parseFramesFrom (pos + (6 + payloadLen)) rounds (data.drop (6 + payloadLen))
      (frame :: frames, consumed)

def parseFrames (data : Bytes) : List MultiplexedFrame × Nat := parseFramesFrom 0 data.length data

/-- The frames of a decrypted message as `decrypt_and_parse_frame` finds them; none when it
fails. -/
def framesOf (decrypted : Bytes) : List MultiplexedFrame :=
  match unpadPacket decrypted with
  | .error _ => []
  | .ok plaintext => (parseFrames plaintext).1

end Rvpn.Mux
