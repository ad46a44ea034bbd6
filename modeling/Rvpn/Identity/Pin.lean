import Mathlib.Data.List.Forall2
import Rvpn.Crypto.Primitives
import Rvpn.Lib.TextCodec

/-! Server identity pins. SHA-256 is a parameter; the texts of the decoding libraries are left out of the messages.
-/

namespace Rvpn.Identity

open Crypto (PublicKey)

abbrev Digest := Vector UInt8 32

/-- `Error::InvalidKey`. -/
structure PinError where
  message : String
  deriving DecidableEq, Repr

def pinTag : List Char := "ik:".toList
def pinVersion : Nat := 1

structure ParsedPin where
  version : Nat
  hash : Digest
  deriving DecidableEq

/-- `BASE32_NOPAD.encode(hash).to_lowercase()` behind the tag and the version. -/
def canonicalText (hash : Digest) : String :=
  String.ofList (pinTag ++ "1:".toList ++ (TextCodec.base32Encode hash.toList).map Char.toLower)

def ParsedPin.toCanonical (pin : ParsedPin) : String := canonicalText pin.hash

variable (sha256 : Bytes → Digest)

/-- `encode_identity_pin` on a whole key, which cannot fail. -/
def encodeIdentityPin (identityKey : PublicKey) : String := canonicalText (sha256 identityKey.toList)

/-- Unicode `White_Space`, which `str::trim` removes. -/
def isWhitespace (c : Char) : Bool :=
  let n := c.toNat
  (9 ≤ n && n ≤ 13) || n == 0x20 || n == 0x85 || n == 0xA0 || n == 0x1680 ||
    (0x2000 ≤ n && n ≤ 0x200A) || n == 0x2028 || n == 0x2029 || n == 0x202F || n == 0x205F || n == 0x3000

/-- `char::is_ascii_whitespace`: unlike `isWhitespace` it leaves out the vertical tab. -/
def isAsciiWhitespace (c : Char) : Bool :=
  c == ' ' || c == '\t' || c == '\n' || c.toNat == 12 || c == '\r'

def trim (text : List Char) : List Char :=
  ((text.dropWhile isWhitespace).reverse.dropWhile isWhitespace).reverse

/-- `str::to_uppercase` as far as base32 can tell: the characters outside ASCII whose
upper case is ASCII are listed, and the others stay outside the alphabet. -/
def toUppercase (c : Char) : List Char :=
  match c.toNat with
  | 0x131 => ['I']
  | 0x17F => ['S']
  | 0xDF => ['S', 'S']
  | 0xFB00 => ['F', 'F']
  | 0xFB01 => ['F', 'I']
  | 0xFB02 => ['F', 'L']
  | 0xFB03 => ['F', 'F', 'I']
  | 0xFB04 => ['F', 'F', 'L']
  | 0xFB05 | 0xFB06 => ['S', 'T']
  | _ => [c.toUpper]

/-- `str::parse::<u8>`: an optional plus sign, at least one digit, at most 255. -/
def parseU8 (text : List Char) : Option Nat :=
  let digits := match text with
    | '+' :: rest => rest
    | _ => text
  if digits = [] ∨ digits.any (fun c => !c.isDigit) then none
  else
    let value := digits.foldl (fun n c => 10 * n + (c.toNat - '0'.toNat)) 0
    if value ≤ 255 then some value else none

def digestOf (bytes : Bytes) : Option Digest :=
  if sized : bytes.length = 32 then some ⟨bytes.toArray, by simpa using sized⟩ else none

/-- `splitn(2, ':')`: what stands before the first colon, and after it if there is one. -/
def splitColon (text : List Char) : List Char × Option (List Char) :=
  (text.takeWhile (· != ':'), (text.dropWhile (· != ':')).tail?)

/-- What follows `ik:`. -/
def parseCanonical (rest : List Char) : Except PinError ParsedPin :=
  match splitColon rest with
  | (_, none) => .error ⟨"pin missing body"⟩
  | (versionText, some body) =>
    match parseU8 versionText with
    | none => .error ⟨"invalid pin version " ++ (String.ofList versionText).quote⟩
    | some version =>
      if version ≠ pinVersion then
        .error ⟨s!"unknown pin version {version}, only {pinVersion} understood"⟩
      else
        match TextCodec.base32Decode ((trim body).flatMap toUppercase) with
        | none => .error ⟨"pin body is not base32"⟩
        | some bytes =>
          match digestOf bytes with
          | none =>
            let size := bytes.length
            .error ⟨s!"pin body decoded to {size} bytes, expected 32"⟩
          | some hash => .ok ⟨version, hash⟩

/-- The hexadecimal forms, without their separators: a whole digest, or the first 16
bytes of the key itself, which is reported as version 0. -/
def parseHex (digits : List Char) : Except PinError ParsedPin :=
  match (String.ofList digits).utf8ByteSize with
  | 64 =>
    match (TextCodec.hexDecode digits).bind digestOf with
    | some hash => .ok ⟨pinVersion, hash⟩
    | none => .error ⟨"pin hex decode"⟩
  | 32 =>
    match (TextCodec.hexDecode digits).bind fun bytes => digestOf (bytes ++ List.replicate 16 0) with
    | some hash => .ok ⟨0, hash⟩
    | none => .error ⟨"legacy pin hex decode"⟩
  | size => .error ⟨s!"pin has unexpected length {size} (want 32 or 64 hex chars, or ik:1:...)"⟩

def parsePin (input : String) : Except PinError ParsedPin :=
  let trimmed := trim input.toList
  if pinTag.isPrefixOf trimmed then parseCanonical (trimmed.drop pinTag.length)
  else parseHex (trimmed.filter fun c => !isAsciiWhitespace c && c != ':')

/-- `pins_match`: a pin of version 0 is compared with the key, the others with its digest. -/
def pinsMatch (stored : String) (actualIdentityKey : PublicKey) : Except PinError Bool :=
  match parsePin stored with
  | .error failure => .error failure
  | .ok pin =>
    if pin.version = 0 then .ok (pin.hash.toList.take 16 == actualIdentityKey.toList.take 16)
    else .ok (pin.hash == sha256 actualIdentityKey.toList)

/-- The letters in any case. -/
def Recased (text other : List Char) : Prop := List.Forall₂ (fun c letter => letter ∈ [c, c.toUpper]) text other

section roundTrip

open TextCodec (base32Alphabet base32Encode)

theorem recased_alphabet : ∀ c ∈ base32Alphabet, ∀ letter ∈ [c.toLower, c.toLower.toUpper],
    isWhitespace letter = false ∧ toUppercase letter = [c] := by
  have all : base32Alphabet.all (fun c => [c.toLower, c.toLower.toUpper].all fun letter =>
    !isWhitespace letter && toUppercase letter == [c]) = true := by decide +kernel
  simpa only [List.all_eq_true, Bool.and_eq_true, Bool.not_eq_true', beq_iff_eq] using all

theorem mem_base32Alphabet (bytes : Bytes) : ∀ c ∈ base32Encode bytes, c ∈ base32Alphabet := by
  intro c written
  obtain ⟨piece, -, rfl⟩ := List.mem_map.mp written
  rw [List.getD_eq_getElem?_getD]
  cases found : base32Alphabet[TextCodec.ofBits piece]? with
  | some symbol => exact List.mem_of_getElem? found
  | none => decide

theorem trim_eq_self (solid : ∀ c ∈ text, isWhitespace c = false) : trim text = text := by
  have kept : ∀ {other : List Char}, (∀ c ∈ other, isWhitespace c = false) → other.dropWhile isWhitespace = other := by
    intro other solid
    cases other with
    | nil => rfl
    | cons c rest => rw [List.dropWhile_cons, solid c List.mem_cons_self, if_neg Bool.false_ne_true]
  rw [trim, kept solid, kept fun c listed => solid c (List.mem_reverse.mp listed), List.reverse_reverse]

theorem uppercase_recased {symbols body : List Char} (inside : ∀ c ∈ symbols, c ∈ base32Alphabet)
    (recased : Recased (symbols.map Char.toLower) body) :
    (∀ c ∈ body, isWhitespace c = false) ∧ body.flatMap toUppercase = symbols := by
  induction symbols generalizing body with
  | nil =>
    cases recased
    simp
  | cons c symbols ih =>
    rw [List.forall_mem_cons] at inside
    obtain _ | ⟨cased, later⟩ := recased
    obtain ⟨solid, upper⟩ := recased_alphabet c inside.1 _ cased
    obtain ⟨others, rest⟩ := ih inside.2 later
    rw [List.forall_mem_cons, List.flatMap_cons, upper, rest]
    exact ⟨⟨solid, others⟩, rfl⟩

theorem digestOf_toList (hash : Digest) : digestOf hash.toList = some hash := by
  rw [digestOf, dif_pos hash.length_toList]
  rfl

theorem parsePin_recased (hash : Digest) {body : List Char}
    (recased : Recased ((base32Encode hash.toList).map Char.toLower) body) :
    parsePin (String.ofList (pinTag ++ "1:".toList ++ body)) = .ok ⟨pinVersion, hash⟩ := by
  obtain ⟨solid, upper⟩ := uppercase_recased (mem_base32Alphabet hash.toList) recased
  have whole : ∀ c ∈ 'i' :: 'k' :: ':' :: '1' :: ':' :: body, isWhitespace c = false := by
    simp only [List.forall_mem_cons]
    exact ⟨rfl, rfl, rfl, rfl, rfl, solid⟩
  have versioned : parseCanonical ('1' :: ':' :: body) = .ok ⟨pinVersion, hash⟩ := by
    have split : splitColon ('1' :: ':' :: body) = (['1'], some body) := rfl
    have version : parseU8 ['1'] = some pinVersion := by decide
    simp only [parseCanonical, split, version, trim_eq_self solid, upper, TextCodec.base32Decode_encode,
      digestOf_toList, ne_eq, not_true_eq_false, if_false]
  have text : pinTag ++ "1:".toList ++ body = 'i' :: 'k' :: ':' :: '1' :: ':' :: body := rfl
  rw [parsePin, String.toList_ofList, text, trim_eq_self whole]
  exact versioned

theorem parsePin_canonicalText (hash : Digest) : parsePin (canonicalText hash) = .ok ⟨pinVersion, hash⟩ :=
  parsePin_recased hash (List.forall₂_same.mpr fun _ _ => .head _)

theorem canonicalText_inj {hash other : Digest} : canonicalText hash = canonicalText other ↔ hash = other := by
  refine ⟨fun same => ?_, congrArg canonicalText⟩
  have read := parsePin_canonicalText hash
  rw [same, parsePin_canonicalText other] at read
  injection read with pins
  injection pins with _ digests
  exact digests.symm

theorem pinsMatch_of_parsePin {stored : String} {hash : Digest} (parsed : parsePin stored = .ok ⟨pinVersion, hash⟩)
    (identityKey : PublicKey) : pinsMatch sha256 stored identityKey = .ok (hash == sha256 identityKey.toList) := by
  simp [pinsMatch, parsed, pinVersion]

end roundTrip

end Rvpn.Identity
