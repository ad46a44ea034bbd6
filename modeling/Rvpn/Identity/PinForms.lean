import Rvpn.Identity.Pin

/-! The forms of a pin that `parse_pin` reads, and what may stand between their characters. -/

namespace Rvpn.Identity

open Crypto (PublicKey)
open TextCodec (base32Alphabet base32Decode base32Encode hexAlphabet hexDecode hexEncode hexValue)

theorem hexAlphabet_plain : ∀ c ∈ hexAlphabet,
    isWhitespace c = false ∧ isAsciiWhitespace c = false ∧ c ≠ ':' ∧ c ≠ 'i' ∧ c.utf8Size = 1 := by
  have all : hexAlphabet.all (fun c => !isWhitespace c && (!isAsciiWhitespace c && (c != ':' && (c != 'i' &&
    c.utf8Size == 1)))) = true := by decide +kernel
  simpa using all

theorem mem_hexAlphabet (bytes : Bytes) : ∀ c ∈ hexEncode bytes, c ∈ hexAlphabet := by
  have digit : ∀ n, hexAlphabet.getD n '0' ∈ hexAlphabet := fun n => by
    rw [List.getD_eq_getElem?_getD]
    cases found : hexAlphabet[n]? with
    | some symbol => exact List.mem_of_getElem? found
    | none => decide
  intro c written
  obtain ⟨byte, -, among⟩ := List.mem_flatMap.mp written
  simp only [List.mem_cons, List.not_mem_nil, or_false] at among
  rcases among with rfl | rfl <;> exact digit _

theorem utf8ByteSize_hex {digits : List Char} (inside : ∀ c ∈ digits, c ∈ hexAlphabet) :
    (String.ofList digits).utf8ByteSize = digits.length := by
  induction digits with
  | nil => rfl
  | cons c rest ih =>
    rw [List.forall_mem_cons] at inside
    rw [String.ofList_cons, String.utf8ByteSize_append, String.utf8ByteSize_singleton, ih inside.2,
      (hexAlphabet_plain c inside.1).2.2.2.2, Nat.add_comm, List.length_cons]

theorem parsePin_hexEncode (bytes : Bytes) :
    parsePin (String.ofList (hexEncode bytes)) = parseHex (hexEncode bytes) := by
  have plain := fun c member => hexAlphabet_plain c (mem_hexAlphabet bytes c member)
  have untagged : pinTag.isPrefixOf (hexEncode bytes) = false := by
    cases digits : hexEncode bytes with
    | nil => rfl
    | cons c rest =>
      have other := (plain c (digits ▸ .head _)).2.2.2.1
      simp [pinTag, List.isPrefixOf, Ne.symm other]
  have kept : ((hexEncode bytes).filter fun c => !isAsciiWhitespace c && c != ':') = hexEncode bytes :=
    List.filter_eq_self.mpr fun c member => by simp [(plain c member).2.1, (plain c member).2.2.1]
  rw [parsePin, String.toList_ofList, trim_eq_self fun c member => (plain c member).1]
  simp [untagged, kept]

theorem length_hexEncode (bytes : Bytes) : (hexEncode bytes).length = 2 * bytes.length := by
  simp [hexEncode, Nat.mul_comm]

theorem parsePin_hex (hash : Digest) : parsePin (String.ofList (hexEncode hash.toList)) = .ok ⟨pinVersion, hash⟩ := by
  have size := utf8ByteSize_hex (mem_hexAlphabet hash.toList)
  rw [length_hexEncode, hash.length_toList] at size
  rw [parsePin_hexEncode, parseHex, size]
  simp [TextCodec.hexDecode_hexEncode, digestOf_toList]

theorem parsePin_legacy (bytes : Bytes) (sized : bytes.length = 16) :
    ∃ hash, parsePin (String.ofList (hexEncode bytes)) = .ok ⟨0, hash⟩ ∧ hash.toList.take 16 = bytes := by
  have size := utf8ByteSize_hex (mem_hexAlphabet bytes)
  rw [length_hexEncode, sized] at size
  have whole : (bytes ++ List.replicate 16 0).length = 32 := by simp [sized]
  refine ⟨⟨(bytes ++ List.replicate 16 0).toArray, by simpa using whole⟩, ?_, ?_⟩
  · rw [parsePin_hexEncode, parseHex, size]
    simp [TextCodec.hexDecode_hexEncode, digestOf, sized]
  · simp [← sized]

/-- The canonical pin, and the digest in hexadecimal, match a key exactly if its digest is the same; the canonical pin
is read back in any case of its letters; and the legacy pin matches a key exactly if it has the same first 16 bytes.
-/
theorem pins_match_encodings (sha256 : Bytes → Digest) (key other : PublicKey) :
    (pinsMatch sha256 (encodeIdentityPin sha256 key) other = .ok true ↔ sha256 key.toList = sha256 other.toList) ∧
      (∀ body, Recased ((base32Encode (sha256 key.toList).toList).map Char.toLower) body →
        ∃ pin, parsePin (String.ofList (pinTag ++ "1:".toList ++ body)) = .ok pin ∧ pin.version = 1 ∧
          pin.hash = sha256 key.toList ∧ pin.toCanonical = encodeIdentityPin sha256 key) ∧
      (pinsMatch sha256 (String.ofList (hexEncode (sha256 key.toList).toList)) other = .ok true ↔
        sha256 key.toList = sha256 other.toList) ∧
      (pinsMatch sha256 (String.ofList (hexEncode (key.toList.take 16))) other = .ok true ↔
        key.toList.take 16 = other.toList.take 16) := by
  refine ⟨?_, fun body recased => ⟨_, parsePin_recased _ recased, rfl, rfl, rfl⟩, ?_, ?_⟩
  · simp [encodeIdentityPin, pinsMatch_of_parsePin sha256 (parsePin_canonicalText _)]
  · simp [pinsMatch_of_parsePin sha256 (parsePin_hex _)]
  · obtain ⟨hash, parsed, first⟩ := parsePin_legacy (key.toList.take 16) (by simp)
    simp [pinsMatch, parsed, first]

end Rvpn.Identity
