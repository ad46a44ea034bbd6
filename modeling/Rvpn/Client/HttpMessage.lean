import Rvpn.Client.HttpProxy

/-! Requests as RFC 7230 frames them: what a client of the HTTP proxy sends. -/

namespace Rvpn.Client

open SplitTunnel (Text lowercase trim)

def crlf : Bytes := [13, 10]

/-- The characters that a token consists of: digits, letters of both cases, and some signs. -/
def tokenBytes : List UInt8 :=
  [48, 49, 50, 51, 52, 53, 54, 55, 56, 57,
    65, 66, 67, 68, 69, 70, 71, 72, 73, 74, 75, 76, 77, 78, 79, 80, 81, 82, 83, 84, 85, 86, 87, 88, 89, 90,
    97, 98, 99, 100, 101, 102, 103, 104, 105, 106, 107, 108, 109, 110, 111, 112, 113, 114, 115, 116, 117, 118, 119,
    120, 121, 122, 33, 35, 36, 37, 38, 39, 42, 43, 45, 46, 94, 95, 96, 124, 126]

def OnLine (bytes : Bytes) : Prop := 13 ∉ bytes ∧ 10 ∉ bytes

instance (bytes : Bytes) : Decidable (OnLine bytes) := inferInstanceAs (Decidable (_ ∧ _))

structure HeaderField where
  name : Bytes
  value : Bytes
  named : name ≠ []
  token : ∀ byte ∈ name, byte ∈ tokenBytes
  onLine : OnLine value

def HeaderField.line (field : HeaderField) : Bytes := field.name ++ 58 :: field.value

def HeaderField.isNamed (name : String) (field : HeaderField) : Bool :=
  lowercase (field.name.map asciiChar) = name.toList

def decimalValue (digits : Bytes) : Nat := digits.foldl (fun value digit => value * 10 + (digit.toNat - 48)) 0

def SaysLength (value : Bytes) (length : Nat) : Prop :=
  ∃ before digits after, value = before ++ digits ++ after ∧ (∀ byte ∈ before ++ after, byte = 32 ∨ byte = 9) ∧
    digits ≠ [] ∧ (∀ digit ∈ digits, 48 ≤ digit.toNat ∧ digit.toNat ≤ 57) ∧ decimalValue digits = length

def hexDigit? (byte : UInt8) : Option Nat :=
  if 48 ≤ byte ∧ byte ≤ 57 then some (byte.toNat - 48)
  else if 65 ≤ byte ∧ byte ≤ 70 then some (byte.toNat - 55)
  else if 97 ≤ byte ∧ byte ≤ 102 then some (byte.toNat - 87)
  else none

def hexValue (digits : Bytes) : Option Nat :=
  if digits = [] then none
  else digits.foldlM (fun value digit => (hexDigit? digit).map fun units => value * 16 + units) 0

structure Chunk where
  size : Bytes
  extension : Bytes := []
  content : Bytes
  some : content ≠ []
  sized : hexValue size = .some content.length
  onLine : OnLine extension

inductive RequestBody where
  | absent
  | sized (content : Bytes)
  | chunked (chunks : List Chunk) (trailers : List HeaderField)

namespace RequestBody

def wire : RequestBody → Bytes
  | .absent => []
  | .sized content => content
  | .chunked chunks trailers =>
    chunks.flatMap (fun chunk => chunk.size ++ chunk.extension ++ crlf ++ chunk.content ++ crlf) ++
      (48 :: crlf) ++ trailers.flatMap (fun field => field.line ++ crlf) ++ crlf

def finalCoding (value : Bytes) : Text := lowercase (trim (((value.map asciiChar).splitOn ',').getLastD []))

/-- The fields say where the body ends. With a transfer coding, the length does not count. -/
def FramedBy (fields : List HeaderField) : RequestBody → Prop
  | .absent => ∀ field ∈ fields, field.isNamed "transfer-encoding" = false ∧ field.isNamed "content-length" = false
  | .sized content => (∀ field ∈ fields, field.isNamed "transfer-encoding" = false) ∧
      (∃ field ∈ fields, field.isNamed "content-length" = true) ∧
      ∀ field ∈ fields, field.isNamed "content-length" = true → SaysLength field.value content.length
  | .chunked _ _ => ∃ field, (fields.filter (·.isNamed "transfer-encoding")).getLast? = some field ∧
      finalCoding field.value = "chunked".toList

def isChunked : RequestBody → Bool
  | .chunked _ _ => true
  | _ => false

end RequestBody

structure ClientRequest where
  method : Bytes
  target : Bytes
  fields : List HeaderField
  body : RequestBody
  token : method ≠ [] ∧ ∀ byte ∈ method, byte ∈ tokenBytes
  plain : lowercase (method.map asciiChar) ≠ "connect".toList
  onLine : OnLine target ∧ 32 ∉ target
  framed : body.FramedBy fields

namespace ClientRequest

/-- With the version, `HTTP/1.1`. -/
def requestLine (request : ClientRequest) : Bytes :=
  request.method ++ 32 :: (request.target ++ 32 :: [72, 84, 84, 80, 47, 49, 46, 49])

def headerLines (fields : List HeaderField) : Bytes := fields.flatMap fun field => field.line ++ crlf

def wire (request : ClientRequest) : Bytes :=
  request.requestLine ++ crlf ++ (headerLines request.fields ++ crlf ++ request.body.wire)

end ClientRequest

theorem token_facts : ∀ byte ∈ tokenBytes, byte < 128 ∧ byte ≠ 13 ∧ byte ≠ 10 ∧ byte ≠ 32 := by
  decide +kernel

theorem onLine_of_token (token : ∀ byte ∈ bytes, byte ∈ tokenBytes) : OnLine bytes :=
  ⟨fun listed => (token_facts 13 (token 13 listed)).2.1 rfl, fun listed => (token_facts 10 (token 10 listed)).2.2.1 rfl⟩

theorem HeaderField.line_onLine (field : HeaderField) : OnLine field.line := by
  have name := onLine_of_token field.token
  have value := field.onLine
  simp [OnLine, line, name.1, name.2, value.1, value.2]

namespace ClientRequest

theorem length_le_headerLines (fields : List HeaderField) : fields.length ≤ (headerLines fields).length := by
  induction fields with
  | nil => exact Nat.le_refl _
  | cons field others ih =>
    rw [headerLines, List.flatMap_cons, List.length_append, List.length_append, List.length_cons]
    rw [headerLines] at ih
    have ended : crlf.length = 2 := rfl
    omega

theorem requestLine_onLine (request : ClientRequest) : OnLine request.requestLine := by
  have method := onLine_of_token request.token.2
  have target := request.onLine.1
  simp [OnLine, requestLine, method.1, method.2, target.1, target.2]

end ClientRequest

end Rvpn.Client
