import Rvpn.Client.ProxyRouting
import Rvpn.Lib.BufferedReader

/-! `handle_connection` of `http_proxy.rs`; the state is the connection between two requests. -/

namespace Rvpn.Client

open BufferedReader
open SplitTunnel (ErrorChain Text lowercase trim trimEnd)

structure AuthConfig where
  username : Text
  password : Text

def asciiChar (byte : UInt8) : Char := Char.ofNat byte.toNat

theorem toNat_asciiChar (byte : UInt8) : (asciiChar byte).toNat = byte.toNat := by
  have valid : byte.toNat.isValidChar := .inl (by have small := byte.toNat_lt; omega)
  rw [asciiChar, Char.ofNat, dif_pos valid]
  rfl

theorem asciiChar_inj (same : asciiChar byte = asciiChar other) : byte = other := by
  apply UInt8.toNat_inj.mp
  rw [← toNat_asciiChar byte, ← toNat_asciiChar other, same]

/-- The libraries' text functions, with what the proxy relies on: ASCII characters are single bytes, and are turned to
lower case whatever stands behind them. -/
structure TextLibrary where
  /-- `str::from_utf8`. -/
  fromUtf8 : Bytes → Option Text
  toLowercase : Text → Text
  decodeBase64 : Text → Option Bytes
  fromUtf8_nil : fromUtf8 [] = some []
  fromUtf8_split : ∀ before byte after text, byte < 128 → fromUtf8 (before ++ byte :: after) = some text →
    ∃ first second, fromUtf8 before = some first ∧ fromUtf8 after = some second ∧
      text = first ++ asciiChar byte :: second
  ascii_of_fromUtf8 : ∀ bytes text, fromUtf8 bytes = some text → ∀ byte < 128, asciiChar byte ∈ text → byte ∈ bytes
  toLowercase_start : ∀ first second, (∀ c ∈ first, c.toNat < 128) →
    ∃ rest, toLowercase (first ++ second) = lowercase first ++ rest

structure HttpSettings extends TextLibrary where
  auth : Option AuthConfig

/-- The capacity of a `BufReader`. -/
def bufferCapacity : Nat := 8192

def trimLineEnd (line : Text) : Text := trimEnd (fun c => c = '\r' || c = '\n') line

structure RequestHead where
  method : Text
  uri : Text
  version : Text
  headers : List Text := []
  contentLength : Nat := 0
  proxyAuth : Text := []
  hostFromHeader : Text := []
  keepAlive : Bool := true
  deriving DecidableEq

inductive LineRead where
  | ended
  | failed
  | line (text : Text) (after : Reader UInt8)

inductive HeadRead where
  | closed (ending : Except ErrorChain Unit)
  | head (head : RequestHead) (after : Reader UInt8)

/-- What a request on the connection turns out to be, with the reader as it is when the request is complete. -/
inductive Turn where
  | closed (ending : Except ErrorChain Unit)
  | connect (target : Text) (after : Reader UInt8)
  | forward (head : RequestHead) (target : ServerAddr) (path : Text) (body : Bytes) (after : Reader UInt8)

def startsWith (start text : Text) : Bool := start.isPrefixOf text

def containsText (part text : Text) : Bool := text.tails.any fun tail => part.isPrefixOf tail

namespace HttpSettings

variable (settings : HttpSettings)

def readLine (reader : Reader UInt8) : LineRead :=
  let (bytes, after) := reader.readUntil bufferCapacity (· = 10)
  if bytes.isEmpty then .ended
  else
    match settings.fromUtf8 bytes with
    | none => .failed
    | some text => .line text after

def headerValue (name line : Text) : Option Text :=
  if startsWith (name ++ [':']) (settings.toLowercase line) then (splitOnce ':' line).map fun (_, value) => trim value
  else none

def addHeader (head : RequestHead) (line : Text) : RequestHead where
  method := head.method
  uri := head.uri
  version := head.version
  headers := head.headers ++ [line]
  contentLength :=
    match settings.headerValue "content-length".toList line with
    | some value => (parseUnsigned 64 value).getD 0
    | none => head.contentLength
  proxyAuth := (settings.headerValue "proxy-authorization".toList line).getD head.proxyAuth
  hostFromHeader := (settings.headerValue "host".toList line).getD head.hostFromHeader
  keepAlive :=
    if startsWith "proxy-connection:".toList (settings.toLowercase line) then
      containsText "keep-alive".toList (settings.toLowercase line)
    else head.keepAlive

def readHeaders : Nat → RequestHead → Reader UInt8 → HeadRead
  | 0, _, _ => .closed (.ok ())
  | rounds + 1, head, reader =>
    match settings.readLine reader with
    | .ended => .closed (.ok ())
    | .failed => .closed (.error ["stream did not contain valid UTF-8"])
    | .line text after =>
      if trimLineEnd text = [] then .head head after
      else readHeaders rounds (settings.addHeader head (trimLineEnd text)) after

/-- `splitn(3, ' ')`, if there are three parts. -/
def splitRequestLine (line : Text) : Option (Text × Text × Text) :=
  match splitOnce ' ' line with
  | none => none
  | some (method, rest) => (splitOnce ' ' rest).map fun (uri, version) => (method, uri, version)

def readHead (reader : Reader UInt8) : HeadRead :=
  match settings.readLine reader with
  | .ended => .closed (.ok ())
  | .failed => .closed (.error ["stream did not contain valid UTF-8"])
  | .line text after =>
    if trimLineEnd text = [] then .closed (.ok ())
    else
      match splitRequestLine (trimLineEnd text) with
      | none => .closed (.error ["Invalid HTTP request line: " ++ String.ofList (trimLineEnd text)])
      | some (method, uri, version) =>
        settings.readHeaders (after.pending.length + 1) { method, uri, version } after

def checkBasicAuth (value : Text) (auth : AuthConfig) : Bool :=
  (((stripStart "Basic ".toList value).bind settings.decodeBase64).bind settings.fromUtf8).any fun text =>
    splitOnce ':' text = some (auth.username, auth.password)

def isConnect (head : RequestHead) : Bool := lowercase head.method = "connect".toList

def readBody (head : RequestHead) (reader : Reader UInt8) : Turn :=
  match forwardTarget head.uri head.hostFromHeader with
  | .error causes => .closed (.error causes)
  | .ok (target, path) =>
    match reader.readExact bufferCapacity head.contentLength with
    | none => .closed (.error ["early eof"])
    | some (body, after) => .forward head target path body after

def readTurn (reader : Reader UInt8) : Turn :=
  match settings.readHead reader with
  | .closed ending => .closed ending
  | .head head after =>
    -- answered by 407
    if settings.auth.any fun auth => !settings.checkBasicAuth head.proxyAuth auth then .closed (.ok ())
    else if isConnect head then .connect (connectTarget head.uri) after
    else readBody head after

def buildRequest (method path : Text) (headers : List Text) : Text :=
  let kept := headers.filter fun header =>
    !(startsWith "proxy-connection:".toList (settings.toLowercase header) ||
      startsWith "proxy-authorization:".toList (settings.toLowercase header))
  method ++ [' '] ++ path ++ " HTTP/1.1\r\n".toList ++ kept.flatMap (· ++ "\r\n".toList) ++
    (if headers.any fun header => startsWith "connection:".toList (settings.toLowercase header) then []
      else "Connection: keep-alive\r\n".toList) ++ "\r\n".toList

end HttpSettings

structure Forwarded where
  head : RequestHead
  target : ServerAddr
  path : Text
  body : Bytes
  deriving DecidableEq

def Forwarded.wire (settings : HttpSettings) (forwarded : Forwarded) : Bytes :=
  (settings.buildRequest forwarded.head.method forwarded.path forwarded.head.headers).utf8 ++ forwarded.body

inductive ForwardOutcome where
  | relayed
  | blocked
  | failed (sent : Bool) (causes : ErrorChain)
  deriving DecidableEq

inductive ConnectionPhase where
  | serving (first : Bool)
  | relaying (target : Text)
  | closed (ending : Except ErrorChain Unit)
  deriving DecidableEq

def ConnectionPhase.isClosed : ConnectionPhase → Bool
  | .closed _ => true
  | _ => false

structure HttpConnection where
  source : Source UInt8
  phase : ConnectionPhase := .serving true
  taken : Nat := 0
  forwarded : List Forwarded := []

inductive HttpAction where
  | timeout
  | serve (outcome : ForwardOutcome)
  deriving DecidableEq

namespace ForwardOutcome

def wasSent : ForwardOutcome → Bool
  | .relayed => true
  | .blocked => false
  | .failed sent _ => sent

/-- `should_close` apart, a connection goes on if the client wants it to. -/
def phase (keepAlive : Bool) : ForwardOutcome → ConnectionPhase
  | .relayed => if keepAlive then .serving false else .closed (.ok ())
  | .blocked => .closed (.ok ())
  | .failed _ causes => .closed (.error causes)

end ForwardOutcome

namespace HttpConnection

variable (settings : HttpSettings)

/-- The socket is taken out of the reader, and what is in the reader's buffer goes with it. -/
def handBack (state : HttpConnection) (after : Reader UInt8) (phase : ConnectionPhase) : HttpConnection :=
  { state with
    source := after.source
    phase
    taken := state.taken + (state.source.symbols.length - after.pending.length) }

def serve (state : HttpConnection) (outcome : ForwardOutcome) : HttpConnection :=
  match settings.readTurn (.new state.source) with
  | .closed ending => { state with phase := .closed ending }
  | .connect target after => state.handBack after (.relaying target)
  | .forward head target path body after =>
    { state.handBack after (outcome.phase head.keepAlive) with
      forwarded := if outcome.wasSent then state.forwarded ++ [⟨head, target, path, body⟩] else state.forwarded }

def step (state : HttpConnection) : HttpAction → Option HttpConnection
  | .timeout =>
    if state.phase = .serving true then
      some { state with phase := .closed (.error ["HTTP proxy: timed out waiting for first request (30s)"]) }
    else none
  | .serve outcome =>
    match state.phase with
    | .serving _ => some (serve settings state outcome)
    | _ => none

def start (stream : Bytes) (cuts : List Nat) : HttpConnection := { source := ⟨stream, cuts⟩ }

/-- The next request begins where the last one ended; and a target gets all that follows a CONNECT request. -/
def NothingLost (stream : Bytes) (state : HttpConnection) : Prop :=
  match state.phase with
  | .closed _ => True
  | _ => state.source.symbols = stream.drop state.taken

/-- What the last read found beyond the end of the request, if the connection goes on after it. -/
def readBeyond (state : HttpConnection) : HttpAction → Bytes
  | .timeout => []
  | .serve outcome =>
    match settings.readTurn (.new state.source) with
    | .closed _ => []
    | .connect _ after => after.buffer
    | .forward head _ _ _ after => if (outcome.phase head.keepAlive).isClosed then [] else after.buffer

def EndsWithRead (state : HttpConnection) (action : HttpAction) : Prop := readBeyond settings state action = []

instance (state : HttpConnection) (action : HttpAction) : Decidable (EndsWithRead settings state action) :=
  inferInstanceAs (Decidable (_ = _))

end HttpConnection

section readers

variable {settings : HttpSettings} {reader after : Reader UInt8}

theorem readLine_leaves (read : settings.readLine reader = .line text after) :
    after.pending <:+ reader.pending := by
  unfold HttpSettings.readLine at read
  dsimp only at read
  split at read
  · cases read
  · split at read
    · cases read
    · cases read
      rw [(Reader.readUntil_spec (by decide)).2]
      exact List.drop_suffix _ _

theorem readHeaders_leaves (read : settings.readHeaders rounds head reader = .head found after) :
    after.pending <:+ reader.pending := by
  induction rounds generalizing head reader with
  | zero => cases read
  | succ rounds ih =>
    rw [HttpSettings.readHeaders] at read
    split at read
    · cases read
    · cases read
    · rename_i text next line
      split at read
      · cases read
        exact readLine_leaves line
      · exact (ih read).trans (readLine_leaves line)

theorem readHead_leaves (read : settings.readHead reader = .head head after) :
    after.pending <:+ reader.pending := by
  unfold HttpSettings.readHead at read
  split at read
  · cases read
  · cases read
  · rename_i text next line
    split at read
    · cases read
    · split at read
      · cases read
      · exact (readHeaders_leaves read).trans (readLine_leaves line)

theorem readBody_leaves (read : HttpSettings.readBody head reader = .forward found target path body after) :
    found = head ∧ after.pending <:+ reader.pending := by
  unfold HttpSettings.readBody at read
  split at read
  · cases read
  · split at read
    · cases read
    · rename_i content next exactly
      cases read
      refine ⟨rfl, ?_⟩
      have takes := reader.readExact_spec (by decide : 0 < bufferCapacity) head.contentLength
      rw [exactly, Reader.TakesExactly] at takes
      split at takes
      · obtain ⟨other, same, left⟩ := takes
        cases same
        rw [left]
        exact List.drop_suffix _ _
      · cases takes

theorem readTurn_leaves :
    (∀ target, settings.readTurn reader = .connect target after → after.pending <:+ reader.pending) ∧
      ∀ head target path body, settings.readTurn reader = .forward head target path body after →
        after.pending <:+ reader.pending := by
  unfold HttpSettings.readTurn
  split
  · exact ⟨fun target read => (by cases read), fun head target path body read => (by cases read)⟩
  · rename_i head next begun
    have leaves := readHead_leaves begun
    split
    · exact ⟨fun target read => (by cases read), fun head target path body read => (by cases read)⟩
    · split
      · refine ⟨?_, fun head target path body read => (by cases read)⟩
        rintro target ⟨⟩
        exact leaves
      · refine ⟨?_, fun head target path body read => (readBody_leaves read).2.trans leaves⟩
        intro target read
        unfold HttpSettings.readBody at read
        split at read
        · cases read
        · split at read <;> cases read

end readers

namespace HttpConnection

variable {settings : HttpSettings} {stream : Bytes} {state next : HttpConnection} {after : Reader UInt8}

theorem handBack_iff (whole : state.source.symbols = stream.drop state.taken)
    (leaves : after.pending <:+ (Reader.new state.source).pending) (phase : ConnectionPhase) :
    (state.handBack after phase).source.symbols = stream.drop (state.handBack after phase).taken ↔
      after.buffer = [] := by
  have rest : after.pending = stream.drop (state.handBack after phase).taken := by
    rw [handBack, ← List.drop_drop, ← whole]
    exact List.suffix_iff_eq_drop.mp leaves
  rw [← rest]
  exact List.self_eq_append_left

theorem nothingLost_serve_iff (whole : state.source.symbols = stream.drop state.taken) :
    NothingLost stream (serve settings state outcome) ↔ EndsWithRead settings state (.serve outcome) := by
  unfold serve EndsWithRead readBeyond
  dsimp only
  split
  · exact iff_of_true trivial rfl
  · rename_i target after turn
    exact handBack_iff whole (readTurn_leaves.1 target turn) _
  · rename_i head target path body after turn
    have onward := handBack_iff whole (readTurn_leaves.2 head target path body turn) (outcome.phase head.keepAlive)
    cases reached : outcome.phase head.keepAlive with
    | closed ending => exact iff_of_true trivial rfl
    | serving first | relaying target =>
      rw [reached] at onward
      exact onward

/-- Throughout the connection each request begins right behind the one before, and the target of a CONNECT request is
left all that follows it, exactly if each request after which the connection goes on ends where a read ended. -/
theorem input_preserved_iff (settings : HttpSettings) (stream : Bytes) (cuts : List Nat) (actions : List HttpAction)
    (final : HttpConnection) (reached : Transition.run (step settings) (start stream cuts) actions = some final) :
    (∀ n middle, Transition.run (step settings) (start stream cuts) (actions.take n) = some middle →
      NothingLost stream middle) ↔
    Transition.Meets (step settings) (EndsWithRead settings) (start stream cuts) actions := by
  have trivially : ∀ state action next, (fun _ : HttpConnection => True) state →
      step settings state action = some next → (fun _ : HttpConnection => True) next := fun _ _ _ _ _ => trivial
  refine Transition.always_iff_meets trivially ?_ trivial rfl reached
  intro state action next _ good taken
  cases action with
  | timeout =>
    obtain ⟨-, rfl⟩ := Transition.of_guard taken
    exact iff_of_true trivial rfl
  | serve outcome =>
    rw [step] at taken
    split at taken
    · rename_i first serving
      cases taken
      rw [NothingLost, serving] at good
      exact nothingLost_serve_iff good
    · cases taken

end HttpConnection

namespace HttpSample

def fromAscii (bytes : Bytes) : Option Text := if bytes.all (· < 128) then some (bytes.map asciiChar) else none

theorem fromAscii_eq_some_iff :
    fromAscii bytes = some text ↔ (∀ byte ∈ bytes, byte < 128) ∧ text = bytes.map asciiChar := by
  rw [fromAscii, Option.ite_none_right_eq_some, Option.some.injEq, List.all_eq_true]
  simp [eq_comm]

def settings : HttpSettings where
  auth := none
  fromUtf8 := fromAscii
  toLowercase := lowercase
  decodeBase64 _ := none
  fromUtf8_nil := rfl
  fromUtf8_split before byte after text ascii read := by
    obtain ⟨small, rfl⟩ := fromAscii_eq_some_iff.mp read
    refine ⟨before.map asciiChar, after.map asciiChar, ?_, ?_, by simp⟩
    · exact fromAscii_eq_some_iff.mpr ⟨fun other listed => small other (by simp [listed]), rfl⟩
    · exact fromAscii_eq_some_iff.mpr ⟨fun other listed => small other (by simp [listed]), rfl⟩
  ascii_of_fromUtf8 bytes text read byte small listed := by
    obtain ⟨-, rfl⟩ := fromAscii_eq_some_iff.mp read
    obtain ⟨other, member, same⟩ := List.mem_map.mp listed
    exact asciiChar_inj same ▸ member
  toLowercase_start first second _ := ⟨lowercase second, List.map_append⟩

def bytesOf (text : String) : Bytes := SplitTunnel.Text.utf8 text.toList

def getRequest : Bytes := bytesOf "GET http://example.com/ HTTP/1.1\r\nHost: example.com\r\n\r\n"

def connectRequest : Bytes := bytesOf "CONNECT example.com:443 HTTP/1.1\r\nHost: example.com:443\r\n\r\n"

def clientHello : Bytes := [0x16, 0x03, 0x01]

def session : Bytes := getRequest ++ connectRequest ++ clientHello

def served : List HttpAction := [.serve .relayed, .serve .relayed]

end HttpSample

namespace HttpConnection

open HttpSample in
theorem separate_reads_preserved :
    ∃ final, Transition.run (step settings) (start session [getRequest.length, connectRequest.length]) served =
        some final ∧ final.phase = .relaying "example.com:443".toList ∧ final.source.symbols = clientHello ∧
      ∀ n middle, Transition.run (step settings) (start session [getRequest.length, connectRequest.length])
        (served.take n) = some middle → NothingLost session middle := by
  refine Transition.exists_of_evaluated (p := fun final => final.phase = .relaying "example.com:443".toList ∧
    final.source.symbols = clientHello) (by decide +kernel) fun final reached facts => ?_
  exact ⟨facts.1, facts.2, (input_preserved_iff settings session _ served final reached).mpr (by decide +kernel)⟩

open HttpSample in
/-- Where one read finds a request and more, that is lost: the first bytes for the target of a CONNECT request, or the
next request. -/
theorem bytes_behind_request_lost :
    (∃ final, Transition.run (step settings) (start (connectRequest ++ clientHello) []) [.serve .relayed] = some final ∧
      final.phase = .relaying "example.com:443".toList ∧ final.source.symbols = [] ∧
      (connectRequest ++ clientHello).drop final.taken = clientHello) ∧
    ∃ final, Transition.run (step settings) (start (getRequest ++ getRequest) []) served = some final ∧
      final.phase = .closed (.ok ()) ∧ final.forwarded.length = 1 := by
  decide +kernel

end HttpConnection

end Rvpn.Client
