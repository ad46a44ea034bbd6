import Rvpn.Client.ServerPool
import Rvpn.Lib.BufferedReader

/-! A port with a decoy site: `pre_read_head`, and the `RewindStream` that replays what it read. -/

namespace Rvpn.Server.Decoy

open BufferedReader
open Client (splitOnce)
open SplitTunnel (Text isWhiteSpace lowercase trim)

def maxHeaderSize : Nat := 16 * 1024

structure RequestHead where
  method : Text
  target : Text
  keepAlive : Bool
  isWebsocketUpgrade : Bool
  headerLen : Nat

def headEnd (buf : Bytes) : Option Nat :=
  (List.range (buf.length - 3)).find? fun start => (buf.drop start).take 4 = [13, 10, 13, 10]

/-- `split("\r\n")`. -/
def splitLines : Text → List Text
  | [] => [[]]
  | '\r' :: '\n' :: rest => [] :: splitLines rest
  | c :: rest =>
    match splitLines rest with
    | [] => [[c]]
    | line :: lines => (c :: line) :: lines

def splitWhitespace (text : Text) : List Text := (text.splitOnP isWhiteSpace).filter (· ≠ [])

/-- The name and the value of a header line; a line without a colon is passed over. -/
def headerField (line : Text) : Option (Text × Text) :=
  (splitOnce ':' line).map fun (name, value) => (lowercase (trim name), trim value)

def parseRequestHead (fromUtf8 : Bytes → Option Text) (buf : Bytes) : Option RequestHead := do
  let stop ← headEnd buf
  let text ← fromUtf8 (buf.take stop)
  let requestLine :: lines := splitLines text | none
  let [method, target, version] := splitWhitespace requestLine | none
  let http11 := lowercase version = "http/1.1".toList
  let http10 := lowercase version = "http/1.0".toList
  if ¬ http11 ∧ ¬ http10 then none
  else
    let fields := lines.filterMap headerField
    let connectionTokens := fields.flatMap fun (name, value) =>
      if name = "connection".toList then value ++ [','] else []
    let upgradeWebsocket := fields.any fun (name, value) =>
      name = "upgrade".toList && lowercase value = "websocket".toList
    let hasWsKey := fields.any fun (name, _) => name = "sec-websocket-key".toList
    let hasToken := fun token : String =>
      (connectionTokens.splitOn ',').any fun part => lowercase (trim part) = token.toList
    return {
      method, target
      keepAlive := if http11 then !hasToken "close" else hasToken "keep-alive"
      isWebsocketUpgrade := upgradeWebsocket && hasToken "upgrade" && hasWsKey
      headerLen := stop + 4 }

inductive HeadVerdict where
  | webSocket (buffered : Bytes)
  | http (buffered : Bytes)
  | drop
  deriving DecidableEq

/-- The loop of `pre_read_head`. So many reads return before one fails or the timeout ends the loop. -/
def readHead (fromUtf8 : Bytes → Option Text) : Nat → Bytes → Source UInt8 → Option RequestHead × Bytes × Source UInt8
  | reads, buf, source =>
    match parseRequestHead fromUtf8 buf with
    | some head => (some head, buf, source)
    | none =>
      if buf.length ≥ maxHeaderSize then (none, buf, source)
      else
        match reads with
        | 0 => (none, buf, source)
        | reads + 1 =>
          let (piece, rest) := source.read 8192
          if piece = [] then (none, buf, rest) else readHead fromUtf8 reads (buf ++ piece) rest

def preReadHead (fromUtf8 : Bytes → Option Text) (reads : Nat) (source : Source UInt8) : HeadVerdict × Source UInt8 :=
  match readHead fromUtf8 reads [] source with
  | (some head, buf, rest) => (if head.isWebsocketUpgrade then .webSocket buf else .http buf, rest)
  | (none, _, rest) => (.drop, rest)

structure RewindStream where
  replayed : Bytes
  position : Nat
  inner : Source UInt8

namespace RewindStream

def new (replayed : Bytes) (inner : Source UInt8) : RewindStream := ⟨replayed, 0, inner⟩

/-- `poll_read` into a buffer with so much space. -/
def pollRead (stream : RewindStream) (space : Nat) : Bytes × RewindStream :=
  if stream.position < stream.replayed.length then
    let data := stream.replayed.drop stream.position
    let n := min data.length space
    (data.take n, { stream with position := stream.position + n })
  else
    let (piece, inner) := stream.inner.read space
    (piece, { stream with inner })

def readAll : RewindStream → List Nat → Bytes × RewindStream
  | stream, [] => ([], stream)
  | stream, space :: spaces =>
    let (piece, next) := stream.pollRead space
    let (rest, last) := next.readAll spaces
    (piece ++ rest, last)

def pending (stream : RewindStream) : Bytes := stream.replayed.drop stream.position ++ stream.inner.symbols

theorem pollRead_append (stream : RewindStream) (space : Nat) :
    (stream.pollRead space).1 ++ (stream.pollRead space).2.pending = stream.pending := by
  unfold pollRead
  split
  · simp only [pending, ← List.drop_drop, ← List.append_assoc, List.take_append_drop]
  · rename_i replayed
    have past : stream.replayed.drop stream.position = [] := List.drop_eq_nil_of_le (Nat.le_of_not_lt replayed)
    simp only [pending, past, List.nil_append]
    exact stream.inner.read_append space

theorem pending_of_pollRead_nil (positive : 0 < space) (nothing : (stream.pollRead space).1 = []) :
    pending stream = [] := by
  unfold pollRead at nothing
  split at nothing
  · rename_i left
    have length := congrArg List.length nothing
    simp only [List.length_take, List.length_drop, List.length_nil] at length
    omega
  · rename_i replayed
    have past : stream.replayed.drop stream.position = [] := List.drop_eq_nil_of_le (Nat.le_of_not_lt replayed)
    rw [pending, past, Source.symbols_of_read_nil positive nothing]
    rfl

theorem readAll_append (stream : RewindStream) (spaces : List Nat) :
    (stream.readAll spaces).1 ++ (stream.readAll spaces).2.pending = stream.pending := by
  induction spaces generalizing stream with
  | nil => rfl
  | cons space spaces ih =>
    simp only [readAll, List.append_assoc]
    rw [ih, pollRead_append]

theorem length_pending_readAll (stream : RewindStream) (spaces : List Nat) :
    (stream.readAll spaces).2.pending.length ≤ stream.pending.length - spaces.countP (0 < ·) := by
  induction spaces generalizing stream with
  | nil => exact Nat.le_refl _
  | cons space spaces ih =>
    have later := ih (stream.pollRead space).2
    have taken := congrArg List.length (stream.pollRead_append space)
    rw [List.length_append] at taken
    simp only [readAll]
    by_cases positive : 0 < space
    · rw [List.countP_cons_of_pos (by simpa using positive)]
      by_cases nothing : (stream.pollRead space).1 = []
      · have ended := congrArg List.length (pending_of_pollRead_nil positive nothing)
        rw [List.length_nil] at ended
        omega
      · have taking := List.length_pos_iff.mpr nothing
        omega
    · rw [List.countP_cons_of_neg (by simpa using positive)]
      omega

end RewindStream

theorem readHead_append (fromUtf8 : Bytes → Option Text) (reads : Nat) (buf : Bytes) (source : Source UInt8) :
    (readHead fromUtf8 reads buf source).2.1 ++ (readHead fromUtf8 reads buf source).2.2.symbols =
      buf ++ source.symbols := by
  fun_induction readHead fromUtf8 reads buf source with
  | case1 | case2 | case3 => rfl
  | case4 buf source _ _ _ rest read =>
    have append := source.read_append 8192
    rw [read] at append
    exact congrArg (buf ++ ·) append
  | case5 buf source _ _ reads piece rest read _ ih =>
    have append := source.read_append 8192
    rw [read] at append
    rw [ih, List.append_assoc, append]

/-- Whatever was read for the head, the handler reads the stream from its first byte: what its reads return stands at the
beginning, and it is everything once there are as many reads into some space as bytes. -/
theorem rewind_replays_stream (fromUtf8 : Bytes → Option Text) (reads : Nat) (source rest : Source UInt8)
    (buffered : Bytes) (upgrade : preReadHead fromUtf8 reads source = (.webSocket buffered, rest)) (spaces : List Nat) :
    (∃ unread, ((RewindStream.new buffered rest).readAll spaces).1 ++ unread = source.symbols) ∧
      (source.symbols.length ≤ spaces.countP (0 < ·) →
        ((RewindStream.new buffered rest).readAll spaces).1 = source.symbols) := by
  have whole : (RewindStream.new buffered rest).pending = source.symbols := by
    have kept := readHead_append fromUtf8 reads [] source
    unfold preReadHead at upgrade
    split at upgrade
    · rename_i head buf left outcome
      rw [outcome] at kept
      obtain ⟨verdict, rfl⟩ := Prod.mk.inj upgrade
      split at verdict
      · cases verdict
        exact kept
      · cases verdict
    · cases upgrade
  have append := (RewindStream.new buffered rest).readAll_append spaces
  have length := (RewindStream.new buffered rest).length_pending_readAll spaces
  rw [whole] at append length
  refine ⟨⟨_, append⟩, fun enough => ?_⟩
  have ended : ((RewindStream.new buffered rest).readAll spaces).2.pending = [] :=
    List.eq_nil_of_length_eq_zero (by omega)
  rwa [ended, List.append_nil] at append

namespace Sample

def upgrade : Bytes :=
  ("GET /ws HTTP/1.1\r\nUpgrade: websocket\r\nConnection: Upgrade\r\nSec-WebSocket-Key: a\r\n\r\n".toList.map
    fun c => c.toNat.toUInt8)

def source : Source UInt8 := ⟨upgrade ++ [0x82, 0x81, 0x00], [40, 45]⟩

def ascii (bytes : Bytes) : Option Text := some (bytes.map fun byte => Char.ofNat byte.toNat)

end Sample

theorem upgrade_replayed :
    ∃ buffered rest, preReadHead Sample.ascii 3 Sample.source = (.webSocket buffered, rest) ∧
      ((RewindStream.new buffered rest).readAll (List.replicate 90 7)).1 = Sample.source.symbols := by
  have verdict : (preReadHead Sample.ascii 3 Sample.source).1 = .webSocket (Sample.source.symbols.take 85) := by
    decide +kernel
  have upgrade : preReadHead Sample.ascii 3 Sample.source = (.webSocket _, _) := Prod.ext verdict rfl
  exact ⟨_, _, upgrade, (rewind_replays_stream _ _ _ _ _ upgrade _).2 (by decide +kernel)⟩

end Rvpn.Server.Decoy
