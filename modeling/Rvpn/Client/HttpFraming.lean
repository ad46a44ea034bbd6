import Rvpn.Client.HttpMessage

/-! What the HTTP proxy makes of a sequence of requests. It knows bodies by Content-Length alone. -/

namespace Rvpn.Client

open BufferedReader
open SplitTunnel (Text isWhiteSpace lowercase trim trimEnd)
open Transition

namespace ClientRequest

structure HeadOf (settings : HttpSettings) (request : ClientRequest) (head : RequestHead) : Prop where
  method : settings.fromUtf8 request.method = some head.method
  uri : settings.fromUtf8 request.target = some head.uri
  headers : List.Forall₂ (fun field header => settings.fromUtf8 field.line = some header) request.fields head.headers

def ForwardedAs (settings : HttpSettings) (request : ClientRequest) (forwarded : Forwarded) : Prop :=
  request.HeadOf settings forwarded.head ∧ forwarded.body = request.body.wire

def hasKnownLength (request : ClientRequest) : Bool :=
  !request.body.isChunked && decide (request.body.wire.length < 2 ^ 64)

end ClientRequest

section text

variable {library : TextLibrary} {text : Text} {first rest line : Bytes}

theorem fromUtf8_ascii_append (ascii : ∀ byte ∈ first, byte < 128)
    (read : library.fromUtf8 (first ++ rest) = some text) :
    ∃ second, library.fromUtf8 rest = some second ∧ text = first.map asciiChar ++ second := by
  induction first generalizing text with
  | nil => exact ⟨text, read, rfl⟩
  | cons byte onward ih =>
    obtain ⟨start, later, nothing, behind, same⟩ :=
      library.fromUtf8_split [] byte (onward ++ rest) text (ascii byte List.mem_cons_self) read
    cases library.fromUtf8_nil.symm.trans nothing
    obtain ⟨second, decoded, rfl⟩ := ih (fun other listed => ascii other (List.mem_cons_of_mem _ listed)) behind
    exact ⟨second, decoded, same⟩

theorem fromUtf8_ascii (ascii : ∀ byte ∈ first, byte < 128) (read : library.fromUtf8 first = some text) :
    text = first.map asciiChar := by
  rw [← List.append_nil first] at read
  obtain ⟨second, nothing, rfl⟩ := fromUtf8_ascii_append ascii read
  cases library.fromUtf8_nil.symm.trans nothing
  rw [List.append_nil]

theorem dropWhile_of_none (kept : ∀ c ∈ text, drop c = false) : text.dropWhile drop = text := by
  cases text with
  | nil => rfl
  | cons c onward => rw [List.dropWhile_cons, kept c List.mem_cons_self, if_neg Bool.false_ne_true]

theorem trimEnd_append (kept : ∀ c ∈ text, drop c = false) (dropped : ∀ c ∈ ending, drop c = true) :
    trimEnd drop (text ++ ending) = text := by
  rw [trimEnd, List.reverse_append,
    List.dropWhile_append_of_pos (fun c listed => dropped c (List.mem_reverse.mp listed)),
    dropWhile_of_none (fun c listed => kept c (List.mem_reverse.mp listed)), List.reverse_reverse]

theorem trim_append (blank : ∀ c ∈ before ++ after, isWhiteSpace c = true)
    (solid : ∀ c ∈ text, isWhiteSpace c = false) (some : text ≠ []) : trim (before ++ text ++ after) = text := by
  have start : (before ++ text ++ after).dropWhile isWhiteSpace = text ++ after := by
    rw [List.append_assoc, List.dropWhile_append_of_pos (fun c listed => blank c (List.mem_append_left _ listed)),
      List.dropWhile_append, dropWhile_of_none solid, if_neg (by simpa using some)]
  rw [trim, start]
  exact trimEnd_append solid fun c listed => blank c (List.mem_append_right _ listed)

theorem fromUtf8_line (onLine : OnLine line) (read : library.fromUtf8 (line ++ crlf) = some text) :
    library.fromUtf8 line = some (trimLineEnd text) := by
  obtain ⟨start, last, before, ending, rfl⟩ := library.fromUtf8_split line 13 [10] text (by decide) read
  have newline : last = [10].map asciiChar := fromUtf8_ascii (by simp) ending
  subst newline
  rw [trimLineEnd, trimEnd_append, before]
  · intro c listed
    have carriage : c ≠ '\r' := by
      rintro rfl
      exact onLine.1 (library.ascii_of_fromUtf8 line start before 13 (by decide) listed)
    have feed : c ≠ '\n' := by
      rintro rfl
      exact onLine.2 (library.ascii_of_fromUtf8 line start before 10 (by decide) listed)
    simp [carriage, feed]
  · intro c listed
    rcases List.mem_cons.mp listed with rfl | last
    · rfl
    · rw [List.mem_singleton.mp last]
      rfl

theorem splitOnce_append (absent : mark ∉ before) :
    splitOnce mark (before ++ mark :: after) = some (before, after) := by
  induction before with
  | nil => simp [splitOnce]
  | cons c onward ih =>
    have different : c ≠ mark := fun same => absent (same ▸ List.mem_cons_self)
    have later : mark ∉ onward := fun listed => absent (List.mem_cons_of_mem _ listed)
    rw [List.cons_append, splitOnce, if_neg different, ih later]
    rfl

theorem startsWith_mark_iff (absent : mark ∉ start) (missing : mark ∉ before) :
    startsWith (start ++ [mark]) (before ++ mark :: after) = true ↔ before = start := by
  rw [startsWith, List.isPrefixOf_iff_prefix]
  induction start generalizing before with
  | nil =>
    cases before with
    | nil => simp
    | cons c onward =>
      have different : mark ≠ c := fun same => missing (same ▸ List.mem_cons_self)
      simp [different]
  | cons d rest ih =>
    cases before with
    | nil =>
      have different : d ≠ mark := fun same => absent (same ▸ List.mem_cons_self)
      simp [different]
    | cons c onward =>
      have rests := @ih onward (fun listed => absent (List.mem_cons_of_mem _ listed))
        (fun listed => missing (List.mem_cons_of_mem _ listed))
      rw [List.cons_append, List.cons_append, List.cons_prefix_cons, rests, List.cons.injEq, eq_comm]

end text

section headers

variable {settings : HttpSettings} {field : HeaderField} {line : Text}

theorem token_chars : ∀ byte ∈ tokenBytes, asciiChar byte ≠ ':' ∧ (asciiChar byte).toLower ≠ ':' ∧
    (asciiChar byte).toNat < 128 := by
  decide +kernel

theorem not_mem_token {bytes : Bytes} (token : ∀ byte ∈ bytes, byte ∈ tokenBytes)
    (outside : ∀ byte ∈ tokenBytes, asciiChar byte ≠ c) : c ∉ bytes.map asciiChar := by
  intro listed
  obtain ⟨byte, member, same⟩ := List.mem_map.mp listed
  exact outside byte (token byte member) same

theorem HeaderField.line_text {library : TextLibrary} (decoded : library.fromUtf8 field.line = some line) :
    ∃ value, library.fromUtf8 field.value = some value ∧ line = field.name.map asciiChar ++ ':' :: value := by
  obtain ⟨name, value, named, valued, rfl⟩ :=
    library.fromUtf8_split field.name 58 field.value line (by decide) decoded
  have same := fromUtf8_ascii (fun byte listed => (token_facts byte (field.token byte listed)).1) named
  subst same
  exact ⟨value, valued, rfl⟩

theorem startsWith_line {library : TextLibrary} (decoded : library.fromUtf8 field.line = some line) (name : String)
    (absent : ':' ∉ name.toList) :
    startsWith (name.toList ++ [':']) (library.toLowercase line) = field.isNamed name := by
  obtain ⟨value, valued, rfl⟩ := HeaderField.line_text decoded
  have lower : ':' ∉ lowercase (field.name.map asciiChar) := by
    intro listed
    obtain ⟨c, member, same⟩ := List.mem_map.mp listed
    obtain ⟨byte, named, rfl⟩ := List.mem_map.mp member
    exact (token_chars byte (field.token byte named)).2.1 same
  obtain ⟨rest, lowered⟩ := library.toLowercase_start (field.name.map asciiChar ++ [':']) value (by
    intro c listed
    rcases List.mem_append.mp listed with before | after
    · obtain ⟨byte, named, rfl⟩ := List.mem_map.mp before
      exact (token_chars byte (field.token byte named)).2.2
    · rw [List.mem_singleton.mp after]
      decide)
  have text : library.toLowercase (field.name.map asciiChar ++ ':' :: value) =
      lowercase (field.name.map asciiChar) ++ ':' :: rest := by
    rw [List.append_cons, lowered, lowercase, List.map_append, List.append_assoc]
    rfl
  rw [text]
  exact Bool.eq_iff_iff.mpr ((startsWith_mark_iff absent lower).trans (decide_eq_true_iff).symm)

theorem headerValue_line (decoded : settings.fromUtf8 field.line = some line) (name : String)
    (absent : ':' ∉ name.toList) : ∃ value, settings.fromUtf8 field.value = some value ∧
      settings.headerValue name.toList line = if field.isNamed name then some (trim value) else none := by
  have named := startsWith_line decoded name absent
  obtain ⟨value, valued, rfl⟩ := HeaderField.line_text decoded
  refine ⟨value, valued, ?_⟩
  have colon : ':' ∉ field.name.map asciiChar :=
    not_mem_token field.token fun byte listed => (token_chars byte listed).1
  rw [HttpSettings.headerValue, named, splitOnce_append colon]
  rfl

theorem digit_char (numeric : 48 ≤ digit.toNat ∧ digit.toNat ≤ 57) :
    (asciiChar digit).isDigit = true ∧ isWhiteSpace (asciiChar digit) = false ∧ digit < 128 := by
  have number := toNat_asciiChar digit
  refine ⟨?_, ?_, ?_⟩
  · have zero : '0'.toNat = 48 := rfl
    have nine : '9'.toNat = 57 := rfl
    rw [Char.isDigit_iff_toNat]
    omega
  · simp only [isWhiteSpace]
    simp only [Bool.or_eq_false_iff, Bool.and_eq_false_iff, decide_eq_false_iff_not]
    omega
  · have bound : (128 : UInt8).toNat = 128 := rfl
    rw [UInt8.lt_iff_toNat_lt]
    omega

theorem parseUnsigned_digits (some : digits ≠ [])
    (numeric : ∀ digit ∈ digits, 48 ≤ digit.toNat ∧ digit.toNat ≤ 57) :
    parseUnsigned bits (digits.map asciiChar) =
      if decimalValue digits < 2 ^ bits then .some (decimalValue digits) else none := by
  have value : (digits.map asciiChar).foldl (fun value digit => value * 10 + (digit.toNat - '0'.toNat)) 0 =
      decimalValue digits := by
    rw [List.foldl_map, decimalValue]
    simp only [toNat_asciiChar]
    rfl
  have all : (digits.map asciiChar).all Char.isDigit = true := by
    rw [List.all_map, List.all_eq_true]
    exact fun digit listed => (digit_char (numeric digit listed)).1
  have nonempty : digits.map asciiChar ≠ [] := by simpa using some
  rw [← value]
  unfold parseUnsigned
  split
  · rename_i signed
    rw [signed, List.all_cons, Bool.and_eq_true] at all
    exact absurd all.1 (by decide)
  · simp [nonempty, all, true_and, ne_eq, not_false_eq_true]

theorem parse_of_saysLength {library : TextLibrary} (stated : SaysLength value length)
    (decoded : library.fromUtf8 value = some text) :
    parseUnsigned 64 (trim text) = if length < 2 ^ 64 then some length else none := by
  obtain ⟨before, digits, after, rfl, blank, some, numeric, rfl⟩ := stated
  have ascii : ∀ byte ∈ before ++ digits ++ after, byte < 128 := by
    intro byte listed
    by_cases among : byte ∈ digits
    · exact (digit_char (numeric byte among)).2.2
    · have around : byte ∈ before ++ after := by
        simpa [among] using listed
      rcases blank byte around with rfl | rfl <;> decide
  rw [fromUtf8_ascii ascii decoded, List.map_append, List.map_append, trim_append]
  · exact parseUnsigned_digits some numeric
  · intro c listed
    rw [← List.map_append] at listed
    obtain ⟨byte, member, rfl⟩ := List.mem_map.mp listed
    rcases blank byte member with rfl | rfl <;> decide
  · intro c listed
    obtain ⟨digit, member, rfl⟩ := List.mem_map.mp listed
    exact (digit_char (numeric digit member)).2.1
  · simpa using some

theorem addHeader_contentLength (fits : length < 2 ^ 64) (decoded : settings.fromUtf8 field.line = some line)
    (stated : field.isNamed "content-length" = true → SaysLength field.value length) :
    (settings.addHeader head line).contentLength =
      if field.isNamed "content-length" then length else head.contentLength := by
  obtain ⟨value, valued, found⟩ := headerValue_line decoded "content-length" (by decide)
  rw [HttpSettings.addHeader, found]
  by_cases named : field.isNamed "content-length" = true
  · simp only [named, if_true]
    rw [parse_of_saysLength (stated named) valued, if_pos fits]
    rfl
  · simp only [named]
    rfl

theorem foldl_addHeader {lines : List Text} {head : RequestHead} :
    (lines.foldl settings.addHeader head).method = head.method ∧
      (lines.foldl settings.addHeader head).uri = head.uri ∧
      (lines.foldl settings.addHeader head).headers = head.headers ++ lines := by
  induction lines generalizing head with
  | nil => exact ⟨rfl, rfl, (List.append_nil _).symm⟩
  | cons line rest ih =>
    obtain ⟨method, uri, headers⟩ := @ih (settings.addHeader head line)
    refine ⟨method, uri, ?_⟩
    rw [List.foldl_cons, headers]
    exact List.append_assoc _ _ _

theorem foldl_addHeader_contentLength {fields : List HeaderField} {lines : List Text} {head : RequestHead}
    (fits : length < 2 ^ 64)
    (decoded : List.Forall₂ (fun field header => settings.fromUtf8 field.line = some header) fields lines)
    (stated : ∀ field ∈ fields, field.isNamed "content-length" = true → SaysLength field.value length) :
    (lines.foldl settings.addHeader head).contentLength =
      if fields.any (·.isNamed "content-length") then length else head.contentLength := by
  induction decoded generalizing head with
  | nil => rfl
  | cons first rest ih =>
    rw [List.foldl_cons, ih (fun field listed => stated field (List.mem_cons_of_mem _ listed)),
      addHeader_contentLength fits first (stated _ List.mem_cons_self), List.any_cons]
    grind

end headers

section reading

variable {settings : HttpSettings} {reader : Reader UInt8} {rest : Bytes}

theorem through_line (onLine : OnLine line) (rest : Bytes) :
    BufferedReader.through (· = 10) (line ++ crlf ++ rest) = line ++ crlf := by
  have before : (line ++ [13]).any (fun byte => decide (byte = 10)) = false := by
    rw [List.any_eq_false]
    intro byte listed
    rcases List.mem_append.mp listed with inside | last
    · have other : byte ≠ 10 := fun same => onLine.2 (same ▸ inside)
      simpa using other
    · rw [List.mem_singleton.mp last]
      decide
  have split : line ++ crlf ++ rest = (line ++ [13]) ++ 10 :: rest := by simp [crlf]
  rw [split, through_append_cons before (by decide)]
  simp [crlf]

theorem readLine_line (onLine : OnLine line) (stream : reader.pending = line ++ crlf ++ rest) :
    settings.readLine reader = .failed ∨
      ∃ text after, settings.readLine reader = .line text after ∧
        settings.fromUtf8 line = some (trimLineEnd text) ∧ after.pending = rest := by
  have spec : (reader.readUntil bufferCapacity (· = 10)).1 = _ ∧ _ := Reader.readUntil_spec (by decide)
  obtain ⟨bytes, left⟩ := spec
  rw [stream, through_line onLine rest] at bytes left
  have behind : (reader.readUntil bufferCapacity (· = 10)).2.pending = rest := by
    rw [left, List.drop_left]
  unfold HttpSettings.readLine
  dsimp only
  rw [bytes, if_neg (by simp [crlf])]
  cases decoded : settings.fromUtf8 (line ++ crlf) with
  | none => exact .inl rfl
  | some text => exact .inr ⟨text, _, rfl, fromUtf8_line onLine decoded, behind⟩

theorem readHeaders_fields {fields : List HeaderField} (enough : fields.length < rounds)
    (stream : reader.pending = ClientRequest.headerLines fields ++ crlf ++ rest) :
    (∃ ending, settings.readHeaders rounds head reader = .closed ending) ∨
      ∃ lines after, settings.readHeaders rounds head reader = .head (lines.foldl settings.addHeader head) after ∧
        List.Forall₂ (fun field header => settings.fromUtf8 field.line = some header) fields lines ∧
        after.pending = rest := by
  induction rounds generalizing fields head reader with
  | zero => cases enough
  | succ rounds ih =>
    rw [HttpSettings.readHeaders]
    cases fields with
    | nil =>
      rcases readLine_line ⟨List.not_mem_nil, List.not_mem_nil⟩ stream with failed | ⟨text, after, read, decoded, left⟩
      · rw [failed]
        exact .inl ⟨_, rfl⟩
      · rw [settings.fromUtf8_nil] at decoded
        rw [read]
        dsimp only
        rw [if_pos (Option.some.inj decoded).symm]
        exact .inr ⟨[], after, rfl, .nil, left⟩
    | cons field others =>
      have lines : reader.pending = field.line ++ crlf ++ (ClientRequest.headerLines others ++ crlf ++ rest) := by
        rw [stream, ClientRequest.headerLines, List.flatMap_cons]
        simp only [List.append_assoc]
        rfl
      rcases readLine_line field.line_onLine lines with failed | ⟨text, after, read, decoded, left⟩
      · rw [failed]
        exact .inl ⟨_, rfl⟩
      · have some : trimLineEnd text ≠ [] := by
          obtain ⟨value, -, same⟩ := HeaderField.line_text decoded
          rw [same]
          simp
        rw [read]
        dsimp only
        rw [if_neg some]
        rcases ih (Nat.lt_of_succ_lt_succ enough) left with closed | ⟨texts, last, onward, decodes, behind⟩
        · exact .inl closed
        · exact .inr ⟨trimLineEnd text :: texts, last, onward, .cons decoded decodes, behind⟩

end reading

namespace ClientRequest

variable {settings : HttpSettings} {request : ClientRequest} {reader : Reader UInt8} {rest : Bytes}

theorem splitRequestLine_text (decoded : settings.fromUtf8 request.requestLine = some line) :
    ∃ method uri version, HttpSettings.splitRequestLine line = some (method, uri, version) ∧ line ≠ [] ∧
      settings.fromUtf8 request.method = some method ∧ settings.fromUtf8 request.target = some uri := by
  obtain ⟨method, later, named, behind, rfl⟩ := settings.fromUtf8_split _ 32 _ _ (by decide) decoded
  obtain ⟨uri, version, targeted, -, rfl⟩ := settings.fromUtf8_split _ 32 _ _ (by decide) behind
  have inMethod : asciiChar 32 ∉ method := by
    intro listed
    have member := settings.ascii_of_fromUtf8 _ _ named 32 (by decide) listed
    exact (token_facts 32 (request.token.2 32 member)).2.2.2 rfl
  have inTarget : asciiChar 32 ∉ uri := fun listed =>
    request.onLine.2 (settings.ascii_of_fromUtf8 _ _ targeted 32 (by decide) listed)
  refine ⟨method, uri, version, ?_, by simp, named, targeted⟩
  have first : splitOnce ' ' (method ++ asciiChar 32 :: (uri ++ asciiChar 32 :: version)) =
      some (method, uri ++ asciiChar 32 :: version) := splitOnce_append inMethod
  have second : splitOnce ' ' (uri ++ asciiChar 32 :: version) = some (uri, version) := splitOnce_append inTarget
  rw [HttpSettings.splitRequestLine, first]
  dsimp only
  rw [second]
  rfl

theorem contentLength_eq (known : request.hasKnownLength = true)
    (decoded : List.Forall₂ (fun field header => settings.fromUtf8 field.line = some header) request.fields lines)
    (fresh : head.contentLength = 0) :
    (lines.foldl settings.addHeader head).contentLength = request.body.wire.length := by
  have framed := request.framed
  rw [hasKnownLength, Bool.and_eq_true, decide_eq_true_eq] at known
  obtain ⟨whole, fits⟩ := known
  cases body : request.body with
  | chunked chunks trailers =>
    rw [body] at whole
    cases whole
  | absent =>
    rw [body] at framed
    have unnamed : request.fields.any (·.isNamed "content-length") = false :=
      List.any_eq_false.mpr fun field listed => Bool.not_eq_true _ ▸ (framed field listed).2
    rw [foldl_addHeader_contentLength (Nat.two_pow_pos 64) decoded, unnamed, fresh]
    · rfl
    · intro field listed named
      rw [(framed field listed).2] at named
      cases named
  | sized content =>
    rw [body] at framed fits
    obtain ⟨-, ⟨field, listed, named⟩, stated⟩ := framed
    rw [foldl_addHeader_contentLength fits decoded stated, List.any_eq_true.mpr ⟨field, listed, named⟩]
    rfl

theorem readHead_request (known : request.hasKnownLength = true) (stream : reader.pending = request.wire ++ rest) :
    (∃ ending, settings.readHead reader = .closed ending) ∨
      ∃ head after, settings.readHead reader = .head head after ∧ request.HeadOf settings head ∧
        head.contentLength = request.body.wire.length ∧ after.pending = request.body.wire ++ rest := by
  have lines : reader.pending = request.requestLine ++ crlf ++
      (headerLines request.fields ++ crlf ++ (request.body.wire ++ rest)) := by
    rw [stream, wire]
    simp [List.append_assoc]
  unfold HttpSettings.readHead
  rcases readLine_line request.requestLine_onLine lines with failed | ⟨text, after, read, decoded, left⟩
  · rw [failed]
    exact .inl ⟨_, rfl⟩
  · obtain ⟨method, uri, version, parts, some, named, targeted⟩ := splitRequestLine_text decoded
    have enough : request.fields.length < after.pending.length + 1 := by
      have longer := length_le_headerLines request.fields
      rw [left, List.length_append, List.length_append]
      omega
    rw [read]
    dsimp only
    rw [if_neg some, parts]
    rcases readHeaders_fields enough left with closed | ⟨texts, last, found, decodes, behind⟩
    · exact .inl closed
    · have kept : (texts.foldl settings.addHeader { method, uri, version }).method = method ∧ _ ∧ _ := foldl_addHeader
      obtain ⟨sameMethod, sameUri, headers⟩ := kept
      refine .inr ⟨_, last, found, ⟨?_, ?_, ?_⟩, contentLength_eq known decodes rfl, behind⟩
      · rw [sameMethod]
        exact named
      · rw [sameUri]
        exact targeted
      · rw [headers]
        exact decodes

theorem HeadOf.not_isConnect (same : request.HeadOf settings head) :
    HttpSettings.isConnect head = false := by
  have method := fromUtf8_ascii (fun byte listed => (token_facts byte (request.token.2 byte listed)).1) same.method
  rw [HttpSettings.isConnect, method]
  exact decide_eq_false request.plain

theorem readBody_request (length : head.contentLength = request.body.wire.length)
    (stream : reader.pending = request.body.wire ++ rest) :
    (∃ ending, HttpSettings.readBody head reader = .closed ending) ∨
      ∃ target path after, HttpSettings.readBody head reader = .forward head target path request.body.wire after ∧
        after.pending = rest := by
  have takes := reader.readExact_spec (by decide : 0 < bufferCapacity) head.contentLength
  rw [Reader.TakesExactly, length, stream, if_pos (by simp)] at takes
  obtain ⟨after, exactly, left⟩ := takes
  rw [List.take_left] at exactly
  rw [List.drop_left] at left
  unfold HttpSettings.readBody
  split
  · exact .inl ⟨_, rfl⟩
  · rename_i target path _
    rw [length, exactly]
    exact .inr ⟨target, path, after, rfl, left⟩

theorem readTurn_request (known : request.hasKnownLength = true) (stream : reader.pending = request.wire ++ rest) :
    (∃ ending, settings.readTurn reader = .closed ending) ∨
      ∃ head target path after, settings.readTurn reader = .forward head target path request.body.wire after ∧
        request.HeadOf settings head ∧ after.pending = rest := by
  unfold HttpSettings.readTurn
  rcases readHead_request known stream with ⟨ending, closed⟩ | ⟨head, after, read, same, length, left⟩
  · rw [closed]
    exact .inl ⟨ending, rfl⟩
  · rw [read]
    dsimp only
    split
    · exact .inl ⟨_, rfl⟩
    · rw [same.not_isConnect, if_neg Bool.false_ne_true]
      rcases readBody_request length left with closed | ⟨target, path, last, forward, behind⟩
      · exact .inl closed
      · exact .inr ⟨head, target, path, last, forward, same, behind⟩

theorem readTurn_nil (ended : reader.pending = []) : settings.readTurn reader = .closed (.ok ()) := by
  have spec : (reader.readUntil bufferCapacity (· = 10)).1 = _ ∧ _ := Reader.readUntil_spec (by decide)
  have nothing : (reader.readUntil bufferCapacity (· = 10)).1 = [] := by
    rw [spec.1, ended]
    rfl
  have line : settings.readLine reader = .ended := by
    unfold HttpSettings.readLine
    dsimp only
    rw [nothing]
    rfl
  rw [HttpSettings.readTurn, HttpSettings.readHead, line]

end ClientRequest

namespace HttpConnection

variable (settings : HttpSettings) (requests : List ClientRequest)

/-- What the proxy takes for the next request's head begins where a request begins. -/
def AtRequest (state : HttpConnection) : Prop :=
  match state.phase with
  | .serving _ => state.source.symbols = (requests.drop state.forwarded.length).flatMap ClientRequest.wire
  | .relaying _ => False
  | .closed _ => True

/-- The requests have been forwarded one by one, each with its head and exactly its body, as far as they have been. -/
structure KeepsApart (state : HttpConnection) : Prop where
  forwarded : List.Forall₂ (ClientRequest.ForwardedAs settings) (requests.take state.forwarded.length) state.forwarded
  next : AtRequest requests state

/-- The request that is read has a length that the proxy knows, and ends where a read ended if the connection goes
on. -/
def ReadsFramed (state : HttpConnection) (action : HttpAction) : Prop :=
  EndsWithRead settings state action ∧
    (requests[state.forwarded.length]?).all ClientRequest.hasKnownLength = true

instance (state : HttpConnection) (action : HttpAction) : Decidable (ReadsFramed settings requests state action) :=
  inferInstanceAs (Decidable (_ ∧ _))

variable {settings requests} {state next : HttpConnection}

theorem KeepsApart.start (cuts : List Nat) :
    KeepsApart settings requests (start (requests.flatMap ClientRequest.wire) cuts) :=
  ⟨.nil, rfl⟩

section

variable (holds : KeepsApart settings requests state)
include holds

theorem KeepsApart.closed (ending : Except SplitTunnel.ErrorChain Unit) :
    KeepsApart settings requests { state with phase := .closed ending } :=
  ⟨holds.forwarded, trivial⟩

theorem KeepsApart.forwarded_append (current : requests[state.forwarded.length]? = some request) (same : request.ForwardedAs settings sent) :
    List.Forall₂ (ClientRequest.ForwardedAs settings) (requests.take (state.forwarded ++ [sent]).length)
      (state.forwarded ++ [sent]) := by
  rw [List.length_append, List.length_singleton, List.take_add_one, current]
  exact List.rel_append holds.forwarded (.cons same .nil)

theorem KeepsApart.serve (serving : state.phase = .serving first)
    (framed : ReadsFramed settings requests state (.serve outcome)) :
    KeepsApart settings requests (HttpConnection.serve settings state outcome) := by
  obtain ⟨ends, known⟩ := framed
  have begins : AtRequest requests state := holds.next
  rw [AtRequest, serving] at begins
  have stream : (Reader.new state.source).pending =
      (requests.drop state.forwarded.length).flatMap ClientRequest.wire := begins
  unfold EndsWithRead readBeyond at ends
  unfold HttpConnection.serve
  cases current : requests[state.forwarded.length]? with
  | none =>
    -- the client has sent all it had to send
    rw [List.drop_eq_nil_of_le (List.getElem?_eq_none_iff.mp current)] at stream
    rw [ClientRequest.readTurn_nil stream]
    exact holds.closed _
  | some request =>
    obtain ⟨within, here⟩ := List.getElem?_eq_some_iff.mp current
    rw [List.drop_eq_getElem_cons within, here, List.flatMap_cons] at stream
    rw [current] at known
    rcases ClientRequest.readTurn_request known stream with
      ⟨ending, closed⟩ | ⟨head, target, path, after, turn, same, left⟩
    · rw [closed]
      exact holds.closed ending
    · rw [turn] at ends ⊢
      have exact : request.ForwardedAs settings ⟨head, target, path, request.body.wire⟩ := ⟨same, rfl⟩
      have more := holds.forwarded_append current exact
      cases outcome with
      | blocked => exact ⟨holds.forwarded, trivial⟩
      | failed sent causes =>
        cases sent with
        | false => exact ⟨holds.forwarded, trivial⟩
        | true => exact ⟨more, trivial⟩
      | relayed =>
        refine ⟨more, ?_⟩
        unfold AtRequest
        dsimp only [handBack, ForwardOutcome.phase, ForwardOutcome.wasSent] at ends ⊢
        cases goesOn : head.keepAlive with
        | false => trivial
        | true =>
          -- nothing of the next request has been read
          have empty : after.buffer = [] := by simpa [goesOn, ConnectionPhase.isClosed] using ends
          have rest : after.source.symbols = after.pending := by rw [Reader.pending, empty, List.nil_append]
          simp [rest, left]

theorem KeepsApart.step (framed : ReadsFramed settings requests state action)
    (taken : HttpConnection.step settings state action = some next) : KeepsApart settings requests next := by
  cases action with
  | timeout =>
    obtain ⟨-, rfl⟩ := of_guard taken
    exact holds.closed _
  | serve outcome =>
    rw [HttpConnection.step] at taken
    split at taken
    · rename_i first serving
      cases taken
      exact holds.serve serving framed
    · cases taken

end

theorem bodies_of_forwardedAs (same : List.Forall₂ (ClientRequest.ForwardedAs settings) first sent) :
    sent.map (·.body) = first.map (·.body.wire) := by
  induction same with
  | nil => rfl
  | cons one _ ih => rw [List.map_cons, List.map_cons, ih, one.2]

theorem not_keepsApart_of_bodies (found : state.forwarded.map (·.body) = bodies)
    (other : bodies ≠ (requests.take bodies.length).map (·.body.wire)) : ¬ KeepsApart settings requests state := by
  intro holds
  apply other
  rw [← found, List.length_map]
  exact bodies_of_forwardedAs holds.forwarded

theorem bodies_of_sent (found : (state.forwarded.map fun forwarded => (forwarded.head.uri, forwarded.body)) = sent) :
    state.forwarded.map (·.body) = sent.map Prod.snd := by
  rw [← found, List.map_map]
  rfl

/-- If each request that is read has a length the proxy knows, and ends where a read ended if the connection goes on,
then no part of a body is ever taken for a head, and the requests are forwarded in their order, each with exactly its
body; after a request that is not forwarded, the connection is closed. -/
theorem requests_kept_apart (settings : HttpSettings) (requests : List ClientRequest) (cuts : List Nat)
    (actions : List HttpAction) (final : HttpConnection)
    (framed : Transition.Meets (HttpConnection.step settings) (ReadsFramed settings requests)
      (start (requests.flatMap ClientRequest.wire) cuts) actions)
    (reached : Transition.run (HttpConnection.step settings) (start (requests.flatMap ClientRequest.wire) cuts)
      actions = some final) :
    KeepsApart settings requests final :=
  run_preserves_of_meets (fun _ _ _ holds met taken => holds.step met taken) (KeepsApart.start cuts) framed
    reached

end HttpConnection

namespace FramingSample

open HttpSample (bytesOf settings)

def content : Bytes := bytesOf "GET http://evil.example/ HTTP/1.1\r\nHost: evil.example\r\n\r\n"

def get : ClientRequest where
  method := bytesOf "GET"
  target := bytesOf "http://example.com/"
  fields := []
  body := .absent
  token := by decide +kernel
  plain := by decide +kernel
  onLine := by decide +kernel
  framed := nofun

def lengthField : HeaderField where
  name := bytesOf "Content-Length"
  value := bytesOf " 57"
  named := by decide +kernel
  token := by decide +kernel
  onLine := by decide +kernel

def codingField : HeaderField where
  name := bytesOf "Transfer-Encoding"
  value := bytesOf " chunked"
  named := by decide +kernel
  token := by decide +kernel
  onLine := by decide +kernel

def post : ClientRequest where
  method := bytesOf "POST"
  target := bytesOf "http://example.com/"
  fields := [lengthField]
  body := .sized content
  token := by decide +kernel
  plain := by decide +kernel
  onLine := by decide +kernel
  framed := by
    refine ⟨by decide +kernel, ⟨lengthField, List.mem_cons_self, by decide +kernel⟩, fun field listed _ => ?_⟩
    rw [List.mem_singleton.mp listed]
    exact ⟨[32], bytesOf "57", [], by decide +kernel⟩

def chunk : Chunk where
  size := bytesOf "39"
  content := content
  some := by decide +kernel
  sized := by decide +kernel
  onLine := by decide +kernel

def chunkedPost : ClientRequest where
  method := bytesOf "POST"
  target := bytesOf "http://example.com/"
  fields := [codingField]
  body := .chunked [chunk] []
  token := by decide +kernel
  plain := by decide +kernel
  onLine := by decide +kernel
  framed := ⟨codingField, by rfl, by decide +kernel⟩

def headLength (request : ClientRequest) : Nat := request.wire.length - request.body.wire.length

end FramingSample

namespace HttpConnection

open FramingSample in
open HttpSample (served settings) in
theorem known_lengths_kept_apart :
    ∃ final, Transition.run (step settings) (start ([get, post].flatMap ClientRequest.wire) [get.wire.length]) served =
        some final ∧ final.phase = .serving false ∧ final.forwarded.map (·.body) = [[], content] ∧
      KeepsApart settings [get, post] final := by
  refine exists_of_evaluated (p := fun final => final.phase = .serving false ∧
    final.forwarded.map (·.body) = [[], content]) (by decide +kernel) fun final reached facts => ?_
  exact ⟨facts.1, facts.2, requests_kept_apart settings [get, post] _ served final (by decide +kernel) reached⟩

open FramingSample in
open HttpSample (served settings) in
/-- A chunked body is not read with its request: where a read ends behind the size of its chunk, the chunk is
forwarded as a request; where one ends with the head, the next head is read from the body. A body with a length is
taken for a request as well, if its own head was found by the read for the request before. -/
theorem body_taken_for_request :
    (∃ final, Transition.run (step settings) (start chunkedPost.wire [headLength chunkedPost + 4, content.length])
          served = some final ∧
        final.forwarded.map (fun sent => (sent.head.uri, sent.body)) =
          [("http://example.com/".toList, []), ("http://evil.example/".toList, [])] ∧
        ¬ KeepsApart settings [chunkedPost] final) ∧
      (∃ final, Transition.run (step settings) (start chunkedPost.wire [headLength chunkedPost]) [.serve .relayed] =
          some final ∧
        final.phase = .serving false ∧ final.source.symbols = chunkedPost.body.wire ∧
        ¬ KeepsApart settings [chunkedPost] final) ∧
      ∃ final, Transition.run (step settings)
          (start ([get, post].flatMap ClientRequest.wire) [get.wire.length + headLength post]) served = some final ∧
        final.forwarded.map (fun sent => (sent.head.uri, sent.body)) =
          [("http://example.com/".toList, []), ("http://evil.example/".toList, [])] ∧
        ¬ KeepsApart settings [get, post] final := by
  refine ⟨?_, ?_, ?_⟩
  · refine exists_of_evaluated (p := fun final => final.forwarded.map (fun sent => (sent.head.uri, sent.body)) =
      [("http://example.com/".toList, []), ("http://evil.example/".toList, [])]) (by decide +kernel) fun _ _ sent => ?_
    exact ⟨sent, not_keepsApart_of_bodies (bodies_of_sent sent) (by decide +kernel)⟩
  · refine exists_of_evaluated (p := fun final => final.phase = .serving false ∧
      final.source.symbols = chunkedPost.body.wire ∧ final.forwarded.map (·.body) = [[]]) (by decide +kernel) ?_
    rintro final - ⟨phase, left, bodies⟩
    exact ⟨phase, left, not_keepsApart_of_bodies bodies (by decide +kernel)⟩
  · refine exists_of_evaluated (p := fun final => final.forwarded.map (fun sent => (sent.head.uri, sent.body)) =
      [("http://example.com/".toList, []), ("http://evil.example/".toList, [])]) (by decide +kernel) fun _ _ sent => ?_
    exact ⟨sent, not_keepsApart_of_bodies (bodies_of_sent sent) (by decide +kernel)⟩

end HttpConnection

end Rvpn.Client
