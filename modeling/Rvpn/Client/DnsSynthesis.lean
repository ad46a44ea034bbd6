import Rvpn.Client.DnsProxy

/-! The responses that the DNS proxy makes for itself: its three walks over a name end at the same place. -/

namespace Rvpn.Client

open Server (IpAddr)
open SplitTunnel (DnsResponse Text)
open SplitTunnel.DnsWire

/-- A name without pointers, as a sequence of labels that ends with the root. -/
inductive WireName : Bytes → Prop
  | root : WireName [0]
  | label (nonzero : len ≠ 0) (plain : len &&& 0xC0 ≠ 0xC0) (length : content.length = len.toNat) (rest : WireName name) :
    WireName (len :: (content ++ name))

theorem getElem?_of_drop {data : Bytes} (here : data.drop pos = byte :: rest) : data[pos]? = some byte := by
  have first := congrArg List.head? here
  rwa [List.head?_drop] at first

theorem drop_label {data content rest : Bytes} {len : UInt8} (here : data.drop pos = len :: (content ++ rest))
    (length : content.length = len.toNat) : data.drop (pos + 1 + len.toNat) = rest := by
  rw [← List.drop_drop, ← List.drop_drop, here, List.drop_one, List.tail_cons, ← length, List.drop_left]

theorem name_of_readLabels (read : readLabels fromUtf8 data rounds pos labels = .ok (all, stop)) :
    ∃ name, WireName name ∧ stop = pos + name.length ∧ data.drop pos = name ++ data.drop stop := by
  induction rounds generalizing pos labels with
  | zero => cases read
  | succ rounds ih =>
    rw [readLabels] at read
    cases here : data[pos]? with
    | none => simp [here] at read
    | some len =>
      obtain ⟨within, rfl⟩ := List.getElem?_eq_some_iff.mp here
      have first := List.drop_eq_getElem_cons within
      rw [here] at read
      dsimp only at read
      split at read
      · rename_i zero
        cases read
        exact ⟨[0], .root, rfl, by rw [first, zero]; rfl⟩
      · split at read
        · cases read
        · split at read
          · cases read
          · split at read
            · cases read
            · rename_i nonzero plain inside _ _ _
              obtain ⟨name, wire, rfl, rest⟩ := ih read
              have length : ((data.drop (pos + 1)).take data[pos].toNat).length = data[pos].toNat := by
                rw [List.length_take, List.length_drop]
                omega
              refine ⟨_, .label nonzero plain length wire, by simp only [List.length_cons, List.length_append]; omega, ?_⟩
              rw [first, List.cons_append, List.append_assoc, ← rest, ← List.drop_drop (i := _) (j := _ + 1), List.take_append_drop]

theorem skipLabels_of_name (wire : WireName name) (here : data.drop pos = name ++ rest) (enough : name.length ≤ rounds) :
    skipLabels data rounds pos = .ok (pos + name.length) := by
  induction wire generalizing pos rounds with
  | root =>
    obtain ⟨rounds, rfl⟩ := Nat.exists_eq_succ_of_ne_zero (Nat.ne_of_gt (Nat.lt_of_lt_of_le Nat.one_pos enough))
    simp [skipLabels, getElem?_of_drop here]
  | @label len content name nonzero plain length wire ih =>
    obtain ⟨rounds, rfl⟩ := Nat.exists_eq_succ_of_ne_zero (Nat.ne_of_gt (Nat.lt_of_lt_of_le (Nat.succ_pos _) enough))
    rw [List.cons_append, List.append_assoc] at here
    simp only [List.length_cons, List.length_append] at enough
    rw [skipLabels, getElem?_of_drop here]
    simp only [nonzero, plain, if_false]
    rw [ih (drop_label here length) (by omega)]
    simp only [List.length_cons, List.length_append]
    congr 1
    omega

theorem questionEndFrom_of_name (wire : WireName name) (here : data.drop pos = name ++ rest)
    (enough : name.length ≤ rounds) : questionEndFrom data rounds pos = pos + name.length + 4 := by
  induction wire generalizing pos rounds with
  | root =>
    obtain ⟨rounds, rfl⟩ := Nat.exists_eq_succ_of_ne_zero (Nat.ne_of_gt (Nat.lt_of_lt_of_le Nat.one_pos enough))
    simp [questionEndFrom, getElem?_of_drop here]
  | @label len content name nonzero plain length wire ih =>
    obtain ⟨rounds, rfl⟩ := Nat.exists_eq_succ_of_ne_zero (Nat.ne_of_gt (Nat.lt_of_lt_of_le (Nat.succ_pos _) enough))
    rw [List.cons_append, List.append_assoc] at here
    simp only [List.length_cons, List.length_append] at enough
    rw [questionEndFrom, getElem?_of_drop here]
    simp only [nonzero, if_false]
    rw [ih (drop_label here length) (by omega)]
    simp only [List.length_cons, List.length_append]
    omega

theorem skipQuestions_of_name (wire : WireName name) (here : data.drop pos = name ++ rest) :
    skipQuestions data 1 pos = .ok (pos + name.length + 4) := by
  have fits := congrArg List.length here
  rw [List.length_drop, List.length_append] at fits
  have skipped : skipDnsName data pos = .ok (pos + name.length) := skipLabels_of_name wire here (by omega)
  rw [skipQuestions, skipped]
  rfl

theorem length_aRecord (ttl : Nat) (octets : Vector UInt8 4) : (aRecord ttl octets).length = 16 := by simp [aRecord]

theorem readAnswers_aRecord (here : data.drop pos = aRecord ttl octets ++ rest) (small : ttl < 2 ^ 32) :
    readAnswers data (count + 1) pos ips minTtl =
      readAnswers data count (pos + 16) (ips ++ [.v4 octets]) (min (max ttl 30) minTtl) := by
  have width : (BigEndian.encode 4 (max ttl 30)).length = 4 := BigEndian.length_encode ..
  have value : BigEndian.decode (BigEndian.encode 4 (max ttl 30)) = max ttl 30 := BigEndian.decode_encode (by omega)
  have fits := congrArg List.length here
  rw [List.length_drop, List.length_append, length_aRecord] at fits
  unfold aRecord at here
  generalize BigEndian.encode 4 (max ttl 30) = time at here width value
  obtain ⟨a, b, c, d, rfl⟩ : ∃ a b c d, time = [a, b, c, d] := by
    match time, width with
    | [a, b, c, d], _ => exact ⟨a, b, c, d, rfl⟩
  have after : ∀ offset, data.drop (pos + offset) =
      ([0xC0, 0x0C, 0x00, 0x01, 0x00, 0x01] ++ [a, b, c, d] ++ [0x00, 0x04] ++ octets.toList ++ rest).drop offset := by
    intro offset
    rw [← List.drop_drop, here]
  have skipped : skipDnsName data pos = .ok (pos + 2) := by
    simp [skipDnsName, skipLabels, getElem?_of_drop here]
  have qtype : u16At data (pos + 2) = 1 := by
    rw [u16At, after]
    rfl
  have time : u32At data (pos + 2 + 4) = max ttl 30 := by
    rw [u32At, Nat.add_assoc, after]
    exact value
  have rdlength : u16At data (pos + 2 + 8) = 4 := by
    rw [u16At, Nat.add_assoc, after]
    rfl
  have address : (Vector.ofFn fun i : Fin 4 => data.getD (pos + 2 + 10 + i) 0) = octets := by
    ext i within
    have byte : data[pos + 12 + i]? = some octets[i] := by
      rw [← List.getElem?_drop, after]
      show (octets.toList ++ rest)[i]? = some octets[i]
      rw [List.getElem?_append_left (by simpa using within), Vector.getElem?_toList, Vector.getElem?_eq_getElem within]
    rw [Vector.getElem_ofFn, List.getD_eq_getElem?_getD, byte]
    rfl
  have least : (if max ttl 30 < minTtl then max ttl 30 else minTtl) = min (max ttl 30) minTtl := by
    split <;> omega
  rw [readAnswers, skipped]
  simp only [bind, Except.bind, time, rdlength, address, least, true_and]
  rw [if_neg (by omega), if_pos (by omega)]

theorem readAnswers_records (addrs : List (Vector UInt8 4)) (here : data.drop pos = addrs.flatMap (aRecord ttl))
    (small : ttl < 2 ^ 32) :
    readAnswers data addrs.length pos ips minTtl =
      .ok (ips ++ addrs.map .v4, if addrs = [] then minTtl else min (max ttl 30) minTtl) := by
  induction addrs generalizing pos ips minTtl with
  | nil => simp [readAnswers]
  | cons octets rest ih =>
    rw [List.flatMap_cons] at here
    have next : data.drop (pos + 16) = rest.flatMap (aRecord ttl) := by
      rw [← List.drop_drop, here, ← length_aRecord ttl octets, List.drop_left]
    rw [List.length_cons, readAnswers_aRecord here small, ih next]
    cases rest with
    | nil => simp
    | cons => simp

theorem question_of_parseDnsQuery (accepted : parseDnsQuery fromUtf8 query = .ok parsed) :
    ∃ name tail, WireName name ∧ query.drop 12 = name ++ tail ∧ 4 ≤ tail.length ∧
      BigEndian.encode 2 parsed.txid.toNat = query.take 2 := by
  unfold parseDnsQuery at accepted
  split at accepted
  · cases accepted
  · rename_i long
    split at accepted
    · cases accepted
    · rename_i labels stop read
      split at accepted
      · cases accepted
      · rename_i room
        cases accepted
        obtain ⟨name, wire, rfl, here⟩ := name_of_readLabels read
        refine ⟨name, _, wire, here, by rw [List.length_drop]; omega, ?_⟩
        have length : (query.take 2).length = 2 := by rw [List.length_take]; omega
        have fits := BigEndian.decode_lt (query.take 2)
        rw [length] at fits
        have value : (UInt16.ofNat (u16At query 0)).toNat = BigEndian.decode (query.take 2) :=
          Nat.mod_eq_of_lt fits
        have same := BigEndian.encode_decode (query.take 2)
        rwa [length, ← value] at same

theorem response_reads_back (fromUtf8 : Bytes → Option Text) (query : Bytes) (parsed : ParsedQuery)
    (accepted : parseDnsQuery fromUtf8 query = .ok parsed) (response : DnsResponse)
    (few : 1 ≤ response.ipv4Addrs.length ∧ response.ipv4Addrs.length ≤ 65535) (small : response.ttl < 2 ^ 32) :
    let stop := findQuestionEnd query 12
    let wire := buildDnsResponse query parsed.txid response
    (12 ≤ stop ∧ stop ≤ query.length) ∧ wire.take 2 = query.take 2 ∧ skipQuestions query 1 12 = .ok stop ∧
      (wire.take stop).drop 12 = (query.take stop).drop 12 ∧
      parseDnsAResponse wire parsed.txid = .ok (response.ipv4Addrs.map .v4, min (max response.ttl 30) 14400) := by
  obtain ⟨name, tail, named, here, room, copied⟩ := question_of_parseDnsQuery accepted
  have size := congrArg List.length here
  rw [List.length_drop, List.length_append] at size
  have ends : findQuestionEnd query 12 = 12 + name.length + 4 := questionEndFrom_of_name named here (by omega)
  have question : (query.take (12 + name.length + 4)).drop 12 = name ++ tail.take 4 := by
    rw [List.drop_take, here, show 12 + name.length + 4 - 12 = name.length + 4 by omega, List.take_length_add_append]
  have built : buildDnsResponse query parsed.txid response =
      (query.take 2 ++ [0x81, 0x80, 0x00, 0x01] ++ BigEndian.encode 2 response.ipv4Addrs.length ++
        [0x00, 0x00, 0x00, 0x00]) ++ (name ++ (tail.take 4 ++ response.ipv4Addrs.flatMap (aRecord response.ttl))) := by
    rw [buildDnsResponse, ends, question, copied]
    simp [List.append_assoc]
  have counted : BigEndian.decode (BigEndian.encode 2 response.ipv4Addrs.length) = response.ipv4Addrs.length :=
    BigEndian.decode_encode (by omega)
  have identified : BigEndian.decode (query.take 2) = parsed.txid.toNat := by
    rw [← copied]
    exact BigEndian.decode_encode parsed.txid.toNat_lt
  obtain ⟨t, t', id⟩ : ∃ t t', query.take 2 = [t, t'] :=
    List.length_eq_two.mp (by rw [List.length_take]; omega)
  obtain ⟨n, n', number⟩ : ∃ n n', BigEndian.encode 2 response.ipv4Addrs.length = [n, n'] :=
    List.length_eq_two.mp (BigEndian.length_encode ..)
  rw [number] at counted
  rw [id] at identified
  dsimp only
  rw [ends, question, built, id, number]
  have four : (tail.take 4).length = 4 := by rw [List.length_take]; omega
  -- everything after the header
  generalize body : name ++ (tail.take 4 ++ response.ipv4Addrs.flatMap (aRecord response.ttl)) = rest
  have wire : ([t, t'] ++ [0x81, 0x80, 0x00, 0x01] ++ [n, n'] ++ [0x00, 0x00, 0x00, 0x00] ++ rest).drop 12 =
    name ++ (tail.take 4 ++ response.ipv4Addrs.flatMap (aRecord response.ttl)) := body.symm
  have records : ([t, t'] ++ [0x81, 0x80, 0x00, 0x01] ++ [n, n'] ++ [0x00, 0x00, 0x00, 0x00] ++ rest).drop
      (12 + name.length + 4) = response.ipv4Addrs.flatMap (aRecord response.ttl) := by
    rw [Nat.add_assoc, ← List.drop_drop, wire, ← List.drop_drop, List.drop_left]
    exact List.drop_left' four
  refine ⟨⟨by omega, by omega⟩, rfl, skipQuestions_of_name named here, ?_, ?_⟩
  · rw [List.drop_take, wire, show 12 + name.length + 4 - 12 = name.length + 4 by omega, List.take_length_add_append]
    rw [List.take_left' four]
  · have questions := skipQuestions_of_name named wire
    have answers := @readAnswers_records _ _ _ [] (2 ^ 32 - 1) response.ipv4Addrs records small
    have present : response.ipv4Addrs ≠ [] := List.ne_nil_of_length_pos few.1
    generalize whole : [t, t'] ++ [0x81, 0x80, 0x00, 0x01] ++ [n, n'] ++ [0x00, 0x00, 0x00, 0x00] ++ rest = data at *
    have long : ¬ data.length < 12 := by
      rw [← whole]
      simp
    have txid : u16At data 0 = parsed.txid.toNat := by rw [← whole]; exact identified
    have flags : u16At data 2 = 0x8180 := by rw [← whole]; rfl
    have qdcount : u16At data 4 = 1 := by rw [← whole]; rfl
    have ancount : u16At data 6 = response.ipv4Addrs.length := by rw [← whole]; exact counted
    rw [parseDnsAResponse, if_neg long]
    simp only [txid, flags, qdcount, ancount, questions, bind, Except.bind, answers]
    rw [if_neg (by simp), if_neg (by decide), if_neg (by decide)]
    simp only [List.nil_append, List.map_eq_nil_iff, present, if_false, maxTtl]
    congr 2
    omega

namespace SynthesisSample

def query : Bytes :=
  [0x12, 0x34, 0x01, 0x00, 0x00, 0x01, 0x00, 0x00, 0x00, 0x00, 0x00, 0x00] ++ [0x01, 0x61, 0x00] ++
    [0x00, 0x01, 0x00, 0x01]

def response : DnsResponse :=
  { queryId := 1, success := true, ipv4Addrs := [#v[203, 0, 113, 61]], ipv6Addrs := [], ttl := 20000, error := none }

end SynthesisSample

theorem long_ttl_capped :
    parseDnsAResponse (buildDnsResponse SynthesisSample.query 0x1234 SynthesisSample.response) 0x1234 =
      .ok ([.v4 #v[203, 0, 113, 61]], 14400) :=
  have accepted : parseDnsQuery (fun bytes => some (bytes.map fun byte => Char.ofNat byte.toNat)) SynthesisSample.query =
      .ok ⟨0x1234, ['a'], 1⟩ := by rfl
  (response_reads_back _ _ _ accepted SynthesisSample.response (by decide) (by decide)).2.2.2.2

end Rvpn.Client
