/-
Audio.CipherTheorems — what a receiver reads out of an audio
packet, and under which nonces packets are sealed.

A packet is header, body and trailer. The header is read back field by field
(`parse_nextHeader`), the trailer is cut off the end (`parseEncrypted_append`)
and opens what it was sealed with (`decrypt_encryptWithSeq`); both
serialisers put the same parts one behind the other
(`serializeAudio_eq_encrypt`). The nonce is the sequence number of the
packet, which is the count of the packets before it modulo 2^16
(`sequence_sealed`).
-/
import OpenAirCast.Audio.Cipher
import OpenAirCast.Audio.FrameTheorems
import OpenAirCast.Crypto.ChachaTheorems

namespace OpenAirCast.Audio

open Crypto List Option RtpPacket

/-! ## Sealing and opening -/

/-- Opening with the same key, nonce and additional data undoes sealing,
which puts a tag behind the ciphertext. -/
structure Inverts (aead : Aead) : Prop where
  tagged : ∀ {key nonce aad msg ciphertext : Bytes},
    aead.encrypt key nonce aad msg = some ciphertext → TAG_LENGTH ≤ ciphertext.length
  opens : ∀ {key nonce aad msg ciphertext : Bytes},
    aead.encrypt key nonce aad msg = some ciphertext →
      aead.decrypt key nonce aad ciphertext = some msg

theorem length_seqNonce (seqnum : BitVec 16) : (seqNonce seqnum).length = 12 := by
  simp [seqNonce]

theorem buildNonce12_seqNonce (seqnum : BitVec 16) :
    buildNonce12 ((seqNonce seqnum).drop 4) = seqNonce seqnum := rfl

theorem seqNonce_inj {a b : BitVec 16} : seqNonce a = seqNonce b ↔ a = b := by
  constructor
  · intro h
    unfold seqNonce at h
    have hb := append_cancel_left (append_cancel_right h)
    exact BitVec.eq_of_toNat_eq (toLeBytes_inj a.isLt b.isLt hb)
  · rintro rfl
    rfl

theorem decrypt_encryptWithSeq {aead : Aead} (inverts : Inverts aead) {c : AudioCipher}
    {audioData ciphertext nonce tag : Bytes} {ts ssrc : BitVec 32} {seqnum : BitVec 16}
    (h : c.encryptWithSeq aead audioData ts ssrc seqnum = .ok (ciphertext, nonce, tag)) :
    nonce.length = 8 ∧ tag.length = 16 ∧
      c.decrypt aead ciphertext nonce tag ts ssrc = .ok audioData := by
  unfold AudioCipher.encryptWithSeq at h
  split at h
  · cases h
  · rename_i ciphertextWithTag he
    cases h
    have ht : 16 ≤ ciphertextWithTag.length := inverts.tagged he
    refine ⟨?_, ?_, ?_⟩
    · rw [length_drop, length_seqNonce]
    · rw [length_drop]
      unfold TAG_LENGTH
      omega
    · unfold AudioCipher.decrypt
      rw [buildNonce12_seqNonce, take_append_drop, inverts.opens he]

/-! ## Reading packets -/

theorem payloadType_mod (b : BitVec 8) : UInt8.ofBitVec b &&& 0x7F = UInt8.ofBitVec b % 128 := by
  revert b
  decide

variable {κ : Type}

/-- The header of an audio packet is read as it was written, the payload
type in its seven bits. -/
theorem parse_nextHeader (s : RtpSender κ) (ptype : UInt8) (ts : BitVec 32)
    (mark : Bool) (body : Bytes) :
    RtpHeader.parse ((s.nextHeader ptype ts mark).serialize ++ body) =
      some (s.nextHeader (ptype % 128) ts mark) := by
  have hlen : ¬ ((s.nextHeader ptype ts mark).serialize ++ body).length < 12 := by
    rw [length_append, length_serialize]
    omega
  have hf : (s.nextHeader ptype ts mark).firstByte = 0x80 := by
    simp only [RtpSender.nextHeader, RtpHeader.firstByte]
    decide
  have hm := secondByte_marker mark ptype.toBitVec
  have hy := (secondByte_payloadType mark ptype.toBitVec).trans (payloadType_mod ptype.toBitVec)
  -- the words, each behind the bytes before it
  have hs : (beBytes s.sequence ++ (beBytes ts ++ (beBytes s.ssrc ++ body))).take 2
      = beBytes s.sequence := take_left' (length_beBytes _)
  have ht : ((beBytes s.sequence ++ (beBytes ts ++ (beBytes s.ssrc ++ body))).drop
      2).take 4 = beBytes ts := by
    rw [drop_left' (length_beBytes s.sequence), take_left' (length_beBytes ts)]
  have hss : ((beBytes s.sequence ++ (beBytes ts ++ (beBytes s.ssrc ++ body))).drop
      6).take 4 = beBytes s.ssrc := by
    rw [← append_assoc, drop_left' (by simp), take_left' (length_beBytes s.ssrc)]
  unfold RtpHeader.parse
  rw [if_neg hlen]
  simp only [RtpHeader.serialize, cons_append, nil_append, append_assoc,
    getD_cons_zero, getD_cons_succ, drop_succ_cons, drop_zero, hf]
  unfold RtpSender.nextHeader
  rw [hs, ht, hss, fromBe_beBytes rfl, fromBe_beBytes rfl, fromBe_beBytes rfl]
  congr 2

theorem parseEncrypted_append {header : RtpHeader} {head payload tag nonce : Bytes}
    (hh : head.length = 12) (ht : tag.length = 16) (hn : nonce.length = 8)
    (hp : RtpHeader.parse (head ++ (payload ++ tag ++ nonce)) = some header) :
    parseEncrypted (head ++ (payload ++ tag ++ nonce)) =
      some { header, payload, tag := some tag, nonce := some nonce } := by
  have hlen : (head ++ (payload ++ tag ++ nonce)).length = 36 + payload.length := by
    simp only [length_append, hh, ht, hn]
    omega
  have hl : head ++ (payload ++ tag ++ nonce) = (head ++ payload) ++ (tag ++ nonce) := by
    simp only [append_assoc]
  have hs : (head ++ payload).length = (head ++ (payload ++ tag ++ nonce)).length - 24 := by
    rw [hlen, length_append, hh]
    omega
  have he : (head ++ payload ++ tag).length =
      (head ++ (payload ++ tag ++ nonce)).length - 24 + 16 := by
    rw [← hs, length_append, ht]
  unfold parseEncrypted
  rw [if_neg (by rw [hlen]; omega), hp]
  simp only [map_some, Option.some.injEq, mk.injEq, true_and]
  rw [hl] at hs he ⊢
  refine ⟨?_, ?_, ?_⟩
  · rw [take_left' hs, drop_left' hh]
  · rw [← append_assoc] at he ⊢
    exact drop_left' he
  · rw [drop_left' hs, take_left' ht]

/-! ## The two serialisers -/

section Serialisers

variable {aead : Aead} {s : RtpSender (ChaChaPacketCipher aead)} {cipher : AudioCipher}

/-- The sender writes what the packet type writes, and fails where it
fails. -/
theorem serializeAudio_eq_encrypt (hc : s.cipher = some ⟨cipher⟩) (ptype : UInt8)
    (ts : BitVec 32) (payload : Bytes) (mark : Bool) :
    (s.serializeAudio ptype ts payload mark).2 =
      ((new (s.nextHeader ptype ts mark) payload).encrypt aead cipher).map serialize := by
  unfold RtpSender.serializeAudio RtpSender.sealPayload encrypt
  rw [hc]
  simp only [PacketCipher.encryptPayload, ChaChaPacketCipher.encryptPayload, new,
    RtpSender.nextHeader]
  cases cipher.encryptWithSeq aead payload ts s.ssrc s.sequence with
  | error => rfl
  | ok => simp only [Except.map, serialize, getD_some, append_assoc]

theorem serializeAudio_ok (hc : s.cipher = some ⟨cipher⟩) {ptype : UInt8}
    {ts : BitVec 32} {payload bs : Bytes} {mark : Bool}
    (h : (s.serializeAudio ptype ts payload mark).2 = .ok bs) :
    ∃ ciphertext nonce tag, cipher.encryptWithSeq aead payload ts s.ssrc s.sequence =
        .ok (ciphertext, nonce, tag) ∧
      bs = (s.nextHeader ptype ts mark).serialize ++ (ciphertext ++ tag ++ nonce) := by
  rw [serializeAudio_eq_encrypt hc] at h
  unfold encrypt at h
  simp only [new, RtpSender.nextHeader] at h
  cases hs : cipher.encryptWithSeq aead payload ts s.ssrc s.sequence with
  | error =>
    rw [hs] at h
    cases h
  | ok =>
    rw [hs] at h
    cases h
    refine ⟨_, _, _, rfl, ?_⟩
    simp only [serialize, RtpSender.nextHeader, getD_some, append_assoc]

end Serialisers

/-- Every packet a sender writes is read back with the fields of its header,
opens to the payload that was sealed, and has the bytes of the encrypted
packet; without a cipher the packet is read back as it is. -/
theorem audio_packets_decrypt {aead : Aead} (inverts : Inverts aead)
    (s : RtpSender (ChaChaPacketCipher aead)) (payloadType : UInt8) (timestamp : BitVec 32)
    (payload : Bytes) (marker : Bool) :
    let written := (s.serializeAudio payloadType timestamp payload marker).2
    let header := s.nextHeader payloadType timestamp marker
    let read := s.nextHeader (payloadType % 128) timestamp marker
    (∀ cipher, s.cipher = some ⟨cipher⟩ →
      written = ((new header payload).encrypt aead cipher).map serialize ∧
      ∀ bs, written = .ok bs → ∃ packet nonce tag,
        parseEncrypted bs = some packet ∧ packet.header = read ∧
        packet.nonce = some nonce ∧ packet.tag = some tag ∧
        cipher.decrypt aead packet.payload nonce tag timestamp s.ssrc = .ok payload) ∧
    (s.cipher = none → ∃ bs, written = .ok bs ∧ parse bs = some (new read payload)) := by
  intro written header read
  refine ⟨?_, ?_⟩
  · intro cipher hc
    refine ⟨serializeAudio_eq_encrypt hc payloadType timestamp payload marker, ?_⟩
    intro bs hb
    obtain ⟨_, nonce, tag, hs, rfl⟩ := serializeAudio_ok hc hb
    obtain ⟨hn, ht, hop⟩ := decrypt_encryptWithSeq inverts hs
    exact ⟨_, nonce, tag, parseEncrypted_append (length_serialize header) ht hn
        (parse_nextHeader s payloadType timestamp marker _), rfl, rfl, rfl, hop⟩
  · intro hp
    refine ⟨header.serialize ++ payload, ?_, ?_⟩
    · show (s.serializeAudio payloadType timestamp payload marker).2 = _
      unfold RtpSender.serializeAudio RtpSender.sealPayload
      rw [hp]
    · unfold parse
      rw [parse_nextHeader, map_some, drop_left' (length_serialize header)]
      rfl

/-- The real cipher keeps its promise. -/
theorem chachaPoly_inverts : Inverts chachaPoly where
  tagged h := by
    rw [← Option.some.inj h, ChaChaPoly.length_encrypt]
    exact Nat.le_add_left _ _
  opens h := by
    rw [← Option.some.inj h]
    exact ChaChaPoly.decrypt_encrypt _ _ _ _

/-- A sender with a key, in the middle of its sequence. -/
def keyedSender (sequence : BitVec 16) : RtpSender (ChaChaPacketCipher chachaPoly) :=
  { dest := ⟨.v4 0x0A000001, 6000⟩
    ssrc := 7
    sequence
    cipher := some ⟨⟨List.replicate 32 1⟩⟩ }

/-- A payload type that does not fit, at the end of the sequence numbers. -/
theorem audio_packets_decrypt_wide : ∃ bytes packet nonce tag,
    ((keyedSender 65535).serializeAudio 224 352 [1, 2, 3] true).2 = .ok bytes ∧
    parseEncrypted bytes = some packet ∧
    packet.header = (keyedSender 65535).nextHeader 96 352 true ∧
    packet.nonce = some nonce ∧ packet.tag = some tag ∧
    (AudioCipher.mk (List.replicate 32 1)).decrypt chachaPoly packet.payload nonce tag 352 7 =
      .ok [1, 2, 3] := by
  obtain ⟨packet, nonce, tag, hp, hh, hn, ht, hop⟩ :=
    ((audio_packets_decrypt chachaPoly_inverts (keyedSender 65535) 224 352 [1, 2, 3] true).1
      ⟨List.replicate 32 1⟩ rfl).2 _ rfl
  exact ⟨_, packet, nonce, tag, rfl, hp, hh, hn, ht, hop⟩

/-! ## Nonces -/

/-- A packet as it was made, with the nonce of its call. -/
structure AudioRecord where
  /-- Under which key it was sealed, if it was. -/
  key : Option Bytes
  plaintext : Bytes
  timestamp : BitVec 32
  marker : Bool
  nonce : Bytes

/-- What is to be told apart by the nonces. -/
def AudioRecord.content (record : AudioRecord) : Bytes × BitVec 32 × Bool :=
  (record.plaintext, record.timestamp, record.marker)

namespace RtpSender

/-- What a call puts into a packet. -/
def SenderOp.content : SenderOp κ → Option (Bytes × BitVec 32 × Bool)
  | .prepareAudio _ timestamp payload marker => some (payload, timestamp, marker)
  | .sendAudio _ timestamp payload marker _ => some (payload, timestamp, marker)
  | _ => none

section Nonces

variable {aead : Aead}

variable (s : RtpSender (ChaChaPacketCipher aead))

/-- One call, with the packet it makes. `encrypt_with_seq` takes the nonce
from the sequence number before the call. -/
def recordStep (op : SenderOp (ChaChaPacketCipher aead)) :
    RtpSender (ChaChaPacketCipher aead) × Option AudioRecord :=
  let r := s.perform op
  (r.1, (op.content.filter (fun _ => r.2.isSome)).map (fun (plaintext, timestamp, marker) =>
    ⟨s.cipher.map (·.cipher.key), plaintext, timestamp, marker, seqNonce s.sequence⟩))

/-- What is on record was serialised in its call. -/
theorem recordStep_serialized {s : RtpSender (ChaChaPacketCipher aead)}
    {op : SenderOp (ChaChaPacketCipher aead)} {record : AudioRecord}
    (h : (recordStep s op).2 = some record) :
    record.nonce = seqNonce s.sequence ∧ ∃ ptype bs,
      (s.serializeAudio ptype record.timestamp record.plaintext record.marker).2 = .ok bs := by
  obtain ⟨⟨payload, ts, mark⟩, hm, rfl⟩ := map_eq_some_iff.mp h
  obtain ⟨ho, hs⟩ := filter_eq_some_iff.mp hm
  refine ⟨rfl, ?_⟩
  cases op with
  | prepareAudio ptype | sendAudio ptype =>
    cases ho
    change (s.serializeAudio ptype ts payload mark).2.toOption.isSome = true at hs
    cases hr : (s.serializeAudio ptype ts payload mark).2 with
    | error =>
      rw [hr] at hs
      cases hs
    | ok bs => exact ⟨ptype, bs, hr⟩
  | prepareSync | preparePtpSync | resetSyncState | setCipher | bind | setControlSocket
  | setControlDest => cases ho

/-- The nonce on record is the one the packet is sealed under, and the packet
carries its last eight bytes. -/
theorem recordStep_sealed {s : RtpSender (ChaChaPacketCipher aead)} {cipher : AudioCipher}
    (hc : s.cipher = some ⟨cipher⟩) {op : SenderOp (ChaChaPacketCipher aead)}
    {record : AudioRecord} (h : (recordStep s op).2 = some record) :
    ∃ body ciphertext tag, aead.encrypt cipher.key record.nonce
        (buildAad record.timestamp s.ssrc) record.plaintext = some body ∧
      cipher.encryptWithSeq aead record.plaintext record.timestamp s.ssrc s.sequence =
        .ok (ciphertext, record.nonce.drop 4, tag) ∧ ciphertext ++ tag = body := by
  obtain ⟨hn, ptype, bs, hb⟩ := recordStep_serialized h
  obtain ⟨ciphertext, nonce, tag, hq, -⟩ := serializeAudio_ok hc hb
  rw [hn]
  have hq' := hq
  unfold AudioCipher.encryptWithSeq at hq
  cases hbody : aead.encrypt cipher.key (seqNonce s.sequence)
      (buildAad record.timestamp s.ssrc) record.plaintext with
  | none =>
    rw [hbody] at hq
    cases hq
  | some body =>
    rw [hbody] at hq
    cases hq
    exact ⟨body, _, _, rfl, hq', take_append_drop _ _⟩

variable (ops : List (SenderOp (ChaChaPacketCipher aead)))

/-- The packets of a run, first to last. -/
def records : List AudioRecord :=
  (Mealy.outputs recordStep s ops).filterMap id

variable (s : RtpSender (ChaChaPacketCipher aead)) (op : SenderOp (ChaChaPacketCipher aead))

theorem records_cons (rest : List (SenderOp (ChaChaPacketCipher aead))) :
    records s (op :: rest) = (recordStep s op).2.toList ++ records (recordStep s op).1 rest := by
  unfold records Mealy.outputs
  simp only [Mealy.trace, map_cons, Mealy.turn]
  cases (recordStep s op).2 <;> rfl

theorem serializeAudio_sequence (ptype : UInt8) (ts : BitVec 32) (payload : Bytes) (mark : Bool) :
    (s.serializeAudio ptype ts payload mark).1.sequence = s.sequence + BitVec.ofNat 16
        (s.serializeAudio ptype ts payload mark).2.toOption.toList.length := by
  rcases s.serializeAudio_cases ptype ts payload mark rfl with
    ⟨cipher, err, -, hr⟩ | ⟨cipher, body, packet, -, -, hr⟩
  · rw [hr]
    simp [Except.toOption]
  · rw [hr]
    simp [Except.toOption, store]

/-- A call that makes a packet takes one sequence number, any other call
takes none. -/
theorem sequence_recordStep : (recordStep s op).1.sequence =
      s.sequence + BitVec.ofNat 16 (recordStep s op).2.toList.length := by
  cases op with
  | prepareAudio ptype ts payload mark =>
    have h := serializeAudio_sequence s ptype ts payload mark
    simp only [recordStep, perform, prepareAudio, SenderOp.content]
    rw [h]
    cases (s.serializeAudio ptype ts payload mark).2 <;> rfl
  | sendAudio ptype ts payload mark =>
    have h := serializeAudio_sequence s ptype ts payload mark
    simp only [recordStep, perform, SenderOp.content, sendAudio_sender]
    rw [h]
    cases (s.serializeAudio ptype ts payload mark).2 <;> rfl
  | prepareSync =>
    simp only [recordStep, perform, prepareSync]
    split <;> simp [SenderOp.content, noteSync]
  | preparePtpSync =>
    simp only [recordStep, perform, preparePtpSync]
    split <;> simp [SenderOp.content, noteSync]
  | resetSyncState | setCipher | bind | setControlSocket | setControlDest =>
    simp [recordStep, perform, SenderOp.content, resetSyncState]

/-- The nonce of a packet counts the packets before it. -/
theorem nonce_of_records :
    ∀ (s : RtpSender (ChaChaPacketCipher aead)) (i : Nat) (record : AudioRecord),
      (records s ops)[i]? = some record →
        record.nonce = seqNonce (s.sequence + BitVec.ofNat 16 i) := by
  induction ops with
  | nil =>
    intro s i record h
    cases h
  | cons op _ ih =>
    intro s i record h
    have hs := sequence_recordStep s op
    rw [records_cons] at h
    cases hm : (recordStep s op).2 with
    | none =>
      rw [hm] at h hs
      rw [ih _ i record h, hs]
      simp
    | some first =>
      rw [hm] at h hs
      cases i with
      | zero =>
        obtain rfl : first = record := by simpa using h
        simp only [recordStep, map_eq_some_iff] at hm
        obtain ⟨_, -, rfl⟩ := hm
        simp
      | succ i =>
        rw [ih _ i record (by simpa using h), hs]
        simp only [toList_some, length_singleton]
        rw [BitVec.add_assoc, ← BitVec.ofNat_add, Nat.add_comm]

variable {s} {ops}

/-- Two packets share a nonce exactly when they lie a multiple of 2^16
packets apart. -/
theorem nonce_eq_iff {i j : Nat} {p q : AudioRecord}
    (hp : (records s ops)[i]? = some p) (hq : (records s ops)[j]? = some q) :
    p.nonce = q.nonce ↔ i % 65536 = j % 65536 := by
  rw [nonce_of_records ops s i p hp, nonce_of_records ops s j q hq, seqNonce_inj,
    BitVec.add_right_inj, ← BitVec.toNat_inj, BitVec.toNat_ofNat, BitVec.toNat_ofNat]

/-- Under one key, packets that differ have different nonces exactly when
packets a multiple of 2^16 apart do not differ. -/
theorem nonces_unique_iff (s : RtpSender (ChaChaPacketCipher aead))
    (ops : List (SenderOp (ChaChaPacketCipher aead))) (key : Bytes) :
    (∀ (i j : Nat) (p q : AudioRecord), (records s ops)[i]? = some p →
      (records s ops)[j]? = some q → p.key = some key → q.key = some key →
        p.content ≠ q.content → p.nonce ≠ q.nonce) ↔
    ∀ (i j : Nat) (p q : AudioRecord), (records s ops)[i]? = some p →
      (records s ops)[j]? = some q → p.key = some key → q.key = some key →
        i % 65536 = j % 65536 → p.content = q.content := by
  constructor
  · intro hu i j p q hp hq hk hqk ha
    by_contra hd
    exact hu i j p q hp hq hk hqk hd ((nonce_eq_iff hp hq).mpr ha)
  · intro hs i j p q hp hq hk hqk hd hn
    exact hd (hs i j p q hp hq hk hqk ((nonce_eq_iff hp hq).mp hn))

end Nonces

theorem records_replicate (payload : Bytes) (n : Nat) :
    ∀ (s : RtpSender (ChaChaPacketCipher chachaPoly)) (c : ChaChaPacketCipher chachaPoly),
      s.cipher = some c → ∀ rest, ∃ front after, front.length = n ∧ after.cipher = some c ∧
          records s (List.replicate n (.prepareAudio 96 0 payload false) ++ rest) =
            front ++ records after rest ∧
          ∀ record ∈ front, record.key = some c.cipher.key ∧ record.plaintext = payload := by
  induction n with
  | zero =>
    intro s c hc rest
    exact ⟨[], s, rfl, hc, rfl, by simp⟩
  | succ _ ih =>
    intro s c hc rest
    have hs : ∃ record, (recordStep s (.prepareAudio 96 0 payload false)).2 = some record ∧
        record.key = some c.cipher.key ∧ record.plaintext = payload ∧
        (recordStep s (.prepareAudio 96 0 payload false)).1.cipher = some c := by
      simp only [recordStep, perform, prepareAudio, serializeAudio, sealPayload, hc]
      exact ⟨_, rfl, rfl, rfl, rfl⟩
    obtain ⟨record, hm, hk, hp, hkp⟩ := hs
    obtain ⟨front, after, hlen, ha, hr, hall⟩ := ih _ c hkp rest
    refine ⟨record :: front, after, by simp [hlen], ha, ?_, ?_⟩
    · rw [replicate_succ, cons_append, records_cons, hm, hr]
      rfl
    · exact forall_mem_cons.mpr ⟨⟨hk, hp⟩, hall⟩

/-- One packet more than there are sequence numbers. -/
def wrappingCalls : List (SenderOp (ChaChaPacketCipher chachaPoly)) :=
  List.replicate 65536 (.prepareAudio 96 0 [1] false)
    ++ List.replicate 1 (.prepareAudio 96 0 [2] false)

/-- After 65536 packets the first nonce comes again, for another payload. -/
theorem nonce_comes_again :
    ¬ ∀ (i j : Nat) (p q : AudioRecord), (records (keyedSender 0) wrappingCalls)[i]? = some p →
      (records (keyedSender 0) wrappingCalls)[j]? = some q →
        p.key = some (List.replicate 32 1) → q.key = some (List.replicate 32 1) →
          p.content ≠ q.content → p.nonce ≠ q.nonce := by
  intro hu
  obtain ⟨front, after, hlen, hc, hr, hall⟩ := records_replicate [1] 65536
    (keyedSender 0) ⟨⟨List.replicate 32 1⟩⟩ rfl (List.replicate 1 (.prepareAudio 96 0 [2] false))
  obtain ⟨back, last, _, -, hs, hb⟩ := records_replicate [2] 1 after ⟨⟨List.replicate 32 1⟩⟩ hc []
  rw [append_nil] at hs
  have hsp : records (keyedSender 0) wrappingCalls = front ++ (back ++ records last []) := by
    rw [← hs]
    exact hr
  have hf : 0 < front.length := by omega
  have hl : 0 < back.length := by omega
  have hp : (records (keyedSender 0) wrappingCalls)[0]? = some front[0] := by
    rw [hsp, getElem?_append_left hf, getElem?_eq_getElem hf]
  have hq : (records (keyedSender 0) wrappingCalls)[65536]? = some back[0] := by
    rw [hsp, getElem?_append_right (by omega), hlen,
      getElem?_append_left hl, getElem?_eq_getElem hl]
  obtain ⟨hk, hpp⟩ := hall _ (getElem_mem hf)
  obtain ⟨hqk, hqp⟩ := hb _ (getElem_mem hl)
  refine hu 0 65536 _ _ hp hq hk hqk ?_ ((nonce_eq_iff hp hq).mpr rfl)
  intro hn
  have hy := congrArg Prod.fst hn
  simp only [AudioRecord.content, hpp, hqp] at hy
  cases hy

end RtpSender

end OpenAirCast.Audio
