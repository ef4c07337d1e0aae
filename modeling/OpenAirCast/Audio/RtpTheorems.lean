/-
Audio.RtpTheorems — what the history ring serves.

`Remembers` ties a sender to the packets it has prepared: the next sequence
number is their count, every packet carries its own number, and the ring
holds the last of them. Only `serializeAudio` touches any of this
(`serializeAudio_cases`), and only when it succeeds. A request then splits
into the slots that are served and the slots that are missed
(`handleRetransmit_spec`).
-/
import OpenAirCast.Audio.Rtp
import OpenAirCast.Lib.Mealy
import OpenAirCast.Lib.Ring

namespace OpenAirCast.Audio

open List

/-! ## Bytes of a packet -/

variable {w : Nat}

theorem fromBe_beBytes (hw : 256 ^ (w / 8) = 2 ^ w) (x : BitVec w) : fromBe w (beBytes x) = x := by
  unfold fromBe beBytes
  rw [fromBeBytes_toBeBytes, hw, Nat.mod_eq_of_lt x.isLt, BitVec.ofNat_toNat, BitVec.setWidth_eq]

theorem beBytes_fromBe (hw : 256 ^ (w / 8) = 2 ^ w) {bytes : Bytes}
    (hlen : bytes.length = w / 8) : beBytes (fromBe w bytes) = bytes := by
  unfold beBytes fromBe toBeBytes fromBeBytes
  rw [BitVec.toNat_ofNat, ← hw, toLeBytes_mod, ← hlen, ← length_reverse, toLeBytes_fromLeBytes,
    reverse_reverse]

@[simp] theorem length_beBytes (x : BitVec w) : (beBytes x).length = w / 8 :=
  length_toBeBytes _ _

theorem length_serialize (header : RtpHeader) : header.serialize.length = 12 := by
  simp [RtpHeader.serialize]

/-- A packet tells its sequence number. -/
theorem storedSequence_serialize (header : RtpHeader) (body : Bytes) :
    storedSequence (header.serialize ++ body) = some header.sequence := by
  have hb : ((header.serialize ++ body).drop 2).take 2 = beBytes header.sequence := by
    unfold RtpHeader.serialize
    simp only [cons_append, nil_append, append_assoc, drop_succ_cons, drop_zero]
    rw [take_append_of_le_length (by simp), take_of_length_le (by simp)]
  unfold storedSequence
  rw [if_pos (by simp [length_serialize]; omega), hb, fromBe_beBytes rfl]

/-- A response is the retransmit header with the sequence number of the
packet, and the packet. -/
theorem buildRetransmitResponse_eq {packet : Bytes} {sequence : BitVec 16}
    (h : storedSequence packet = some sequence) :
    buildRetransmitResponse packet = [0x80, 0xD6] ++ beBytes sequence ++ packet := by
  unfold storedSequence at h
  split at h
  · rename_i hlen
    obtain rfl := Option.some.inj h
    unfold buildRetransmitResponse
    rw [if_pos hlen, beBytes_fromBe rfl (by simp; omega)]
    rfl
  · cases h

namespace RtpSender

variable {κ : Type}

variable {packets : List Bytes}

/-! ## What a sender remembers -/

/-- The sender has prepared these packets. -/
structure Remembers (s : RtpSender κ) (packets : List Bytes) : Prop where
  counted : s.sequence = BitVec.ofNat 16 packets.length
  numbered : ∀ j packet, packets[j]? = some packet →
    storedSequence packet = some (BitVec.ofNat 16 j)
  held : Ring.Holds s.packetHistory packets

theorem remembers_new (dest : SocketAddr) (ssrc : BitVec 32) :
    (new dest ssrc : RtpSender κ).Remembers [] := by
  refine ⟨rfl, fun j pkt h => ?_, Ring.holds_nil⟩
  cases h

variable {s s' : RtpSender κ}

theorem Remembers.of_eq (h : s.Remembers packets)
    (hs : s'.sequence = s.sequence) (hh : s'.packetHistory = s.packetHistory) :
    s'.Remembers packets :=
  ⟨hs.trans h.counted, h.numbered, by rw [hh]; exact h.held⟩

/-- 512 divides 65536, so the ring does not notice the wrap. -/
theorem historySlot_ofNat (n : Nat) :
    (historySlot (BitVec.ofNat 16 n) : Nat) = n % PACKET_HISTORY_SIZE := by
  show (BitVec.ofNat 16 n).toNat % 512 = n % 512
  rw [BitVec.toNat_ofNat]
  omega

theorem Remembers.store (h : s.Remembers packets)
    {pkt : Bytes} (hn : storedSequence pkt = some s.sequence) :
    (s.store pkt).Remembers (packets ++ [pkt]) := by
  refine ⟨?_, fun j other hj => ?_, ?_⟩
  · show s.sequence + 1 = _
    rw [h.counted, length_append, length_singleton]
    simp [BitVec.ofNat_add]
  · rcases Nat.lt_or_ge j packets.length with hold | _
    · rw [getElem?_append_left hold] at hj
      exact h.numbered j other hj
    · have hlt : j < (packets ++ [pkt]).length := (List.getElem?_eq_some_iff.mp hj).1
      rw [length_append, length_singleton] at hlt
      obtain rfl : j = packets.length := by omega
      rw [getElem?_concat_length] at hj
      cases hj
      rw [hn, h.counted]
  · refine h.held.push pkt ?_
    rw [h.counted, historySlot_ofNat]

/-- The ring serves exactly the last packets. -/
theorem Remembers.lookup_iff (h : s.Remembers packets) (seq : BitVec 16) (pkt : Bytes) :
    s.lookup seq = some pkt ↔ ∃ j, packets[j]? = some pkt ∧
      packets.length ≤ j + PACKET_HISTORY_SIZE ∧ seq = BitVec.ofNat 16 j := by
  unfold lookup
  rw [Option.filter_eq_some_iff, h.held, beq_iff_eq]
  constructor
  · rintro ⟨⟨j, hj, -, hr⟩, hs⟩
    refine ⟨j, hj, hr, ?_⟩
    rw [h.numbered j pkt hj] at hs
    exact (Option.some.inj hs).symm
  · rintro ⟨j, hj, hr, rfl⟩
    exact ⟨⟨j, hj, (historySlot_ofNat j).symm, hr⟩, h.numbered j pkt hj⟩

/-! ## Preparing packets -/

section Preparing

variable [PacketCipher κ]

theorem sealPayload_keeps (s : RtpSender κ) (ts : BitVec 32) (pay : Bytes) :
    ∃ cipher, (s.sealPayload ts pay).1 = { s with cipher } := by
  unfold sealPayload
  split
  · exact ⟨s.cipher, rfl⟩
  · split
    · exact ⟨_, rfl⟩
    · exact ⟨_, rfl⟩

/-- A packet is prepared, or the encryption failed and only the cipher has
moved. -/
theorem serializeAudio_cases (s : RtpSender κ) (ptype : UInt8) (ts : BitVec 32)
    (pay : Bytes) (mark : Bool) {r : RtpSender κ × Except AudioError Bytes}
    (hr : s.serializeAudio ptype ts pay mark = r) :
    (∃ cipher error, (s.sealPayload ts pay).2 = .error error ∧
      r = ({ s with cipher }, .error error)) ∨
    ∃ cipher body pkt, (s.sealPayload ts pay).2 = .ok body ∧
      pkt = (s.nextHeader ptype ts mark).serialize ++ body ∧
      r = ({ s with cipher }.store pkt, .ok pkt) := by
  subst hr
  obtain ⟨cipher, hk⟩ := s.sealPayload_keeps ts pay
  unfold serializeAudio
  cases hs : s.sealPayload ts pay with
  | mk after res =>
    rw [hs] at hk
    obtain rfl : after = { s with cipher } := hk
    cases res with
    | error error => exact .inl ⟨cipher, error, rfl, rfl⟩
    | ok body => exact .inr ⟨cipher, body, _, rfl, rfl, rfl⟩

theorem Remembers.serializeAudio
    (h : s.Remembers packets) (ptype : UInt8) (ts : BitVec 32) (pay : Bytes)
    (mark : Bool) :
    (s.serializeAudio ptype ts pay mark).1.Remembers (packets ++
        (s.serializeAudio ptype ts pay mark).2.toOption.toList) := by
  rcases s.serializeAudio_cases ptype ts pay mark rfl with
    ⟨cipher, err, -, hr⟩ | ⟨cipher, body, pkt, -, rfl, hr⟩
  · rw [hr]
    simp only [Except.toOption, Option.toList_none, append_nil]
    exact h.of_eq rfl rfl
  · rw [hr]
    have hk : ({ s with cipher } : RtpSender κ).Remembers packets := h.of_eq rfl rfl
    exact hk.store (storedSequence_serialize _ _)

theorem sendAudio_sender (s : RtpSender κ) (ptype : UInt8) (ts : BitVec 32)
    (pay : Bytes) (mark : Bool) (net : Except AudioError Nat) :
    (s.sendAudio ptype ts pay mark net).1 = (s.serializeAudio ptype ts pay mark).1 := by
  unfold sendAudio
  cases s.serializeAudio ptype ts pay mark with
  | mk after res =>
    cases res with
    | error => rfl
    | ok =>
      dsimp only
      cases after.socket <;> rfl

/-! ## Runs -/

/-- What is done to a sender. -/
inductive SenderOp (κ : Type) where
  | prepareAudio (payloadType : UInt8) (timestamp : BitVec 32) (payload : Bytes) (marker : Bool)
  | sendAudio (payloadType : UInt8) (timestamp : BitVec 32) (payload : Bytes) (marker : Bool)
      (network : Except AudioError Nat)
  | prepareSync (rtpTimestamp : BitVec 32) (ntpTimestamp : BitVec 64)
  | preparePtpSync (currentRtpTs : BitVec 32) (ptpClockNs : Nat) (nextRtpTs : BitVec 32)
      (masterClockId : BitVec 64)
  | resetSyncState
  | setCipher (cipher : κ)
  | bind (socket : UdpSocket)
  | setControlSocket (socket : UdpSocket)
  | setControlDest (dest : SocketAddr)

/-- The sender afterwards, with the packet that was prepared. -/
def perform (s : RtpSender κ) : SenderOp κ → RtpSender κ × Option Bytes
  | .prepareAudio payloadType timestamp payload marker =>
    let r := s.prepareAudio payloadType timestamp payload marker
    (r.1, r.2.toOption)
  | .sendAudio payloadType timestamp payload marker network =>
    ((s.sendAudio payloadType timestamp payload marker network).1,
      (s.serializeAudio payloadType timestamp payload marker).2.toOption)
  | .prepareSync rtpTimestamp ntpTimestamp => ((s.prepareSync rtpTimestamp ntpTimestamp).1, none)
  | .preparePtpSync currentRtpTs ptpClockNs nextRtpTs masterClockId =>
    ((s.preparePtpSync currentRtpTs ptpClockNs nextRtpTs masterClockId).1, none)
  | .resetSyncState => (s.resetSyncState, none)
  | .setCipher cipher => ({ s with cipher := some cipher }, none)
  | .bind socket => ({ s with socket := some socket }, none)
  | .setControlSocket socket => ({ s with controlSocket := some socket }, none)
  | .setControlDest dest => ({ s with controlDest := some dest }, none)

theorem Remembers.perform (h : s.Remembers packets) (op : SenderOp κ) :
    (s.perform op).1.Remembers (packets ++ (s.perform op).2.toList) := by
  have hs : ∀ {s' : RtpSender κ}, s'.sequence = s.sequence →
      s'.packetHistory = s.packetHistory → s'.Remembers (packets ++ []) := by
    intro s' hq hh
    rw [append_nil]
    exact h.of_eq hq hh
  cases op with
  | prepareAudio ptype ts pay mark => exact h.serializeAudio ptype ts pay mark
  | sendAudio ptype ts pay mark =>
    unfold RtpSender.perform
    rw [sendAudio_sender]
    exact h.serializeAudio ptype ts pay mark
  | prepareSync => refine hs ?_ ?_ <;> simp only [RtpSender.perform, prepareSync] <;> split <;> rfl
  | preparePtpSync =>
    refine hs ?_ ?_ <;> simp only [RtpSender.perform, preparePtpSync] <;> split <;> rfl
  | resetSyncState | setCipher | bind | setControlSocket | setControlDest => exact hs rfl rfl

/-- After any operations the sender remembers all its packets. -/
theorem remembers_run (dest : SocketAddr) (ssrc : BitVec 32) (ops : List (SenderOp κ)) :
    (Mealy.run perform (new dest ssrc) ops).Remembers
      ((Mealy.outputs perform (new dest ssrc) ops).filterMap id) := by
  have hr := @Mealy.trace_induction _ _ _ (perform : RtpSender κ → _)
    (fun turns s => s.Remembers ((turns.map (·.output)).filterMap id)) (new dest ssrc)
    (remembers_new dest ssrc) (fun turns s op h => by
      have hn := h.perform op
      rw [map_append, filterMap_append]
      cases ho : (s.perform op).2 <;> simpa [Mealy.turn, ho] using hn) ops
  exact hr

end Preparing

/-! ## Requests -/

/-- What becomes of a requested slot. -/
inductive SlotFate where
  | missed
  | accepted
  | empty
  | failed
  deriving DecidableEq

variable (s)

/-- Without a socket a packet that is there fails to be sent. -/
def fate (sequence : BitVec 16) (network : Except AudioError Nat) : SlotFate :=
  if (s.lookup sequence).isNone then .missed
  else if s.controlVia.isNone then .failed
  else
    match network with
    | .ok 0 => .empty
    | .ok _ => .accepted
    | .error _ => .failed

/-- The datagram that answers a slot. -/
def answerFor (sequence : BitVec 16) : Option Datagram :=
  s.controlVia.bind (fun socket => (s.lookup sequence).map (fun packet =>
    ⟨socket, s.controlTarget, buildRetransmitResponse packet⟩))

theorem bump_of_lt {n : Nat} (h : n < 65535) : bump n = n + 1 := if_pos h

variable (fates : List SlotFate)

theorem countP_fate_concat (last kind : SlotFate) : (fates ++ [last]).countP (· == kind) =
      fates.countP (· == kind) + if last = kind then 1 else 0 := by
  rw [countP_append, countP_singleton]
  simp

theorem retransmitSlot_spec (seq : BitVec 16)
    (net : Except AudioError Nat) {sent : List Datagram} {outc : RetransmitOutcome}
    (ha : outc.acceptedLocal < 65535) (hm : outc.historyMisses < 65535)
    (hf : outc.sendFailures < 65535) :
    s.retransmitSlot seq net (sent, outc) = (sent ++ (s.answerFor seq).toList, { outc with
          acceptedLocal := outc.acceptedLocal + if s.fate seq net = .accepted then 1 else 0
          historyMisses := outc.historyMisses + if s.fate seq net = .missed then 1 else 0
          sendFailures := outc.sendFailures + if s.fate seq net = .failed then 1 else 0 }) := by
  unfold retransmitSlot fate answerFor
  cases s.lookup seq with
  | none => cases s.controlVia <;> simp [bump_of_lt hm]
  | some =>
    cases s.controlVia with
    | none => simp [bump_of_lt hf]
    | some =>
      cases net with
      | error => simp [bump_of_lt hf]
      | ok n => cases n <;> simp [bump_of_lt ha]

theorem handleRetransmit_spec (req : RetransmitRequest)
    (net : Nat → Except AudioError Nat) :
    let slots := List.range req.count.toNat
    let fates := slots.map (fun i => s.fate (req.slot i) (net i))
    s.handleRetransmit req net =
      (slots.filterMap (fun i => s.answerFor (req.slot i)),
        { requestedSlots := req.count
          acceptedLocal := fates.countP (· == .accepted)
          historyMisses := fates.countP (· == .missed)
          sendFailures := fates.countP (· == .failed) }) := by
  have hall : ∀ n, n ≤ 65535 →
      (List.range n).foldl (fun sofar i => s.retransmitSlot (req.slot i) (net i) sofar)
        ([], { requestedSlots := req.count }) =
      ((List.range n).filterMap (fun i => s.answerFor (req.slot i)),
        { requestedSlots := req.count
          acceptedLocal := ((List.range n).map (fun i =>
            s.fate (req.slot i) (net i))).countP (· == .accepted)
          historyMisses := ((List.range n).map (fun i =>
            s.fate (req.slot i) (net i))).countP (· == .missed)
          sendFailures := ((List.range n).map (fun i =>
            s.fate (req.slot i) (net i))).countP (· == .failed) }) := by
    intro n
    induction n with
    | zero => exact fun _ => rfl
    | succ n ih =>
      intro hn
      have hlt : ∀ kind : SlotFate, ((List.range n).map (fun i =>
          s.fate (req.slot i) (net i))).countP (· == kind) < 65535 := by
        intro kind
        refine Nat.lt_of_le_of_lt countP_le_length ?_
        rw [length_map, length_range]
        omega
      rw [range_succ, foldl_append, ih (by omega), foldl_cons, foldl_nil,
        s.retransmitSlot_spec _ _ (hlt _) (hlt _) (hlt _)]
      simp only [filterMap_append, map_append,
        map_singleton, countP_fate_concat]
      rfl
  exact hall _ (by omega)

theorem fates_partition :
    fates.countP (· == .missed) + fates.countP (· == .accepted) + fates.countP (· == .failed)
      + fates.countP (· == .empty) = fates.length := by
  induction fates with
  | nil => rfl
  | cons first =>
    simp only [countP_cons, length_cons]
    cases first <;> simp <;> omega

variable {s}

/-- Without a failure of the cipher a sender moves on; with one it stays. -/
theorem serializeAudio_failed [PacketCipher κ] {ptype : UInt8}
    {ts : BitVec 32} {pay : Bytes} {mark : Bool} {err : AudioError}
    (h : (s.serializeAudio ptype ts pay mark).2 = .error err) :
    ∃ cipher, (s.serializeAudio ptype ts pay mark).1 = { s with cipher } := by
  rcases s.serializeAudio_cases ptype ts pay mark rfl with
    ⟨cipher, fail, -, hr⟩ | ⟨cipher, body, pkt, -, -, hr⟩
  · rw [hr]
    exact ⟨cipher, rfl⟩
  · rw [hr] at h
    cases h

/-- After any run, a requested slot is served exactly when its sequence
number is that of one of the last 512 packets prepared, with a header of its
number and the bytes of that packet; the others are misses, every slot is counted once, and a
failed encryption moves neither the sequence nor the history. -/
theorem retransmission_serves_last_packets [PacketCipher κ] (dest : SocketAddr)
    (ssrc : BitVec 32) (ops : List (SenderOp κ)) (request : RetransmitRequest)
    (network : Nat → Except AudioError Nat) :
    let s := Mealy.run perform (new dest ssrc) ops
    let packets := (Mealy.outputs perform (new dest ssrc) ops).filterMap id
    let slots := List.range request.count.toNat
    let sent := (s.handleRetransmit request network).1
    let outc := (s.handleRetransmit request network).2
    (∀ i pkt, s.lookup (request.slot i) = some pkt ↔ ∃ j, packets[j]? = some pkt ∧
      packets.length ≤ j + PACKET_HISTORY_SIZE ∧ request.slot i = BitVec.ofNat 16 j) ∧
    (∀ i pkt, s.lookup (request.slot i) = some pkt →
      buildRetransmitResponse pkt = [0x80, 0xD6] ++ beBytes (request.slot i) ++ pkt) ∧
    sent = s.controlVia.toList.flatMap (fun socket =>
      (slots.filterMap (fun i => s.lookup (request.slot i))).map (fun pkt =>
        ⟨socket, s.controlTarget, buildRetransmitResponse pkt⟩)) ∧
    outc.historyMisses = slots.countP (fun i => (s.lookup (request.slot i)).isNone) ∧
    outc.historyMisses + outc.acceptedLocal + outc.sendFailures
      + slots.countP (fun i => s.fate (request.slot i) (network i) == .empty)
        = request.count.toNat ∧
    ∀ ptype ts pay mark error, (s.serializeAudio ptype ts pay mark).2 = .error error →
        (s.serializeAudio ptype ts pay mark).1.sequence = s.sequence ∧
        (s.serializeAudio ptype ts pay mark).1.packetHistory =
          s.packetHistory := by
  intro s packets slots sent outc
  have hr : s.Remembers packets := remembers_run dest ssrc ops
  have hs := s.handleRetransmit_spec request network
  have hn : sent = _ := congrArg Prod.fst hs
  have ho : outc = _ := congrArg Prod.snd hs
  rw [hn, ho]
  dsimp only
  refine ⟨fun i pkt => hr.lookup_iff _ pkt, ?_, ?_, ?_, ?_, ?_⟩
  · intro i pkt hl
    obtain ⟨j, hj, -, hq⟩ := (hr.lookup_iff _ pkt).mp hl
    exact buildRetransmitResponse_eq (hq ▸ hr.numbered j pkt hj)
  · unfold answerFor
    cases s.controlVia with
    | none => simp
    | some =>
      rw [Option.toList_some, flatMap_singleton, map_filterMap]
      rfl
  · rw [countP_map]
    refine countP_congr (fun i _ => ?_)
    show (s.fate (request.slot i) (network i) == .missed) = true ↔ _
    unfold fate
    cases s.lookup (request.slot i) with
    | none => simp
    | some =>
      cases s.controlVia with
      | none => simp
      | some =>
        cases network i with
        | error => simp
        | ok n => cases n <;> simp
  · have hp := fates_partition (slots.map (fun i => s.fate (request.slot i) (network i)))
    have he : slots.countP (fun i => s.fate (request.slot i) (network i) == .empty) =
        (slots.map (fun i => s.fate (request.slot i) (network i))).countP (· == .empty) := by
      rw [countP_map]
      rfl
    rw [he]
    rw [length_map, length_range] at hp
    exact hp
  · intro ptype ts pay mark error her
    obtain ⟨_, hk⟩ := serializeAudio_failed her
    rw [hk]
    exact ⟨rfl, rfl⟩

end RtpSender

end OpenAirCast.Audio
