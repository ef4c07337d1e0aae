/-
Audio.FrameTheorems — when a frame is prepared for everyone or
for no one.

A frame that is turned down before the first sender is touched leaves all
of them as they were (`prepare_of_turnsDown`). Past that, every sender that
owes a sync packet has built it, and the audio loop either goes through
(`prepare_ok`) or stops at the first cipher that fails (`prepare_failed`),
with the senders before it already a packet further.
-/
import OpenAirCast.Audio.Frame
import OpenAirCast.Audio.RtpTheorems

namespace OpenAirCast.Audio

open Timing List FramePlan RtpSender

/-! ## Reading packets -/

theorem secondByte_marker (mark : Bool) (b : BitVec 8) :
    ((mark.toUInt8 <<< 7 ||| UInt8.ofBitVec b &&& 0x7F) >>> 7 &&& 0x01 != 0) = mark := by
  revert mark b
  decide

theorem secondByte_payloadType (mark : Bool) (b : BitVec 8) :
    (mark.toUInt8 <<< 7 ||| UInt8.ofBitVec b &&& 0x7F) &&& 0x7F = UInt8.ofBitVec b &&& 0x7F := by
  revert mark b
  decide

/-- Seven bits carry a payload type below 128. -/
theorem payloadType_masked_iff (b : BitVec 8) :
    UInt8.ofBitVec b &&& 0x7F = UInt8.ofBitVec b ↔ UInt8.ofBitVec b < 128 := by
  revert b
  decide

theorem parse_serialize (header : RtpHeader) (body : Bytes) :
    ∃ read, RtpHeader.parse (header.serialize ++ body) = some read ∧
      read.timestamp = header.timestamp ∧ read.marker = header.marker ∧
      read.payloadType = header.payloadType &&& 0x7F := by
  have hl : ¬ (header.serialize ++ body).length < 12 := by
    rw [length_append, length_serialize]
    omega
  have hs : (header.serialize ++ body).getD 1 0 = header.secondByte := by simp [RtpHeader.serialize]
  have ht : ((header.serialize ++ body).drop 4).take 4 = beBytes header.timestamp := by
    have hlen : (beBytes header.sequence).length = 2 := length_beBytes _
    have hk : (header.serialize ++ body).drop 4 =
        beBytes header.timestamp ++ (beBytes header.ssrc ++ body) := by
      unfold RtpHeader.serialize
      simp only [cons_append, nil_append, append_assoc, drop_succ_cons]
      rw [drop_append_of_le_length (by rw [hlen]), drop_of_length_le (by rw [hlen]), nil_append]
    rw [hk, take_append_of_le_length (by simp), take_of_length_le (by simp)]
  unfold RtpHeader.parse
  rw [if_neg hl, hs, ht, fromBe_beBytes rfl]
  exact ⟨_, rfl, rfl, secondByte_marker header.marker header.payloadType.toBitVec,
    secondByte_payloadType header.marker header.payloadType.toBitVec⟩

/-- The presentation time that a sync packet says: PT=87 counts seconds
plainly, PT=84 from 1900. -/
def presentationNs (usePtpSync : Bool) (packet : Bytes) : Nat :=
  let seconds := fromBe 32 ((packet.drop 8).take 4)
  let fraction := fromBe 32 ((packet.drop 12).take 4)
  let sinceEpoch := if usePtpSync then seconds else seconds - BitVec.ofNat 32 NTP_EPOCH_OFFSET
  sinceEpoch.toNat * NS_PER_SECOND + nsOfFraction fraction.toNat

theorem toBeBytes_mod (width n : Nat) : toBeBytes width (n % 256 ^ width) = toBeBytes width n := by
  unfold toBeBytes
  rw [toLeBytes_mod]

theorem beBytes_ofNat {w : Nat} (hw : 256 ^ (w / 8) = 2 ^ w) (n : Nat) :
    beBytes (BitVec.ofNat w n) = toBeBytes (w / 8) n := by
  unfold beBytes
  rw [BitVec.toNat_ofNat, ← hw, toBeBytes_mod]

/-- An NTP timestamp is its seconds and its fraction. -/
theorem beBytes_unixToNtp (ns : Nat) :
    beBytes (unixToNtp ns) = beBytes (BitVec.ofNat 32 (ns / NS_PER_SECOND + NTP_EPOCH_OFFSET))
      ++ beBytes (BitVec.ofNat 32 (binaryFraction ns)) := by
  unfold unixToNtp
  rw [beBytes_ofNat rfl, beBytes_ofNat rfl, beBytes_ofNat rfl]
  exact toBeBytes_append 4 4 _ _ (binaryFraction_lt ns)

/-- Seconds and fraction give the time back, as far as 32 bits count
seconds. -/
theorem time_of_words_iff (ns : Nat) : (BitVec.ofNat 32 (ns / NS_PER_SECOND)).toNat * NS_PER_SECOND
      + nsOfFraction (BitVec.ofNat 32 (binaryFraction ns)).toNat = ns
    ↔ ns < 2 ^ 32 * NS_PER_SECOND := by
  rw [BitVec.toNat_ofNat, BitVec.toNat_ofNat, Nat.mod_eq_of_lt (binaryFraction_lt ns),
    nsOfFraction_binaryFraction]
  unfold NS_PER_SECOND
  omega

theorem words_at {front back a b : Bytes} (hf : front.length = 8) (ha : a.length = 4)
    (hb : b.length = 4) :
    ((front ++ a ++ b ++ back).drop 8).take 4 = a ∧
      ((front ++ a ++ b ++ back).drop 12).take 4 = b := by
  have h8 : (front ++ a ++ b ++ back).drop 8 = a ++ (b ++ back) := by
    rw [append_assoc, append_assoc, drop_append_of_le_length (by omega),
      drop_of_length_le (by omega), nil_append]
  have h12 : (front ++ a ++ b ++ back).drop 12 = b ++ back := by
    have hlen : (front ++ a).length = 12 := by simp [hf, ha]
    rw [append_assoc, drop_append_of_le_length (by omega), drop_of_length_le (by omega), nil_append]
  rw [h8, h12, take_append_of_le_length (by omega), take_of_length_le (by omega),
    take_append_of_le_length (by omega), take_of_length_le (by omega)]
  exact ⟨rfl, rfl⟩

/-! ## What every sender has noted -/

section Preparing

variable {κ : Type}

/-- A sender has a control port, so a sync packet can reach its receiver. -/
def RtpSender.takesSync (s : RtpSender κ) : Bool := s.controlTarget.port != 0

/-- What a frame moves of a sender. -/
def RtpSender.books (s : RtpSender κ) :
    BitVec 16 × BitVec 16 × Bool × (Fin PACKET_HISTORY_SIZE → Option Bytes) :=
  (s.sequence, s.syncSequence, s.firstSyncSent, s.packetHistory)

namespace FramePlan

variable {plan : FramePlan} {delays : List Nat}

/-- A sender after the sync packets of the frame are built. -/
def noted (plan : FramePlan) (s : RtpSender κ) : RtpSender κ :=
  if plan.syncDue && s.takesSync then s.noteSync else s

/-- A sender without a control port is left alone. Another one builds a
packet that says the presentation time, as far as 32 bits count its
seconds. -/
theorem syncFor_cases (plan : FramePlan) (s : RtpSender κ) (time : Nat) :
    (s.takesSync = false ∧ plan.syncFor s time = (s, none)) ∨
    (s.takesSync = true ∧ ∃ packet, plan.syncFor s time = (s.noteSync, some packet) ∧
      (presentationNs plan.usePtpSync packet = time ↔ time < 2 ^ 32 * NS_PER_SECOND)) := by
  unfold syncFor preparePtpSync prepareSync takesSync
  by_cases hp : s.controlTarget.port = 0
  · rw [if_pos hp, if_pos hp, ite_self]
    exact .inl ⟨by rw [hp]; rfl, rfl⟩
  rw [if_neg hp, if_neg hp]
  refine .inr ⟨by simpa using hp, ?_⟩
  rw [← time_of_words_iff]
  by_cases ht : plan.usePtpSync = true
  · rw [if_pos ht, ht]
    obtain ⟨hs, hf⟩ := @words_at
      ([s.syncFirstByte, 0xD7] ++ beBytes s.syncSequence ++ beBytes plan.rtpTimestamp)
      (beBytes plan.nextRtpTimestamp ++ beBytes plan.ptpMasterClockId)
      (beBytes (ptpSeconds time)) (beBytes (ptpFraction time))
      (by simp) (by simp) (by simp)
    refine ⟨_, rfl, ?_⟩
    unfold presentationNs
    rw [append_assoc _ (beBytes plan.nextRtpTimestamp), hs, hf,
      fromBe_beBytes rfl, fromBe_beBytes rfl]
    rfl
  · rw [if_neg ht, Bool.eq_false_iff.mpr ht]
    obtain ⟨hs, hf⟩ := @words_at
      ([s.syncFirstByte, 0xd4] ++ beBytes s.syncSequence ++ beBytes plan.rtpTimestamp)
      (beBytes plan.rtpTimestamp)
      (beBytes (BitVec.ofNat 32 (time / NS_PER_SECOND + NTP_EPOCH_OFFSET)))
      (beBytes (BitVec.ofNat 32 (binaryFraction time)))
      (by simp) (by simp) (by simp)
    refine ⟨_, rfl, ?_⟩
    unfold presentationNs
    rw [beBytes_unixToNtp, ← append_assoc _ (beBytes (BitVec.ofNat 32 _)), hs,
      hf, fromBe_beBytes rfl, fromBe_beBytes rfl, BitVec.ofNat_add]
    simp only [Bool.false_eq_true, if_false, BitVec.add_sub_cancel]

/-- Anchor, lead and delay together. -/
def due (plan : FramePlan) (delayNs : Nat) : Nat :=
  plan.commonMasterTimeNs + plan.globalRenderLeadNs + delayNs

theorem presentation_eq {dly time : Nat}
    (h : plan.presentation dly = .ok time) : time = plan.due dly := by
  unfold presentation checkedPresentationTimeNs at h
  split at h
  · cases h
  · rename_i sum hs
    obtain ⟨lead, hl, hd⟩ := Option.bind_eq_some_iff.mp hs
    unfold checkedAdd at hl hd
    split at h
    · cases h
    · cases h
      split at hl
      · cases hl
        split at hd
        · cases hd
          rfl
        · cases hd
      · cases hl

/-- A frame cannot be presented with this delay. -/
def unpresentable (plan : FramePlan) (delayNs : Nat) : Bool :=
  (plan.presentation delayNs).toOption.isNone

/-- Either some presentation time cannot be, or every one is its sum. -/
theorem presentationTimes_cases (plan : FramePlan) (delays : List Nat) : ∀ index,
    (∃ error, plan.presentationTimes index delays = .error error ∧
      ∃ delay ∈ delays, plan.unpresentable delay = true) ∨
    (plan.presentationTimes index delays = .ok (delays.map plan.due) ∧
      ∀ delay ∈ delays, plan.unpresentable delay = false) := by
  induction delays with
  | nil => exact fun _ => .inr ⟨rfl, fun _ h => by cases h⟩
  | cons delay _ ih =>
    intro index
    unfold presentationTimes
    cases hf : plan.presentation delay with
    | error =>
      refine .inl ⟨_, rfl, delay, mem_cons_self, ?_⟩
      rw [unpresentable, hf]
      rfl
    | ok =>
      have hp : plan.unpresentable delay = false := by
        rw [unpresentable, hf]
        rfl
      rcases ih (index + 1) with ⟨error, he, late, hl, hn⟩ | ⟨ho, hall⟩
      · rw [he]
        exact .inl ⟨error, rfl, late, mem_cons_of_mem _ hl, hn⟩
      · rw [ho, presentation_eq hf]
        exact .inr ⟨rfl, forall_mem_cons.mpr ⟨hp, hall⟩⟩

/-- The frame is turned down before the first sender is touched. -/
def turnsDown (plan : FramePlan) (senders : List (RtpSender κ)) (delays : List Nat) : Prop :=
  senders.length ≠ delays.length ∨
    (plan.syncDue = true ∧ ∃ delay ∈ delays, plan.unpresentable delay = true)

variable {sndrs : List (RtpSender κ)}

/-- Sync packets are built for each sender by itself. -/
theorem syncAll_senders (plan : FramePlan) {times : List Nat}
    (hlen : plan.syncDue = true → times.length = sndrs.length) :
    (plan.syncAll sndrs times).map (·.1) = sndrs.map plan.noted := by
  unfold syncAll
  by_cases hd : plan.syncDue = true
  · rw [if_pos hd, map_zipWith]
    replace hlen := hlen hd
    induction sndrs generalizing times with
    | nil => rfl
    | cons s _ ih =>
      cases times with
      | nil => cases hlen
      | cons time =>
        have hf : (plan.syncFor s time).1 = plan.noted s := by
          unfold noted
          rcases plan.syncFor_cases s time with ⟨ht, hs⟩ | ⟨ht, _, hs, -⟩
          · rw [hs, hd, ht]
            rfl
          · rw [hs, hd, ht]
            rfl
        rw [zipWith_cons_cons, map_cons, hf, ih (Nat.succ.inj hlen)]
  · rw [if_neg hd, map_map]
    refine map_congr_left (fun s _ => ?_)
    simp [noted, hd]

/-- The sync packets say the presentation times, as far as 32 bits count
their seconds. -/
theorem timed_iff (hu : plan.syncDue = true) :
    (∀ (i : Nat) (sender : RtpSender κ) (dly : Nat), sndrs[i]? = some sender →
      delays[i]? = some dly →
        ∃ packet, ((plan.syncAll sndrs (delays.map plan.due)).map (·.2))[i]? = some packet ∧
        packet.isSome = sender.takesSync ∧
        ∀ bs, packet = some bs → presentationNs plan.usePtpSync bs =
          plan.commonMasterTimeNs + plan.globalRenderLeadNs + dly) ↔
    ∀ (i : Nat) (sender : RtpSender κ) (dly : Nat), sndrs[i]? = some sender →
      delays[i]? = some dly → sender.takesSync = true → plan.due dly < 2 ^ 32 * NS_PER_SECOND := by
  have hp : ∀ (i : Nat) sender dly, sndrs[i]? = some sender → delays[i]? = some dly →
      ((plan.syncAll sndrs (delays.map plan.due)).map (·.2))[i]? =
        some (plan.syncFor sender (plan.due dly)).2 := by
    intro i sender dly hn hd
    unfold syncAll
    rw [if_pos hu, getElem?_map, getElem?_zipWith, hn, getElem?_map, hd]
    rfl
  refine forall₄_congr (fun i sender dly hn => forall_congr' (fun hd => ?_))
  rw [hp i sender dly hn hd]
  rcases plan.syncFor_cases sender (plan.due dly) with
    ⟨ht, hs⟩ | ⟨ht, packet, hs, hy⟩
  · simp [hs, ht]
  · simp only [hs, ht, Option.some.injEq, exists_eq_left', Option.isSome_some, true_and,
      forall_eq', forall_const]
    exact hy

theorem noted_sequence (plan : FramePlan) (s : RtpSender κ) :
    (plan.noted s).sequence = s.sequence := by
  unfold noted
  split <;> rfl

/-- A sender keeps its books where it owes no sync packet. -/
theorem books_noted_iff (plan : FramePlan) (s : RtpSender κ) :
    (plan.noted s).books = s.books ↔ (plan.syncDue = true → s.takesSync = false) := by
  unfold noted
  cases plan.syncDue <;> cases s.takesSync <;> simp [books, noteSync]

/-! ## The audio loop -/

variable [PacketCipher κ]

/-- The cipher of a sender refuses the frame. -/
def cipherFails (plan : FramePlan) (s : RtpSender κ) : Bool :=
  (s.sealPayload plan.rtpTimestamp plan.payload).2.toOption.isNone

theorem failsAt_audioFor (plan : FramePlan) (s : RtpSender κ) :
    failsAt plan.audioFor s = plan.cipherFails s := by
  unfold failsAt cipherFails audioFor prepareAudio
  rcases s.serializeAudio_cases plan.payloadType plan.rtpTimestamp plan.payload plan.marker rfl with
    ⟨cipher, err, hs, hr⟩ | ⟨cipher, body, packet, hs, -, hr⟩
  · rw [hs, hr]
  · rw [hs, hr]
    rfl

/-- Sync state is nothing to a cipher. -/
theorem cipherFails_noted (plan : FramePlan) (s : RtpSender κ) :
    plan.cipherFails (plan.noted s) = plan.cipherFails s := by
  unfold noted
  split
  · unfold cipherFails sealPayload noteSync
    cases s.cipher with
    | none => rfl
    | some cipher =>
      dsimp only
      cases PacketCipher.encryptPayload cipher plan.payload plan.rtpTimestamp s.ssrc s.sequence with
      | mk after res => cases res <;> rfl
  · rfl

theorem prepare_of_turnsDown (h : plan.turnsDown sndrs delays) :
    ∃ err, prepareFrameForTargets sndrs delays plan = (sndrs, .error err) := by
  unfold prepareFrameForTargets
  by_cases hlen : sndrs.length = delays.length
  · obtain ⟨hd, dly, hl, hn⟩ := h.resolve_left (fun hne => hne hlen)
    rw [if_neg (fun hne => hne hlen), if_pos hd]
    rcases plan.presentationTimes_cases delays 0 with ⟨err, he, -⟩ | ⟨-, hall⟩
    · rw [he]
      exact ⟨err, rfl⟩
    · rw [hall dly hl] at hn
      cases hn
  · rw [if_pos hlen]
    exact ⟨_, rfl⟩

/-- Past the checks the result is that of the audio loop over senders that
have noted their sync packets. -/
theorem prepare_of_not_turnsDown (h : ¬ plan.turnsDown sndrs delays) :
    ∃ times, (plan.syncDue = true → times = delays.map plan.due) ∧
      (∀ after err, inPlace plan.audioFor (sndrs.map plan.noted) = (after, .error err) →
        prepareFrameForTargets sndrs delays plan = (after, .error (.packet err))) ∧
      ∀ after wirePackets, inPlace plan.audioFor (sndrs.map plan.noted) = (after, .ok wirePackets) →
        prepareFrameForTargets sndrs delays plan =
          (after, .ok ⟨wirePackets, (plan.syncAll sndrs times).map (·.2)⟩) := by
  have hlen : sndrs.length = delays.length := Decidable.not_not.mp (fun hne => h (.inl hne))
  have ht : ∃ times, (plan.syncDue = true → times = delays.map plan.due) ∧
      (if plan.syncDue then plan.presentationTimes 0 delays else .ok []) = .ok times := by
    by_cases hd : plan.syncDue = true
    · rw [if_pos hd]
      rcases plan.presentationTimes_cases delays 0 with ⟨err, -, hnn⟩ | ⟨ho, -⟩
      · exact absurd (.inr ⟨hd, hnn⟩) h
      · exact ⟨_, fun _ => rfl, ho⟩
    · rw [if_neg hd]
      exact ⟨[], fun hd' => absurd hd' hd, rfl⟩
  obtain ⟨times, hd, ht⟩ := ht
  have hn : (plan.syncAll sndrs times).map (·.1) = sndrs.map plan.noted :=
    plan.syncAll_senders (fun hs => by rw [hd hs, length_map, hlen])
  refine ⟨times, hd, ?_, ?_⟩
  · intro after err hl
    unfold prepareFrameForTargets
    rw [if_neg (fun hne => hne hlen), ht]
    dsimp only
    rw [hn, hl]
  · intro after wirePackets hl
    unfold prepareFrameForTargets
    rw [if_neg (fun hne => hne hlen), ht]
    dsimp only
    rw [hn, hl]

variable {s : RtpSender κ}

/-- A sender whose cipher holds puts out its packet and moves on. -/
theorem audioFor_ok (h : plan.cipherFails s = false) : ∃ cipher body wire,
      wire = (s.nextHeader plan.payloadType plan.rtpTimestamp plan.marker).serialize ++ body ∧
      plan.audioFor s = ({ s with cipher }.store wire, .ok wire) := by
  unfold audioFor prepareAudio
  rcases s.serializeAudio_cases plan.payloadType plan.rtpTimestamp plan.payload plan.marker rfl with
    ⟨cipher, err, hs, -⟩ | ⟨cipher, body, wire, -, hw, hr⟩
  · rw [cipherFails, hs] at h
    cases h
  · exact ⟨cipher, body, wire, hw, hr⟩

theorem audioFor_failed (h : plan.cipherFails s = true) :
    ∃ cipher, (plan.audioFor s).1 = { s with cipher } := by
  unfold audioFor prepareAudio
  rcases s.serializeAudio_cases plan.payloadType plan.rtpTimestamp plan.payload plan.marker rfl with
    ⟨cipher, err, -, hr⟩ | ⟨cipher, body, wire, hs, -, -⟩
  · rw [hr]
    exact ⟨cipher, rfl⟩
  · rw [cipherFails, hs] at h
    cases h

/-- With every cipher holding the frame is prepared. -/
theorem prepare_ok (hp : ¬ plan.turnsDown sndrs delays)
    (hc : ∀ s ∈ sndrs, plan.cipherFails s = false) :
    ∃ times frame, (plan.syncDue = true → times = delays.map plan.due) ∧
      prepareFrameForTargets sndrs delays plan =
        (sndrs.map (fun s => (plan.audioFor (plan.noted s)).1), .ok frame) ∧
      List.Forall₂ (fun s wire => (plan.audioFor (plan.noted s)).2 = .ok wire) sndrs
        frame.wirePackets ∧
      frame.syncPackets = (plan.syncAll sndrs times).map (·.2) := by
  have hh : ∀ s ∈ sndrs.map plan.noted, failsAt plan.audioFor s = false := by
    intro s hs
    obtain ⟨pre, hb, rfl⟩ := mem_map.mp hs
    rw [failsAt_audioFor, cipherFails_noted, hc pre hb]
  obtain ⟨_, hl, hw⟩ := inPlace_ok hh
  obtain ⟨times, hd, -, hr⟩ := prepare_of_not_turnsDown hp
  rw [map_map] at hl
  rw [forall₂_map_left_iff] at hw
  exact ⟨times, _, hd, hr _ _ hl, hw, rfl⟩

/-- The first cipher that refuses stops the frame; the senders before it
are a packet further, and all have noted their sync packets. -/
theorem prepare_failed {front back : List (RtpSender κ)}
    (hp : ¬ plan.turnsDown (front ++ s :: back) delays)
    (hf : ∀ x ∈ front, plan.cipherFails x = false) (hfl : plan.cipherFails s = true) :
    ∃ err, prepareFrameForTargets (front ++ s :: back) delays plan =
      (front.map (fun x => (plan.audioFor (plan.noted x)).1)
        ++ (plan.audioFor (plan.noted s)).1 :: back.map plan.noted, .error err) := by
  have hh : ∀ x ∈ front.map plan.noted, failsAt plan.audioFor x = false := by
    intro x hx
    obtain ⟨pre, hb, rfl⟩ := mem_map.mp hx
    rw [failsAt_audioFor, cipherFails_noted, hf pre hb]
  have hs : failsAt plan.audioFor (plan.noted s) = true := by
    rw [failsAt_audioFor, cipherFails_noted, hfl]
  obtain ⟨err, hl⟩ := @inPlace_error _ _ _ plan.audioFor (front.map plan.noted)
    (plan.noted s) (back.map plan.noted) hh hs
  obtain ⟨_, -, hr, -⟩ := prepare_of_not_turnsDown hp
  rw [map_map] at hl
  refine ⟨.packet err, hr _ _ ?_⟩
  rw [map_append, map_cons, hl]
  rfl

theorem outcomes (plan : FramePlan) (sndrs : List (RtpSender κ)) (delays : List Nat) :
    plan.turnsDown sndrs delays ∨
    (¬ plan.turnsDown sndrs delays ∧ ∀ s ∈ sndrs, plan.cipherFails s = false) ∨
    (¬ plan.turnsDown sndrs delays ∧ ∃ front s back, sndrs = front ++ s :: back ∧
      (∀ x ∈ front, plan.cipherFails x = false) ∧ plan.cipherFails s = true) := by
  by_cases hd : plan.turnsDown sndrs delays
  · exact .inl hd
  cases hf : sndrs.find? plan.cipherFails with
  | none => exact .inr (.inl ⟨hd, by simpa using hf⟩)
  | some s =>
    obtain ⟨hl, front, back, hs, hr⟩ := find?_eq_some_iff_append.mp hf
    exact .inr (.inr ⟨hd, front, s, back, hs, fun x hx => by simpa using hr x hx, hl⟩)

end FramePlan

/-! ## For everyone or for no one -/

variable [PacketCipher κ]

/-- A rejected frame leaves every sender as it was; a prepared one is a
packet of the plan for each, with the presentation times that were asked
for. -/
structure AllOrNothing (senders : List (RtpSender κ)) (delays : List Nat) (plan : FramePlan) :
    Prop where
  rejected : ∀ error, (prepareFrameForTargets senders delays plan).2 = .error error →
    (prepareFrameForTargets senders delays plan).1.map books = senders.map books
  advanced : ∀ frame, (prepareFrameForTargets senders delays plan).2 = .ok frame →
    (prepareFrameForTargets senders delays plan).1.map (·.sequence) = senders.map (·.sequence + 1)
  carried : ∀ frame, (prepareFrameForTargets senders delays plan).2 = .ok frame →
    frame.wirePackets.length = senders.length ∧
    ∀ wire ∈ frame.wirePackets, ∃ header, RtpHeader.parse wire = some header ∧
      header.timestamp = plan.rtpTimestamp ∧ header.payloadType = plan.payloadType ∧
      header.marker = plan.marker
  timed : ∀ frame, (prepareFrameForTargets senders delays plan).2 = .ok frame →
    plan.syncDue = true → ∀ (i : Nat) (sender : RtpSender κ) (delay : Nat),
      senders[i]? = some sender → delays[i]? = some delay →
      ∃ packet, frame.syncPackets[i]? = some packet ∧ packet.isSome = sender.takesSync ∧
        ∀ bytes, packet = some bytes → presentationNs plan.usePtpSync bytes =
          plan.commonMasterTimeNs + plan.globalRenderLeadNs + delay

variable (senders : List (RtpSender κ))

/-- The cipher of the first sender refuses, and no sender has noted a sync
packet by then. -/
def StopsAtOnce (plan : FramePlan) : Prop :=
  (∃ first rest, senders = first :: rest ∧ plan.cipherFails first = true) ∧
    (plan.syncDue = true → ∀ s ∈ senders, s.takesSync = false)

/-- No cipher refuses, and the plan's numbers fit into the packets: seven
bits of payload type, 32 bits of seconds. -/
def GoesThrough (delays : List Nat) (plan : FramePlan) : Prop :=
  (∀ s ∈ senders, plan.cipherFails s = false) ∧ (senders = [] ∨ plan.payloadType < 128) ∧
    (plan.syncDue = true → ∀ (i : Nat) (sender : RtpSender κ) (delay : Nat),
      senders[i]? = some sender → delays[i]? = some delay → sender.takesSync = true →
        plan.due delay < 2 ^ 32 * NS_PER_SECOND)

variable {plan : FramePlan} {sndrs : List (RtpSender κ)}

theorem carried_iff {wires : List Bytes} (hc : ∀ s ∈ sndrs, plan.cipherFails s = false)
    (hw : List.Forall₂ (fun s wire => (plan.audioFor (plan.noted s)).2 = .ok wire) sndrs wires) :
    (wires.length = sndrs.length ∧ ∀ wire ∈ wires, ∃ header,
      RtpHeader.parse wire = some header ∧ header.timestamp = plan.rtpTimestamp ∧
      header.payloadType = plan.payloadType ∧ header.marker = plan.marker) ↔
    (sndrs = [] ∨ plan.payloadType < 128) := by
  have hd : ∀ s ∈ sndrs, ∀ wire, (plan.audioFor (plan.noted s)).2 = .ok wire →
      ∃ read, RtpHeader.parse wire = some read ∧ read.timestamp = plan.rtpTimestamp ∧
        read.marker = plan.marker ∧ read.payloadType = plan.payloadType &&& 0x7F := by
    intro s hs wire hwr
    have hh : plan.cipherFails (plan.noted s) = false := by rw [cipherFails_noted, hc s hs]
    obtain ⟨_, body, _, rfl, hr⟩ := audioFor_ok hh
    rw [hr] at hwr
    cases hwr
    exact parse_serialize _ body
  have hm : plan.payloadType &&& 0x7F = plan.payloadType ↔ plan.payloadType < 128 :=
    payloadType_masked_iff plan.payloadType.toBitVec
  constructor
  · rintro ⟨-, hall⟩
    cases hw with
    | nil => exact .inl rfl
    | cons hf =>
      obtain ⟨read, hp, -, -, hy⟩ := hd _ mem_cons_self _ hf
      obtain ⟨_, hp', -, hn, -⟩ := hall _ mem_cons_self
      rw [hp] at hp'
      cases hp'
      exact .inr (hm.mp (hy.symm.trans hn))
  · intro ht
    refine ⟨hw.length_eq.symm, fun wire hmem => ?_⟩
    obtain ⟨i, hi⟩ := mem_iff_getElem?.mp hmem
    have hlt : i < wires.length := (List.getElem?_eq_some_iff.mp hi).1
    have hs : i < sndrs.length := by rw [hw.length_eq]; exact hlt
    have hpr : (plan.audioFor (plan.noted sndrs[i])).2 = .ok wire := by
      have hg := hw.get hs hlt
      rw [List.getElem?_eq_some_iff] at hi
      rw [← hi.2]
      exact hg
    obtain ⟨read, hp, hti, ha, hy⟩ := hd _ (getElem_mem hs) wire hpr
    have hl : plan.payloadType < 128 := by
      rcases ht with hnil | hl
      · rw [hnil] at hs
        cases hs
      · exact hl
    exact ⟨read, hp, hti, hy.trans (hm.mpr hl), ha⟩

/-- A packet further, the sequence number is another one. -/
theorem succ_ne_self (n : BitVec 16) : n + 1 ≠ n := by
  simp

theorem prepared_sequence {s : RtpSender κ} (h : plan.cipherFails s = false) :
    (plan.audioFor (plan.noted s)).1.sequence = s.sequence + 1 := by
  obtain ⟨_, _, _, -, hr⟩ := audioFor_ok ((cipherFails_noted plan s).trans h)
  rw [hr]
  exact congrArg (· + 1) (plan.noted_sequence s)

theorem refused_books {s : RtpSender κ} (h : plan.cipherFails s = true) :
    (plan.audioFor (plan.noted s)).1.books = (plan.noted s).books := by
  obtain ⟨_, hr⟩ := audioFor_failed ((cipherFails_noted plan s).trans h)
  rw [hr]
  rfl

theorem allOrNothing_of_ok {delays : List Nat} (hps : ¬ plan.turnsDown sndrs delays)
    (hc : ∀ s ∈ sndrs, plan.cipherFails s = false) :
    AllOrNothing sndrs delays plan ↔ GoesThrough sndrs delays plan := by
  obtain ⟨_, frame, ht, hp, hw, hy⟩ := prepare_ok hps hc
  have hr : (prepareFrameForTargets sndrs delays plan).2 = .ok frame := by rw [hp]
  have ha := carried_iff hc hw
  constructor
  · intro h
    refine ⟨hc, ha.mp (h.carried frame hr), fun hd => ?_⟩
    have hm := h.timed frame hr hd
    rw [hy, ht hd] at hm
    exact (timed_iff hd).mp hm
  · rintro ⟨-, hf, hse⟩
    have hn : ∀ other, (prepareFrameForTargets sndrs delays plan).2 = .ok other →
        frame = other := fun other ho => Except.ok.inj (hr.symm.trans ho)
    refine ⟨fun err he => ?_, fun other ho => ?_, fun other ho => ?_, fun other ho hd => ?_⟩
    · rw [hr] at he
      cases he
    · rw [hp, map_map]
      exact map_congr_left (fun s hs => prepared_sequence (hc s hs))
    · obtain rfl := hn other ho
      exact ha.mpr hf
    · obtain rfl := hn other ho
      rw [hy, ht hd]
      exact (timed_iff hd).mpr (hse hd)

theorem allOrNothing_of_failed {front back : List (RtpSender κ)}
    {s : RtpSender κ} {delays : List Nat}
    (hps : ¬ plan.turnsDown (front ++ s :: back) delays)
    (hn : ∀ x ∈ front, plan.cipherFails x = false) (hf : plan.cipherFails s = true) :
    AllOrNothing (front ++ s :: back) delays plan ↔ StopsAtOnce (front ++ s :: back) plan := by
  obtain ⟨err, hp⟩ := prepare_failed hps hn hf
  have hr : (prepareFrameForTargets (front ++ s :: back) delays plan).2 = .error err := by rw [hp]
  constructor
  · intro h
    have hs := h.rejected err hr
    rw [hp] at hs
    cases front with
    | nil =>
      rw [nil_append, map_nil, nil_append, map_cons, map_cons,
        refused_books hf, map_map, List.cons.injEq, map_inj_left] at hs
      refine ⟨⟨s, back, rfl, hf⟩, fun hd x hx => ?_⟩
      rcases mem_cons.mp hx with rfl | hb
      · exact (books_noted_iff plan x).mp hs.1 hd
      · exact (books_noted_iff plan x).mp (hs.2 x hb) hd
    | cons first =>
      rw [cons_append, map_cons, cons_append, map_cons, map_cons, List.cons.injEq] at hs
      have hq := congrArg Prod.fst hs.1
      dsimp only [books] at hq
      rw [prepared_sequence (hn first mem_cons_self)] at hq
      exact absurd hq (succ_ne_self _)
  · rintro ⟨⟨first, _, hl, ht⟩, hqt⟩
    have hnil : front = [] := by
      cases front with
      | nil => rfl
      | cons x =>
        obtain rfl : x = first := (List.cons.inj hl).1
        rw [hn x mem_cons_self] at ht
        cases ht
    subst hnil
    have hv : ∀ frame, (prepareFrameForTargets ([] ++ s :: back) delays plan).2 ≠ .ok frame := by
      intro frame hfr
      rw [hr] at hfr
      cases hfr
    refine ⟨fun _ _ => ?_, fun frame ho => absurd ho (hv frame),
      fun frame ho => absurd ho (hv frame), fun frame ho => absurd ho (hv frame)⟩
    rw [hp, map_nil, nil_append, map_cons, refused_books hf,
      (books_noted_iff plan s).mpr (fun hd => hqt hd s mem_cons_self), map_map,
      nil_append, map_cons]
    refine congrArg (s.books :: ·) (map_congr_left (fun x hx => ?_))
    exact (books_noted_iff plan x).mpr (fun hd => hqt hd x (mem_cons_of_mem _ hx))

/-- A frame is prepared for everyone or for no one exactly when it is
turned down by the checks, goes through, or is stopped by the first cipher
before any sender has noted a sync packet. -/
theorem allOrNothing_iff (sndrs : List (RtpSender κ)) (delays : List Nat) (plan : FramePlan) :
    AllOrNothing sndrs delays plan ↔ plan.turnsDown sndrs delays ∨
      GoesThrough sndrs delays plan ∨ StopsAtOnce sndrs plan := by
  rcases plan.outcomes sndrs delays with
    hd | ⟨hp, hc⟩ | ⟨hp, front, s, back, rfl, hfr, hf⟩
  · obtain ⟨_, hr⟩ := prepare_of_turnsDown hd
    refine iff_of_true ⟨fun _ _ => by rw [hr], fun frame ho => ?_, fun frame ho => ?_,
      fun frame ho => ?_⟩ (.inl hd)
    all_goals
      rw [hr] at ho
      cases ho
  · rw [allOrNothing_of_ok hp hc, or_iff_right hp]
    refine (or_iff_left ?_).symm
    rintro ⟨⟨first, _, rfl, hs⟩, -⟩
    rw [hc first mem_cons_self] at hs
    cases hs
  · rw [allOrNothing_of_failed hp hfr hf, or_iff_right hp]
    refine (or_iff_right ?_).symm
    rintro ⟨hc, -⟩
    rw [hc s (by simp)] at hf
    cases hf

/-! ## Groups -/

/-- All senders are at one sequence number. -/
def Level : Prop :=
  ∀ a ∈ senders.map (·.sequence), ∀ b ∈ senders.map (·.sequence), a = b

variable (frame : List Nat × FramePlan)

/-- A frame keeps a group level: every sender advances, or none does. -/
def KeepsLevel : Prop :=
  frame.2.turnsDown senders frame.1 ∨ (∀ s ∈ senders, frame.2.cipherFails s = false) ∨
    ∃ first rest, senders = first :: rest ∧ frame.2.cipherFails first = true

/-- The senders after a frame. -/
def afterFrame : List (RtpSender κ) :=
  (prepareFrameForTargets senders frame.1 frame.2).1

theorem level_afterFrame_iff (hl : Level sndrs)
    (frame : List Nat × FramePlan) : Level (afterFrame sndrs frame) ↔ KeepsLevel sndrs frame := by
  obtain ⟨delays, plan⟩ := frame
  rcases plan.outcomes sndrs delays with
    hd | ⟨hps, hc⟩ | ⟨hps, front, s, back, rfl, hr, hf⟩
  · obtain ⟨err, hp⟩ := prepare_of_turnsDown hd
    refine iff_of_true ?_ (.inl hd)
    unfold afterFrame
    rw [hp]
    exact hl
  · obtain ⟨_, _, -, hp, -, -⟩ := prepare_ok hps hc
    refine iff_of_true ?_ (.inr (.inl hc))
    have hn : (afterFrame sndrs (delays, plan)).map (·.sequence) =
        (sndrs.map (·.sequence)).map (· + 1) := by
      unfold afterFrame
      rw [hp, map_map, map_map]
      exact map_congr_left (fun s hs => prepared_sequence (hc s hs))
    unfold Level
    rw [hn, forall_mem_map]
    intro a ha
    rw [forall_mem_map]
    exact fun b hb => congrArg (· + 1) (hl a ha b hb)
  · obtain ⟨_, hp⟩ := prepare_failed hps hr hf
    have he : (plan.audioFor (plan.noted s)).1.sequence = s.sequence := by
      have hk := congrArg Prod.fst (refused_books hf)
      exact hk.trans (plan.noted_sequence s)
    have hn : (afterFrame (front ++ s :: back) (delays, plan)).map (·.sequence) =
        front.map (·.sequence + 1) ++ s.sequence :: back.map (·.sequence) := by
      unfold afterFrame
      rw [hp, map_append, map_map, map_cons, map_map, he]
      refine congrArg₂ (· ++ ·) ?_ (congrArg (s.sequence :: ·) ?_)
      · exact map_congr_left (fun x hx => prepared_sequence (hr x hx))
      · exact map_congr_left (fun x _ => plan.noted_sequence x)
    cases front with
    | nil =>
      refine iff_of_true ?_ (.inr (.inr ⟨s, back, rfl, hf⟩))
      unfold Level
      rw [hn]
      exact hl
    | cons first =>
      refine iff_of_false (fun ht => ?_) ?_
      · unfold Level at ht
        rw [hn] at ht
        have hm := ht (first.sequence + 1) (by simp) s.sequence (by simp)
        have hq := hl first.sequence (by simp) s.sequence (by simp)
        rw [hq] at hm
        exact succ_ne_self _ hm
      · rintro (hd | hc | ⟨other, _, hsp, ho⟩)
        · exact hps hd
        · rw [hc s (by simp)] at hf
          cases hf
        · obtain rfl : first = other := (List.cons.inj hsp).1
          rw [hr first mem_cons_self] at ho
          cases ho

/-- For every frame, all or nothing exactly under the condition of
`allOrNothing_iff`; over any number of frames a level group stays level
exactly while no cipher past the first stops a frame. -/
theorem frames_all_or_nothing (senders : List (RtpSender κ)) :
    (∀ delays plan, AllOrNothing senders delays plan ↔ plan.turnsDown senders delays ∨
      GoesThrough senders delays plan ∨ StopsAtOnce senders plan) ∧
    (Level senders → ∀ frames : List (List Nat × FramePlan), (∀ before, before <+: frames →
        Level (Mealy.run (Mealy.silent afterFrame) senders before)) ↔
      Mealy.Along (Mealy.silent afterFrame) KeepsLevel senders frames) := by
  refine ⟨allOrNothing_iff senders, fun hl frames => ?_⟩
  have hi : ∀ (s : List (RtpSender κ)) (frame : List Nat × FramePlan), True →
      True := fun _ _ _ => trivial
  have ht : ∀ (s : List (RtpSender κ)) (frame : List Nat × FramePlan), True → Level s →
      (Level (Mealy.silent afterFrame s frame).1 ↔ KeepsLevel s frame) :=
    fun s frame _ hs => level_afterFrame_iff hs frame
  exact @Mealy.forall_start_iff_along _ _ _ (Mealy.silent afterFrame) (fun _ => True) Level
    KeepsLevel hi ht frames senders trivial hl

end Preparing

/-! ### Two senders, one of which refuses -/

/-- A cipher that refuses the packets it is told to and passes the others
through. -/
structure ScriptedCipher where
  refusals : List Bool

instance : PacketCipher ScriptedCipher where
  encryptPayload cipher payload _ _ _ :=
    (⟨cipher.refusals.tail⟩,
      if cipher.refusals.headD false then .error .crypto else .ok { data := payload })

def steadySender : RtpSender ScriptedCipher where
  dest := ⟨.v4 0x0A000001, 6000⟩
  ssrc := 1
  cipher := some ⟨[]⟩

/-- Its first packet is refused. -/
def faultySender : RtpSender ScriptedCipher where
  dest := ⟨.v4 0x0A000002, 6000⟩
  ssrc := 2
  cipher := some ⟨[true]⟩

def plainFrame : FramePlan where
  payloadType := 96
  rtpTimestamp := 0
  nextRtpTimestamp := 352
  payload := [1, 2, 3]
  marker := true
  syncDue := false
  usePtpSync := false
  ptpMasterClockId := 0
  commonMasterTimeNs := 0
  globalRenderLeadNs := 0
  referenceMasterTimeNs := 0

theorem frames_all_or_nothing_pair : ¬ ∀ before, before <+: [([0, 0], plainFrame)] →
      Level (Mealy.run (Mealy.silent afterFrame) [steadySender, faultySender] before) := by
  have hl : Level [steadySender, faultySender] := by
    have hz : ∀ a ∈ [steadySender, faultySender].map (·.sequence), a = 0 := by
      simp [steadySender, faultySender]
    exact fun a ha b hb => (hz a ha).trans (hz b hb).symm
  rw [(frames_all_or_nothing [steadySender, faultySender]).2 hl]
  rintro ⟨hd | hc | ⟨first, _, hs, hf⟩, -⟩
  · rcases hd with hlen | ⟨hu, -⟩
    · exact absurd hlen (by decide)
    · cases hu
  · exact absurd (hc faultySender (by simp)) (by decide)
  · obtain rfl : steadySender = first := (List.cons.inj hs).1
    exact absurd hf (by decide)

/-- The frame is rejected, and one of the two is a packet further. -/
theorem refused_frame_splits_pair :
    (prepareFrameForTargets [steadySender, faultySender] [0, 0] plainFrame).2
      = .error (.packet .crypto) ∧
    [steadySender, faultySender].map (·.sequence) = [0, 0] ∧
    (prepareFrameForTargets [steadySender, faultySender] [0, 0] plainFrame).1.map (·.sequence)
      = [1, 0] ∧
    ¬ AllOrNothing [steadySender, faultySender] [0, 0] plainFrame := by
  refine ⟨by decide, by decide, by decide, fun h => ?_⟩
  have hs := congrArg (List.map Prod.fst) (h.rejected (.packet .crypto) (by decide))
  rw [map_map, map_map] at hs
  exact absurd hs (by decide)

end OpenAirCast.Audio
