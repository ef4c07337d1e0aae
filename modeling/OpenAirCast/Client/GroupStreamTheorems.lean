/-
Client.GroupStreamTheorems — a calibration reaches the speaker
it is for.

The way of a delay goes from the map to a place (`mapPresentationDelaysFor`),
from the place to a sender (`start_ok`), from there into the sync packet of
that place, and out to the destinations of the connection the sender was
built from. `Steady` is what every event keeps of it. The audio packets go
another way: two streamers that differ in delays and sync state only prepare
the same ones (`step_sameAudio`).
-/
import OpenAirCast.Audio.SenderTheorems
import OpenAirCast.Audio.StreamerTheorems
import OpenAirCast.Client.GroupStream

namespace OpenAirCast.Audio

open Timing List RtpSender

variable {κ : Type}

/-! ## What a frame leaves of a sender -/

namespace RtpSender

/-- What a sender is connected to. -/
def route (s : RtpSender κ) :
    Option UdpSocket × SocketAddr × Option SocketAddr × Option UdpSocket :=
  (s.socket, s.dest, s.controlDest, s.controlSocket)

/-- A sender without its sync state. -/
def audioPart (s : RtpSender κ) : RtpSender κ :=
  { s with syncSequence := 0, firstSyncSent := false }

@[simp] theorem route_resetSyncState (s : RtpSender κ) : s.resetSyncState.route = s.route := rfl

@[simp] theorem audioPart_resetSyncState (s : RtpSender κ) :
    s.resetSyncState.audioPart = s.audioPart := rfl

variable (plan : FramePlan)

@[simp] theorem route_noted (s : RtpSender κ) : (plan.noted s).route = s.route := by
  unfold FramePlan.noted
  split <;> rfl

@[simp] theorem audioPart_noted (s : RtpSender κ) : (plan.noted s).audioPart = s.audioPart := by
  unfold FramePlan.noted
  split <;> rfl

variable [PacketCipher κ]

theorem audioFor_audioPart (s : RtpSender κ) : (plan.audioFor s).2 = (plan.audioFor s.audioPart).2 ∧
      (plan.audioFor s).1.audioPart = (plan.audioFor s.audioPart).1.audioPart := by
  obtain ⟨_, _, _, _, seq, ssrc, ciph, _, _, _⟩ := s
  unfold FramePlan.audioFor prepareAudio serializeAudio sealPayload audioPart
  cases ciph with
  | none => exact ⟨rfl, rfl⟩
  | some ciph =>
    dsimp only
    rcases PacketCipher.encryptPayload ciph plan.payload plan.rtpTimestamp ssrc seq with
      ⟨after, err | encrypted⟩ <;> exact ⟨rfl, rfl⟩

theorem audioFor_congr (a b : RtpSender κ) (h : a.audioPart = b.audioPart) :
    (plan.audioFor a).2 = (plan.audioFor b).2 ∧
      (plan.audioFor a).1.audioPart = (plan.audioFor b).1.audioPart := by
  obtain ⟨ha, ha'⟩ := audioFor_audioPart plan a
  obtain ⟨hb, hb'⟩ := audioFor_audioPart plan b
  rw [ha, ha', hb, hb', h]
  exact ⟨rfl, rfl⟩

theorem route_audioFor (s : RtpSender κ) : (plan.audioFor s).1.route = s.route := by
  unfold FramePlan.audioFor prepareAudio
  rcases s.serializeAudio_cases plan.payloadType plan.rtpTimestamp plan.payload plan.marker rfl with
    ⟨ciph, err, -, hr⟩ | ⟨ciph, body, packet, -, -, hr⟩ <;> rw [hr] <;> rfl

end RtpSender

namespace FramePlan

variable [PacketCipher κ]

variable {delays : List Nat}

theorem presentationTimes_error {plan : FramePlan} {error : PrepareFrameError} :
    ∀ {index : Nat}, plan.presentationTimes index delays = .error error →
      ∃ at_ src, error = .presentationTime at_ src := by
  induction delays with
  | nil => exact fun h => by cases h
  | cons delay rest ih =>
    intro index h
    unfold presentationTimes at h
    cases hf : plan.presentation delay with
    | error =>
      rw [hf] at h
      cases h
      exact ⟨_, _, rfl⟩
    | ok =>
      rw [hf] at h
      cases hr : plan.presentationTimes (index + 1) rest with
      | error =>
        rw [hr] at h
        cases h
        exact ih hr
      | ok =>
        rw [hr] at h
        cases h

variable (plan : FramePlan)

/-- A frame is refused for a presentation time, or it is the audio loop
that decides. -/
theorem prepare_audio {senders : List (RtpSender κ)}
    (hlen : senders.length = delays.length) :
    (plan.syncDue = true ∧ ∃ idx src, prepareFrameForTargets senders delays plan =
        (senders, .error (.presentationTime idx src))) ∨
      ((prepareFrameForTargets senders delays plan).1.map RtpSender.audioPart =
          (inPlace plan.audioFor senders).1.map RtpSender.audioPart ∧
        ((∃ frame, (prepareFrameForTargets senders delays plan).2 = .ok frame ∧
            (inPlace plan.audioFor senders).2 = .ok frame.wirePackets) ∨
          ∃ err, (prepareFrameForTargets senders delays plan).2 = .error (.packet err) ∧
            (inPlace plan.audioFor senders).2 = .error err)) := by
  by_cases hd : plan.turnsDown senders delays
  · left
    obtain ⟨hu, delay, hy, hn⟩ := hd.resolve_left (fun hne => hne hlen)
    refine ⟨hu, ?_⟩
    unfold prepareFrameForTargets
    rw [if_neg (fun hne => hne hlen), if_pos hu]
    rcases plan.presentationTimes_cases delays 0 with ⟨err, he, -⟩ | ⟨-, hall⟩
    · obtain ⟨idx, src, rfl⟩ := presentationTimes_error he
      rw [he]
      exact ⟨idx, src, rfl⟩
    · rw [hall delay hy] at hn
      cases hn
  · right
    obtain ⟨_, -, hf, hg⟩ := prepare_of_not_turnsDown hd
    have hv : (senders.map plan.noted).map RtpSender.audioPart =
        senders.map RtpSender.audioPart := by
      rw [map_map]
      exact map_congr_left (fun s _ => audioPart_noted plan s)
    obtain ⟨hr, ha⟩ := inPlace_congr (audioFor_congr plan) hv
    rcases hl : inPlace plan.audioFor (senders.map plan.noted) with ⟨after, err | wires⟩
    · rw [hl] at hr ha
      rw [hf after err hl]
      exact ⟨ha, .inr ⟨err, rfl, hr.symm⟩⟩
    · rw [hl] at hr ha
      rw [hg after wires hl]
      exact ⟨ha, .inl ⟨_, rfl, hr.symm⟩⟩

/-- No outcome moves a socket or a destination. -/
theorem prepare_routes (senders : List (RtpSender κ)) (delays : List Nat) :
    (prepareFrameForTargets senders delays plan).1.map RtpSender.route =
      senders.map RtpSender.route := by
  by_cases hd : plan.turnsDown senders delays
  · obtain ⟨err, hp⟩ := prepare_of_turnsDown hd
    rw [hp]
  · obtain ⟨_, -, hf, hg⟩ := prepare_of_not_turnsDown hd
    have hk := inPlace_kept (route_audioFor plan) (senders.map plan.noted)
    have hn : (senders.map plan.noted).map RtpSender.route = senders.map RtpSender.route := by
      rw [map_map]
      exact map_congr_left (fun s _ => route_noted plan s)
    rcases hl : inPlace plan.audioFor (senders.map plan.noted) with ⟨after, err | wires⟩
    · rw [hl] at hk
      rw [hf after err hl]
      exact hk.trans hn
    · rw [hl] at hk
      rw [hg after wires hl]
      exact hk.trans hn

end FramePlan

namespace StreamerInner

theorem consume_senders (inner : StreamerInner κ) :
    inner.consumePtpClockUpdates.rtpSenders = inner.rtpSenders ∨
      inner.consumePtpClockUpdates.rtpSenders = inner.rtpSenders.map RtpSender.resetSyncState := by
  unfold consumePtpClockUpdates installPtpClockState
  split
  · exact .inl rfl
  · split
    · dsimp only
      split
      · exact .inr rfl
      · exact .inl rfl
    · exact .inl rfl

theorem map_resetSyncState {α : Type} {view : RtpSender κ → α}
    (hv : ∀ s, view s.resetSyncState = view s) (senders : List (RtpSender κ)) :
    (senders.map RtpSender.resetSyncState).map view = senders.map view := by
  rw [map_map]
  exact map_congr_left (fun s _ => hv s)

theorem consume_streamType (inner : StreamerInner κ) :
    inner.consumePtpClockUpdates.streamType = inner.streamType ∧
      inner.consumePtpClockUpdates.firstPacketSent = inner.firstPacketSent := by
  unfold consumePtpClockUpdates installPtpClockState
  split
  · exact ⟨rfl, rfl⟩
  · split
    · dsimp only
      split <;> exact ⟨rfl, rfl⟩
    · exact ⟨rfl, rfl⟩

/-- What a step of the streamer keeps: delays, routes, and whatever goes
into the audio packets. -/
structure Keeps (inner after : StreamerInner κ) : Prop where
  streamType : after.streamType = inner.streamType
  delays : after.targetPresentationDelaysNs = inner.targetPresentationDelaysNs
  ptp : inner.usePtpSync = true → after.usePtpSync = true
  routes : after.rtpSenders.map RtpSender.route = inner.rtpSenders.map RtpSender.route
  audio : after.rtpSenders.map RtpSender.audioPart = inner.rtpSenders.map RtpSender.audioPart

theorem Keeps.rfl' (inner : StreamerInner κ) : Keeps inner inner := ⟨rfl, rfl, fun h => h, rfl, rfl⟩

theorem Keeps.trans {a b c : StreamerInner κ} (h : Keeps a b) (h' : Keeps b c) : Keeps a c :=
  ⟨h'.streamType.trans h.streamType, h'.delays.trans h.delays, fun hp => h'.ptp (h.ptp hp),
    h'.routes.trans h.routes, h'.audio.trans h.audio⟩

section

variable (inner : StreamerInner κ)

theorem resetSyncStates_keeps : Keeps inner inner.resetSyncStates :=
  ⟨rfl, rfl, fun h => h, map_resetSyncState route_resetSyncState _,
    map_resetSyncState audioPart_resetSyncState _⟩

theorem consume_keeps : Keeps inner inner.consumePtpClockUpdates := by
  obtain ⟨-, hp, -, -, hd⟩ := consume_frame inner
  refine ⟨(consume_streamType inner).1, hd, fun h => hp.trans h, ?_, ?_⟩
  · rcases consume_senders inner with h | h <;> rw [h]
    exact map_resetSyncState route_resetSyncState _
  · rcases consume_senders inner with h | h <;> rw [h]
    exact map_resetSyncState audioPart_resetSyncState _

theorem setPtpClockUpdates_keeps (latest : Option PtpClockState) :
    Keeps inner (inner.setPtpClockUpdates latest) ∧
      (inner.setPtpClockUpdates latest).usePtpSync = true ∧
      (inner.setPtpClockUpdates latest).firstPacketSent = inner.firstPacketSent := by
  have hs : Keeps inner { inner with
        usePtpSync := true
        timingRx := none
        ptpClockRx := some latest
        ptpClockState := none
        clockOffset := none
        ptpMasterClockId := 0
        lastMasterAnchorNs := 0
        lastSyncRtp := 0 } := ⟨rfl, rfl, fun _ => rfl, rfl, rfl⟩
  refine ⟨(hs.trans (resetSyncStates_keeps _)).trans (consume_keeps _), ?_, ?_⟩
  · exact (consume_keeps _).ptp rfl
  · exact (consume_streamType _).2

theorem consumeTimingUpdates_keeps : Keeps inner inner.consumeTimingUpdates ∧
      inner.consumeTimingUpdates.firstPacketSent = inner.firstPacketSent := by
  unfold consumeTimingUpdates
  have hk := consume_keeps inner
  have hf := (consume_streamType inner).2
  dsimp only
  split
  · exact ⟨hk.trans ⟨rfl, rfl, fun h => h, rfl, rfl⟩, hf⟩
  · exact ⟨hk, hf⟩

end

variable [PacketCipher κ]

theorem audioFor_framePlan {inner other : StreamerInner κ}
    (h : other.streamType = inner.streamType) (input : FrameInput) (mark : Bool) :
    (other.framePlan input mark).audioFor (κ := κ) = (inner.framePlan input mark).audioFor := by
  funext s
  unfold FramePlan.audioFor framePlan
  rw [h]

/-- What the loops of a frame make of the senders. -/
def Prepares (inner : StreamerInner κ) (input : FrameInput) (marker : Bool)
    (senders : List (RtpSender κ)) (result : Except PrepareFrameError PreparedStreamFrame) : Prop :=
  senders.map RtpSender.audioPart =
      (inPlace (inner.framePlan input marker).audioFor inner.rtpSenders).1.map RtpSender.audioPart ∧
    ((∃ frame, result = .ok frame ∧
        (inPlace (inner.framePlan input marker).audioFor inner.rtpSenders).2 =
          .ok frame.prepared.wirePackets) ∨
      ∃ error failure, result = .error error ∧
        (inPlace (inner.framePlan input marker).audioFor inner.rtpSenders).2 = .error failure)

/-- With a delay for every sender, delays and sync state have no part in
the audio packets of a frame. -/
theorem prepareStreamFrame_audio {inner : StreamerInner κ}
    (hlen : inner.rtpSenders.length = inner.targetPresentationDelaysNs.length)
    (input : FrameInput) (mark : Bool) :
    ∃ senders, (inner.prepareStreamFrame input mark).1 =
        { inner.consumePtpClockUpdates with rtpSenders := senders } ∧
      senders.map RtpSender.route = inner.rtpSenders.map RtpSender.route ∧
      Prepares inner input mark senders (inner.prepareStreamFrame input mark).2 := by
  have hk := consume_keeps inner
  unfold prepareStreamFrame Prepares
  generalize inner.consumePtpClockUpdates = consumed at hk ⊢
  have hc : consumed.rtpSenders.length = consumed.targetPresentationDelaysNs.length := by
    have hs := congrArg List.length hk.routes
    rw [length_map, length_map] at hs
    rw [hs, hk.delays, hlen]
  obtain ⟨hlp, hlooAft⟩ := inPlace_congr (audioFor_congr (inner.framePlan input mark)) hk.audio
  have haudFor := audioFor_framePlan hk.streamType input mark
  rw [← hlp, ← hlooAft, ← haudFor, ← hk.routes]
  rcases (consumed.framePlan input mark).prepare_audio hc with
    ⟨-, idx, src, hp⟩ | ⟨ha, hr⟩
  · simp only [prepareWith, hp]
    rcases ({ consumed.framePlan input mark with syncDue := false } : FramePlan).prepare_audio
      hc with ⟨hd, -⟩ | ⟨ha, hr⟩
    · cases hd
    · refine ⟨_, rfl, FramePlan.prepare_routes _ _ _, ha, ?_⟩
      rcases hr with ⟨frame, hf, hw⟩ | ⟨err, he, hl⟩
      · rw [hf]
        exact .inl ⟨_, rfl, hw⟩
      · rw [he]
        exact .inr ⟨_, err, rfl, hl⟩
  · have ht := (consumed.framePlan input mark).prepare_routes consumed.rtpSenders
      consumed.targetPresentationDelaysNs
    simp only [prepareWith]
    rcases hprepa : prepareFrameForTargets consumed.rtpSenders
      consumed.targetPresentationDelaysNs (consumed.framePlan input mark) with ⟨senders, _⟩
    rw [hprepa] at ha hr ht
    rcases hr with ⟨_, hf, hw⟩ | ⟨err, he, hl⟩
    · dsimp only at hf
      subst hf
      exact ⟨senders, rfl, ht, ha, .inl ⟨_, rfl, hw⟩⟩
    · dsimp only at he
      subst he
      exact ⟨senders, rfl, ht, ha, .inr ⟨_, err, rfl, hl⟩⟩

theorem prepareStreamFrame_emitted {inner after : StreamerInner κ} {input : FrameInput}
    {mark : Bool} {frame : PreparedStreamFrame}
    (h : inner.prepareStreamFrame input mark = (after, .ok frame))
    (he : frame.syncEmitted = true) :
    (inner.consumePtpClockUpdates.framePlan input mark).syncDue = true ∧
      ∃ senders, prepareFrameForTargets inner.consumePtpClockUpdates.rtpSenders
        inner.consumePtpClockUpdates.targetPresentationDelaysNs
        (inner.consumePtpClockUpdates.framePlan input mark) = (senders, .ok frame.prepared) := by
  unfold prepareStreamFrame prepareWith at h
  dsimp only at h
  generalize inner.consumePtpClockUpdates = consumed at h ⊢
  rcases hp : prepareFrameForTargets consumed.rtpSenders
      consumed.targetPresentationDelaysNs (consumed.framePlan input mark) with
    ⟨senders, error | prepared⟩
  · rw [hp] at h
    cases error with
    | presentationTime =>
      obtain ⟨-, hr⟩ := Prod.mk.inj h
      cases hs : (prepareFrameForTargets senders consumed.targetPresentationDelaysNs
          { consumed.framePlan input mark with syncDue := false }).2 with
      | error error =>
        rw [hs] at hr
        cases hr
      | ok prepared =>
        rw [hs] at hr
        cases hr
        cases he
    | targetCountMismatch => cases h
    | packet => cases h
  · rw [hp] at h
    cases h
    exact ⟨he, senders, rfl⟩

end StreamerInner

/-- What a receiver reads off a PT=87 packet. -/
theorem presentationNs_ptpSyncBytes (first : UInt8) (seq : BitVec 16)
    (rtpTimestamp : BitVec 32) (timeNs : Nat) (nextRtpTimestamp : BitVec 32)
    (masterClockId : BitVec 64) :
    presentationNs true
      (ptpSyncBytes first seq rtpTimestamp timeNs nextRtpTimestamp masterClockId) =
        timeNs % (2 ^ 32 * NS_PER_SECOND) := by
  obtain ⟨hs, hf⟩ := @words_at ([first, 0xD7] ++ beBytes seq ++ beBytes rtpTimestamp)
    (beBytes nextRtpTimestamp ++ beBytes masterClockId)
    (beBytes (RtpSender.ptpSeconds timeNs)) (beBytes (RtpSender.ptpFraction timeNs))
    (by simp) (by simp) (by simp)
  unfold presentationNs ptpSyncBytes
  rw [append_assoc _ (beBytes nextRtpTimestamp), hs, hf, fromBe_beBytes rfl, fromBe_beBytes rfl]
  simp only [RtpSender.ptpSeconds, RtpSender.ptpFraction, if_true]
  rw [BitVec.toNat_ofNat, BitVec.toNat_ofNat, Nat.mod_eq_of_lt (binaryFraction_lt timeNs),
    nsOfFraction_binaryFraction]
  unfold NS_PER_SECOND
  omega

/-! ## Steps of the streamer -/

/-- After this event the next frame is the first again. -/
def StreamerEvent.flushes : StreamerEvent → Bool
  | .resetAfterFlush => true
  | _ => false

namespace Streaming

variable [PacketCipher κ]

variable {ev : StreamerEvent}

/-- An event that is no frame sends nothing and keeps the audio. -/
theorem step_quiet (s : Streaming κ) (h : ∀ input, ev ≠ .frame input) :
    (s.step ev).2 = none ∧ (s.step ev).1.running = s.running ∧
      (s.step ev).1.hasSenderThread = s.hasSenderThread ∧
      s.inner.Keeps (s.step ev).1.inner ∧
      (s.step ev).1.inner.firstPacketSent = (s.inner.firstPacketSent && !ev.flushes) := by
  have hu : s.inner.firstPacketSent = (s.inner.firstPacketSent && !false) := by simp
  cases ev with
  | publishClock state | publishTiming offset | setPtpSyncMode clockId
  | setRenderDelayMs =>
    exact ⟨rfl, rfl, rfl, ⟨rfl, rfl, fun hp => by first | exact hp | rfl, rfl, rfl⟩, hu⟩
  | setPtpClockUpdates latest =>
    obtain ⟨hk, -, hf⟩ := s.inner.setPtpClockUpdates_keeps latest
    exact ⟨rfl, rfl, rfl, hk, hf.trans hu⟩
  | setTimingOffset =>
    refine ⟨rfl, rfl, rfl, ?_, ?_⟩ <;> simp only [step, StreamerInner.setTimingOffset] <;> split
    · exact ⟨rfl, rfl, fun hp => hp, rfl, rfl⟩
    · exact .rfl' _
    · exact hu
    · exact hu
  | setTimingUpdates =>
    refine ⟨rfl, rfl, rfl, ?_, ?_⟩ <;> simp only [step, StreamerInner.setTimingUpdates] <;> split
    · exact ⟨rfl, rfl, fun hp => hp, rfl, rfl⟩
    · exact .rfl' _
    · exact hu
    · exact hu
  | resetAfterFlush =>
    refine ⟨rfl, rfl, rfl, ?_, ?_⟩
    · have hs : s.inner.Keeps { s.inner with firstPacketSent := false } :=
        ⟨rfl, rfl, fun hp => hp, rfl, rfl⟩
      exact hs.trans (StreamerInner.resetSyncStates_keeps _)
    · simp [step, StreamerInner.resetAfterFlush, StreamerInner.resetSyncStates,
        StreamerEvent.flushes]
  | turn =>
    simp only [step]
    split
    · obtain ⟨hk, hf⟩ := s.inner.consumeTimingUpdates_keeps
      exact ⟨rfl, rfl, rfl, hk, hf.trans hu⟩
    · exact ⟨rfl, rfl, rfl, .rfl' _, hu⟩
  | frame input => exact absurd rfl (h input)

/-- The audio loop of the frame. -/
def audioLoop (s : Streaming κ) (input : FrameInput) :
    List (RtpSender κ) × Except AudioError (List Bytes) :=
  inPlace (s.inner.framePlan input (!s.inner.firstPacketSent)).audioFor s.inner.rtpSenders

/-- What a frame of a streamer that runs keeps, and what it takes from the
audio loop. -/
structure FrameStep (s : Streaming κ) (input : FrameInput) : Prop where
  thread : (s.runFrame input).1.hasSenderThread = s.hasSenderThread
  streamType : (s.runFrame input).1.inner.streamType = s.inner.streamType
  delays : (s.runFrame input).1.inner.targetPresentationDelaysNs =
    s.inner.targetPresentationDelaysNs
  routes : (s.runFrame input).1.inner.rtpSenders.map RtpSender.route =
    s.inner.rtpSenders.map RtpSender.route
  audio : (s.runFrame input).1.inner.rtpSenders.map RtpSender.audioPart =
    (s.audioLoop input).1.map RtpSender.audioPart
  outcome : (∃ frame, (s.runFrame input).2 = some frame ∧
      (s.audioLoop input).2 = .ok frame.prepared.wirePackets ∧
      (s.runFrame input).1.running = input.sent ∧
      (s.runFrame input).1.inner.firstPacketSent =
        (s.hasSenderThread || input.sent || s.inner.firstPacketSent)) ∨
    ∃ error, (s.runFrame input).2 = none ∧ (s.audioLoop input).2 = .error error ∧
      (s.runFrame input).1.running = false ∧
      (s.runFrame input).1.inner.firstPacketSent = s.inner.firstPacketSent

variable {s : Streaming κ}

/-- So much of a frame that a running streamer prepares. -/
theorem runFrame_step (hg : ¬ (s.running = false ∨ s.inner.rtpSenders = []))
    (hl : s.inner.rtpSenders.length = s.inner.targetPresentationDelaysNs.length)
    (input : FrameInput) : FrameStep s input := by
  have hk := s.inner.consume_keeps
  obtain ⟨-, hf⟩ := s.inner.consume_streamType
  obtain ⟨senders, ha, ht, hd, hs⟩ :=
    StreamerInner.prepareStreamFrame_audio hl input (!s.inner.firstPacketSent)
  rcases hp : s.inner.prepareStreamFrame input (!s.inner.firstPacketSent) with
    ⟨after, res⟩
  rw [hp] at ha hs
  subst ha
  rcases hs with ⟨frame, rfl, hw⟩ | ⟨_, fail, rfl, hfl⟩
  · have hr : s.runFrame input = ({ s with
            inner := if s.hasSenderThread || input.sent then
              { s.inner.consumePtpClockUpdates with rtpSenders := senders }.noteFrame input frame
              else { s.inner.consumePtpClockUpdates with rtpSenders := senders }
            running := input.sent }, some frame) := by
      unfold runFrame
      rw [if_neg hg, hp]
    refine ⟨?_, ?_, ?_, ?_, ?_, .inl ⟨frame, ?_, hw, ?_, ?_⟩⟩ <;> rw [hr]
    · dsimp only
      split <;> exact hk.streamType
    · dsimp only
      split <;> exact hk.delays
    · dsimp only
      split <;> exact ht
    · dsimp only
      split <;> exact hd
    · dsimp only
      cases hn : s.hasSenderThread || input.sent with
      | true => rfl
      | false => exact hf
  · have hr : s.runFrame input = ({ s with
            inner := { s.inner.consumePtpClockUpdates with rtpSenders := senders }
            running := false }, none) := by
      unfold runFrame
      rw [if_neg hg, hp]
    refine ⟨?_, ?_, ?_, ?_, ?_, .inr ⟨fail, ?_, hfl, ?_, ?_⟩⟩ <;> rw [hr]
    · exact hk.streamType
    · exact hk.delays
    · exact ht
    · exact hd
    · exact hf

/-- Two streamers that put the same into their audio packets. -/
structure SameAudio (s t : Streaming κ) : Prop where
  running : t.running = s.running
  thread : t.hasSenderThread = s.hasSenderThread
  streamType : t.inner.streamType = s.inner.streamType
  first : t.inner.firstPacketSent = s.inner.firstPacketSent
  audio : t.inner.rtpSenders.map RtpSender.audioPart = s.inner.rtpSenders.map RtpSender.audioPart
  aligned : s.inner.rtpSenders.length = s.inner.targetPresentationDelaysNs.length
  aligned' : t.inner.rtpSenders.length = t.inner.targetPresentationDelaysNs.length

/-- The audio packets that go out. -/
def wires (frame : Option PreparedStreamFrame) : Option (List Bytes) :=
  frame.map (·.prepared.wirePackets)

omit [PacketCipher κ] in
theorem length_of_routes {α : Type} {view : RtpSender κ → α} {xs ys : List (RtpSender κ)}
    (h : xs.map view = ys.map view) : xs.length = ys.length := by
  have hlen := congrArg List.length h
  rwa [length_map, length_map] at hlen

variable {t : Streaming κ}

theorem quiet_sameAudio (h : SameAudio s t) (hq : ∀ input, ev ≠ .frame input) :
    SameAudio (s.step ev).1 (t.step ev).1 ∧ wires (t.step ev).2 = wires (s.step ev).2 := by
  obtain ⟨hs, hsRun, hsThr, hsKee, hsFir⟩ := s.step_quiet hq
  obtain ⟨ht, htRun, htThr, htKee, htFir⟩ := t.step_quiet hq
  refine ⟨⟨?_, ?_, ?_, ?_, ?_, ?_, ?_⟩, by rw [hs, ht]⟩
  · rw [hsRun, htRun, h.running]
  · rw [hsThr, htThr, h.thread]
  · rw [hsKee.streamType, htKee.streamType, h.streamType]
  · rw [hsFir, htFir, h.first]
  · rw [hsKee.audio, htKee.audio, h.audio]
  · rw [length_of_routes hsKee.routes, hsKee.delays, h.aligned]
  · rw [length_of_routes htKee.routes, htKee.delays, h.aligned']

theorem frame_sameAudio (h : SameAudio s t) (input : FrameInput) :
    SameAudio (s.runFrame input).1 (t.runFrame input).1 ∧
      wires (t.runFrame input).2 = wires (s.runFrame input).2 := by
  by_cases hi : s.running = false ∨ s.inner.rtpSenders = []
  · have hi' : t.running = false ∨ t.inner.rtpSenders = [] := by
      refine hi.imp (fun hr => h.running.trans hr) (fun hn => ?_)
      have ha := h.audio
      rw [hn] at ha
      exact map_eq_nil_iff.mp ha
    unfold runFrame
    rw [if_pos hi, if_pos hi']
    exact ⟨h, rfl⟩
  · have hi' : ¬ (t.running = false ∨ t.inner.rtpSenders = []) := by
      intro hi'
      refine hi (hi'.imp (fun hr => h.running.symm.trans hr) (fun hn => ?_))
      have ha := h.audio
      rw [hn] at ha
      exact map_eq_nil_iff.mp ha.symm
    have hs := runFrame_step hi h.aligned input
    have ht := runFrame_step hi' h.aligned' input
    obtain ⟨he, haf⟩ : (t.audioLoop input).2 = (s.audioLoop input).2 ∧
        (t.audioLoop input).1.map RtpSender.audioPart =
          (s.audioLoop input).1.map RtpSender.audioPart := by
      unfold audioLoop
      rw [StreamerInner.audioFor_framePlan h.streamType, h.first]
      exact inPlace_congr (audioFor_congr _) h.audio
    have hc : (t.runFrame input).1.running = (s.runFrame input).1.running ∧
        (t.runFrame input).1.inner.firstPacketSent = (s.runFrame input).1.inner.firstPacketSent ∧
        wires (t.runFrame input).2 = wires (s.runFrame input).2 := by
      rcases hs.outcome with ⟨frame, hf, hw, hrn, hfs⟩ | ⟨err, hf, hl, hrn, hfs⟩ <;>
        rcases ht.outcome with ⟨_, hf', hw', hr', hs'⟩ | ⟨_, hf', hl', hr', hs'⟩
      · rw [hw, hw'] at he
        refine ⟨by rw [hrn, hr'], by rw [hfs, hs', h.thread, h.first], ?_⟩
        rw [hf, hf']
        exact congrArg some (Except.ok.inj he)
      · rw [hw, hl'] at he
        cases he
      · rw [hl, hw'] at he
        cases he
      · exact ⟨by rw [hrn, hr'], by rw [hfs, hs', h.first], by rw [hf, hf']⟩
    refine ⟨⟨hc.1, ?_, ?_, hc.2.1, ?_, ?_, ?_⟩, hc.2.2⟩
    · rw [hs.thread, ht.thread, h.thread]
    · rw [hs.streamType, ht.streamType, h.streamType]
    · rw [hs.audio, ht.audio, haf]
    · rw [length_of_routes hs.routes, hs.delays, h.aligned]
    · rw [length_of_routes ht.routes, ht.delays, h.aligned']

/-- Under the same event both send the same audio. -/
theorem step_sameAudio (h : SameAudio s t) (ev : StreamerEvent) :
    SameAudio (s.step ev).1 (t.step ev).1 ∧ wires (t.step ev).2 = wires (s.step ev).2 := by
  cases ev with
  | frame input => exact frame_sameAudio h input
  | publishClock _ | publishTiming _ | setPtpClockUpdates _ | setPtpSyncMode _
  | setRenderDelayMs _ | setTimingOffset _ | setTimingUpdates _ _ | resetAfterFlush | turn =>
    exact quiet_sameAudio h (by simp)

/-- What the frame of a turn is for every target, and its audio packets. -/
def audioOf (t : StreamerTurn κ) : Option (BitVec 32 × Bool × Bytes × List Bytes) :=
  match t.input, t.output with
  | .frame input, some frame =>
    some (input.rtpTimestamp, !t.before.inner.firstPacketSent, input.payload,
      frame.prepared.wirePackets)
  | _, _ => none

omit [PacketCipher κ] in
theorem audioOf_congr {t u : StreamerTurn κ} (hi : u.input = t.input)
    (hf : u.before.inner.firstPacketSent = t.before.inner.firstPacketSent)
    (hw : wires u.output = wires t.output) : audioOf u = audioOf t := by
  unfold audioOf
  rw [hi, hf]
  rcases t.input <;> rcases hu : u.output with - | frame <;>
    rcases ht : t.output with - | frame' <;>
    simp_all [wires]

/-- Whole runs put out the same audio packets. -/
theorem trace_sameAudio (h : SameAudio s t) (evs : List StreamerEvent) :
    (Mealy.trace step t evs).map audioOf = (Mealy.trace step s evs).map audioOf := by
  induction evs generalizing s t with
  | nil => rfl
  | cons ev _ ih =>
    obtain ⟨hn, hw⟩ := step_sameAudio h ev
    rw [Mealy.trace, Mealy.trace, map_cons, map_cons, ih hn]
    exact congrArg (· :: _) (audioOf_congr rfl h.first hw)

/-- What no event changes of a stream: whose sender is at which place, what
it is connected to, and the delay of the place. -/
structure Steady (streamer : StreamerInner κ) (s : Streaming κ) : Prop where
  ptp : s.inner.usePtpSync = true
  delays : s.inner.targetPresentationDelaysNs = streamer.targetPresentationDelaysNs
  routes : s.inner.rtpSenders.map RtpSender.route = streamer.rtpSenders.map RtpSender.route

theorem runFrame_ptp (s : Streaming κ) (input : FrameInput) (hp : s.inner.usePtpSync = true) :
    (s.runFrame input).1.inner.usePtpSync = true := by
  obtain ⟨-, hc, -⟩ := StreamerInner.consume_frame s.inner
  rcases runFrame_cases s input with hn | ⟨senders, hf⟩ | ⟨_, senders, _, _, -, -, -, -, ht, hg⟩
  · rw [hn]
    exact hp
  · rw [hf]
    exact hc.trans hp
  · rw [hg, ht]
    split <;> exact hc.trans hp

variable {strm : StreamerInner κ}

/-- No event moves a target to another place. -/
theorem step_steady (ha : strm.rtpSenders.length = strm.targetPresentationDelaysNs.length)
    (s : Streaming κ) (ev : StreamerEvent) (h : Steady strm s) :
    Steady strm (s.step ev).1 := by
  by_cases hf : ∃ input, ev = .frame input
  · obtain ⟨input, rfl⟩ := hf
    refine ⟨s.runFrame_ptp input h.ptp, ?_, ?_⟩ <;>
      by_cases hi : s.running = false ∨ s.inner.rtpSenders = []
    · simp only [step, runFrame, if_pos hi]
      exact h.delays
    · exact (runFrame_step hi (by rw [length_of_routes h.routes, h.delays, ha])
        input).delays.trans h.delays
    · simp only [step, runFrame, if_pos hi]
      exact h.routes
    · exact (runFrame_step hi (by rw [length_of_routes h.routes, h.delays, ha])
        input).routes.trans h.routes
  · obtain ⟨-, -, -, hk, -⟩ := s.step_quiet (fun input heq => hf ⟨input, heq⟩)
    exact ⟨hk.ptp h.ptp, hk.delays.trans h.delays, hk.routes.trans h.routes⟩

/-- Master time of the frame, lead and delay together. -/
def dueAt (s : Streaming κ) (input : FrameInput) (delayNs : Nat) : Nat :=
  masterTimeForAnchorNs input.localWallNs s.inner.consumePtpClockUpdates.clockOffset
    + s.inner.renderDelayNs + delayNs

/-- A PT=87 packet of the frame for a target with this delay. -/
def Says (s : Streaming κ) (input : FrameInput) (delayNs : Nat) (packet : Bytes) : Prop :=
  ∃ first sequence, packet = ptpSyncBytes first sequence input.rtpTimestamp
    (s.dueAt input delayNs) (s.inner.nextRtpTimestamp input.rtpTimestamp)
    s.inner.consumePtpClockUpdates.ptpMasterClockId

variable {frame : PreparedStreamFrame} {input : FrameInput}

/-- The sync packet of a place says the time with the delay of the place. -/
theorem runFrame_says (h : Steady strm s)
    (ho : (s.runFrame input).2 = some frame) {i : Nat} {packet : Bytes}
    (hk : frame.prepared.syncPackets[i]? = some (some packet)) :
    ∃ delay, strm.targetPresentationDelaysNs[i]? = some delay ∧ s.Says input delay packet := by
  obtain ⟨-, ht, hr, hl, he⟩ := StreamerInner.consume_frame s.inner
  rcases runFrame_cases s input with hn | ⟨senders, hf⟩ |
    ⟨plan, senders, _, _, -, hp, hpr, -, -, hg⟩
  · rw [hn] at ho
    cases ho
  · rw [hf] at ho
    cases ho
  · rw [hg] at ho
    cases ho
    have hplaPtp : plan.usePtpSync = true := by rcases hp with rfl | rfl <;> exact ht.trans h.ptp
    obtain ⟨-, hc, hsr⟩ := FramePlan.prepare_serves hplaPtp hpr
    obtain ⟨sender, hsn⟩ : ∃ sender,
        s.inner.consumePtpClockUpdates.rtpSenders[i]? = some sender := by
      refine ⟨_, getElem?_eq_getElem ?_⟩
      rw [← hc]
      exact (List.getElem?_eq_some_iff.mp hk).1
    obtain ⟨_, delay, -, hd, hs⟩ := hsr i sender hsn
    obtain ⟨hu, -⟩ := hs.gives.mp ⟨packet, hk⟩
    obtain ⟨rfl, -⟩ := plan_of_gives hp hu
    obtain ⟨hb, -⟩ := hs.packet packet hk
    rw [he, h.delays] at hd
    refine ⟨delay, hd, sender.syncFirstByte, sender.syncSequence, ?_⟩
    rw [hb]
    unfold FramePlan.due StreamerInner.framePlan dueAt StreamerInner.nextRtpTimestamp
    rw [hr, hl]

theorem runFrame_gives (h : Steady strm s)
    (ho : (s.runFrame input).2 = some frame) (he : frame.syncEmitted = true) {i : Nat}
    {sender : RtpSender κ} (hn : strm.rtpSenders[i]? = some sender)
    (ht : sender.takesSync = true) :
    ∃ packet, frame.prepared.syncPackets[i]? = some (some packet) := by
  obtain ⟨-, hpt, -⟩ := StreamerInner.consume_frame s.inner
  have hroutes : s.inner.consumePtpClockUpdates.rtpSenders.map RtpSender.route =
      strm.rtpSenders.map RtpSender.route := s.inner.consume_keeps.routes.trans h.routes
  have hr := congrArg (·[i]?) hroutes
  simp only [getElem?_map, hn, Option.map_some] at hr
  obtain ⟨other, hh, hs⟩ := Option.map_eq_some_iff.mp hr
  have ht' : other.takesSync = true := by
    rw [← ht]
    simp only [RtpSender.route, Prod.mk.injEq] at hs
    simp only [RtpSender.takesSync, RtpSender.controlTarget, hs]
  unfold runFrame at ho
  split at ho
  · cases ho
  · rcases hprepa : s.inner.prepareStreamFrame input (!s.inner.firstPacketSent) with
      ⟨after, err | given⟩
    · rw [hprepa] at ho
      cases ho
    · rw [hprepa] at ho
      cases ho
      obtain ⟨hd, _, hp⟩ := StreamerInner.prepareStreamFrame_emitted hprepa he
      obtain ⟨-, -, hse⟩ := FramePlan.prepare_serves (hpt.trans h.ptp) hp
      obtain ⟨_, _, -, -, hsr⟩ := hse i other hh
      exact hsr.gives.mpr ⟨hd, ht'⟩

end Streaming

/-! ## Where a packet goes -/

section Leaving

variable {κ : Type}

/-- Where the sender thread sends control packets: to the control
destination where there is a control socket to send them from. -/
def RtpSender.threadControlTarget (sender : RtpSender κ) : SocketAddr :=
  (sender.cloneControlSocket.map (·.2)).getD sender.dest

/-- A datagram carries a packet of its sender's place to its sender's
receiver: the sync packet to `control`, or the audio packet. -/
structure Leaves (senders : List (RtpSender κ)) (frame : PreparedFrame)
    (control : RtpSender κ → SocketAddr) (sent : Sent) (sender : RtpSender κ) : Prop where
  place : senders[sent.sender]? = some sender
  packet : (frame.syncPackets[sent.sender]? = some (some sent.datagram.bytes) ∧
      sent.datagram.dest = control sender) ∨
    (frame.wirePackets[sent.sender]? = some sent.datagram.bytes ∧ sent.datagram.dest = sender.dest)

section

variable {senders : List (RtpSender κ)}

variable {frame : PreparedFrame}

theorem transmit_leaves {sent : Sent}
    (h : sent ∈ transmit (buildSendTargets senders) frame) :
    ∃ sender, Leaves senders frame RtpSender.threadControlTarget sent sender := by
  rcases mem_append.mp h with h | h
  all_goals
    obtain ⟨_, ht, hs⟩ := mem_filterMap.mp h
    obtain ⟨sender, hn, -, hd, -, hc⟩ := mem_buildSendTargets ht
    obtain ⟨_, hp, rfl⟩ := Option.map_eq_some_iff.mp hs
    refine ⟨sender, hn, ?_⟩
  · refine .inl ⟨Option.join_eq_some_iff.mp hp, ?_⟩
    rw [RtpSender.threadControlTarget, ← hc, ← hd]
  · exact .inr ⟨hp, hd⟩

variable {sender : RtpSender κ} {packet : Bytes}

/-- The sync packet of a sender with a data socket does leave. -/
theorem transmit_sync {i : Nat} (hn : senders[i]? = some sender) (hs : sender.socket.isSome = true)
    (hp : frame.syncPackets[i]? = some (some packet)) :
    ∃ sent ∈ transmit (buildSendTargets senders) frame, sent.sender = i ∧
      sent.datagram.bytes = packet ∧ sent.datagram.dest = sender.threadControlTarget := by
  obtain ⟨socket, hs⟩ := Option.isSome_iff_exists.mp hs
  have hg := forSender_transmit senders frame hn
  rw [sendTarget_eq hs, Option.bind_some, SendTarget.sendSync, SendTarget.packetFor] at hg
  rw [hp] at hg
  have hmem : (⟨i, (sender.cloneControlSocket.map (·.1)).getD socket,
      sender.threadControlTarget, packet⟩ : Sent) ∈
        forSender i (transmit (buildSendTargets senders) frame) := by
    rw [hg]
    exact mem_append_left _ mem_cons_self
  exact ⟨_, (mem_filter.mp hmem).1, rfl, rfl, rfl⟩

variable {ress : SendResults}

/-- So does it without a thread, once every send of the frame succeeds. -/
theorem sendFrameInline_sync {i : Nat} (hn : senders[i]? = some sender)
    (hs : sender.socket.isSome = true)
    (hp : frame.syncPackets[i]? = some (some packet)) {all : List Sent}
    (ho : sendFrameInline senders [] (frame, ress) = (all, .ok ())) :
    ∃ sent ∈ all, sent.sender = i ∧ sent.datagram.bytes = packet ∧
      sent.datagram.dest = sender.controlTarget := by
  obtain ⟨socket, hv⟩ : ∃ socket, sender.controlVia = some socket := by
    rw [← Option.isSome_iff_exists, RtpSender.controlVia, Option.isSome_or, hs, Bool.or_true]
  have hi : inlineSync frame sender i = some ⟨i, socket, sender.controlTarget, packet⟩ := by
    simp [inlineSync, hp, hv]
  have hg := forSender_inlineFrame senders frame hn
  rw [hi] at hg
  have hmem : (⟨i, socket, sender.controlTarget, packet⟩ : Sent) ∈
      forSender i (inlineFrame senders frame) := by
    rw [hg]
    exact mem_append_left _ mem_cons_self
  rw [sendFrameInline_ok ho, nil_append]
  exact ⟨_, (mem_filter.mp hmem).1, rfl, rfl, rfl⟩

theorem sendFrameInline_leaves :
    ∀ sent ∈ (sendFrameInline senders [] (frame, ress)).1,
      ∃ sender, Leaves senders frame RtpSender.controlTarget sent sender := by
  have hy : ∀ sofar, ∀ ent ∈ senders.zipIdx,
      (∀ sent ∈ sofar, ∃ sender, Leaves senders frame RtpSender.controlTarget sent sender) →
      ∀ sent ∈ (sendSyncInline frame ress sofar ent).1,
        ∃ sender, Leaves senders frame RtpSender.controlTarget sent sender := by
    intro sofar ⟨sender, i⟩ he hf sent hs
    have hp := mk_mem_zipIdx_iff_getElem?.mp he
    unfold sendSyncInline at hs
    split at hs
    · rename_i sync hk
      unfold RtpSender.sendPreparedSync at hs
      cases hv : sender.controlVia with
      | none => simpa [hv] using hf sent (by simpa [hv] using hs)
      | some =>
        rw [hv] at hs
        rcases mem_append.mp hs with hs | hs
        · exact hf sent hs
        · obtain rfl := mem_singleton.mp hs
          exact ⟨sender, hp, .inl ⟨hk, rfl⟩⟩
    · exact hf sent hs
  have ha : ∀ sofar, ∀ ent ∈ senders.zipIdx,
      (∀ sent ∈ sofar, ∃ sender, Leaves senders frame RtpSender.controlTarget sent sender) →
      ∀ sent ∈ (sendAudioInline frame ress sofar ent).1,
        ∃ sender, Leaves senders frame RtpSender.controlTarget sent sender := by
    intro sofar ⟨sender, i⟩ he hf sent hs
    have hp := mk_mem_zipIdx_iff_getElem?.mp he
    unfold sendAudioInline at hs
    split at hs
    · rename_i wire hk
      unfold RtpSender.sendPreparedAudio at hs
      cases hc : sender.socket with
      | none => exact hf sent (by simpa [hc] using hs)
      | some =>
        rw [hc] at hs
        rcases mem_append.mp hs with hs | hs
        · exact hf sent hs
        · obtain rfl := mem_singleton.mp hs
          exact ⟨sender, hp, .inr ⟨hk, rfl⟩⟩
    · exact hf sent hs
  have hn := inOrder_invariant hy (s := []) (by simp)
  unfold sendFrameInline
  rcases hl : inOrder (sendSyncInline frame ress) [] senders.zipIdx with
    ⟨sofar, err | done⟩ <;> rw [hl] at hn
  · exact hn
  · have hs := inOrder_invariant ha hn
    dsimp only at hs ⊢
    rcases hl : inOrder (sendAudioInline frame ress) sofar senders.zipIdx with
      ⟨last, err | done⟩ <;> rw [hl] at hs <;> exact hs

end

end Leaving

end OpenAirCast.Audio

namespace OpenAirCast.Client

open Audio Timing

variable {effectiveDelayNs : DelayMap} {frame : PreparedStreamFrame} {targets : List DeviceId}
  {input : FrameInput}

/-! ## From the map to places -/

/-- The delays of the receivers, in their order. -/
def delaysOf (effectiveDelayNs : DelayMap) (targets : List DeviceId) : List Nat :=
  targets.map (fun receiver => (effectiveDelayNs.get receiver).getD 0)

/-- How many receivers have no entry. -/
def missingOf (effectiveDelayNs : DelayMap) (targets : List DeviceId) : Nat :=
  targets.countP (fun receiver => (effectiveDelayNs.get receiver).isNone)

theorem foldl_collectDelay (effectiveDelayNs : DelayMap) (targets : List DeviceId) :
    ∀ delays missing, targets.foldl (collectDelay effectiveDelayNs) (delays, missing) =
      (delays ++ delaysOf effectiveDelayNs targets,
        missing + missingOf effectiveDelayNs targets) := by
  induction targets with
  | nil => simp [delaysOf, missingOf]
  | cons recv _ ih =>
    intro delays missing
    rw [List.foldl_cons, collectDelay]
    cases hg : effectiveDelayNs.get recv with
    | some => simp [ih, delaysOf, missingOf, hg]
    | none =>
      simp only [ih, delaysOf, missingOf, hg, List.map_cons, List.countP_cons, Option.isNone_none,
        Option.getD_none, if_true, List.append_assoc, List.singleton_append]
      congr 1
      omega

theorem missingOf_eq_zero : missingOf effectiveDelayNs targets = 0 ↔
      ∀ id ∈ targets, (effectiveDelayNs.get id).isSome = true := by
  simp [missingOf, List.countP_eq_zero, Option.isSome_iff_ne_none]

/-- The map is accepted exactly if it covers the targets and no more. -/
theorem mapPresentationDelaysFor_cases (targets : List DeviceId) (effectiveDelayNs : DelayMap) :
    (∃ err, mapPresentationDelaysFor targets effectiveDelayNs = .error err ∧
        ¬ ((∀ id ∈ targets, (effectiveDelayNs.get id).isSome = true) ∧
          effectiveDelayNs.entries.length = targets.length)) ∨
      (mapPresentationDelaysFor targets effectiveDelayNs = .ok (delaysOf effectiveDelayNs targets) ∧
        (∀ id ∈ targets, (effectiveDelayNs.get id).isSome = true) ∧
        effectiveDelayNs.entries.length = targets.length) := by
  unfold mapPresentationDelaysFor
  rw [foldl_collectDelay]
  simp only [List.nil_append, Nat.zero_add, ← missingOf_eq_zero]
  split
  · rename_i hm
    exact .inl ⟨_, rfl, fun h => by omega⟩
  · split
    · rename_i hc
      exact .inl ⟨_, rfl, fun h => hc h.2⟩
    · rename_i hm hc
      exact .inr ⟨rfl, by omega, by omega⟩

/-- With distinct receivers the delays are mapped exactly if the entries are
those of the receivers. -/
theorem mapPresentationDelaysFor_ok_iff (hd : targets.Nodup) (effectiveDelayNs : DelayMap) :
    (∃ delays, mapPresentationDelaysFor targets effectiveDelayNs = .ok delays) ↔
      ∀ id, (effectiveDelayNs.get id).isSome = true ↔ id ∈ targets := by
  have hk : effectiveDelayNs.keys.Nodup := by
    refine List.Pairwise.imp ?_ (List.pairwise_map.mpr effectiveDelayNs.sorted)
    exact fun hlt => ne_of_lt hlt
  have hlen : effectiveDelayNs.keys.length = effectiveDelayNs.entries.length := List.length_map _
  have ho : (∃ delays, mapPresentationDelaysFor targets effectiveDelayNs = .ok delays) ↔
      (∀ id ∈ targets, (effectiveDelayNs.get id).isSome = true) ∧
        effectiveDelayNs.entries.length = targets.length := by
    rcases mapPresentationDelaysFor_cases targets effectiveDelayNs with
      ⟨err, he, hn⟩ | ⟨hm, hall⟩
    · rw [he]
      exact iff_of_false (by rintro ⟨delays, h⟩; cases h) hn
    · exact iff_of_true ⟨_, hm⟩ hall
  rw [ho]
  constructor
  · rintro ⟨hall, _⟩ id
    have hs : targets ⊆ effectiveDelayNs.keys := fun id hi => SortedMap.mem_keys.mpr (hall id hi)
    have hp := (hd.subperm hs).perm_of_length_le (by omega)
    rw [← SortedMap.mem_keys]
    exact hp.mem_iff.symm
  · intro h
    refine ⟨fun id hi => (h id).mpr hi, ?_⟩
    have hp : effectiveDelayNs.keys.Perm targets :=
      (List.perm_ext_iff_of_nodup hk hd).mpr (fun id => SortedMap.mem_keys.trans (h id))
    rw [← hlen]
    exact hp.length_eq

/-- Where it matters whose delay is which, another map with the same
receivers is mapped too. -/
theorem mapPresentationDelaysFor_mapValues
    {delays : List Nat} (h : mapPresentationDelaysFor targets effectiveDelayNs = .ok delays)
    (f : DeviceId → Nat → Nat) :
    mapPresentationDelaysFor targets (effectiveDelayNs.mapValues f) =
      .ok (delaysOf (effectiveDelayNs.mapValues f) targets) := by
  rcases mapPresentationDelaysFor_cases targets effectiveDelayNs with
    ⟨err, he, -⟩ | ⟨-, hall, hc⟩
  · rw [he] at h
    cases h
  · rcases mapPresentationDelaysFor_cases targets (effectiveDelayNs.mapValues f) with
      ⟨err, -, hn⟩ | ⟨hm, -⟩
    · refine absurd ⟨fun id hi => ?_, ?_⟩ hn
      · rw [SortedMap.get_mapValues, Option.isSome_map]
        exact hall id hi
      · rw [SortedMap.mapValues, List.length_map, hc]
    · exact hm

/-! ## From places to senders -/

section Start

variable {κ : Type}

variable {senders : List (RtpSender κ)}

theorem buildRtpSenders_ok {conns : List (StreamConnection κ)}
    (h : GroupClient.buildRtpSenders conns = .ok senders) :
    List.Forall₂ (fun conn sender => conn.buildRtpSender = .ok sender) conns senders := by
  induction conns generalizing senders with
  | nil =>
    cases h
    exact .nil
  | cons conn rest ih =>
    unfold GroupClient.buildRtpSenders at h
    cases hb : conn.buildRtpSender with
    | error =>
      rw [hb] at h
      cases h
    | ok =>
      rw [hb] at h
      cases hr : GroupClient.buildRtpSenders rest with
      | error =>
        rw [hr] at h
        cases h
      | ok =>
        rw [hr] at h
        cases h
        exact .cons hb (ih hr)

namespace GroupClient

/-- The streamer of a stream with these senders and delays. -/
def streamerOf (client : GroupClient κ) (senders : List (RtpSender κ)) (delays : List Nat)
    (latest : Option PtpClockState) : StreamerInner κ :=
  client.configure { (StreamerInner.new client.streamType client.sampleRate : StreamerInner κ) with
      targetPresentationDelaysNs := delays
      rtpSenders := senders.map RtpSender.resetSyncState } latest

variable (cli : GroupClient κ)

/-- What a stream that starts has needed, and the streamer it has. -/
theorem startInner_ok_iff (delays : List Nat)
    (started : Except StartError Unit) (strm : StreamerInner κ) :
    cli.startLiveStreamingToGroupInner delays started = .ok strm ↔
      ∃ prim senders latest, cli.connection = some prim ∧
        buildRtpSenders (prim :: cli.groupConnections) = .ok senders ∧
        senders.length = delays.length ∧ prim.ptpClockRx = some latest ∧
        started = .ok () ∧ strm = cli.streamerOf senders delays latest := by
  unfold startLiveStreamingToGroupInner
  cases hp : cli.connection with
  | none => simp
  | some prim =>
    cases hb : buildRtpSenders (prim :: cli.groupConnections) with
    | error => simp [hb]
    | ok senders =>
      cases hr : prim.ptpClockRx with
      | none => by_cases hc : senders.length = delays.length <;> simp [hb, hr, hc]
      | some =>
        by_cases hc : senders.length = delays.length
        · cases started with
          | error =>
            simp [hb, hr, hc, StreamerInner.setTargetPresentationDelaysNs,
              StreamerInner.setRtpSenders, Except.map]
          | ok =>
            simp [hb, hr, hc, StreamerInner.setTargetPresentationDelaysNs,
              StreamerInner.setRtpSenders, Except.map, streamerOf, eq_comm]
        · simp [hb, hr, hc]

/-- Every connection, primary first. -/
def connections (client : GroupClient κ) : List (StreamConnection κ) :=
  client.connection.toList ++ client.groupConnections

theorem targets_eq : cli.targets = cli.connections.map (·.id) := rfl

/-- A stream that starts has a sender for every connection, and would start
with other delays for the same receivers. -/
theorem start_ok {cli : GroupClient κ} {delays : DelayMap} {started : Except StartError Unit}
    {strm : StreamerInner κ}
    (h : cli.startLiveStreamingToGroupWithPresentationDelays delays started = .ok strm) :
    ∃ senders latest,
      List.Forall₂ (fun conn sender => conn.buildRtpSender = .ok sender) cli.connections senders ∧
      (∀ id ∈ cli.targets, (delays.get id).isSome = true) ∧
      strm = cli.streamerOf senders (delaysOf delays cli.targets) latest ∧
      ∀ f, cli.startLiveStreamingToGroupWithPresentationDelays (delays.mapValues f) started =
        .ok (cli.streamerOf senders (delaysOf (delays.mapValues f) cli.targets) latest) := by
  unfold startLiveStreamingToGroupWithPresentationDelays mapPresentationDelays at h
  rcases mapPresentationDelaysFor_cases cli.targets delays with
    ⟨err, he, -⟩ | ⟨hm, hn, -⟩
  · rw [he] at h
    cases h
  · rw [hm] at h
    obtain ⟨prim, senders, latest, hp, hb, hc, hr, hs, ht⟩ :=
      (startInner_ok_iff cli _ started strm).mp h
    refine ⟨senders, latest, ?_, hn, ht, fun f => ?_⟩
    · have ho : cli.connections = prim :: cli.groupConnections := by simp [connections, hp]
      rw [ho]
      exact buildRtpSenders_ok hb
    · unfold startLiveStreamingToGroupWithPresentationDelays mapPresentationDelays
      rw [mapPresentationDelaysFor_mapValues hm f]
      refine (startInner_ok_iff cli _ started _).mpr
        ⟨prim, senders, latest, hp, hb, ?_, hr, hs, rfl⟩
      rw [hc]
      simp [delaysOf]

/-- A streamer that starts has the routes and the ciphers of its senders. -/
theorem streamerOf_spec (senders : List (RtpSender κ))
    (delays : List Nat) (latest : Option PtpClockState) :
    (cli.streamerOf senders delays latest).targetPresentationDelaysNs = delays ∧
      (cli.streamerOf senders delays latest).usePtpSync = true ∧
      (cli.streamerOf senders delays latest).streamType = cli.streamType ∧
      (cli.streamerOf senders delays latest).firstPacketSent = false ∧
      (cli.streamerOf senders delays latest).rtpSenders.map RtpSender.route =
        senders.map RtpSender.route ∧
      (cli.streamerOf senders delays latest).rtpSenders.map RtpSender.audioPart =
        senders.map RtpSender.audioPart := by
  unfold streamerOf configure
  obtain ⟨hk, hp, hf⟩ := StreamerInner.setPtpClockUpdates_keeps
    { (StreamerInner.new cli.streamType cli.sampleRate : StreamerInner κ) with
      targetPresentationDelaysNs := delays
      rtpSenders := senders.map RtpSender.resetSyncState } latest
  have hr := StreamerInner.map_resetSyncState RtpSender.route_resetSyncState senders
  have ha := StreamerInner.map_resetSyncState RtpSender.audioPart_resetSyncState senders
  split <;> exact ⟨hk.delays, hp, hk.streamType, hf, hk.routes.trans hr, hk.audio.trans ha⟩

/-- Two streamers of one start that differ in their delays. -/
theorem streamerOf_sameAudio
    {delays others : List Nat} (hl : senders.length = delays.length)
    (ho : senders.length = others.length) (latest : Option PtpClockState)
    (hasSenderThread : Bool) :
    Streaming.SameAudio ⟨cli.streamerOf senders delays latest, hasSenderThread, true⟩
      ⟨cli.streamerOf senders others latest, hasSenderThread, true⟩ := by
  obtain ⟨hd, -, ht, hf, hr, ha⟩ := cli.streamerOf_spec senders delays latest
  obtain ⟨hd', -, ht', hf', hr', ha'⟩ := cli.streamerOf_spec senders others latest
  refine ⟨rfl, rfl, ht'.trans ht.symm, hf'.trans hf.symm, ha'.trans ha.symm, ?_, ?_⟩
  · rw [hd, Streaming.length_of_routes hr, hl]
  · rw [hd', Streaming.length_of_routes hr', ho]

end GroupClient

/-! ## What leaves for a connection -/

variable (client : GroupClient κ)

/-- A sync datagram for the connection at its place: it goes where the
control packets of the connection go, and says the time with the delay of
this connection. Its seconds are read modulo 2^32. -/
def SyncFor (effectiveDelayNs : DelayMap) (s : Streaming κ)
    (input : FrameInput) (control : RtpSender κ → SocketAddr) (sent : Sent) : Prop :=
  ∃ conn sender delay, client.connections[sent.sender]? = some conn ∧
    conn.buildRtpSender = .ok sender ∧ effectiveDelayNs.get conn.id = some delay ∧
    sent.datagram.dest = control sender ∧ s.Says input delay sent.datagram.bytes ∧
    presentationNs true sent.datagram.bytes = s.dueAt input delay % (2 ^ 32 * NS_PER_SECOND)

/-- The audio datagram for the connection at its place. -/
def AudioFor (frame : PreparedFrame) (sent : Sent) : Prop :=
  ∃ conn sender, client.connections[sent.sender]? = some conn ∧
    conn.buildRtpSender = .ok sender ∧ sent.datagram.dest = sender.dest ∧
    frame.wirePackets[sent.sender]? = some sent.datagram.bytes

/-- What leaves with a frame, by the sender thread and without it. -/
structure Reaches (client : GroupClient κ) (effectiveDelayNs : DelayMap)
    (streamer : StreamerInner κ) (t : StreamerTurn κ) (input : FrameInput)
    (frame : PreparedStreamFrame) : Prop where
  thread : ∀ sent ∈ transmit (buildSendTargets streamer.rtpSenders) frame.prepared,
    SyncFor client effectiveDelayNs t.before input RtpSender.threadControlTarget sent ∨
      AudioFor client frame.prepared sent
  inline : ∀ results,
    ∀ sent ∈ (sendFrameInline t.after.inner.rtpSenders [] (frame.prepared, results)).1,
      SyncFor client effectiveDelayNs t.before input RtpSender.controlTarget sent ∨
        AudioFor client frame.prepared sent
  /-- Sync packets that are due leave for every connection they can, without
  a thread where every send succeeds. -/
  synced : frame.syncEmitted = true → ∀ (i : Nat) conn sender,
    client.connections[i]? = some conn → conn.buildRtpSender = .ok sender →
    sender.takesSync = true → sender.socket.isSome = true →
    (∃ sent ∈ transmit (buildSendTargets streamer.rtpSenders) frame.prepared, sent.sender = i ∧
        SyncFor client effectiveDelayNs t.before input RtpSender.threadControlTarget sent) ∧
      ∀ results all,
        sendFrameInline t.after.inner.rtpSenders [] (frame.prepared, results) = (all, .ok ()) →
        ∃ sent ∈ all, sent.sender = i ∧
          SyncFor client effectiveDelayNs t.before input RtpSender.controlTarget sent

variable {x : RtpSender κ} {xs ys : List (RtpSender κ)} {i : Nat}

theorem route_at (h : xs.map RtpSender.route = ys.map RtpSender.route)
    (hx : xs[i]? = some x) : ∃ y, ys[i]? = some y ∧ y.route = x.route := by
  have hr := congrArg (·[i]?) h
  simp only [List.getElem?_map, hx, Option.map_some] at hr
  exact Option.map_eq_some_iff.mp hr.symm

theorem targets_of_route {y : RtpSender κ} (h : y.route = x.route) :
    y.dest = x.dest ∧ y.controlTarget = x.controlTarget ∧
      y.threadControlTarget = x.threadControlTarget ∧ y.takesSync = x.takesSync ∧
      y.socket = x.socket := by
  simp only [RtpSender.route, Prod.mk.injEq] at h
  simp only [RtpSender.controlTarget, RtpSender.threadControlTarget, RtpSender.takesSync,
    RtpSender.cloneControlSocket, h, and_self]

/-- Where a streamer has its senders and its delays from. -/
structure Origin (client : GroupClient κ) (effectiveDelayNs : DelayMap)
    (senders : List (RtpSender κ)) (streamer : StreamerInner κ) : Prop where
  built : List.Forall₂ (fun conn sender => conn.buildRtpSender = .ok sender) client.connections
    senders
  routes : streamer.rtpSenders.map RtpSender.route = senders.map RtpSender.route
  entries : ∀ id ∈ client.targets, (effectiveDelayNs.get id).isSome = true
  delays : streamer.targetPresentationDelaysNs = delaysOf effectiveDelayNs client.targets

/-- At a place there is a connection, and the sender it was built from. -/
theorem Origin.at_place {cli : GroupClient κ} {strm : StreamerInner κ}
    (h : Origin cli effectiveDelayNs senders strm)
    (hroutes : xs.map RtpSender.route = strm.rtpSenders.map RtpSender.route)
    (hx : xs[i]? = some x) :
    ∃ conn sender, cli.connections[i]? = some conn ∧ conn.buildRtpSender = .ok sender ∧
      sender.route = x.route := by
  obtain ⟨sender, hs, hr⟩ := route_at (hroutes.trans h.routes) hx
  obtain ⟨hi, hg⟩ := List.getElem?_eq_some_iff.mp hs
  have hi' : i < cli.connections.length := h.built.length_eq ▸ hi
  have hb := (List.forall₂_iff_get.mp h.built).2 i hi' hi
  refine ⟨cli.connections[i], sender, List.getElem?_eq_getElem hi', ?_, hr⟩
  rw [← hg]
  exact hb

/-- The delay of a place is the one of the connection there. -/
theorem Origin.delay_at {cli : GroupClient κ} {strm : StreamerInner κ}
    (h : Origin cli effectiveDelayNs senders strm) {conn : StreamConnection κ}
    (hc : cli.connections[i]? = some conn) {delay : Nat}
    (hd : strm.targetPresentationDelaysNs[i]? = some delay) :
    effectiveDelayNs.get conn.id = some delay := by
  have hi : conn.id ∈ cli.targets := by exact List.mem_map_of_mem (List.mem_of_getElem? hc)
  obtain ⟨_, he⟩ := Option.isSome_iff_exists.mp (h.entries conn.id hi)
  rw [h.delays, delaysOf, cli.targets_eq, List.getElem?_map, List.getElem?_map, hc] at hd
  simpa [he] using hd

variable [PacketCipher κ]

section

variable {cli : GroupClient κ} {strm : StreamerInner κ} {s : Streaming κ}

variable {control : RtpSender κ → SocketAddr} {sent : Sent}

/-- A sync packet that leaves says the time with the delay of the
connection it goes to. -/
theorem Origin.sync (h : Origin cli effectiveDelayNs senders strm) (ht : Streaming.Steady strm s)
    (hroutes : xs.map RtpSender.route = strm.rtpSenders.map RtpSender.route)
    (ho : (s.runFrame input).2 = some frame)
    (hn : ∀ x y : RtpSender κ, y.route = x.route → control y = control x)
    (hp : xs[sent.sender]? = some x)
    (hk : frame.prepared.syncPackets[sent.sender]? = some (some sent.datagram.bytes))
    (hd : sent.datagram.dest = control x) :
    SyncFor cli effectiveDelayNs s input control sent := by
  obtain ⟨conn, sender, hc, hb, hr⟩ := h.at_place hroutes hp
  obtain ⟨delay, hl, hs⟩ := Streaming.runFrame_says ht ho hk
  refine ⟨conn, sender, delay, hc, hb, h.delay_at hc hl, ?_, hs, ?_⟩
  · rw [hd, hn x sender hr]
  · obtain ⟨_, _, hy⟩ := hs
    rw [hy, presentationNs_ptpSyncBytes]

/-- A packet that leaves is for the connection it goes to. -/
theorem Origin.leaves (h : Origin cli effectiveDelayNs senders strm) (hs : Streaming.Steady strm s)
    (hroutes : xs.map RtpSender.route = strm.rtpSenders.map RtpSender.route)
    (ho : (s.runFrame input).2 = some frame)
    (hc : ∀ x y : RtpSender κ, y.route = x.route → control y = control x)
    (hl : Leaves xs frame.prepared control sent x) :
    SyncFor cli effectiveDelayNs s input control sent ∨ AudioFor cli frame.prepared sent := by
  rcases hl.packet with ⟨hp, hd⟩ | ⟨hp, hd⟩
  · exact .inl (h.sync hs hroutes ho hc hl.place hp hd)
  · obtain ⟨conn, sender, hn, hb, hr⟩ := h.at_place hroutes hl.place
    refine .inr ⟨conn, sender, hn, hb, ?_, hp⟩
    rw [hd, (targets_of_route hr).1]

/-- A frame of a steady stream reaches every connection with its own
delay. -/
theorem Origin.reaches (h : Origin cli effectiveDelayNs senders strm)
    (ha : strm.rtpSenders.length = strm.targetPresentationDelaysNs.length)
    (hs : Streaming.Steady strm s)
    (ho : (s.runFrame input).2 = some frame) :
    Reaches cli effectiveDelayNs strm (Mealy.turn Streaming.step s (.frame input)) input frame := by
  have hh : ∀ x y : RtpSender κ, y.route = x.route →
      y.threadControlTarget = x.threadControlTarget := fun x y hr =>
    (targets_of_route hr).2.2.1
  have hi : ∀ x y : RtpSender κ, y.route = x.route → y.controlTarget = x.controlTarget :=
    fun x y hr => (targets_of_route hr).2.1
  have hf : Streaming.Steady strm (s.step (.frame input)).1 :=
    Streaming.step_steady ha s (.frame input) hs
  refine ⟨fun sent hn => ?_, fun ress sent hn => ?_, ?_⟩
  · obtain ⟨x, hl⟩ := transmit_leaves hn
    exact h.leaves hs rfl ho hh hl
  · obtain ⟨x, hl⟩ := sendFrameInline_leaves sent hn
    exact h.leaves hs hf.routes ho hi hl
  · intro he i conn sender hcn hb ht hc
    obtain ⟨x, hx⟩ : ∃ x, strm.rtpSenders[i]? = some x := by
      refine ⟨_, List.getElem?_eq_getElem ?_⟩
      rw [Streaming.length_of_routes h.routes, ← h.built.length_eq]
      exact (List.getElem?_eq_some_iff.mp hcn).1
    obtain ⟨_, _, hc', hb', hr⟩ := h.at_place rfl hx
    rw [hcn] at hc'
    cases hc'
    rw [hb] at hb'
    cases hb'
    obtain ⟨-, -, -, htakEq, hsocEq⟩ := targets_of_route hr
    rw [htakEq] at ht
    rw [hsocEq] at hc
    obtain ⟨_, hp⟩ := Streaming.runFrame_gives hs ho he hx ht
    constructor
    · obtain ⟨sent, hn, rfl, rfl, hd⟩ := transmit_sync hx hc hp
      exact ⟨sent, hn, rfl, h.sync hs rfl ho hh hx hp hd⟩
    · intro ress all hall
      obtain ⟨y, hy, hyx⟩ := route_at hf.routes.symm hx
      rw [← (targets_of_route hyx).2.2.2.2] at hc
      obtain ⟨sent, hn, rfl, rfl, hd⟩ := sendFrameInline_sync hy hc hp hall
      exact ⟨sent, hn, rfl, h.sync hs hf.routes ho hi hy hp hd⟩

end

/-- A calibration reaches the right speaker: it is mapped exactly if it is
one for the connected receivers; and in every run of a stream that starts
with it, every sync datagram of every frame says the time with the delay of
the receiver it goes to, while the audio is what it would be with no delays
at all. -/
theorem calibration_reaches_its_speaker (client : GroupClient κ)
    (hdistinct : client.targets.Nodup) (effectiveDelayNs : DelayMap) :
    ((∃ delays, client.mapPresentationDelays effectiveDelayNs = .ok delays) ↔
      ∀ id, (effectiveDelayNs.get id).isSome = true ↔ id ∈ client.targets) ∧
    ∀ started streamer,
      client.startLiveStreamingToGroupWithPresentationDelays effectiveDelayNs started =
        .ok streamer →
      ∀ (hasSenderThread : Bool) (events : List StreamerEvent),
        (∀ t ∈ Mealy.trace Streaming.step ⟨streamer, hasSenderThread, true⟩ events,
          ∀ frame, t.output = some frame → ∃ input, t.input = .frame input ∧
              Reaches client effectiveDelayNs streamer t input frame) ∧
        ∃ level, client.startLiveStreamingToGroupWithPresentationDelays
            (effectiveDelayNs.mapValues (fun _ _ => 0)) started = .ok level ∧
          (Mealy.trace Streaming.step ⟨level, hasSenderThread, true⟩ events).map Streaming.audioOf =
            (Mealy.trace Streaming.step ⟨streamer, hasSenderThread, true⟩ events).map
              Streaming.audioOf := by
  refine ⟨mapPresentationDelaysFor_ok_iff hdistinct effectiveDelayNs, ?_⟩
  intro started streamer hs hasSenderThread events
  obtain ⟨senders, latest, hb, hn, rfl, hh⟩ := GroupClient.start_ok hs
  have hc : ∀ map : DelayMap, senders.length = (delaysOf map client.targets).length := fun map => by
    rw [delaysOf, List.length_map, client.targets_eq, List.length_map, hb.length_eq]
  obtain ⟨hd, hp, -, -, hrt, -⟩ :=
    client.streamerOf_spec senders (delaysOf effectiveDelayNs client.targets) latest
  have hor : Origin client effectiveDelayNs senders
      (client.streamerOf senders (delaysOf effectiveDelayNs client.targets) latest) :=
    ⟨hb, hrt, hn, hd⟩
  refine ⟨?_, _, hh _, ?_⟩
  · generalize client.streamerOf senders (delaysOf effectiveDelayNs client.targets) latest =
      streamer at hd hp hrt hor
    have ha : streamer.rtpSenders.length = streamer.targetPresentationDelaysNs.length := by
      rw [hd, Streaming.length_of_routes hrt, hc effectiveDelayNs]
    intro t ht frame hf
    obtain ⟨_, _, hl⟩ := List.append_of_mem ht
    obtain ⟨xs, _, -, hr, -, -⟩ := Mealy.trace_split hl
    have hs : Streaming.Steady streamer ⟨streamer, hasSenderThread, true⟩ := ⟨hp, rfl, rfl⟩
    have he := Mealy.run_invariant (Streaming.step_steady ha) hs xs
    generalize Mealy.run Streaming.step ⟨streamer, hasSenderThread, true⟩ xs = s at hr he
    have ho : (s.step t.input).2 = some frame := by
      rw [hr] at hf
      exact hf
    obtain ⟨input, hi⟩ := frame_of_output ho
    refine ⟨input, hi, ?_⟩
    rw [hi] at hr ho
    rw [hr]
    exact hor.reaches ha he ho
  · exact Streaming.trace_sameAudio
      (client.streamerOf_sameAudio (hc _) (hc _) latest hasSenderThread) events

end Start

/-! ### A pair of speakers -/

/-- A speaker with both channels open. -/
def speaker (id : DeviceId) (port : BitVec 16) : StreamConnection ScriptedCipher where
  id := id
  buildRtpSender := .ok { steadySender with
    socket := some ⟨1⟩
    dest := ⟨.v4 0x0A000001, port⟩
    controlSocket := some ⟨2⟩
    controlDest := some ⟨.v4 0x0A000001, port + 1⟩ }
  ptpClockRx := some (some behindByASecond)

def hall : DeviceId := ⟨1⟩

def kitchen : DeviceId := ⟨2⟩

def pair : GroupClient ScriptedCipher where
  connection := some (speaker hall 6000)
  groupConnections := [speaker kitchen 7000]
  streamType := 96
  sampleRate := 44100
  renderDelayMs := 0

/-- The kitchen plays late by so much. -/
def kitchenLateBy (delayNs : Nat) : DelayMap :=
  (SortedMap.empty.insert hall 0).insert kitchen delayNs

/-- Five milliseconds reach the kitchen, and the kitchen only. -/
theorem calibration_reaches_its_speaker_pair : ∃ streamer t frame forHall forKitchen audio,
    pair.startLiveStreamingToGroupWithPresentationDelays (kitchenLateBy 5000000) (.ok ()) =
      .ok streamer ∧
    Mealy.trace Streaming.step ⟨streamer, true, true⟩ [.frame firstFrame] = [t] ∧
    t.output = some frame ∧
    transmit (buildSendTargets streamer.rtpSenders) frame.prepared =
      forHall :: forKitchen :: audio ∧
    (forHall.datagram.dest.port, presentationNs true forHall.datagram.bytes) = (6001, 2000000000) ∧
    (forKitchen.datagram.dest.port, presentationNs true forKitchen.datagram.bytes) =
      (7001, 2005000000) ∧
    ∃ input, t.input = .frame input ∧ Reaches pair (kitchenLateBy 5000000) streamer t input frame :=
  ⟨_, _, _, _, _, _, rfl, rfl, rfl, rfl, by decide, by decide,
    (((calibration_reaches_its_speaker pair (by decide) (kitchenLateBy 5000000)).2 (.ok ()) _ rfl
      true [.frame firstFrame]).1 _ List.mem_cons_self _ rfl)⟩

/-- The wire counts seconds in 32 bits: a delay of 2^32 of them says the same
as none. -/
theorem longest_delay_says_none : ∃ streamer t frame forHall forKitchen audio,
    pair.startLiveStreamingToGroupWithPresentationDelays
      (kitchenLateBy (2 ^ 32 * NS_PER_SECOND)) (.ok ()) = .ok streamer ∧
    Mealy.trace Streaming.step ⟨streamer, true, true⟩ [.frame firstFrame] = [t] ∧
    t.output = some frame ∧ frame.syncEmitted = true ∧
    transmit (buildSendTargets streamer.rtpSenders) frame.prepared =
      forHall :: forKitchen :: audio ∧
    forKitchen.datagram.dest.port = 7001 ∧
    t.before.dueAt firstFrame (2 ^ 32 * NS_PER_SECOND) = 2000000000 + 2 ^ 32 * NS_PER_SECOND ∧
    presentationNs true forKitchen.datagram.bytes = 2000000000 ∧
    presentationNs true forHall.datagram.bytes = 2000000000 :=
  ⟨_, _, _, _, _, _, rfl, rfl, rfl, rfl, rfl, rfl, rfl, by decide, by decide⟩

end OpenAirCast.Client
