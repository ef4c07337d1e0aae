/-
Audio.Streamer — which clock a frame is stamped from, from
`prepare_stream_frame`, `run_streamer` and the setters of
`airplay-audio/streamer.rs`.

Clock identity, offset, anchor, cadence and the marks of the senders are
fields of their own in `StreamerInner`. A published `PtpClockState` writes
them together when the streamer consumes it, at the top of its loop and again
when it prepares a frame. Everything but the watch channels is behind one
lock, so an event is what happens under it; a value may be published between
any two.

Translation notes.

* A watch channel shows the value that was published last.
* The loop goes on after a frame as long as nothing failed. What is left out
  of it here, decoding, encoding and the pace, does not touch these fields.
-/
import OpenAirCast.Audio.Frame

namespace OpenAirCast.Audio

open Timing

/-- `master_time_for_anchor_ns`: the local time where there is no offset, and
where the conversion would leave the range. -/
def masterTimeForAnchorNs (localWallNs : Nat) : Option ClockOffset → Nat
  | some offset => (localToMasterNs localWallNs offset.offsetNs).getD localWallNs
  | none => localWallNs

inductive SampleRate where
  | hz44100 | hz48000

def SampleRate.asHz : SampleRate → BitVec 32
  | hz44100 => 44100
  | hz48000 => 48000

structure StreamerInner (κ : Type) where
  /-- `config.stream_type`. -/
  streamType : UInt8
  /-- `config.audio_format.sample_rate`. -/
  sampleRate : BitVec 32
  rtpSenders : List (RtpSender κ)
  lastSyncRtp : BitVec 32 := 0
  clockOffset : Option ClockOffset := none
  /-- What the watch shows, and whether it has not been looked at yet. -/
  timingRx : Option (ClockOffset × Bool) := none
  /-- What has been consumed. -/
  ptpClockState : Option PtpClockState := none
  /-- What the watch shows. -/
  ptpClockRx : Option (Option PtpClockState) := none
  firstPacketSent : Bool := false
  renderDelayNs : Nat := 0
  usePtpSync : Bool := false
  ptpMasterClockId : BitVec 64 := 0
  targetPresentationDelaysNs : List Nat
  lastMasterAnchorNs : Nat := 0

/-- What a frame brings along. -/
structure FrameInput where
  rtpTimestamp : BitVec 32
  payload : Bytes
  localWallNs : Nat
  /-- The packets can be handed over. -/
  sent : Bool := true

structure PreparedStreamFrame where
  prepared : PreparedFrame
  syncEmitted : Bool
  masterAnchorNs : Option Nat

namespace StreamerInner

variable {κ : Type}

/-- The identity of the clock consumed last. -/
def identity (inner : StreamerInner κ) : Option (BitVec 64) :=
  inner.ptpClockState.map (·.masterClockId)

def resetSyncStates (inner : StreamerInner κ) : StreamerInner κ :=
  { inner with rtpSenders := inner.rtpSenders.map RtpSender.resetSyncState }

/-! ## Clock states -/

def installPtpClockState (inner : StreamerInner κ) (state : Option PtpClockState) :
    StreamerInner κ :=
  let generationChanged := inner.identity ≠ state.map (·.masterClockId)
  let inner := { inner with
    ptpClockState := state
    clockOffset := state.map (·.offset)
    ptpMasterClockId := (state.map (·.masterClockId)).getD 0 }
  if generationChanged then
    { inner with lastMasterAnchorNs := 0, lastSyncRtp := 0 }.resetSyncStates
  else inner

/-- Some field of the two states differs. -/
def clockStateChanged : Option PtpClockState → Option PtpClockState → Bool
  | some current, some next =>
    current.masterClockId != next.masterClockId
      || current.offset.offsetNs != next.offset.offsetNs
      || current.offset.errorNs != next.offset.errorNs
      || current.offset.rttNs != next.offset.rttNs
  | none, none => false
  | _, _ => true

def consumePtpClockUpdates (inner : StreamerInner κ) : StreamerInner κ :=
  match inner.ptpClockRx with
  | none => inner
  | some latest =>
    if clockStateChanged inner.ptpClockState latest then inner.installPtpClockState latest
    else inner

/-! ## Setters -/

def setPtpSyncMode (inner : StreamerInner κ) (clockId : BitVec 64) : StreamerInner κ :=
  { inner with
    usePtpSync := true
    ptpMasterClockId := if inner.ptpClockRx.isNone then clockId else inner.ptpMasterClockId }

/-- `latest` is what the new watch shows. -/
def setPtpClockUpdates (inner : StreamerInner κ) (latest : Option PtpClockState) :
    StreamerInner κ :=
  { inner with
    usePtpSync := true
    timingRx := none
    ptpClockRx := some latest
    ptpClockState := none
    clockOffset := none
    ptpMasterClockId := 0
    lastMasterAnchorNs := 0
    lastSyncRtp := 0 }.resetSyncStates.consumePtpClockUpdates

def setRenderDelayMs (inner : StreamerInner κ) (delayMs : BitVec 32) : StreamerInner κ :=
  { inner with renderDelayNs := delayMs.toNat * 1000000 }

def setTimingOffset (inner : StreamerInner κ) (offset : ClockOffset) : StreamerInner κ :=
  if inner.ptpClockRx.isNone then { inner with clockOffset := some offset } else inner

/-- `latest` is what the new watch shows. -/
def setTimingUpdates (inner : StreamerInner κ) (latest : ClockOffset) (unseen : Bool) :
    StreamerInner κ :=
  if inner.ptpClockRx.isNone then { inner with timingRx := some (latest, unseen) } else inner

def resetAfterFlush (inner : StreamerInner κ) : StreamerInner κ :=
  { inner with firstPacketSent := false }.resetSyncStates

/-! ## Frames -/

/-- The top of the loop of `run_streamer`. -/
def consumeTimingUpdates (inner : StreamerInner κ) : StreamerInner κ :=
  let inner := inner.consumePtpClockUpdates
  match inner.ptpClockRx, inner.timingRx with
  | none, some (latest, true) =>
    { inner with timingRx := some (latest, false), clockOffset := some latest }
  | _, _ => inner

/-- Without a subscription, or with a state from it. -/
def clockReady (inner : StreamerInner κ) : Bool :=
  !inner.usePtpSync || (inner.ptpClockRx.isNone || inner.ptpClockState.isSome)

def syncDue (inner : StreamerInner κ) (rtpTimestamp : BitVec 32) (marker : Bool) : Bool :=
  inner.clockReady && (marker || inner.lastSyncRtp == 0
    || decide (inner.sampleRate.toNat ≤ (rtpTimestamp - inner.lastSyncRtp).toNat))

/-- The RTP timestamp after this one, at the sample rate. -/
def nextRtpTimestamp (inner : StreamerInner κ) (rtpTimestamp : BitVec 32) : BitVec 32 :=
  rtpTimestamp + inner.sampleRate / 44100 * 352

def framePlan (inner : StreamerInner κ) (input : FrameInput) (marker : Bool) : FramePlan where
  payloadType := inner.streamType
  rtpTimestamp := input.rtpTimestamp
  nextRtpTimestamp := inner.nextRtpTimestamp input.rtpTimestamp
  payload := input.payload
  marker := marker
  syncDue := inner.syncDue input.rtpTimestamp marker
  usePtpSync := inner.usePtpSync
  ptpMasterClockId := inner.ptpMasterClockId
  commonMasterTimeNs := masterTimeForAnchorNs input.localWallNs inner.clockOffset
  globalRenderLeadNs := inner.renderDelayNs
  referenceMasterTimeNs := inner.lastMasterAnchorNs

variable [PacketCipher κ]

/-- The frame for all targets by this plan. -/
def prepareWith (inner : StreamerInner κ) (plan : FramePlan) :
    StreamerInner κ × Except PrepareFrameError PreparedFrame :=
  let r := prepareFrameForTargets inner.rtpSenders inner.targetPresentationDelaysNs plan
  ({ inner with rtpSenders := r.1 }, r.2)

/-- A frame that cannot be presented goes out without sync packets. -/
def prepareStreamFrame (inner : StreamerInner κ) (input : FrameInput) (marker : Bool) :
    StreamerInner κ × Except PrepareFrameError PreparedStreamFrame :=
  let inner := inner.consumePtpClockUpdates
  let plan := inner.framePlan input marker
  let anchor := if inner.clockReady then some plan.commonMasterTimeNs else none
  match inner.prepareWith plan with
  | (inner, .ok prepared) => (inner, .ok ⟨prepared, plan.syncDue, anchor⟩)
  | (inner, .error (.presentationTime _ _)) =>
    let r := inner.prepareWith { plan with syncDue := false }
    (r.1, r.2.map (fun prepared => ⟨prepared, false, anchor⟩))
  | (inner, .error error) => (inner, .error error)

/-- What the loop notes of a frame. -/
def noteFrame (inner : StreamerInner κ) (input : FrameInput) (frame : PreparedStreamFrame) :
    StreamerInner κ :=
  { inner with
    lastSyncRtp := if frame.syncEmitted then input.rtpTimestamp else inner.lastSyncRtp
    firstPacketSent := true
    lastMasterAnchorNs := frame.masterAnchorNs.getD inner.lastMasterAnchorNs }

end StreamerInner

/-! ## The loop -/

/-- The streamer and its loop. -/
structure Streaming (κ : Type) where
  inner : StreamerInner κ
  /-- The packets go to a sender thread. -/
  hasSenderThread : Bool
  running : Bool := true

/-- `AudioStreamer::new`, with its targets set. -/
def Streaming.new {κ : Type} (streamType : UInt8) (sampleRate : SampleRate)
    (rtpSenders : List (RtpSender κ)) (targetPresentationDelaysNs : List Nat)
    (hasSenderThread : Bool) : Streaming κ where
  inner :=
    { streamType := streamType
      sampleRate := sampleRate.asHz
      rtpSenders := rtpSenders
      targetPresentationDelaysNs := targetPresentationDelaysNs }
  hasSenderThread := hasSenderThread

inductive StreamerEvent where
  /-- A value appears on the watch of clock states. -/
  | publishClock (state : Option PtpClockState)
  | publishTiming (offset : ClockOffset)
  | setPtpClockUpdates (latest : Option PtpClockState)
  | setPtpSyncMode (clockId : BitVec 64)
  | setRenderDelayMs (delayMs : BitVec 32)
  | setTimingOffset (offset : ClockOffset)
  | setTimingUpdates (latest : ClockOffset) (unseen : Bool)
  | resetAfterFlush
  /-- The loop begins a turn. -/
  | turn
  /-- It has a frame. -/
  | frame (input : FrameInput)

namespace Streaming

variable {κ : Type} [PacketCipher κ]

/-- A frame of the loop. With a sender thread it is noted before it is handed
over, else afterwards. -/
def runFrame (s : Streaming κ) (input : FrameInput) : Streaming κ × Option PreparedStreamFrame :=
  if s.running = false ∨ s.inner.rtpSenders = [] then (s, none)
  else
    match s.inner.prepareStreamFrame input (!s.inner.firstPacketSent) with
    | (inner, .error _) => ({ s with inner, running := false }, none)
    | (inner, .ok frame) =>
      let noted := if s.hasSenderThread || input.sent then inner.noteFrame input frame else inner
      ({ s with inner := noted, running := input.sent }, some frame)

def step (s : Streaming κ) : StreamerEvent → Streaming κ × Option PreparedStreamFrame
  | .publishClock state =>
    ({ s with inner := { s.inner with ptpClockRx := s.inner.ptpClockRx.map (fun _ => state) } },
      none)
  | .publishTiming offset =>
    ({ s with inner := { s.inner with
        timingRx := s.inner.timingRx.map (fun _ => (offset, true)) } }, none)
  | .setPtpClockUpdates latest => ({ s with inner := s.inner.setPtpClockUpdates latest }, none)
  | .setPtpSyncMode clockId => ({ s with inner := s.inner.setPtpSyncMode clockId }, none)
  | .setRenderDelayMs delayMs => ({ s with inner := s.inner.setRenderDelayMs delayMs }, none)
  | .setTimingOffset offset => ({ s with inner := s.inner.setTimingOffset offset }, none)
  | .setTimingUpdates latest unseen =>
    ({ s with inner := s.inner.setTimingUpdates latest unseen }, none)
  | .resetAfterFlush => ({ s with inner := s.inner.resetAfterFlush }, none)
  | .turn =>
    if s.running then ({ s with inner := s.inner.consumeTimingUpdates }, none) else (s, none)
  | .frame input => s.runFrame input

end Streaming

end OpenAirCast.Audio
