/-
Client.GroupStream — starting the stream of a group with a
delay for each receiver, from `airplay-client/client.rs` and the setters of
`airplay-audio/streamer.rs`.

A calibration names receivers; the streamer counts senders. The delays are
put in sender order here, primary first, and nothing above this knows about
places.

Translation notes.

* A connection carries what `build_rtp_sender` and `ptp_clock_rx` answer.
  Its clock watch is what the watch shows.
* The flushes before the start are left out, for their results are thrown
  away, and so are the equalizer, the statistics and the control listener.
  What `start_live_gated` answers is an argument.
-/
import OpenAirCast.Audio.Playback
import OpenAirCast.Audio.Streamer
import OpenAirCast.Client.Group

namespace OpenAirCast

open Timing (PtpClockState)

inductive StartError where
  | setupFailed (message : String)
  | noSession
  | noAddress
  | alreadyStreaming
  | prepareFrame (error : Audio.PrepareFrameError)
  | audio (error : Audio.AudioError)

/-! ## The streamer -/

namespace Audio.StreamerInner

variable {κ : Type}

/-- `AudioStreamer::new`. -/
def new (streamType : UInt8) (sampleRate : BitVec 32) : StreamerInner κ :=
  { streamType, sampleRate, rtpSenders := [], targetPresentationDelaysNs := [] }

variable (inner : StreamerInner κ)

/-- The delays are positional, so they start from zero again. -/
def setRtpSenders (senders : List (RtpSender κ)) : StreamerInner κ :=
  { inner with
    targetPresentationDelaysNs := List.replicate senders.length 0
    rtpSenders := senders }

def setTargetPresentationDelaysNs (state : StreamerState)
    (delays : List Nat) : Except StartError (StreamerInner κ) :=
  if state ≠ .idle then .error .alreadyStreaming
  else if delays.length ≠ inner.rtpSenders.length then
    .error (.prepareFrame (.targetCountMismatch inner.rtpSenders.length delays.length))
  else .ok { inner with targetPresentationDelaysNs := delays }

end Audio.StreamerInner

namespace Client

open Audio

/-! ## Delays in sender order -/

/-- A delay for each receiver. -/
abbrev DelayMap := SortedMap DeviceId Nat

/-- One round of the loop: the delays so far, and how many are missing. -/
def collectDelay (effectiveDelayNs : DelayMap) (sofar : List Nat × Nat) (receiver : DeviceId) :
    List Nat × Nat :=
  match effectiveDelayNs.get receiver with
  | some delay => (sofar.1 ++ [delay], sofar.2)
  | none => (sofar.1 ++ [0], sofar.2 + 1)

def mapPresentationDelaysFor (targets : List DeviceId) (effectiveDelayNs : DelayMap) :
    Except StartError (List Nat) :=
  let (delays, missing) := targets.foldl (collectDelay effectiveDelayNs) ([], 0)
  if 0 < missing then
    .error (.setupFailed ("calibration is missing an entry for " ++ toString missing ++ " of "
      ++ toString targets.length ++ " connected receiver(s)"))
  else if effectiveDelayNs.entries.length ≠ targets.length then
    .error (.setupFailed ("calibration carries " ++ toString effectiveDelayNs.entries.length
      ++ " entries for " ++ toString targets.length ++ " connected receiver(s)"))
  else .ok delays

/-! ## The group -/

structure StreamConnection (κ : Type) where
  id : DeviceId
  buildRtpSender : Except StartError (RtpSender κ)
  ptpClockRx : Option (Option PtpClockState)

/-- The client as far as a group stream needs it. -/
structure GroupClient (κ : Type) where
  connection : Option (StreamConnection κ)
  groupConnections : List (StreamConnection κ)
  streamType : UInt8
  sampleRate : BitVec 32
  renderDelayMs : BitVec 32

namespace GroupClient

variable {κ : Type}

variable (client : GroupClient κ)

/-- Primary first, then the members in connect order. -/
def targets : List DeviceId :=
  (client.connection.toList ++ client.groupConnections).map (·.id)

variable (effectiveDelayNs : DelayMap)

def mapPresentationDelays : Except StartError (List Nat) :=
  mapPresentationDelaysFor client.targets effectiveDelayNs

def buildRtpSenders : List (StreamConnection κ) → Except StartError (List (RtpSender κ))
  | [] => .ok []
  | conn :: rest =>
    match conn.buildRtpSender with
    | .error error => .error error
    | .ok sender => (buildRtpSenders rest).map (sender :: ·)

/-- The streamer with its timing, before it starts. -/
def configure (streamer : StreamerInner κ) (latest : Option PtpClockState) : StreamerInner κ :=
  let streamer := streamer.setPtpClockUpdates latest
  if 0 < client.renderDelayMs.toNat then streamer.setRenderDelayMs client.renderDelayMs
  else streamer

/-- The streamer of a stream that started. `started` is what
`start_live_gated` answers. -/
def startLiveStreamingToGroupInner (presentationDelaysNs : List Nat)
    (started : Except StartError Unit) : Except StartError (StreamerInner κ) :=
  match client.connection with
  | none => .error .noSession
  | some connection =>
    match buildRtpSenders (connection :: client.groupConnections) with
    | .error error => .error error
    | .ok senders =>
      let senders := senders.map RtpSender.resetSyncState
      if senders.length ≠ presentationDelaysNs.length then
        .error (.setupFailed (toString presentationDelaysNs.length
          ++ " presentation delay(s) for " ++ toString senders.length ++ " RTP target(s)"))
      else
        match connection.ptpClockRx with
        | none => .error (.setupFailed "No coherent PTP clock state for group streaming")
        | some latest =>
          let streamer := (StreamerInner.new client.streamType client.sampleRate).setRtpSenders
            senders
          match streamer.setTargetPresentationDelaysNs .idle presentationDelaysNs with
          | .error error => .error error
          | .ok streamer => started.map (fun _ => client.configure streamer latest)

def startLiveStreamingToGroupWithPresentationDelays (started : Except StartError Unit) :
    Except StartError (StreamerInner κ) :=
  match client.mapPresentationDelays effectiveDelayNs with
  | .error error => .error error
  | .ok delays => client.startLiveStreamingToGroupInner delays started

end GroupClient

end Client

end OpenAirCast
