/-
Client.Playback — starting, pausing, resuming and stopping one
connected client, from `client.rs`, `connection.rs` and the session of
`airplay-rtsp`.

Translation notes.

* What the network, the sockets and the streamer answer are inputs
  (`SetupAnswers`, `StartAnswers`); a reply that is not well formed is `none`.
* The events connection, the timing offsets, the volume, the statistics and
  the control worker decide nothing here and are left out.
* A streamer is its state. Between two calls its loop may still move it,
  also out of a pause or a stop it was past its check for (`drift`).
* A group start whose calibration is refused touches nothing and is left out.
-/
import OpenAirCast.Audio.Playback
import OpenAirCast.Client.Group
import OpenAirCast.Lib.Exits

namespace OpenAirCast.Client.Playback

open OpenAirCast.Audio (StreamerState)

inductive SessionState where
  | disconnected | connected | paired | setupPhase1 | ready | playing | paused | tearingDown
  deriving DecidableEq

/-- The states SETUP phase 1 has been answered in. -/
def SessionState.hasPorts : SessionState → Bool
  | .setupPhase1 | .ready | .playing | .paused => true
  | _ => false

structure SessionPorts where
  dataPort : Nat
  controlPort : Nat
  timingPort : Nat
  eventPort : Nat

structure RtspSession where
  state : SessionState
  ports : Option SessionPorts
  known : state.hasPorts = true → ports.isSome = true

/-- Refused because of the session's state, or any other failure. -/
inductive CallError where
  | sessionState (state : SessionState)
  | other

namespace RtspSession

abbrev Result := RtspSession × Except CallError Unit

variable (s : RtspSession) (response : Option (Nat × Nat))

def processSetupPhase1Response : Result :=
  refuseIf id s (s.state ≠ .paired) (.sessionState s.state) <|
  required id s response .other fun (timingPort, eventPort) =>
  ({ state := .setupPhase1, ports := some ⟨0, 0, timingPort, eventPort⟩, known := fun _ => rfl },
    .ok ())

def buildSetupPhase2 : Except CallError Unit :=
  if s.state ≠ .setupPhase1 then .error (.sessionState s.state) else .ok ()

def processSetupPhase2Response : Result :=
  if h : s.state ≠ .setupPhase1 then (s, .error (.sessionState s.state))
  else required id s response .other fun (dataPort, controlPort) =>
    ({ state := .ready
       ports := s.ports.map (fun ports => { ports with dataPort, controlPort })
       known := fun _ => by simp [s.known (by rw [not_not.mp h]; rfl)] }, .ok ())

def startPlaying : Result :=
  if h : s.state ≠ .ready ∧ s.state ≠ .paused then (s, .error (.sessionState s.state))
  else ({ s with
    state := .playing
    known := fun _ => s.known (by cases hs : s.state <;> simp [hs, SessionState.hasPorts] at h ⊢) },
    .ok ())

def pause : Result :=
  if h : s.state ≠ .playing then (s, .error (.sessionState s.state))
  else ({ s with state := .paused, known := fun _ => s.known (by rw [not_not.mp h]; rfl) }, .ok ())

end RtspSession

/-! ## The streamer's own calls -/

def pauseStreamer (state : StreamerState) : StreamerState :=
  if state = .streaming then .paused else state

def resumeStreamer (state : StreamerState) : StreamerState :=
  if state = .paused then .streaming else state

/-! ## One connection -/

inductive PlaybackState where
  | stopped | playing | paused

inductive RtspMethod where
  | setup | record | flush | setParameter
  deriving DecidableEq

/-- `sent` are the requests so far, `timingServer` and `controlReceiver` the
ports of the sockets in use. -/
structure Connection where
  session : RtspSession
  timingProtocol : TimingProtocol
  ptpMaster : Bool := false
  timingServer : Option Nat := none
  controlReceiver : Option Nat := none
  streamer : Option StreamerState := none
  playbackState : PlaybackState := .stopped
  sent : List RtspMethod := []

structure SetupAnswers where
  /-- The port of the NTP server, if it starts. -/
  timingPort : Option Nat
  /-- The reply to SETUP phase 1, and its timing and event ports. -/
  phase1 : Option (Option (Nat × Nat))
  hasAddress : Bool
  controlPort : Option Nat
  /-- The reply to SETUP phase 2, and its data and control ports. -/
  phase2 : Option (Option (Nat × Nat))
  /-- The receiver's clock is heard in time. -/
  clock : Bool

structure StartAnswers extends SetupAnswers where
  senderBinds : Bool
  starts : Bool

namespace Connection

abbrev Result := Connection × Except CallError Unit

variable (c : Connection)

def request (method : RtspMethod) : Connection :=
  { c with sent := c.sent ++ [method] }

/-- The port SETUP names, and the connection with a timing server of its own
where the receiver is to follow one. -/
def startTiming (a : SetupAnswers) : Option Connection :=
  match c.timingProtocol with
  | .ntp => a.timingPort.map fun port => { c with timingServer := some port }
  | .ptp => some c

def setup (a : SetupAnswers) : Result :=
  required id c (c.startTiming a) .other fun c =>
  let c := c.request .setup
  required id c a.phase1 .other fun response =>
  let (session, processed) := c.session.processSetupPhase1Response response
  let c := { c with session }
  attempt id c processed id fun _ =>
  refuseIf id c (a.hasAddress = false) .other <|
  required id c c.session.ports .other fun _ =>
  required id c a.controlPort .other fun port =>
  let c := { c with controlReceiver := some port }
  attempt id c c.session.buildSetupPhase2 id fun _ =>
  let c := c.request .setup
  required id c a.phase2 .other fun response =>
  let (session, processed) := c.session.processSetupPhase2Response response
  let c := { c with session }
  attempt id c processed id fun _ =>
  -- the reply to RECORD is not looked at
  let c := c.request .record
  refuseIf id c (c.timingProtocol = .ptp ∧ c.ptpMaster = true ∧ a.clock = false) .other
  (c, .ok ())

variable (a : StartAnswers)

/-- What the two starts share; they differ in how full their streamer is when
it is left. -/
def startWith (streamer : StreamerState) : Result :=
  let (c, prepared) := if c.session.state ≠ .ready then c.setup a.toSetupAnswers else (c, .ok ())
  attempt id c prepared id fun _ =>
  required id c c.session.ports .other fun _ =>
  refuseIf id c (a.hasAddress = false ∨ a.senderBinds = false) .other <|
  let c := c.request .flush
  refuseIf id c (a.starts = false) .other <|
  let (session, playing) := c.session.startPlaying
  let c := { c with session }
  attempt id c playing id fun _ =>
  ({ c.request .setParameter with streamer := some streamer, playbackState := .playing }, .ok ())

/-- `primed`: the first decode filled more than a tenth of the buffer. -/
def startStreaming (primed : Bool) : Result :=
  c.startWith a (if primed then .streaming else .buffering)

def startStreamingLiveGated (gated : Bool) : Result :=
  c.startWith a (if gated then .buffering else .streaming)

def startStreamingLive : Result :=
  c.startStreamingLiveGated a false

variable (answered : Bool)

/-- `answered`: the FLUSH got its reply. -/
def pause : Result :=
  let c := { c with streamer := c.streamer.map pauseStreamer }
  let c := c.request .flush
  refuseIf id c (answered = false) .other <|
  let (session, paused) := c.session.pause
  let c := { c with session }
  attempt id c paused id fun _ =>
  ({ c with playbackState := .paused }, .ok ())

/-- `answered`: the RECORD got its reply. -/
def resume : Result :=
  let c := { c with streamer := c.streamer.map resumeStreamer }
  let c := c.request .record
  refuseIf id c (answered = false) .other <|
  let (session, playing) := c.session.startPlaying
  let c := { c with session }
  attempt id c playing id fun _ =>
  ({ c with playbackState := .playing }, .ok ())

/-- The session is left as it is. -/
def stop : Result :=
  ({ c.request .flush with
      streamer := c.streamer.map (fun _ => .stopped)
      playbackState := .stopped }, .ok ())

inductive Call where
  | startStreaming (answers : StartAnswers) (primed : Bool)
  | startStreamingLive (answers : StartAnswers)
  | pause (answered : Bool)
  | resume (answered : Bool)
  | stop

def step (c : Connection) : Call → Result
  | .startStreaming answers primed => c.startStreaming answers primed
  | .startStreamingLive answers => c.startStreamingLive answers
  | .pause answered => c.pause answered
  | .resume answered => c.resume answered
  | .stop => c.stop

end Connection

/-! ## The client -/

structure AirPlayClient where
  connection : Connection
  groupStreamer : Option StreamerState := none
  groupPlaybackState : Option PlaybackState := none

namespace AirPlayClient

abbrev Result := AirPlayClient × Except CallError Unit

variable (c : AirPlayClient)

/-- The group's state takes priority when set. -/
def playbackState : PlaybackState :=
  c.groupPlaybackState.getD c.connection.playbackState

/-- What a call on the connection returned, for the client. The starts of
the connection alone do not ask the group. -/
def after (r : Connection.Result) (group : Option PlaybackState) : Result :=
  match r.2 with
  | .ok _ => ({ c with connection := r.1, groupPlaybackState := group }, .ok ())
  | .error error => ({ c with connection := r.1 }, .error error)

/-- `play_file_to_group` and `start_live_streaming_to_group`. `ready`: every
sender was built, the clock is there and the streamer started. -/
def startGroup (ready primed : Bool) : Result :=
  let c := { c with groupStreamer := none, connection := c.connection.request .flush }
  refuseIf id c (c.connection.session.ports = none ∨ ready = false) .other
  ({ c with
      groupStreamer := some (if primed then .streaming else .buffering)
      groupPlaybackState := some .playing }, .ok ())

variable (answered : Bool)

/-- The flushes of the other connections are not looked at. -/
def pause : Result :=
  c.after (c.connection.pause answered) (c.groupPlaybackState.map fun _ => .paused)

def resume : Result :=
  c.after (c.connection.resume answered) (c.groupPlaybackState.map fun _ => .playing)

def stop : Result :=
  { c with groupStreamer := none }.after c.connection.stop none

/-- Where a running loop may have moved its streamer. A stop empties the
buffer before it is over, so a loop that gets past it finds nothing to send. -/
def drifted (now aimed : StreamerState) : StreamerState :=
  if (now = .buffering ∨ now = .streaming ∨ now = .paused) ∧
        (aimed = .buffering ∨ aimed = .streaming) ∨
      now = .stopped ∧ aimed = .buffering then aimed
  else now

inductive Call where
  | startStreaming (answers : StartAnswers) (primed : Bool)
  | startStreamingLiveGated (answers : StartAnswers) (gated : Bool)
  | startGroup (ready primed : Bool)
  | pause (answered : Bool)
  | resume (answered : Bool)
  | stop
  /-- Not a call: what the streamers' loops did since the last one. -/
  | drift (own group : StreamerState)

def step (c : AirPlayClient) : Call → Result
  | .startStreaming answers primed =>
    c.after (c.connection.startStreaming answers primed) c.groupPlaybackState
  | .startStreamingLiveGated answers gated =>
    c.after (c.connection.startStreamingLiveGated answers gated) c.groupPlaybackState
  | .startGroup ready primed => c.startGroup ready primed
  | .pause answered => c.pause answered
  | .resume answered => c.resume answered
  | .stop => c.stop
  | .drift own group =>
    ({ c with
        connection := { c.connection with
          streamer := c.connection.streamer.map (drifted · own) }
        groupStreamer := c.groupStreamer.map (drifted · group) }, .ok ())

end AirPlayClient

end OpenAirCast.Client.Playback
