/-
Audio.LiveDecoder — captured PCM on its way to the encoder, from
`airplay-audio/src/live_decoder.rs`.

`LiveFrameSender` and `LiveAudioDecoder` share a bounded queue, and each runs
on its own. A call of either is taken apart into the operations on what they
share: the queue, and the latch that says whether the decoder is alive. The
events of a run say which side does its next operation, so a run is one
interleaving of the two.

Translation notes.

* The counters and what the caller holds are not shared between the two, so
  they change in the same step as the operation next to them.
* `recv_timeout` may run out of time at any moment, also with a frame in the
  queue. The channel gets disconnected on the decoder's side only: the sender
  keeps a receiver of its own.
* Only calls whose target rate is the source rate; the others go through a
  resampler in floating point.
* A division by zero panics, and unwinding drops the locals of the call.
-/
import OpenAirCast.Lib.Mealy
import Mathlib.Data.UInt

namespace OpenAirCast.Audio.Live

structure LivePcmFrame where
  /-- Interleaved. -/
  samples : List Int16
  channels : UInt8
  sampleRate : UInt32
  deriving DecidableEq

structure DecodedFrame where
  samples : List Int16
  channels : UInt8
  sampleRate : UInt32
  timestamp : UInt64
  deriving DecidableEq

structure CaptureQueueCounters where
  capacityFrames : UInt32
  submittedFrames : UInt64 := 0
  submittedSamplesPerChannel : UInt64 := 0
  fullQueueDrops : UInt64 := 0
  disconnectedDrops : UInt64 := 0

namespace CaptureQueueCounters

def withCapacity (capacity : Nat) : CaptureQueueCounters where
  capacityFrames := if capacity < UInt32.size then UInt32.ofNat capacity else 4294967295

/-- `pcm_frame_samples_per_channel`: a frame of no channels counts as no
samples. -/
def pcmFrameSamplesPerChannel (frame : LivePcmFrame) : UInt64 :=
  if frame.channels = 0 then 0 else UInt64.ofNat (frame.samples.length / frame.channels.toNat)

variable (stats : CaptureQueueCounters)

def countSubmission (frame : LivePcmFrame) :
    CaptureQueueCounters :=
  { stats with
    submittedFrames := stats.submittedFrames + 1
    submittedSamplesPerChannel :=
      stats.submittedSamplesPerChannel + pcmFrameSamplesPerChannel frame }

def countFullQueueDrop : CaptureQueueCounters :=
  { stats with fullQueueDrops := stats.fullQueueDrops + 1 }

def countDisconnectedDrop : CaptureQueueCounters :=
  { stats with disconnectedDrops := stats.disconnectedDrops + 1 }

end CaptureQueueCounters

inductive LiveSendOutcome where
  | enqueued | replacedOldest | disconnected
  deriving DecidableEq

inductive SendKind where
  | trySend | trySendLatest | send
  deriving DecidableEq

/-- Where a call of the sender is. -/
inductive SenderPhase where
  | idle
  /-- Before it looks at the latch. -/
  | submitted (kind : SendKind) (frame : LivePcmFrame)
  /-- Before it first tries the queue. -/
  | sending (kind : SendKind) (frame : LivePcmFrame)
  /-- In the loop, before it takes out the oldest frame. -/
  | evicting (frame : LivePcmFrame)
  /-- In the loop, before it tries the queue again. -/
  | resending (frame : LivePcmFrame)
  deriving DecidableEq

/-- The frame of the call. -/
def SenderPhase.frame : SenderPhase → Option LivePcmFrame
  | .idle => none
  | .submitted _ frame | .sending _ frame | .evicting frame | .resending frame => some frame

/-- What `decode_resampled` is asked for. -/
structure Call where
  channels : UInt8
  framesPerPacket : Nat
  deriving DecidableEq

/-- A `usize`. -/
def Call.targetSamples (call : Call) : Nat :=
  call.framesPerPacket * call.channels.toNat % 18446744073709551616

/-- Where a call of `decode_resampled` is. -/
inductive DecoderPhase where
  | idle
  /-- In the loop, before it asks for the next frame. -/
  | collecting (call : Call) (collected : List Int16)
  deriving DecidableEq

structure LiveAudioDecoder where
  sampleRate : UInt32
  positionSamples : UInt64 := 0
  eof : Bool := false
  residualSamples : List Int16 := []
  phase : DecoderPhase := .idle

/-- What the two sides have been seen to do. -/
structure History where
  submitted : List LivePcmFrame := []
  /-- The frame that was put into the queue last. -/
  delivered : Option LivePcmFrame := none
  taken : List LivePcmFrame := []
  packets : List (Call × DecodedFrame) := []

structure Pair where
  capacity : Nat
  queue : List LivePcmFrame := []
  decoderAlive : Bool := true
  senderAlive : Bool := true
  stats : CaptureQueueCounters
  sender : SenderPhase := .idle
  decoder : LiveAudioDecoder
  history : History := {}

inductive Event where
  | submit (kind : SendKind) (frame : LivePcmFrame)
  /-- The sender does the next operation of its call. -/
  | senderStep
  | decode (call : Call)
  /-- The decoder looks into the queue. -/
  | receive
  | timeout
  | markEof
  | dropDecoder
  | dropSender
  deriving DecidableEq

/-- What a caller gets to see. -/
inductive Observed where
  | silent
  | sent (accepted : Bool)
  | latest (outcome : LiveSendOutcome)
  | decoded (frame : Option DecodedFrame)
  | panicked
  deriving DecidableEq

namespace Pair

def createPair (sampleRate : UInt32) (capacity : Nat) : Pair where
  capacity := capacity
  stats := .withCapacity capacity
  decoder := { sampleRate }

/-! ## The sender -/

/-- What a call returns once its frame is in the queue or the decoder gone. -/
def answer : SendKind → LiveSendOutcome → Observed
  | .trySendLatest, outcome => .latest outcome
  | _, outcome => .sent (outcome != .disconnected)

variable (p : Pair)

/-- A send into the queue that has room. -/
def push (frame : LivePcmFrame) : Pair :=
  { p with
    queue := p.queue ++ [frame]
    sender := .idle
    history := { p.history with delivered := some frame } }

def submit (kind : SendKind) (frame : LivePcmFrame) : Pair :=
  if p.sender = .idle ∧ p.senderAlive = true then
    { p with
      stats := p.stats.countSubmission frame
      sender := .submitted kind frame
      history := { p.history with submitted := p.history.submitted ++ [frame] } }
  else p

/-- The next operation of a call of `try_send`, `try_send_latest` or
`send`. -/
def senderStep : Pair × Observed :=
  match p.sender with
  | .idle => (p, .silent)
  | .submitted kind frame =>
    if p.decoderAlive = false then
      ({ p with stats := p.stats.countDisconnectedDrop, sender := .idle },
        answer kind .disconnected)
    else ({ p with sender := .sending kind frame }, .silent)
  | .sending kind frame =>
    if p.queue.length < p.capacity then (p.push frame, answer kind .enqueued)
    else
      match kind with
      | .trySend => ({ p with stats := p.stats.countFullQueueDrop, sender := .idle }, .sent false)
      | .trySendLatest => ({ p with sender := .evicting frame }, .silent)
      | .send => (p, .silent)
  | .evicting frame =>
    match p.queue with
    | [] => ({ p with sender := .resending frame }, .silent)
    | _ :: rest =>
      ({ p with
         queue := rest
         stats := p.stats.countFullQueueDrop
         sender := .resending frame }, .silent)
  | .resending frame =>
    if p.queue.length < p.capacity then (p.push frame, .latest .replacedOldest)
    else ({ p with sender := .evicting frame }, .silent)

/-! ## The decoder -/

variable (call : Call) (collected : List Int16)

/-- `decode_resampled` once it has enough. -/
def packet : Pair × Observed :=
  if collected = [] then ({ p with decoder := { p.decoder with phase := .idle } }, .decoded none)
  else
    let frame : DecodedFrame :=
      { samples := collected.take call.targetSamples
        channels := call.channels
        sampleRate := p.decoder.sampleRate
        timestamp := p.decoder.positionSamples }
    ({ p with
       decoder := { p.decoder with
         residualSamples := collected.drop call.targetSamples, phase := .idle }
       history := { p.history with packets := p.history.packets ++ [(call, frame)] } },
      .decoded (some frame))

/-- The head of the loop. -/
def collect : Pair × Observed :=
  if collected.length < call.targetSamples then
    ({ p with decoder := { p.decoder with phase := .collecting call collected } }, .silent)
  else p.packet call collected

/-- `decode_resampled` when no frame came: what was collected is kept. -/
def giveUp : Pair × Observed :=
  ({ p with decoder := { p.decoder with residualSamples := collected, phase := .idle } },
    .decoded none)

def decode : Pair × Observed :=
  if p.decoder.phase = .idle ∧ p.decoderAlive = true then
    { p with decoder := { p.decoder with residualSamples := [] } }.collect call
      p.decoder.residualSamples
  else (p, .silent)

/-- A frame off the queue, as `decode_frame` makes it part of the stream. -/
def take (frame : LivePcmFrame) (rest : List LivePcmFrame) : Pair × Observed :=
  let p := { p with
    queue := rest
    history := { p.history with taken := p.history.taken ++ [frame] } }
  if frame.channels = 0 then
    ({ p with decoder := { p.decoder with phase := .idle } }, .panicked)
  else
    let numFrames := UInt64.ofNat (frame.samples.length / frame.channels.toNat)
    { p with
      decoder := { p.decoder with positionSamples := p.decoder.positionSamples + numFrames }
      }.collect call (collected ++ frame.samples)

def receive : Pair × Observed :=
  match p.decoder.phase with
  | .idle => (p, .silent)
  | .collecting call collected =>
    if p.decoder.eof = true then p.giveUp collected
    else
      match p.queue with
      | frame :: rest => p.take call collected frame rest
      | [] =>
        if p.senderAlive = true then p.giveUp collected
        else { p with decoder := { p.decoder with eof := true } }.giveUp collected

def timeout : Pair × Observed :=
  match p.decoder.phase with
  | .idle => (p, .silent)
  | .collecting _ collected => p.giveUp collected

/-! ## One event -/

def step (p : Pair) : Event → Pair × Observed
  | .submit kind frame => (p.submit kind frame, .silent)
  | .senderStep => p.senderStep
  | .decode call => p.decode call
  | .receive => p.receive
  | .timeout => p.timeout
  | .markEof =>
    if p.decoder.phase = .idle then
      ({ p with decoder := { p.decoder with eof := true } }, .silent)
    else (p, .silent)
  | .dropDecoder =>
    if p.decoder.phase = .idle then ({ p with decoderAlive := false }, .silent)
    else (p, .silent)
  | .dropSender =>
    if p.sender = .idle then ({ p with senderAlive := false }, .silent) else (p, .silent)

end Pair

end OpenAirCast.Audio.Live
