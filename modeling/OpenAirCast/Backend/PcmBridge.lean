/-
Backend.PcmBridge — how the PCM bridge counts and reports dropped
frames, from `PcmBridge` in `backend/capture.rs`.

The bridge forwards one frame after the other with `try_send_latest`, next to
a decoder that takes frames when it likes. It counts the outcome, and pushes
a `FrameDrop` into the capture supervisor's queue at both ends of a run of
evictions. `BridgeEvent` is one step of the bridge, of the decoder, or of
those that share the queue.

Translation notes.

* `forward` begins with the call of the sender (`forward`) and ends in the
  step in which that call returns; nothing else writes what it changes then.
* Where the frames come from is left open: any frame may be next.
* Left out are the listening tone, the silence frames as such, and the
  correlation of a diagnostic.
-/
import OpenAirCast.Audio.LiveDecoder
import OpenAirCast.Backend.Capture
import OpenAirCast.Diagnostics.Snapshot

namespace OpenAirCast.Backend

open Audio Diagnostics

structure PcmBridge where
  /-- The sender, and the decoder beside it. -/
  pair : Live.Pair
  /-- The queue of `updates_tx`, and the supervisor that shares it. -/
  supervisor : Capture.Supervisor
  droppedTotal : UInt64 := 0
  pendingDrops : Nat := 0
  inEvictionRun : Bool := false
  /-- The loop of `run` was left. -/
  left : Bool := false
  diagnostics : List DiagnosticPayload := []
  /-- The totals that were published; nobody reads them. -/
  published : List UInt64 := []
  /-- The queue had room when the last run of evictions ended. -/
  roomAtEnd : Bool := true

namespace PcmBridge

variable (b : PcmBridge)

/-- What `FrameDrop` carries. -/
def frameDrop : Controller.CaptureUpdate := .frameDrop b.droppedTotal.toNat

/-- The queue takes one more update. -/
def hasRoom : Bool := (b.supervisor.trySend b.frameDrop).2 == .sent

def flushDrops : PcmBridge :=
  if b.pendingDrops = 0 then b
  else
    match b.supervisor.trySend b.frameDrop with
    | (supervisor, .sent) =>
      { b with
        supervisor
        pendingDrops := 0
        diagnostics := b.diagnostics ++ [.pcmDrop b.pendingDrops]
        published := b.published ++ [b.droppedTotal] }
    | (_, .overloaded) =>
      { b with
        diagnostics := b.diagnostics ++
          [.queueWatermark Capture.SUPERVISOR_CAPACITY Capture.SUPERVISOR_CAPACITY] }
    | (_, .closed) => b

/-- What comes after the loop of `run`. -/
def leave : PcmBridge := { b.flushDrops with left := true }

/-- `forward` with the outcome of `try_send_latest`. -/
def account (b : PcmBridge) : Live.LiveSendOutcome → PcmBridge
  | .enqueued =>
    if b.inEvictionRun then
      { { b with inEvictionRun := false }.flushDrops with roomAtEnd := b.hasRoom }
    else b
  | .replacedOldest =>
    let b := { b with
      droppedTotal := b.droppedTotal + 1
      pendingDrops := b.pendingDrops + 1 }
    if b.inEvictionRun then b else { b with inEvictionRun := true }.flushDrops
  | .disconnected => b.leave

end PcmBridge

inductive BridgeEvent where
  /-- The bridge has a frame and calls `forward`. -/
  | forward (frame : Live.LivePcmFrame)
  /-- The sender does the next operation of its call. -/
  | sender
  /-- The decoder's side of the queue. -/
  | decoder (event : Live.Event)
  /-- The supervisor, and the owner of its updates. -/
  | supervisor (event : Capture.SupervisorEvent)
  /-- The loop is left. -/
  | finish

/-- The decoder's own events. -/
def decoderSide : Live.Event → Bool
  | .decode _ | .receive | .timeout | .markEof | .dropDecoder => true
  | .submit _ _ | .senderStep | .dropSender => false

/-- All but the bridge's own pushes. -/
def supervisorSide : Capture.SupervisorEvent → Bool
  | .frameDrop _ => false
  | _ => true

namespace PcmBridge

def step (b : PcmBridge) : BridgeEvent → PcmBridge
  | .forward frame => if b.left then b else { b with pair := b.pair.submit .trySendLatest frame }
  | .sender =>
    let r := b.pair.senderStep
    match r.2 with
    | .latest outcome => { b with pair := r.1 }.account outcome
    | _ => { b with pair := r.1 }
  | .decoder event => if decoderSide event then { b with pair := (b.pair.step event).1 } else b
  | .supervisor event =>
    if supervisorSide event then { b with supervisor := (b.supervisor.step event).1 } else b
  | .finish => if b.pair.sender = .idle ∧ b.left = false then b.leave else b

abbrev machine : PcmBridge → BridgeEvent → PcmBridge × Unit := Mealy.silent step

/-- A bridge of a new session. -/
def start (sampleRate : UInt32) (capacity : Nat) (preference : AudioEndpointPreference) :
    PcmBridge where
  pair := .createPair sampleRate capacity
  supervisor := { preference }

end PcmBridge

end OpenAirCast.Backend
