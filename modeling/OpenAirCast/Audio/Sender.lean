/-
Audio.Sender — the real-time sender thread and its channel,
from `airplay-audio/streamer.rs`.

The thread takes messages off a bounded channel and transmits the frames in
them to targets that were cut from the RTP senders beforehand. Deadlines
and jitter move nothing but time and are left out, as are the transport
counters.
-/
import OpenAirCast.Audio.Frame
import OpenAirCast.Lib.Mealy

namespace OpenAirCast.Audio

/-- A datagram on its way, with the place of the RTP sender it is for. -/
structure Sent where
  sender : Nat
  datagram : Datagram
  deriving DecidableEq

/-! ## Targets -/

/-- A sender that can transmit, with the place of its packets. -/
structure SendTarget where
  dataSocket : UdpSocket
  dataDest : SocketAddr
  controlSocket : Option UdpSocket
  controlDest : Option SocketAddr
  /-- Place of the RTP sender this target was built from. -/
  senderIndex : Nat

namespace SendTarget

/-- This target's entry of a list with one entry for each RTP sender. -/
def packetFor {α : Type} (target : SendTarget) (packets : List α) : Option α :=
  packets[target.senderIndex]?

variable (target : SendTarget) (frame : PreparedFrame)

/-- The sync packet of the frame, if this target gets one. -/
def sendSync : Option Sent :=
  (target.packetFor frame.syncPackets).join.map (fun sync =>
    ⟨target.senderIndex, target.controlSocket.getD target.dataSocket,
      target.controlDest.getD target.dataDest, sync⟩)

def sendAudio : Option Sent :=
  (target.packetFor frame.wirePackets).map (fun wire =>
    ⟨target.senderIndex, target.dataSocket, target.dataDest, wire⟩)

end SendTarget

/-- The target of one RTP sender. Socket and destination of the control
channel come as a pair or not at all. -/
def sendTarget {κ : Type} (sender : RtpSender κ) (senderIndex : Nat) : Option SendTarget :=
  sender.cloneDataSocket.map (fun (dataSocket, dataDest) =>
    { dataSocket, dataDest, senderIndex
      controlSocket := sender.cloneControlSocket.map (·.1)
      controlDest := sender.cloneControlSocket.map (·.2) })

/-- One target for every RTP sender that owns a data socket. -/
def buildSendTargets {κ : Type} (senders : List (RtpSender κ)) : List SendTarget :=
  senders.zipIdx.filterMap (fun (sender, senderIndex) => sendTarget sender senderIndex)

/-- All sync packets of a frame, then all audio packets. -/
def transmit (targets : List SendTarget) (frame : PreparedFrame) : List Sent :=
  targets.filterMap (·.sendSync frame) ++ targets.filterMap (·.sendAudio frame)

/-! ## The thread -/

inductive SenderMessage where
  | packet (frame : PreparedFrame)
  | pause
  | resume
  | stop
  deriving DecidableEq

inductive SenderMode where
  | running
  /-- In the loop that waits for a resume. -/
  | paused
  | exited
  deriving DecidableEq

structure SenderThread where
  mode : SenderMode := .running
  started : Bool := false
  /-- Frames held for the next burst. -/
  burstBuffer : List PreparedFrame := []

namespace SenderThread

variable (t : SenderThread) (burstSize : Nat)

/-- A frame is held until the burst is full, the very first one excepted. -/
def takePacket (frame : PreparedFrame) :
    SenderThread × List PreparedFrame :=
  let held := t.burstBuffer ++ [frame]
  if held.length < max burstSize 1 ∧ t.started = true then ({ t with burstBuffer := held }, [])
  else ({ t with burstBuffer := [], started := true }, held)

/-- One message off the channel, with the frames that are transmitted. A
paused thread throws away everything but `Resume` and `Stop`. -/
def receive (message : SenderMessage) :
    SenderThread × List PreparedFrame :=
  match t.mode, message with
  | .exited, _ => (t, [])
  | _, .stop => ({ t with mode := .exited }, [])
  | .paused, .resume => ({ t with mode := .running }, [])
  | .paused, _ => (t, [])
  | .running, .pause => ({ t with mode := .paused }, [])
  | .running, .resume => (t, [])
  | .running, .packet frame => t.takePacket burstSize frame

end SenderThread

/-- What a wait on the channel ends with instead of a message. -/
inductive RecvTimeoutError where
  | timeout
  /-- Every sending end is gone and the queue is empty. -/
  | disconnected

namespace SenderThread

/-- One `recv_timeout`. The loop of a running thread ends on a disconnect;
the one that waits for a resume goes on after any error. -/
def wait (t : SenderThread) (burstSize : Nat) :
    Except RecvTimeoutError SenderMessage → SenderThread × List PreparedFrame
  | .ok message => t.receive burstSize message
  | .error .timeout => (t, [])
  | .error .disconnected =>
    match t.mode with
    | .running => ({ t with mode := .exited }, [])
    | .paused | .exited => (t, [])

/-- The thread after the first `n` waits. -/
def afterWaits (burstSize : Nat) (answers : Nat → Except RecvTimeoutError SenderMessage) :
    Nat → SenderThread
  | 0 => {}
  | n + 1 => ((afterWaits burstSize answers n).wait burstSize (answers n)).1

end SenderThread

/-- What the waits on a channel answer: messages and timeouts, and from then
on that it is disconnected. -/
def channelAnswers (script : List (Option SenderMessage)) (n : Nat) :
    Except RecvTimeoutError SenderMessage :=
  match script[n]? with
  | some (some message) => .ok message
  | some none => .error .timeout
  | none => .error .disconnected

/-- The frames that the thread transmits of the messages it takes. -/
def transmittedFrames (burstSize : Nat) (messages : List SenderMessage) : List PreparedFrame :=
  (Mealy.outputs (fun (t : SenderThread) message => t.receive burstSize message) {}
    messages).flatten

/-- Everything the thread sends. -/
def senderThreadMain (targets : List SendTarget) (burstSize : Nat)
    (messages : List SenderMessage) : List Sent :=
  (transmittedFrames burstSize messages).flatMap (transmit targets)

/-! ## The channel -/

/-- `bounded(8)`. -/
def CHANNEL_CAPACITY : Nat := 8

/-! ## Without a thread -/

/-- What the sockets say to the sends of a frame, by sender. -/
structure SendResults where
  sync : Nat → Except AudioError Nat
  audio : Nat → Except AudioError Nat

section Inline

variable {κ : Type}

def sendSyncInline (frame : PreparedFrame) (results : SendResults) (sent : List Sent)
    (entry : RtpSender κ × Nat) : List Sent × Except AudioError Unit :=
  match frame.syncPackets[entry.2]? with
  | some (some sync) =>
    let r := entry.1.sendPreparedSync sync (results.sync entry.2)
    (sent ++ r.1.map (⟨entry.2, ·⟩), r.2)
  | _ => (sent, .ok ())

def sendAudioInline (frame : PreparedFrame) (results : SendResults) (sent : List Sent)
    (entry : RtpSender κ × Nat) : List Sent × Except AudioError Unit :=
  match frame.wirePackets[entry.2]? with
  | some wire =>
    let r := entry.1.sendPreparedAudio wire (results.audio entry.2)
    (sent ++ r.1.map (⟨entry.2, ·⟩), r.2)
  | none => (sent, .ok ())

variable (senders : List (RtpSender κ))

/-- Without a sender thread a frame goes out sender by sender; the first
error ends it. -/
def sendFrameInline (sent : List Sent)
    (frame : PreparedFrame × SendResults) : List Sent × Except AudioError Unit :=
  match inOrder (sendSyncInline frame.1 frame.2) sent senders.zipIdx with
  | (sent, .error error) => (sent, .error error)
  | (sent, .ok _) =>
    match inOrder (sendAudioInline frame.1 frame.2) sent senders.zipIdx with
    | (sent, .error error) => (sent, .error error)
    | (sent, .ok _) => (sent, .ok ())

/-- Frame after frame, up to the first error. -/
def sendInline (frames : List (PreparedFrame × SendResults)) :
    List Sent × Except AudioError (List Unit) :=
  inOrder (sendFrameInline senders) [] frames

end Inline

end OpenAirCast.Audio
