/-
Client.ControlListener — who answers the retransmit requests of
a group, from `spawn_group_control_listener`, `disconnect`, `stop` and the
group starts of `airplay-client/client.rs`.

Every start of a group stream spawns a thread with clones of the members'
control sockets and of its streamer. The thread polls the sockets in turn and
never ends. A socket has one queue of datagrams, whichever clone reads it.

Translation notes.

* A socket is known by the connect that bound it and the place of its member.
  A streamer is known by its place among all that were started; it lives on in
  the clone of its thread.
* What the network, the decoders and the thread pool answer is part of an
  event, and so is what a streamer has sent in between.
* `connect`, which connects one device, is `connectGroup` without members:
  both begin with a `disconnect`, and without a connection that changes
  nothing.
* Statistics, diagnostics and runtime events of the thread are left out.
* The due of a waiting datagram is no field of the source. It is the streamer
  that was stored when a request arrived, and the member it came from.
-/
import OpenAirCast.Client.GroupStream

namespace OpenAirCast.Client

open Audio

structure SocketId where
  /-- Which connect bound it. -/
  epoch : Nat
  place : Nat
  deriving DecidableEq

structure BoundConnection (κ : Type) where
  stream : StreamConnection κ
  controlSocket : Option SocketId

/-- A thread of `spawn_group_control_listener`: its streamer, and the sockets
with the targets they stand for. -/
structure ControlListener where
  streamer : Nat
  controlSockets : List (Nat × SocketId)

/-- A streamer and one of its targets. -/
structure StreamTarget where
  streamer : Nat
  target : Nat
  deriving DecidableEq

structure Arrival where
  data : Bytes
  due : Option StreamTarget

structure RetransmitAnswer where
  due : Option StreamTarget
  by_ : StreamTarget
  request : RetransmitRequest
  packets : List Datagram
  outcome : RetransmitOutcome

/-- The client, its threads and the sockets. -/
structure ControlClient (κ : Type) where
  streamType : UInt8
  sampleRate : BitVec 32
  renderDelayMs : BitVec 32
  connection : Option (BoundConnection κ) := none
  groupConnections : List (BoundConnection κ) := []
  groupStreamer : Option Nat := none
  /-- The senders of every streamer so far. -/
  streamers : List (List (RtpSender κ)) := []
  listeners : List ControlListener := []
  /-- How often each thread has polled. -/
  turns : Nat → Nat := fun _ => 0
  queues : SocketId → List Arrival := fun _ => []
  epoch : Nat := 0
  answers : List RetransmitAnswer := []

/-! ## Requests -/

/-- What the thread makes of a datagram. -/
def readRequest (data : Bytes) : Option RetransmitRequest :=
  let buf := data.take 2048
  if buf.length < 4 then none
  else if buf.getD 1 0 &&& 0x7F ≠ 85 then none
  else if buf.length = 8 then
    some ⟨fromBe 16 ((buf.drop 4).take 2), fromBe 16 ((buf.drop 6).take 2)⟩
  else if 12 ≤ buf.length then RetransmitRequest.parse buf
  else none

/-- An unknown target can serve nothing. -/
def handleRetransmitForTarget {κ : Type} (senders : List (RtpSender κ)) (index : Nat)
    (request : RetransmitRequest) (network : Nat → Except AudioError Nat) :
    List Datagram × RetransmitOutcome :=
  match senders[index]? with
  | some sender => sender.handleRetransmit request network
  | none => ([], { requestedSlots := request.count })

/-! ## Group starts -/

/-- The forms of a group start, with what the decoder says to a file. -/
inductive GroupStart where
  | playFileToGroup (opened : Except StartError Unit)
  | startLiveStreamingToGroup
  /-- `prepare_live_group_with_presentation_delays` too, which differs in when
  the first audio leaves. -/
  | withPresentationDelays (effectiveDelayNs : DelayMap)

namespace GroupClient

variable {κ : Type}

variable (client : GroupClient κ)

def playFileToGroup (opened started : Except StartError Unit) :
    Except StartError (StreamerInner κ) :=
  match client.connection with
  | none => .error .noSession
  | some connection =>
    match buildRtpSenders (connection :: client.groupConnections) with
    | .error error => .error error
    | .ok senders =>
      match connection.ptpClockRx with
      | none => .error (.setupFailed "No coherent PTP clock state for group streaming")
      | some latest =>
        let streamer := (StreamerInner.new client.streamType client.sampleRate).setRtpSenders
          senders
        match opened with
        | .error error => .error error
        | .ok _ => started.map (fun _ => client.configure streamer latest)

def groupTargetCount : Nat :=
  (if client.connection.isSome then 1 else 0) + client.groupConnections.length

/-- The streamer of a start. `started` is what its last call answers. -/
def start (client : GroupClient κ) (started : Except StartError Unit) :
    GroupStart → Except StartError (StreamerInner κ)
  | .playFileToGroup opened => client.playFileToGroup opened started
  | .startLiveStreamingToGroup =>
    client.startLiveStreamingToGroupInner (List.replicate client.groupTargetCount 0) started
  | .withPresentationDelays delays =>
    client.startLiveStreamingToGroupWithPresentationDelays delays started

end GroupClient

namespace ControlClient

variable {κ : Type}

variable (c : ControlClient κ)

def groupClient : GroupClient κ where
  connection := c.connection.map (·.stream)
  groupConnections := c.groupConnections.map (·.stream)
  streamType := c.streamType
  sampleRate := c.sampleRate
  renderDelayMs := c.renderDelayMs

/-- The members with their targets: the primary first. -/
def members : List (Nat × BoundConnection κ) :=
  c.connection.toList.map (fun conn => (0, conn))
    ++ c.groupConnections.zipIdx.map (fun (conn, i) => (i + 1, conn))

/-- `clones` says which sockets can be cloned. -/
def cloneControlSockets (clones : Nat → Bool) : List (Nat × SocketId) :=
  c.members.filterMap (fun (index, conn) =>
    if clones index then conn.controlSocket.map (fun socket => (index, socket)) else none)

/-- A thread for the streamer, if there is a socket to poll and `spawned` says
that there is a thread. -/
def spawnGroupControlListener (streamer : Nat) (clones : Nat → Bool)
    (spawned : Bool) : ControlClient κ :=
  let controlSockets := c.cloneControlSockets clones
  if controlSockets = [] ∨ spawned = false then c
  else { c with listeners := c.listeners ++ [⟨streamer, controlSockets⟩] }

/-! ## Steps -/

inductive ControlEvent (κ : Type) where
  /-- A group start in any of its forms. -/
  | start (form : GroupStart) (started : Except StartError Unit) (clones : Nat → Bool)
      (spawned : Bool)
  | stop
  /-- `closed` is whether the primary's own `disconnect` succeeds. -/
  | disconnect (closed : Bool)
  /-- With what comes up, if anything does. -/
  | connectGroup (closed : Bool) (up : Option (StreamConnection κ × List (StreamConnection κ)))
  /-- A streamer has sent audio to a target; the sender afterwards. -/
  | sent (streamer target : Nat) (sender : RtpSender κ)
  | arrival (socket : SocketId) (data : Bytes)
  /-- The next poll of a thread. -/
  | poll (listener : Nat) (network : Nat → Except AudioError Nat)

/-- A start with a calibration map that does not fit returns before it
touches anything. -/
def refusesMap : GroupStart → Bool
  | .withPresentationDelays delays => !(c.groupClient.mapPresentationDelays delays).isOk
  | _ => false

def startGroup (form : GroupStart) (started : Except StartError Unit)
    (clones : Nat → Bool) (spawned : Bool) : ControlClient κ :=
  if c.refusesMap form then c
  else
    let c := { c with groupStreamer := none }
    match c.groupClient.start started form with
    | .error _ => c
    | .ok inner =>
      let streamer := c.streamers.length
      let c := { c with streamers := c.streamers ++ [inner.rtpSenders] }
      { c.spawnGroupControlListener streamer clones spawned with groupStreamer := some streamer }

def disconnect (closed : Bool) : ControlClient κ :=
  { c with
    groupStreamer := none
    groupConnections := []
    connection :=
      if closed then none
      else c.connection.map (fun conn => { conn with controlSocket := none }) }

/-- The devices that came up, each with a socket of its own. -/
def setUp (primary : StreamConnection κ) (members : List (StreamConnection κ)) : ControlClient κ :=
  { c with
    connection := some ⟨primary, some ⟨c.epoch, 0⟩⟩
    groupConnections := members.zipIdx.map (fun (conn, i) => ⟨conn, some ⟨c.epoch, i + 1⟩⟩)
    epoch := c.epoch + 1 }

def connectGroup (closed : Bool)
    (up : Option (StreamConnection κ × List (StreamConnection κ))) : ControlClient κ :=
  let c := c.disconnect closed
  match up with
  | some (primary, members) => if c.connection.isSome then c else c.setUp primary members
  | none => c

variable (socket : SocketId)

/-- The target whose control socket this is. -/
def targetOf : Option Nat :=
  (c.members.find? (fun member => decide (member.2.controlSocket = some socket))).map (·.1)

/-- The stream that is playing, and the member the request comes from. -/
def dueOf (data : Bytes) : Option StreamTarget :=
  if (readRequest data).isSome then
    c.groupStreamer.bind (fun streamer =>
      (c.targetOf socket).map (fun target => ⟨streamer, target⟩))
  else none

def arrive (data : Bytes) : ControlClient κ :=
  let waiting := c.queues socket ++ [⟨data, c.dueOf socket data⟩]
  { c with queues := Function.update c.queues socket waiting }

/-- The answer of a thread to what it has taken off a socket. -/
def answer (streamer index : Nat) (arrival : Arrival)
    (network : Nat → Except AudioError Nat) : List RetransmitAnswer :=
  match readRequest arrival.data with
  | none => []
  | some request =>
    let (packets, outcome) := handleRetransmitForTarget ((c.streamers[streamer]?).getD []) index
      request network
    [⟨arrival.due, ⟨streamer, index⟩, request, packets, outcome⟩]

/-- `recv_from` on one socket, and what follows. -/
def receive (streamer index : Nat) (socket : SocketId)
    (network : Nat → Except AudioError Nat) : ControlClient κ :=
  match c.queues socket with
  | [] => c
  | arrival :: rest =>
    { c with
      queues := Function.update c.queues socket rest
      answers := c.answers ++ c.answer streamer index arrival network }

/-- The sockets have their turns one after the other. -/
def poll (listener : Nat) (network : Nat → Except AudioError Nat) : ControlClient κ :=
  match c.listeners[listener]? with
  | none => c
  | some thread =>
    let turn := c.turns listener
    let c := { c with turns := Function.update c.turns listener (turn + 1) }
    match thread.controlSockets[turn % thread.controlSockets.length]? with
    | none => c
    | some (index, socket) => c.receive thread.streamer index socket network

def step (c : ControlClient κ) : ControlEvent κ → ControlClient κ
  | .start form started clones spawned => c.startGroup form started clones spawned
  | .stop => { c with groupStreamer := none }
  | .disconnect closed => c.disconnect closed
  | .connectGroup closed up => c.connectGroup closed up
  | .sent streamer target sender =>
    { c with streamers := c.streamers.modify streamer (·.set target sender) }
  | .arrival socket data => c.arrive socket data
  | .poll listener network => c.poll listener network

/-- A client nobody has used yet. -/
def fresh (streamType : UInt8) (sampleRate renderDelayMs : BitVec 32) : ControlClient κ :=
  { streamType, sampleRate, renderDelayMs }

def run (c : ControlClient κ) (events : List (ControlEvent κ)) : ControlClient κ :=
  events.foldl step c

end ControlClient

end OpenAirCast.Client
