/-
Bridge.Commands — the two halves of the bridge that meet in
`GenerationEcho`, from `backend_bridge/commands.rs`.

`GenerationEcho` is shared between the shell's thread, which records what
it asked for, and the bridge's thread, which samples it and resolves the
receipts. Every field has its own lock, so what one call does under one
lock is one function here: the bridge's reads are functions of the echo,
and `BackendPort.trySend` returns the sends it made and the writes that
follow them, one per lock.

One-shot channels live with the backend. A function that polls a receipt
takes `channels`, what they hold at that moment.
-/
import OpenAirCast.Backend.Command
import OpenAirCast.Bridge.Projection

namespace OpenAirCast.Bridge

open OpenAirCast.Backend

/-! ## The echo -/

structure VolumePending where
  generation : GenerationId
  receipt : Option CommandReceipt

structure GroupPending where
  request : Nat
  generation : Option GenerationId
  admission : Except GroupFailure (Nat × CommandReceipt)

/-- Shell generations and requests in flight, with the defaults of
`GenerationEcho::default`. -/
structure GenerationEcho where
  /-- Backend binding of the newest `SessionStarted`. -/
  listeningTarget : Option (GenerationId × ListeningTestGuard) := none
  listeningPending : Option VolumePending := none
  volume : Option VolumePending := none
  group : Option GroupPending := none
  discovery : GenerationId := 0
  session : GenerationId × SessionEdge := (0, .untouched)

def LISTENING_TONE_FAILED_SUMMARY : String := "The listening test tone could not be started."

namespace GenerationEcho

variable (echo : GenerationEcho)

/-- Reads the shell generations for one projection pass. -/
def sample : GenerationsSeen where
  discovery := echo.discovery
  session := echo.session.1
  sessionEdge := echo.session.2

/-- The generation of the first `SessionStarted`. -/
def startedGeneration (events : List ControllerEvent) : Option GenerationId :=
  events.findSome? (fun event => match event with
    | .sessionStarted generation _ => some generation
    | _ => none)

def observeListeningTarget (snapshot : DeviceSnapshot)
    (events : List ControllerEvent) : GenerationEcho :=
  match startedGeneration events with
  | some generation =>
    { echo with listeningTarget :=
        (ListeningTestGuard.capture snapshot).map (fun guard => (generation, guard)) }
  | none =>
    match snapshot.session.phase with
    | .streaming _ => echo
    | _ => { echo with listeningTarget := none }

variable (channels : ReceiptId → Oneshot)

/-- Polls a receipt that may be missing. -/
def pollReceipt (revision : Nat)
    (receipt : Option CommandReceipt) : Option CommandReceipt × Option ReceiptState :=
  match receipt with
  | none => (none, none)
  | some receipt =>
    let (receipt, state) := receipt.poll (channels receipt.receiver) revision
    (some receipt, some state)

def listeningEvents
    (snapshot : DeviceSnapshot) (closed : Bool) : GenerationEcho × List ControllerEvent :=
  match echo.listeningPending with
  | none => (echo, [])
  | some request =>
    let (receipt, status) := pollReceipt channels snapshot.revision request.receipt
    if !closed && status = some .pending then
      ({ echo with listeningPending := some { request with receipt } }, [])
    else
      let failed := closed || status ≠ some (.completed none)
      ({ echo with listeningPending := none },
        if failed then [.sessionFailed request.generation LISTENING_TONE_FAILED_SUMMARY]
        else [])

def volumeEvents
    (snapshot : DeviceSnapshot) (closed : Bool) : GenerationEcho × List ControllerEvent :=
  match echo.volume with
  | none => (echo, [])
  | some request =>
    let (receipt, status) := pollReceipt channels snapshot.revision request.receipt
    let settled := status.elim true (fun state => decide (state ≠ .pending) || closed)
    if !settled then ({ echo with volume := some { request with receipt } }, [])
    else
      ({ echo with volume := none }, [.volumeApplied request.generation snapshot.masterVolume.get])

/-- What a command failure is to a group operation. -/
def groupFailureOf : CommandFailure → GroupFailure
  | .persistence => .persistence
  | .rejected => .validation

/-- The status an admitted group command has reached, if any. -/
def groupStatus (closed : Bool) : ReceiptState → Option GroupOperationStatus
  | .completed none => some .succeeded
  | .completed (some error) => some (.failed (groupFailureOf error))
  | .lost => some (.failed (if closed then .closed else .confirmationLost))
  | .pending => if closed then some (.failed .closed) else none

/-- The edge a resolved group start leaves. -/
def groupEdge (status : GroupOperationStatus) (receipt : Option CommandReceipt)
    (revision : Nat) : SessionEdge :=
  match status with
  | .failed _ => .rejected
  | _ =>
    match receipt.bind (·.sessionGenerationFloor revision) with
    | some backendFloor => .confirmedGroupStart backendFloor
    | none => .pendingGroupStart

/-- Clears the group slot and settles the session edge of its generation,
unless a newer request has replaced it. -/
def resolveGroup (pending : GroupPending)
    (status : GroupOperationStatus) (receipt : Option CommandReceipt) (revision : Nat) :
    GenerationEcho × List ControllerEvent :=
  let session := if pending.generation = some echo.session.1
    then (echo.session.1, groupEdge status receipt revision) else echo.session
  ({ echo with group := none, session }, [.groupOperationFinished pending.request status])

/-- Resolves the exact receipt of the group slot. -/
def groupEvents
    (snapshot : DeviceSnapshot) (closed : Bool) : GenerationEcho × List ControllerEvent :=
  match echo.group with
  | none => (echo, [])
  | some pending =>
    match pending.admission with
    | .error failure => echo.resolveGroup pending (.failed failure) none snapshot.revision
    | .ok (id, receipt) =>
      let (receipt, state) := receipt.poll (channels receipt.receiver) snapshot.revision
      match groupStatus closed state with
      | some status => echo.resolveGroup pending status (some receipt) snapshot.revision
      | none => ({ echo with group := some { pending with admission := .ok (id, receipt) } }, [])

end GenerationEcho

/-! ## What the port writes into the echo -/

/-- One write under one lock. -/
inductive EchoWrite where
  | recordDiscovery (generation : GenerationId)
  | recordSession (generation : GenerationId) (edge : SessionEdge)
  | holdGroup (pending : GroupPending)
  | holdVolume (pending : VolumePending)
  | holdListening (pending : VolumePending)

def GenerationEcho.write (echo : GenerationEcho) : EchoWrite → GenerationEcho
  | .recordDiscovery generation => { echo with discovery := generation }
  | .recordSession generation edge => { echo with session := (generation, edge) }
  | .holdGroup pending => { echo with group := some pending }
  | .holdVolume pending => { echo with volume := some pending }
  | .holdListening pending => { echo with listeningPending := some pending }

/-! ## The port -/

inductive ControllerSendError where
  | busy
  | closed
  deriving DecidableEq

inductive DeviceCommand where
  | group (request : Nat) (generation : Option GenerationId) (command : GroupCommand)
  | applyReceiverLevel (receiver : DeviceId) (level : F32)
  | discover (generation : GenerationId)
  | startSession (generation : GenerationId) (receiverIds : List DeviceId) (volume : F32)
  | stopSession (generation : GenerationId)
  | playListeningTone (generation : GenerationId)
  | applyVolume (generation : GenerationId) (volume : F32)
  | applyMute (muted : Bool)
  | applyLatency (choice : LatencyChoice)
  | applyAudioEndpoint (request : AudioEndpointRequest)
  | shutdown

/-- The session generation a command carries. -/
def DeviceCommand.sessionGeneration : DeviceCommand → Option GenerationId
  | .startSession generation _ _ => some generation
  | .stopSession generation => some generation
  | .group _ generation _ => generation
  | _ => none

/-- `effect_to_command`, and the two commands the executor builds itself. -/
def effectToCommand : AppEffect → Option DeviceCommand
  | .playListeningTone generation => some (.playListeningTone generation)
  | .group request generation command => some (.group request generation command)
  | .discover generation => some (.discover generation)
  | .startSession generation receiverIds volume =>
    some (.startSession generation receiverIds volume)
  | .stopSession generation => some (.stopSession generation)
  | .applyVolume generation volume => some (.applyVolume generation volume)
  | .applyMute muted => some (.applyMute muted)
  | .applyReceiverLevel receiver level => some (.applyReceiverLevel receiver level)
  | .applyLatency choice => some (.applyLatency choice)
  | .applyAudioEndpoint request => some (.applyAudioEndpoint request)
  | _ => none

def latencyPreset : LatencyChoice → LatencyPreset
  | .low => .low
  | .normal => .normal
  | .stable => .stable

/-- Total conversion of a shell volume. -/
def volumeOf (value : F32) : Volume :=
  if !value.isFinite then .DEFAULT_MASTER
  else (Volume.new (value.clamp F32.zero F32.one)).getD .DEFAULT_MASTER

/-- What the port made of one command: the envelopes it enqueued, the
writes that follow, and its result. -/
structure PortReply where
  sent : List CommandEnvelope
  writes : List EchoWrite
  result : Except ControllerSendError Unit

/-- A saved group's members with their levels validated. -/
def savedMembers (members : List GroupMember) : Option (List SavedGroupMember) :=
  members.mapM (fun member => (Volume.new member.level).map (fun level =>
    { receiver := member.receiver, lastKnownName := member.name, level }))

/-- The backend command a group command is. -/
def translateGroup : GroupCommand → Except GroupFailure BackendCommand
  | .save id name members =>
    match savedMembers members with
    | some members => .ok (.saveGroup id name members)
    | none => .error .validation
  | .delete id => .ok (.deleteGroup id)
  | .apply id start => .ok (.activateSavedGroup id start)
  | .applySelection receiverIds => .ok (.applyDesiredMembers receiverIds.toFinset)

namespace BackendPort

variable (refusal : Option ControllerSendError)

/-- The edge a lifecycle request leaves: only Busy means nothing was
asked. -/
def requestEdge (edge : SessionEdge) : SessionEdge :=
  if refusal = some .busy then .rejected else edge

def resultOf : Option ControllerSendError → Except ControllerSendError Unit
  | none => .ok ()
  | some error => .error error

/-- A send without a receipt. -/
def send (id : Nat) (command : BackendCommand) : PortReply where
  sent := if refusal.isNone then [{ id, command, confirmation := none }] else []
  writes := []
  result := resultOf refusal

variable (echo : GenerationEcho)

/-- The guard a tone may be played under. -/
def listeningGuard (generation : GenerationId) : Option ListeningTestGuard :=
  (echo.listeningTarget.filter (fun target =>
    target.1 = generation && echo.session.1 = generation)).map (·.2)

def playListeningTone (refusal : Option ControllerSendError)
    (id : Nat) (generation : GenerationId) : PortReply :=
  if echo.listeningPending.isSome then ⟨[], [], .error .busy⟩
  else
    match listeningGuard echo generation, refusal with
    | some guard, none =>
      { sent := [{ id, command := .runListeningTest guard, confirmation := some id }]
        writes := [.holdListening { generation, receipt := some { receiver := id } }]
        result := .ok () }
    | _, _ =>
      { sent := []
        writes := [.holdListening { generation, receipt := none }]
        result := .ok () }

/-- The refusal as the group slot keeps it. -/
def groupRefusal : ControllerSendError → GroupFailure
  | .busy => .busy
  | .closed => .closed

/-- The edge a group start is recorded with. -/
def admissionEdge : Except GroupFailure (Nat × CommandReceipt) → SessionEdge
  | .ok _ => .pendingGroupStart
  | .error _ => .rejected

def group (refusal : Option ControllerSendError) (id : Nat)
    (request : Nat) (generation : Option GenerationId) (command : GroupCommand) : PortReply :=
  if echo.group.isSome then ⟨[], [], .error .busy⟩
  else
    let (sent, admission) : List CommandEnvelope × Except GroupFailure (Nat × CommandReceipt) :=
      match translateGroup command, refusal with
      | .error failure, _ => ([], .error failure)
      | .ok _, some error => ([], .error (groupRefusal error))
      | .ok command, none =>
        ([{ id, command, confirmation := some id }], .ok (id, { receiver := id }))
    { sent
      writes := (generation.map (fun generation =>
          .recordSession generation (admissionEdge admission))).toList
        ++ [.holdGroup { request, generation, admission }]
      result := .ok () }

/-- Three commands under ids of their own, reserved together. -/
def startSession (id : Nat) (generation : GenerationId)
    (receiverIds : List DeviceId) (volume : F32) : PortReply where
  sent := if refusal.isNone then
      [{ id := id, command := .setDesiredMembers receiverIds.toFinset, confirmation := none },
       { id := id + 1, command := .setMasterVolume (volumeOf volume), confirmation := none },
       { id := id + 2, command := .setRunIntent .running, confirmation := none }]
    else []
  writes := [.recordSession generation (requestEdge refusal .start)]
  result := resultOf refusal

def stopSession (id : Nat) (generation : GenerationId) :
    PortReply :=
  { send refusal id (.setRunIntent .stopped) with
    writes := [.recordSession generation (requestEdge refusal .stop)] }

def applyVolume (id : Nat) (generation : GenerationId) (volume : F32) : PortReply where
  sent := if refusal.isNone then
      [{ id, command := .setMasterVolume (volumeOf volume), confirmation := some id }]
    else []
  writes := [.holdVolume { generation, receipt :=
    if refusal.isNone then some { receiver := id } else none }]
  result := resultOf refusal

/-- `try_send`. `refusal` is what the bounded queue answers this time and
`id` the next id the handle allocates. -/
def trySend (endpoints : EndpointTable) (echo : GenerationEcho)
    (refusal : Option ControllerSendError) (id : Nat) : DeviceCommand → PortReply
  | .playListeningTone generation => playListeningTone echo refusal id generation
  | .group request generation command => group echo refusal id request generation command
  | .discover generation =>
    if refusal = some .closed then ⟨[], [], .error .closed⟩
    else ⟨[], [.recordDiscovery generation], .ok ()⟩
  | .startSession generation receiverIds volume =>
    startSession refusal id generation receiverIds volume
  | .stopSession generation => stopSession refusal id generation
  | .applyVolume generation volume => applyVolume refusal id generation volume
  | .applyMute muted => send refusal id (.setMuted muted)
  | .applyReceiverLevel receiver level =>
    send refusal id (.setReceiverLevel receiver (volumeOf level))
  | .applyLatency choice => send refusal id (.setLatencyPreset (latencyPreset choice))
  | .applyAudioEndpoint .systemDefault => send refusal id (.setAudioEndpoint .systemDefault)
  | .applyAudioEndpoint (.endpoint key) =>
    match endpoints.preference key with
    | some preference => send refusal id (.setAudioEndpoint preference)
    | none => ⟨[], [], .ok ()⟩
  | .shutdown => send refusal id .shutdown

end BackendPort

end OpenAirCast.Bridge
