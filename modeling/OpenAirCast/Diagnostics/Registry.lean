/-
Diagnostics.Registry — the diagnostics registry, from
`diagnostics/registry.rs`.

One worker owns everything: `applyCommand` takes a registration or the end of
a session, `ingestBackendEvent` an event of the backend's feed, `publish`
puts a new snapshot where readers find it. `RegistrySystem` is the worker
with its two channels. It drains the commands, publishes if there were any,
and then waits for a wake-up or an event.

Translation notes.

* `Asked` is what the clock and the clients answer during one step. One
  reading of the clock serves a whole step.
* A drain takes all commands there are; one that is sent while it runs is
  one that was sent before.
* The broadcast keeps `DIAGNOSTIC_CAPACITY` events for the worker. A
  receiver that lagged is told how many it lost.
* `backend_public_message` prints payloads with `Debug`, whose text is not
  fixed; it is a parameter.
* `dropped_total` does not overflow.
* Left out are the shutdown, and a feed that is closed.
-/
import OpenAirCast.Diagnostics.Session
import OpenAirCast.Diagnostics.Ring

namespace OpenAirCast.Diagnostics

open Backend

def DIAGNOSTIC_CAPACITY : Nat := 2048

/-- `backend_public_message`. -/
class PublicMessage where
  backend : DiagnosticPayload → String

/-- What a step reads. -/
structure Asked where
  nowUtc : SystemTime := 0
  elapsedNs : Nat := 0
  /-- The snapshot of each client, by its handle. -/
  snapshot : Nat → ClientDiagnosticsSnapshot := fun _ => {}
  /-- What the active client's `drain_events` answers, call by call. -/
  batches : List (List ClientDiagnosticEvent) := []

/-- The counters as they were seen last. -/
structure DefiniteBaseline where
  captureQueueFullDrops : Nat
  bufferUnderruns : Nat
  udpSendFailures : Nat
  retransmitHistoryMisses : Nat

structure RetainedSession where
  session : SessionDiagnosticsSnapshot
  receivers : List ReceiverDiagnosticsSnapshot

structure WorkerState where
  /-- What readers see. -/
  current : DiagnosticsSnapshot
  ring : DiagnosticsRing := {}
  sequence : Nat := 0
  droppedTotal : Nat := 0
  active : Option SessionRegistration := none
  retained : Option RetainedSession := none
  lifecycle : SortedMap ReceiverId Lifecycle := .empty
  phase : Option FullPhase := none
  attentionDefinite : Bool := false
  feedbackAttention : Bool := false
  pcmDropAccumulator : Nat := 0
  definiteBaseline : Option DefiniteBaseline := none

/-- `u64::saturating_add`. -/
def saturatingAdd (a b : Nat) : Nat := min (a + b) U64_MAX

/-! ## Labels -/

def mapBackendSeverity : Severity → DiagnosticSeverity
  | .info => .info
  | .warning => .warning
  | .error => .error

def backendComponentFor (category : DiagnosticCategory) (receiverScoped : Bool) :
    DiagnosticComponent :=
  match category with
  | .discovery => .discovery
  | .capture => .capture
  | .probe => .feedback
  | .retry => if receiverScoped then .rtsp else .discovery
  | .receiver | .session => .rtsp
  | .command | .general | .persistence | .queue | .worker => .backend

def backendCodeFor : DiagnosticPayload → DiagnosticErrorCode
  | .pcmDrop _ => .captureQueueFull
  | .queueLag _ => .eventChannelFailure
  | .probe false _ => .feedbackFailure
  | _ => .notice

/-- The `Debug` text. -/
def DefiniteCounterKind.text : DefiniteCounterKind → String
  | .captureDrops => "CaptureDrops"
  | .bufferUnderruns => "BufferUnderruns"
  | .udpSendFailures => "UdpSendFailures"
  | .retransmitHistoryMisses => "RetransmitHistoryMisses"

def clientErrorToDiagnostic (error : ClientDiagnosticError) (key : ReceiverSessionKey) :
    DiagnosticError :=
  let classified : DiagnosticErrorCode × DiagnosticComponent := match error.kind with
    | .timeout => (.feedbackTimeout, .feedback)
    | .protocolFailure => (.feedbackFailure, .feedback)
    | .transportFailure => (.udpSendFailure, .udpTransport)
    | .other => (.notice, .backend)
  { code := classified.1
    component := classified.2
    severity := .error
    recoverability := .automaticRetry
    operation := "client_connection"
    receiverSession := some key
    publicMessage := error.publicMessage
    technicalDetail := none }

/-! ## Rows -/

def timingOf (primary : Option ReceiverId) (conn : Option ConnectionDiagnosticsSnapshot) :
    ReceiverTimingSnapshot :=
  match conn with
  | some conn =>
    match conn.timingRole with
    | .ptpPrimary =>
      { source := .ptpMeasuredAgainstThisMaster
        independentlyMeasured := true
        offsetLocalMinusMasterNs := conn.timing.latest.map (·.offsetLocalMinusMasterNs)
        meanPathDelayNs := conn.timing.latest.map (·.meanPathDelayNs)
        driftPpm := conn.timing.driftPpm
        sampleAgeNs := conn.timing.sampleAgeNs
        stale := conn.timing.stale }
    | .ptpSecondary => { source := .ptpSharedFromPrimary primary }
    | .single => { source := .senderReference }
  | none => { source := .unavailable }

def transportOf (framesPrepared : Nat) (conn : Option ConnectionDiagnosticsSnapshot) :
    ReceiverTransportSnapshot :=
  let row := (conn.map (·.transport)).getD {}
  let retransmit := (conn.map (·.retransmit)).getD {}
  let requestedSlots := retransmit.retransmitPacketSlotsRequestedTotal
  { dataDatagramsAttemptedTotal := row.dataDatagramsAttemptedTotal
    dataDatagramsAcceptedLocalTotal := row.dataDatagramsAcceptedLocalTotal
    dataDatagramSendFailuresTotal := row.dataSendFailuresTotal
    dataBytesAcceptedLocalTotal := row.dataBytesSentTotal
    syncDatagramsAttemptedTotal := row.syncDatagramsAttemptedTotal
    syncDatagramsAcceptedLocalTotal := row.syncDatagramsAcceptedLocalTotal
    syncDatagramSendFailuresTotal := row.syncSendFailuresTotal
    syncBytesAcceptedLocalTotal := row.syncBytesSentTotal
    retransmitSlotsRequestedTotal := requestedSlots
    retransmitSlotsAcceptedLocalTotal := retransmit.retransmitDatagramsAcceptedLocalTotal
    recoveryDemandNumeratorSlots := requestedSlots
    recoveryDemandDenominatorSharedFrames := framesPrepared
    recoveryDemandRatio :=
      if 0 < framesPrepared then some (.quotient requestedSlots framesPrepared) else none }

namespace WorkerState

variable (w : WorkerState)

def buildReceiverRows (registration : SessionRegistration)
    (client : ClientDiagnosticsSnapshot) : List ReceiverDiagnosticsSnapshot :=
  let framesPrepared := (client.audio.map (·.rtpFramesPreparedTotal)).getD 0
  registration.members.entries.map (fun member =>
    let key : ReceiverSessionKey := ⟨registration.sessionId, member.1⟩
    let conn := client.connections.find? (fun conn => conn.deviceId == member.2)
    { key
      lifecycle := (w.lifecycle.get member.1).getD .discovered
      timing := timingOf registration.primary conn
      transport := transportOf framesPrepared conn
      feedback := (conn.map (·.feedback)).getD {}
      lastError := (conn.bind (·.lastError)).map (clientErrorToDiagnostic · key) })

/-- The session as it stands; it is finished where the arguments say so. -/
def sessionView (registration : SessionRegistration)
    (client : ClientDiagnosticsSnapshot) (finishedElapsedNs : Option Nat)
    (stopReason : Option SessionStopReason) : SessionDiagnosticsSnapshot where
  sessionId := registration.sessionId
  startedElapsedNs := registration.startedElapsedNs
  finishedElapsedNs := finishedElapsedNs
  stopReason := stopReason
  phase := w.phase
  primary := registration.primary
  members := registration.members
  audio := client.audio

def isActiveMember (receiver : ReceiverId) : Bool :=
  w.active.any (fun registration => (registration.members.get receiver).isSome)

def sessionKeyFor (receiver : ReceiverId) : Option ReceiverSessionKey :=
  w.active.bind (fun registration =>
    if (registration.members.get receiver).isSome then some ⟨registration.sessionId, receiver⟩
    else none)

def deviceKey (device : DeviceId) : Option ReceiverSessionKey :=
  w.active.bind (fun registration =>
    (registration.members.entries.find? (fun member => member.2 == device)).map
      (fun member => ⟨registration.sessionId, member.1⟩))

/-! ## Commands -/

variable (asked : Asked)

def applyCommand : Command → WorkerState
  | .register registration =>
    { w with
      active := some registration
      retained := none
      lifecycle := .empty
      phase := none
      attentionDefinite := false
      feedbackAttention := false
      pcmDropAccumulator := 0
      definiteBaseline := none }
  | .finish sessionId reason =>
    match w.active with
    | some registration =>
      if registration.sessionId = sessionId then
        let client := asked.snapshot registration.source
        { w with
          active := none
          retained := some ⟨w.sessionView registration client (some asked.elapsedNs) (some reason),
              w.buildReceiverRows registration client⟩ }
      else w
    | none => w

/-! ## The backend's feed -/

def push (draft : DiagnosticEventDraft) : WorkerState :=
  { w with ring := (w.ring.push draft).1 }

def recordDefiniteTransition (counter : DefiniteCounterKind)
    (component : DiagnosticComponent) (code : DiagnosticErrorCode)
    (previousTotal currentTotal : Nat) : WorkerState :=
  w.push
    { occurredAtUtc := asked.nowUtc
      processElapsedNs := asked.elapsedNs
      receiverSession := none
      severity := .warning
      component, code
      publicMessage := counter.text ++ " total advanced"
      payload := .definiteCounterTransition counter previousTotal currentTotal }

def notePcmDrop (dropped : Nat) : WorkerState :=
  let previous := w.pcmDropAccumulator
  let w := { w with pcmDropAccumulator := saturatingAdd previous dropped }
  if w.active.isSome ∧ previous < w.pcmDropAccumulator then
    { w.recordDefiniteTransition asked .captureDrops .capture .captureQueueFull previous
        w.pcmDropAccumulator with attentionDefinite := true }
  else w

/-- What an event of the feed changes. -/
def notePayload : DiagnosticPayload → WorkerState
  | .queueLag dropped => { w with droppedTotal := w.droppedTotal + dropped }
  | .pcmDrop dropped => w.notePcmDrop asked dropped
  | .receiverTransition changed destination =>
    if w.isActiveMember changed then
      { w with lifecycle := w.lifecycle.insert changed destination }
    else w
  | .sessionTransition phase _ => { w with phase := some phase }
  | _ => w

def ingestBackendEvent [PublicMessage] (w : WorkerState) (asked : Asked) (event : FeedEvent) :
    WorkerState :=
  let w := w.notePayload asked event.payload
  w.push
    { occurredAtUtc := event.wallTime
      processElapsedNs := event.monotonicNs
      receiverSession := event.receiver.bind w.sessionKeyFor
      severity := mapBackendSeverity event.severity
      component := backendComponentFor event.category event.receiver.isSome
      code := backendCodeFor event.payload
      publicMessage := PublicMessage.backend event.payload
      payload := match event.payload with
        | .calibrationState state => .calibrationState state
        | other => .backend other }

/-! ## The client's feed -/

/-- The draft of a client event, but for its stamps and its key. -/
def clientDraft (event : ClientDiagnosticEvent)
    (receiverSession : Option ReceiverSessionKey) : DiagnosticEventDraft :=
  let labelled : DiagnosticSeverity × DiagnosticComponent × DiagnosticErrorCode × String :=
    match event.kind with
    | .feedback => (.info, .feedback, .notice, "feedback transaction recorded")
    | .setupFailure => (.warning, .rtsp, .setupRejected, "receiver setup failed")
    | .runtimeWarning => (.warning, .retransmit, .notice, "recoverable transport problem")
  { occurredAtUtc := asked.nowUtc
    processElapsedNs := event.elapsedNs
    receiverSession
    severity := labelled.1
    component := labelled.2.1
    code := labelled.2.2.1
    publicMessage := labelled.2.2.2
    payload := .client event }

def noteClientEvent (w : WorkerState) (event : ClientDiagnosticEvent) :
    WorkerState :=
  let w := if event.kind = .runtimeWarning then { w with attentionDefinite := true } else w
  w.push (clientDraft asked event (event.deviceId.bind w.deviceKey))

/-- Reads the client's feed until it is empty, at most so many times. -/
def drainClientEvents (asked : Asked) :
    Nat → List (List ClientDiagnosticEvent) → WorkerState → WorkerState
  | 0, _, w => w
  | _, [], w => w
  | _, [] :: _, w => w
  | n + 1, drained :: batches, w =>
    drainClientEvents asked n batches (drained.foldl (noteClientEvent asked) w)

def baselineOf (audio : AudioDiagnosticsSnapshot) : DefiniteBaseline where
  captureQueueFullDrops := audio.captureQueue.fullQueueDropsTotal
  bufferUnderruns := audio.senderBuffer.underrunEventsTotal
  udpSendFailures := (audio.targets.map (·.dataSendFailuresTotal)).foldl saturatingAdd 0
  retransmitHistoryMisses := audio.retransmit.retransmitHistoryMissesTotal

/-- One definite counter, before and now. -/
structure Increase where
  previous : Nat
  now : Nat
  kind : DefiniteCounterKind
  component : DiagnosticComponent
  code : DiagnosticErrorCode

def increases (baseline current : DefiniteBaseline) : List Increase :=
  [⟨baseline.captureQueueFullDrops, current.captureQueueFullDrops, .captureDrops, .capture,
      .captureQueueFull⟩,
    ⟨baseline.bufferUnderruns, current.bufferUnderruns, .bufferUnderruns, .buffer, .bufferUnderrun⟩,
    ⟨baseline.udpSendFailures, current.udpSendFailures, .udpSendFailures, .udpTransport,
      .udpSendFailure⟩,
    ⟨baseline.retransmitHistoryMisses, current.retransmitHistoryMisses, .retransmitHistoryMisses,
      .retransmit, .retransmitHistoryMiss⟩]

def noteIncrease (w : WorkerState) (increase : Increase) : WorkerState :=
  if increase.previous < increase.now ∧ w.active.isSome then
    { w.recordDefiniteTransition asked increase.kind increase.component increase.code
        increase.previous increase.now with attentionDefinite := true }
  else w

/-- The first observation only seeds the baseline. -/
def observeDefiniteCounters (client : ClientDiagnosticsSnapshot) : WorkerState :=
  match client.audio with
  | none => w
  | some audio =>
    let current := baselineOf audio
    match w.definiteBaseline with
    | none => { w with definiteBaseline := some current }
    | some baseline =>
      { (increases baseline current).foldl (noteIncrease asked) w with
        definiteBaseline := some current }

/-! ## Publication -/

/-- `None` and a success are no failure. -/
def feedbackFailed (conn : ConnectionDiagnosticsSnapshot) : Bool :=
  match conn.feedback.lastResult with
  | some .protocolFailure | some .transportFailure | some .timeout => true
  | some .success | none => false

end WorkerState

end OpenAirCast.Diagnostics

namespace OpenAirCast.Backend

def Lifecycle.isFailed : Lifecycle → Bool
  | .failed _ _ => true
  | _ => false

def FullPhase.isFailed : FullPhase → Bool
  | .failed _ _ => true
  | _ => false

def FullPhase.isDegraded : FullPhase → Bool
  | .degraded _ => true
  | _ => false

end OpenAirCast.Backend

namespace OpenAirCast.Diagnostics

open Backend

namespace WorkerState

variable (w : WorkerState)

def computeHealth : Health :=
  if w.active.isNone then .unknown
  else if w.lifecycle.entries.any (fun entry => entry.2.isFailed) || w.phase.any (·.isFailed) then
    .error
  else if w.phase.any (·.isDegraded) || w.attentionDefinite || w.feedbackAttention then .attention
  else .running

variable (asked : Asked)

/-- What the client of the active session has to say. -/
def observeClient (asked : Asked) (source : Nat) : WorkerState :=
  let w := drainClientEvents asked 16 asked.batches w
  let client := asked.snapshot source
  let w := w.observeDefiniteCounters asked client
  if client.connections.any feedbackFailed then { w with feedbackAttention := true } else w

/-- The swap. -/
def store (session : Option SessionDiagnosticsSnapshot)
    (receivers : List ReceiverDiagnosticsSnapshot) : WorkerState :=
  { w with
    sequence := w.sequence + 1
    current :=
      { snapshotSequence := w.sequence + 1
        capturedAtUtc := asked.nowUtc
        processElapsedNs := asked.elapsedNs
        activeSessionId := w.active.map (·.sessionId)
        health := w.computeHealth
        session, receivers
        diagnosticsEventsDroppedTotal := w.droppedTotal } }

def publish (asked : Asked) : WorkerState :=
  match w.active with
  | some registration =>
    let client := asked.snapshot registration.source
    let w := w.observeClient asked registration.source
    w.store asked (some (w.sessionView registration client none none))
      (w.buildReceiverRows registration client)
  | none =>
    match w.retained with
    | some retained => w.store asked (some retained.session) retained.receivers
    | none => w.store asked none []

/-- `DiagnosticsRegistry::start`. -/
def start (asked : Asked) : WorkerState :=
  publish { current := { capturedAtUtc := asked.nowUtc, processElapsedNs := asked.elapsedNs } }
    asked

end WorkerState

/-! ## The worker with its channels -/

/-- A command, with the generation it was sent for. -/
structure Sent where
  generation : Nat
  command : Command

namespace Sent

def registered (sent : Sent) : Option SessionRegistration :=
  match sent.command with
  | .register registration => some registration
  | .finish _ _ => none

end Sent

structure RegistrySystem where
  worker : WorkerState
  tracker : DiagnosticsSessionTracker := {}
  commands : List Sent := []
  /-- What the backend has emitted and the worker not received. -/
  feed : List FeedEvent := []
  /-- How many were overwritten before that. -/
  lagged : Nat := 0
  /-- The worker is at the top of its loop; else it waits. -/
  atTop : Bool := true
  /-- The generation of the active session; like the rest, nobody reads it. -/
  generation : Option Nat := none
  emitted : List FeedEvent := []
  received : List FeedEvent := []
  /-- What publications read since the session was registered. -/
  watched : List Asked := []

inductive RegistryEvent where
  | emit (event : FeedEvent)
  /-- The bridge hands a state to the tracker. -/
  | reconcile (state : SessionDiagnosticsState) (fresh : SessionId)
  | drain (asked : Asked)
  | wake
  | receive (asked : Asked)

def SessionDiagnosticsState.generation : SessionDiagnosticsState → Nat
  | .inactive generation _ | .active generation _ _ _ _ => generation

/-- `DiagnosticEvent::queue_lag`. -/
def queueLag (asked : Asked) (dropped : Nat) : FeedEvent where
  monotonicNs := asked.elapsedNs
  wallTime := asked.nowUtc
  sessionGeneration := 0
  discoveryGeneration := 0
  captureGeneration := 0
  receiver := none
  severity := .warning
  category := .queue
  payload := .queueLag dropped

namespace RegistrySystem

variable (t : RegistrySystem)

def emit (event : FeedEvent) : RegistrySystem :=
  if t.feed.length < DIAGNOSTIC_CAPACITY then
    { t with feed := t.feed ++ [event], emitted := t.emitted ++ [event] }
  else
    { t with
      feed := t.feed.tail ++ [event]
      lagged := t.lagged + 1
      emitted := t.emitted ++ [event] }

def reconcile (state : SessionDiagnosticsState) (fresh : SessionId) :
    RegistrySystem :=
  let r := t.tracker.reconcile fresh state
  { t with tracker := r.1, commands := t.commands ++ r.2.map (⟨state.generation, ·⟩) }

variable (asked : Asked)

def apply (t : RegistrySystem) (sent : Sent) : RegistrySystem :=
  let worker := t.worker.applyCommand asked sent.command
  match sent.command with
  | .register _ => { t with worker, generation := some sent.generation, watched := [] }
  | .finish _ _ =>
    { t with worker, generation := if worker.active.isSome then t.generation else none }

def publish : RegistrySystem :=
  { t with worker := t.worker.publish asked, watched := t.watched ++ [asked] }

/-- All commands there are, and one publication if there were any. -/
def drain : RegistrySystem :=
  let applied := t.commands.foldl (apply asked) t
  let shown := if t.commands.isEmpty then applied else applied.publish asked
  { shown with commands := [], atTop := false }

/-- The worker waits, and the feed has something for it. -/
def receive [PublicMessage] (t : RegistrySystem) (asked : Asked) : RegistrySystem :=
  if 0 < t.lagged then
    let told := { t with
      worker := t.worker.ingestBackendEvent asked (queueLag asked t.lagged)
      lagged := 0
      atTop := true }
    told.publish asked
  else
    match t.feed with
    | [] => t
    | event :: rest =>
      let told := { t with
        worker := t.worker.ingestBackendEvent asked event
        feed := rest
        atTop := true
        received := t.received ++ [event] }
      told.publish asked

def step [PublicMessage] (t : RegistrySystem) : RegistryEvent → RegistrySystem
  | .emit event => t.emit event
  | .reconcile state fresh => t.reconcile state fresh
  | .drain asked => if t.atTop then t.drain asked else t
  | .wake => { t with atTop := true }
  | .receive asked => if t.atTop then t else t.receive asked

def start (asked : Asked) : RegistrySystem := { worker := .start asked }

end RegistrySystem

end OpenAirCast.Diagnostics
