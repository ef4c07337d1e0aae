/-
Diagnostics.Snapshot — diagnostic events, from
`diagnostics/snapshot.rs`, `backend/event.rs` and `airplay-client`.

`DiagnosticPayload` is what the backend announces on its feed,
`ClientDiagnosticEvent` what the transport client reports, and
`StructuredDiagnosticPayload` wraps either for the ring.

Translation notes.

* A `Duration` is nanoseconds, a `SystemTime` nanoseconds from the Unix epoch,
  negative before it. A retry deadline is an `Instant` of `Backend.Recovery`.
* A `ReceiverId` and a client `DeviceId` are one type, as in `Backend.Model`.
* `SessionId` wraps a random UUID; only equality of two is ever asked.
* An `EventCursor` is the `u64` it wraps, a number below 2^64.
-/
import OpenAirCast.Backend.Published

namespace OpenAirCast.Diagnostics

open Backend

abbrev SystemTime := Int

/-- Most events the ring retains. -/
def EVENT_RING_CAPACITY : Nat := 4096

/-- Most events one read returns. -/
def MAX_EVENT_READ_LIMIT : Nat := 512

structure SessionId where
  uuid : BitVec 128
  deriving DecidableEq

/-- Every in-session observation is keyed by this pair. -/
structure ReceiverSessionKey where
  sessionId : SessionId
  receiverId : ReceiverId
  deriving DecidableEq

/-! ## The backend's feed -/

inductive Severity where
  | info
  | warning
  | error

inductive DiagnosticCategory where
  | general
  | discovery
  | command
  | receiver
  | session
  | retry
  | capture
  | probe
  | persistence
  | queue
  | worker

inductive SystemTransition where
  | suspending
  | resumed
  | networkChanged (localBindingChanged : Bool)
  deriving DecidableEq

inductive CalibrationApplyState where
  | pendingRestart
  | applied
  | failed
  deriving DecidableEq

/-- What one event of the backend's feed says. -/
inductive DiagnosticPayload where
  | message (text : String)
  | discoveryGeneration (generation : Nat) (phase : FullDiscoveryPhase)
  | discoveryReceiver (receiver : ReceiverId) (present : Bool)
  | commandResult (id : Nat) (error : Option String)
  | commandCoalesced (dropped : Nat)
  | receiverTransition (receiver : ReceiverId) (destination : Lifecycle)
  | setupPhaseDuration (receiver : ReceiverId) (phase : SetupPhase) (duration : Nat)
  | sessionTransition (phase : FullPhase) (activeMembers : Nat)
  | sessionRestart (generation : Nat) (reason : RestartReason)
  | retry (receiver : Option ReceiverId) (attempt : Nat) (nextAt : Instant)
  | captureTransition (state : AudioSourceState)
  | pcmDrop (dropped : Nat)
  | silenceBridge (duration : Nat)
  | probe (healthy : Bool) (latencyMs : Nat)
  | persistence (outcome : PersistenceSnapshot)
  | queueWatermark (depth capacity : Nat)
  | queueLag (dropped : Nat)
  | workerShutdown (duration : Nat) (timedOut : Bool)
  | systemTransition (transition : SystemTransition)
  | calibrationState (state : CalibrationApplyState)
  deriving DecidableEq

/-- One event of the backend's feed. -/
structure FeedEvent where
  monotonicNs : Nat
  wallTime : SystemTime
  sessionGeneration : Nat
  discoveryGeneration : Nat
  captureGeneration : Nat
  receiver : Option ReceiverId
  severity : Severity
  category : DiagnosticCategory
  payload : DiagnosticPayload

/-! ## The client's feed -/

inductive ClientDiagnosticKind where
  | feedback
  | setupFailure
  | runtimeWarning
  deriving DecidableEq

structure ClientDiagnosticEvent where
  elapsedNs : Nat
  seq : Nat
  deviceId : Option DeviceId
  kind : ClientDiagnosticKind
  deriving DecidableEq

/-! ## The ring's events -/

inductive DiagnosticSeverity where
  | info
  | warning
  | error
  deriving DecidableEq

inductive DiagnosticComponent where
  | discovery
  | pairing
  | rtsp
  | timing
  | capture
  | buffer
  | encoder
  | scheduler
  | udpTransport
  | retransmit
  | feedback
  | calibration
  | exporting
  | backend
  deriving DecidableEq

inductive Recoverability where
  | transient
  | automaticRetry
  | requiresSessionRestart
  | userAction
  | fatal
  deriving DecidableEq

inductive DiagnosticErrorCode where
  | discoveryFailure
  | pairingFailure
  | setupRejected
  | setupTimeout
  | eventChannelFailure
  | ptpBindFallback
  | ptpSampleStale
  | captureFailure
  | captureQueueFull
  | bufferUnderrun
  | encodeFailure
  | senderQueueDisconnected
  | udpSendFailure
  | retransmitHistoryMiss
  | feedbackFailure
  | feedbackTimeout
  | teardownTimeout
  | calibrationApplyFailure
  | exportFailure
  | notice
  deriving DecidableEq

structure DiagnosticError where
  code : DiagnosticErrorCode
  component : DiagnosticComponent
  severity : DiagnosticSeverity
  recoverability : Recoverability
  operation : String
  receiverSession : Option ReceiverSessionKey
  publicMessage : String
  technicalDetail : Option String
  deriving DecidableEq

inductive DefiniteCounterKind where
  | captureDrops
  | bufferUnderruns
  | udpSendFailures
  | retransmitHistoryMisses
  deriving DecidableEq

inductive ExportEventState where
  | started
  | completed
  | failed
  deriving DecidableEq

inductive StructuredDiagnosticPayload where
  | backend (payload : DiagnosticPayload)
  | client (event : ClientDiagnosticEvent)
  | error (error : DiagnosticError)
  | definiteCounterTransition (counter : DefiniteCounterKind) (previousTotal currentTotal : Nat)
  | calibrationState (state : CalibrationApplyState)
  | exportState (state : ExportEventState)
  deriving DecidableEq

/-- An event as producers submit it. -/
structure DiagnosticEventDraft where
  occurredAtUtc : SystemTime
  processElapsedNs : Nat
  receiverSession : Option ReceiverSessionKey
  severity : DiagnosticSeverity
  component : DiagnosticComponent
  code : DiagnosticErrorCode
  publicMessage : String
  payload : StructuredDiagnosticPayload

/-- One retained event. -/
structure DiagnosticEvent where
  cursor : Nat
  occurredAtUtc : SystemTime
  processElapsedNs : Nat
  receiverSession : Option ReceiverSessionKey
  severity : DiagnosticSeverity
  component : DiagnosticComponent
  code : DiagnosticErrorCode
  publicMessage : String
  payload : StructuredDiagnosticPayload
  deriving DecidableEq

/-- What was overwritten between two cursors. -/
structure EventGap where
  requestedCursor : Nat
  resumedAtCursor : Nat
  overwrittenEvents : Nat

/-- What one read returns. -/
structure EventBatch where
  events : List DiagnosticEvent
  nextCursor : Nat
  oldestAvailableCursor : Nat
  gap : Option EventGap

end OpenAirCast.Diagnostics
