/-
Diagnostics.SupportDocument — the support export as a document,
from `diagnostics/export.rs`.

Every field is a number, a flag, a label or an alias. The document is given
to a JSON serializer as it stands.

Translation notes.

* `&'static str` is `String`, the unsigned types are `Nat`, `i64` is `Int`.
* The delays of a calibration keep the 64-bit words of `Backend.Calibration`.
-/
import Mathlib.Data.String.Basic
import OpenAirCast.Lib.Binary64
import OpenAirCast.Lib.SortedMap

namespace OpenAirCast.Diagnostics

/-- Stable schema name of the support export document. -/
def SUPPORT_EXPORT_SCHEMA : String := "openaircast.diagnostics.support-export"

def SUPPORT_EXPORT_SCHEMA_VERSION : Nat := 1

def SUPPORT_EXPORT_MEDIA_TYPE : String := "application/vnd.openaircast.diagnostics+json"

def SUPPORT_EXPORT_PRODUCT : String := "OpenAirCast"

/-- What the `accepted_local` counters mean. -/
def LOCAL_OS_UDP_ACCEPTANCE : String :=
  "accepted_local counts datagrams the local operating system "
    ++ "accepted; it is not receiver delivery and not packet loss"

/-- Identity classes the export drops. -/
def OMITTED_CLASSES : List String :=
  ["receiver_and_device_names", "receiver_and_device_identifiers", "network_addresses_and_ports",
    "file_system_paths_and_user_names",
    "free_form_error_and_protocol_text",
    "pairing_secrets_and_keys",
    "audio_payload_and_packet_bytes"]

/-! ## Aliases -/

/-- `{n:0width}`. -/
def zeroPadded (width n : Nat) : String :=
  let digits := toString n
  String.ofList (List.replicate (width - digits.length) '0') ++ digits

/-- Stands in for a receiver in one export. -/
structure ReceiverAlias where
  text : String

instance : LinearOrder ReceiverAlias :=
  LinearOrder.lift' (fun label => label.text) (by
    intro a b h
    cases a; cases b
    congr 1)

namespace ReceiverAlias

def numbered (position : Nat) : ReceiverAlias := ⟨"R-" ++ zeroPadded 3 position⟩

/-- For a receiver the alias walk did not reach. -/
def unresolved : ReceiverAlias := ⟨"R-unknown"⟩

end ReceiverAlias

/-- Stands in for a session in one export. -/
structure SessionAlias where
  text : String

namespace SessionAlias

def numbered (position : Nat) : SessionAlias := ⟨"S-" ++ zeroPadded 3 position⟩

def unresolved : SessionAlias := ⟨"S-unknown"⟩

end SessionAlias

/-! ## Build and configuration -/

/-- What the document says of its redaction. -/
structure RedactionDescriptor where
  policy : String
  unredactedModeAvailable : Bool
  receiverIdentity : String
  omitted : List String

structure SupportApplication where
  product : String
  version : String
  buildProfile : String
  platformOs : String
  platformArch : String
  windowsBuild : Option Nat
  processElapsedNs : Nat

structure SupportCalibration where
  referenceReceiverAlias : Option ReceiverAlias
  applyState : Option String
  minimumRequestedNs : Int64
  effectiveDelayNsByReceiver : SortedMap ReceiverAlias UInt64
  entriesOmittedForUnknownReceivers : Nat

structure SupportConfiguration where
  sampleRateHz : Nat
  channels : Nat
  frameSamplesPerChannel : Nat
  captureQueueCapacityFrames : Nat
  eventRingCapacity : Nat
  maxEventReadLimit : Nat
  requestedLatencyNotMeasured : Bool
  calibration : Option SupportCalibration

/-! ## The session -/

structure SupportSessionPhase where
  phase : String
  generation : Option Nat
  restartReason : Option String
  freeFormTextOmitted : Bool

structure SupportSenderBuffer where
  queuedFrames : Nat
  capacityFrames : Nat
  queuedSamplesPerChannel : Nat
  bufferedNs : Nat
  fillRatio : F64
  samplesWrittenTotal : Nat
  samplesReadTotal : Nat
  underrunEventsTotal : Nat

structure SupportCaptureQueue where
  queuedFrames : Nat
  capacityFrames : Nat
  submittedFramesTotal : Nat
  submittedSamplesPerChannelTotal : Nat
  fullQueueDropsTotal : Nat
  disconnectedDropsTotal : Nat

structure SupportScheduler where
  sampleCount : Nat
  lastSignedSchedulerDispatchJitterNs : Option Int
  meanAbsoluteSchedulerDispatchJitterNs : Option Nat
  p95AbsoluteSchedulerDispatchJitterNs : Option Nat
  maximumAbsoluteSchedulerDispatchJitterNs : Option Nat
  deadlineResetsTotal : Nat

structure SupportRetransmit where
  retransmitRequestDatagramsTotal : Nat
  retransmitPacketSlotsRequestedTotal : Nat
  retransmitDatagramsAcceptedLocalTotal : Nat
  retransmitHistoryMissesTotal : Nat
  retransmitSendFailuresTotal : Nat

structure SupportAudio where
  senderBuffer : SupportSenderBuffer
  captureQueue : SupportCaptureQueue
  scheduler : SupportScheduler
  rtpFramesPreparedTotal : Nat
  retransmit : SupportRetransmit
  targetCount : Nat

structure SupportSession where
  sessionAlias : SessionAlias
  startedElapsedNs : Nat
  finishedElapsedNs : Option Nat
  stopReason : Option String
  phase : Option SupportSessionPhase
  primaryReceiverAlias : Option ReceiverAlias
  memberReceiverAliases : List ReceiverAlias
  memberCount : Nat
  audio : Option SupportAudio

/-! ## A receiver -/

structure SupportLifecycle where
  state : String
  attempt : Option Nat
  role : Option String
  setupPhase : Option String
  retryable : Option Bool
  freeFormTextOmitted : Bool

structure SupportTiming where
  source : String
  sharedFromReceiverAlias : Option ReceiverAlias
  independentlyMeasured : Bool
  offsetLocalMinusMasterNs : Option Int
  meanPathDelayNs : Option Nat
  estimatedRelativeClockDriftPpm : Option F64
  sampleAgeNs : Option Nat
  stale : Bool

structure SupportTransport where
  dataDatagramsAttemptedTotal : Nat
  dataDatagramsAcceptedLocalTotal : Nat
  dataDatagramSendFailuresTotal : Nat
  dataBytesAcceptedLocalTotal : Nat
  syncDatagramsAttemptedTotal : Nat
  syncDatagramsAcceptedLocalTotal : Nat
  syncDatagramSendFailuresTotal : Nat
  syncBytesAcceptedLocalTotal : Nat
  retransmitSlotsRequestedTotal : Nat
  retransmitSlotsAcceptedLocalTotal : Nat
  recoveryDemandNumeratorSlots : Nat
  recoveryDemandDenominatorSharedFrames : Nat
  recoveryDemandRatio : Option F64
  localOsUdpAcceptance : String

structure SupportFeedback where
  attemptsTotal : Nat
  successesTotal : Nat
  protocolFailuresTotal : Nat
  transportFailuresTotal : Nat
  timeoutsTotal : Nat
  lastResult : Option String
  lastControlRequestDurationNs : Option Nat
  lastSuccessElapsedNs : Option Nat

/-- An error as its classification; the texts stay behind. -/
structure SupportError where
  code : String
  component : String
  severity : String
  recoverability : String
  operation : String
  receiverAlias : Option ReceiverAlias
  freeFormTextOmitted : Bool

structure SupportReceiver where
  receiverAlias : ReceiverAlias
  lifecycle : SupportLifecycle
  timing : SupportTiming
  transport : SupportTransport
  feedback : SupportFeedback
  lastError : Option SupportError

structure SupportSnapshot where
  snapshotSchemaVersion : Nat
  snapshotSequence : Nat
  capturedAtUtc : String
  processElapsedNs : Nat
  activeSessionAlias : Option SessionAlias
  health : String
  session : Option SupportSession
  /-- Ordered by alias. -/
  receivers : List SupportReceiver
  diagnosticsEventsDroppedTotal : Nat

/-! ## Events -/

structure SupportEventGap where
  requestedCursor : Nat
  resumedAtCursor : Nat
  overwrittenEvents : Nat

inductive SupportEventPayload where
  | backendMessage (freeFormTextOmitted : Bool)
  | discoveryGeneration (generation : Nat) (phase : String) (attempt : Option Nat)
  | discoveryReceiver (receiverAlias : ReceiverAlias) (present : Bool)
  | commandResult (failed freeFormTextOmitted : Bool)
  | commandCoalesced (superseded : Nat)
  | receiverTransition (receiverAlias : ReceiverAlias) (lifecycle : SupportLifecycle)
  | setupPhaseDuration (receiverAlias : ReceiverAlias) (phase : String) (durationNs : Nat)
  | sessionTransition (phase : SupportSessionPhase) (activeMembers : Nat)
  | sessionRestart (generation : Nat) (reason : String)
  | retry (receiverAlias : Option ReceiverAlias) (attempt : Nat)
  | captureTransition (state : String)
  | captureDrop (droppedFrames : Nat)
  | silenceBridge (durationNs : Nat)
  | probe (healthy : Bool) (controlRequestDurationMs : Nat)
  | persistence (outcome : String)
  | queueWatermark (depth capacity : Nat)
  | diagnosticFeedLag (droppedEvents : Nat)
  | workerShutdown (durationNs : Nat) (timedOut : Bool)
  | systemTransition (transition : String) (localBindingChanged : Option Bool)
  | clientEvent (receiverAlias : Option ReceiverAlias) (clientKind : String) (elapsedNs : Nat)
  | error (error : SupportError)
  | definiteCounterTransition (counter : String) (previousTotal currentTotal : Nat)
  | calibrationState (state : String)
  | exportState (state : String)

structure SupportEvent where
  cursor : Nat
  occurredAtUtc : String
  processElapsedNs : Nat
  sessionAlias : Option SessionAlias
  receiverAlias : Option ReceiverAlias
  severity : String
  component : String
  code : String
  payload : SupportEventPayload

/-! ## The document -/

structure SupportExportV1 where
  schema : String
  schemaVersion : Nat
  exportedAtUtc : String
  redaction : RedactionDescriptor
  application : SupportApplication
  configuration : SupportConfiguration
  latestSnapshot : SupportSnapshot
  eventsRetained : Nat
  producerDropsTotal : Nat
  eventGap : Option SupportEventGap
  events : List SupportEvent

/-- The finished export. -/
structure SupportExportArtifact where
  mediaType : String
  bytes : List UInt8

end OpenAirCast.Diagnostics
