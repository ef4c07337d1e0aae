/-
Diagnostics.Client — what the transport client says of itself,
from the diagnostics of `airplay-client`, `airplay-audio` and
`airplay-timing`.

Translation notes.

* Unsigned counters and stamps are `Nat`, an `i64` is an `Int`.
* Left out is what neither the registry nor the export reads: the states of
  a connection, the sequence of a measurement.
-/
import OpenAirCast.Backend.Published
import OpenAirCast.Lib.Binary64

namespace OpenAirCast.Diagnostics

open Backend

/-! ## Feedback -/

inductive FeedbackResultKind where
  | success
  | protocolFailure
  | transportFailure
  | timeout

structure FeedbackSnapshot where
  attemptsTotal : Nat := 0
  successesTotal : Nat := 0
  protocolFailuresTotal : Nat := 0
  transportFailuresTotal : Nat := 0
  timeoutsTotal : Nat := 0
  lastResult : Option FeedbackResultKind := none
  lastTransactionDurationNs : Option Nat := none
  lastSuccessElapsedNs : Option Nat := none

/-! ## Errors and timing -/

inductive ClientDiagnosticErrorKind where
  | protocolFailure
  | transportFailure
  | timeout
  | other

structure ClientDiagnosticError where
  kind : ClientDiagnosticErrorKind
  publicMessage : String

inductive ClientTimingRole where
  | single
  | ptpPrimary
  | ptpSecondary

structure TimingMeasurement where
  offsetLocalMinusMasterNs : Int
  meanPathDelayNs : Nat

structure TimingDiagnosticsSnapshot where
  latest : Option TimingMeasurement := none
  sampleAgeNs : Option Nat := none
  stale : Bool := false
  /-- `drift.drift_ppm`. -/
  driftPpm : Option F64 := none

/-! ## Audio -/

structure TargetTransportSnapshot where
  dataDatagramsAttemptedTotal : Nat := 0
  dataDatagramsAcceptedLocalTotal : Nat := 0
  dataSendFailuresTotal : Nat := 0
  dataBytesSentTotal : Nat := 0
  syncDatagramsAttemptedTotal : Nat := 0
  syncDatagramsAcceptedLocalTotal : Nat := 0
  syncSendFailuresTotal : Nat := 0
  syncBytesSentTotal : Nat := 0
  deriving DecidableEq

structure RetransmitSnapshot where
  retransmitRequestDatagramsTotal : Nat := 0
  retransmitPacketSlotsRequestedTotal : Nat := 0
  retransmitDatagramsAcceptedLocalTotal : Nat := 0
  retransmitHistoryMissesTotal : Nat := 0
  retransmitSendFailuresTotal : Nat := 0

structure SenderBufferSnapshot where
  queuedFrames : Nat := 0
  capacityFrames : Nat := 0
  queuedSamplesPerChannel : Nat := 0
  bufferedNs : Nat := 0
  fillRatio : F32 := .zero
  samplesWrittenTotal : Nat := 0
  samplesReadTotal : Nat := 0
  underrunEventsTotal : Nat := 0

structure CaptureQueueSnapshot where
  queuedFrames : Nat := 0
  capacityFrames : Nat := 0
  submittedFramesTotal : Nat := 0
  submittedSamplesPerChannelTotal : Nat := 0
  fullQueueDropsTotal : Nat := 0
  disconnectedDropsTotal : Nat := 0

structure SchedulerJitterSnapshot where
  sampleCount : Nat := 0
  lastSignedJitterNs : Option Int := none
  meanAbsoluteJitterNs : Option Nat := none
  p95AbsoluteJitterNs : Option Nat := none
  maximumAbsoluteJitterNs : Option Nat := none
  deadlineResetsTotal : Nat := 0

structure AudioDiagnosticsSnapshot where
  senderBuffer : SenderBufferSnapshot := {}
  captureQueue : CaptureQueueSnapshot := {}
  scheduler : SchedulerJitterSnapshot := {}
  rtpFramesPreparedTotal : Nat := 0
  targets : List TargetTransportSnapshot := []
  retransmit : RetransmitSnapshot := {}

/-! ## The client -/

/-- One receiver's connection. -/
structure ConnectionDiagnosticsSnapshot where
  deviceId : DeviceId
  senderTargetIndex : Option Nat := none
  timingRole : ClientTimingRole := .single
  timing : TimingDiagnosticsSnapshot := {}
  transport : TargetTransportSnapshot := {}
  retransmit : RetransmitSnapshot := {}
  feedback : FeedbackSnapshot := {}
  lastError : Option ClientDiagnosticError := none

structure ClientDiagnosticsSnapshot where
  audio : Option AudioDiagnosticsSnapshot := none
  connections : List ConnectionDiagnosticsSnapshot := []
  clientEventsDroppedTotal : Nat := 0

end OpenAirCast.Diagnostics
