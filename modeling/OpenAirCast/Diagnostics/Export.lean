/-
Diagnostics.Export — the support export and the copy summary,
from `diagnostics/export.rs`.

One walk over the snapshot and the events collects the receivers and sessions
that occur (`Identities`). The table gives each of them an alias, and the
converters copy field by field, with aliases for identities and labels for
enumerations.

Translation notes.

* The two sets that the walk extends in place are threaded as one value.
* `serde_json::to_vec_pretty` is an argument, `encode`: it gives the bytes
  of a document or fails.
-/
import OpenAirCast.Diagnostics.Session
import OpenAirCast.Diagnostics.SupportDocument
import OpenAirCast.Lib.Rekey

namespace OpenAirCast.Diagnostics

open Backend

/-! ## Input and context -/

/-- Everything one export reads out of the registry. -/
structure SupportExportInput where
  latestSnapshot : DiagnosticsSnapshot
  /-- Oldest first. -/
  retainedEvents : List DiagnosticEvent
  eventGap : Option EventGap
  producerDropsTotal : Nat

structure SupportAudioConfiguration where
  sampleRateHz : Nat
  channels : Nat
  frameSamplesPerChannel : Nat
  captureQueueCapacityFrames : Nat

structure SupportCalibrationContext where
  referenceReceiver : Option ReceiverId
  effective : EffectiveCalibration
  applyState : Option CalibrationApplyState

/-- What the registry does not own. -/
structure SupportExportContext where
  exportedAtUtc : SystemTime
  applicationVersion : String
  buildProfile : String
  platformOs : String
  platformArch : String
  windowsBuild : Option Nat
  audio : SupportAudioConfiguration
  calibration : Option SupportCalibrationContext

/-! ## The alias walk -/

/-- What the walk has met: receivers as a set, sessions in order. -/
structure Identities where
  receivers : Finset ReceiverId := ∅
  sessions : List SessionId := []

namespace Identities

def insertReceiver (ids : Identities) (receiver : ReceiverId) : Identities :=
  { ids with receivers := insert receiver ids.receivers }

def rememberSession (ids : Identities) (sessionId : SessionId) : Identities :=
  if sessionId ∈ ids.sessions then ids
  else { ids with sessions := ids.sessions ++ [sessionId] }

def collectTimingIdentities (source : ReceiverTimingSource) (ids : Identities) : Identities :=
  match source with
  | .ptpSharedFromPrimary (some primary) => ids.insertReceiver primary
  | .ptpSharedFromPrimary none
  | .unavailable
  | .senderReference
  | .ptpMeasuredAgainstThisMaster => ids

def collectErrorIdentities (error : DiagnosticError) (ids : Identities) : Identities :=
  match error.receiverSession with
  | some key => (ids.insertReceiver key.receiverId).rememberSession key.sessionId
  | none => ids

def collectRowIdentities (row : ReceiverDiagnosticsSnapshot) (ids : Identities) : Identities :=
  let ids := (ids.insertReceiver row.key.receiverId).rememberSession row.key.sessionId
  let ids := collectTimingIdentities row.timing.source ids
  match row.lastError with
  | some error => collectErrorIdentities error ids
  | none => ids

def collectSessionIdentities (session : SessionDiagnosticsSnapshot) (ids : Identities) :
    Identities :=
  let ids := ids.rememberSession session.sessionId
  let ids := match session.primary with
    | some primary => ids.insertReceiver primary
    | none => ids
  session.members.keys.foldl insertReceiver ids

def collectSnapshotIdentities (snapshot : DiagnosticsSnapshot) (ids : Identities) : Identities :=
  let ids := match snapshot.activeSessionId with
    | some sessionId => ids.rememberSession sessionId
    | none => ids
  let ids := match snapshot.session with
    | some session => collectSessionIdentities session ids
    | none => ids
  snapshot.receivers.foldl (fun ids row => collectRowIdentities row ids) ids

def collectBackendIdentities (payload : DiagnosticPayload) (ids : Identities) : Identities :=
  match payload with
  | .discoveryReceiver receiver _
  | .receiverTransition receiver _
  | .setupPhaseDuration receiver _ _
  | .retry (some receiver) _ _ => ids.insertReceiver receiver
  | .retry none _ _
  | .message _
  | .discoveryGeneration _ _
  | .commandResult _ _
  | .commandCoalesced _
  | .sessionTransition _ _
  | .sessionRestart _ _
  | .captureTransition _
  | .pcmDrop _
  | .silenceBridge _
  | .probe _ _
  | .persistence _
  | .queueWatermark _ _
  | .queueLag _
  | .workerShutdown _ _
  | .systemTransition _
  | .calibrationState _ => ids

def collectPayloadIdentities (payload : StructuredDiagnosticPayload) (ids : Identities) :
    Identities :=
  match payload with
  | .backend backend => collectBackendIdentities backend ids
  | .error error => collectErrorIdentities error ids
  -- a client event is keyed by a device, which the members resolve
  | .client _
  | .definiteCounterTransition _ _ _
  | .calibrationState _
  | .exportState _ => ids

def collectEventIdentities (event : DiagnosticEvent) (ids : Identities) : Identities :=
  let ids := match event.receiverSession with
    | some key => (ids.insertReceiver key.receiverId).rememberSession key.sessionId
    | none => ids
  collectPayloadIdentities event.payload ids

end Identities

/-! ## The alias table -/

/-- Aliases of one export. -/
structure AliasTable where
  receivers : SortedMap ReceiverId ReceiverAlias
  sessions : List (SessionId × SessionAlias)
  deviceToReceiver : SortedMap DeviceId ReceiverId

namespace AliasTable

def build (input : SupportExportInput) : AliasTable :=
  let ids := Identities.collectSnapshotIdentities input.latestSnapshot {}
  let ids := input.retainedEvents.foldl
    (fun ids event => Identities.collectEventIdentities event ids) ids
  { receivers := .collect ((sortedIds ids.receivers).mapIdx
      (fun index receiver => (receiver, ReceiverAlias.numbered (index + 1))))
    sessions := ids.sessions.mapIdx
      (fun index sessionId => (sessionId, SessionAlias.numbered (index + 1)))
    deviceToReceiver := match input.latestSnapshot.session with
      | some session => .collect (session.members.entries.map (fun member => (member.2, member.1)))
      | none => .empty }

variable (aliases : AliasTable)

def receiver (receiver : ReceiverId) : ReceiverAlias :=
  (aliases.receivers.get receiver).getD .unresolved

def session (sessionId : SessionId) : SessionAlias :=
  ((aliases.sessions.find? (fun known => known.1 == sessionId)).map (·.2)).getD .unresolved

/-- The alias of the member with this device. -/
def device (device : DeviceId) : Option ReceiverAlias :=
  (aliases.deviceToReceiver.get device).map aliases.receiver

def knows (receiver : ReceiverId) : Bool :=
  (aliases.receivers.get receiver).isSome

end AliasTable

/-! ## Labels -/

def healthLabel : Health → String
  | .unknown => "unknown"
  | .running => "running"
  | .attention => "attention"
  | .error => "error"

def severityLabel : DiagnosticSeverity → String
  | .info => "info"
  | .warning => "warning"
  | .error => "error"

def componentLabel : DiagnosticComponent → String
  | .discovery => "discovery"
  | .pairing => "pairing"
  | .rtsp => "rtsp"
  | .timing => "timing"
  | .capture => "capture"
  | .buffer => "buffer"
  | .encoder => "encoder"
  | .scheduler => "scheduler"
  | .udpTransport => "udp_transport"
  | .retransmit => "retransmit"
  | .feedback => "feedback"
  | .calibration => "calibration"
  | .exporting => "export"
  | .backend => "backend"

def errorCodeLabel : DiagnosticErrorCode → String
  | .discoveryFailure => "discovery_failure"
  | .pairingFailure => "pairing_failure"
  | .setupRejected => "setup_rejected"
  | .setupTimeout => "setup_timeout"
  | .eventChannelFailure => "event_channel_failure"
  | .ptpBindFallback => "ptp_bind_fallback"
  | .ptpSampleStale => "ptp_sample_stale"
  | .captureFailure => "capture_failure"
  | .captureQueueFull => "capture_queue_full"
  | .bufferUnderrun => "buffer_underrun"
  | .encodeFailure => "encode_failure"
  | .senderQueueDisconnected => "sender_queue_disconnected"
  | .udpSendFailure => "udp_send_failure"
  | .retransmitHistoryMiss => "retransmit_history_miss"
  | .feedbackFailure => "feedback_failure"
  | .feedbackTimeout => "feedback_timeout"
  | .teardownTimeout => "teardown_timeout"
  | .calibrationApplyFailure => "calibration_apply_failure"
  | .exportFailure => "export_failure"
  | .notice => "notice"

def recoverabilityLabel : Recoverability → String
  | .transient => "transient"
  | .automaticRetry => "automatic_retry"
  | .requiresSessionRestart => "requires_session_restart"
  | .userAction => "user_action"
  | .fatal => "fatal"

def stopReasonLabel : SessionStopReason → String
  | .stopped => "stopped"
  | .restarted => "restarted"
  | .failed => "failed"

def definiteCounterLabel : DefiniteCounterKind → String
  | .captureDrops => "capture_drops"
  | .bufferUnderruns => "buffer_underruns"
  | .udpSendFailures => "udp_send_failures"
  | .retransmitHistoryMisses => "retransmit_history_misses"

def calibrationApplyStateLabel : CalibrationApplyState → String
  | .pendingRestart => "pending_restart"
  | .applied => "applied"
  | .failed => "failed"

def exportStateLabel : ExportEventState → String
  | .started => "started"
  | .completed => "completed"
  | .failed => "failed"

def clientKindLabel : ClientDiagnosticKind → String
  | .feedback => "feedback"
  | .setupFailure => "setup_failure"
  | .runtimeWarning => "runtime_warning"

def feedbackResultLabel : FeedbackResultKind → String
  | .success => "success"
  | .protocolFailure => "protocol_failure"
  | .transportFailure => "transport_failure"
  | .timeout => "timeout"

/-- The label and the alias of the primary that a secondary derives from. -/
def timingSourceLabel (source : ReceiverTimingSource) (aliases : AliasTable) :
    String × Option ReceiverAlias :=
  match source with
  | .unavailable => ("not_measured", none)
  | .senderReference => ("sender_reference", none)
  | .ptpMeasuredAgainstThisMaster => ("ptp_measured_against_this_master", none)
  | .ptpSharedFromPrimary sourceReceiverId =>
    ("ptp_shared_from_primary", sourceReceiverId.map aliases.receiver)

def roleLabel : ReceiverRole → String
  | .single => "single"
  | .primary => "primary"
  | .secondary => "secondary"

def setupPhaseLabel : SetupPhase → String
  | .connect => "connect"
  | .pair => "pair"
  | .primaryTiming => "primary_timing"
  | .rtspSetup => "rtsp_setup"
  | .setPeers => "set_peers"
  | .buildSender => "build_sender"
  | .startAudio => "start_audio"

def restartReasonLabel : RestartReason → String
  | .membershipChange => "membership_change"
  | .savedGroupActivated => "saved_group_activated"
  | .secondaryRejoin => "secondary_rejoin"
  | .failedTargetRemoved => "failed_target_removed"
  | .primaryReplaced => "primary_replaced"
  | .receiverAddressChanged => "receiver_address_changed"
  | .localInterfaceChanged => "local_interface_changed"
  | .timingModeTransition => "timing_mode_transition"
  | .streamFormatChanged => "stream_format_changed"
  | .latencyPresetChanged => "latency_preset_changed"
  | .systemResume => "system_resume"
  | .deadRtspRecovered => "dead_rtsp_recovered"
  | .calibrationChanged => "calibration_changed"

def audioSourceStateLabel : AudioSourceState → String
  | .capturing => "capturing"
  | .silentSystem => "silent_system"
  | .recovering => "recovering"
  | .unavailable => "unavailable"
  | .failed => "failed"

def persistenceLabel : PersistenceSnapshot → String
  | .idle => "idle"
  | .healthy => "healthy"
  | .error => "error"

/-- The label and the attempt; the deadline is dropped. -/
def discoveryPhaseLabel : FullDiscoveryPhase → String × Option Nat
  | .stopped => ("stopped", none)
  | .running => ("running", none)
  | .retrying attempt _ => ("retrying", some attempt)

def systemTransitionLabel : SystemTransition → String × Option Bool
  | .suspending => ("suspending", none)
  | .resumed => ("resumed", none)
  | .networkChanged localBindingChanged => ("network_changed", some localBindingChanged)

def supportLifecycle (lifecycle : Lifecycle) : SupportLifecycle :=
  let empty : SupportLifecycle :=
    { state := "discovered"
      attempt := none
      role := none
      setupPhase := none
      retryable := none
      freeFormTextOmitted := false }
  match lifecycle with
  | .discovered => empty
  | .connecting attempt => { empty with state := "connecting", attempt := some attempt }
  | .settingUp role phase =>
    { empty with
      state := "setting_up"
      role := some (roleLabel role)
      setupPhase := some (setupPhaseLabel phase) }
  | .ready role => { empty with state := "ready", role := some (roleLabel role) }
  | .streaming role => { empty with state := "streaming", role := some (roleLabel role) }
  | .retryWaiting attempt _ => { empty with state := "retry_waiting", attempt := some attempt }
  | .unavailable => { empty with state := "unavailable" }
  | .failed retryable _ =>
    { empty with
      state := "failed"
      retryable := some retryable
      freeFormTextOmitted := true }

def supportSessionPhase (phase : FullPhase) : SupportSessionPhase :=
  let empty : SupportSessionPhase :=
    { phase := "stopped"
      generation := none
      restartReason := none
      freeFormTextOmitted := false }
  match phase with
  | .stopped => empty
  | .starting generation => { empty with phase := "starting", generation := some generation }
  | .streaming generation => { empty with phase := "streaming", generation := some generation }
  | .degraded generation => { empty with phase := "degraded", generation := some generation }
  | .restarting generation reason =>
    { empty with
      phase := "restarting"
      generation := some generation
      restartReason := some (restartReasonLabel reason) }
  | .stopping generation => { empty with phase := "stopping", generation := some generation }
  | .failed generation _ =>
    { empty with
      phase := "failed"
      generation := some generation
      freeFormTextOmitted := true }

/-! ## RFC 3339 -/

/-- Days since the epoch to a civil date. -/
def civilFromDays (days : Int) : Int × Nat × Nat :=
  let shifted := days + 719468
  let era := (if 0 ≤ shifted then shifted else shifted - 146096).tdiv 146097
  let dayOfEra := (shifted - era * 146097).toNat
  let yearOfEra := (dayOfEra - dayOfEra / 1460 + dayOfEra / 36524 - dayOfEra / 146096) / 365
  let year := (yearOfEra : Int) + era * 400
  let dayOfYear := dayOfEra - (365 * yearOfEra + yearOfEra / 4 - yearOfEra / 100)
  let monthPosition := (5 * dayOfYear + 2) / 153
  let day := dayOfYear - (153 * monthPosition + 2) / 5 + 1
  let month := if monthPosition < 10 then monthPosition + 3 else monthPosition - 9
  (if month ≤ 2 then year + 1 else year, month, day)

/-- `{n:0width}` of a signed number; the sign counts. -/
def zeroPaddedInt (width : Nat) (n : Int) : String :=
  if n < 0 then "-" ++ zeroPadded (width - 1) n.natAbs else zeroPadded width n.natAbs

/-- Whole seconds and the nanoseconds above them. -/
def secondsAndNanos (time : SystemTime) : Int × Nat :=
  let secs : Int := min (time.natAbs / 1000000000 : Nat) 9223372036854775807
  let nanos := time.natAbs % 1000000000
  if 0 ≤ time then (secs, nanos)
  else if nanos = 0 then (-secs, 0)
  else (-secs - 1, 1000000000 - nanos)

def rfc3339Utc (time : SystemTime) : String :=
  let seconds := (secondsAndNanos time).1
  let date := civilFromDays (seconds / 86400)
  let secondOfDay := (seconds % 86400).toNat
  zeroPaddedInt 4 date.1 ++ "-" ++ zeroPadded 2 date.2.1 ++ "-" ++ zeroPadded 2 date.2.2
    ++ "T" ++ zeroPadded 2 (secondOfDay / 3600)
    ++ ":" ++ zeroPadded 2 (secondOfDay % 3600 / 60)
    ++ ":" ++ zeroPadded 2 (secondOfDay % 60)
    ++ "." ++ zeroPadded 9 (secondsAndNanos time).2 ++ "Z"

example : rfc3339Utc 951782400000000000 = "2000-02-29T00:00:00.000000000Z" := by decide

/-- `duration_ns`. -/
def durationNs (duration : Nat) : Nat := min duration (2 ^ 64 - 1)

/-! ## Conversion -/

def supportCalibration (calibration : SupportCalibrationContext) (aliases : AliasTable) :
    SupportCalibration :=
  let delays : SortedMap ReceiverAlias UInt64 × Nat :=
    calibration.effective.effectiveDelayNs.entries.foldl (fun delays entry =>
      if aliases.knows entry.1 then
        (delays.1.insert (aliases.receiver entry.1) entry.2, delays.2)
      else (delays.1, delays.2 + 1)) (.empty, 0)
  { referenceReceiverAlias :=
      (calibration.referenceReceiver.filter aliases.knows).map aliases.receiver
    applyState := calibration.applyState.map calibrationApplyStateLabel
    minimumRequestedNs := calibration.effective.minimumRequestedNs
    effectiveDelayNsByReceiver := delays.1
    entriesOmittedForUnknownReceivers := delays.2 }

def supportAudio (audio : AudioDiagnosticsSnapshot) : SupportAudio where
  senderBuffer :=
    { queuedFrames := audio.senderBuffer.queuedFrames
      capacityFrames := audio.senderBuffer.capacityFrames
      queuedSamplesPerChannel := audio.senderBuffer.queuedSamplesPerChannel
      bufferedNs := audio.senderBuffer.bufferedNs
      fillRatio := .ofF32 audio.senderBuffer.fillRatio
      samplesWrittenTotal := audio.senderBuffer.samplesWrittenTotal
      samplesReadTotal := audio.senderBuffer.samplesReadTotal
      underrunEventsTotal := audio.senderBuffer.underrunEventsTotal }
  captureQueue :=
    { queuedFrames := audio.captureQueue.queuedFrames
      capacityFrames := audio.captureQueue.capacityFrames
      submittedFramesTotal := audio.captureQueue.submittedFramesTotal
      submittedSamplesPerChannelTotal := audio.captureQueue.submittedSamplesPerChannelTotal
      fullQueueDropsTotal := audio.captureQueue.fullQueueDropsTotal
      disconnectedDropsTotal := audio.captureQueue.disconnectedDropsTotal }
  scheduler :=
    { sampleCount := audio.scheduler.sampleCount
      lastSignedSchedulerDispatchJitterNs := audio.scheduler.lastSignedJitterNs
      meanAbsoluteSchedulerDispatchJitterNs := audio.scheduler.meanAbsoluteJitterNs
      p95AbsoluteSchedulerDispatchJitterNs := audio.scheduler.p95AbsoluteJitterNs
      maximumAbsoluteSchedulerDispatchJitterNs := audio.scheduler.maximumAbsoluteJitterNs
      deadlineResetsTotal := audio.scheduler.deadlineResetsTotal }
  rtpFramesPreparedTotal := audio.rtpFramesPreparedTotal
  retransmit :=
    { retransmitRequestDatagramsTotal := audio.retransmit.retransmitRequestDatagramsTotal
      retransmitPacketSlotsRequestedTotal := audio.retransmit.retransmitPacketSlotsRequestedTotal
      retransmitDatagramsAcceptedLocalTotal :=
        audio.retransmit.retransmitDatagramsAcceptedLocalTotal
      retransmitHistoryMissesTotal := audio.retransmit.retransmitHistoryMissesTotal
      retransmitSendFailuresTotal := audio.retransmit.retransmitSendFailuresTotal }
  targetCount := audio.targets.length

def supportSession (session : SessionDiagnosticsSnapshot) (aliases : AliasTable) :
    SupportSession where
  sessionAlias := aliases.session session.sessionId
  startedElapsedNs := session.startedElapsedNs
  finishedElapsedNs := session.finishedElapsedNs
  stopReason := session.stopReason.map stopReasonLabel
  phase := session.phase.map supportSessionPhase
  primaryReceiverAlias := session.primary.map aliases.receiver
  memberReceiverAliases := session.members.keys.map aliases.receiver
  memberCount := session.members.entries.length
  audio := session.audio.map supportAudio

def supportTiming (timing : ReceiverTimingSnapshot) (aliases : AliasTable) : SupportTiming where
  source := (timingSourceLabel timing.source aliases).1
  sharedFromReceiverAlias := (timingSourceLabel timing.source aliases).2
  independentlyMeasured := timing.independentlyMeasured
  offsetLocalMinusMasterNs := timing.offsetLocalMinusMasterNs
  meanPathDelayNs := timing.meanPathDelayNs
  estimatedRelativeClockDriftPpm := timing.driftPpm
  sampleAgeNs := timing.sampleAgeNs
  stale := timing.stale

def supportTransport (transport : ReceiverTransportSnapshot) : SupportTransport where
  dataDatagramsAttemptedTotal := transport.dataDatagramsAttemptedTotal
  dataDatagramsAcceptedLocalTotal := transport.dataDatagramsAcceptedLocalTotal
  dataDatagramSendFailuresTotal := transport.dataDatagramSendFailuresTotal
  dataBytesAcceptedLocalTotal := transport.dataBytesAcceptedLocalTotal
  syncDatagramsAttemptedTotal := transport.syncDatagramsAttemptedTotal
  syncDatagramsAcceptedLocalTotal := transport.syncDatagramsAcceptedLocalTotal
  syncDatagramSendFailuresTotal := transport.syncDatagramSendFailuresTotal
  syncBytesAcceptedLocalTotal := transport.syncBytesAcceptedLocalTotal
  retransmitSlotsRequestedTotal := transport.retransmitSlotsRequestedTotal
  retransmitSlotsAcceptedLocalTotal := transport.retransmitSlotsAcceptedLocalTotal
  recoveryDemandNumeratorSlots := transport.recoveryDemandNumeratorSlots
  recoveryDemandDenominatorSharedFrames := transport.recoveryDemandDenominatorSharedFrames
  recoveryDemandRatio := transport.recoveryDemandRatio
  localOsUdpAcceptance := LOCAL_OS_UDP_ACCEPTANCE

def supportFeedback (feedback : FeedbackSnapshot) : SupportFeedback where
  attemptsTotal := feedback.attemptsTotal
  successesTotal := feedback.successesTotal
  protocolFailuresTotal := feedback.protocolFailuresTotal
  transportFailuresTotal := feedback.transportFailuresTotal
  timeoutsTotal := feedback.timeoutsTotal
  lastResult := feedback.lastResult.map feedbackResultLabel
  lastControlRequestDurationNs := feedback.lastTransactionDurationNs
  lastSuccessElapsedNs := feedback.lastSuccessElapsedNs

def supportError (error : DiagnosticError) (aliases : AliasTable) : SupportError where
  code := errorCodeLabel error.code
  component := componentLabel error.component
  severity := severityLabel error.severity
  recoverability := recoverabilityLabel error.recoverability
  operation := error.operation
  receiverAlias := error.receiverSession.map (fun key => aliases.receiver key.receiverId)
  freeFormTextOmitted := true

def supportReceiver (row : ReceiverDiagnosticsSnapshot) (aliases : AliasTable) :
    SupportReceiver where
  receiverAlias := aliases.receiver row.key.receiverId
  lifecycle := supportLifecycle row.lifecycle
  timing := supportTiming row.timing aliases
  transport := supportTransport row.transport
  feedback := supportFeedback row.feedback
  lastError := row.lastError.map (supportError · aliases)

def supportSnapshot (snapshot : DiagnosticsSnapshot) (aliases : AliasTable) : SupportSnapshot where
  snapshotSchemaVersion := snapshot.schemaVersion
  snapshotSequence := snapshot.snapshotSequence
  capturedAtUtc := rfc3339Utc snapshot.capturedAtUtc
  processElapsedNs := snapshot.processElapsedNs
  activeSessionAlias := snapshot.activeSessionId.map aliases.session
  health := healthLabel snapshot.health
  session := snapshot.session.map (supportSession · aliases)
  receivers := (snapshot.receivers.map (supportReceiver · aliases)).insertionSort
    (fun left right => left.receiverAlias ≤ right.receiverAlias)
  diagnosticsEventsDroppedTotal := snapshot.diagnosticsEventsDroppedTotal

def supportBackendPayload (payload : DiagnosticPayload) (aliases : AliasTable) :
    SupportEventPayload :=
  match payload with
  | .message _ => .backendMessage true
  | .discoveryGeneration generation phase =>
    .discoveryGeneration generation (discoveryPhaseLabel phase).1 (discoveryPhaseLabel phase).2
  | .discoveryReceiver receiver present => .discoveryReceiver (aliases.receiver receiver) present
  | .commandResult _ error => .commandResult error.isSome error.isSome
  | .commandCoalesced dropped => .commandCoalesced dropped
  | .receiverTransition receiver destination =>
    .receiverTransition (aliases.receiver receiver) (supportLifecycle destination)
  | .setupPhaseDuration receiver phase duration =>
    .setupPhaseDuration (aliases.receiver receiver) (setupPhaseLabel phase) (durationNs duration)
  | .sessionTransition phase activeMembers =>
    .sessionTransition (supportSessionPhase phase) activeMembers
  | .sessionRestart generation reason => .sessionRestart generation (restartReasonLabel reason)
  | .retry receiver attempt _ => .retry (receiver.map aliases.receiver) attempt
  | .captureTransition state => .captureTransition (audioSourceStateLabel state)
  | .pcmDrop dropped => .captureDrop dropped
  | .silenceBridge duration => .silenceBridge (durationNs duration)
  | .probe healthy latencyMs => .probe healthy latencyMs
  | .persistence outcome => .persistence (persistenceLabel outcome)
  | .queueWatermark depth capacity => .queueWatermark depth capacity
  | .queueLag dropped => .diagnosticFeedLag dropped
  | .workerShutdown duration timedOut => .workerShutdown (durationNs duration) timedOut
  | .systemTransition transition =>
    .systemTransition (systemTransitionLabel transition).1 (systemTransitionLabel transition).2
  | .calibrationState state => .calibrationState (calibrationApplyStateLabel state)

def supportPayload (payload : StructuredDiagnosticPayload) (aliases : AliasTable) :
    SupportEventPayload :=
  match payload with
  | .backend backend => supportBackendPayload backend aliases
  | .client event =>
    .clientEvent (event.deviceId.bind aliases.device) (clientKindLabel event.kind) event.elapsedNs
  | .error error => .error (supportError error aliases)
  | .definiteCounterTransition counter previousTotal currentTotal =>
    .definiteCounterTransition (definiteCounterLabel counter) previousTotal currentTotal
  | .calibrationState state => .calibrationState (calibrationApplyStateLabel state)
  | .exportState state => .exportState (exportStateLabel state)

def supportEvent (event : DiagnosticEvent) (aliases : AliasTable) : SupportEvent where
  cursor := event.cursor
  occurredAtUtc := rfc3339Utc event.occurredAtUtc
  processElapsedNs := event.processElapsedNs
  sessionAlias := event.receiverSession.map (fun key => aliases.session key.sessionId)
  receiverAlias := event.receiverSession.map (fun key => aliases.receiver key.receiverId)
  severity := severityLabel event.severity
  component := componentLabel event.component
  code := errorCodeLabel event.code
  payload := supportPayload event.payload aliases

/-! ## Entry points -/

variable (input : SupportExportInput)

/-- The document `build_support_export` serializes. -/
def supportDocument (context : SupportExportContext) :
    SupportExportV1 :=
  let aliases := AliasTable.build input
  { schema := SUPPORT_EXPORT_SCHEMA
    schemaVersion := SUPPORT_EXPORT_SCHEMA_VERSION
    exportedAtUtc := rfc3339Utc context.exportedAtUtc
    redaction :=
      { policy := "allow_list"
        unredactedModeAvailable := false
        receiverIdentity := "per_export_alias"
        omitted := OMITTED_CLASSES }
    application :=
      { product := SUPPORT_EXPORT_PRODUCT
        version := context.applicationVersion
        buildProfile := context.buildProfile
        platformOs := context.platformOs
        platformArch := context.platformArch
        windowsBuild := context.windowsBuild
        processElapsedNs := input.latestSnapshot.processElapsedNs }
    configuration :=
      { sampleRateHz := context.audio.sampleRateHz
        channels := context.audio.channels
        frameSamplesPerChannel := context.audio.frameSamplesPerChannel
        captureQueueCapacityFrames := context.audio.captureQueueCapacityFrames
        eventRingCapacity := EVENT_RING_CAPACITY
        maxEventReadLimit := MAX_EVENT_READ_LIMIT
        requestedLatencyNotMeasured := true
        calibration := context.calibration.map (supportCalibration · aliases) }
    latestSnapshot := supportSnapshot input.latestSnapshot aliases
    eventsRetained := input.retainedEvents.length
    producerDropsTotal := input.producerDropsTotal
    eventGap := input.eventGap.map (fun gap =>
      { requestedCursor := gap.requestedCursor
        resumedAtCursor := gap.resumedAtCursor
        overwrittenEvents := gap.overwrittenEvents })
    events := input.retainedEvents.map (supportEvent · aliases) }

def buildSupportExport (encode : SupportExportV1 → Option (List UInt8))
    (input : SupportExportInput) (context : SupportExportContext) :
    Except DiagnosticError SupportExportArtifact :=
  match encode (supportDocument input context) with
  | some bytes => .ok { mediaType := SUPPORT_EXPORT_MEDIA_TYPE, bytes := bytes }
  | none => .error
      { code := .exportFailure
        component := .exporting
        severity := .error
        recoverability := .userAction
        operation := "support_export_encode"
        receiverSession := none
        publicMessage := "the diagnostics export could not be encoded"
        technicalDetail := none }

/-- The line of a receiver, and one for its error. -/
def summaryRow (row : SupportReceiver) : String :=
  let offset := (row.timing.offsetLocalMinusMasterNs.map toString).getD "not measured"
  let line := "  " ++ row.receiverAlias.text ++ " " ++ row.lifecycle.state ++ " timing "
    ++ row.timing.source ++ " offset_local_minus_master_ns " ++ offset
    ++ " udp send failures " ++ toString row.transport.dataDatagramSendFailuresTotal ++ "\n"
  match row.lastError with
  | some error =>
    line ++ "    last error " ++ error.code ++ " in " ++ error.component
      ++ " (" ++ error.recoverability ++ ")\n"
  | none => line

def summarySession : Option SupportSession → String
  | some session =>
    "session " ++ session.sessionAlias.text ++ ": phase "
      ++ (session.phase.map (·.phase)).getD "not reported" ++ ", "
      ++ toString session.memberCount ++ " receivers\n"
  | none => "session: none\n"

def buildSupportSummary : String :=
  let aliases := AliasTable.build input
  let snapshot := supportSnapshot input.latestSnapshot aliases
  "OpenAirCast diagnostics summary\n"
    ++ "schema " ++ SUPPORT_EXPORT_SCHEMA ++ " v" ++ toString SUPPORT_EXPORT_SCHEMA_VERSION
    ++ "\n"
    ++ "captured at " ++ snapshot.capturedAtUtc ++ "\n"
    ++ "health: " ++ snapshot.health ++ "\n"
    ++ summarySession snapshot.session
    ++ "receivers:\n"
    ++ (if snapshot.receivers.isEmpty then "  none observed\n" else "")
    ++ String.join (snapshot.receivers.map summaryRow)
    ++ "events retained: " ++ toString input.retainedEvents.length ++ "\n"
    ++ (match input.eventGap with
      | some gap =>
        "events overwritten before this read: " ++ toString gap.overwrittenEvents ++ "\n"
      | none => "")
    ++ "diagnostic events dropped by producer lag: " ++ toString input.producerDropsTotal ++ "\n"
    ++ "redaction: allow list -- no names, addresses, paths, identifiers, or keys are included\n"

end OpenAirCast.Diagnostics
