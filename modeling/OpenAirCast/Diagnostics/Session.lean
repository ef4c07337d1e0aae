/-
Diagnostics.Session — sessions as the diagnostics know them,
from `diagnostics/snapshot.rs`.

The tracker turns what the backend says of its session
(`SessionDiagnosticsState`) into commands for the registry; its gate is the
generation. The registry publishes a `DiagnosticsSnapshot`.

Translation notes.

* A registration's `source` is a handle; what the client behind it answers
  is input to the registry's worker.
* `SessionId::generate` is an argument, `fresh`.
* What `reconcile` sends to the registry it returns.
-/
import OpenAirCast.Diagnostics.Snapshot
import OpenAirCast.Diagnostics.Client

namespace OpenAirCast.Diagnostics

open Backend

def DIAGNOSTICS_SNAPSHOT_SCHEMA_VERSION : Nat := 1

/-- The badge. -/
inductive Health where
  | unknown
  | running
  | attention
  | error
  deriving DecidableEq

inductive SessionStopReason where
  | stopped
  | restarted
  | failed

structure SessionRegistration where
  sessionId : SessionId
  startedElapsedNs : Nat
  primary : Option ReceiverId
  members : SortedMap ReceiverId DeviceId
  source : Nat

/-- What the registry is told. -/
inductive Command where
  | register (registration : SessionRegistration)
  | finish (sessionId : SessionId) (reason : SessionStopReason)

/-! ## The tracker -/

/-- What the backend says of its session. -/
inductive SessionDiagnosticsState where
  | inactive (generation : Nat) (reason : SessionStopReason)
  | active (generation startedElapsedNs : Nat) (primary : Option ReceiverId)
      (members : SortedMap ReceiverId DeviceId) (source : Nat)

structure DiagnosticsSessionTracker where
  newestGeneration : Nat := 0
  newestIsInactive : Bool := false
  active : Option (Nat × SessionId) := none

namespace DiagnosticsSessionTracker

def reconcile (tracker : DiagnosticsSessionTracker) (fresh : SessionId) :
    SessionDiagnosticsState → DiagnosticsSessionTracker × List Command
  | .inactive generation reason =>
    if generation < tracker.newestGeneration then (tracker, [])
    else
      let tracker := { tracker with
        newestGeneration := generation
        newestIsInactive := true }
      match tracker.active with
      | some (activeGeneration, sessionId) =>
        if activeGeneration ≤ generation then
          ({ tracker with active := none }, [.finish sessionId reason])
        else (tracker, [])
      | none => (tracker, [])
  | .active generation startedElapsedNs primary members source =>
    if generation < tracker.newestGeneration
        ∨ (generation = tracker.newestGeneration ∧ tracker.newestIsInactive = true)
        ∨ tracker.active.any (fun active => active.1 == generation) = true then (tracker, [])
    else
      let finished := match tracker.active with
        | some (_, sessionId) => [.finish sessionId .restarted]
        | none => []
      (⟨generation, false, some (generation, fresh)⟩,
        finished ++ [.register ⟨fresh, startedElapsedNs, primary, members, source⟩])

end DiagnosticsSessionTracker

/-! ## The snapshot -/

/-- Where a receiver's timing comes from. -/
inductive ReceiverTimingSource where
  | unavailable
  | senderReference
  | ptpMeasuredAgainstThisMaster
  | ptpSharedFromPrimary (sourceReceiverId : Option ReceiverId)

structure ReceiverTimingSnapshot where
  source : ReceiverTimingSource
  independentlyMeasured : Bool := false
  offsetLocalMinusMasterNs : Option Int := none
  meanPathDelayNs : Option Nat := none
  driftPpm : Option F64 := none
  sampleAgeNs : Option Nat := none
  stale : Bool := false

structure ReceiverTransportSnapshot where
  dataDatagramsAttemptedTotal : Nat := 0
  dataDatagramsAcceptedLocalTotal : Nat := 0
  dataDatagramSendFailuresTotal : Nat := 0
  dataBytesAcceptedLocalTotal : Nat := 0
  syncDatagramsAttemptedTotal : Nat := 0
  syncDatagramsAcceptedLocalTotal : Nat := 0
  syncDatagramSendFailuresTotal : Nat := 0
  syncBytesAcceptedLocalTotal : Nat := 0
  retransmitSlotsRequestedTotal : Nat := 0
  retransmitSlotsAcceptedLocalTotal : Nat := 0
  recoveryDemandNumeratorSlots : Nat := 0
  recoveryDemandDenominatorSharedFrames : Nat := 0
  /-- Not there while the denominator is zero. -/
  recoveryDemandRatio : Option F64 := none

structure SessionDiagnosticsSnapshot where
  sessionId : SessionId
  startedElapsedNs : Nat
  finishedElapsedNs : Option Nat := none
  stopReason : Option SessionStopReason := none
  /-- The phase the backend announced last. -/
  phase : Option FullPhase := none
  primary : Option ReceiverId := none
  members : SortedMap ReceiverId DeviceId := .empty
  audio : Option AudioDiagnosticsSnapshot := none

structure ReceiverDiagnosticsSnapshot where
  key : ReceiverSessionKey
  lifecycle : Lifecycle
  timing : ReceiverTimingSnapshot
  transport : ReceiverTransportSnapshot := {}
  feedback : FeedbackSnapshot := {}
  lastError : Option DiagnosticError := none

/-- What is published. -/
structure DiagnosticsSnapshot where
  schemaVersion : Nat := DIAGNOSTICS_SNAPSHOT_SCHEMA_VERSION
  snapshotSequence : Nat := 0
  capturedAtUtc : SystemTime
  processElapsedNs : Nat
  activeSessionId : Option SessionId := none
  health : Health := .unknown
  session : Option SessionDiagnosticsSnapshot := none
  receivers : List ReceiverDiagnosticsSnapshot := []
  diagnosticsEventsDroppedTotal : Nat := 0

end OpenAirCast.Diagnostics
