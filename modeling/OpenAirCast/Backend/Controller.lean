/-
Backend.Controller — the device backend's controller actor,
from `backend/controller.rs` with the snapshot of `backend/model.rs`.

One task owns the durable document, the published snapshot, the receiver
machines and the retry bookkeeping. This module has its state and what
every event shares: rows, publication, the durable transaction, the
reconciliation of the session and the platform edges. The commands are in
`Backend.ProcessBatch`, the other events and the loop in
`Backend.ControllerLoop`. What the actor sends to others on the way is
`out`, first to last: publications, requests to the session supervisor,
answers to confirmed commands, events.

Translation notes.

* `Ports` is what the surroundings answer during one pass: the clocks and,
  by command id, whether a save succeeds, which identity a new group gets
  and whether the listening tone starts. One reading of the clocks serves
  a whole pass.
* `attempts` is every write the store was asked for, with its answer. Nothing
  the actor does reads it.
* A snapshot revision past `u64::MAX` panics. Here the revision goes on,
  and a state with `crashed` stands for a task that is gone.
* The requests to the supervisor go out whether or not its queue has room;
  `Backend.Supervision` lets the queue refuse them. Nothing in the actor
  depends on the answer.
* Left out are the diagnostics feed, apart from the calibration lifecycle,
  and the counters only it reads.
-/
import OpenAirCast.Backend.Published

namespace OpenAirCast.Backend

/-! ## The actor's state -/

/-- One receiver record mirrored from discovery events. -/
structure InventoryEntry where
  name : String
  castable : Bool
  available : Bool
  device : Option Device

inductive ReconcileCause where
  | membership
  | savedGroup
  | latencyPreset
  | retry
  | primaryFailure
  | resume
  | networkRebind
  | calibrationChanged
  deriving DecidableEq

inductive CalibrationApplyState where
  | pendingRestart
  | applied
  | failed

inductive CaptureControl where
  | requestEndpointChange
  | suspend
  | resume
  | stop
  deriving DecidableEq

/-- What the actor hands to others. -/
inductive Emission where
  | publish (snapshot : FullSnapshot)
  /-- `remember_volume` at the session supervisor. -/
  | remember (receiver : ReceiverId) (volume : F32)
  /-- `try_send` at the session supervisor. -/
  | request (request : SessionRequest)
  | confirm (receipt : ReceiptId) (confirmation : CommandConfirmation)
  | completed (id : Nat)
  | failed (id : Nat) (error : String)
  /-- `Notice` under `PersistenceWrite`. -/
  | persistenceNotice (message : String)
  /-- `Notice` under `DiscoveryFailed`. -/
  | discoveryNotice (message : String)
  | calibration (state : CalibrationApplyState)
  | capturePreference (preference : AudioEndpointPreference)
  | captureControl (control : CaptureControl)
  | restartDiscovery
  | scanEndpoints
  | injectPattern
  | cancelTone

/-- What the store is asked to write. -/
inductive StoreWrite where
  | document (state : PersistedState)
  | calibration (section_ : Option CalibrationProfile)

/-- A write that a command asked the store for, with the store's answer. -/
structure SaveAttempt where
  id : Nat
  write : StoreWrite
  saved : Bool

/-- The document the store has from an attempt on. -/
def SaveAttempt.taken : SaveAttempt → Option PersistedState
  | ⟨_, .document state, true⟩ => some state
  | _ => none

structure Ports where
  /-- The monotonic clock. -/
  now : Instant := 0
  /-- The wall clock. -/
  wall : Instant := 0
  /-- Whether the command's `store.save` succeeds. -/
  saves : Nat → Bool := fun _ => true
  /-- Whether the command's `store.save_calibration` succeeds. -/
  savesCalibration : Nat → Bool := fun _ => true
  /-- `SavedGroupId::generate`. -/
  generates : Nat → GroupId := fun id => ⟨BitVec.ofNat 128 id⟩
  startsTone : Nat → Bool := fun _ => true

/-- What the store answers to a write. -/
def Ports.answer (ports : Ports) (id : Nat) : StoreWrite → Bool
  | .document _ => ports.saves id
  | .calibration _ => ports.savesCalibration id

structure Controller where
  listeningTest : Option ListeningTestGuard := none
  lastListeningTestGeneration : Option Nat := none
  /-- The outcomes of the newest publication. -/
  published : CommandOutcomes := {}
  snapshot : FullSnapshot
  persisted : PersistedState
  attempts : List SaveAttempt := []
  calibration : CalibrationProfile := {}
  /-- The generation a calibration change waits for. -/
  calibrationPendingGeneration : Option Nat := none
  inventory : SortedMap ReceiverId InventoryEntry := .empty
  savedNames : SortedMap ReceiverId String := .empty
  sessionGeneration : Nat := 0
  primary : Option ReceiverId := none
  active : Finset ReceiverId := ∅
  discoveryFailures : Nat := 0
  seenDiscoveryGeneration : Nat := 0
  machines : SortedMap ReceiverId ReceiverMachine := .empty
  retry : RetryState := {}
  policy : RetryPolicy := {}
  rejoin : RejoinRestartLimiter := {}
  /-- Desired set of the reconcile in flight. -/
  pendingDesired : Finset ReceiverId := ∅
  suspended : Bool := false
  resumeAt : Option Instant := none
  startupAutoConnectUntil : Option Instant := none
  /-- The loop has ended. -/
  finished : Bool := false
  out : List Emission := []

def RESUME_SETTLE : Nat := seconds 2
def SUSPEND_WATCHDOG : Nat := seconds 300
def AUTO_CONNECT_WINDOW : Nat := seconds 60

/-- Names by receiver; a later group's name replaces an earlier one's. -/
def savedNamesOf (groups : List SavedGroup) : SortedMap ReceiverId String :=
  (groups.flatMap (·.members)).foldl
    (fun names member => names.insert member.receiver member.lastKnownName) .empty

def LatencyPreset.enabledConfig : LatencyPreset → Option LatencyConfig
  | .normal => some ⟨2000, 200⟩
  | .low | .stable => none

/-- Whether discovery offers an entry as a castable service. -/
def InventoryEntry.offered (entry : InventoryEntry) : Bool := entry.available && entry.castable

namespace Controller

def emit (c : Controller) (emission : Emission) : Controller :=
  { c with out := c.out ++ [emission] }

/-- `checked_add` on the revision has failed. -/
def crashed (c : Controller) : Prop := U64_MAX < c.snapshot.revision

instance (c : Controller) : Decidable c.crashed := inferInstanceAs (Decidable (U64_MAX < _))

def castable (c : Controller) (id : ReceiverId) : Bool :=
  (c.inventory.get id).any InventoryEntry.offered

/-! ### Rows -/

/-- `entry(id).or_insert_with(..)`. -/
def ensureMachine (castable : ReceiverId → Bool) (machines : SortedMap ReceiverId ReceiverMachine)
    (id : ReceiverId) : SortedMap ReceiverId ReceiverMachine :=
  match machines.get id with
  | some _ => machines
  | none => machines.insert id (.new (castable id))

/-- The identities that have a row. -/
def rowIds (c : Controller) : Finset ReceiverId :=
  c.inventory.keys.toFinset ∪ c.snapshot.desiredMembers

/-- The bookkeeping half of `rebuild_receiver_rows`: receivers nobody wants
and nobody offers go, every row gets a machine, and a machine that is not
desired is released. -/
def settleMachines (c : Controller) : Controller :=
  let desired := c.snapshot.desiredMembers
  let c := { c with
    inventory := c.inventory.retain (fun id entry => decide (id ∈ desired) || entry.offered) }
  let machines := ((sortedIds c.rowIds).foldl (ensureMachine c.castable) c.machines).retain
    (fun id _ => decide (id ∈ c.rowIds))
  { c with
    machines := machines.mapValues (fun id machine =>
      if id ∈ desired then machine else machine.release)
    retry := machines.keys.foldl (fun retry id =>
      if id ∈ desired then retry else retry.clearDeadline id) c.retry }

/-- One row: discovery's name, else a saved group's, else none. -/
def row (c : Controller) (id : ReceiverId) : FullReceiver where
  id := id
  name := ((((c.inventory.get id).map (·.name)).filter (· ≠ "")).or (c.savedNames.get id)).getD ""
  model := (((c.inventory.get id).bind (·.device)).map (·.model)).getD ""
  lifecycle := ((c.machines.get id).map (·.state)).getD .unavailable

/-- The derived half: the rows and the backoff set. -/
def withRows (c : Controller) (snapshot : FullSnapshot) : FullSnapshot :=
  { snapshot with
    receivers := (sortedIds c.rowIds).map c.row
    session := { snapshot.session with
      retryWaiting := (c.machines.keys.filter (fun id =>
        (c.machines.get id).any (fun machine => machine.state.isRetryWaiting))).toFinset } }

/-- `drive`: one lifecycle transition; a rejected one only leaves a
diagnostic. -/
def drive (c : Controller) (receiver : ReceiverId)
    (apply : ReceiverMachine → ReceiverMachine × Bool) : Controller :=
  let machine := (c.machines.get receiver).getD (.new (c.castable receiver))
  { c with machines := c.machines.insert receiver (apply machine).1 }

/-- The launch start is spent. -/
def disarm (c : Controller) : Controller := { c with startupAutoConnectUntil := none }

def clearDeadline (c : Controller) (receiver : ReceiverId) : Controller :=
  { c with retry := c.retry.clearDeadline receiver }

variable [Lowercase]

/-! ### Publication -/

def publish (c : Controller) : Controller :=
  let c := match c.listeningTest with
    | some guard =>
      if guard.isFor c.snapshot then c else { c with listeningTest := none }.emit .cancelTone
    | none => c
  let snapshot := { c.snapshot with revision := c.snapshot.revision + 1 }.sortForPublication
  { c with snapshot, published := snapshot.commandOutcomes }.emit (.publish snapshot)

/-- Applies a change only when it alters visible state. -/
def maybePublish (c : Controller) (next : FullSnapshot) : Controller :=
  if next == c.snapshot then c else { c with snapshot := next }.publish

/-- The run intent becomes `Running`, outside any transaction. -/
def startRunning (c : Controller) : Controller :=
  { c with snapshot := { c.snapshot with runIntent := .running } }.publish

/-- `let mut next = self.snapshot.clone(); ..; self.maybe_publish(next)`. -/
def amend (c : Controller) (change : FullSnapshot → FullSnapshot) : Controller :=
  c.maybePublish (change c.snapshot)

def amendSession (c : Controller) (change : FullSession → FullSession) : Controller :=
  c.amend (fun next => { next with session := change next.session })

/-- The same with the rows rebuilt before the comparison. -/
def amendRows (c : Controller) (change : FullSnapshot → FullSnapshot) : Controller :=
  let settled := c.settleMachines
  settled.maybePublish (settled.withRows (change c.snapshot))

def republishRows (c : Controller) : Controller := c.amendRows id

/-- One machine learns whether its service is castable. -/
def syncOne (now : Instant) (c : Controller) (id : ReceiverId) : Controller :=
  let castable := c.castable id
  let c := { c with
    rejoin := if castable then c.rejoin.noteDiscovered now id else c.rejoin.noteLost id }
  if (c.machines.get id).any (fun machine => machine.serviceAvailable == castable) then c
  else c.drive id (·.setServiceAvailable castable)

def syncServiceAvailability (c : Controller) (now : Instant) : Controller :=
  c.machines.keys.foldl (syncOne now) c

def refreshReceivers (c : Controller) (now : Instant) : Controller :=
  (c.settleMachines.syncServiceAvailability now).republishRows

/-! ### Results -/

def complete (c : Controller) (id : Nat) : Controller :=
  { c with snapshot := { c.snapshot with
      commandOutcomes := c.snapshot.commandOutcomes.record id none } }.emit (.completed id)

def failWithKind (c : Controller) (id : Nat) (message : String) (kind : CommandFailure) :
    Controller :=
  { c with snapshot := { c.snapshot with
      commandOutcomes := c.snapshot.commandOutcomes.record id (some kind) }
  }.emit (.failed id message)

def fail (c : Controller) (id : Nat) (message : String) : Controller :=
  c.failWithKind id message .rejected

def notePersistenceFailure (c : Controller) (id : Nat) : Controller :=
  ({ c with snapshot := { c.snapshot with persistence := .error } }.emit
    (.persistenceNotice "saving device state failed; the change was not applied")
  ).failWithKind id "the change could not be saved to disk" .persistence

/-! ### The durable transaction -/

inductive CommitOutcome where
  | applied
  | unchanged
  | rejected
  | failed
  deriving DecidableEq

namespace CommitOutcome

variable (outcome : CommitOutcome)

def isApplied : Bool := outcome = .applied

/-- The durable state is what the caller asked for. -/
def stateIsIntended : Bool :=
  outcome = .applied || outcome = .unchanged

end CommitOutcome

/-- A change to the document with the announcement that follows it. -/
structure DurableCommit where
  mutatePersisted : Option (PersistedState → PersistedState) := none
  announce : FullSnapshot → FullSnapshot := id
  refreshRows : Bool := false
  syncNames : Bool := false

/-- A candidate the store has taken becomes the state. -/
def adoptDocument (c : Controller) (commit : DurableCommit) (candidate : PersistedState) :
    Controller :=
  let c := { c with
    persisted := candidate
    snapshot := commit.announce { c.snapshot with receiverLevels := candidate.receiverLevels } }
  let c := if commit.refreshRows then
      let settled := c.settleMachines
      { settled with snapshot := settled.withRows c.snapshot }
    else c
  if commit.syncNames then { c with savedNames := savedNamesOf c.persisted.savedGroups } else c

/-- The store is asked for a write. -/
def attemptSave (c : Controller) (ports : Ports) (id : Nat) (write : StoreWrite) : Controller :=
  { c with attempts := c.attempts ++ [⟨id, write, ports.answer id write⟩] }

/-- The documents the store has taken, first to last. -/
def taken (c : Controller) : List PersistedState := c.attempts.filterMap SaveAttempt.taken

/-- `DurableCommit::run`. -/
def commitDurable (c : Controller) (ports : Ports) (id : Nat) (commit : DurableCommit) :
    Controller × CommitOutcome :=
  match commit.mutatePersisted with
  | none => (c.complete id, .unchanged)
  | some mutate =>
    let candidate := mutate c.persisted
    match candidate.validate with
    | .error _ => (c.fail id "the requested change could not be applied", .rejected)
    | .ok () =>
      if candidate == c.persisted then (c.complete id, .unchanged)
      else
        let c := c.attemptSave ports id (.document candidate)
        if ports.saves id then
          (((c.adoptDocument commit candidate).complete id).publish, .applied)
        else ((c.notePersistenceFailure id).publish, .failed)

/-! ### Volumes and reconciliation -/

/-- What a receiver is to play at, by the stored document. -/
def effectiveLevel (c : Controller) (receiver : ReceiverId) : F32 :=
  (effectiveVolume c.persisted.masterVolume
    ((c.persisted.receiverLevels.get receiver).getD .UNITY) c.persisted.muted).get

def forwardEffectiveVolumes (c : Controller) : Controller :=
  (sortedIds c.active).foldl (fun c receiver =>
    c.emit (.request (.setVolume receiver (c.effectiveLevel receiver)))) c

def rememberEffectiveVolumes (c : Controller) : Controller :=
  (sortedIds c.snapshot.desiredMembers).foldl (fun c receiver =>
    c.emit (.remember receiver (c.effectiveLevel receiver))) c

/-- The devices a running session is built from: desired, castable and not
serving a backoff. -/
def desiredDevices (c : Controller) : List Device :=
  ((sortedIds c.snapshot.desiredMembers).filter (fun id =>
    c.castable id && !(c.machines.get id).any (·.inBackoff))).filterMap
      (fun id => (c.inventory.get id).bind (·.device))

/-- A stopped app with nothing up or on its way has nothing to reconcile. -/
def nothingToReconcile (c : Controller) : Bool :=
  c.suspended
    || (decide (c.snapshot.runIntent = .stopped) && decide (c.active = ∅)
      && decide (c.pendingDesired = ∅))

/-- The state half of `request_reconcile`. -/
def mintGeneration (c : Controller) (cause : ReconcileCause) (devices : List Device) :
    Controller :=
  let generation := saturatingSucc U64_MAX c.sessionGeneration
  { c with
    sessionGeneration := generation
    calibrationPendingGeneration :=
      if cause = .calibrationChanged then some generation
      else c.calibrationPendingGeneration
    pendingDesired := (devices.map (·.id)).toFinset }

/-- The request itself, after the generation was minted. -/
def reconcileParams (c : Controller) (devices : List Device) : ReconcileParams where
  generation := c.sessionGeneration
  desired := devices
  preferredPrimary := c.primary.filter (fun primary => decide (primary ∈ c.snapshot.desiredMembers))
  latency := c.persisted.latencyPreset.enabledConfig.getD ⟨2000, 200⟩
  calibration := c.calibration
  teardownOnly := decide (c.snapshot.runIntent = .stopped)

def requestReconcile (c : Controller) (cause : ReconcileCause) : Controller :=
  if c.nothingToReconcile then c
  else
    let devices := if c.snapshot.runIntent = .stopped then [] else c.desiredDevices
    let c := (c.mintGeneration cause devices).rememberEffectiveVolumes
    c.emit (.request (.reconcile (c.reconcileParams devices)))

/-! ### Platform edges -/

/-- Frees every receiver serving a backoff rung. -/
def releaseBackoff (c : Controller) : Controller :=
  (c.machines.keys.filter (fun id => (c.machines.get id).any (·.inBackoff))).foldl
    (fun c receiver => (c.clearDeadline receiver).drive receiver (·.retryNow)) c

def noteRestart (c : Controller) (now : Instant) : Controller :=
  { c with rejoin := c.rejoin.noteRestart now }

def beginSuspend (c : Controller) (now : Instant) : Controller :=
  let c := { c with suspended := true, resumeAt := some (now + SUSPEND_WATCHDOG) }
  ((c.emit (.captureControl .suspend)).emit (.request .suspend)).amendSession (fun session =>
    { session with resumePending := true, audioFlow := .silenceBridged })

def beginResume (c : Controller) (now : Instant) : Controller :=
  { c with resumeAt := some (now + RESUME_SETTLE) }

/-- The gate opens and everything that slept is restarted. -/
def wake (c : Controller) : Controller :=
  let c := { c with resumeAt := none, suspended := false }
  let c := ((c.emit .restartDiscovery).emit (.captureControl .resume)).releaseBackoff
  c.amendSession (fun session => { session with resumePending := false })

def finishResume (c : Controller) (now : Instant) : Controller :=
  let c := c.wake
  if c.snapshot.runIntent = .running then (c.noteRestart now).requestReconcile .resume else c

def applyNetworkChange (c : Controller) (now : Instant) (localBindingChanged : Bool) :
    Controller :=
  if c.suspended then c
  else
    let c := c.emit .restartDiscovery
    if localBindingChanged ∧ c.snapshot.runIntent = .running then
      (c.releaseBackoff.noteRestart now).requestReconcile .networkRebind
    else c

def handleSystemEvent (c : Controller) (now : Instant) : SystemEvent → Controller
  | .suspending => c.beginSuspend now
  | .resumed => c.beginResume now
  | .networkChanged localBindingChanged => c.applyNetworkChange now localBindingChanged

end Controller

end OpenAirCast.Backend
