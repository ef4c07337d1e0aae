/-
Backend.ProcessBatch — the commands of a batch, from
`process_batch` and its handlers in `backend/controller.rs`.

A drained batch runs its scalar slots first, then the levels by receiver,
then the edges in arrival order; `PendingBatch.order` is that sequence.
`Batch.execute` is one command of it and `Batch.settle` what the batch owes
at its end: volumes, at most one reconciliation, the answers of its group
starts, a last publication.
-/
import OpenAirCast.Backend.Controller

namespace OpenAirCast.Backend

namespace Controller

variable [Lowercase]

/-! ## Commands -/

/-- What `process_batch` keeps while it works through a batch. -/
structure Batch where
  actor : Controller
  reconcile : Option ReconcileCause := none
  volumesChanged : Bool := false
  shutdown : Bool := false
  /-- Receipts of successful group starts, kept until the batch has its
  generation. -/
  groupStarts : List ReceiptId := []

namespace Batch

variable (b : Batch) (ports : Ports) (id : Nat)

/-- A change that only the document and the snapshot see. -/
def commit (commit : DurableCommit) : Batch :=
  { b with actor := (b.actor.commitDurable ports id commit).1 }

/-- A change that has to reach the session. -/
def commitFor (cause : ReconcileCause) (commit : DurableCommit) : Batch :=
  let result := b.actor.commitDurable ports id commit
  { b with
    actor := result.1
    reconcile := if result.2.isApplied then some cause else b.reconcile }

/-- A change of the levels. -/
def commitVolume (commit : DurableCommit) : Batch :=
  let result := b.actor.commitDurable ports id commit
  { b with
    actor := result.1
    volumesChanged := b.volumesChanged || result.2.isApplied }

def complete : Batch := { b with actor := b.actor.complete id }

def membersCommit (members : Finset ReceiverId) : DurableCommit where
  mutatePersisted := some (fun state => { state with lastDesiredMembers := members })
  announce := fun snapshot => { snapshot with
    desiredMembers := members
    desiredRevision := saturatingSucc U64_MAX snapshot.desiredRevision }
  refreshRows := true

/-- `SetDesiredMembers` and `ApplyDesiredMembers`. -/
def applyMembers (members : Finset ReceiverId) : Batch :=
  if members ≠ b.actor.persisted.lastDesiredMembers then
    b.commitFor ports id .membership (membersCommit members)
  else b.complete id

def setRunIntent (intent : RunIntent) : Batch :=
  let c := b.actor.disarm
  if intent ≠ c.snapshot.runIntent then
    let c := { c with snapshot := { c.snapshot with runIntent := intent } }
    { b with actor := (c.complete id).publish, reconcile := some .membership }
  else { b with actor := c.complete id }

/-- The recorded result of a command. -/
def outcome : Option (Option CommandFailure) :=
  (b.actor.snapshot.commandOutcomes.recent.find? (fun entry => entry.1 = id)).map (·.2)

variable (c : Controller)

def answer (receipt : ReceiptId) (error : Option CommandFailure)
    (floor : Option Nat) : Controller :=
  c.emit (.confirm receipt
    { revision := c.snapshot.revision + 1, error, sessionGenerationFloor := floor })

/-- The newest volume receipt gets its answer. -/
def confirmVolume (confirmation : Option ReceiptId) : Batch :=
  match confirmation with
  | none => b
  | some receipt =>
    let c := match b.outcome id with
      | some error => answer b.actor receipt error none
      | none => b.actor
    { b with actor := c.publish }

def volumeCommit (value : Volume) : DurableCommit where
  mutatePersisted := some (fun state => { state with masterVolume := value })
  announce := fun snapshot => { snapshot with masterVolume := value }

def setMasterVolume (value : Volume) : Batch :=
  if value != b.actor.persisted.masterVolume then b.commitVolume ports id (volumeCommit value)
  else b.complete id

def mutedCommit (muted : Bool) : DurableCommit where
  mutatePersisted := some (fun state => { state with muted })
  announce := fun snapshot => { snapshot with muted }

def setMuted (muted : Bool) : Batch :=
  if muted ≠ b.actor.persisted.muted then b.commitVolume ports id (mutedCommit muted)
  else b.complete id

variable (preference : AudioEndpointPreference)

/-- Capture follows a stored endpoint preference. -/
def redirectCapture : Controller :=
  ((c.emit .scanEndpoints).emit (.capturePreference preference)).emit
    (.captureControl .requestEndpointChange)

def endpointCommit : DurableCommit where
  mutatePersisted := some (fun state => { state with audioEndpoint := preference })
  announce := fun snapshot => { snapshot with
    audioSource := { snapshot.audioSource with preference } }

def setAudioEndpoint : Batch :=
  if preference ≠ b.actor.persisted.audioEndpoint then
    let result := b.actor.commitDurable ports id (endpointCommit preference)
    { b with
      actor := if result.2.isApplied then redirectCapture result.1 preference else result.1 }
  else b.complete id

def presetCommit (preset : LatencyPreset) : DurableCommit where
  mutatePersisted := some (fun state => { state with latencyPreset := preset })
  announce := fun snapshot => { snapshot with latencyPreset := preset }

def setLatencyPreset (preset : LatencyPreset) : Batch :=
  match preset.disabledReason with
  | some reason => { b with actor := b.actor.fail id reason }
  | none =>
    if preset ≠ b.actor.persisted.latencyPreset then
      b.commitFor ports id .latencyPreset (presetCommit preset)
    else b.complete id

def autoConnectCommit (enabled : Bool) : DurableCommit where
  mutatePersisted := some (fun state => { state with autoConnect := enabled })
  announce := fun snapshot => { snapshot with autoConnect := enabled }

/-- The durable half of `SetAutoConnect`. -/
def saveAutoConnect (enabled : Bool) : Batch :=
  if enabled ≠ b.actor.persisted.autoConnect then
    b.commit ports id (autoConnectCommit enabled)
  else b.complete id

/-- Disabling spends the launch start before the save is attempted. -/
def setAutoConnect (enabled : Bool) : Batch :=
  (if enabled then b else { b with actor := b.actor.disarm }).saveAutoConnect ports id enabled

variable (receiver : ReceiverId)

def levelCommit (level : Volume) : DurableCommit where
  mutatePersisted := some (fun state => { state with
    receiverLevels := state.receiverLevels.insert receiver level })

def setReceiverLevel (level : Volume) : Batch :=
  if b.actor.persisted.receiverLevels.get receiver != some level then
    b.commitVolume ports id (levelCommit receiver level)
  else b.complete id

/-! ### Saved groups -/

/-- `sort_by` of the stored groups. -/
def sortGroups (groups : List SavedGroup) : List SavedGroup :=
  groups.insertionSort (fun a b =>
    (toLex (toLowercase a.name, a.id.uuid.toNat) : String ×ₗ Nat)
      ≤ toLex (toLowercase b.name, b.id.uuid.toNat))

/-- Why a group cannot be saved under this name with these members. -/
def saveGroupError (groups : List SavedGroup) (id : Option GroupId) (trimmed : String)
    (members : List SavedGroupMember) : Option String :=
  if trimmed = "" ∨ 64 < trimmed.length then some "group names need 1-64 characters"
  else if groups.any (fun existing =>
      eqIgnoreAsciiCase existing.name trimmed && id.all (fun edit => existing.id ≠ edit)) then
    some "a group with that name already exists"
  else if (duplicateReceiver [] members).isSome then
    some "each receiver may appear once per group"
  else if members.isEmpty then some "a saved group needs at least one receiver"
  else none

/-- A group under its identity, whatever was there before. -/
def saveCommit (group : SavedGroup) : DurableCommit where
  mutatePersisted := some (fun state => { state with
    savedGroups := sortGroups
      (state.savedGroups.filter (fun existing => existing.id ≠ group.id) ++ [group]) })
  announce := fun snapshot => { snapshot with
    savedGroups := snapshot.savedGroups.filter (fun existing => existing.id ≠ group.id)
      ++ [group.snapshot] }
  syncNames := true

def handleSaveGroup (groupId : Option GroupId)
    (name : String) (members : List SavedGroupMember) : Batch :=
  let trimmed := trim name
  match saveGroupError b.actor.persisted.savedGroups groupId trimmed members with
  | some error => { b with actor := b.actor.fail id error }
  | none => b.commit ports id (saveCommit ⟨groupId.getD (ports.generates id), trimmed, members⟩)

variable (groupId : GroupId)

def deleteCommit : DurableCommit where
  mutatePersisted := some (fun state => { state with
    savedGroups := state.savedGroups.filter (fun existing => existing.id ≠ groupId) })
  announce := fun snapshot => { snapshot with
    savedGroups := snapshot.savedGroups.filter (fun existing => existing.id ≠ groupId) }
  syncNames := true

def handleDeleteGroup : Batch :=
  if b.actor.persisted.savedGroups.any (fun group => group.id = groupId) then
    b.commit ports id (deleteCommit groupId)
  else b.complete id

/-- Members and levels of a group as one candidate. -/
def activationCommit (persisted : PersistedState) (group : SavedGroup) : DurableCommit :=
  let members := (group.members.map (·.receiver)).toFinset
  let membershipDiffers := decide (members ≠ persisted.lastDesiredMembers)
  { mutatePersisted := some (fun state => { state with
      lastDesiredMembers := members
      receiverLevels := group.members.foldl
        (fun levels member => levels.insert member.receiver member.level) state.receiverLevels })
    announce := fun snapshot => { snapshot with
      desiredMembers := members
      desiredRevision :=
        if membershipDiffers then saturatingSucc U64_MAX snapshot.desiredRevision
        else snapshot.desiredRevision }
    refreshRows := true }

/-- Activating a group and declining to start it answers what auto-connect
would have asked, unless the save failed. -/
def declineStart (start intended : Bool) : Controller :=
  if !start && intended then c.disarm else c

/-- What follows the transaction of an activation, with whether a generation
is owed. -/
def finishActivation (result : Controller × CommitOutcome) (start : Bool) : Controller × Bool :=
  let intended := result.2.stateIsIntended
  let c := declineStart result.1 start intended
  if start && intended && decide (c.snapshot.runIntent ≠ .running) then (c.startRunning, true)
  else (c, result.2.isApplied)

def handleActivateGroup (ports : Ports) (id : Nat) (groupId : GroupId)
    (start : Bool) : Controller × Bool :=
  match c.persisted.savedGroups.find? (fun group => group.id = groupId) with
  | none => (c.fail id "that saved group no longer exists", false)
  | some group =>
    finishActivation (c.commitDurable ports id (activationCommit c.persisted group)) start

def activateSavedGroup (start : Bool) : Batch :=
  let result := handleActivateGroup b.actor ports id groupId start
  { b with
    actor := result.1
    reconcile := if result.2 && b.reconcile.isNone then some .savedGroup else b.reconcile }

/-! ### Calibration -/

/-- What speaks against a profile, or against a reset, on a selection. -/
def calibrationError (expected : Nat) (profile : Option CalibrationProfile) : Option String :=
  if expected ≠ c.snapshot.desiredRevision then
    some "the receiver selection changed while calibrating; review it and apply again"
  else
    match profile with
    | none => none -- a reset has nothing to judge
    | some profile =>
      if c.snapshot.desiredMembers.card < 2 then
        some "calibration needs at least two selected receivers"
      else
        match normalizeCalibration c.snapshot.desiredMembers profile with
        | .error _ => some "the calibration values could not be applied"
        | .ok _ => none

/-- Persist, then apply. -/
def storeCalibration (ports : Ports) (id expected : Nat)
    (profile : Option CalibrationProfile) : Controller × Bool :=
  match calibrationError c expected profile with
  | some error => ((c.fail id error).emit (.calibration .failed), false)
  | none =>
    let c := c.attemptSave ports id (.calibration profile)
    if ports.savesCalibration id then
      ((({ c with calibration := profile.getD {} }).complete id).emit
        (.calibration .pendingRestart), true)
    else (((c.notePersistenceFailure id).emit (.calibration .failed)).publish, false)

def handleCalibration (ports : Ports) (id : Nat) : CalibrationCommand → Controller × Bool
  | .applyCalibrationProfile expected profile => storeCalibration c ports id expected (some profile)
  | .resetCalibration expected => storeCalibration c ports id expected none
  | .runCalibrationClickTest =>
    if c.active.card < 2 then
      (c.fail id "the alignment test needs at least two connected receivers", false)
    else ((c.emit .injectPattern).complete id, false)

/-! ### The other edges -/

def retryReceiver : Batch :=
  let c := { b.actor with retry := b.actor.retry.manualRetry receiver }
  { b with
    actor := ((c.drive receiver (·.retryNow)).republishRows).complete id
    reconcile := some .retry }

def calibrate (command : CalibrationCommand) : Batch :=
  let result := handleCalibration b.actor ports id command
  { b with
    actor := result.1
    reconcile := if result.2 then some .calibrationChanged else b.reconcile }

def runListeningTest (guard : ListeningTestGuard) :
    Batch :=
  let c := b.actor
  if !guard.isFor c.snapshot || c.lastListeningTestGeneration == some guard.generation then
    { b with actor := c.fail id "the listening test configuration changed or was already used" }
  else if ports.startsTone id then
    { b with actor := { c with
        lastListeningTestGeneration := some guard.generation
        listeningTest := some guard }.complete id }
  else { b with actor := c.fail id "the listening test audio source is busy" }

def shutDown : Batch :=
  let c := match b.actor.listeningTest with
    | some _ => { b.actor with listeningTest := none }.emit .cancelTone
    | none => b.actor
  { b with actor := c.complete id, shutdown := true }

/-- An edge that carries a confirmation is answered, or kept for the batch's
generation when it started a group. -/
def confirmEdge (envelope : ControllerEnvelope) : Batch :=
  match envelope.confirmation with
  | none => b
  | some receipt =>
    let b := match b.outcome envelope.id with
      | some error =>
        if envelope.startsGroup && error.isNone then
          { b with groupStarts := b.groupStarts ++ [receipt] }
        else { b with actor := answer b.actor receipt error none }
      | none => b
    { b with actor := b.actor.publish }

/-- One command of the batch. -/
def execute (b : Batch) (envelope : ControllerEnvelope) : Batch :=
  let id := envelope.id
  match envelope.command with
  | .setDesiredMembers members => b.applyMembers ports id members
  | .setRunIntent intent => b.setRunIntent id intent
  | .setMasterVolume value =>
    (b.setMasterVolume ports id value).confirmVolume id envelope.confirmation
  | .setMuted muted => b.setMuted ports id muted
  | .setAudioEndpoint preference => b.setAudioEndpoint ports id preference
  | .setLatencyPreset preset => b.setLatencyPreset ports id preset
  | .setAutoConnect enabled => b.setAutoConnect ports id enabled
  | .setReceiverLevel receiver level => b.setReceiverLevel ports id receiver level
  | .applyDesiredMembers members => (b.applyMembers ports id members).confirmEdge envelope
  | .saveGroup groupId name members =>
    (b.handleSaveGroup ports id groupId name members).confirmEdge envelope
  | .deleteGroup groupId => (b.handleDeleteGroup ports id groupId).confirmEdge envelope
  | .activateSavedGroup groupId start =>
    (b.activateSavedGroup ports id groupId start).confirmEdge envelope
  | .retryReceiver receiver => (b.retryReceiver id receiver).confirmEdge envelope
  | .notifySystem event =>
    ({ b with actor := b.actor.handleSystemEvent ports.now event }.complete id
      ).confirmEdge envelope
  | .calibration command => (b.calibrate ports id command).confirmEdge envelope
  | .runListeningTest guard => (b.runListeningTest ports id guard).confirmEdge envelope
  | .shutdown => (b.shutDown id).confirmEdge envelope

/-- Nothing runs behind a `Shutdown`. -/
def next (b : Batch) (envelope : ControllerEnvelope) : Batch :=
  if b.shutdown then b else b.execute ports envelope

/-- New levels go to the supervisor's memory and to the live receivers. -/
def flushVolumes (changed : Bool) : Controller :=
  if changed then c.rememberEffectiveVolumes.forwardEffectiveVolumes else c

def flushReconcile : Option ReconcileCause → Controller
  | some cause => c.requestReconcile cause
  | none => c

/-- The earliest attempt that may answer a group start; a suspended one has
to wait for the generation of the resume. -/
def generationFloor : Nat :=
  if c.suspended then saturatingSucc U64_MAX c.sessionGeneration else c.sessionGeneration

def answerStarts (starts : List ReceiptId) : Controller :=
  if starts = [] then c
  else (starts.foldl (fun c receipt => answer c receipt none (some (generationFloor c))) c).publish

/-- A result nobody has seen yet is published. -/
def publishOutcomes : Controller :=
  if c.published ≠ c.snapshot.commandOutcomes then c.publish else c

/-- What a batch owes once its commands have run. -/
def settle : Controller :=
  let c := publishOutcomes (answerStarts
    (flushReconcile (flushVolumes b.actor b.volumesChanged) b.reconcile) b.groupStarts)
  { c with finished := c.finished || b.shutdown }

end Batch

/-- `process_batch`. -/
def processBatch (c : Controller) (ports : Ports) (pending : PendingBatch) : Controller :=
  (pending.order.foldl (Batch.next ports) { actor := c }).settle

end Controller

end OpenAirCast.Backend
