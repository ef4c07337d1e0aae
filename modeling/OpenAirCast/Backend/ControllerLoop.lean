/-
Backend.ControllerLoop — timers, supervisor updates and the
main loop of the controller, from `backend/controller.rs`.

`Controller.step` is one pass of the loop: a batch of commands, an update
of the discovery, capture or session supervisor, a platform edge or a timer
that fired.
-/
import OpenAirCast.Backend.ProcessBatch

namespace OpenAirCast.Backend

namespace Controller

variable [Lowercase]

/-! ## Timers -/

variable (c : Controller)

/-- When a waiting receiver may rejoin: after its backoff, its two castable
seconds and the spacing of automatic restarts. -/
def rejoinAt (receiver : ReceiverId) : Option Instant :=
  if (c.machines.get receiver).any (·.awaitingRejoin) then
    (c.rejoin.rejoinEligibleAt receiver).map (fun eligible =>
      max (max eligible ((c.retry.nextRetry receiver).getD 0)) (c.rejoin.groupAllowedAt.getD 0))
  else none

/-- Receivers a rejoin may pull in now, and when the next one could be. -/
def rejoinCandidates (now : Instant) : List ReceiverId × Option Instant :=
  if c.suspended ∨ c.snapshot.runIntent ≠ .running then ([], none)
  else
    let instants := (sortedIds c.snapshot.desiredMembers).filterMap (fun receiver =>
      (c.rejoinAt receiver).map (fun at_ => (receiver, at_)))
    ((instants.filter (fun entry => decide (entry.2 ≤ now))).map (·.1),
      ((instants.filter (fun entry => decide (now < entry.2))).map (·.2)).min?)

/-- `None` disables the retry arm. -/
def nextRetryDelay (now : Instant) : Option Nat :=
  let candidates := c.rejoinCandidates now
  if candidates.1 ≠ [] then some 0 else candidates.2.map (· - now)

/-- One coordinated restart for everything that is due. -/
def fireDueRetries (now : Instant) : Controller :=
  match (c.rejoinCandidates now).1 with
  | [] => c
  | due =>
    let c := due.foldl (fun c receiver => (c.clearDeadline receiver).drive receiver (·.retryNow)) c
    ((c.noteRestart now).republishRows).requestReconcile .retry

/-- `None` disables the auto-connect arm. -/
def autoConnectDelay (now : Instant) : Option Nat :=
  match c.startupAutoConnectUntil with
  | none => none
  | some until_ =>
    if c.suspended ∨ until_ < now then none
    else
      ((((sortedIds c.snapshot.desiredMembers).filterMap c.rejoin.rejoinEligibleAt).min?).filter
        (fun at_ => decide (at_ ≤ until_))).map (· - now)

def applyStartupAutoConnect (now : Instant) : Controller :=
  match c.startupAutoConnectUntil with
  | none => c
  | some until_ =>
    if c.suspended then c
    else if until_ < now ∨ c.snapshot.runIntent ≠ .stopped then
      c.disarm
    else if (sortedIds c.snapshot.desiredMembers).any (c.rejoin.mayRejoin now) then
      c.disarm.startRunning.requestReconcile .membership
    else c

/-! ## Discovery and capture -/

inductive BrowseEvent where
  | added (device : Device)
  | updated (device : Device)
  | removed (id : ReceiverId)

inductive DiscoveryUpdate where
  | started (generation : Nat)
  | receiver (generation : Nat) (event : BrowseEvent)
  | failed (generation : Nat)

/-- The inventory after a browse event. -/
def noteBrowse (inventory : SortedMap ReceiverId InventoryEntry) :
    BrowseEvent → SortedMap ReceiverId InventoryEntry
  | .added device | .updated device =>
    inventory.insert device.id
      { name := device.name
        castable := device.supportsAirplay2 && device.ipv4
        available := true
        device := some device }
  | .removed id =>
    match inventory.get id with
    | some entry => inventory.insert id { entry with available := false }
    | none => inventory

variable (ports : Ports)

def applyDiscoveryUpdate : DiscoveryUpdate → Controller
  | .started generation =>
    { c with seenDiscoveryGeneration := max generation c.seenDiscoveryGeneration }.amend
      (fun next => { next with discovery := ⟨generation, .running⟩ })
  | .receiver generation event =>
    if generation < c.seenDiscoveryGeneration then c
    else { c with inventory := noteBrowse c.inventory event }.refreshReceivers ports.now
  | .failed generation =>
    if generation < c.seenDiscoveryGeneration then c
    else
      let attempt := saturatingSucc U32_MAX c.discoveryFailures
      let c := { c with discoveryFailures := attempt }
      let next := { c.snapshot with
        discovery := { c.snapshot.discovery with phase := .retrying attempt ports.wall } }
      if next == c.snapshot then c
      else (c.maybePublish next).emit
        (.discoveryNotice "receiver discovery is retrying in the background")

/-- `sort_endpoints`. -/
def sortEndpoints (endpoints : List AudioEndpoint) : List AudioEndpoint :=
  endpoints.insertionSort (fun a b =>
    (toLex (toLowercase a.name, a.id) : String ×ₗ String) ≤ toLex (toLowercase b.name, b.id))

def amendSource (change : FullAudioSource → FullAudioSource) : Controller :=
  c.amend (fun next => { next with audioSource := change next.audioSource })

/-- A scan of the playback devices; `none` is its error. -/
def applyEndpoints : Option (List AudioEndpoint) → Controller
  | some endpoints =>
    c.amendSource (fun source => { source with
      activeEndpoints := some (sortEndpoints endpoints)
      refreshFailed := false })
  | none => c.amendSource (fun source => { source with refreshFailed := true })

inductive CaptureUpdate where
  | started
  | ready (endpoint : AudioEndpoint)
  | frameDrop (dropped : Nat)
  | recovering
  | stopped
  | suspended

/-- Capture has nothing to play; the bridge paces silence. -/
def captureGone (state : AudioSourceState) : Controller :=
  c.amend (fun next => { next with
    audioSource := { next.audioSource with
      state
      capturedEndpoint := none
      windowsInputPeakPermille := none }
    session := { next.session with audioFlow := .silenceBridged } })

def applyCaptureUpdate : CaptureUpdate → Controller
  | .ready endpoint =>
    c.amend (fun next => { next with
      audioSource := { next.audioSource with
        state := .capturing
        capturedEndpoint := some endpoint
        windowsInputPeakPermille := none }
      session := { next.session with
        audioFlow := if c.active = ∅ then .silenceBridged else .live } })
  | .suspended => c.captureGone .unavailable
  | .recovering => c.captureGone .recovering
  | .stopped => c.captureGone .unavailable
  | .started => c.amendSource (fun source => { source with windowsInputPeakPermille := none })
  | .frameDrop dropped =>
    c.amendSource (fun source => { source with
      pcmFramesDroppedTotal := max source.pcmFramesDroppedTotal dropped })

def applyCaptureTelemetry (peak : Option Nat) (dropped : Nat) : Controller :=
  c.amendSource (fun source => { source with
    windowsInputPeakPermille := peak
    pcmFramesDroppedTotal := max source.pcmFramesDroppedTotal dropped })

/-! ## Session updates -/

/-- Terminal state, backoff deadline and, where a retry can help, the wait
for it. -/
def noteReceiverFailure (receiver : ReceiverId) (retryable : Bool) (error : String) : Controller :=
  let c := c.drive receiver (·.fail retryable error)
  if retryable then
    let retry := c.retry.noteStreaming c.policy ports.now receiver
    let failure := retry.noteFailure c.policy ports.now receiver
    let attempt := failure.1.attempt receiver
    { c with retry := failure.1 }.drive receiver
      (·.waitRetry attempt (ports.wall + (failure.2 - ports.now)))
  else c

def derivePhase (desired active : Finset ReceiverId) (intent : RunIntent) (generation : Nat) :
    FullPhase :=
  if intent = .stopped then .stopped
  else if desired ≠ ∅ ∧ active = desired then .streaming generation
  else if active ≠ ∅ then .degraded generation
  else .starting generation

/-- `role_of`, with the single member of a session apart. -/
def roleIn (members : Finset ReceiverId) (primary receiver : ReceiverId) : ReceiverRole :=
  if members.card ≤ 1 then .single
  else if primary = receiver then .primary
  else .secondary

def setupFailureError (failure : MemberFailure) : String :=
  "receiver rejected " ++ failure.phase.text ++ " during setup"

variable (generation : Nat)

/-- Closes an open calibration lifecycle. -/
def settleCalibrationGeneration : Controller :=
  match c.calibrationPendingGeneration with
  | none => c
  | some pending =>
    if generation < pending then c
    else { c with calibrationPendingGeneration := none }.emit (.calibration .applied)

def applyStarting : Controller :=
  let c := { c with sessionGeneration := max c.sessionGeneration generation }
  let c := (sortedIds c.pendingDesired).foldl (fun c receiver =>
    let attempt := c.retry.attempt receiver
    c.drive receiver (·.beginGeneration generation attempt)) c
  c.amendRows (fun next => { next with session := { next.session with
    phase := .starting generation
    desired := next.desiredMembers
    failed := ∅ } })

/-- The machines and deadlines of a generation that came up: its members
stream, what failed or never turned up waits. -/
def joinMembers (primary : ReceiverId)
    (members : Finset ReceiverId) (partialFailures : List MemberFailure) : Controller :=
  let c := (sortedIds members).foldl (fun c receiver =>
    c.drive receiver (·.enterStreaming (roleIn members primary receiver))) c
  let c := (sortedIds members).foldl (fun c receiver =>
    { c with retry := c.retry.noteStreaming c.policy ports.now receiver }) c
  let c := partialFailures.foldl (fun c failure =>
    c.noteReceiverFailure ports failure.receiver failure.retryable (setupFailureError failure)) c
  (sortedIds (c.pendingDesired \ (c.active ∪ (partialFailures.map (·.receiver)).toFinset))).foldl
    (fun c receiver =>
      c.noteReceiverFailure ports receiver true "the receiver did not join the group") c

def applyActive (primary : ReceiverId)
    (members : Finset ReceiverId) (partialFailures : List MemberFailure) : Controller :=
  let c := { c with primary := some primary, active := members }
  let c := c.forwardEffectiveVolumes.settleCalibrationGeneration generation
  let c := c.joinMembers ports primary members partialFailures
  c.amendRows (fun next => { next with session := { next.session with
    phase := derivePhase next.desiredMembers members next.runIntent generation
    desired := next.desiredMembers
    active := members
    failed := (partialFailures.map (·.receiver)).toFinset
    primary := some primary
    audioFlow := if next.audioSource.state = .capturing then .live else .silenceBridged } })

def applyMemberFailed (receiver : ReceiverId) (primary : Bool) (error : String) : Controller :=
  let c := { c with
    active := c.active.erase receiver
    primary := if primary ∧ c.primary = some receiver then none else c.primary }
  let c := c.noteReceiverFailure ports receiver true error
  let c := c.amendRows (fun next => { next with session := { next.session with
    phase := derivePhase next.desiredMembers c.active next.runIntent generation
    active := c.active
    failed := insert receiver next.session.failed
    primary := if primary then none else next.session.primary } })
  -- only the primary carries the group's timing
  if primary then (c.noteRestart ports.now).requestReconcile .primaryFailure else c

def applyRecovering (reason : RestartReason) : Controller :=
  { c with sessionGeneration := max c.sessionGeneration generation }.amendSession
    (fun session => { session with phase := .restarting generation reason })

def applyStopped : Controller :=
  { c with
    active := ∅
    primary := none
    machines := c.machines.mapValues (fun _ machine => machine.leaveSession) }.amendRows
      (fun next => { next with session := { next.session with
        phase := .stopped
        active := ∅
        primary := none
        audioFlow := .silenceBridged } })

def applySessionUpdate : SessionUpdate → Controller
  | .starting generation => c.applyStarting generation
  | .active generation primary members partialFailures =>
    c.applyActive ports generation primary members partialFailures
  | .memberControlFailed _ _ _ => c -- the stream is untouched
  | .memberFailed generation receiver primary error =>
    c.applyMemberFailed ports generation receiver primary error
  | .recovering generation reason _ => c.applyRecovering generation reason
  | .stopped _ => c.applyStopped

/-! ## The loop -/

inductive Event where
  /-- Everything in the command queue when the first command was taken. -/
  | batch (envelopes : List ControllerEnvelope)
  | discovery (update : DiscoveryUpdate)
  | capture (update : CaptureUpdate)
  | captureTelemetry (peak : Option Nat) (dropped : Nat)
  | endpoints (result : Option (List AudioEndpoint))
  | session (update : SessionUpdate)
  | system (event : SystemEvent)
  | resumeSettled
  | retryDue
  | autoConnectDue

def handle : Event → Controller
  | .batch envelopes => c.processBatch ports (.ofList envelopes)
  | .discovery update => c.applyDiscoveryUpdate ports update
  | .capture update =>
    let c := match update with
      | .ready _ | .recovering => c.emit .scanEndpoints
      | .started | .frameDrop _ | .stopped | .suspended => c
    c.applyCaptureUpdate update
  | .captureTelemetry peak dropped => c.applyCaptureTelemetry peak dropped
  | .endpoints result => c.applyEndpoints result
  | .session update => c.applySessionUpdate ports update
  | .system event => c.handleSystemEvent ports.now event
  | .resumeSettled =>
    -- the arm is disabled while no deadline is armed
    if c.resumeAt.isSome then (c.emit .scanEndpoints).finishResume ports.now else c
  | .retryDue => c.fireDueRetries ports.now
  | .autoConnectDue => c.applyStartupAutoConnect ports.now

/-- One pass of the loop, with what left the actor during it. -/
def step (c : Controller) (input : Ports × Event) : Controller × List Emission :=
  if c.finished ∨ c.crashed then (c, [])
  else
    let after := { c with out := [] }.handle input.1 input.2
    ({ after with out := [] }, after.out)

/-- `from_persisted`, with the calibration a launch restores. -/
def start (loaded : LoadedState) (calibration : CalibrationProfile) (now : Instant) :
    Controller :=
  let persisted := loaded.state
  let c : Controller := {
    snapshot := {
      masterVolume := persisted.masterVolume
      receiverLevels := persisted.receiverLevels
      muted := persisted.muted
      latencyPreset := persisted.latencyPreset
      autoConnect := persisted.autoConnect
      audioSource := { preference := persisted.audioEndpoint }
      savedGroups := persisted.savedGroups.map SavedGroup.snapshot
      desiredMembers := persisted.lastDesiredMembers }
    persisted
    calibration
    savedNames := savedNamesOf persisted.savedGroups
    startupAutoConnectUntil :=
      if persisted.autoConnect then some (now + AUTO_CONNECT_WINDOW) else none }
  let settled := c.settleMachines
  { settled with snapshot := (settled.withRows c.snapshot).sortForPublication }

/-- The actor after the events. -/
def run (c : Controller) (inputs : List (Ports × Event)) : Controller := Mealy.run step c inputs

end Controller

end OpenAirCast.Backend
