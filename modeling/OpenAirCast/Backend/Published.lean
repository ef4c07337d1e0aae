/-
Backend.Published — the snapshot as the controller keeps it and
the batches of commands it takes, from `backend/model.rs`,
`backend/command.rs` and `PendingBatch` of `backend/controller.rs`.

`Backend.Model` and `Backend.Command` have what the shell reads and sends.
Here are the same types with everything the controller keeps in them, and
`FullSnapshot.shell` is the shell's view of one.
-/
import Mathlib.Data.Prod.Lex
import OpenAirCast.Backend.Command
import OpenAirCast.Backend.Persistence
import OpenAirCast.Backend.Recovery

namespace OpenAirCast.Backend

/-! ## The snapshot -/

inductive AudioFlow where
  | live
  | silenceBridged
  deriving DecidableEq

inductive FullPhase where
  | stopped
  | starting (generation : Nat)
  | streaming (generation : Nat)
  | degraded (generation : Nat)
  | restarting (generation : Nat) (reason : RestartReason)
  | stopping (generation : Nat)
  | failed (generation : Nat) (error : String)
  deriving DecidableEq

def FullPhase.flat : FullPhase → SessionPhase
  | stopped => .stopped
  | starting generation => .starting generation
  | streaming generation => .streaming generation
  | degraded generation => .degraded generation
  | restarting generation _ => .restarting generation
  | stopping generation => .stopping generation
  | failed generation error => .failed generation error

structure FullSession where
  phase : FullPhase := .stopped
  desired : Finset ReceiverId := ∅
  active : Finset ReceiverId := ∅
  failed : Finset ReceiverId := ∅
  retryWaiting : Finset ReceiverId := ∅
  primary : Option ReceiverId := none
  audioFlow : AudioFlow := .silenceBridged
  resumePending : Bool := false
  deriving DecidableEq

inductive FullDiscoveryPhase where
  | stopped
  | running
  | retrying (attempt : Nat) (retryAt : Instant)
  deriving DecidableEq

def FullDiscoveryPhase.flat : FullDiscoveryPhase → DiscoveryPhase
  | stopped => .stopped
  | running => .running
  | retrying _ _ => .retrying

structure DiscoverySnapshot where
  generation : Nat := 0
  phase : FullDiscoveryPhase := .stopped
  deriving DecidableEq

structure FullReceiver where
  id : ReceiverId
  name : String
  model : String
  lifecycle : Lifecycle
  deriving DecidableEq

structure FullAudioSource extends AudioSourceSnapshot where
  windowsInputPeakPermille : Option Nat := none
  pcmFramesDroppedTotal : Nat := 0
  deriving DecidableEq

inductive PersistenceSnapshot where
  | idle
  | healthy
  | error
  deriving DecidableEq

/-- Recorded command results; the oldest are evicted. -/
structure CommandOutcomes where
  recent : List (Nat × Option CommandFailure) := []
  evictedThrough : Nat := 0
  deriving DecidableEq

/-- How many results are kept. -/
def OUTCOME_CAPACITY : Nat := 128

def CommandOutcomes.record (outcomes : CommandOutcomes) (id : Nat)
    (error : Option CommandFailure) : CommandOutcomes :=
  let recent := outcomes.recent ++ [(id, error)]
  let excess := recent.length - OUTCOME_CAPACITY
  { recent := recent.drop excess
    evictedThrough := (recent.take excess).foldl (fun through entry => max through entry.1)
      outcomes.evictedThrough }

/-- `DeviceSnapshot`, with the defaults of `DeviceSnapshot::default`. -/
structure FullSnapshot where
  commandOutcomes : CommandOutcomes := {}
  revision : Nat := 0
  desiredRevision : Nat := 0
  discovery : DiscoverySnapshot := {}
  receivers : List FullReceiver := []
  savedGroups : List SavedGroupSnapshot := []
  desiredMembers : Finset ReceiverId := ∅
  runIntent : RunIntent := .stopped
  session : FullSession := {}
  audioSource : FullAudioSource := {}
  masterVolume : Volume := .DEFAULT_MASTER
  receiverLevels : SortedMap ReceiverId Volume := .empty
  muted : Bool := false
  latencyPreset : LatencyPreset := .normal
  latencyPresets : List LatencyPresetOption := LatencyPreset.offered
  autoConnect : Bool := false
  persistence : PersistenceSnapshot := .idle
  deriving BEq

namespace FullSnapshot

/-- What the shell reads of it. -/
def shell (s : FullSnapshot) : DeviceSnapshot where
  revision := s.revision
  desiredRevision := s.desiredRevision
  discovery := s.discovery.phase.flat
  receivers := s.receivers.map (fun r => ⟨r.id, r.name, r.model, r.lifecycle.flat⟩)
  savedGroups := s.savedGroups
  desiredMembers := s.desiredMembers
  runIntent := s.runIntent
  session := ⟨s.session.phase.flat, s.session.active⟩
  audioSource := s.audioSource.toAudioSourceSnapshot
  masterVolume := s.masterVolume
  receiverLevels := ⟨s.receiverLevels.entries, s.receiverLevels.sorted⟩
  muted := s.muted
  latencyPreset := s.latencyPreset
  latencyPresets := s.latencyPresets

/-- Lists are published by lowered name, then by identity. -/
def sortForPublication [Lowercase] (s : FullSnapshot) : FullSnapshot :=
  { s with
    receivers := s.receivers.insertionSort (fun a b =>
      (toLex (toLowercase a.name, a.id) : String ×ₗ ReceiverId) ≤ toLex (toLowercase b.name, b.id))
    savedGroups := s.savedGroups.insertionSort (fun a b =>
      (toLex (toLowercase a.name, a.id.uuid.toNat) : String ×ₗ Nat)
        ≤ toLex (toLowercase b.name, b.id.uuid.toNat)) }

end FullSnapshot

deriving instance BEq for ListeningTestGuard

/-- Rejects changed configuration even if the new volume is also low. -/
def ListeningTestGuard.isFor (guard : ListeningTestGuard) (s : FullSnapshot) : Bool :=
  ListeningTestGuard.capture s.shell == some guard

/-! ## Commands -/

inductive SystemEvent where
  | suspending
  | resumed
  | networkChanged (localBindingChanged : Bool)

/-- `BackendCommand`, every case of it. -/
inductive ControllerCommand where
  | runListeningTest (guard : ListeningTestGuard)
  | applyDesiredMembers (members : Finset ReceiverId)
  | setDesiredMembers (members : Finset ReceiverId)
  | setRunIntent (intent : RunIntent)
  | setMasterVolume (volume : Volume)
  | setMuted (muted : Bool)
  | setReceiverLevel (receiver : ReceiverId) (level : Volume)
  | setAudioEndpoint (preference : AudioEndpointPreference)
  | setLatencyPreset (preset : LatencyPreset)
  | setAutoConnect (enabled : Bool)
  | saveGroup (id : Option GroupId) (name : String) (members : List SavedGroupMember)
  | deleteGroup (id : GroupId)
  | activateSavedGroup (id : GroupId) (start : Bool)
  | retryReceiver (receiver : ReceiverId)
  | notifySystem (event : SystemEvent)
  | calibration (command : CalibrationCommand)
  | shutdown

/-- Edges queue in arrival order; everything else has a slot. -/
def ControllerCommand.isEdge : ControllerCommand → Bool
  | .applyDesiredMembers _ | .saveGroup _ _ _ | .deleteGroup _ | .activateSavedGroup _ _
  | .retryReceiver _ | .notifySystem _ | .calibration _ | .runListeningTest _ | .shutdown => true
  | .setDesiredMembers _ | .setRunIntent _ | .setMasterVolume _ | .setMuted _
  | .setReceiverLevel _ _ | .setAudioEndpoint _ | .setLatencyPreset _ | .setAutoConnect _ => false

/-- `CommandEnvelope`; the confirmation is the sender half of a one-shot. -/
structure ControllerEnvelope where
  id : Nat
  command : ControllerCommand
  confirmation : Option ReceiptId := none

namespace ControllerEnvelope

variable (envelope : ControllerEnvelope)

/-- `matches!(command, ActivateSavedGroup { start: true, .. })`. -/
def startsGroup : Bool :=
  match envelope.command with
  | .activateSavedGroup _ start => start
  | _ => false

/-- A group activation that no longer starts anything. -/
def withoutStart : ControllerEnvelope :=
  match envelope.command with
  | .activateSavedGroup id _ => { envelope with command := .activateSavedGroup id false }
  | _ => envelope

end ControllerEnvelope

/-- Latest-wins slots, levels by receiver, edges in arrival order. -/
structure PendingBatch where
  desiredMembers : Option ControllerEnvelope := none
  runIntent : Option ControllerEnvelope := none
  masterVolume : Option ControllerEnvelope := none
  masterReceipt : Option ReceiptId := none
  muted : Option ControllerEnvelope := none
  endpoint : Option ControllerEnvelope := none
  latencyPreset : Option ControllerEnvelope := none
  autoConnect : Option ControllerEnvelope := none
  levels : SortedMap ReceiverId ControllerEnvelope := .empty
  edges : List ControllerEnvelope := []

namespace PendingBatch

variable (batch : PendingBatch)

def insert (envelope : ControllerEnvelope) : PendingBatch :=
  match envelope.command with
  | .setDesiredMembers _ => { batch with desiredMembers := some envelope }
  | .setRunIntent intent =>
    -- a Stop takes the start out of the group edges before it
    { batch with
      edges := if intent = .stopped then
          batch.edges.map ControllerEnvelope.withoutStart
        else batch.edges
      runIntent := some envelope }
  | .setMasterVolume _ =>
    { batch with
      masterReceipt := envelope.confirmation.or batch.masterReceipt
      masterVolume := some { envelope with confirmation := none } }
  | .setMuted _ => { batch with muted := some envelope }
  | .setReceiverLevel receiver _ => { batch with levels := batch.levels.insert receiver envelope }
  | .setAudioEndpoint _ => { batch with endpoint := some envelope }
  | .setLatencyPreset _ => { batch with latencyPreset := some envelope }
  | .setAutoConnect _ => { batch with autoConnect := some envelope }
  | .applyDesiredMembers _ | .saveGroup _ _ _ | .deleteGroup _ | .activateSavedGroup _ _
  | .retryReceiver _ | .notifySystem _ | .calibration _ | .runListeningTest _ | .shutdown =>
    { batch with edges := batch.edges ++ [envelope] }

/-- The batch as `process_batch` works through it: every slot in turn, the
levels by receiver, the edges. The newest volume answers the newest volume
receipt. -/
def order : List ControllerEnvelope :=
  batch.desiredMembers.toList ++ batch.runIntent.toList ++ (batch.masterVolume.map (fun envelope =>
      { envelope with confirmation := batch.masterReceipt })).toList
    ++ batch.muted.toList ++ batch.endpoint.toList ++ batch.latencyPreset.toList
    ++ batch.autoConnect.toList ++ batch.levels.entries.map (·.2) ++ batch.edges

/-- The drained queue, oldest first. -/
def ofList (envelopes : List ControllerEnvelope) : PendingBatch := envelopes.foldl insert {}

end PendingBatch

end OpenAirCast.Backend
