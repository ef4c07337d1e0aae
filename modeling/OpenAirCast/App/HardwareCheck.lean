/-
App.HardwareCheck — the session-bound listening check, from
`app/hardware_check.rs`: what blocks it, what it is bound to, whether the
binding still holds, and the projection the window sees.
-/
import OpenAirCast.App.Event

namespace OpenAirCast

inductive HardwareCheckBlocker where
  | unavailable
  | stopPending
  | sessionRunning
  | selection
  | selectionPending
  | offline
  | receiverLevels
  | muted
  | latency
  | volumePending
  | volume
  | source
  | confirmation
  deriving DecidableEq

structure HardwareCheckSnapshot where
  phase : HardwareCheckPhase
  prepared : Bool
  ready : Bool
  canConfirm : Bool
  count : Nat
  blocker : Option HardwareCheckBlocker
  deriving DecidableEq

/-- 0.15, the loudest master volume a check may run at. -/
def checkVolumeLimit : F32 := ⟨0x3E19999A#32⟩

namespace HardwareCheck

variable (s : AppState)

/-- What a check started in this state is bound to. -/
def bindingOf : Option Binding := do
  let source ← s.audioSource
  let volume ← s.confirmedMasterVolume
  let levels ← s.receiverLevels
  some {
    receivers := s.desiredReceivers
    endpoint := source.selection
    capturedKey := source.capturedKey
    capturedName := source.capturedName
    volume
    levels }

/-- Whether the newest group operation still waits for its outcome. -/
def groupPending : Bool :=
  s.groupOperation.any (fun operation => operation.status = .pending)

/-- Every desired receiver has an available row. -/
def allAvailable : Bool :=
  decide (∀ id ∈ s.desiredReceivers,
    s.receivers.any (fun r => r.id = id ∧ r.availability = .available))

/-- Every desired receiver's level is known to be audible. -/
def levelsAudible : Bool :=
  s.receiverLevels.any (fun levels => decide (∀ id ∈ s.desiredReceivers,
    let level := (levels.get id).getD F32.one
    level.isFinite && F32.lt F32.zero level && level.le F32.one))

def volumeSettled : Bool :=
  s.confirmedMasterVolume.any (fun v =>
    v.isFinite && F32.lt F32.zero v && v.le checkVolumeLimit && v == s.masterVolume)

def sourceUsable : Bool :=
  s.audioSource.any (fun a =>
    a.endpointsKnown && !a.refreshFailed && !a.endpoints.isEmpty && (match a.selection with
          | .systemDefault | .chosen _ => true
          | _ => false)
      && (match a.state with
          | .capturing | .silentSystem => true
          | _ => false))

def prerequisiteBlocker : Option HardwareCheckBlocker :=
  if s.shuttingDown || s.controllerClosed then some .unavailable
  else if !s.desiredKnown || decide (s.desiredReceivers = ∅) then some .selection
  else if decide (s.stagedReceivers ≠ s.desiredReceivers) || groupPending s then
    some .selectionPending
  else if !allAvailable s then some .offline
  else if !levelsAudible s then some .receiverLevels
  else if s.muted != some false then some .muted
  else if !s.latency.any (fun l => l.selected = .normal) then some .latency
  else if s.volumePending then some .volumePending
  else if !volumeSettled s then some .volume
  else if !sourceUsable s then some .source
  else none

/-- All prerequisites are known, settled and safe for this selection. -/
def ready : Bool := (prerequisiteBlocker s).isNone

def startBlocker : Option HardwareCheckBlocker :=
  if s.shuttingDown || s.controllerClosed || s.stream.isFailed then some .unavailable
  else if s.hardwareCheck.phase = .stopPending || s.stream.isStopping then some .stopPending
  else if s.stream != .stopped then some .sessionRunning
  else (prerequisiteBlocker s).or (if !s.hardwareCheck.prepared then some .confirmation else none)

variable (check : HardwareCheck)

/-- `HardwareCheck::bind`. -/
def bind (s : AppState) : HardwareCheck :=
  { check with
    binding := bindingOf s
    generation := some s.generations.session
    phase := .connecting
    outcome := none }

/-- `HardwareCheck::matches`: nothing bound at Start has moved, and the
prerequisites still hold. -/
def isMatching (s : AppState) : Bool :=
  ready s && check.binding.any (fun bound =>
    s.audioSource.any (fun source =>
      bound.endpoint = source.selection && bound.capturedKey = source.capturedKey
        && bound.capturedName = source.capturedName)
    && decide (bound.receivers = s.desiredReceivers)
    && some bound.volume == s.confirmedMasterVolume
    && s.receiverLevels == some bound.levels)

end HardwareCheck

namespace HardwareCheckSnapshot

def fromState (s : AppState) : HardwareCheckSnapshot :=
  let blocker := HardwareCheck.startBlocker s
  { phase := s.hardwareCheck.phase
    prepared := s.hardwareCheck.prepared
    ready := blocker.isNone || blocker == some .confirmation
    canConfirm := s.hardwareCheck.phase = .listening && s.hardwareCheck.isMatching s
      && s.hardwareCheck.generation = some s.generations.session
      && s.stream.isStreaming
      && decide (s.activeReceivers = s.desiredReceivers)
    count := s.desiredReceivers.card
    blocker }

end HardwareCheckSnapshot

end OpenAirCast
