/-
Bridge.Projection — what the bridge tells the shell about one
backend snapshot, from `backend_bridge/projection.rs`.

`Projection` remembers what was last published and `project` emits the
differences. It runs through the snapshot in nine stages, each of which
looks at one part of the projection; they are functions of their own here
and `project` is their sequence. `SessionEdge` and `GenerationsSeen` come
from `backend_bridge/commands.rs` and stand here because `project` reads
them.

The live diagnostics and the registry's reading are not derived from a
snapshot alone and are left out.
-/
import OpenAirCast.App.Event
import OpenAirCast.Backend.Model

namespace OpenAirCast.Bridge

open OpenAirCast.Backend

/-! ## Session answers and edges -/

/-- The shell-visible content of one session answer. -/
inductive SessionEcho where
  | stopped
  | active (receivers : List DeviceId)
  | degraded (receivers : List DeviceId)
  | restarting
  | failed (summary : String)
  deriving DecidableEq

/-- Which session edge the shell most recently asked for. -/
inductive SessionEdge where
  | untouched
  | start
  | pendingGroupStart
  | confirmedGroupStart (backendFloor : Nat)
  | stop
  | rejected
  deriving DecidableEq

/-- Whether an unchanged backend answer already settles this request. -/
def SessionEdge.answeredBy : SessionEdge → SessionEcho → Bool
  | .pendingGroupStart, _ | .confirmedGroupStart _, _ => false
  | .rejected, _ => true
  | .start, .active _ | .start, .degraded _ | .start, .failed _ => true
  | .stop, .stopped => true
  | .start, .stopped | .stop, .active _ | .stop, .degraded _ | .stop, .failed _ => false
  | _, .restarting | .untouched, _ => false

/-- One pass's view of what the shell most recently asked for. -/
structure GenerationsSeen where
  discovery : GenerationId
  session : GenerationId
  sessionEdge : SessionEdge
  deriving DecidableEq

/-- `session_echo`; `none` while a phase is in flight. -/
def sessionEcho (session : SessionSnapshot) : Option SessionEcho :=
  match session.phase with
  | .stopped => some .stopped
  | .starting _ | .stopping _ => none
  | .restarting _ => some .restarting
  | .streaming _ => some (.active (sortedIds session.active))
  | .degraded _ => some (.degraded (sortedIds session.active))
  | .failed _ error => some (.failed error)

/-- The event that carries an answer. -/
def SessionEcho.event (generation : GenerationId) : SessionEcho → ControllerEvent
  | .stopped => .sessionStopped generation
  | .active receivers => .sessionStarted generation receivers
  | .degraded receivers => .sessionDegraded generation receivers
  | .restarting => .sessionRestarting generation
  | .failed summary => .sessionFailed generation summary

/-! ## Endpoint keys -/

structure EndpointEntry where
  key : AudioEndpointKey
  id : String
  name : String

/-- The allocation of opaque keys to raw endpoint ids. -/
structure EndpointTable where
  next : Nat := 0
  known : List EndpointEntry := []

namespace EndpointTable

/-- `iter_mut().find(..)` with the found entry's name refreshed. -/
def refreshName (endpoint : AudioEndpoint) : List EndpointEntry → List EndpointEntry
  | [] => []
  | entry :: rest =>
    if entry.id = endpoint.id then { entry with name := endpoint.name } :: rest
    else entry :: refreshName endpoint rest

variable (table : EndpointTable)

/-- `key_for`: the table after the lookup, and the key. -/
def keyFor (endpoint : AudioEndpoint) : EndpointTable × AudioEndpointKey :=
  match table.known.find? (fun entry => entry.id = endpoint.id) with
  | some entry => ({ table with known := refreshName endpoint table.known }, entry.key)
  | none =>
    let key : AudioEndpointKey := ⟨table.next⟩
    ({ next := table.next + 1
       known := table.known ++ [{ key, id := endpoint.id, name := endpoint.name }] }, key)

def preference (key : AudioEndpointKey) : Option AudioEndpointPreference :=
  (table.known.find? (fun entry => entry.key = key)).map (fun entry =>
    .explicit entry.id entry.name)

/-- The offered endpoints, keyed one after the other. -/
def choices (table : EndpointTable) : List AudioEndpoint → EndpointTable × List AudioEndpointChoice
  | [] => (table, [])
  | endpoint :: rest =>
    let (table, key) := table.keyFor endpoint
    let (table, others) := table.choices rest
    (table, { key, name := endpoint.name } :: others)

end EndpointTable

/-! ## Readings -/

inductive DiscoveryEcho where
  | inventory (receivers : List ReceiverState)
  | failed (summary : String)
  deriving DecidableEq

def DISCOVERY_FAILED_SUMMARY : String := "Devices could not be searched for."

/-- A name that is the identity itself does not cross. -/
def displayName (id : ReceiverId) (name : String) : String :=
  if name = displayId id then "" else name

def availabilityOf : ReceiverLifecycle → Availability
  | .unavailable => .unavailable
  | .discovered | .connecting | .settingUp | .ready | .streaming | .retryWaiting | .failed =>
    .available

/-- The receiver rows in id order. `sort_by_key` is stable. -/
def inventory (receivers : List ReceiverSnapshot) : List ReceiverState :=
  (receivers.map (fun receiver =>
    ({ id := receiver.id
       name := displayName receiver.id receiver.name
       model := receiver.model
       availability := availabilityOf receiver.lifecycle } : ReceiverState))).insertionSort
    (fun a b => a.id ≤ b.id)

def discoveryEcho (discovery : DiscoveryPhase) (receivers : List ReceiverSnapshot) :
    Option DiscoveryEcho :=
  match discovery with
  | .stopped => none
  | .running => some (.inventory (inventory receivers))
  | .retrying => some (.failed DISCOVERY_FAILED_SUMMARY)

def DiscoveryEcho.event (generation : GenerationId) : DiscoveryEcho → ControllerEvent
  | .inventory receivers => .discoveryCompleted generation receivers
  | .failed summary => .discoveryFailed generation summary

/-- One saved group with the members a browse currently finds. -/
def groupReading (receivers : List ReceiverSnapshot) (group : SavedGroupSnapshot) :
    SavedGroupReading where
  id := group.id
  name := group.name
  members := group.members.map (fun member =>
    { receiver := member.receiver
      name := member.lastKnownName
      level := member.level.get })
  availableMembers := ((group.members.filter (fun member =>
    receivers.any (fun row => row.id = member.receiver
      && availabilityOf row.lifecycle = .available))).map (·.receiver)).toFinset

def latencyChoice : LatencyPreset → LatencyChoice
  | .low => .low
  | .normal => .normal
  | .stable => .stable

def latencyEcho (selected : LatencyPreset) (offered : List LatencyPresetOption) :
    LatencyReading where
  selected := latencyChoice selected
  options := offered.map (fun option =>
    { choice := latencyChoice option.preset
      unavailable := option.disabledReason.map (fun _ => .notValidated) })

def captureState : AudioSourceState → CaptureState
  | .capturing => .capturing
  | .silentSystem => .silentSystem
  | .recovering => .recovering
  | .unavailable => .unavailable
  | .failed => .failed

/-- How the stored preference crosses: by key while the endpoint is on
offer, by a saved or captured name otherwise. -/
def selectionEcho (source : AudioSourceSnapshot) (choices : List AudioEndpointChoice) :
    AudioEndpointSelection :=
  match source.preference with
  | .systemDefault => .systemDefault
  | .explicit id lastKnownName =>
    let offered := (source.activeEndpoints.getD []).zip choices
    match offered.find? (fun entry => entry.1.id = id) with
    | some entry => .chosen entry.2.key
    | none =>
      let captured := source.capturedEndpoint.filter (fun endpoint => endpoint.id = id)
      if source.activeEndpoints.isNone || captured.isSome then
        .chosenUnverified (captured.elim lastKnownName (·.name))
      else .chosenButMissing lastKnownName

/-- `audio_echo`: the table after it, and the reading. -/
def audioEcho (source : AudioSourceSnapshot) (table : EndpointTable) :
    EndpointTable × AudioSourceReading :=
  let (table, endpoints) := table.choices (source.activeEndpoints.getD [])
  let (table, capturedKey) := match source.capturedEndpoint with
    | none => (table, none)
    | some endpoint => ((table.keyFor endpoint).1, some (table.keyFor endpoint).2)
  (table,
    { refreshFailed := source.refreshFailed
      endpointsKnown := source.activeEndpoints.isSome
      endpoints
      selection := selectionEcho source endpoints
      capturedKey
      capturedName := source.capturedEndpoint.map (·.name)
      state := captureState source.state })

/-! ## The projection -/

/-- What the bridge last told the reducer. -/
structure Projection where
  masterVolume : Option F32 := none
  desired : Option (Nat × List DeviceId) := none
  groups : Option (List SavedGroupReading) := none
  discovery : Option (GenerationId × DiscoveryEcho) := none
  session : Option (GenerationId × SessionEcho) := none
  mute : Option Bool := none
  receiverLevels : Option LevelMap := none
  latency : Option LatencyReading := none
  audio : Option AudioSourceReading := none
  endpoints : EndpointTable := {}

namespace Projection

/-- Whether the session stage publishes `echo`, given what it last
published. -/
def publishes (last : Option (GenerationId × SessionEcho)) (phase : SessionPhase)
    (seen : GenerationsSeen) (echo : SessionEcho) : Bool :=
  match seen.sessionEdge with
  | .confirmedGroupStart backendFloor =>
    let settled := last.any (fun published => published.1 = seen.session)
    phase.generation.elim settled (fun generation => decide (backendFloor ≤ generation))
      && decide (last ≠ some (seen.session, echo))
  | .pendingGroupStart => false
  | edge =>
    match last with
    | none => if edge ≠ .untouched then edge.answeredBy echo else true
    | some (generation, published) =>
      if generation ≠ seen.session then edge.answeredBy echo
      else decide (published ≠ echo)

variable (p : Projection) (snapshot : DeviceSnapshot)

def projectVolume : Projection × List ControllerEvent :=
  let volume := snapshot.masterVolume.get
  if p.masterVolume == some volume then (p, [])
  else ({ p with masterVolume := some volume }, [.volumeApplied 0 volume])

def projectDesired : Projection × List ControllerEvent :=
  let desired := (snapshot.desiredRevision, sortedIds snapshot.desiredMembers)
  if p.desired = some desired then (p, [])
  else ({ p with desired := some desired }, [.desiredReceiversChanged desired.1 desired.2])

def projectGroups : Projection × List ControllerEvent :=
  let groups := snapshot.savedGroups.map (groupReading snapshot.receivers)
  if p.groups == some groups then (p, [])
  else ({ p with groups := some groups }, [.savedGroupsChanged groups])

variable (seen : GenerationsSeen)

def projectDiscovery : Projection × List ControllerEvent :=
  match discoveryEcho snapshot.discovery snapshot.receivers with
  | none => (p, [])
  | some echo =>
    if p.discovery = some (seen.discovery, echo) then (p, [])
    else ({ p with discovery := some (seen.discovery, echo) }, [echo.event seen.discovery])

def projectSession : Projection × List ControllerEvent :=
  match sessionEcho snapshot.session with
  | none => (p, [])
  | some echo =>
    if publishes p.session snapshot.session.phase seen echo then
      ({ p with session := some (seen.session, echo) }, [echo.event seen.session])
    else (p, [])

def projectMute : Projection × List ControllerEvent :=
  if p.mute = some snapshot.muted then (p, [])
  else ({ p with mute := some snapshot.muted }, [.muteChanged snapshot.muted])

def projectLevels : Projection × List ControllerEvent :=
  let levels := snapshot.receiverLevels.toLevels
  if p.receiverLevels == some levels then (p, [])
  else ({ p with receiverLevels := some levels }, [.receiverLevelsChanged levels])

def projectLatency : Projection × List ControllerEvent :=
  let latency := latencyEcho snapshot.latencyPreset snapshot.latencyPresets
  if p.latency = some latency then (p, [])
  else ({ p with latency := some latency }, [.latencyChanged latency])

/-- The endpoint table moves on even when the reading did not. -/
def projectAudio : Projection × List ControllerEvent :=
  let (endpoints, audio) := audioEcho snapshot.audioSource p.endpoints
  if p.audio = some audio then ({ p with endpoints := endpoints }, [])
  else ({ p with endpoints := endpoints, audio := some audio }, [.audioSourceChanged audio])

/-- Derives the shell events one backend snapshot implies. -/
def project : Projection × List ControllerEvent :=
  let (p, volume) := p.projectVolume snapshot
  let (p, desired) := p.projectDesired snapshot
  let (p, groups) := p.projectGroups snapshot
  let (p, discovery) := p.projectDiscovery snapshot seen
  let (p, session) := p.projectSession snapshot seen
  let (p, mute) := p.projectMute snapshot
  let (p, levels) := p.projectLevels snapshot
  let (p, latency) := p.projectLatency snapshot
  let (p, audio) := p.projectAudio snapshot
  (p, volume ++ desired ++ groups ++ discovery ++ session ++ mute ++ levels ++ latency ++ audio)

end Projection

end OpenAirCast.Bridge
