/-
Backend.Model — the device backend's published snapshot, from
`backend/model.rs` and `backend/listening_check.rs`.

Translation notes.

* `ReceiverId([u8; 6])` and the shell's `DeviceId([u8; 6])` convert into
  each other without loss and are one type here.
* A `BTreeSet<ReceiverId>` is a `Finset`, read in order by `sortedIds`; a
  `BTreeMap<ReceiverId, Volume>` is a `VolumeMap`.
* Left out is what nothing in the shell reads: clock instants, attempt
  numbers, roles and setup phases, restart reasons, the snapshot's own
  `command_outcomes`, `auto_connect` and `persistence`, and the session's
  per-receiver bookkeeping.
-/
import OpenAirCast.App.State

namespace OpenAirCast.Backend

/-! ## Values -/

abbrev ReceiverId := DeviceId

/-- One octet as two uppercase hexadecimal digits. -/
def hexOctet (octet : Nat) : List Char :=
  let digit (n : Nat) : Char := if n < 10 then Char.ofNat (48 + n) else Char.ofNat (55 + n)
  [digit (octet / 16), digit (octet % 16)]

/-- `ReceiverId::to_string`: the octets separated by colons. -/
def displayId (id : ReceiverId) : String :=
  let n := id.octets.toNat
  let octets := [40, 32, 24, 16, 8, 0].map (fun shift => hexOctet ((n >>> shift) % 256))
  String.ofList (List.intercalate [':'] octets)

/-- A validated linear volume. -/
structure Volume where
  get : F32
  valid : get.isFinite = true ∧ F32.zero.le get = true ∧ get.le F32.one = true

namespace Volume

instance : BEq Volume := ⟨fun a b => a.get == b.get⟩

/-- 0.25 -/
def DEFAULT_MASTER : Volume := ⟨⟨0x3E800000#32⟩, by decide⟩

/-- `Volume::new`; `none` is its `Err`. -/
def new (value : F32) : Option Volume :=
  if h : value.isFinite = true ∧ F32.zero.le value = true ∧ value.le F32.one = true then
    some ⟨value, h⟩
  else none

end Volume

/-- `BTreeMap<ReceiverId, Volume>` as its entries in key order. -/
structure VolumeMap where
  entries : List (ReceiverId × Volume)
  sorted : entries.Pairwise (fun a b => a.1 < b.1)

namespace VolumeMap

instance : BEq VolumeMap := ⟨fun a b => a.entries == b.entries⟩

def empty : VolumeMap := ⟨[], List.Pairwise.nil⟩

variable (levels : VolumeMap)

def get (id : ReceiverId) : Option Volume :=
  (levels.entries.find? (fun entry => entry.1 = id)).map (·.2)

/-- The same map with the raw values. -/
def toLevels : LevelMap where
  entries := levels.entries.map (fun entry => (entry.1, entry.2.get))
  sorted := by
    rw [List.pairwise_map]
    exact levels.sorted

end VolumeMap

inductive RunIntent where
  | stopped
  | running
  deriving DecidableEq

inductive AudioEndpointPreference where
  | systemDefault
  | explicit (id : String) (lastKnownName : String)
  deriving DecidableEq

inductive LatencyPreset where
  | low
  | normal
  | stable
  deriving DecidableEq

structure LatencyPresetOption where
  preset : LatencyPreset
  disabledReason : Option String
  deriving DecidableEq

namespace LatencyPreset

def label : LatencyPreset → String
  | .low => "Low"
  | .normal => "Normal"
  | .stable => "Stable"

/-- Only `Normal` resolves to a configuration. -/
def isEnabled : LatencyPreset → Bool
  | .normal => true
  | .low | .stable => false

def disabledReason (preset : LatencyPreset) : Option String :=
  if preset.isEnabled then none
  else some ("the " ++ preset.label
    ++ " latency profile is disabled until hardware validation passes")

/-- Every preset with its availability. -/
def offered : List LatencyPresetOption :=
  [.low, .normal, .stable].map (fun preset => ⟨preset, preset.disabledReason⟩)

end LatencyPreset

/-! ## Receivers, groups and the session -/

inductive ReceiverLifecycle where
  | discovered
  | connecting
  | settingUp
  | ready
  | streaming
  | retryWaiting
  | unavailable
  | failed

structure ReceiverSnapshot where
  id : ReceiverId
  name : String
  model : String
  lifecycle : ReceiverLifecycle

structure SavedGroupMember where
  receiver : ReceiverId
  lastKnownName : String
  level : Volume
  deriving BEq

structure SavedGroupSnapshot where
  id : GroupId
  name : String
  members : List SavedGroupMember
  deriving BEq

inductive SessionPhase where
  | stopped
  | starting (generation : Nat)
  | streaming (generation : Nat)
  | degraded (generation : Nat)
  | restarting (generation : Nat)
  | stopping (generation : Nat)
  | failed (generation : Nat) (error : String)
  deriving DecidableEq

/-- The backend attempt a phase belongs to. -/
def SessionPhase.generation : SessionPhase → Option Nat
  | .starting generation | .streaming generation | .degraded generation
  | .restarting generation | .stopping generation | .failed generation _ => some generation
  | .stopped => none

structure SessionSnapshot where
  phase : SessionPhase := .stopped
  /-- Receivers with successfully negotiated connections. -/
  active : Finset ReceiverId := ∅

inductive DiscoveryPhase where
  | stopped
  | running
  | retrying

/-! ## Capture -/

structure AudioEndpoint where
  id : String
  name : String
  deriving DecidableEq

inductive AudioSourceState where
  | capturing
  | silentSystem
  | recovering
  | unavailable
  | failed
  deriving DecidableEq

structure AudioSourceSnapshot where
  /-- Last successful scan; `none` before the first one. -/
  activeEndpoints : Option (List AudioEndpoint) := none
  refreshFailed : Bool := false
  preference : AudioEndpointPreference := .systemDefault
  capturedEndpoint : Option AudioEndpoint := none
  state : AudioSourceState := .unavailable
  deriving DecidableEq

/-! ## The snapshot -/

/-- `DeviceSnapshot`, with the defaults of `DeviceSnapshot::default`. -/
structure DeviceSnapshot where
  revision : Nat := 0
  desiredRevision : Nat := 0
  discovery : DiscoveryPhase := .stopped
  receivers : List ReceiverSnapshot := []
  savedGroups : List SavedGroupSnapshot := []
  desiredMembers : Finset ReceiverId := ∅
  runIntent : RunIntent := .stopped
  session : SessionSnapshot := {}
  audioSource : AudioSourceSnapshot := {}
  masterVolume : Volume := .DEFAULT_MASTER
  receiverLevels : VolumeMap := .empty
  muted : Bool := false
  latencyPreset : LatencyPreset := .normal
  latencyPresets : List LatencyPresetOption := LatencyPreset.offered

/-! ## The listening test's guard -/

/-- The audio configuration one listening test was authorised for. -/
structure ListeningTestGuard where
  generation : Nat
  members : Finset ReceiverId
  volume : Volume
  levels : VolumeMap
  endpoint : AudioEndpointPreference
  captured : Option AudioEndpoint

namespace ListeningTestGuard

/-- 0.15 -/
def loudest : F32 := ⟨0x3E19999A#32⟩

variable (s : DeviceSnapshot)

/-- What keeps a snapshot from being tested on. -/
def refuses : Bool :=
  decide (s.runIntent ≠ .running)
    || s.muted
    || decide (s.desiredMembers = ∅)
    || decide (s.session.active ≠ s.desiredMembers)
    || s.masterVolume.get.le F32.zero
    || loudest.lt s.masterVolume.get
    || decide (s.latencyPreset ≠ .normal)
    || !(decide (s.audioSource.state = .capturing)
        || decide (s.audioSource.state = .silentSystem))
    || (sortedIds s.desiredMembers).any (fun id =>
        (s.receiverLevels.get id).any (fun level => level.get.le F32.zero))

/-- Captures only a fully connected, unmuted and low-volume configuration. -/
def capture : Option ListeningTestGuard :=
  match s.session.phase with
  | .streaming generation =>
    if refuses s then none
    else some {
      generation
      members := s.desiredMembers
      volume := s.masterVolume
      levels := s.receiverLevels
      endpoint := s.audioSource.preference
      captured := s.audioSource.capturedEndpoint }
  | _ => none

end ListeningTestGuard

end OpenAirCast.Backend
