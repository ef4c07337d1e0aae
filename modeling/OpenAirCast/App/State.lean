/-
App.State — the shell's data model, from `app/state.rs` and
`app/live_diagnostics.rs`.

Translation notes.

* A `HashSet<DeviceId>` is a `Finset`, a `BTreeMap<DeviceId, f32>` is a
  `LevelMap`: its entries in key order, with the ordering as a field.
* `DeviceId([u8; 6])` is the six octets read as one big-endian number, so
  the lexicographic order of the octets is the order of the numbers.
* `f32` is `F32`. Types that hold one derive `BEq`, which is the source's
  derived `PartialEq`; all others derive `DecidableEq`.
* `u64` counters are `Nat`.
* `str::to_lowercase` rests on the Unicode tables of the source's
  standard library. It enters as the class `Lowercase`, and everything
  proved about the shell holds for every such function.
-/
import Mathlib.Data.Finset.Card
import Mathlib.Data.List.Sort
import Mathlib.Data.String.Basic
import OpenAirCast.Lib.Binary32

namespace OpenAirCast

open List

/-- `str::to_lowercase`. -/
class Lowercase where
  toLowercase : String → String

export Lowercase (toLowercase)

/-- Every string is lowered character by character, ASCII letters only.
Agrees with the full mapping on ASCII strings. -/
abbrev asciiLowercase : Lowercase := ⟨String.toLower⟩

/-! ## Identities -/

/-- Stable receiver identity: a MAC address. -/
structure DeviceId where
  octets : BitVec 48
  deriving DecidableEq

instance : LinearOrder DeviceId :=
  LinearOrder.lift' (fun d => d.octets.toNat) (by
    intro a b h
    cases a; cases b
    congr 1
    exact BitVec.eq_of_toNat_eq h)

/-- A set collected into a list and sorted. -/
def sortedIds (ids : Finset DeviceId) : List DeviceId :=
  Quot.liftOn ids.val (fun l => l.insertionSort (· ≤ ·)) (fun a b hab =>
    ((List.perm_insertionSort _ a).trans
      (hab.trans (List.perm_insertionSort _ b).symm)).eq_of_pairwise
      (fun _ _ _ _ h₁ h₂ => le_antisymm h₁ h₂)
      (List.pairwise_insertionSort _ a) (List.pairwise_insertionSort _ b))

variable {ids : Finset DeviceId}

@[simp] theorem mem_sortedIds {id : DeviceId} : id ∈ sortedIds ids ↔ id ∈ ids := by
  obtain ⟨l, hl⟩ := ids
  induction l using Quot.inductionOn with
  | h => exact mem_insertionSort _

theorem sortedIds_nodup (ids : Finset DeviceId) : (sortedIds ids).Nodup := by
  obtain ⟨l, hl⟩ := ids
  induction l using Quot.inductionOn with
  | h l => exact (perm_insertionSort _ l).nodup_iff.mpr hl

theorem sortedIds_pairwise (ids : Finset DeviceId) : (sortedIds ids).Pairwise (· ≤ ·) := by
  obtain ⟨l, _⟩ := ids
  induction l using Quot.inductionOn with
  | h l => exact pairwise_insertionSort _ l

/-- A renaming that keeps the order keeps the order of the list. -/
theorem sortedIds_image {f : DeviceId → DeviceId} (hf : StrictMonoOn f {id | id ∈ ids}) :
    sortedIds (ids.image f) = (sortedIds ids).map f := by
  have hn : ((sortedIds ids).map f).Nodup := by
    refine (nodup_map_iff_inj_on (sortedIds_nodup ids)).mpr (fun a ha b hb hab => ?_)
    exact hf.injOn (mem_sortedIds.mp ha) (mem_sortedIds.mp hb) hab
  have hp : (sortedIds (ids.image f)).Perm ((sortedIds ids).map f) := by
    refine (perm_ext_iff_of_nodup (sortedIds_nodup _) hn).mpr (fun id => ?_)
    simp
  have hs : ((sortedIds ids).map f).Pairwise (· ≤ ·) := by
    rw [pairwise_map]
    refine (sortedIds_pairwise ids).imp_of_mem (fun ha hb hle => ?_)
    exact hf.monotoneOn (mem_sortedIds.mp ha) (mem_sortedIds.mp hb) hle
  exact hp.eq_of_pairwise (fun _ _ _ _ h₁ h₂ => le_antisymm h₁ h₂) (sortedIds_pairwise _) hs

/-- `GenerationId(u64)`. -/
abbrev GenerationId := Nat

/-- Stable saved-template identity (a UUID). -/
structure GroupId where
  uuid : BitVec 128
  deriving DecidableEq

/-- `BTreeMap<DeviceId, f32>` as its entries in key order. -/
structure LevelMap where
  entries : List (DeviceId × F32)
  sorted : entries.Pairwise (fun a b => a.1 < b.1)

namespace LevelMap

def get (levels : LevelMap) (id : DeviceId) : Option F32 :=
  (levels.entries.find? (fun entry => entry.1 = id)).map (·.2)

def empty : LevelMap := ⟨[], List.Pairwise.nil⟩

instance : BEq LevelMap := ⟨fun a b => a.entries == b.entries⟩

end LevelMap

/-! ## Saved groups -/

structure GroupMember where
  receiver : DeviceId
  name : String
  level : F32
  deriving BEq

structure SavedGroupReading where
  id : GroupId
  name : String
  members : List GroupMember
  availableMembers : Finset DeviceId
  deriving BEq

inductive GroupCommand where
  | save (id : Option GroupId) (name : String) (members : List GroupMember)
  | delete (id : GroupId)
  | apply (id : GroupId) (start : Bool)
  | applySelection (receiverIds : List DeviceId)
  deriving BEq

inductive GroupFailure where
  | busy
  | closed
  | validation
  | persistence
  | confirmationLost
  deriving DecidableEq

inductive GroupOperationStatus where
  | pending
  | succeeded
  | failed (failure : GroupFailure)
  deriving DecidableEq

structure GroupOperation where
  request : Nat
  command : GroupCommand
  status : GroupOperationStatus
  deriving BEq

/-! ## Window and preferences -/

inductive Page where
  | home
  | speakers
  | groups
  | audio
  | diagnostics
  | settings
  deriving DecidableEq

inductive ThemePreference where
  | system
  | light
  | dark
  deriving DecidableEq

inductive LocalePreference where
  | system
  | german
  | english
  deriving DecidableEq

inductive ResolvedLocale where
  | german
  | english
  deriving DecidableEq

/-- The language a preference renders in, given the Windows one. -/
def LocalePreference.resolve (preference : LocalePreference)
    (windows : ResolvedLocale) : ResolvedLocale :=
  match preference with
  | .system => windows
  | .german => .german
  | .english => .english

def MOD_ALT : BitVec 32 := 0x0001#32
def MOD_CONTROL : BitVec 32 := 0x0002#32

structure HotkeyBinding where
  enabled : Bool := true
  modifiers : BitVec 32 := MOD_CONTROL ||| MOD_ALT
  virtualKey : BitVec 32 := 0x48#32
  deriving DecidableEq

structure WindowGeometry where
  x : Option F32 := none
  y : Option F32 := none
  /-- 1120.0 -/
  width : F32 := ⟨0x448C0000#32⟩
  /-- 720.0 -/
  height : F32 := ⟨0x44340000#32⟩
  maximized : Bool := false
  deriving BEq

namespace WindowGeometry

/-- 900.0 -/
def minWidth : F32 := ⟨0x44610000#32⟩
/-- 600.0 -/
def minHeight : F32 := ⟨0x44160000#32⟩

def validate (geometry : WindowGeometry) : Option WindowGeometry :=
  if !geometry.width.isFinite || !geometry.height.isFinite
      || geometry.x.any (fun x => !x.isFinite) || geometry.y.any (fun y => !y.isFinite) then
    none
  else
    some { geometry with
      width := geometry.width.max minWidth
      height := geometry.height.max minHeight }

end WindowGeometry

structure WindowState where
  visible : Bool := true
  geometry : WindowGeometry := {}
  closeToTray : Bool := true
  launchAtStartup : Bool := false

def PREFERENCES_SCHEMA_VERSION : Nat := 2

structure Preferences where
  schemaVersion : Nat := PREFERENCES_SCHEMA_VERSION
  hotkey : HotkeyBinding := {}
  theme : ThemePreference := .system
  locale : LocalePreference := .system
  advancedInformation : Bool := false
  window : WindowGeometry := {}
  lastPage : Page := .home
  closeToTray : Bool := true
  launchAtStartup : Bool := false

/-! ## Receivers and the stream -/

inductive DiscoveryState where
  | idle
  | discovering (generation : GenerationId)
  | ready
  | failed (summary : String)
  deriving DecidableEq

inductive Availability where
  | available
  | unavailable
  deriving DecidableEq

structure ReceiverState where
  id : DeviceId
  name : String
  model : String
  availability : Availability
  deriving DecidableEq

inductive StreamState where
  | stopped
  | starting (generation : GenerationId)
  | streaming (generation : GenerationId)
  | degraded (generation : GenerationId)
  | restarting (generation : GenerationId)
  | stopping (generation : GenerationId)
  | failed (generation : GenerationId) (summary : String)
  deriving DecidableEq

namespace StreamState

/-- Whether a session exists that the user can end. -/
def isRunning : StreamState → Bool
  | .starting _ | .streaming _ | .degraded _ | .restarting _ => true
  | .stopped | .stopping _ | .failed .. => false

/-- `matches!(stream, Starting { .. } | Streaming { .. })`. -/
def isStartingOrStreaming : StreamState → Bool
  | .starting _ | .streaming _ => true
  | _ => false

/-- `matches!(stream, Streaming { .. })`. -/
def isStreaming : StreamState → Bool
  | .streaming _ => true
  | _ => false

/-- `matches!(stream, Stopping { .. })`. -/
def isStopping : StreamState → Bool
  | .stopping _ => true
  | _ => false

/-- `matches!(stream, Stopped | Failed { .. })`. -/
def isStoppedOrFailed : StreamState → Bool
  | .stopped | .failed .. => true
  | _ => false

/-- `matches!(stream, Failed { .. })`. -/
def isFailed : StreamState → Bool
  | .failed .. => true
  | _ => false

end StreamState

/-! ## Audio readings -/

inductive LatencyChoice where
  | low
  | normal
  | stable
  deriving DecidableEq

inductive LatencyUnavailable where
  | notValidated
  deriving DecidableEq

structure LatencyOption where
  choice : LatencyChoice
  unavailable : Option LatencyUnavailable
  deriving DecidableEq

structure LatencyReading where
  selected : LatencyChoice
  options : List LatencyOption
  deriving DecidableEq

/-- Opaque handle for one Windows capture endpoint. -/
structure AudioEndpointKey where
  key : Nat
  deriving DecidableEq

structure AudioEndpointChoice where
  key : AudioEndpointKey
  name : String
  deriving DecidableEq

inductive AudioEndpointSelection where
  | systemDefault
  | chosen (key : AudioEndpointKey)
  | chosenButMissing (name : String)
  | chosenUnverified (name : String)
  deriving DecidableEq

inductive CaptureState where
  | capturing
  | silentSystem
  | recovering
  | unavailable
  | failed
  deriving DecidableEq

structure AudioSourceReading where
  endpointsKnown : Bool
  refreshFailed : Bool
  endpoints : List AudioEndpointChoice
  selection : AudioEndpointSelection
  capturedKey : Option AudioEndpointKey
  capturedName : Option String
  state : CaptureState
  deriving DecidableEq

inductive AudioEndpointRequest where
  | systemDefault
  | endpoint (key : AudioEndpointKey)

/-! ## Notices and diagnostics -/

inductive Severity where
  | info
  | warning
  | error
  deriving DecidableEq

inductive NoticeCode where
  | noReceiverAvailable
  | discoveryFailed
  | sessionFailed
  | controllerUnavailable
  | preferencesFailed
  | hotkeyFailed
  | invalidInput
  deriving DecidableEq

inductive CorrectiveAction where
  | refresh
  | retry
  | openSettings
  | retryPreferencesPersistence
  deriving DecidableEq

structure UserNotice where
  severity : Severity
  code : NoticeCode
  summary : String
  action : Option CorrectiveAction
  deriving DecidableEq

inductive DiagnosticsHealth where
  | unknown
  | running
  | attention
  | error
  deriving DecidableEq

structure DiagnosticsReading where
  health : DiagnosticsHealth
  eventsDroppedTotal : Nat
  measuredReceivers : Nat
  deriving DecidableEq

structure BufferDiagnosticsReading where
  queuedFrames : Nat
  capacityFrames : Nat
  bufferedMs : Nat
  underruns : Nat
  deriving DecidableEq

structure TransportDiagnosticsReading where
  packetsAccepted : Nat
  bytesAccepted : Nat
  sendFailures : Nat
  retransmitRequests : Nat
  deriving DecidableEq

inductive DiagnosticReceiverState where
  | ready
  | connecting
  | streaming
  | recovering
  | offline
  | failed
  deriving DecidableEq

inductive DiagnosticIssue where
  | pairing
  | setup
  | capture
  | timing
  | transport
  | feedback
  | teardown
  | other
  deriving DecidableEq

structure ReceiverDiagnosticsReading where
  id : DeviceId
  state : DiagnosticReceiverState
  transport : Option TransportDiagnosticsReading
  issue : Option DiagnosticIssue
  deriving DecidableEq

structure LiveDiagnosticsReading where
  generation : GenerationId
  inputPeakPerMille : Option Nat
  captureDropsTotal : Nat
  buffer : Option BufferDiagnosticsReading
  receivers : List ReceiverDiagnosticsReading
  deriving DecidableEq

/-! ## The listening check's own state (`app/hardware_check.rs`) -/

/-- A result is terminal only after the matching stop acknowledgement. -/
inductive HardwareCheckPhase where
  | preparation
  | connecting
  | listening
  | stopPending
  | heard
  | notHeard
  | invalidated
  deriving DecidableEq

/-- What a check is bound to at Start. -/
structure Binding where
  receivers : Finset DeviceId
  endpoint : AudioEndpointSelection
  capturedKey : Option AudioEndpointKey
  capturedName : Option String
  volume : F32
  levels : LevelMap

structure HardwareCheck where
  phase : HardwareCheckPhase := .preparation
  prepared : Bool := false
  binding : Option Binding := none
  generation : Option GenerationId := none
  outcome : Option Bool := none

/-! ## The state -/

structure Generations where
  discovery : GenerationId := 0
  session : GenerationId := 0
  volume : GenerationId := 0
  preferences : GenerationId := 0
  hotkey : GenerationId := 0

/-- `AppState`, with the defaults of `AppState::default`. -/
structure AppState where
  revision : Nat := 0
  savedGroups : Option (List SavedGroupReading) := none
  groupOperation : Option GroupOperation := none
  nextGroupRequest : Nat := 0
  /-- Whether a backend selection reading has been accepted. -/
  desiredKnown : Bool := false
  controllerClosed : Bool := false
  desiredRevision : Nat := 0
  page : Page := .home
  window : WindowState := {}
  discovery : DiscoveryState := .idle
  receivers : List ReceiverState := []
  desiredReceivers : Finset DeviceId := ∅
  stagedReceivers : Finset DeviceId := ∅
  stagedBaseRevision : Nat := 0
  activeReceivers : Finset DeviceId := ∅
  stream : StreamState := .stopped
  /-- 0.25 -/
  masterVolume : F32 := ⟨0x3E800000#32⟩
  volumePending : Bool := false
  confirmedMasterVolume : Option F32 := none
  receiverLevels : Option LevelMap := none
  theme : ThemePreference := .system
  localePreference : LocalePreference := .system
  windowsDisplayLocale : ResolvedLocale := .english
  resolvedLocale : ResolvedLocale := .english
  advancedInformation : Bool := false
  hotkey : HotkeyBinding := {}
  notice : Option UserNotice := none
  muted : Option Bool := none
  latency : Option LatencyReading := none
  audioSource : Option AudioSourceReading := none
  diagnostics : Option DiagnosticsReading := none
  liveDiagnostics : Option LiveDiagnosticsReading := none
  hardwareCheck : HardwareCheck := {}
  shuttingDown : Bool := false
  generations : Generations := {}

end OpenAirCast
