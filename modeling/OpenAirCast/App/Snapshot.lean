/-
App.Snapshot — what the window sees of the state, from
`app/snapshot.rs`, and the state the shell starts in, from
`app/mod.rs` (`initial_state`) and `preferences.rs`
(`PreferencesRepository::load`).

The JSON codec is not modelled: `PreferencesRepository` holds what the
two files read as. `load` and `initialState` are the source's.
-/
import OpenAirCast.App.Reducer

namespace OpenAirCast

/-! ## The projection -/

structure WindowSnapshot where
  visible : Bool
  geometry : WindowGeometry
  closeToTray : Bool
  deriving BEq

inductive DiscoverySnapshot where
  | idle
  | discovering
  | ready
  | failed (summary : String)
  deriving DecidableEq

structure ReceiverSnapshot where
  id : DeviceId
  name : String
  model : String
  availability : Availability
  deriving DecidableEq

inductive StreamSnapshot where
  | stopped
  | starting (generation : GenerationId)
  | streaming (generation : GenerationId)
  | degraded (generation : GenerationId)
  | restarting (generation : GenerationId)
  | stopping (generation : GenerationId)
  | failed (generation : GenerationId) (summary : String)
  deriving DecidableEq

structure UiSnapshot where
  revision : Nat
  savedGroups : Option (List SavedGroupReading)
  groupOperation : Option GroupOperation
  desiredRevision : Nat
  page : Page
  window : WindowSnapshot
  discovery : DiscoverySnapshot
  receivers : List ReceiverSnapshot
  desiredReceivers : List DeviceId
  stagedReceivers : List DeviceId
  stagedMembershipDirty : Bool
  stagedMembershipStale : Bool
  activeReceivers : List DeviceId
  stream : StreamSnapshot
  masterVolume : F32
  receiverLevels : Option LevelMap
  theme : ThemePreference
  localePreference : LocalePreference
  resolvedLocale : ResolvedLocale
  advancedInformation : Bool
  hotkey : HotkeyBinding
  notice : Option UserNotice
  muted : Option Bool
  latency : Option LatencyReading
  audioSource : Option AudioSourceReading
  diagnostics : Option DiagnosticsReading
  liveDiagnostics : Option LiveDiagnosticsReading
  hardwareCheck : HardwareCheckSnapshot
  canStart : Bool
  canStop : Bool
  shuttingDown : Bool
  deriving BEq

def streamSnapshot : StreamState → StreamSnapshot
  | .stopped => .stopped
  | .starting generation => .starting generation
  | .streaming generation => .streaming generation
  | .degraded generation => .degraded generation
  | .restarting generation => .restarting generation
  | .stopping generation => .stopping generation
  | .failed generation summary => .failed generation summary

def discoverySnapshot : DiscoveryState → DiscoverySnapshot
  | .idle => .idle
  | .discovering _ => .discovering
  | .ready => .ready
  | .failed summary => .failed summary

/-- Rows by lowered name, then id. -/
def receiverRows [Lowercase] (receivers : List ReceiverState) : List ReceiverSnapshot :=
  (receivers.map (fun r => ⟨r.id, r.name, r.model, r.availability⟩)).insertionSort
    (fun left right => (toLex (toLowercase left.name, left.id) : String ×ₗ DeviceId)
      ≤ toLex (toLowercase right.name, right.id))

def UiSnapshot.fromState [Lowercase] (s : AppState) : UiSnapshot :=
  let dirty := decide (s.stagedReceivers ≠ s.desiredReceivers)
  let hasAvailableDesiredReceiver := s.receivers.any (fun r =>
    r.availability = .available && r.id ∈ s.desiredReceivers)
  { revision := s.revision
    savedGroups := s.savedGroups
    groupOperation := s.groupOperation
    desiredRevision := s.desiredRevision
    page := s.page
    window := ⟨s.window.visible, s.window.geometry, s.window.closeToTray⟩
    discovery := discoverySnapshot s.discovery
    receivers := receiverRows s.receivers
    desiredReceivers := sortedIds s.desiredReceivers
    stagedReceivers := sortedIds s.stagedReceivers
    stagedMembershipDirty := dirty
    stagedMembershipStale := dirty && decide (s.stagedBaseRevision < s.desiredRevision)
    activeReceivers := sortedIds s.activeReceivers
    stream := streamSnapshot s.stream
    masterVolume := s.masterVolume
    receiverLevels := s.receiverLevels
    theme := s.theme
    localePreference := s.localePreference
    resolvedLocale := s.resolvedLocale
    advancedInformation := s.advancedInformation
    hotkey := s.hotkey
    notice := s.notice
    muted := s.muted
    latency := s.latency
    audioSource := s.audioSource
    diagnostics := s.diagnostics
    liveDiagnostics := s.liveDiagnostics.filter (fun reading =>
      !s.controllerClosed && decide (reading.generation = s.generations.session))
    hardwareCheck := HardwareCheckSnapshot.fromState s
    canStart := s.stream.isStoppedOrFailed && hasAvailableDesiredReceiver
    canStop := s.stream.isRunning
    shuttingDown := s.shuttingDown }

/-! ## Startup -/

/-- What the two settings files read as: absent or unreadable, present
but refused by their parser, or a value. -/
structure PreferencesRepository where
  settings : Option (Option Preferences)
  legacyHotkey : Option (Option HotkeyBinding)

structure PreferencesLoad where
  value : Preferences
  notice : Option UserNotice

def invalidPreferencesNotice (summary : String) : UserNotice where
  severity := .warning
  code := .preferencesFailed
  summary := summary
  action := some .openSettings

def LEGACY_INVALID_NOTICE : String :=
  "The previously saved shortcut was ignored because it is invalid."

def CORRUPT_JSON_NOTICE : String :=
  "Saved settings could not be read and were reset to their defaults."

def PreferencesRepository.load (files : PreferencesRepository) : PreferencesLoad :=
  match files.settings with
  | some (some value) => ⟨value, none⟩
  | some none => ⟨{}, some (invalidPreferencesNotice CORRUPT_JSON_NOTICE)⟩
  | none =>
    match files.legacyHotkey with
    | some (some hotkey) => ⟨{ hotkey }, none⟩
    | some none => ⟨{}, some (invalidPreferencesNotice LEGACY_INVALID_NOTICE)⟩
    | none => ⟨{}, none⟩

def initialState (loaded : PreferencesLoad) (windowsDisplayLocale : ResolvedLocale) : AppState where
  hotkey := loaded.value.hotkey
  theme := loaded.value.theme
  page := loaded.value.lastPage
  localePreference := loaded.value.locale
  windowsDisplayLocale := windowsDisplayLocale
  resolvedLocale := loaded.value.locale.resolve windowsDisplayLocale
  advancedInformation := loaded.value.advancedInformation
  window :=
    { visible := true
      geometry := loaded.value.window.validate.getD {}
      closeToTray := loaded.value.closeToTray
      launchAtStartup := loaded.value.launchAtStartup }
  notice := loaded.notice

end OpenAirCast
