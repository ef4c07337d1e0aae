/-
App.Event — what the shell reacts to and what it asks for,
from `app/event.rs` and `app/effect.rs`.
-/
import OpenAirCast.App.State

namespace OpenAirCast

/-- Listening-check gestures; each originates from the user. -/
inductive HardwareCheckAction where
  | openPage
  | prepare (value : Bool)
  | lowerVolume
  | start
  | heard (heard : Bool)
  | cancel

inductive ControllerEvent where
  | savedGroupsChanged (groups : List SavedGroupReading)
  | groupOperationFinished (request : Nat) (status : GroupOperationStatus)
  | receiverLevelsChanged (levels : LevelMap)
  | discoveryCompleted (generation : GenerationId) (receivers : List ReceiverState)
  | discoveryFailed (generation : GenerationId) (summary : String)
  | desiredReceiversChanged (desiredRevision : Nat) (receiverIds : List DeviceId)
  | sessionStarted (generation : GenerationId) (activeReceiverIds : List DeviceId)
  | sessionDegraded (generation : GenerationId) (activeReceiverIds : List DeviceId)
  | sessionRestarting (generation : GenerationId)
  | sessionStopped (generation : GenerationId)
  | sessionFailed (generation : GenerationId) (summary : String)
  | volumeApplied (generation : GenerationId) (volume : F32)
  | muteChanged (muted : Bool)
  | latencyChanged (reading : LatencyReading)
  | audioSourceChanged (reading : AudioSourceReading)
  | diagnosticsUpdated (reading : DiagnosticsReading)
  | liveDiagnosticsUpdated (reading : LiveDiagnosticsReading)
  | channelClosed (summary : String)

inductive PreferencesEvent where
  | loaded (value : Preferences) (notice : Option UserNotice)
  | loadFailed (summary : String)
  | persisted (generation : GenerationId)
  | persistFailed (generation : GenerationId)
  | hotkeyReconfigured (generation : GenerationId) (applied : HotkeyBinding)
      (failure : Option String)

inductive AppEvent where
  | hardwareCheck (action : HardwareCheckAction)
  | groupRequested (command : GroupCommand)
  | navigate (page : Page)
  | mainWindowCloseRequested
  | showMainWindow
  | toggleStagedReceiver (receiver : DeviceId)
  | applyStagedReceivers
  | discardStagedReceivers
  | startRequested
  | stopRequested
  | globalHotkeyPressed
  | refreshRequested
  | masterVolumeChanged (volume : F32)
  | receiverLevelRequested (receiver : DeviceId) (level : F32)
  | muteChangeRequested (muted : Bool)
  | latencyChoiceRequested (choice : LatencyChoice)
  | audioEndpointRequested (request : AudioEndpointRequest)
  | themeChanged (theme : ThemePreference)
  | localeChanged (preference : LocalePreference)
  | advancedInformationChanged (enabled : Bool)
  | windowsDisplayLanguageChanged (locale : ResolvedLocale)
  | retryPreferencesPersistence
  | hotkeyChanged (binding : HotkeyBinding)
  | windowGeometryChanged (geometry : WindowGeometry)
  | controller (event : ControllerEvent)
  | preferences (event : PreferencesEvent)
  | quitRequested

inductive AppEffect where
  | playListeningTone (generation : GenerationId)
  | group (request : Nat) (generation : Option GenerationId) (command : GroupCommand)
  | applyReceiverLevel (receiver : DeviceId) (level : F32)
  | discover (generation : GenerationId)
  | startSession (generation : GenerationId) (receiverIds : List DeviceId) (volume : F32)
  | stopSession (generation : GenerationId)
  | applyVolume (generation : GenerationId) (volume : F32)
  | applyMute (muted : Bool)
  | applyLatency (choice : LatencyChoice)
  | applyAudioEndpoint (request : AudioEndpointRequest)
  | persistPreferences (generation : GenerationId) (value : Preferences)
  | reconfigureHotkey (generation : GenerationId) (value : HotkeyBinding)
  | showMainWindow
  | hideMainWindow
  | beginShutdown

end OpenAirCast
