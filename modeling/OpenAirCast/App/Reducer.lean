/-
App.Reducer — the one place an event turns into state, from
`app/reducer.rs`.

Every arm of the source is a function from the state to an `Outcome`: the
state it leaves, the effects it asks for and its own `snapshot_changed`
flag. `dispatch` is the event match, `observeHardwareCheck` the listening
check's second look at every event, `reduce` the whole.
-/
import Mathlib.Data.Prod.Lex
import OpenAirCast.App.HardwareCheck
import OpenAirCast.Lib.Keyed

namespace OpenAirCast

/-- `Transition`. -/
structure Transition where
  effects : List AppEffect
  snapshotChanged : Bool

/-- What one arm leaves behind. -/
structure Outcome where
  state : AppState
  effects : List AppEffect
  changed : Bool

/-- `next_generation`. -/
def nextGeneration (counter : GenerationId) : GenerationId := counter + 1

/-! ## Preferences -/

def PREFERENCES_PERSIST_FAILED_SUMMARY : String := "Your settings could not be saved."

variable (s : AppState)

/-- The whole current shell state as a preference value, never a patch. -/
def preferencesFromState : Preferences where
  schemaVersion := PREFERENCES_SCHEMA_VERSION
  hotkey := s.hotkey
  theme := s.theme
  locale := s.localePreference
  advancedInformation := s.advancedInformation
  window := s.window.geometry
  lastPage := s.page
  closeToTray := s.window.closeToTray
  launchAtStartup := s.window.launchAtStartup

/-- `persist_preferences`: the state with its counter raised, and the
effect. -/
def persistPreferences : AppState × AppEffect :=
  let generation := nextGeneration s.generations.preferences
  let s := { s with generations := { s.generations with preferences := generation } }
  (s, .persistPreferences generation (preferencesFromState s))

/-- The common tail of the arms that change a stored preference. -/
def persisting (changed : Bool) : Outcome :=
  let (s, effect) := persistPreferences s
  ⟨s, [effect], changed⟩

/-! ## Notices -/

def rejectInvalidInput (summary : String) : Outcome :=
  let notice : UserNotice :=
    { severity := .warning, code := .invalidInput, summary, action := none }
  ⟨{ s with notice := some notice }, [], decide (s.notice ≠ some notice)⟩

variable (notice : UserNotice)

def isDiscoveryFailedNotice : Bool := notice.code = .discoveryFailed

def preferencesPersistFailedNotice : UserNotice where
  severity := .warning
  code := .preferencesFailed
  summary := PREFERENCES_PERSIST_FAILED_SUMMARY
  action := some .retryPreferencesPersistence

def isScopedPersistenceNotice : Bool :=
  notice.code = .preferencesFailed && notice.action = some .retryPreferencesPersistence

def outranksPersistenceFailure : Bool := notice.severity = .error

/-- A matching live session disproves only the earlier session failure. -/
def clearSessionFailureNotice : AppState × Bool :=
  if s.notice.any (fun notice => notice.code = .sessionFailed) then
    ({ s with notice := none }, true)
  else (s, false)

/-! ## Receivers and the selection -/

/-- Ordered by availability, then name, then model. -/
def receiverPreferenceKey (r : ReceiverState) : Nat ×ₗ String ×ₗ String :=
  let availability := match r.availability with
    | .available => 0
    | .unavailable => 1
  toLex (availability, toLex (r.name, r.model))

def receiverPrecedes (candidate current : ReceiverState) : Bool :=
  decide (receiverPreferenceKey candidate < receiverPreferenceKey current)

/-- Drops the unavailable rows nobody selected. The flag says whether any
row went. -/
def pruneIrrelevantUnavailable : AppState × Bool :=
  let kept := s.receivers.filter (fun r =>
    r.availability = .available || r.id ∈ s.desiredReceivers || r.id ∈ s.stagedReceivers)
  ({ s with receivers := kept }, decide (kept.length ≠ s.receivers.length))

def availableSelectedIds : List DeviceId :=
  let selected := s.receivers.filter (fun r =>
    r.availability = .available && r.id ∈ s.desiredReceivers)
  sortedIds (selected.map (·.id)).toFinset

def firstAvailableReceiver [Lowercase] (s : AppState) : Option DeviceId :=
  let available := s.receivers.filter (fun r => r.availability = .available)
  (Keyed.minByKey (fun r => (toLex (toLowercase r.name, r.id) : String ×ₗ DeviceId))
    available).map (·.id)

def toggleStaged (receiver : DeviceId) : Outcome :=
  let staged := if receiver ∈ s.stagedReceivers then s.stagedReceivers.erase receiver
    else insert receiver s.stagedReceivers
  let (s, _) := pruneIrrelevantUnavailable { s with stagedReceivers := staged }
  ⟨s, [], true⟩

/-! ## Groups -/

/-- `matches!(command, GroupCommand::Apply { start: true, .. })`. -/
def GroupCommand.isStart : GroupCommand → Bool
  | .apply _ start => start
  | _ => false

def groupRequested (command : GroupCommand) : Outcome :=
  if s.shuttingDown || HardwareCheck.groupPending s then ⟨s, [], false⟩
  else
    let request := s.nextGroupRequest + 1
    let status := if s.controllerClosed then GroupOperationStatus.failed .closed else .pending
    let s := { s with
      nextGroupRequest := request
      groupOperation := some { request, command, status } }
    if s.controllerClosed then ⟨s, [], true⟩
    else
      -- a start from idle, failure or teardown gets a generation of its own
      if command.isStart && (s.stream.isStoppedOrFailed || s.stream.isStopping) then
        let generation := nextGeneration s.generations.session
        ⟨{ s with
            generations := { s.generations with session := generation }
            stream := .starting generation
            activeReceivers := ∅ },
          [.group request (some generation) command], true⟩
      else ⟨s, [.group request none command], true⟩

/-! ## Session requests -/

def startWithReceiverIds (receiverIds : List DeviceId) : Outcome :=
  let generation := nextGeneration s.generations.session
  ⟨{ s with
      generations := { s.generations with session := generation }
      stream := .starting generation
      activeReceivers := ∅ },
    [.startSession generation receiverIds (s.masterVolume.clamp F32.zero F32.one)], true⟩

def startRequested : Outcome :=
  if s.shuttingDown || !s.stream.isStoppedOrFailed then ⟨s, [], false⟩
  else
    let receiverIds := availableSelectedIds s
    if receiverIds.isEmpty then ⟨s, [], false⟩
    else if s.desiredKnown then startWithReceiverIds s (sortedIds s.desiredReceivers)
    else startWithReceiverIds s receiverIds

def stopRequested : Outcome :=
  if !s.stream.isRunning then ⟨s, [], false⟩
  else
    let generation := nextGeneration s.generations.session
    ⟨{ s with
        generations := { s.generations with session := generation }
        stream := .stopping generation
        activeReceivers := ∅ },
      [.stopSession generation], true⟩

/-- `apply_staged` while the backend's selection is unknown, first half:
the draft becomes the selection. -/
def adoptStaged : AppState :=
  let revision := s.desiredRevision + 1
  (pruneIrrelevantUnavailable { s with
    desiredRevision := revision
    desiredReceivers := s.stagedReceivers
    stagedBaseRevision := revision }).1

/-- Second half: a running session is sent the new selection. The stream
itself is left as it is. -/
def redirectSession : Outcome :=
  if !s.stream.isRunning then ⟨s, [], true⟩
  else
    let generation := nextGeneration s.generations.session
    let bumped := { s with generations := { s.generations with session := generation } }
    if s.desiredReceivers = ∅ then ⟨bumped, [.stopSession generation], true⟩
    else
      let receiverIds := availableSelectedIds s
      if receiverIds.isEmpty then ⟨s, [], true⟩
      else ⟨bumped, [.startSession generation receiverIds s.masterVolume], true⟩

/-- While the backend's selection is unknown the draft is applied here;
afterwards it goes to the backend as a group command. -/
def applyStaged : Outcome :=
  if s.desiredKnown then
    groupRequested s (.applySelection (sortedIds s.stagedReceivers))
  else redirectSession (adoptStaged s)

def discardStaged : Outcome :=
  if HardwareCheck.groupPending s then ⟨s, [], false⟩
  else
    let acknowledged := s.groupOperation.any (fun operation =>
      match operation.command with
      | .applySelection _ => true
      | _ => false)
    let membershipChanged := decide (s.stagedReceivers ≠ s.desiredReceivers)
      || decide (s.stagedBaseRevision ≠ s.desiredRevision)
    let (s, inventoryChanged) := pruneIrrelevantUnavailable { s with
      groupOperation := if acknowledged then none else s.groupOperation
      stagedReceivers := s.desiredReceivers
      stagedBaseRevision := s.desiredRevision }
    ⟨s, [], membershipChanged || inventoryChanged || acknowledged⟩

/-! ## Session answers -/

/-- `session_started` and `session_degraded` differ in the stream they
write. -/
def sessionRunning (stream : StreamState) (s : AppState) (generation : GenerationId)
    (activeReceiverIds : List DeviceId) : Outcome :=
  if generation ≠ s.generations.session then ⟨s, [], false⟩
  else
    let active := activeReceiverIds.toFinset
    let (s, retractsNotice) := clearSessionFailureNotice s
    ⟨{ s with stream := stream, activeReceivers := active }, [],
      decide (s.stream ≠ stream) || decide (s.activeReceivers ≠ active) || retractsNotice⟩

variable (generation : GenerationId)

def sessionStarted (activeReceiverIds : List DeviceId) : Outcome :=
  sessionRunning (.streaming generation) s generation activeReceiverIds

def sessionDegraded (activeReceiverIds : List DeviceId) : Outcome :=
  sessionRunning (.degraded generation) s generation activeReceiverIds

def sessionRestarting : Outcome :=
  if generation ≠ s.generations.session then ⟨s, [], false⟩
  else
    ⟨{ s with stream := .restarting generation, activeReceivers := ∅ }, [],
      decide (s.stream ≠ .restarting generation) || decide (s.activeReceivers ≠ ∅)⟩

def sessionStopped : Outcome :=
  if generation ≠ s.generations.session then ⟨s, [], false⟩
  else
    ⟨{ s with stream := .stopped, activeReceivers := ∅ }, [],
      decide (s.stream ≠ .stopped) || decide (s.activeReceivers ≠ ∅)⟩

def sessionFailed (summary : String) : Outcome :=
  if generation ≠ s.generations.session then ⟨s, [], false⟩
  else
    let notice : UserNotice :=
      { severity := .error, code := .sessionFailed, summary, action := some .retry }
    ⟨{ s with stream := .stopped, activeReceivers := ∅, notice := some notice }, [],
      decide (s.stream ≠ .stopped) || decide (s.activeReceivers ≠ ∅)
        || decide (s.notice ≠ some notice)⟩

/-! ## Discovery and the backend's selection -/

/-- A known row the browse missed stays, marked unavailable, while
somebody selected it. -/
def keepMissing (merged : List ReceiverState) (previous : ReceiverState) : List ReceiverState :=
  let isMissing := !merged.any (fun r => r.id = previous.id)
  let isRelevant := previous.id ∈ s.desiredReceivers ∨ previous.id ∈ s.stagedReceivers
  if isMissing ∧ isRelevant then merged ++ [{ previous with availability := .unavailable }]
  else merged

/-- The rows a completed browse leaves: one per reported id, then the
missing ones, in id order. -/
def mergedReceivers (report : List ReceiverState) : List ReceiverState :=
  let merged := Keyed.mergeLeast (fun r : ReceiverState => r.id) receiverPrecedes report
  (s.receivers.foldl (keepMissing s) merged).insertionSort (fun a b => a.id ≤ b.id)

def mergeDiscovery (report : List ReceiverState) : Outcome :=
  if generation ≠ s.generations.discovery then ⟨s, [], false⟩
  else
    let merged := mergedReceivers s report
    let retractsNotice := s.notice.any isDiscoveryFailedNotice
    ⟨{ s with
        discovery := .ready
        receivers := merged
        notice := if retractsNotice then none else s.notice }, [],
      decide (s.discovery ≠ .ready) || decide (s.receivers ≠ merged) || retractsNotice⟩

def discoveryFailed (summary : String) : Outcome :=
  if generation ≠ s.generations.discovery then ⟨s, [], false⟩
  else
    let discovery : DiscoveryState := .failed summary
    let notice : UserNotice :=
      { severity := .warning, code := .discoveryFailed, summary, action := some .refresh }
    ⟨{ s with discovery := discovery, notice := some notice }, [],
      decide (s.discovery ≠ discovery) || decide (s.notice ≠ some notice)⟩

def updateDesired (desiredRevision : Nat) (receiverIds : List DeviceId) :
    Outcome :=
  if desiredRevision < s.desiredRevision
      || (s.desiredKnown && decide (desiredRevision = s.desiredRevision)) then
    ⟨s, [], false⟩
  else
    let stagingWasClean := decide (s.stagedReceivers = s.desiredReceivers)
    let desired := receiverIds.toFinset
    let refresh := stagingWasClean || decide (s.stagedReceivers = desired)
    let (s, _) := pruneIrrelevantUnavailable { s with
      desiredKnown := true
      desiredReceivers := desired
      desiredRevision := desiredRevision
      stagedReceivers := if refresh then desired else s.stagedReceivers
      stagedBaseRevision := if refresh then desiredRevision else s.stagedBaseRevision }
    ⟨s, [], true⟩

def refreshRequested : Outcome :=
  if s.shuttingDown then ⟨s, [], false⟩
  else
    let generation := nextGeneration s.generations.discovery
    ⟨{ s with
        generations := { s.generations with discovery := generation }
        discovery := .discovering generation },
      [.discover generation], true⟩

/-! ## Readings the backend reports -/

/-- A reading that replaces the stored one; the newest always wins. -/
def diagnosticsUpdated (reading : DiagnosticsReading) : Outcome :=
  if s.diagnostics = some reading then ⟨s, [], false⟩
  else ⟨{ s with diagnostics := some reading }, [], true⟩

def liveDiagnosticsUpdated (reading : LiveDiagnosticsReading) : Outcome :=
  if s.controllerClosed || reading.generation ≠ s.generations.session
      || s.liveDiagnostics = some reading then
    ⟨s, [], false⟩
  else ⟨{ s with liveDiagnostics := some reading }, [], true⟩

def muteChanged (muted : Bool) : Outcome :=
  ⟨{ s with muted := some muted }, [], decide (s.muted ≠ some muted)⟩

def latencyChanged (reading : LatencyReading) : Outcome :=
  ⟨{ s with latency := some reading }, [], decide (s.latency ≠ some reading)⟩

def audioSourceChanged (reading : AudioSourceReading) : Outcome :=
  ⟨{ s with audioSource := some reading }, [], decide (s.audioSource ≠ some reading)⟩

def savedGroupsChanged (groups : List SavedGroupReading) : Outcome :=
  ⟨{ s with savedGroups := some groups }, [], s.savedGroups != some groups⟩

def receiverLevelsChanged (levels : LevelMap) : Outcome :=
  ⟨{ s with receiverLevels := some levels }, [], s.receiverLevels != some levels⟩

/-- Only the pending request's own outcome is taken. -/
def groupOperationFinished (request : Nat) (status : GroupOperationStatus) :
    Outcome :=
  match s.groupOperation with
  | some operation =>
    if operation.request = request ∧ operation.status = .pending then
      ⟨{ s with groupOperation := some { operation with status } }, [], true⟩
    else ⟨s, [], false⟩
  | none => ⟨s, [], false⟩

def volumeApplied (volume : F32) : Outcome :=
  let confirmed :=
    if volume.isFinite && (generation = 0 || generation = s.generations.volume) then
      some volume
    else s.confirmedMasterVolume
  let s := { s with confirmedMasterVolume := confirmed }
  if volume.isFinite && (generation = s.generations.volume
      || (generation = 0 && !s.volumePending)) then
    ⟨{ s with
        masterVolume := volume
        volumePending := if generation ≠ 0 then false else s.volumePending }, [],
      s.masterVolume != volume⟩
  else ⟨s, [], false⟩

def channelClosed (summary : String) : Outcome :=
  let volumeChanged := s.volumePending
  let operationChanged := HardwareCheck.groupPending s
  let notice : UserNotice :=
    { severity := .error, code := .controllerUnavailable, summary, action := none }
  ⟨{ s with
      controllerClosed := true
      masterVolume := if s.volumePending then s.confirmedMasterVolume.getD s.masterVolume
        else s.masterVolume
      volumePending := false
      groupOperation := if operationChanged then
          s.groupOperation.map (fun operation => { operation with status := .failed .closed })
        else s.groupOperation
      notice := some notice }, [],
    volumeChanged || operationChanged || decide (s.notice ≠ some notice)⟩

/-! ## Settings the user changes -/

def navigate (page : Page) : Outcome :=
  if s.page = page then ⟨s, [], false⟩ else persisting { s with page := page } true

def themeChanged (theme : ThemePreference) : Outcome :=
  if s.theme = theme then ⟨s, [], false⟩ else persisting { s with theme := theme } true

def localeChanged (preference : LocalePreference) : Outcome :=
  if s.localePreference = preference then ⟨s, [], false⟩
  else persisting { s with
    localePreference := preference
    resolvedLocale := preference.resolve s.windowsDisplayLocale } true

def advancedInformationChanged (enabled : Bool) : Outcome :=
  if s.advancedInformation = enabled then ⟨s, [], false⟩
  else persisting { s with advancedInformation := enabled } true

def windowsDisplayLanguageChanged (locale : ResolvedLocale) : Outcome :=
  let resolved := s.localePreference.resolve locale
  ⟨{ s with windowsDisplayLocale := locale, resolvedLocale := resolved }, [],
    decide (s.resolvedLocale ≠ resolved)⟩

def windowGeometryChanged (geometry : WindowGeometry) : Outcome :=
  match geometry.validate with
  | none => rejectInvalidInput s "Window geometry was ignored because it contains invalid values."
  | some valid =>
    if s.window.geometry == valid then ⟨s, [], false⟩
    else persisting { s with window := { s.window with geometry := valid } } true

def masterVolumeChanged (volume : F32) : Outcome :=
  if !volume.isFinite then
    rejectInvalidInput s "Master volume must be between 0% and 100%."
  else
    let clamped := volume.clamp F32.zero F32.one
    let generation := nextGeneration s.generations.volume
    ⟨{ s with
        generations := { s.generations with volume := generation }
        confirmedMasterVolume :=
          if !s.volumePending then some s.masterVolume else s.confirmedMasterVolume
        volumePending := true
        masterVolume := clamped },
      [.applyVolume generation clamped], s.masterVolume != clamped⟩

/-- The value is not claimed before the backend confirms it. -/
def receiverLevelRequested (receiver : DeviceId) (level : F32) : Outcome :=
  if s.shuttingDown || s.receiverLevels.isNone || !level.isFinite
      || !s.receivers.any (fun row => row.id = receiver) then
    ⟨s, [], false⟩
  else ⟨s, [.applyReceiverLevel receiver (level.clamp F32.zero F32.one)], false⟩

def muteChangeRequested (muted : Bool) : Outcome :=
  if s.muted = some muted then ⟨s, [], false⟩ else ⟨s, [.applyMute muted], false⟩

/-- Refused unless the newest reading says the profile is selectable. -/
def latencyChoiceRequested (choice : LatencyChoice) : Outcome :=
  match s.latency with
  | none => ⟨s, [], false⟩
  | some reading =>
    let selectable := reading.options.any (fun option =>
      option.choice = choice && option.unavailable.isNone)
    if !selectable then ⟨s, [], false⟩
    else if reading.selected = choice then ⟨s, [], false⟩
    else ⟨s, [.applyLatency choice], false⟩

/-- A key that is no longer on offer is refused. -/
def audioEndpointRequested (request : AudioEndpointRequest) : Outcome :=
  match s.audioSource with
  | none => ⟨s, [], false⟩
  | some reading =>
    let selection := match request with
      | .systemDefault => some AudioEndpointSelection.systemDefault
      | .endpoint key =>
        if reading.endpoints.any (fun choice => choice.key = key) then some (.chosen key)
        else none
    match selection with
    | none => ⟨s, [], false⟩
    | some selection =>
      if reading.selection = selection then ⟨s, [], false⟩
      else ⟨s, [.applyAudioEndpoint request], false⟩

def hotkeyChanged (binding : HotkeyBinding) : Outcome :=
  if s.hotkey = binding then ⟨s, [], false⟩
  else
    let generation := nextGeneration s.generations.hotkey
    ⟨{ s with generations := { s.generations with hotkey := generation } },
      [.reconfigureHotkey generation binding], false⟩

def hotkeyReconfigured (applied : HotkeyBinding) (failure : Option String) : Outcome :=
  if generation ≠ s.generations.hotkey then ⟨s, [], false⟩
  else
    let hotkeyMoved := decide (s.hotkey ≠ applied)
    let s := { s with hotkey := applied }
    match failure with
    | none => if !hotkeyMoved then ⟨s, [], false⟩ else persisting s true
    | some summary =>
      let notice : UserNotice :=
        { severity := .warning, code := .hotkeyFailed, summary, action := some .openSettings }
      let changed := hotkeyMoved || decide (s.notice ≠ some notice)
      let s := { s with notice := some notice }
      if !changed then ⟨s, [], false⟩ else persisting s true

def preferencesPersistFailed : Outcome :=
  if generation ≠ s.generations.preferences then ⟨s, [], false⟩
  else if s.notice.any outranksPersistenceFailure then ⟨s, [], false⟩
  else
    ⟨{ s with notice := some preferencesPersistFailedNotice }, [],
      decide (s.notice ≠ some preferencesPersistFailedNotice)⟩

def preferencesPersisted : Outcome :=
  if generation ≠ s.generations.preferences then ⟨s, [], false⟩
  else if !s.notice.any isScopedPersistenceNotice then ⟨s, [], false⟩
  else ⟨{ s with notice := none }, [], true⟩

def retryPreferencesPersistence : Outcome := persisting s false

def mainWindowCloseRequested : Outcome :=
  ⟨{ s with window := { s.window with visible := false } }, [.hideMainWindow], s.window.visible⟩

def showMainWindow : Outcome :=
  ⟨{ s with window := { s.window with visible := true } }, [.showMainWindow], !s.window.visible⟩

/-! ## Hotkey, quit and the check's own gestures -/

def selectFirstAvailableReceiver [Lowercase] (s : AppState) : AppState :=
  match firstAvailableReceiver s with
  | none => s
  | some candidate =>
    let revision := s.desiredRevision + 1
    { s with
      stagedReceivers := insert candidate s.stagedReceivers
      desiredReceivers := insert candidate s.desiredReceivers
      desiredRevision := revision
      stagedBaseRevision := revision }

/-- The last part of `global_hotkey_pressed`: complain when nothing
selected is available, else start. -/
def hotkeyStart : Outcome :=
  if (availableSelectedIds s).isEmpty then
    let notice : UserNotice :=
      { severity := .warning
        code := .noReceiverAvailable
        summary := "No AirPlay receiver is available right now."
        action := some .refresh }
    ⟨{ s with notice := some notice }, [], decide (s.notice ≠ some notice)⟩
  else startRequested s

def globalHotkeyPressed [Lowercase] (s : AppState) : Outcome :=
  if s.shuttingDown then ⟨s, [], false⟩
  else if s.stream.isStartingOrStreaming then stopRequested s
  else if (availableSelectedIds s).isEmpty && decide (s.desiredReceivers = ∅) then
    if s.desiredKnown then
      match (if s.stream.isStoppedOrFailed then firstAvailableReceiver s else none) with
      | some candidate => startWithReceiverIds s [candidate]
      | none => hotkeyStart s
    else hotkeyStart (selectFirstAvailableReceiver s)
  else hotkeyStart s

def quitRequested : Outcome :=
  if s.shuttingDown then ⟨s, [], false⟩
  else
    let (s, persist) := persistPreferences { s with shuttingDown := true }
    if s.stream.isRunning then
      let generation := nextGeneration s.generations.session
      ⟨{ s with
          generations := { s.generations with session := generation }
          stream := .stopping generation
          activeReceivers := ∅ },
        [persist, .stopSession generation, .hideMainWindow, .beginShutdown], true⟩
    else ⟨s, [persist, .hideMainWindow, .beginShutdown], true⟩

/-- The check's bookkeeping after a stop the user asked for. -/
def awaitStop (outcome : Option Bool) : AppState :=
  { s with hardwareCheck := { s.hardwareCheck with
      phase := .stopPending
      generation := some s.generations.session
      outcome := outcome } }

/-- 0.10, the volume `LowerVolume` asks for. -/
def loweredVolume : F32 := ⟨0x3DCCCCCD#32⟩

def hardwareCheckRequested (action : HardwareCheckAction) : Outcome :=
  if s.shuttingDown then ⟨s, [], false⟩
  else match action with
  | .openPage => ⟨{ s with page := .diagnostics }, [], true⟩
  | .prepare value =>
    ⟨{ s with hardwareCheck := { s.hardwareCheck with prepared := value } }, [], true⟩
  | .lowerVolume => masterVolumeChanged s loweredVolume
  | .start =>
    if !(HardwareCheckSnapshot.fromState s).ready || !s.hardwareCheck.prepared then
      ⟨s, [], false⟩
    else
      let result := startRequested s
      { result with state := { result.state with
          hardwareCheck := result.state.hardwareCheck.bind result.state } }
  | .heard heard =>
    if !(HardwareCheckSnapshot.fromState s).canConfirm then ⟨s, [], false⟩
    else
      let result := stopRequested s
      { result with state := awaitStop result.state (some heard) }
  | .cancel =>
    if s.hardwareCheck.phase ≠ .connecting ∧ s.hardwareCheck.phase ≠ .listening then
      ⟨s, [], false⟩
    else
      let result := stopRequested s
      { result with state := awaitStop result.state none }

/-! ## The event match -/

def dispatch [Lowercase] (s : AppState) : AppEvent → Outcome
  | .hardwareCheck action => hardwareCheckRequested s action
  | .groupRequested command => groupRequested s command
  | .controller (.savedGroupsChanged groups) => savedGroupsChanged s groups
  | .controller (.groupOperationFinished request status) => groupOperationFinished s request status
  | .toggleStagedReceiver receiver => toggleStaged s receiver
  | .applyStagedReceivers => applyStaged s
  | .discardStagedReceivers => discardStaged s
  | .startRequested => startRequested s
  | .stopRequested => stopRequested s
  | .navigate page => navigate s page
  | .mainWindowCloseRequested => mainWindowCloseRequested s
  | .showMainWindow => showMainWindow s
  | .globalHotkeyPressed => globalHotkeyPressed s
  | .refreshRequested => refreshRequested s
  | .masterVolumeChanged volume => masterVolumeChanged s volume
  | .receiverLevelRequested receiver level => receiverLevelRequested s receiver level
  | .controller (.receiverLevelsChanged levels) => receiverLevelsChanged s levels
  | .muteChangeRequested muted => muteChangeRequested s muted
  | .latencyChoiceRequested choice => latencyChoiceRequested s choice
  | .audioEndpointRequested request => audioEndpointRequested s request
  | .themeChanged theme => themeChanged s theme
  | .localeChanged preference => localeChanged s preference
  | .advancedInformationChanged enabled => advancedInformationChanged s enabled
  | .windowsDisplayLanguageChanged locale => windowsDisplayLanguageChanged s locale
  | .hotkeyChanged binding => hotkeyChanged s binding
  | .windowGeometryChanged geometry => windowGeometryChanged s geometry
  | .preferences (.hotkeyReconfigured generation applied failure) =>
    hotkeyReconfigured s generation applied failure
  | .preferences (.persisted generation) => preferencesPersisted s generation
  | .preferences (.persistFailed generation) => preferencesPersistFailed s generation
  | .retryPreferencesPersistence => retryPreferencesPersistence s
  | .quitRequested => quitRequested s
  | .controller (.discoveryCompleted generation receivers) => mergeDiscovery s generation receivers
  | .controller (.desiredReceiversChanged revision receiverIds) =>
    updateDesired s revision receiverIds
  | .controller (.sessionStarted generation active) => sessionStarted s generation active
  | .controller (.sessionDegraded generation active) => sessionDegraded s generation active
  | .controller (.sessionRestarting generation) => sessionRestarting s generation
  | .controller (.sessionStopped generation) => sessionStopped s generation
  | .controller (.sessionFailed generation summary) => sessionFailed s generation summary
  | .controller (.discoveryFailed generation summary) => discoveryFailed s generation summary
  | .controller (.channelClosed summary) => channelClosed s summary
  | .controller (.diagnosticsUpdated reading) => diagnosticsUpdated s reading
  | .controller (.liveDiagnosticsUpdated reading) => liveDiagnosticsUpdated s reading
  | .controller (.muteChanged muted) => muteChanged s muted
  | .controller (.latencyChanged reading) => latencyChanged s reading
  | .controller (.audioSourceChanged reading) => audioSourceChanged s reading
  | .controller (.volumeApplied generation volume) => volumeApplied s generation volume
  -- the settings file is read once, before the event loop exists
  | .preferences (.loaded _ _) => ⟨s, [], false⟩
  | .preferences (.loadFailed _) => ⟨s, [], false⟩

/-! ## The listening check's observer -/

/-- What the observer keeps of an event. -/
structure HardwareCheckObservation where
  configurationRequest : Bool
  faultGeneration : Option GenerationId
  stoppedGeneration : Option GenerationId

namespace HardwareCheckObservation

def isConfigurationRequest : AppEvent → Bool
  | .masterVolumeChanged _ | .receiverLevelRequested .. | .muteChangeRequested _
  | .latencyChoiceRequested _ | .audioEndpointRequested _ | .groupRequested _
  | .toggleStagedReceiver _ | .hardwareCheck .lowerVolume => true
  | _ => false

def faultOf : AppEvent → Option GenerationId
  | .controller (.sessionFailed generation _) => some generation
  | .controller (.sessionRestarting generation) => some generation
  | .controller (.sessionDegraded generation _) => some generation
  | _ => none

def stoppedOf : AppEvent → Option GenerationId
  | .controller (.sessionStopped generation) => some generation
  | _ => none

def fromEvent (event : AppEvent) : HardwareCheckObservation where
  configurationRequest := isConfigurationRequest event
  faultGeneration := faultOf event
  stoppedGeneration := stoppedOf event

end HardwareCheckObservation

/-- Ends a check that no longer holds: the session is stopped, by a stop
of the observer's own when the arm left none under way, and the check
waits for that stop. -/
def abandonCheck : AppState × List AppEffect :=
  let stop := stopRequested s
  let s := stop.state
  let (s, effects) :=
    if !s.stream.isStopping then
      let generation := nextGeneration s.generations.session
      ({ s with
          generations := { s.generations with session := generation }
          stream := .stopping generation },
        stop.effects ++ [.stopSession generation])
    else (s, stop.effects)
  (awaitStop s none, effects)

variable (event : HardwareCheckObservation)

/-- `Connecting` and `Listening`. -/
def observeRunning : AppState × List AppEffect :=
  let check := s.hardwareCheck
  if event.configurationRequest || !check.isMatching s
      || decide (check.generation ≠ some s.generations.session)
      || !s.stream.isStartingOrStreaming then
    abandonCheck s
  else if s.stream.isStreaming && decide (s.activeReceivers = s.desiredReceivers) then
    ({ s with hardwareCheck := { check with phase := .listening } },
      if check.phase = .connecting then [.playListeningTone s.generations.session] else [])
  else (s, [])

/-- Whether the event is a fault of the very session the check waits
on. -/
def matchingFault : Bool :=
  event.faultGeneration.isSome && decide (event.faultGeneration = s.hardwareCheck.generation)
    && decide (event.faultGeneration = some s.generations.session)

/-- The verdict a check that waits for its stop still holds. -/
def stopOutcome : Option Bool :=
  if event.configurationRequest || matchingFault s event || !s.hardwareCheck.isMatching s then
    none
  else s.hardwareCheck.outcome

/-- Whether the event acknowledges the stop the check waits for. -/
def acknowledgesStop : Bool :=
  event.stoppedGeneration.isSome && decide (event.stoppedGeneration = s.hardwareCheck.generation)
    && decide (s.stream = .stopped)

def verdictPhase : Option Bool → HardwareCheckPhase
  | some true => .heard
  | some false => .notHeard
  | none => .invalidated

/-- `StopPending`. -/
def observeStopPending : AppState :=
  let outcome := stopOutcome s event
  let check := { s.hardwareCheck with outcome := outcome }
  if acknowledgesStop s event then
    { s with hardwareCheck := { check with phase := verdictPhase outcome, prepared := false } }
  else { s with hardwareCheck := check }

/-- `Heard` and `NotHeard`. -/
def observeVerdict : AppState :=
  if event.configurationRequest || matchingFault s event || !s.hardwareCheck.isMatching s
      || decide (s.stream ≠ .stopped) then
    { s with hardwareCheck := { s.hardwareCheck with phase := .invalidated } }
  else s

/-- The part of the check's state whose movement counts as a change. -/
def HardwareCheck.visible (check : HardwareCheck) :
    HardwareCheckPhase × Option Bool × Bool × Option GenerationId :=
  (check.phase, check.outcome, check.prepared, check.generation)

def observeHardwareCheck : Outcome :=
  let (observed, effects) := match s.hardwareCheck.phase with
    | .connecting | .listening => observeRunning s event
    | .stopPending => (observeStopPending s event, [])
    | .heard | .notHeard => (observeVerdict s event, [])
    | .preparation | .invalidated => (s, [])
  ⟨observed, effects, decide (s.hardwareCheck.visible ≠ observed.hardwareCheck.visible)⟩

/-! ## The reducer -/

/-- The events a check that waits for its stop refuses. -/
def startsPlayback : AppEvent → Bool
  | .startRequested | .globalHotkeyPressed => true
  | .groupRequested command => command.isStart
  | _ => false

def finish (effects : List AppEffect) (snapshotChanged : Bool) : AppState × Transition :=
  (if snapshotChanged then { s with revision := s.revision + 1 } else s,
    { effects, snapshotChanged })

def reduce [Lowercase] (s : AppState) (event : AppEvent) : AppState × Transition :=
  if s.hardwareCheck.phase = .stopPending ∧ startsPlayback event = true then
    finish s [] false
  else
    let checkBefore := HardwareCheckSnapshot.fromState s
    let arm := dispatch s event
    let observed := observeHardwareCheck arm.state (.fromEvent event)
    finish observed.state (arm.effects ++ observed.effects) (arm.changed || observed.changed
        || decide (checkBefore ≠ HardwareCheckSnapshot.fromState observed.state))

end OpenAirCast
