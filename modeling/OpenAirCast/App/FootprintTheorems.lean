/-
App.FootprintTheorems — the parts of the state an arm of the
reducer can write.

`dispatch_within`: an arm writes the parts in the footprint of its event and
asks for the effects that go with them; everything else is as before. What
is kept of the session, the selection, the group operation, the volume and
the readings is read off from there.
-/
import OpenAirCast.App.Snapshot

namespace OpenAirCast

/-- The parts an arm may write. The settings, the notice and what the shell
knows of discovery and diagnostics belong to no part. -/
structure Footprint where
  session : Bool := false
  check : Bool := false
  selection : Bool := false
  draft : Bool := false
  rows : Bool := false
  groups : Bool := false
  volume : Bool := false
  readings : Bool := false
  quit : Bool := false

/-- The parts of `t` that the footprint names, and the other parts of `s`. -/
def AppState.within (s : AppState) (fp : Footprint) (t : AppState) : AppState :=
  { t with
    revision := s.revision
    generations := { t.generations with
      session := bif fp.session then t.generations.session else s.generations.session
      volume := bif fp.volume then t.generations.volume else s.generations.volume }
    stream := bif fp.session then t.stream else s.stream
    activeReceivers := bif fp.session then t.activeReceivers else s.activeReceivers
    hardwareCheck := { t.hardwareCheck with
      phase := bif fp.check then t.hardwareCheck.phase else s.hardwareCheck.phase
      binding := bif fp.check then t.hardwareCheck.binding else s.hardwareCheck.binding
      generation := bif fp.check then t.hardwareCheck.generation else s.hardwareCheck.generation
      outcome := bif fp.check then t.hardwareCheck.outcome else s.hardwareCheck.outcome }
    desiredKnown := bif fp.selection then t.desiredKnown else s.desiredKnown
    desiredRevision := bif fp.selection then t.desiredRevision else s.desiredRevision
    desiredReceivers := bif fp.selection then t.desiredReceivers else s.desiredReceivers
    stagedReceivers := bif fp.draft then t.stagedReceivers else s.stagedReceivers
    stagedBaseRevision := bif fp.draft then t.stagedBaseRevision else s.stagedBaseRevision
    receivers := bif fp.rows then t.receivers else s.receivers
    groupOperation := bif fp.groups then t.groupOperation else s.groupOperation
    nextGroupRequest := bif fp.groups then t.nextGroupRequest else s.nextGroupRequest
    controllerClosed := bif fp.groups then t.controllerClosed else s.controllerClosed
    masterVolume := bif fp.volume then t.masterVolume else s.masterVolume
    volumePending := bif fp.volume then t.volumePending else s.volumePending
    confirmedMasterVolume := bif fp.volume then t.confirmedMasterVolume else s.confirmedMasterVolume
    muted := bif fp.readings then t.muted else s.muted
    latency := bif fp.readings then t.latency else s.latency
    audioSource := bif fp.readings then t.audioSource else s.audioSource
    savedGroups := bif fp.readings then t.savedGroups else s.savedGroups
    receiverLevels := bif fp.readings then t.receiverLevels else s.receiverLevels
    shuttingDown := bif fp.quit then t.shuttingDown else s.shuttingDown }

/-- The effects that go with a footprint. While the shell quits, nothing is
discovered and no level is set. -/
def Footprint.permits (fp : Footprint) (quitting : Bool) : AppEffect → Bool
  | .startSession .. | .stopSession _ => fp.session
  | .group .. => fp.groups && fp.session
  | .applyVolume .. => fp.volume
  | .playListeningTone _ => false
  | .discover _ | .applyReceiverLevel .. => !quitting
  | .beginShutdown => fp.quit
  | _ => true

/-- Two states differ inside the footprint alone. -/
def Differ (fp : Footprint) (s t : AppState) : Prop := t = s.within fp t

theorem Differ.receivers {fp : Footprint} {s t : AppState} (h : Differ fp s t)
    (hr : fp.rows = false) : t.receivers = s.receivers := by
  rw [h]
  simp only [AppState.within, hr, cond_false]

theorem Differ.shuttingDown {fp : Footprint} {s t : AppState} (h : Differ fp s t)
    (hq : fp.quit = false) : t.shuttingDown = s.shuttingDown := by
  rw [h]
  simp only [AppState.within, hq, cond_false]

/-- A turn stays within its footprint. -/
structure Within (fp : Footprint) (s : AppState) (o : Outcome) : Prop where
  state : Differ fp s o.state
  effects : o.effects.all (fp.permits s.shuttingDown) = true

/-- The parts of either. -/
def Footprint.union (a b : Footprint) : Footprint where
  session := a.session || b.session
  check := a.check || b.check
  selection := a.selection || b.selection
  draft := a.draft || b.draft
  rows := a.rows || b.rows
  groups := a.groups || b.groups
  volume := a.volume || b.volume
  readings := a.readings || b.readings
  quit := a.quit || b.quit

namespace Within

variable {fp fp' : Footprint} {s t : AppState} {a b o : Outcome}

theorem refl (chg : Bool) : Within fp s ⟨s, [], chg⟩ := by
  refine ⟨?_, rfl⟩
  simp only [Differ, AppState.within, Bool.cond_self]

theorem ite {c : Prop} [Decidable c] (ha : Within fp s a) (hb : Within fp s b) :
    Within fp s (if c then a else b) := by
  split
  · exact ha
  · exact hb

theorem mono (h : Within fp s o) (hu : fp.union fp' = fp') : Within fp' s o := by
  rw [← hu]
  have hc : ∀ {α : Type} (c d : Bool) (x y : α),
      (bif c || d then bif c then x else y else y) = bif c then x else y := by
    intro α c d x y
    cases c <;> cases d <;> rfl
  constructor
  · have hs := congrArg (s.within (fp.union fp')) h.state
    refine h.state.trans (Eq.trans ?_ hs.symm)
    simp only [AppState.within, Footprint.union, hc]
  · refine List.all_eq_true.mpr (fun eff hmem => ?_)
    have hp := List.all_eq_true.mp h.effects eff hmem
    cases eff <;>
      simp only [Footprint.permits, Footprint.union, Bool.or_eq_true, Bool.and_eq_true] at hp ⊢ <;>
      tauto

theorem after (ht : Differ fp s t) (hq : t.shuttingDown = s.shuttingDown)
    (h : Within fp t o) : Within fp s o := by
  have hc : ∀ {α : Type} (c : Bool) (x y z : α),
      (bif c then x else bif c then y else z) = bif c then x else z := by
    intro α c x y z
    cases c <;> rfl
  refine ⟨h.state.trans ?_, hq ▸ h.effects⟩
  rw [ht]
  simp only [AppState.within, hc]

/-- The check's own part, written after the rest. -/
theorem checked (h : Within fp s o) (hc : fp.check = true) (check : HardwareCheck) :
    Within fp s { o with state := { o.state with hardwareCheck := check } } := by
  refine ⟨?_, h.effects⟩
  unfold Differ
  conv_lhs => rw [h.state]
  simp only [AppState.within, hc, cond_true]

end Within

/-- The parts the arm of an event may write. -/
def AppEvent.footprint : AppEvent → Footprint
  | .hardwareCheck .lowerVolume | .masterVolumeChanged _ => { volume := true }
  | .hardwareCheck .openPage | .hardwareCheck (.prepare _) => {}
  | .hardwareCheck _ => { session := true, check := true }
  | .groupRequested _ => { session := true, groups := true }
  | .toggleStagedReceiver _ => { draft := true, rows := true }
  | .applyStagedReceivers =>
    { session := true, selection := true, draft := true, rows := true, groups := true }
  | .discardStagedReceivers => { draft := true, rows := true, groups := true }
  | .startRequested | .stopRequested => { session := true }
  | .globalHotkeyPressed => { session := true, selection := true, draft := true }
  | .quitRequested => { session := true, quit := true }
  | .controller event => match event with
      | .savedGroupsChanged _ | .receiverLevelsChanged _ | .muteChanged _ | .latencyChanged _
      | .audioSourceChanged _ => { readings := true }
      | .groupOperationFinished _ _ => { groups := true }
      | .discoveryCompleted _ _ => { rows := true }
      | .desiredReceiversChanged _ _ => { selection := true, draft := true, rows := true }
      | .sessionStarted _ _ | .sessionDegraded _ _ | .sessionRestarting _ | .sessionStopped _
      | .sessionFailed _ _ => { session := true }
      | .volumeApplied _ _ => { volume := true }
      | .channelClosed _ => { groups := true, volume := true }
      | _ => {}
  | _ => {}

section Arms

variable (s : AppState)

theorem startRequested_within : Within { session := true } s (startRequested s) :=
  .ite ⟨rfl, rfl⟩ (.ite ⟨rfl, rfl⟩ (.ite ⟨rfl, rfl⟩ ⟨rfl, rfl⟩))

theorem stopRequested_within : Within { session := true } s (stopRequested s) :=
  .ite ⟨rfl, rfl⟩ ⟨rfl, rfl⟩

theorem groupRequested_within (cmd : GroupCommand) :
    Within { session := true, groups := true } s (groupRequested s cmd) :=
  .ite ⟨rfl, rfl⟩ (.ite ⟨rfl, rfl⟩ (.ite ⟨rfl, rfl⟩ ⟨rfl, rfl⟩))

theorem hotkeyStart_within : Within { session := true } s (hotkeyStart s) :=
  .ite ⟨rfl, rfl⟩ (startRequested_within s)

theorem redirectSession_within : Within { session := true } s (redirectSession s) :=
  .ite ⟨rfl, rfl⟩ (.ite ⟨rfl, rfl⟩ (.ite ⟨rfl, rfl⟩ ⟨rfl, rfl⟩))

theorem applyStaged_within : Within AppEvent.applyStagedReceivers.footprint s (applyStaged s) :=
  .ite ((groupRequested_within s _).mono rfl)
    (Within.after (t := adoptStaged s) rfl rfl ((redirectSession_within _).mono rfl))

theorem selectFirstAvailableReceiver_differ [Lowercase] :
    Differ { selection := true, draft := true } s (selectFirstAvailableReceiver s) := by
  unfold selectFirstAvailableReceiver
  split <;> rfl

theorem globalHotkeyPressed_within [Lowercase] :
    Within AppEvent.globalHotkeyPressed.footprint s (globalHotkeyPressed s) := by
  have hs : ∀ t, Within AppEvent.globalHotkeyPressed.footprint t (hotkeyStart t) :=
    fun t => (hotkeyStart_within t).mono rfl
  unfold globalHotkeyPressed
  refine .ite ⟨rfl, rfl⟩ (.ite ((stopRequested_within s).mono rfl) (.ite (.ite ?_ ?_) (hs s)))
  · split
    · exact ⟨rfl, rfl⟩
    · exact hs s
  · have hl := selectFirstAvailableReceiver_differ s
    exact .after (by rw [hl]; rfl) (hl.shuttingDown rfl) (hs _)

theorem quitRequested_within : Within AppEvent.quitRequested.footprint s (quitRequested s) :=
  .ite ⟨rfl, rfl⟩ (.ite ⟨rfl, rfl⟩ ⟨rfl, rfl⟩)

theorem masterVolumeChanged_within (volume : F32) :
    Within { volume := true } s (masterVolumeChanged s volume) := .ite ⟨rfl, rfl⟩ ⟨rfl, rfl⟩

theorem hardwareCheckRequested_within (action : HardwareCheckAction) :
    Within (AppEvent.hardwareCheck action).footprint s (hardwareCheckRequested s action) := by
  unfold hardwareCheckRequested
  refine .ite (.refl false) ?_
  cases action with
  | openPage | prepare val => exact ⟨rfl, rfl⟩
  | lowerVolume => exact masterVolumeChanged_within s _
  | start => exact .ite (.refl false) (((startRequested_within s).mono rfl).checked rfl _)
  | heard heard | cancel =>
    exact .ite (.refl false) (((stopRequested_within s).mono rfl).checked rfl _)

theorem sessionRunning_within (stream : StreamState) (gen : GenerationId) (act : List DeviceId) :
    Within { session := true } s (sessionRunning stream s gen act) := by
  unfold sessionRunning clearSessionFailureNotice
  refine .ite (.refl false) ?_
  simp only
  split <;> exact ⟨rfl, rfl⟩

theorem controller_within [Lowercase] (ev : ControllerEvent) :
    Within (AppEvent.controller ev).footprint s (dispatch s (.controller ev)) := by
  cases ev with
  | groupOperationFinished req stat =>
    change Within _ s (groupOperationFinished s req stat)
    unfold groupOperationFinished
    split
    · exact .ite ⟨rfl, rfl⟩ ⟨rfl, rfl⟩
    · exact .refl false
  | sessionStarted gen act | sessionDegraded gen act => exact sessionRunning_within s _ gen act
  | savedGroupsChanged groups | receiverLevelsChanged levels | muteChanged muted
  | latencyChanged rdg | audioSourceChanged rdg | channelClosed summ => exact ⟨rfl, rfl⟩
  | volumeApplied => exact .ite ⟨rfl, rfl⟩ ⟨rfl, rfl⟩
  | discoveryCompleted gen receivers | discoveryFailed gen summ
  | desiredReceiversChanged revision ids | sessionRestarting gen
  | sessionStopped gen | sessionFailed gen summ
  | diagnosticsUpdated rdg | liveDiagnosticsUpdated rdg => exact .ite ⟨rfl, rfl⟩ ⟨rfl, rfl⟩

theorem preferences_within [Lowercase] (ev : PreferencesEvent) :
    Within {} s (dispatch s (.preferences ev)) := by
  cases ev with
  | loaded value notice | loadFailed summ => exact .refl false
  | persisted gen | persistFailed gen => exact .ite ⟨rfl, rfl⟩ (.ite ⟨rfl, rfl⟩ ⟨rfl, rfl⟩)
  | hotkeyReconfigured _ _ fail =>
    refine .ite ⟨rfl, rfl⟩ ?_
    cases fail with
    | none => exact .ite ⟨rfl, rfl⟩ ⟨rfl, rfl⟩
    | some => exact .ite ⟨rfl, rfl⟩ ⟨rfl, rfl⟩

theorem dispatch_within [Lowercase] (e : AppEvent) : Within e.footprint s (dispatch s e) := by
  cases e with
  | hardwareCheck action => exact hardwareCheckRequested_within s action
  | groupRequested cmd => exact groupRequested_within s cmd
  | toggleStagedReceiver => exact ⟨rfl, rfl⟩
  | applyStagedReceivers => exact applyStaged_within s
  | startRequested => exact startRequested_within s
  | globalHotkeyPressed => exact globalHotkeyPressed_within s
  | quitRequested => exact quitRequested_within s
  | masterVolumeChanged vol => exact masterVolumeChanged_within s vol
  | preferences ev => exact preferences_within s ev
  | controller ev => exact controller_within s ev
  | mainWindowCloseRequested | showMainWindow | windowsDisplayLanguageChanged locale
  | retryPreferencesPersistence => exact ⟨rfl, rfl⟩
  | navigate page | themeChanged theme | localeChanged preference
  | advancedInformationChanged enabled | muteChangeRequested muted | hotkeyChanged binding
  | stopRequested | discardStagedReceivers => exact .ite ⟨rfl, rfl⟩ ⟨rfl, rfl⟩
  | refreshRequested =>
    change Within _ s (refreshRequested s)
    unfold refreshRequested
    split
    · exact .refl false
    · rename_i hop
      exact ⟨rfl, by simp [Footprint.permits, hop]⟩
  | receiverLevelRequested recv level =>
    change Within _ s (receiverLevelRequested s recv level)
    unfold receiverLevelRequested
    split
    · exact .refl false
    · rename_i hop
      simp only [Bool.or_eq_true, not_or, Bool.not_eq_true] at hop
      exact ⟨rfl, by simp [Footprint.permits, hop.1.1.1]⟩
  | latencyChoiceRequested choice =>
    change Within _ s (latencyChoiceRequested s choice)
    unfold latencyChoiceRequested
    split
    · exact .refl false
    · exact .ite ⟨rfl, rfl⟩ (.ite ⟨rfl, rfl⟩ ⟨rfl, rfl⟩)
  | audioEndpointRequested req =>
    change Within _ s (audioEndpointRequested s req)
    unfold audioEndpointRequested
    split
    · exact .refl false
    · simp only
      split
      · exact .refl false
      · exact .ite ⟨rfl, rfl⟩ ⟨rfl, rfl⟩
  | windowGeometryChanged geometry =>
    change Within _ s (windowGeometryChanged s geometry)
    unfold windowGeometryChanged
    split
    · exact ⟨rfl, rfl⟩
    · exact .ite ⟨rfl, rfl⟩ ⟨rfl, rfl⟩

end Arms

end OpenAirCast
