/-
App.SnapshotTheorems — publication is sound: an event that
reports no change leaves the window's snapshot as it was.

Every arm computes its own flag. `Publishes` says that the flag of one
arm is honest, given that the listening check's projection did not move
(the reducer compares that projection itself), and carries the two small
facts the argument needs besides: arms leave the revision alone, and the
notice of a closed controller stands only over a closed controller.

Equality of snapshots is equality of all fields, with floats compared as
numbers: the two zeros are one value. `UiSnapshot.canon` picks the
positive one. On snapshots without a NaN that is the derived `==`.
-/
import OpenAirCast.App.ReducerTheorems

namespace OpenAirCast

open List F32 HardwareCheckSnapshot

variable {α β : Type}

/-! ## Floats as numbers -/

def GroupMember.canon (member : GroupMember) : GroupMember :=
  { member with level := member.level.canon }

def SavedGroupReading.canon (group : SavedGroupReading) : SavedGroupReading :=
  { group with members := group.members.map GroupMember.canon }

def LevelMap.canon (levels : LevelMap) : LevelMap where
  entries := levels.entries.map (fun entry => (entry.1, entry.2.canon))
  sorted := List.pairwise_map.mpr levels.sorted

/-- The snapshot with every zero positive. -/
def UiSnapshot.canon (snapshot : UiSnapshot) : UiSnapshot :=
  { snapshot with
    savedGroups := snapshot.savedGroups.map (List.map SavedGroupReading.canon)
    masterVolume := snapshot.masterVolume.canon
    receiverLevels := snapshot.receiverLevels.map LevelMap.canon }

variable {f : α → β}

theorem map_eq_of_beq [BEq α] (h : ∀ a b : α, (a == b) = true → f a = f b) :
    ∀ {xs ys : List α}, (xs == ys) = true → xs.map f = ys.map f
  | [], [], _ => rfl
  | [], _ :: _, hb => by simp at hb
  | _ :: _, [], hb => by simp at hb
  | x :: xs, y :: ys, hb => by
      simp only [cons_beq_cons, Bool.and_eq_true] at hb
      rw [map_cons, map_cons, h x y hb.1, map_eq_of_beq h hb.2]

theorem option_map_eq_of_beq [BEq α]
    (h : ∀ a b : α, (a == b) = true → f a = f b) {a b : Option α} (hb : (a == b) = true) :
    a.map f = b.map f := by
  cases a with
  | none =>
    cases b with
    | none => rfl
    | some => simp at hb
  | some a =>
    cases b with
    | none => simp at hb
    | some b => simpa using h a b (by simpa using hb)

theorem GroupMember.canon_eq_of_beq (a b : GroupMember) (h : (a == b) = true) :
    a.canon = b.canon := by
  obtain ⟨_, _, _⟩ := a
  obtain ⟨_, _, _⟩ := b
  simp only [BEq.beq, instBEqGroupMember.beq, Bool.and_eq_true, decide_eq_true_eq] at h
  simp [GroupMember.canon, h.1, h.2.1, canon_eq_of_eq h.2.2]

theorem SavedGroupReading.canon_eq_of_beq (a b : SavedGroupReading) (h : (a == b) = true) :
    a.canon = b.canon := by
  obtain ⟨_, _, _, _⟩ := a
  obtain ⟨_, _, _, _⟩ := b
  simp only [BEq.beq, instBEqSavedGroupReading.beq, Bool.and_eq_true, decide_eq_true_eq] at h
  simp [SavedGroupReading.canon, h.1, h.2.1, map_eq_of_beq GroupMember.canon_eq_of_beq h.2.2.1,
    h.2.2.2]

theorem LevelMap.canon_eq_of_beq (a b : LevelMap) (h : (a == b) = true) : a.canon = b.canon := by
  have he : a.entries.map (fun ent => (ent.1, ent.2.canon))
      = b.entries.map (fun ent => (ent.1, ent.2.canon)) := by
    refine map_eq_of_beq ?_ h
    intro x y hx
    obtain ⟨_, _⟩ := x
    obtain ⟨_, _⟩ := y
    simp only [BEq.beq, Bool.and_eq_true, decide_eq_true_eq] at hx
    simp [hx.1, canon_eq_of_eq hx.2]
  simp [LevelMap.canon, he]

/-! ## Honest arms -/

variable (s : AppState)

/-- The notice of a closed controller stands only over a closed one. -/
def NoticeClosed : Prop :=
  ∀ notice, s.notice = some notice → notice.code = .controllerUnavailable →
    s.controllerClosed = true

/-- One arm publishes honestly. -/
structure Publishes [Lowercase] (s : AppState) (o : Outcome) : Prop where
  revision : o.state.revision = s.revision
  closed : NoticeClosed s → NoticeClosed o.state
  honest : NoticeClosed s → o.changed = false → fromState o.state = fromState s →
    (UiSnapshot.fromState o.state).canon = (UiSnapshot.fromState s).canon

namespace Publishes

variable [Lowercase] {s : AppState} {o : Outcome}

theorem refl (s : AppState) (effs : List AppEffect) (chg : Bool) :
    Publishes s ⟨s, effs, chg⟩ := ⟨rfl, id, fun _ _ _ => rfl⟩

/-- The arm says that something changed. -/
theorem of_changed (hr : o.state.revision = s.revision)
    (hc : o.state.controllerClosed = s.controllerClosed)
    (hn : o.state.notice = s.notice) (hh : o.changed = true) : Publishes s o := by
  refine ⟨hr, fun h => ?_, fun _ hs => ?_⟩
  · unfold NoticeClosed
    rw [hn, hc]
    exact h
  · simp [hh] at hs

/-- The flag compares everything the arm writes. -/
theorem of_same (hr : o.state.revision = s.revision)
    (hc : o.state.controllerClosed = s.controllerClosed)
    (hn : o.state.notice = s.notice) (hs : o.changed = false → o.state = s) :
    Publishes s o := by
  refine ⟨hr, ?_, fun _ hf _ => by rw [hs hf]⟩
  intro h
  unfold NoticeClosed
  rw [hn, hc]
  exact h

/-- The arm writes a notice, not the one of a closed controller, and the
flag compares everything it writes. -/
theorem of_notice (notice : UserNotice) (hr : o.state.revision = s.revision)
    (hn : o.state.notice = some notice) (hc : notice.code ≠ .controllerUnavailable)
    (hs : o.changed = false → o.state = s) : Publishes s o := by
  refine ⟨hr, ?_, fun _ hf _ => by rw [hs hf]⟩
  intro _ other ho hcodOth
  rw [hn, Option.some.injEq] at ho
  exact absurd (ho ▸ hcodOth) hc

/-- The arm withdraws the notice, and the flag compares everything it
writes. -/
theorem of_retracted (hr : o.state.revision = s.revision) (hn : o.state.notice = none)
    (hs : o.changed = false → o.state = s) : Publishes s o := by
  refine ⟨hr, ?_, fun _ hf _ => by rw [hs hf]⟩
  intro _ other ho _
  simp [hn] at ho

/-- The arm writes fields the window does not show, or shows through the
check's projection alone. -/
theorem of_hidden (hr : o.state.revision = s.revision)
    (hc : o.state.controllerClosed = s.controllerClosed)
    (hn : o.state.notice = s.notice)
    (hh : o.changed = false → fromState o.state = fromState s →
      (UiSnapshot.fromState o.state).canon = (UiSnapshot.fromState s).canon) :
    Publishes s o := by
  refine ⟨hr, ?_, fun _ => hh⟩
  intro h
  unfold NoticeClosed
  rw [hn, hc]
  exact h

theorem ite {c : Prop} [Decidable c] (h : Publishes s o) :
    Publishes s (if c then ⟨s, [], false⟩ else o) := by
  split
  · exact refl s [] false
  · exact h

end Publishes

/-! ### Settings -/

section Settings

variable [Lowercase] (s : AppState)

theorem persisting_publishes {t : AppState} (hr : t.revision = s.revision)
    (hc : t.controllerClosed = s.controllerClosed) (hn : t.notice = s.notice) :
    Publishes s (persisting t true) := .of_changed hr hc hn rfl

theorem rejectInvalidInput_publishes (summ : String) : Publishes s (rejectInvalidInput s summ) := by
  refine .of_notice _ rfl rfl (by simp) ?_
  intro hf
  have hn : s.notice = some ⟨.warning, .invalidInput, summ, none⟩ := by
    simpa [rejectInvalidInput] using hf
  simp only [rejectInvalidInput, ← hn]

theorem windowGeometryChanged_publishes (geometry : WindowGeometry) :
    Publishes s (windowGeometryChanged s geometry) := by
  unfold windowGeometryChanged
  split
  · exact rejectInvalidInput_publishes s _
  · exact .ite (persisting_publishes s rfl rfl rfl)

theorem masterVolumeChanged_publishes (vol : F32) : Publishes s (masterVolumeChanged s vol) := by
  unfold masterVolumeChanged
  split
  · exact rejectInvalidInput_publishes s _
  · refine .of_hidden rfl rfl rfl ?_
    intro hf hc
    have hv : (s.masterVolume == vol.clamp F32.zero F32.one) = true := by simpa [bne] using hf
    simp only [UiSnapshot.fromState, UiSnapshot.canon] at hc ⊢
    rw [hc, canon_eq_of_eq hv]

theorem windowsDisplayLanguageChanged_publishes (loc : ResolvedLocale) :
    Publishes s (windowsDisplayLanguageChanged s loc) := by
  refine .of_hidden rfl rfl rfl ?_
  intro hf hc
  have hr : s.resolvedLocale = s.localePreference.resolve loc := by
    simpa [windowsDisplayLanguageChanged] using hf
  simp only [UiSnapshot.fromState, UiSnapshot.canon, windowsDisplayLanguageChanged] at hc ⊢
  rw [hc, hr]
  rfl

theorem hotkeyChanged_publishes (binding : HotkeyBinding) :
    Publishes s (hotkeyChanged s binding) := by
  unfold hotkeyChanged
  exact .ite (.of_hidden rfl rfl rfl fun _ _ => rfl)

variable (gen : GenerationId)

theorem hotkeyReconfigured_publishes (applied : HotkeyBinding) (fail : Option String) :
    Publishes s (hotkeyReconfigured s gen applied fail) := by
  unfold hotkeyReconfigured
  refine .ite ?_
  simp only
  split
  · split
    · rename_i hk
      have hh : s.hotkey = applied := by simpa using hk
      exact .of_same rfl rfl rfl fun _ => by simp only [← hh]
    · exact persisting_publishes s rfl rfl rfl
  · split
    · rename_i summ hk
      refine .of_notice _ rfl rfl (by simp) ?_
      intro _
      have hs : s.hotkey = applied ∧ s.notice
          = some ⟨.warning, .hotkeyFailed, summ, some .openSettings⟩ := by
        simpa using hk
      simp only [← hs.1, ← hs.2]
    · refine ⟨rfl, ?_, fun _ hf => by simp [persisting] at hf⟩
      intro _ other ho hc
      simp only [persisting, persistPreferences, Option.some.injEq] at ho
      simp [← ho] at hc

theorem preferencesPersistFailed_publishes : Publishes s (preferencesPersistFailed s gen) := by
  unfold preferencesPersistFailed
  refine .ite (.ite (.of_notice _ rfl rfl (by simp [preferencesPersistFailedNotice]) fun hf => ?_))
  have hn : s.notice = some preferencesPersistFailedNotice := by simpa using hf
  simp only [← hn]

theorem preferencesPersisted_publishes : Publishes s (preferencesPersisted s gen) := by
  unfold preferencesPersisted
  exact .ite (.ite (.of_retracted rfl rfl (by simp)))

theorem mainWindowCloseRequested_publishes : Publishes s (mainWindowCloseRequested s) := by
  refine .of_same rfl rfl rfl ?_
  intro hf
  have hh : s.window.visible = false := hf
  simp only [mainWindowCloseRequested, ← hh]

theorem showMainWindow_publishes : Publishes s (showMainWindow s) := by
  refine .of_same rfl rfl rfl ?_
  intro hf
  have hs : s.window.visible = true := by simpa [showMainWindow] using hf
  simp only [showMainWindow, ← hs]

theorem latencyChoiceRequested_publishes (choice : LatencyChoice) :
    Publishes s (latencyChoiceRequested s choice) := by
  unfold latencyChoiceRequested
  split
  · exact .refl s _ _
  · exact .ite (.ite (.refl s _ _))

theorem audioEndpointRequested_publishes (req : AudioEndpointRequest) :
    Publishes s (audioEndpointRequested s req) := by
  unfold audioEndpointRequested
  split
  · exact .refl s _ _
  · simp only
    split
    · exact .refl s _ _
    · exact .ite (.refl s _ _)

end Settings

/-! ### Readings and answers -/

section Readings

variable [Lowercase] (s : AppState)

theorem refreshRequested_publishes : Publishes s (refreshRequested s) := by
  unfold refreshRequested
  exact .ite (.of_changed rfl rfl rfl rfl)

variable (gen : GenerationId) (summ : String)

theorem discoveryFailed_publishes : Publishes s (discoveryFailed s gen summ) := by
  unfold discoveryFailed
  refine .ite (.of_notice _ rfl rfl (by simp) ?_)
  intro hf
  have hs : s.discovery = .failed summ ∧ s.notice
      = some ⟨.warning, .discoveryFailed, summ, some .refresh⟩ := by
    simpa using hf
  simp only [← hs.1, ← hs.2]

theorem mergeDiscovery_publishes (rep : List ReceiverState) :
    Publishes s (mergeDiscovery s gen rep) := by
  unfold mergeDiscovery
  refine .ite ?_
  simp only
  cases ht : s.notice.any isDiscoveryFailedNotice with
  | true => exact .of_retracted rfl rfl (by simp)
  | false =>
    refine .of_same rfl rfl rfl ?_
    intro hf
    have hs : s.discovery = .ready ∧ s.receivers = mergedReceivers s rep := by simpa using hf
    have hr := hs.2
    simp only [Bool.false_eq_true, if_false, ← hs.1]
    rw [← hr]

theorem savedGroupsChanged_publishes (groups : List SavedGroupReading) :
    Publishes s (savedGroupsChanged s groups) := by
  refine .of_hidden rfl rfl rfl ?_
  intro hf hc
  have hg : (s.savedGroups == some groups) = true := by simpa [savedGroupsChanged, bne] using hf
  have hn := option_map_eq_of_beq
    (fun _ _ h => map_eq_of_beq SavedGroupReading.canon_eq_of_beq h) hg
  simp only [UiSnapshot.fromState, UiSnapshot.canon, savedGroupsChanged] at hc ⊢
  rw [hc, hn]
  rfl

theorem receiverLevelsChanged_publishes (levels : LevelMap) :
    Publishes s (receiverLevelsChanged s levels) := by
  refine .of_hidden rfl rfl rfl ?_
  intro hf hc
  have hl : (s.receiverLevels == some levels) = true := by
    simpa [receiverLevelsChanged, bne] using hf
  have hn := option_map_eq_of_beq LevelMap.canon_eq_of_beq hl
  simp only [UiSnapshot.fromState, UiSnapshot.canon, receiverLevelsChanged] at hc ⊢
  rw [hc, hn]
  rfl

theorem groupOperationFinished_publishes (req : Nat) (stat : GroupOperationStatus) :
    Publishes s (groupOperationFinished s req stat) := by
  unfold groupOperationFinished
  split
  · split
    · exact .of_changed rfl rfl rfl rfl
    · exact .refl s _ _
  · exact .refl s _ _

theorem volumeApplied_publishes (vol : F32) : Publishes s (volumeApplied s gen vol) := by
  unfold volumeApplied
  simp only
  split
  · refine .of_hidden rfl rfl rfl ?_
    intro hf hc
    have hv : (s.masterVolume == vol) = true := by simpa [bne] using hf
    simp only [UiSnapshot.fromState, UiSnapshot.canon] at hc ⊢
    rw [hc, canon_eq_of_eq hv]
  · refine .of_hidden rfl rfl rfl ?_
    intro _ hc
    simp only [UiSnapshot.fromState, UiSnapshot.canon] at hc ⊢
    rw [hc]

theorem muteChanged_publishes (muted : Bool) : Publishes s (muteChanged s muted) := by
  refine .of_same rfl rfl rfl ?_
  intro hf
  have hs : s.muted = some muted := by simpa [muteChanged] using hf
  simp only [muteChanged, ← hs]

theorem latencyChanged_publishes (rdg : LatencyReading) : Publishes s (latencyChanged s rdg) := by
  refine .of_same rfl rfl rfl ?_
  intro hf
  have hs : s.latency = some rdg := by simpa [latencyChanged] using hf
  simp only [latencyChanged, ← hs]

theorem audioSourceChanged_publishes (rdg : AudioSourceReading) :
    Publishes s (audioSourceChanged s rdg) := by
  refine .of_same rfl rfl rfl ?_
  intro hf
  have hs : s.audioSource = some rdg := by simpa [audioSourceChanged] using hf
  simp only [audioSourceChanged, ← hs]

/-- Where the closed controller hides the live readings, its notice is
already there only because it was closed before. -/
theorem channelClosed_publishes : Publishes s (channelClosed s summ) := by
  refine ⟨rfl, fun _ _ _ _ => rfl, ?_⟩
  intro hl hf hc
  simp only [channelClosed, Bool.or_eq_false_iff, decide_eq_false_iff_not, not_not] at hf
  obtain ⟨⟨hv, hg⟩, hn⟩ := hf
  have hw : s.controllerClosed = true := hl _ hn rfl
  simp only [UiSnapshot.fromState, UiSnapshot.canon, channelClosed, hv, hg,
    Bool.false_eq_true, if_false] at hc ⊢
  rw [hc, hn, hw]

theorem sessionRunning_publishes (stream : StreamState) (gen : GenerationId)
    (act : List DeviceId) : Publishes s (sessionRunning stream s gen act) := by
  unfold sessionRunning clearSessionFailureNotice
  refine .ite ?_
  simp only
  split
  · exact .of_retracted rfl rfl (by simp)
  · refine .of_same rfl rfl rfl ?_
    intro hf
    have hs : s.stream = stream ∧ s.activeReceivers = act.toFinset := by simpa using hf
    simp only [← hs.1, ← hs.2]

theorem sessionRestarting_publishes : Publishes s (sessionRestarting s gen) := by
  unfold sessionRestarting
  refine .ite (.of_same rfl rfl rfl ?_)
  intro hf
  have hs : s.stream = .restarting gen ∧ s.activeReceivers = ∅ := by simpa using hf
  simp only [← hs.1, ← hs.2]

theorem sessionStopped_publishes : Publishes s (sessionStopped s gen) := by
  unfold sessionStopped
  refine .ite (.of_same rfl rfl rfl ?_)
  intro hf
  have hs : s.stream = .stopped ∧ s.activeReceivers = ∅ := by simpa using hf
  simp only [← hs.1, ← hs.2]

theorem sessionFailed_publishes : Publishes s (sessionFailed s gen summ) := by
  unfold sessionFailed
  refine .ite (.of_notice _ rfl rfl (by simp) ?_)
  intro hf
  have hs : (s.stream = .stopped ∧ s.activeReceivers = ∅) ∧ s.notice
      = some ⟨.error, .sessionFailed, summ, some .retry⟩ := by
    simpa using hf
  simp only [← hs.1.1, ← hs.1.2, ← hs.2]

theorem updateDesired_publishes (rev : Nat) (ids : List DeviceId) :
    Publishes s (updateDesired s rev ids) := by
  unfold updateDesired
  exact .ite (.of_changed rfl rfl rfl rfl)

end Readings

/-! ### Requests -/

theorem redirectSession_changed : (redirectSession s).changed = true := by
  unfold redirectSession
  split
  · rfl
  · simp only
    split
    · rfl
    · split <;> rfl

theorem redirectSession_notice : (redirectSession s).state.revision = s.revision ∧
      (redirectSession s).state.controllerClosed = s.controllerClosed ∧
      (redirectSession s).state.notice = s.notice := by
  unfold redirectSession
  split
  · exact ⟨rfl, rfl, rfl⟩
  · simp only
    split
    · exact ⟨rfl, rfl, rfl⟩
    · split <;> exact ⟨rfl, rfl, rfl⟩

section Requests

variable [Lowercase] (s : AppState)

theorem groupRequested_publishes (cmd : GroupCommand) : Publishes s (groupRequested s cmd) := by
  unfold groupRequested
  refine .ite ?_
  simp only
  split
  · exact .of_changed rfl rfl rfl rfl
  · split <;> exact .of_changed rfl rfl rfl rfl

theorem stopRequested_publishes : Publishes s (stopRequested s) := by
  unfold stopRequested
  exact .ite (.of_changed rfl rfl rfl rfl)

theorem startRequested_publishes : Publishes s (startRequested s) := by
  unfold startRequested
  refine .ite (.ite ?_)
  split <;> exact .of_changed rfl rfl rfl rfl

theorem applyStaged_publishes : Publishes s (applyStaged s) := by
  unfold applyStaged
  split
  · exact groupRequested_publishes s _
  · obtain ⟨hr, hc, hn⟩ := redirectSession_notice (adoptStaged s)
    exact .of_changed hr hc hn (redirectSession_changed _)

theorem discardStaged_publishes : Publishes s (discardStaged s) := by
  unfold discardStaged
  refine .ite (.of_same rfl rfl rfl ?_)
  intro hf
  simp only [Bool.or_eq_false_iff, decide_eq_false_iff_not, not_not] at hf
  obtain ⟨⟨⟨hs, hb⟩, hr⟩, ha⟩ := hf
  simp only [pruneIrrelevantUnavailable, decide_eq_false_iff_not, not_not] at hr
  have hk := filter_eq_self.mpr (length_filter_eq_length_iff.mp hr)
  simp only [pruneIrrelevantUnavailable, ha, Bool.false_eq_true, if_false, hk]
  exact congrArg₂ (fun staged base => { s with
    stagedReceivers := staged, stagedBaseRevision := base }) hs.symm hb.symm

theorem quitRequested_publishes : Publishes s (quitRequested s) := by
  unfold quitRequested persistPreferences
  refine .ite ?_
  simp only
  split <;> exact .of_changed rfl rfl rfl rfl

theorem hotkeyStart_publishes : Publishes s (hotkeyStart s) := by
  unfold hotkeyStart
  split
  · refine .of_notice _ rfl rfl (by simp) ?_
    intro hf
    have hn : s.notice = some ⟨.warning, .noReceiverAvailable,
        "No AirPlay receiver is available right now.", some .refresh⟩ := by
      simpa using hf
    simp only [← hn]
  · exact startRequested_publishes s

/-- The hotkey's own selection is always seen: it moves the number of
selected receivers from zero to one, which the check's projection shows. -/
theorem selectFirstAvailableReceiver_count (hnn : s.desiredReceivers = ∅)
    (hn : (selectFirstAvailableReceiver s).desiredReceivers.card
      = s.desiredReceivers.card) : selectFirstAvailableReceiver s = s := by
  unfold selectFirstAvailableReceiver at hn ⊢
  split
  · rfl
  · rename_i cand hc
    simp [hc, hnn] at hn

theorem hotkeyStart_frame : (hotkeyStart s).state.revision = s.revision ∧
      (NoticeClosed s → NoticeClosed (hotkeyStart s).state) ∧
      (hotkeyStart s).state.desiredReceivers = s.desiredReceivers :=
  ⟨(hotkeyStart_publishes s).revision, (hotkeyStart_publishes s).closed,
    congrArg SelectionCore.desired ((hotkeyStart_within s).state.selection rfl rfl rfl)⟩

theorem selectFirstAvailableReceiver_frame :
    (selectFirstAvailableReceiver s).revision = s.revision ∧
      (NoticeClosed s → NoticeClosed (selectFirstAvailableReceiver s)) := by
  unfold selectFirstAvailableReceiver
  split
  · exact ⟨rfl, id⟩
  · exact ⟨rfl, id⟩

theorem globalHotkeyPressed_publishes : Publishes s (globalHotkeyPressed s) := by
  unfold globalHotkeyPressed
  refine .ite ?_
  split
  · exact stopRequested_publishes s
  · split
    · rename_i hnn
      have hd : s.desiredReceivers = ∅ := by simp_all
      split
      · split
        · exact .of_changed rfl rfl rfl rfl
        · exact hotkeyStart_publishes s
      · obtain ⟨hr, hl⟩ := selectFirstAvailableReceiver_frame s
        have hs := hotkeyStart_publishes (selectFirstAvailableReceiver s)
        refine ⟨hs.revision.trans hr, fun h => hs.closed (hl h), fun ht hf hc => ?_⟩
        have hn := congrArg count hc
        simp only [fromState, (hotkeyStart_frame (selectFirstAvailableReceiver s)).2.2] at hn
        have hm := selectFirstAvailableReceiver_count s hd hn
        rw [hm] at hf hc ⊢
        exact (hotkeyStart_publishes s).honest ht hf hc
    · exact hotkeyStart_publishes s

theorem hardwareCheckRequested_publishes (action : HardwareCheckAction) :
    Publishes s (hardwareCheckRequested s action) := by
  unfold hardwareCheckRequested
  refine .ite ?_
  cases action with
  | openPage => exact .of_changed rfl rfl rfl rfl
  | prepare => exact .of_changed rfl rfl rfl rfl
  | lowerVolume => exact masterVolumeChanged_publishes s _
  | start =>
    simp only
    split
    · exact .refl s _ _
    · rename_i hg
      have hr : (fromState s).ready = true := by
        cases h : (fromState s).ready <;> simp_all
      obtain ⟨hi, -, hpr⟩ := fromState_ready hr
      rw [startRequested_of_ready hi hpr]
      exact .of_changed rfl rfl rfl rfl
  | heard heard =>
    simp only
    split
    · exact .refl s _ _
    · rename_i hg
      obtain ⟨-, -, -, ht, -⟩ := fromState_canConfirm (by simpa using hg)
      rw [stopRequested_of_running (isRunning_of_streaming ht)]
      exact .of_changed rfl rfl rfl rfl
  | cancel =>
    simp only
    split
    · exact .refl s _ _
    · rename_i hg
      have hs := stopRequested_publishes s
      refine ⟨hs.revision, hs.closed, ?_⟩
      intro _ _ hc
      -- the phase moves to `stopPending`, so the projection moved
      have hp := congrArg phase hc
      simp only [fromState, awaitStop] at hp
      exact absurd ⟨by simp [← hp], by simp [← hp]⟩ hg

end Requests

theorem dispatch_publishes [Lowercase] (e : AppEvent) : Publishes s (dispatch s e) := by
  cases e with
  | hardwareCheck action => exact hardwareCheckRequested_publishes s action
  | groupRequested cmd => exact groupRequested_publishes s cmd
  | navigate => exact .ite (persisting_publishes s rfl rfl rfl)
  | mainWindowCloseRequested => exact mainWindowCloseRequested_publishes s
  | showMainWindow => exact showMainWindow_publishes s
  | toggleStagedReceiver => exact .of_changed rfl rfl rfl rfl
  | applyStagedReceivers => exact applyStaged_publishes s
  | discardStagedReceivers => exact discardStaged_publishes s
  | startRequested => exact startRequested_publishes s
  | stopRequested => exact stopRequested_publishes s
  | globalHotkeyPressed => exact globalHotkeyPressed_publishes s
  | refreshRequested => exact refreshRequested_publishes s
  | masterVolumeChanged vol => exact masterVolumeChanged_publishes s vol
  | receiverLevelRequested => exact .ite (.refl s _ _)
  | muteChangeRequested => exact .ite (.refl s _ _)
  | latencyChoiceRequested choice => exact latencyChoiceRequested_publishes s choice
  | audioEndpointRequested req => exact audioEndpointRequested_publishes s req
  | themeChanged => exact .ite (persisting_publishes s rfl rfl rfl)
  | localeChanged => exact .ite (persisting_publishes s rfl rfl rfl)
  | advancedInformationChanged => exact .ite (persisting_publishes s rfl rfl rfl)
  | windowsDisplayLanguageChanged loc => exact windowsDisplayLanguageChanged_publishes s loc
  | retryPreferencesPersistence => exact .of_hidden rfl rfl rfl fun _ _ => rfl
  | hotkeyChanged binding => exact hotkeyChanged_publishes s binding
  | windowGeometryChanged geometry => exact windowGeometryChanged_publishes s geometry
  | quitRequested => exact quitRequested_publishes s
  | preferences ev =>
    cases ev with
    | loaded => exact .refl s _ _
    | loadFailed => exact .refl s _ _
    | persisted gen => exact preferencesPersisted_publishes s gen
    | persistFailed gen => exact preferencesPersistFailed_publishes s gen
    | hotkeyReconfigured gen applied fail => exact hotkeyReconfigured_publishes s gen applied fail
  | controller ev =>
    cases ev with
    | savedGroupsChanged groups => exact savedGroupsChanged_publishes s groups
    | groupOperationFinished req stat => exact groupOperationFinished_publishes s req stat
    | receiverLevelsChanged levels => exact receiverLevelsChanged_publishes s levels
    | discoveryCompleted gen rep => exact mergeDiscovery_publishes s gen rep
    | discoveryFailed gen summ => exact discoveryFailed_publishes s gen summ
    | desiredReceiversChanged rev ids => exact updateDesired_publishes s rev ids
    | sessionStarted gen act | sessionDegraded gen act => exact sessionRunning_publishes s _ gen act
    | sessionRestarting gen => exact sessionRestarting_publishes s gen
    | sessionStopped gen => exact sessionStopped_publishes s gen
    | sessionFailed gen summ => exact sessionFailed_publishes s gen summ
    | volumeApplied gen vol => exact volumeApplied_publishes s gen vol
    | muteChanged muted => exact muteChanged_publishes s muted
    | latencyChanged rdg => exact latencyChanged_publishes s rdg
    | audioSourceChanged rdg => exact audioSourceChanged_publishes s rdg
    | diagnosticsUpdated => exact .ite (.of_changed rfl rfl rfl rfl)
    | liveDiagnosticsUpdated => exact .ite (.of_changed rfl rfl rfl rfl)
    | channelClosed summ => exact channelClosed_publishes s summ

/-! ## Whole events -/

variable {ev : HardwareCheckObservation}

variable {s}

/-- The observer reports every move of its own. -/
theorem observeHardwareCheck_unchanged (h : (observeHardwareCheck s ev).changed = false) :
    (observeHardwareCheck s ev).state = s := by
  have hv : s.hardwareCheck.visible = (observeHardwareCheck s ev).state.hardwareCheck.visible := by
    simpa [observeHardwareCheck] using h
  simp only [HardwareCheck.visible, Prod.mk.injEq] at hv
  obtain ⟨hp', ho, -, -⟩ := hv
  cases observeHardwareCheck_move s ev with
  | resting _ hs | watching _ _ _ _ hs | kept _ _ _ hs => exact hs
  | complete _ _ _ _ _ hs =>
    rw [hs] at hp' ⊢
    simp only at hp'
    rw [← hp']
  | abandonedToStop hh _ hs | abandoned hh _ _ hs =>
    rw [hs] at hp'
    simp [hp', awaitStop, HardwareCheckPhase.isUnderWay] at hh
  | pending _ _ hs =>
    rw [hs] at ho ⊢
    simp only at ho
    rw [← ho]
  | released hh _ hs =>
    rw [hs, hh] at hp'
    cases hso : stopOutcome s ev with
    | none => simp [hso, verdictPhase] at hp'
    | some b => cases b <;> simp [hso, verdictPhase] at hp'
  | lost hh _ hs =>
    rw [hs] at hp'
    rcases hh with hp | hp <;> simp [hp] at hp'

theorem ObserveMove.frame {o : Outcome} (h : ObserveMove s ev o) :
    o.state.revision = s.revision ∧ (NoticeClosed s → NoticeClosed o.state) := by
  cases h <;> rename_i hs _ <;> rw [hs] <;> exact ⟨rfl, id⟩

theorem reduce_noticeClosed [Lowercase] (h : NoticeClosed s) (e : AppEvent) :
    NoticeClosed (reduce s e).1 := by
  cases reduce_move s e with
  | refused _ _ heq =>
    rw [heq]
    exact h
  | reacted _ _ ho _ hs =>
    rw [hs]
    exact ho.frame.2 ((dispatch_publishes s e).closed h)

/-- At startup the only notices are about the settings files. -/
theorem Reachable.noticeClosed [Lowercase] (h : Reachable s) : NoticeClosed s := by
  refine Reachable.invariant (P := NoticeClosed) (fun files loc notice hn hc => ?_)
    (fun _ e hs => reduce_noticeClosed hs e) h
  simp only [initialState, PreferencesRepository.load] at hn
  split at hn
  · simp at hn
  · simp only [Option.some.injEq] at hn
    simp [← hn, invalidPreferencesNotice] at hc
  · split at hn
    · simp at hn
    · simp only [Option.some.injEq] at hn
      simp [← hn, invalidPreferencesNotice] at hc
    · simp at hn

theorem finish_revision (s : AppState) (effs : List AppEffect) (chg : Bool) :
    (finish s effs chg).1.revision = if (finish s effs chg).2.snapshotChanged then s.revision + 1
        else s.revision := by
  cases chg <;> rfl

theorem reduce_revision [Lowercase] (s : AppState) (e : AppEvent) : (reduce s e).1.revision
      = if (reduce s e).2.snapshotChanged then s.revision + 1 else s.revision := by
  have hr : (observeHardwareCheck (dispatch s e).state (.fromEvent e)).state.revision
      = s.revision :=
    (observeHardwareCheck_move _ _).frame.1.trans (dispatch_publishes s e).revision
  unfold reduce
  split
  · rfl
  · simp only
    rw [finish_revision, hr]

theorem reduce_unchanged [Lowercase] (hl : NoticeClosed s) (e : AppEvent)
    (h : (reduce s e).2.snapshotChanged = false) :
    (UiSnapshot.fromState (reduce s e).1).canon = (UiSnapshot.fromState s).canon := by
  unfold reduce at h ⊢
  split
  · rfl
  · rename_i hop
    simp only [if_neg hop, finish, Bool.or_eq_false_iff, decide_eq_false_iff_not, not_not] at h
    obtain ⟨⟨ha, ho⟩, hc⟩ := h
    have hs := observeHardwareCheck_unchanged ho
    simp only [finish, ha, ho, ← hc, ne_eq, not_true_eq_false, decide_false,
      Bool.or_false, Bool.false_eq_true, if_false]
    rw [hs] at hc ⊢
    exact (dispatch_publishes s e).honest hl ha hc.symm

/-! ## The derived equality -/

def GroupCommand.levels : GroupCommand → List F32
  | .save _ _ members => members.map (·.level)
  | _ => []

/-- Every float the snapshot shows. -/
def UiSnapshot.floats (snapshot : UiSnapshot) : List F32 :=
  let geometry := snapshot.window.geometry
  snapshot.masterVolume :: geometry.width :: geometry.height
    :: (geometry.x.toList ++ geometry.y.toList
      ++ (snapshot.receiverLevels.elim [] (fun levels => levels.entries.map (·.2)))
      ++ (snapshot.savedGroups.elim [] (fun groups =>
        groups.flatMap (fun group => group.members.map (·.level))))
      ++ (snapshot.groupOperation.elim [] (fun operation => operation.command.levels)))

theorem beq_of_map_eq [BEq α] : ∀ {xs ys : List α},
    (∀ a ∈ xs, ∀ b, f a = f b → (a == b) = true) → xs.map f = ys.map f → (xs == ys) = true
  | [], [], _, _ => rfl
  | [], _ :: _, _, h => by simp at h
  | _ :: _, [], _, h => by simp at h
  | x :: xs, y :: ys, hf, h => by
      rw [map_cons, map_cons, List.cons.injEq] at h
      rw [cons_beq_cons, Bool.and_eq_true]
      exact ⟨hf x (by simp) y h.1, beq_of_map_eq (fun a ha => hf a (by simp [ha])) h.2⟩

theorem option_beq_of_map_eq [BEq α] {a b : Option α}
    (hf : ∀ x ∈ a, ∀ y, f x = f y → (x == y) = true) (h : a.map f = b.map f) :
    (a == b) = true := by
  cases a with
  | none =>
    cases b with
    | none => rfl
    | some => simp at h
  | some a =>
    cases b with
    | none => simp at h
    | some b => simpa using hf a rfl b (by simpa using h)

theorem GroupMember.beq_of_canon_eq {a b : GroupMember} (hn : a.level.isNan = false)
    (h : a.canon = b.canon) : (a == b) = true := by
  obtain ⟨_, _, _⟩ := a
  obtain ⟨_, _, _⟩ := b
  simp only [GroupMember.canon, GroupMember.mk.injEq] at h
  obtain ⟨rfl, rfl, hl⟩ := h
  have := eq_of_canon_eq hn hl
  simp only [BEq.beq, instBEqGroupMember.beq] at this ⊢
  simp [this]

theorem SavedGroupReading.beq_of_canon_eq {a b : SavedGroupReading}
    (hn : ∀ mbr ∈ a.members, mbr.level.isNan = false) (h : a.canon = b.canon) :
    (a == b) = true := by
  obtain ⟨_, _, mbrs, _⟩ := a
  obtain ⟨_, _, members', _⟩ := b
  simp only [SavedGroupReading.canon, SavedGroupReading.mk.injEq] at h
  obtain ⟨rfl, rfl, hs, rfl⟩ := h
  have hb : (mbrs == members') = true :=
    beq_of_map_eq (fun m hm m' => GroupMember.beq_of_canon_eq (hn m hm)) hs
  simp only [BEq.beq, instBEqSavedGroupReading.beq] at hb ⊢
  simp [hb]

theorem LevelMap.beq_of_canon_eq {a b : LevelMap}
    (hn : ∀ ent ∈ a.entries, ent.2.isNan = false) (h : a.canon = b.canon) :
    (a == b) = true := by
  have he : a.entries.map (fun ent => (ent.1, ent.2.canon))
      = b.entries.map (fun ent => (ent.1, ent.2.canon)) := congrArg LevelMap.entries h
  refine beq_of_map_eq ?_ he
  intro x hx y hy
  obtain ⟨_, _⟩ := x
  obtain ⟨_, _⟩ := y
  simp only [Prod.mk.injEq] at hy
  have := eq_of_canon_eq (hn _ hx) hy.2
  simp only [BEq.beq] at this ⊢
  simp [hy.1, this]

theorem option_beq_self {a : Option F32} (h : ∀ x ∈ a, x.isNan = false) : (a == a) = true :=
  option_beq_of_map_eq (f := id) (fun x hx y hy => by
    obtain rfl : x = y := hy
    exact beq_self_of_not_nan (h x hx)) rfl

theorem WindowGeometry.beq_self {g : WindowGeometry} (hw : g.width.isNan = false)
    (hh : g.height.isNan = false) (hx : ∀ x ∈ g.x, x.isNan = false)
    (hy : ∀ y ∈ g.y, y.isNan = false) : (g == g) = true := by
  obtain ⟨x, _, _, _, _⟩ := g
  have h1 := option_beq_self hx
  have h2 := option_beq_self hy
  have h3 := beq_self_of_not_nan hw
  have h4 := beq_self_of_not_nan hh
  simp only [BEq.beq, instBEqWindowGeometry.beq] at h1 h2 h3 h4 ⊢
  simp [h1, h2, h3, h4]

theorem GroupCommand.beq_self {cmd : GroupCommand}
    (h : ∀ level ∈ cmd.levels, level.isNan = false) : (cmd == cmd) = true := by
  cases cmd with
  | save id name mbrs =>
    have hb : (mbrs == mbrs) = true :=
      beq_of_map_eq (f := GroupMember.canon) (fun m hm m' =>
        GroupMember.beq_of_canon_eq (h m.level (mem_map_of_mem hm))) rfl
    show instBEqGroupCommand.beq (.save id name mbrs) (.save id name mbrs) = true
    simp [instBEqGroupCommand.beq, hb]
  | delete id =>
    show instBEqGroupCommand.beq (.delete id) (.delete id) = true
    simp [instBEqGroupCommand.beq]
  | apply id start =>
    show instBEqGroupCommand.beq (.apply id start) (.apply id start) = true
    simp [instBEqGroupCommand.beq]
  | applySelection ids =>
    show instBEqGroupCommand.beq (.applySelection ids) (.applySelection ids) = true
    simp [instBEqGroupCommand.beq]

theorem GroupOperation.beq_self {oper : GroupOperation}
    (h : ∀ level ∈ oper.command.levels, level.isNan = false) :
    (oper == oper) = true := by
  obtain ⟨_, _, _⟩ := oper
  have hc := GroupCommand.beq_self h
  simp only [BEq.beq, instBEqGroupOperation.beq] at hc ⊢
  simp [hc]

theorem UiSnapshot.beq_of_canon_eq {a b : UiSnapshot}
    (hn : ∀ x ∈ a.floats, x.isNan = false) (h : a.canon = b.canon) : (a == b) = true := by
  simp only [UiSnapshot.floats, mem_cons, mem_append, or_imp, forall_and, forall_eq] at hn
  obtain ⟨hv, hw, hh, ⟨⟨⟨hx, hy⟩, hle⟩, hp⟩, hop⟩ := hn
  obtain ⟨_, groups, oper, _, _, ⟨_, geometry, _⟩, _, _, _, _, _, _, _, _, _, levels,
    _, _, _, _, _, _, _, _, _, _, _, _, _, _, _⟩ := a
  obtain ⟨_, groups', _, _, _, ⟨_, _, _⟩, _, _, _, _, _, _, _, _, _,
    levels', _, _, _, _, _, _, _, _, _, _, _, _, _, _, _⟩ := b
  simp only [UiSnapshot.canon, UiSnapshot.mk.injEq, WindowSnapshot.mk.injEq] at h
  obtain ⟨rfl, hgroEq, rfl, rfl, rfl, ⟨rfl, rfl, rfl⟩, rfl, rfl, rfl, rfl, rfl, rfl, rfl, rfl,
    hvolEq, hlevEq, rfl, rfl, rfl, rfl, rfl, rfl, rfl, rfl, rfl, rfl, rfl, rfl, rfl, rfl,
    rfl⟩ := h
  have h1 : (groups == groups') = true := by
    refine option_beq_of_map_eq (fun gs hs gs' => beq_of_map_eq ?_) hgroEq
    intro g hg g'
    refine SavedGroupReading.beq_of_canon_eq fun m hm => hp m.level ?_
    obtain rfl : groups = some gs := hs
    exact mem_flatMap.mpr ⟨g, hg, mem_map_of_mem hm⟩
  have h2 : (oper == oper) = true :=
    option_beq_of_map_eq (f := id) (fun o ho o' hoo => by
      obtain rfl : o = o' := hoo
      obtain rfl : oper = some o := ho
      exact GroupOperation.beq_self hop) rfl
  have h3 : (geometry == geometry) = true :=
    WindowGeometry.beq_self hw hh (fun x hm => hx x (by simpa using hm))
      (fun y hm => hy y (by simpa using hm))
  have h4 := eq_of_canon_eq hv hvolEq
  have h5 : (levels == levels') = true := by
    refine option_beq_of_map_eq (fun l hl l' => LevelMap.beq_of_canon_eq ?_) hlevEq
    intro e he
    obtain rfl : levels = some l := hl
    exact hle e.2 (mem_map_of_mem he)
  have h6 : ∀ visible closeToTray : Bool, ((⟨visible, geometry, closeToTray⟩ : WindowSnapshot)
      == ⟨visible, geometry, closeToTray⟩) = true := fun visible closeToTray => by
    show instBEqWindowSnapshot.beq _ _ = true
    simp [instBEqWindowSnapshot.beq, h3]
  show instBEqUiSnapshot.beq _ _ = true
  simp [instBEqUiSnapshot.beq, h1, h2, h4, h5, h6]

/-- Publication is sound. The flag says exactly whether the revision grew
by one, and otherwise it stayed; without the flag the snapshot is the
same as before, and so also under the derived equality when it shows no
NaN. -/
theorem publication_sound [Lowercase] (s : AppState) (hr : Reachable s) (e : AppEvent) :
    let after := (reduce s e).1
    let chg := (reduce s e).2.snapshotChanged
    (chg = true ↔ after.revision = s.revision + 1) ∧
    (chg = false ↔ after.revision = s.revision) ∧
    (chg = false → (UiSnapshot.fromState after).canon = (UiSnapshot.fromState s).canon ∧
      ((∀ x ∈ (UiSnapshot.fromState after).floats, x.isNan = false) →
        (UiSnapshot.fromState after == UiSnapshot.fromState s) = true)) := by
  intro after chg
  have hv : after.revision = if chg then s.revision + 1 else s.revision := reduce_revision s e
  refine ⟨?_, ?_, fun hf => ?_⟩
  · cases hc : chg <;> simp [hc, hv]
  · cases hc : chg <;> simp [hc, hv]
  · have hn := reduce_unchanged hr.noticeClosed e hf
    exact ⟨hn, fun ha => UiSnapshot.beq_of_canon_eq ha hn⟩

/-- Muting twice: the second report changes nothing. -/
theorem publication_sound_repeated_mute :
    letI := asciiLowercase
    let s := Mealy.run reduce Sample.fresh [.controller (.muteChanged true)]
    (UiSnapshot.fromState (reduce s (.controller (.muteChanged true))).1).canon
      = (UiSnapshot.fromState s).canon := by
  let _ := asciiLowercase
  intro s
  have hr : Reachable s := Sample.reachable_run [.controller (.muteChanged true)]
  exact ((publication_sound s hr (.controller (.muteChanged true))).2.2 (by decide)).1

end OpenAirCast
