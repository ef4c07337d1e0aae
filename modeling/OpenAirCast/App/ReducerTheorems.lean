/-
App.ReducerTheorems — what one event can do to the session.

`SessionCore` is the part of the state the session arguments are about:
the session counter, the stream, the active set and the listening check.
`ArmMove` lists everything an arm of the event match can do to it, with
the session generations it emits, and `dispatch_move` says that nothing
else happens. The invariants of the later modules are case analyses of
`ArmMove` and never unfold an arm again.
-/
import OpenAirCast.App.FootprintTheorems
import OpenAirCast.Lib.Mealy

namespace OpenAirCast

open List HardwareCheck HardwareCheckPhase StreamState

variable {e : AppEvent} {event : HardwareCheckObservation} {generation : GenerationId}

/-! ## Session effects -/

/-- The session generation an effect carries. -/
def AppEffect.sessionGeneration : AppEffect → Option GenerationId
  | .startSession generation _ _ => some generation
  | .stopSession generation => some generation
  | .group _ generation _ => generation
  | _ => none

/-- The generation of the tone an effect asks for. -/
def AppEffect.toneGeneration : AppEffect → Option GenerationId
  | .playListeningTone generation => some generation
  | _ => none

def sessionGenerations (effects : List AppEffect) : List GenerationId :=
  effects.filterMap AppEffect.sessionGeneration

def toneGenerations (effects : List AppEffect) : List GenerationId :=
  effects.filterMap AppEffect.toneGeneration

theorem sessionGenerations_append (a b : List AppEffect) :
    sessionGenerations (a ++ b) = sessionGenerations a ++ sessionGenerations b :=
  filterMap_append

theorem toneGenerations_append (a b : List AppEffect) :
    toneGenerations (a ++ b) = toneGenerations a ++ toneGenerations b :=
  filterMap_append

/-- Starting something new, or beginning the shutdown. -/
def AppEffect.startsWork : AppEffect → Bool
  | .startSession .. | .group .. | .playListeningTone _ | .discover _
  | .applyReceiverLevel .. | .beginShutdown => true
  | _ => false

/-! ## The session part of the state -/

structure SessionCore where
  session : GenerationId
  stream : StreamState
  active : Finset DeviceId
  phase : HardwareCheckPhase
  binding : Option Binding
  checkGeneration : Option GenerationId
  outcome : Option Bool

variable (s : AppState)

def AppState.core : SessionCore where
  session := s.generations.session
  stream := s.stream
  active := s.activeReceivers
  phase := s.hardwareCheck.phase
  binding := s.hardwareCheck.binding
  checkGeneration := s.hardwareCheck.generation
  outcome := s.hardwareCheck.outcome

/-- The generation a session event is stamped with. -/
def AppEvent.sessionStamp : AppEvent → Option GenerationId
  | .controller (.sessionStarted generation _) => some generation
  | .controller (.sessionDegraded generation _) => some generation
  | .controller (.sessionRestarting generation) => some generation
  | .controller (.sessionStopped generation) => some generation
  | .controller (.sessionFailed generation _) => some generation
  | _ => none

/-- What an arm can do to the session part, and the session generations
it emits while doing it. -/
inductive ArmMove (s : AppState) (e : AppEvent) (o : Outcome) : Prop
  /-- Nothing. -/
  | quiet (hc : o.state.core = s.core) (hf : sessionGenerations o.effects = [])
  /-- A start from idle, failure or teardown. -/
  | started (hi : s.stream.isRunning = false) (he : startsPlayback e = true)
      (hc : o.state.core = { s.core with
        session := s.generations.session + 1
        stream := .starting (s.generations.session + 1)
        active := ∅ })
      (hf : sessionGenerations o.effects = [s.generations.session + 1])
  /-- A stop of a running session. -/
  | stopped (hr : s.stream.isRunning = true)
      (he : e = .stopRequested ∨ e = .globalHotkeyPressed ∨
        (e = .quitRequested ∧ s.shuttingDown = false))
      (hc : o.state.core = { s.core with
        session := s.generations.session + 1
        stream := .stopping (s.generations.session + 1)
        active := ∅ })
      (hf : sessionGenerations o.effects = [s.generations.session + 1])
  /-- A request sent by Apply while the backend's selection is unknown:
  the counter moves and the stream stays. -/
  | redirected (hr : s.stream.isRunning = true) (hk : s.desiredKnown = false)
      (he : e = .applyStagedReceivers)
      (hc : o.state.core = { s.core with session := s.generations.session + 1 })
      (hf : sessionGenerations o.effects = [s.generations.session + 1])
  /-- A backend answer under the current generation. -/
  | answered (stream : StreamState) (active : Finset DeviceId)
      (he : e.sessionStamp = some s.generations.session)
      (ha : active ≠ ∅ → ∃ g, stream = .streaming g ∨ stream = .degraded g)
      (hs : stream.isStopping = false)
      (hc : o.state.core = { s.core with stream := stream, active := active })
      (hf : o.effects = [])
  /-- The listening check starts its session. -/
  | checkStarted (he : e = .hardwareCheck .start) (hi : s.stream = .stopped)
      (hk : s.desiredKnown = true) (hp : s.hardwareCheck.phase ≠ .stopPending)
      (hc : o.state.core =
        { session := s.generations.session + 1
          stream := .starting (s.generations.session + 1)
          active := ∅
          phase := .connecting
          binding := bindingOf s
          checkGeneration := some (s.generations.session + 1)
          outcome := none })
      (hf : ∃ ids volume,
        o.effects = [.startSession (s.generations.session + 1) ids volume])
  /-- The user ends a running check, with or without a verdict. -/
  | checkStopped (verdict : Option Bool)
      (he : verdict = none ∧ e = .hardwareCheck .cancel ∨
        ∃ heard, verdict = some heard ∧ e = .hardwareCheck (.heard heard))
      (hp : s.hardwareCheck.phase = .connecting ∨ s.hardwareCheck.phase = .listening)
      (hr : s.stream.isRunning = true)
      (hc : o.state.core =
        { session := s.generations.session + 1
          stream := .stopping (s.generations.session + 1)
          active := ∅
          phase := .stopPending
          binding := s.hardwareCheck.binding
          checkGeneration := some (s.generations.session + 1)
          outcome := verdict })
      (hf : o.effects = [.stopSession (s.generations.session + 1)])

/-- The part of the state that records what may be played on. -/
structure SelectionCore where
  known : Bool
  revision : Nat
  desired : Finset DeviceId
  staged : Finset DeviceId
  receivers : List ReceiverState

def AppState.selection : SelectionCore where
  known := s.desiredKnown
  revision := s.desiredRevision
  desired := s.desiredReceivers
  staged := s.stagedReceivers
  receivers := s.receivers

/-! ## What lies outside a footprint -/

section Outside

variable {fp : Footprint} {s t : AppState} {o : Outcome}

theorem Differ.core (h : Differ fp s t) (hs : fp.session = false)
    (hc : fp.check = false) : t.core = s.core := by
  rw [h]
  simp only [AppState.core, AppState.within, hs, hc, cond_false]

theorem Differ.selection (h : Differ fp s t) (hs : fp.selection = false)
    (hd : fp.draft = false) (hr : fp.rows = false) : t.selection = s.selection := by
  rw [h]
  simp only [AppState.selection, AppState.within, hs, hd, hr, cond_false]

variable (h : Within fp s o)
include h

theorem Within.sessionless (hs : fp.session = false) : sessionGenerations o.effects = [] := by
  refine filterMap_eq_nil_iff.mpr (fun effect hmem => ?_)
  have hp := all_eq_true.mp h.effects effect hmem
  cases effect <;> simp_all [Footprint.permits, AppEffect.sessionGeneration]

/-- Tones come from the observer alone. -/
theorem Within.toneless : toneGenerations o.effects = [] := by
  refine filterMap_eq_nil_iff.mpr (fun effect hmem => ?_)
  have hp := all_eq_true.mp h.effects effect hmem
  cases effect <;> first | rfl | cases hp

theorem Within.startless (hs : fp.session = false) (hq : fp.quit = false)
    (hquitt : s.shuttingDown = true) :
    o.effects.all (fun effect => !effect.startsWork) = true := by
  refine all_eq_true.mpr (fun effect hmem => ?_)
  have hp := all_eq_true.mp h.effects effect hmem
  cases effect <;> simp_all [Footprint.permits, AppEffect.startsWork]

end Outside

theorem AppEvent.unchecked (h : e.footprint.session = false) :
    e.footprint.check = false ∧ e.footprint.quit = false := by
  cases e with
  | hardwareCheck action => cases action <;> first | exact ⟨rfl, rfl⟩ | cases h
  | controller event => cases event <;> exact ⟨rfl, rfl⟩
  | quitRequested => cases h
  | _ => exact ⟨rfl, rfl⟩

/-! ## Request arms -/

theorem stopRequested_move (he : e = .stopRequested ∨ e = .globalHotkeyPressed) :
    ArmMove s e (stopRequested s) := by
  unfold stopRequested
  split
  · exact .quiet rfl rfl
  · rename_i h
    exact .stopped (by simpa using h) (he.imp_right .inl) rfl rfl

theorem startWithReceiverIds_move {s : AppState} (ids : List DeviceId)
    (hi : s.stream.isStoppedOrFailed = true) (he : startsPlayback e = true) :
    ArmMove s e (startWithReceiverIds s ids) := by
  refine .started ?_ he rfl rfl
  cases h : s.stream <;> simp_all [isStoppedOrFailed, isRunning]

theorem startRequested_move (he : startsPlayback e = true) : ArmMove s e (startRequested s) := by
  unfold startRequested
  split
  · exact .quiet rfl rfl
  · rename_i h
    have hi : s.stream.isStoppedOrFailed = true := by
      cases hs : s.stream.isStoppedOrFailed <;> simp_all
    simp only
    split
    · exact .quiet rfl rfl
    · split
      · exact startWithReceiverIds_move _ hi he
      · exact startWithReceiverIds_move _ hi he

theorem groupRequested_move (cmd : GroupCommand)
    (he : cmd.isStart = true → startsPlayback e = true) :
    ArmMove s e (groupRequested s cmd) := by
  unfold groupRequested
  split
  · exact .quiet rfl rfl
  · simp only
    split
    · exact .quiet rfl rfl
    · split
      · rename_i h
        refine .started ?_ (he (by simp_all)) rfl rfl
        cases hs : s.stream <;> simp_all [isStoppedOrFailed, isStopping, isRunning]
      · exact .quiet rfl rfl

variable {o : Outcome}

/-- Apart from the check's start, a move reads a state through its session
part and two flags. -/
theorem ArmMove.of_core_eq {s t : AppState}
    (hcr : t.core = s.core) (hn : t.desiredKnown = s.desiredKnown)
    (hq : t.shuttingDown = s.shuttingDown) (hb : e ≠ .hardwareCheck .start) (h : ArmMove t e o) :
    ArmMove s e o := by
  have hs : t.generations.session = s.generations.session := congrArg SessionCore.session hcr
  have hsr : t.stream = s.stream := congrArg SessionCore.stream hcr
  have hh : t.hardwareCheck.phase = s.hardwareCheck.phase := congrArg SessionCore.phase hcr
  have hbi : t.hardwareCheck.binding = s.hardwareCheck.binding := congrArg SessionCore.binding hcr
  cases h with
  | quiet hc hf => exact .quiet (hc.trans hcr) hf
  | started hi hk hc hf =>
    rw [hs, hcr] at hc
    rw [hs] at hf
    exact .started (hsr ▸ hi) hk hc hf
  | stopped hr he hc hf =>
    rw [hs, hcr] at hc
    rw [hs] at hf
    exact .stopped (hsr ▸ hr) (hq ▸ he) hc hf
  | redirected hr hk he hc hf =>
    rw [hs, hcr] at hc
    rw [hs] at hf
    exact .redirected (hsr ▸ hr) (hn ▸ hk) he hc hf
  | answered stream act he ha ht hc hf =>
    rw [hcr] at hc
    exact .answered stream act (hs ▸ he) ha ht hc hf
  | checkStarted he => exact absurd he hb
  | checkStopped v he hp hr hc hf =>
    rw [hs, hbi] at hc
    rw [hs] at hf
    exact .checkStopped v he (hh ▸ hp) (hsr ▸ hr) hc hf

theorem redirectSession_move {s : AppState} (hk : s.desiredKnown = false) :
    ArmMove s .applyStagedReceivers (redirectSession s) := by
  unfold redirectSession
  split
  · exact .quiet rfl rfl
  · rename_i h
    have hr : s.stream.isRunning = true := by simpa using h
    simp only
    split
    · exact .redirected hr hk rfl rfl rfl
    · split
      · exact .quiet rfl rfl
      · exact .redirected hr hk rfl rfl rfl

theorem applyStaged_move : ArmMove s .applyStagedReceivers (applyStaged s) := by
  unfold applyStaged
  split
  · exact groupRequested_move _ _ (by simp [GroupCommand.isStart])
  · rename_i hk
    have ha : (adoptStaged s).desiredKnown = s.desiredKnown := rfl
    exact ArmMove.of_core_eq (t := adoptStaged s) rfl ha rfl (by simp)
      (redirectSession_move (ha.trans (by simpa using hk)))

theorem hotkeyStart_move : ArmMove s .globalHotkeyPressed (hotkeyStart s) := by
  unfold hotkeyStart
  split
  · exact .quiet rfl rfl
  · exact startRequested_move s rfl

theorem globalHotkeyPressed_move [Lowercase] :
    ArmMove s .globalHotkeyPressed (globalHotkeyPressed s) := by
  unfold globalHotkeyPressed
  split
  · exact .quiet rfl rfl
  · split
    · exact stopRequested_move s (.inr rfl)
    · split
      · split
        · split
          · rename_i cand hc
            refine startWithReceiverIds_move _ ?_ rfl
            split at hc
            · assumption
            · simp at hc
          · exact hotkeyStart_move s
        · have hs := selectFirstAvailableReceiver_differ s
          have hk : (selectFirstAvailableReceiver s).desiredKnown = s.desiredKnown := by
            unfold selectFirstAvailableReceiver
            split <;> rfl
          exact ArmMove.of_core_eq (hs.core rfl rfl) hk (hs.shuttingDown rfl)
            (by simp) (hotkeyStart_move _)
      · exact hotkeyStart_move s

theorem quitRequested_move : ArmMove s .quitRequested (quitRequested s) := by
  unfold quitRequested persistPreferences
  split
  · exact .quiet rfl rfl
  · rename_i hq
    simp only
    split
    · rename_i hr
      exact .stopped hr (.inr (.inr ⟨rfl, by simpa using hq⟩)) rfl rfl
    · exact .quiet rfl rfl

/-! ## Answer arms -/

theorem clearSessionFailureNotice_core : (clearSessionFailureNotice s).1.core = s.core := by
  unfold clearSessionFailureNotice
  split <;> rfl

theorem sessionRunning_move (e : AppEvent) (stream : StreamState)
    (generation : GenerationId) (act : List DeviceId)
    (ht : stream = .streaming generation ∨ stream = .degraded generation)
    (hs : e.sessionStamp = some generation) :
    ArmMove s e (sessionRunning stream s generation act) := by
  unfold sessionRunning
  split
  · exact .quiet rfl rfl
  · rename_i hg
    simp only
    refine .answered stream act.toFinset (by simp_all) (fun _ => ⟨generation, ht⟩) ?_ ?_ rfl
    · rcases ht with rfl | rfl <;> rfl
    · have h := clearSessionFailureNotice_core s
      simp only [AppState.core, SessionCore.mk.injEq] at h ⊢
      simp [h]

theorem sessionRestarting_move (hs : e.sessionStamp = some generation) :
    ArmMove s e (sessionRestarting s generation) := by
  unfold sessionRestarting
  split
  · exact .quiet rfl rfl
  · rename_i hg
    exact .answered (.restarting generation) ∅ (by simp_all) (fun h => absurd rfl h) rfl rfl rfl

theorem sessionStopped_move (hs : e.sessionStamp = some generation) :
    ArmMove s e (sessionStopped s generation) := by
  unfold sessionStopped
  split
  · exact .quiet rfl rfl
  · rename_i hg
    exact .answered .stopped ∅ (by simp_all) (fun h => absurd rfl h) rfl rfl rfl

theorem sessionFailed_move (summ : String) (hs : e.sessionStamp = some generation) :
    ArmMove s e (sessionFailed s generation summ) := by
  unfold sessionFailed
  split
  · exact .quiet rfl rfl
  · rename_i hg
    exact .answered .stopped ∅ (by simp_all) (fun h => absurd rfl h) rfl rfl rfl

/-! ## The check's gestures -/

/-- What the prerequisites say of the state, one conjunct a blocker. -/
theorem ready_iff : ready s = true ↔
    (s.shuttingDown = false ∧ s.controllerClosed = false) ∧
    (s.desiredKnown = true ∧ s.desiredReceivers ≠ ∅) ∧
    (s.stagedReceivers = s.desiredReceivers ∧ groupPending s = false) ∧
    allAvailable s = true ∧ levelsAudible s = true ∧
    s.muted = some false ∧ s.latency.any (fun l => l.selected = .normal) = true ∧
    s.volumePending = false ∧ volumeSettled s = true ∧
    sourceUsable s = true := by
  unfold ready prerequisiteBlocker
  split_ifs <;> simp_all
  -- left are the blockers with two ways to hold
  all_goals
    rename_i h
    rcases h with h | h <;> simp [h]

/-- The confirmation is not a prerequisite. -/
theorem prerequisiteBlocker_ne_confirmation : prerequisiteBlocker s ≠ some .confirmation := by
  unfold prerequisiteBlocker
  split_ifs <;> simp

variable {s}

theorem ready_known (h : ready s = true) : s.desiredKnown = true := ((ready_iff s).mp h).2.1.1

theorem ready_not_shuttingDown (h : ready s = true) :
    s.shuttingDown = false := ((ready_iff s).mp h).1.1

theorem isMatching_ready {check : HardwareCheck}
    (h : check.isMatching s = true) : ready s = true := by
  unfold isMatching at h
  simp only [Bool.and_eq_true] at h
  exact h.1

/-- A check that may start finds the stream stopped and every
prerequisite met. -/
theorem fromState_ready (h : (HardwareCheckSnapshot.fromState s).ready = true) :
    s.stream = .stopped ∧ s.hardwareCheck.phase ≠ .stopPending ∧ ready s = true := by
  simp only [HardwareCheckSnapshot.fromState, startBlocker] at h
  have hc := prerequisiteBlocker_ne_confirmation s
  split_ifs at h with h1 h2 h3 <;> simp_all [ready]
  all_goals cases hb : prerequisiteBlocker s <;> simp_all

/-- A verdict is taken only from a complete, still matching session. -/
theorem fromState_canConfirm (h : (HardwareCheckSnapshot.fromState s).canConfirm = true) :
    s.hardwareCheck.phase = .listening ∧ s.hardwareCheck.isMatching s = true ∧
      s.hardwareCheck.generation = some s.generations.session ∧
      s.stream.isStreaming = true ∧ s.activeReceivers = s.desiredReceivers := by
  simpa [HardwareCheckSnapshot.fromState, and_assoc] using h

theorem mem_availableSelectedIds {id : DeviceId} : id ∈ availableSelectedIds s ↔
      id ∈ s.desiredReceivers ∧ ∃ r ∈ s.receivers, r.availability = .available ∧ r.id = id := by
  simp only [availableSelectedIds, mem_sortedIds, mem_toFinset, mem_map,
    mem_filter, Bool.and_eq_true, decide_eq_true_eq]
  constructor
  · rintro ⟨r, ⟨hr, ha, hs⟩, rfl⟩
    exact ⟨hs, r, hr, ha, rfl⟩
  · rintro ⟨hs, r, hr, ha, rfl⟩
    exact ⟨r, ⟨hr, ha, hs⟩, rfl⟩

/-- Every prerequisite met means there is something to start on. -/
theorem availableSelectedIds_of_ready (h : ready s = true) :
    (availableSelectedIds s).isEmpty = false := by
  obtain ⟨-, ⟨-, hne⟩, -, ha, -⟩ := (ready_iff s).mp h
  obtain ⟨id, hi⟩ := Finset.nonempty_iff_ne_empty.mpr hne
  simp only [allAvailable, decide_eq_true_eq, any_eq_true, decide_eq_true_eq] at ha
  obtain ⟨r, hr, hd, hv⟩ := ha id hi
  have hmem : id ∈ availableSelectedIds s := mem_availableSelectedIds.mpr ⟨hi, r, hr, hv, hd⟩
  cases hs : availableSelectedIds s with
  | nil => simp [hs] at hmem
  | cons => rfl

/-- From idle with every prerequisite met, Start starts. -/
theorem startRequested_of_ready (hi : s.stream = .stopped) (h : ready s = true) :
    startRequested s = startWithReceiverIds s (sortedIds s.desiredReceivers) := by
  have hq := ready_not_shuttingDown h
  have hd := availableSelectedIds_of_ready h
  simp [startRequested, hi, hq, hd, ready_known h, isStoppedOrFailed]

theorem stopRequested_of_running (h : s.stream.isRunning = true) : stopRequested s = ⟨{ s with
          generations := { s.generations with session := s.generations.session + 1 }
          stream := .stopping (s.generations.session + 1)
          activeReceivers := ∅ },
        [.stopSession (s.generations.session + 1)], true⟩ := by
  simp [stopRequested, h, nextGeneration]

theorem stopRequested_of_not_running (h : s.stream.isRunning = false) :
    stopRequested s = ⟨s, [], false⟩ := by
  simp [stopRequested, h]

variable {stream : StreamState}

theorem isRunning_of_startingOrStreaming
    (h : stream.isStartingOrStreaming = true) : stream.isRunning = true := by
  cases stream <;> simp_all [isStartingOrStreaming, isRunning]

theorem isRunning_of_streaming (h : stream.isStreaming = true) : stream.isRunning = true := by
  cases stream <;> simp_all [isStreaming, isRunning]

/-- `HardwareCheck::Connecting` and `Listening`: a check under way. -/
def HardwareCheckPhase.isUnderWay : HardwareCheckPhase → Bool
  | .connecting | .listening => true
  | _ => false

theorem hardwareCheckStart_move (s : AppState) :
    ArmMove s (.hardwareCheck .start) (hardwareCheckRequested s .start) := by
  unfold hardwareCheckRequested
  split
  · exact .quiet rfl rfl
  · simp only
    split
    · exact .quiet rfl rfl
    · rename_i hg
      have hr : (HardwareCheckSnapshot.fromState s).ready = true := by
        cases h : (HardwareCheckSnapshot.fromState s).ready <;> simp_all
      obtain ⟨hi, hh, hp⟩ := fromState_ready hr
      rw [startRequested_of_ready hi hp]
      exact .checkStarted rfl hi (ready_known hp) hh rfl ⟨_, _, rfl⟩

theorem hardwareCheckHeard_move (s : AppState) (heard : Bool) :
    ArmMove s (.hardwareCheck (.heard heard)) (hardwareCheckRequested s (.heard heard)) := by
  unfold hardwareCheckRequested
  split
  · exact .quiet rfl rfl
  · simp only
    split
    · exact .quiet rfl rfl
    · rename_i hg
      obtain ⟨hp, -, -, hs, -⟩ := fromState_canConfirm (by simpa using hg)
      have hr := isRunning_of_streaming hs
      rw [stopRequested_of_running hr]
      exact .checkStopped (some heard) (.inr ⟨heard, rfl, rfl⟩) (.inr hp) hr
        rfl rfl

/-- The hypothesis is the check's own invariant: while it is under way,
its session is starting or streaming. -/
theorem hardwareCheckCancel_move
    (hc : s.hardwareCheck.phase.isUnderWay = true →
      s.stream.isStartingOrStreaming = true) :
    ArmMove s (.hardwareCheck .cancel) (hardwareCheckRequested s .cancel) := by
  unfold hardwareCheckRequested
  split
  · exact .quiet rfl rfl
  · simp only
    split
    · exact .quiet rfl rfl
    · rename_i hg
      have hp : s.hardwareCheck.phase = .connecting ∨ s.hardwareCheck.phase = .listening := by
        by_contra hn
        exact hg (not_or.mp hn)
      have hu : s.hardwareCheck.phase.isUnderWay = true := by
        rcases hp with h | h <;> simp [h, isUnderWay]
      have hr := isRunning_of_startingOrStreaming (hc hu)
      rw [stopRequested_of_running hr]
      exact .checkStopped none (.inl ⟨rfl, rfl⟩) hp hr rfl rfl

/-! ## Every arm -/

theorem dispatch_move [Lowercase] (hc : s.hardwareCheck.phase.isUnderWay = true →
      s.stream.isStartingOrStreaming = true) (e : AppEvent) :
    ArmMove s e (dispatch s e) := by
  cases hs : e.footprint.session with
  | false =>
    have h := dispatch_within s e
    exact .quiet (h.state.core hs (AppEvent.unchecked hs).1) (h.sessionless hs)
  | true =>
    cases e with
    | hardwareCheck action =>
      cases action with
      | start => exact hardwareCheckStart_move s
      | heard heard => exact hardwareCheckHeard_move s heard
      | cancel => exact hardwareCheckCancel_move hc
      | _ => cases hs
    | groupRequested cmd => exact groupRequested_move s cmd (fun h => h)
    | applyStagedReceivers => exact applyStaged_move s
    | startRequested => exact startRequested_move s rfl
    | stopRequested => exact stopRequested_move s (.inl rfl)
    | globalHotkeyPressed => exact globalHotkeyPressed_move s
    | quitRequested => exact quitRequested_move s
    | controller event =>
      cases event with
      | sessionStarted => exact sessionRunning_move s _ _ _ _ (.inl rfl) rfl
      | sessionDegraded => exact sessionRunning_move s _ _ _ _ (.inr rfl) rfl
      | sessionRestarting => exact sessionRestarting_move s rfl
      | sessionStopped => exact sessionStopped_move s rfl
      | sessionFailed _ summ => exact sessionFailed_move s summ rfl
      | _ => cases hs
    | _ => cases hs

/-! ## The selection -/

/-- What an arm can do to the selection the shell believes the backend
to have. -/
inductive SelectionMove (s : AppState) (e : AppEvent) (t : AppState) : Prop
  | kept (hk : t.desiredKnown = s.desiredKnown) (hr : t.desiredRevision = s.desiredRevision)
      (hd : t.desiredReceivers = s.desiredReceivers)
  /-- An edit of the shell's own, before the first reading. -/
  | edited (he : e = .applyStagedReceivers ∨ e = .globalHotkeyPressed)
      (hb : s.desiredKnown = false) (hk : t.desiredKnown = false)
      (hr : t.desiredRevision = s.desiredRevision + 1)
  /-- A reading of the backend's, taken over. -/
  | reading (revision : Nat) (ids : List DeviceId)
      (he : e = .controller (.desiredReceiversChanged revision ids))
      (hn : s.desiredRevision ≤ revision)
      (hk : t.desiredKnown = true)
      (hr : t.desiredRevision = revision)
      (hd : t.desiredReceivers = ids.toFinset)

theorem SelectionMove.of_selection_eq {t : AppState}
    (h : t.selection = s.selection) : SelectionMove s e t :=
  .kept (congrArg SelectionCore.known h) (congrArg SelectionCore.revision h)
    (congrArg SelectionCore.desired h)

theorem SelectionMove.of_result_eq {t t' : AppState}
    (h : SelectionMove s e t) (ht : t'.selection = t.selection) : SelectionMove s e t' := by
  have hkn : t'.desiredKnown = t.desiredKnown := congrArg SelectionCore.known ht
  have hv : t'.desiredRevision = t.desiredRevision := congrArg SelectionCore.revision ht
  have hs : t'.desiredReceivers = t.desiredReceivers := congrArg SelectionCore.desired ht
  cases h with
  | kept hk hr hd => exact .kept (hkn.trans hk) (hv.trans hr) (hs.trans hd)
  | edited he hb hk hr => exact .edited he hb (hkn.trans hk) (hv.trans hr)
  | reading revision ids he hn hk hr hd =>
    exact .reading revision ids he hn (hkn.trans hk) (hv.trans hr) (hs.trans hd)

theorem Differ.selectionMove {fp : Footprint} {t : AppState}
    (h : Differ fp s t) (hs : fp.selection = false) : SelectionMove s e t := by
  rw [h]
  exact .kept (by simp only [AppState.within, hs, cond_false])
    (by simp only [AppState.within, hs, cond_false])
    (by simp only [AppState.within, hs, cond_false])

variable (s)

theorem applyStaged_selectionMove :
    SelectionMove s .applyStagedReceivers (applyStaged s).state := by
  unfold applyStaged
  split
  · exact (groupRequested_within s _).state.selectionMove rfl
  · rename_i hk
    have hb : s.desiredKnown = false := by simpa using hk
    have hs := (redirectSession_within (adoptStaged s)).state.selection rfl rfl rfl
    exact .edited (.inl rfl) hb ((congrArg SelectionCore.known hs).trans hb)
      (congrArg SelectionCore.revision hs)

theorem globalHotkeyPressed_selectionMove [Lowercase] :
    SelectionMove s .globalHotkeyPressed (globalHotkeyPressed s).state := by
  unfold globalHotkeyPressed
  split
  · exact .of_selection_eq rfl
  · split
    · exact (stopRequested_within s).state.selectionMove rfl
    · split
      · split
        · split
          · exact .of_selection_eq rfl
          · exact (hotkeyStart_within s).state.selectionMove rfl
        · rename_i hk
          have hb : s.desiredKnown = false := by simpa using hk
          have hs :=
            (hotkeyStart_within (selectFirstAvailableReceiver s)).state.selection rfl rfl rfl
          unfold selectFirstAvailableReceiver at hs ⊢
          split at hs
          · exact .of_selection_eq hs
          · exact .edited (.inr rfl) hb ((congrArg SelectionCore.known hs).trans hb)
              (congrArg SelectionCore.revision hs)
      · exact (hotkeyStart_within s).state.selectionMove rfl

theorem updateDesired_selectionMove (revision : Nat) (ids : List DeviceId) :
    SelectionMove s (.controller (.desiredReceiversChanged revision ids))
      (updateDesired s revision ids).state := by
  unfold updateDesired
  split
  · exact .kept rfl rfl rfl
  · rename_i hn
    refine .reading revision ids rfl ?_ rfl rfl rfl
    by_contra hlt
    simp [not_le.mp hlt] at hn

theorem dispatch_selectionMove [Lowercase] (e : AppEvent) :
    SelectionMove s e (dispatch s e).state := by
  cases hs : e.footprint.selection with
  | false => exact (dispatch_within s e).state.selectionMove hs
  | true =>
    cases e with
    | hardwareCheck action => cases action <;> cases hs
    | applyStagedReceivers => exact applyStaged_selectionMove s
    | globalHotkeyPressed => exact globalHotkeyPressed_selectionMove s
    | controller event =>
      cases event with
      | desiredReceiversChanged revision ids => exact updateDesired_selectionMove s revision ids
      | _ => cases hs
    | _ => cases hs

/-- Once the backend's selection is known it stays known. -/
theorem SelectionMove.desiredKnown {s t : AppState}
    (h : SelectionMove s e t) (hn : s.desiredKnown = true) : t.desiredKnown = true := by
  cases h with
  | kept hk => exact hk.trans hn
  | edited _ hb => simp [hn] at hb
  | reading _ _ _ _ hk => exact hk

/-! ## The observer -/

/-- What a check under way rests on. -/
structure CheckBound (s : AppState) : Prop where
  matching : s.hardwareCheck.isMatching s = true
  generation : s.hardwareCheck.generation = some s.generations.session
  stream : s.stream.isStartingOrStreaming = true

/-- The stop the observer issues on its own. -/
def abandonedStop : AppState :=
  { s with
    generations := { s.generations with session := s.generations.session + 1 }
    stream := .stopping (s.generations.session + 1)
    activeReceivers := if s.stream.isRunning then ∅ else s.activeReceivers }

/-- Everything the observer can do, the state it leaves written out. -/
inductive ObserveMove (s : AppState) (event : HardwareCheckObservation) (o : Outcome) : Prop
  | resting (hp : s.hardwareCheck.phase = .preparation ∨ s.hardwareCheck.phase = .invalidated)
      (hs : o.state = s) (hf : o.effects = [])
  | watching (hp : s.hardwareCheck.phase.isUnderWay = true)
      (hc : event.configurationRequest = false) (hb : CheckBound s)
      (hi : ¬ (s.stream.isStreaming = true ∧ s.activeReceivers = s.desiredReceivers))
      (hs : o.state = s) (hf : o.effects = [])
  | complete (hp : s.hardwareCheck.phase.isUnderWay = true)
      (hc : event.configurationRequest = false) (hb : CheckBound s)
      (hs : s.stream.isStreaming = true)
      (ha : s.activeReceivers = s.desiredReceivers)
      (ht : o.state = { s with hardwareCheck := { s.hardwareCheck with
        phase := .listening } })
      (hf : o.effects = if s.hardwareCheck.phase = .connecting then
        [.playListeningTone s.generations.session] else [])
  /-- The arm left a stop under way; the check waits for that one. -/
  | abandonedToStop (hp : s.hardwareCheck.phase.isUnderWay = true) (hs : s.stream.isStopping = true)
      (ht : o.state = awaitStop s none) (hf : o.effects = [])
  | abandoned (hp : s.hardwareCheck.phase.isUnderWay = true)
      (hb : event.configurationRequest = true ∨ ¬ CheckBound s)
      (hs : s.stream.isStopping = false)
      (ht : o.state = awaitStop (abandonedStop s) none)
      (hf : o.effects = [.stopSession (s.generations.session + 1)])
  | pending (hp : s.hardwareCheck.phase = .stopPending) (ha : acknowledgesStop s event = false)
      (hs : o.state = { s with hardwareCheck := { s.hardwareCheck with
        outcome := stopOutcome s event } })
      (hf : o.effects = [])
  | released (hp : s.hardwareCheck.phase = .stopPending) (ha : acknowledgesStop s event = true)
      (hs : o.state = { s with hardwareCheck := { s.hardwareCheck with
        outcome := stopOutcome s event
        phase := verdictPhase (stopOutcome s event)
        prepared := false } })
      (hf : o.effects = [])
  | kept (hp : s.hardwareCheck.phase = .heard ∨ s.hardwareCheck.phase = .notHeard)
      (hm : s.hardwareCheck.isMatching s = true) (hs : s.stream = .stopped)
      (ht : o.state = s) (hf : o.effects = [])
  | lost (hp : s.hardwareCheck.phase = .heard ∨ s.hardwareCheck.phase = .notHeard)
      (hb : event.configurationRequest = true ∨ matchingFault s event = true ∨
        s.hardwareCheck.isMatching s = false ∨ s.stream ≠ .stopped)
      (hs : o.state = { s with hardwareCheck := { s.hardwareCheck with
        phase := .invalidated } })
      (hf : o.effects = [])

variable {s}

theorem abandonCheck_of_stopping (h : s.stream.isStopping = true) :
    abandonCheck s = (awaitStop s none, []) := by
  have hi : s.stream.isRunning = false := by
    cases hs : s.stream <;> simp_all [isStopping, isRunning]
  simp [abandonCheck, stopRequested_of_not_running hi, h]

theorem abandonCheck_of_not_stopping (h : s.stream.isStopping = false) : abandonCheck s =
      (awaitStop (abandonedStop s) none, [.stopSession (s.generations.session + 1)]) := by
  cases hr : s.stream.isRunning with
  | true => simp [abandonCheck, stopRequested_of_running hr, isStopping, abandonedStop, hr]
  | false =>
    simp [abandonCheck, stopRequested_of_not_running hr, h, abandonedStop, hr, nextGeneration]

theorem observeRunning_move (chg : Bool) (hp : s.hardwareCheck.phase.isUnderWay = true) :
    ObserveMove s event ⟨(observeRunning s event).1, (observeRunning s event).2, chg⟩ := by
  unfold observeRunning
  simp only
  split
  · rename_i hr
    cases hs : s.stream.isStopping with
    | true =>
      rw [abandonCheck_of_stopping hs]
      exact .abandonedToStop hp hs rfl rfl
    | false =>
      rw [abandonCheck_of_not_stopping hs]
      refine .abandoned hp ?_ hs rfl rfl
      cases hn : event.configurationRequest with
      | true => exact .inl rfl
      | false =>
        refine .inr ?_
        intro hb
        simp [hn, hb.matching, hb.generation, hb.stream] at hr
  · rename_i ho
    simp only [Bool.or_eq_true, Bool.not_eq_true', decide_eq_true_eq, not_or,
      Bool.not_eq_true, Bool.not_eq_false, not_not] at ho
    have hb : CheckBound s := ⟨ho.1.1.2, ho.1.2, ho.2⟩
    split
    · rename_i hc
      simp only [Bool.and_eq_true, decide_eq_true_eq] at hc
      exact .complete hp ho.1.1.1 hb hc.1 hc.2 rfl rfl
    · rename_i hi
      exact .watching hp ho.1.1.1 hb (by simpa using hi) rfl rfl

theorem observeHardwareCheck_move (s : AppState) (event : HardwareCheckObservation) :
    ObserveMove s event (observeHardwareCheck s event) := by
  unfold observeHardwareCheck
  cases hp : s.hardwareCheck.phase with
  | preparation => exact .resting (.inl hp) rfl rfl
  | invalidated => exact .resting (.inr hp) rfl rfl
  | connecting => exact observeRunning_move _ (by simp [hp, isUnderWay])
  | listening => exact observeRunning_move _ (by simp [hp, isUnderWay])
  | stopPending =>
    cases ha : acknowledgesStop s event with
    | true => exact .released hp ha (by simp [observeStopPending, ha]) rfl
    | false => exact .pending hp ha (by simp [observeStopPending, ha]) rfl
  | heard | notHeard =>
    by_cases hb : (event.configurationRequest || matchingFault s event
        || !s.hardwareCheck.isMatching s || decide (s.stream ≠ .stopped)) = true
    · refine .lost (by simp [hp]) ?_ (by simp only [observeVerdict, if_pos hb]) rfl
      simpa [or_assoc] using hb
    · refine .kept (by simp [hp]) ?_ ?_ (by simp only [observeVerdict, if_neg hb]) rfl
      · by_contra hc
        simp [hc] at hb
      · by_contra hc
        simp [hc] at hb

/-! ## One event -/

/-- The one field `finish` writes. -/
def AppState.withRevision (s : AppState) (revision : Nat) : AppState :=
  { s with revision := revision }

section WithRevision

variable (s : AppState) (revision : Nat)

@[simp] theorem withRevision_hardwareCheck :
    (s.withRevision revision).hardwareCheck = s.hardwareCheck := rfl
end WithRevision

/-- One event, whole: it is refused, or an arm and then the observer act
on it. Only the revision is written after them. -/
inductive ReduceMove [Lowercase] (s : AppState) (e : AppEvent) : Prop
  | refused (hp : s.hardwareCheck.phase = .stopPending) (he : startsPlayback e = true)
      (hq : reduce s e = (s, ⟨[], false⟩))
  | reacted (ho : ¬ (s.hardwareCheck.phase = .stopPending ∧ startsPlayback e = true))
      (o : Outcome) (hb : ObserveMove (dispatch s e).state (.fromEvent e) o) (revision : Nat)
      (hs : (reduce s e).1 = o.state.withRevision revision)
      (hf : (reduce s e).2.effects = (dispatch s e).effects ++ o.effects)

theorem reduce_of_refused [Lowercase]
    (hp : s.hardwareCheck.phase = .stopPending) (he : startsPlayback e = true) :
    reduce s e = (s, ⟨[], false⟩) := by
  simp [reduce, finish, hp, he]

theorem finish_state (s : AppState) (effects : List AppEffect) (chg : Bool) :
    ∃ revision, (finish s effects chg).1 = s.withRevision revision := by
  cases chg with
  | true => exact ⟨s.revision + 1, rfl⟩
  | false => exact ⟨s.revision, rfl⟩

theorem reduce_move [Lowercase] (s : AppState) (e : AppEvent) : ReduceMove s e := by
  by_cases h : s.hardwareCheck.phase = .stopPending ∧ startsPlayback e = true
  · exact .refused h.1 h.2 (reduce_of_refused h.1 h.2)
  · have heq : reduce s e = finish (observeHardwareCheck (dispatch s e).state (.fromEvent e)).state
        ((dispatch s e).effects ++
          (observeHardwareCheck (dispatch s e).state (.fromEvent e)).effects)
        ((dispatch s e).changed
          || (observeHardwareCheck (dispatch s e).state (.fromEvent e)).changed
          || decide (HardwareCheckSnapshot.fromState s ≠ HardwareCheckSnapshot.fromState
            (observeHardwareCheck (dispatch s e).state (.fromEvent e)).state)) := by
      simp only [reduce, if_neg h]
    obtain ⟨revision, hr⟩ := finish_state
      (observeHardwareCheck (dispatch s e).state (.fromEvent e)).state
      ((dispatch s e).effects ++ (observeHardwareCheck (dispatch s e).state (.fromEvent e)).effects)
      ((dispatch s e).changed
        || (observeHardwareCheck (dispatch s e).state (.fromEvent e)).changed
        || decide (HardwareCheckSnapshot.fromState s ≠ HardwareCheckSnapshot.fromState
          (observeHardwareCheck (dispatch s e).state (.fromEvent e)).state))
    exact .reacted h _ (observeHardwareCheck_move _ _) revision (heq ▸ hr) (by rw [heq]; rfl)

/-- The observer leaves a check under way only when everything it rests
on holds. -/
theorem ObserveMove.checkBound
    (h : ObserveMove s event o) (hh : o.state.hardwareCheck.phase.isUnderWay = true) :
    CheckBound o.state := by
  cases h with
  | resting hp hs =>
    rw [hs] at hh
    rcases hp with hp | hp <;> simp [hp, isUnderWay] at hh
  | watching _ _ hb _ hs => exact hs ▸ hb
  | complete _ _ hb _ _ hs =>
    rw [hs]
    exact ⟨hb.matching, hb.generation, hb.stream⟩
  | abandonedToStop _ _ hs => simp [hs, awaitStop, isUnderWay] at hh
  | abandoned _ _ _ hs => simp [hs, awaitStop, isUnderWay] at hh
  | pending hp _ hs => simp [hs, hp, isUnderWay] at hh
  | released _ _ hs =>
    rw [hs] at hh
    cases ho : stopOutcome s event with
    | none => simp [ho, verdictPhase, isUnderWay] at hh
    | some b => cases b <;> simp [ho, verdictPhase, isUnderWay] at hh
  | kept hp _ _ hs =>
    rw [hs] at hh
    rcases hp with hp | hp <;> simp [hp, isUnderWay] at hh
  | lost _ _ hs => simp [hs, isUnderWay] at hh

theorem ObserveMove.differ
    (h : ObserveMove s event o) : Differ { session := true, check := true } s o.state := by
  cases h <;> rename_i hs _ <;> rw [hs] <;> rfl

theorem ObserveMove.selection
    (h : ObserveMove s event o) : o.state.selection = s.selection := h.differ.selection rfl rfl rfl

/-- The observer asks for one effect at most. -/
theorem ObserveMove.effects_cases (h : ObserveMove s event o) : o.effects = [] ∨ ∃ generation,
      o.effects = [.stopSession generation] ∨ o.effects = [.playListeningTone generation] := by
  cases h with
  | complete _ _ _ _ _ _ hf =>
    split at hf
    · exact .inr ⟨_, .inr hf⟩
    · exact .inl hf
  | abandoned _ _ _ _ hf => exact .inr ⟨_, .inl hf⟩
  | resting _ hs hf | watching _ _ _ _ hs hf | kept _ _ _ hs hf
  | abandonedToStop _ _ hs hf | pending _ _ hs hf | released _ _ hs hf
  | lost _ _ _ hf => exact .inl hf

theorem reduce_checkBound [Lowercase] (s : AppState) (e : AppEvent)
    (h : (reduce s e).1.hardwareCheck.phase.isUnderWay = true) : CheckBound (reduce s e).1 := by
  cases reduce_move s e with
  | refused hp _ heq => simp [heq, hp, isUnderWay] at h
  | reacted _ _ ho _ hs =>
    rw [hs] at h ⊢
    have hb := ho.checkBound h
    exact ⟨hb.matching, hb.generation, hb.stream⟩

theorem reduce_selectionMove [Lowercase] (s : AppState) (e : AppEvent) :
    SelectionMove s e (reduce s e).1 := by
  cases reduce_move s e with
  | refused _ _ heq =>
    rw [heq]
    exact .of_selection_eq rfl
  | reacted _ _ ho _ hs =>
    have hl : (reduce s e).1.selection = (dispatch s e).state.selection := by
      rw [hs]
      exact ho.selection
    exact (dispatch_selectionMove s e).of_result_eq hl

/-! ## Runs -/

/-- A state some run of the shell reaches. -/
def Reachable [Lowercase] (s : AppState) : Prop :=
  ∃ (files : PreferencesRepository) (locale : ResolvedLocale) (events : List AppEvent),
    s = Mealy.run reduce (initialState files.load locale) events

theorem Reachable.init [Lowercase] (files : PreferencesRepository) (loc : ResolvedLocale) :
    Reachable (initialState files.load loc) := ⟨files, loc, [], rfl⟩

theorem Reachable.run [Lowercase] {s : AppState} (h : Reachable s) (evs : List AppEvent) :
    Reachable (Mealy.run reduce s evs) := by
  obtain ⟨files, loc, pre, rfl⟩ := h
  exact ⟨files, loc, pre ++ evs, (Mealy.run_append reduce _ pre evs).symm⟩

theorem Reachable.step [Lowercase] {s : AppState} (h : Reachable s) (e : AppEvent) :
    Reachable (reduce s e).1 := h.run [e]

/-- Every effect a run asks for, in emission order. -/
def emitted [Lowercase] (s : AppState) (events : List AppEvent) : List AppEffect :=
  (Mealy.outputs reduce s events).flatMap (·.effects)

theorem emitted_cons [Lowercase] (s : AppState) (e : AppEvent) (evs : List AppEvent) :
    emitted s (e :: evs) = (reduce s e).2.effects ++ emitted (reduce s e).1 evs := rfl

/-- What holds at startup and survives every event holds in every
reachable state. -/
theorem Reachable.invariant [Lowercase] {P : AppState → Prop}
    (hi : ∀ files loc, P (initialState (PreferencesRepository.load files) loc))
    (hs : ∀ s e, P s → P (reduce s e).1) (h : Reachable s) : P s := by
  obtain ⟨files, loc, evs, rfl⟩ := h
  exact Mealy.run_invariant hs (hi files loc) evs

theorem Reachable.checkBound [Lowercase] (h : Reachable s) :
    s.hardwareCheck.phase.isUnderWay = true → CheckBound s :=
  Reachable.invariant (P := fun s => s.hardwareCheck.phase.isUnderWay = true → CheckBound s)
    (fun files loc h => by simp [initialState, isUnderWay] at h)
    (fun s e _ => reduce_checkBound s e) h

theorem Reachable.dispatch_move [Lowercase] (h : Reachable s) (e : AppEvent) :
    ArmMove s e (dispatch s e) :=
  OpenAirCast.dispatch_move (fun hp => (h.checkBound hp).stream) e

/-! ## Data for concrete runs -/

namespace Sample

def kitchen : ReceiverState := ⟨⟨1⟩, "Kitchen", "AudioAccessory5,1", .available⟩

/-- A first start: no settings file. -/
def fresh : AppState := initialState (PreferencesRepository.load ⟨none, none⟩) .english

theorem reachable_run [Lowercase] (evs : List AppEvent) :
    Reachable (Mealy.run reduce fresh evs) := ⟨⟨none, none⟩, .english, evs, rfl⟩

end Sample

end OpenAirCast
