/-
App.ShortcutTheorems — whether the shortcut stops what the Stop
button stops.

Between the phases it recognises and the ones a start is allowed in, a press
reaches the start and is refused there (`globalHotkeyPressed_between`), and
the listening check has nothing to add (`reduce_between`). What is left is
the stop it did not ask for and the receiver it may have selected on its way.
-/
import OpenAirCast.App.HardwareCheckTheorems

namespace OpenAirCast

open StreamState

variable {s : AppState}

/-- While a session runs the shortcut is the Stop button; while one stops it
selects nothing and asks for nothing. -/
structure ShortcutStops [Lowercase] (s : AppState) : Prop where
  running : s.stream.isRunning = true → reduce s .globalHotkeyPressed = reduce s .stopRequested
  stopping : s.stream.isStopping = true → let pressed := reduce s .globalHotkeyPressed
    pressed.1.desiredReceivers = s.desiredReceivers ∧
      pressed.1.stagedReceivers = s.stagedReceivers ∧
      pressed.1.desiredRevision = s.desiredRevision ∧ pressed.2.effects = []

/-- No phase in which the shortcut fails to recognise a session, nor one in
which it picks a receiver for a start that is refused. -/
def ShortcutRecognises [Lowercase] (s : AppState) : Prop :=
  (s.stream.isRunning = true → s.stream.isStartingOrStreaming = true) ∧
    (s.stream.isStopping = true →
      s.desiredReceivers ≠ ∅ ∨ s.desiredKnown = true ∨ firstAvailableReceiver s = none)

/-- A stream that is neither on its way up or running in full, nor one a
start is allowed from. -/
def StreamState.isBetween (stream : StreamState) : Bool :=
  !stream.isStartingOrStreaming && !stream.isStoppedOrFailed

variable {stream : StreamState}

theorem StreamState.isBetween_iff : stream.isBetween = true ↔
    stream.isStartingOrStreaming = false ∧ stream.isStoppedOrFailed = false := by
  simp only [isBetween, Bool.and_eq_true, Bool.not_eq_true']

theorem StreamState.isBetween_of_stopping
    (h : stream.isStopping = true) : stream.isBetween = true := by
  cases stream <;> first | rfl | simp [isStopping] at h

/-- What a press makes of the selection before it asks for the start. -/
def hotkeySelects [Lowercase] (s : AppState) : AppState :=
  if s.desiredReceivers = ∅ ∧ s.desiredKnown = false then selectFirstAvailableReceiver s else s

theorem hotkeySelects_stream [Lowercase] (s : AppState) :
    (hotkeySelects s).stream = s.stream ∧ (hotkeySelects s).hardwareCheck = s.hardwareCheck := by
  unfold hotkeySelects selectFirstAvailableReceiver
  split
  · split <;> exact ⟨rfl, rfl⟩
  · exact ⟨rfl, rfl⟩

/-- A start that is refused leaves at most a notice. -/
theorem hotkeyStart_refused (h : s.stream.isStoppedOrFailed = false) :
    (∃ notice, (hotkeyStart s).state = { s with notice := notice }) ∧
      (hotkeyStart s).effects = [] := by
  unfold hotkeyStart
  split
  · exact ⟨⟨_, rfl⟩, rfl⟩
  · have hs : startRequested s = ⟨s, [], false⟩ := by simp [startRequested, h]
    rw [hs]
    exact ⟨⟨s.notice, rfl⟩, rfl⟩

theorem globalHotkeyPressed_between [Lowercase] (hq : s.shuttingDown = false)
    (hb : s.stream.isBetween = true) :
    globalHotkeyPressed s = hotkeyStart (hotkeySelects s) := by
  obtain ⟨hs, hp⟩ := isBetween_iff.mp hb
  unfold globalHotkeyPressed
  rw [if_neg (by simp [hq]), if_neg (by simp [hs])]
  by_cases hd : s.desiredReceivers = ∅
  · have he : (availableSelectedIds s).isEmpty = true := by
      simp only [availableSelectedIds, hd, Finset.notMem_empty, decide_false,
        Bool.and_false, List.filter_false]
      rfl
    cases hk : s.desiredKnown <;> simp [he, hd, hk, hp, hotkeySelects]
  · rw [if_neg (by simp [hd])]
    simp [hotkeySelects, hd]

/-- The listening check is settled and under way with no session, so the
press does what its arm does. -/
theorem reduce_between [Lowercase] (hr : Reachable s) (hq : s.shuttingDown = false)
    (hh : s.hardwareCheck.phase ≠ .stopPending) (hb : s.stream.isBetween = true) :
    let selected := hotkeySelects s
    let pressed := reduce s .globalHotkeyPressed
    pressed.1.desiredReceivers = selected.desiredReceivers ∧
      pressed.1.stagedReceivers = selected.stagedReceivers ∧
      pressed.1.desiredRevision = selected.desiredRevision ∧ pressed.2.effects = [] := by
  intro selected pressed
  obtain ⟨ht, hc⟩ := hotkeySelects_stream s
  obtain ⟨⟨_, hs⟩, he⟩ := hotkeyStart_refused (s := selected) (ht ▸ (isBetween_iff.mp hb).2)
  have hqt : s.hardwareCheck.phase = .preparation ∨ s.hardwareCheck.phase = .invalidated := by
    rw [isBetween_iff] at hb
    cases hp : s.hardwareCheck.phase with
    | preparation => exact .inl rfl
    | invalidated => exact .inr rfl
    | stopPending => exact absurd hp hh
    | connecting | listening =>
      have hn := (hr.settled.underWay (by simp [hp, HardwareCheckPhase.isUnderWay])).stream
      simp [hb.1] at hn
    | heard | notHeard =>
      have hsp := (hr.settled.verdict (by simp [hp])).2
      simp [hsp, StreamState.isStoppedOrFailed] at hb
  have ha : dispatch s .globalHotkeyPressed = hotkeyStart selected :=
    globalHotkeyPressed_between hq hb
  have ho : ∀ event, observeHardwareCheck (hotkeyStart selected).state event
      = ⟨(hotkeyStart selected).state, [], false⟩ := by
    intro event
    have hm : (hotkeyStart selected).state.hardwareCheck = s.hardwareCheck := by
      rw [hs]
      exact hc
    unfold observeHardwareCheck
    rcases hqt with hp | hp <;> simp [hm, hp]
  have hpr : pressed = finish (hotkeyStart selected).state []
      ((hotkeyStart selected).changed || decide (HardwareCheckSnapshot.fromState s
        ≠ HardwareCheckSnapshot.fromState (hotkeyStart selected).state)) := by
    simp only [pressed, reduce, hh, false_and, if_false, ha, ho, he, List.append_nil, Bool.or_false]
  rw [hpr, hs]
  unfold finish
  split <;> exact ⟨rfl, rfl, rfl, rfl⟩

theorem reduce_stopRequested_effects [Lowercase] (hr : s.stream.isRunning = true)
    (hp : s.hardwareCheck.phase ≠ .stopPending) :
    (reduce s .stopRequested).2.effects ≠ [] := by
  simp [reduce, hp, dispatch, stopRequested, hr, finish]

/-- In a reachable state the shortcut stops what the Stop button stops, and
leaves a stopping session alone, if and only if it recognises the phase. -/
theorem shortcut_stops_iff [Lowercase] (s : AppState) (hr : Reachable s)
    (hquit : s.shuttingDown = false) (hphase : s.hardwareCheck.phase ≠ .stopPending) :
    ShortcutStops s ↔ ShortcutRecognises s := by
  have hb := fun h => reduce_between hr hquit hphase h
  constructor
  · intro h
    constructor
    · intro hn
      by_contra hsr
      have hm : s.stream.isBetween = true := by
        cases hs : s.stream <;> simp_all [StreamState.isBetween, StreamState.isRunning,
          StreamState.isStartingOrStreaming, StreamState.isStoppedOrFailed]
      obtain ⟨-, -, -, he⟩ := hb hm
      rw [h.running hn] at he
      exact reduce_stopRequested_effects hn hphase he
    · intro ht
      obtain ⟨-, -, hv, -⟩ := hb (isBetween_of_stopping ht)
      have hk := (h.stopping ht).2.2.1
      by_contra hp
      simp only [not_or, not_not, Bool.not_eq_true] at hp
      obtain ⟨hd, hkn, hf⟩ := hp
      obtain ⟨_, hf⟩ := Option.ne_none_iff_exists'.mp hf
      rw [hk] at hv
      simp [hotkeySelects, hd, hkn, selectFirstAvailableReceiver, hf] at hv
  · rintro ⟨hc, hke⟩
    constructor
    · intro hn
      have ha : dispatch s .globalHotkeyPressed = dispatch s .stopRequested := by
        simp [dispatch, globalHotkeyPressed, hquit, hc hn]
      simp only [reduce, hphase, false_and, if_false, ha]
      rfl
    · intro ht
      have hl : hotkeySelects s = s := by
        rcases hke ht with h | h | h <;> simp [hotkeySelects, selectFirstAvailableReceiver, h]
      obtain ⟨hd, hg, hv, he⟩ := hb (isBetween_of_stopping ht)
      rw [hl] at hd hg hv
      exact ⟨hd, hg, hv, he⟩

namespace Sample

/-- The kitchen is selected, started, and reported degraded. -/
def degradedSession : List AppEvent :=
  [.controller (.discoveryCompleted 0 [kitchen]), .toggleStagedReceiver ⟨1⟩,
    .applyStagedReceivers, .startRequested, .controller (.sessionDegraded 1 [⟨1⟩])]

end Sample

/-- A degraded session is running, and the shortcut does not stop it. -/
theorem degraded_session_not_stopped :
    letI := asciiLowercase
    ¬ ∀ s, Reachable s → s.shuttingDown = false → s.hardwareCheck.phase ≠ .stopPending →
      ShortcutStops s := by
  let _ := asciiLowercase
  intro h
  have hs := (h _ (Sample.reachable_run Sample.degradedSession) (by decide)
    (by decide)).running (by decide)
  exact absurd (congrArg (fun r => r.2.effects.length) hs) (by decide)

/-- The same session before it degrades. -/
theorem healthy_session_stopped :
    letI := asciiLowercase
    ShortcutStops (Mealy.run reduce Sample.fresh (Sample.degradedSession.take 4)) := by
  let _ := asciiLowercase
  have hr := Sample.reachable_run (Sample.degradedSession.take 4)
  exact (shortcut_stops_iff _ hr (by decide) (by decide)).mpr
    ⟨fun _ => by decide, fun h => absurd h (by decide)⟩

end OpenAirCast
