/-
App.HardwareCheckTheorems — the listening check as a second
machine over the reducer.

The observer runs after every arm, so what it enforces holds after every
event: `CheckSettled` collects that. On it rest three results. A verdict
is what the user said about a session that was complete and unchanged
from Start to the acknowledged stop, and each check plays its tone once
(`hearing_verdict_trustworthy`). A check that waits for its stop waits
for the newest session generation, unless a second stop is requested
while the stream runs again under the first one
(`stopPending_releasable_iff`). A stale echo changes nothing, unless it
is the acknowledgement such a left-behind check waits for
(`stale_echo_inert_iff`).
-/
import OpenAirCast.App.SessionOrderTheorems

namespace OpenAirCast

open List HardwareCheckPhase HardwareCheckObservation Mealy Sample

variable {s : AppState} {e : AppEvent} {o : Outcome} {event : HardwareCheckObservation}
  {heard : Bool}

/-! ## What the observer leaves behind -/

/-- The observer has nothing to do before the next event. -/
structure CheckSettled (s : AppState) : Prop where
  underWay : s.hardwareCheck.phase.isUnderWay = true → CheckBound s
  connecting : s.hardwareCheck.phase = .connecting →
    ¬ (s.stream.isStreaming = true ∧ s.activeReceivers = s.desiredReceivers)
  stopPending : s.hardwareCheck.phase = .stopPending →
    s.hardwareCheck.isMatching s = false → s.hardwareCheck.outcome = none
  verdict : s.hardwareCheck.phase = .heard ∨ s.hardwareCheck.phase = .notHeard →
    s.hardwareCheck.isMatching s = true ∧ s.stream = .stopped

theorem CheckSettled.of_phase
    (h : s.hardwareCheck.phase = .preparation ∨ s.hardwareCheck.phase = .invalidated) :
    CheckSettled s := by
  rcases h with h | h <;> constructor <;> simp [h, isUnderWay]

theorem checkSettled_awaitStop (s : AppState) : CheckSettled (awaitStop s none) := by
  constructor <;> simp [awaitStop, isUnderWay]

theorem stopOutcome_eq_some (h : stopOutcome s event = some heard) :
    s.hardwareCheck.isMatching s = true ∧ s.hardwareCheck.outcome = some heard := by
  unfold stopOutcome at h
  split at h
  · simp at h
  · rename_i hk
    exact ⟨by simp_all, h⟩

theorem acknowledgesStop_iff : acknowledgesStop s (.fromEvent e) = true ↔
      ∃ g, e = .controller (.sessionStopped g) ∧ s.hardwareCheck.generation = some g ∧
        s.stream = .stopped := by
  unfold acknowledgesStop fromEvent
  cases ht : stoppedOf e with
  | none =>
    simp only [Option.isSome_none, Bool.false_and, Bool.false_eq_true, false_iff]
    rintro ⟨g, rfl, -⟩
    simp [stoppedOf] at ht
  | some g =>
    have hv : e = .controller (.sessionStopped g) := by
      unfold stoppedOf at ht
      split at ht <;> simp_all
    subst hv
    simp only [Option.isSome_some, Bool.true_and, Bool.and_eq_true, decide_eq_true_eq]
    constructor
    · rintro ⟨hg, hs⟩
      exact ⟨g, rfl, hg.symm, hs⟩
    · rintro ⟨_, he, hg, hs⟩
      simp only [AppEvent.controller.injEq, ControllerEvent.sessionStopped.injEq] at he
      exact ⟨he ▸ hg.symm, hs⟩

theorem verdictPhase_some (heard : Bool) :
    verdictPhase (some heard) = .heard ∨ verdictPhase (some heard) = .notHeard := by
  cases heard <;> simp [verdictPhase]

theorem ObserveMove.settled (h : ObserveMove s (.fromEvent e) o) : CheckSettled o.state := by
  cases h with
  | resting hh hs => exact hs ▸ .of_phase hh
  | watching hh _ hb hi hs =>
    subst hs
    refine ⟨fun _ => hb, fun _ => hi, fun hp => ?_, fun hp => ?_⟩
    · simp [hp, isUnderWay] at hh
    · rcases hp with hp | hp <;> simp [hp, isUnderWay] at hh
  | complete _ _ hb _ _ hs =>
    rw [hs]
    refine ⟨fun _ => ⟨hb.matching, hb.generation, hb.stream⟩, ?_, ?_, ?_⟩
    · simp
    · simp
    · simp
  | abandonedToStop _ _ hs => exact hs ▸ checkSettled_awaitStop _
  | abandoned _ _ _ hs => exact hs ▸ checkSettled_awaitStop _
  | pending hh _ hs =>
    rw [hs]
    refine ⟨?_, by simp [hh], fun _ hm => ?_, by simp [hh]⟩
    · simp [hh, isUnderWay]
    · have hr : s.hardwareCheck.isMatching s = false := hm
      simp [stopOutcome, hr]
  | released _ ha hs =>
    rw [hs]
    obtain ⟨_, _, _, hsp⟩ := acknowledgesStop_iff.mp ha
    cases ho : stopOutcome s (.fromEvent e) with
    | none => exact .of_phase (.inr rfl)
    | some heard =>
      have hm := (stopOutcome_eq_some ho).1
      refine ⟨?_, ?_, ?_, fun _ => ⟨hm, hsp⟩⟩ <;> cases heard <;> simp [verdictPhase, isUnderWay]
  | kept hh hm hsp hs =>
    subst hs
    refine ⟨?_, ?_, ?_, fun _ => ⟨hm, hsp⟩⟩ <;> rcases hh with hp | hp <;> simp [hp, isUnderWay]
  | lost _ _ hs => exact .of_phase (.inr (by rw [hs]))

theorem CheckSettled.withRevision (h : CheckSettled s) (rev : Nat) :
    CheckSettled (s.withRevision rev) :=
  ⟨fun hp => ⟨(h.underWay hp).matching, (h.underWay hp).generation, (h.underWay hp).stream⟩,
    h.connecting, h.stopPending, h.verdict⟩

theorem reduce_settled [Lowercase] (h : CheckSettled s) (e : AppEvent) :
    CheckSettled (reduce s e).1 := by
  cases reduce_move s e with
  | refused _ _ heq =>
    rw [heq]
    exact h
  | reacted _ _ ho rev hs => exact hs ▸ ho.settled.withRevision rev

theorem Reachable.settled [Lowercase] (h : Reachable s) : CheckSettled s :=
  Reachable.invariant (P := CheckSettled) (fun _ _ => .of_phase (.inl rfl))
    (fun _ e hs => reduce_settled hs e) h

/-! ## A check belongs to a known selection -/

/-- Under way or waiting for its stop. -/
def HardwareCheckPhase.isOpen (phase : HardwareCheckPhase) : Bool :=
  phase.isUnderWay || decide (phase = .stopPending)

/-- An arm opens a check only at Start, and only on a known selection. -/
theorem ArmMove.isOpen (h : ArmMove s e o) (hop : o.state.hardwareCheck.phase.isOpen = true) :
    s.hardwareCheck.phase.isOpen = true ∨ s.desiredKnown = true := by
  have hh : ∀ {c : SessionCore}, o.state.core = c →
      o.state.hardwareCheck.phase = c.phase := fun hc => congrArg SessionCore.phase hc
  cases h with
  | quiet hr | started _ _ hr | stopped _ _ hr | redirected _ _ _ hr
  | answered _ _ _ _ _ hr =>
    rw [hh hr] at hop
    exact .inl hop
  | checkStarted _ _ hk => exact .inr hk
  | checkStopped _ _ hp =>
    left
    rcases hp with hp | hp <;> simp [hp, HardwareCheckPhase.isOpen, HardwareCheckPhase.isUnderWay]

theorem ObserveMove.isOpen
    (h : ObserveMove s event o) (hop : o.state.hardwareCheck.phase.isOpen = true) :
    s.hardwareCheck.phase.isOpen = true := by
  cases h with
  | resting _ hs => exact hs ▸ hop
  | kept _ _ _ hs => exact hs ▸ hop
  | watching hp | complete hp | abandonedToStop hp | abandoned hp =>
    simp [HardwareCheckPhase.isOpen, hp]
  | pending hp | released hp => simp [HardwareCheckPhase.isOpen, hp]
  | lost _ _ hs => simp [hs, HardwareCheckPhase.isOpen, HardwareCheckPhase.isUnderWay] at hop

theorem Reachable.known_of_isOpen [Lowercase] (h : Reachable s) :
    s.hardwareCheck.phase.isOpen = true → s.desiredKnown = true := by
  obtain ⟨files, loc, evs, rfl⟩ := h
  induction evs using List.reverseRecOn with
  | nil => simp [Mealy.run, initialState, isOpen, isUnderWay]
  | append_singleton evs e ih =>
    rw [run_concat]
    intro hop
    have hr : Reachable (Mealy.run reduce (initialState files.load loc) evs) :=
      ⟨files, loc, evs, rfl⟩
    cases reduce_move (Mealy.run reduce (initialState files.load loc) evs) e with
    | refused _ _ heq =>
      rw [heq] at hop ⊢
      exact ih hop
    | reacted _ _ ho _ hs =>
      rw [hs] at hop ⊢
      have ha := (hr.dispatch_move e).isOpen (ho.isOpen hop)
      have hb := ha.elim ih id
      have hf := (dispatch_selectionMove _ e).desiredKnown hb
      exact (congrArg SelectionCore.known ho.selection).trans hf

/-! ## Waiting for the stop -/

/-- The check waits for the newest request, so the echo that stops the
stream also releases it; meanwhile nothing starts playback. -/
def StopPendingReleasable [Lowercase] (s : AppState) : Prop :=
  s.hardwareCheck.phase = .stopPending → s.hardwareCheck.generation = some s.generations.session ∧
    (reduce s (.controller (.sessionStopped s.generations.session))).1.stream = .stopped ∧
    (reduce s (.controller (.sessionStopped s.generations.session))).1.hardwareCheck.phase
      ≠ .stopPending ∧
    ∀ e, startsPlayback e = true → reduce s e = (s, ⟨[], false⟩)

/-- A stop requested while the check waits for one and the stream, moved
by an echo of the current generation, runs again. -/
def stopsPendingCheck (s : AppState) (e : AppEvent) : Prop :=
  s.hardwareCheck.phase = .stopPending ∧ s.stream.isRunning = true ∧
    (e = .stopRequested ∨ (e = .quitRequested ∧ s.shuttingDown = false))

/-- What the acknowledgement does to a check that waits for it. -/
theorem reduce_sessionStopped [Lowercase] (hh : s.hardwareCheck.phase = .stopPending)
    (hg : s.hardwareCheck.generation = some s.generations.session) :
    (reduce s (.controller (.sessionStopped s.generations.session))).1.stream = .stopped ∧
      (reduce s (.controller (.sessionStopped s.generations.session))).1.hardwareCheck.phase
        ≠ .stopPending := by
  have ha : (dispatch s (.controller (.sessionStopped s.generations.session))).state
      = { s with stream := .stopped, activeReceivers := ∅ } := by
    simp [dispatch, sessionStopped]
  cases reduce_move s (.controller (.sessionStopped s.generations.session)) with
  | refused _ he => simp [startsPlayback] at he
  | reacted _ _ ho _ ht =>
    rw [ha] at ho
    rw [ht]
    have hc : acknowledgesStop { s with stream := .stopped, activeReceivers := ∅ }
        (.fromEvent (.controller (.sessionStopped s.generations.session))) = true :=
      acknowledgesStop_iff.mpr ⟨_, rfl, hg, rfl⟩
    cases ho with
    | released _ _ hs =>
      rw [hs]
      refine ⟨rfl, ?_⟩
      cases stopOutcome { s with stream := .stopped, activeReceivers := ∅ }
          (.fromEvent (.controller (.sessionStopped s.generations.session))) with
      | none => simp [verdictPhase]
      | some heard => cases heard <;> simp [verdictPhase]
    | pending _ hn => simp [hc] at hn
    | resting hp | kept hp | lost hp => rcases hp with hp | hp <;> simp [hh] at hp
    | watching hp | complete hp | abandonedToStop hp | abandoned hp => simp [hh, isUnderWay] at hp

theorem stopPendingReleasable_iff [Lowercase] (s : AppState) :
    StopPendingReleasable s ↔ (s.hardwareCheck.phase = .stopPending →
      s.hardwareCheck.generation = some s.generations.session) := by
  refine ⟨fun h hp => (h hp).1, ?_⟩
  intro h hp
  obtain ⟨hs, hh⟩ := reduce_sessionStopped hp (h hp)
  exact ⟨h hp, hs, hh, fun e he => reduce_of_refused hp he⟩

theorem core_fields {c : SessionCore} (h : s.core = c) :
    s.hardwareCheck.phase = c.phase ∧ s.hardwareCheck.generation = c.checkGeneration ∧
      s.generations.session = c.session ∧ s.hardwareCheck.outcome = c.outcome ∧
      s.stream = c.stream := by
  subst h
  exact ⟨rfl, rfl, rfl, rfl, rfl⟩

theorem ArmMove.waits_for_newest (h : ArmMove s e o)
    (hk : s.hardwareCheck.phase = .stopPending → s.desiredKnown = true)
    (hop : ¬ (s.hardwareCheck.phase = .stopPending ∧ startsPlayback e = true))
    (hn : s.hardwareCheck.phase = .stopPending →
      s.hardwareCheck.generation = some s.generations.session)
    (hcn : ¬ stopsPendingCheck s e) (hh : o.state.hardwareCheck.phase = .stopPending) :
    o.state.hardwareCheck.generation = some o.state.generations.session := by
  cases h with
  | quiet hc =>
    obtain ⟨hp, hg, hs, -⟩ := core_fields hc
    rw [hg, hs]
    exact hn (hp.symm.trans hh)
  | started _ he hc => exact absurd ⟨(core_fields hc).1.symm.trans hh, he⟩ hop
  | stopped hr he hc =>
    have hb : s.hardwareCheck.phase = .stopPending := (core_fields hc).1.symm.trans hh
    rcases he with rfl | rfl | hq
    · exact absurd ⟨hb, hr, .inl rfl⟩ hcn
    · exact absurd ⟨hb, rfl⟩ hop
    · exact absurd ⟨hb, hr, .inr hq⟩ hcn
  | redirected _ hu _ hc => simp [hk ((core_fields hc).1.symm.trans hh)] at hu
  | answered _ _ _ _ _ hc =>
    obtain ⟨hp, hg, hs, -⟩ := core_fields hc
    rw [hg, hs]
    exact hn (hp.symm.trans hh)
  | checkStarted _ _ _ _ hc => simp [(core_fields hc).1] at hh
  | checkStopped _ _ _ _ hc =>
    obtain ⟨-, hg, hs, -⟩ := core_fields hc
    rw [hg, hs]

/-- The observer sets a check to wait for the newest request and does not
move the one it waits for. -/
theorem ObserveMove.waits_for_newest (h : ObserveMove s event o)
    (hg : s.hardwareCheck.phase = .stopPending →
      s.hardwareCheck.generation = some s.generations.session)
    (hh : o.state.hardwareCheck.phase = .stopPending) :
    o.state.hardwareCheck.generation = some o.state.generations.session := by
  cases h with
  | resting _ hs | watching _ _ _ _ hs | kept _ _ _ hs =>
    rw [hs] at hh ⊢
    exact hg hh
  | complete _ _ _ _ _ hs => simp [hs] at hh
  | abandonedToStop _ _ hs | abandoned _ _ _ hs =>
    rw [hs]
    rfl
  | pending hp _ hs | released hp _ hs =>
    rw [hs]
    exact hg hp
  | lost _ _ hs => simp [hs] at hh

/-- The step outside the condition: the counter moves and the check still
waits for the generation before it. -/
theorem reduce_stopsPendingCheck [Lowercase] (h : stopsPendingCheck s e) :
    (reduce s e).1.hardwareCheck.phase = .stopPending ∧
      (reduce s e).1.hardwareCheck.generation = s.hardwareCheck.generation ∧
      (reduce s e).1.generations.session = s.generations.session + 1 := by
  obtain ⟨hh, hr, he⟩ := h
  have ha : (dispatch s e).state.hardwareCheck = s.hardwareCheck ∧
      (dispatch s e).state.generations.session = s.generations.session + 1 ∧
      startsPlayback e = false ∧ stoppedOf e = none := by
    rcases he with rfl | ⟨rfl, hq⟩
    · simp [dispatch, stopRequested_of_running hr, startsPlayback, stoppedOf]
    · simp [dispatch, quitRequested, persistPreferences, hq, hr, nextGeneration,
        startsPlayback, stoppedOf]
  obtain ⟨hc, hse, hl, hsp⟩ := ha
  have harmPha : (dispatch s e).state.hardwareCheck.phase = .stopPending := by rw [hc, hh]
  cases reduce_move s e with
  | refused _ hf => simp [hl] at hf
  | reacted _ _ ho _ ht =>
    rw [ht]
    cases ho with
    | pending _ _ hs =>
      rw [hs]
      have hg : (dispatch s e).state.hardwareCheck.generation
          = s.hardwareCheck.generation := by rw [hc]
      exact ⟨harmPha, hg, hse⟩
    | released _ hk =>
      obtain ⟨_, rfl, -⟩ := acknowledgesStop_iff.mp hk
      simp [stoppedOf] at hsp
    | resting hp | kept hp | lost hp => rcases hp with hp | hp <;> simp [harmPha] at hp
    | watching hp | complete hp | abandonedToStop hp | abandoned hp =>
      simp [harmPha, isUnderWay] at hp

/-- One step keeps the check releasable exactly when it meets the
condition. -/
theorem reduce_releasable_iff [Lowercase] (hr : Reachable s)
    (h : StopPendingReleasable s) (e : AppEvent) :
    StopPendingReleasable (reduce s e).1 ↔ ¬ stopsPendingCheck s e := by
  rw [stopPendingReleasable_iff] at h ⊢
  constructor
  · intro hn hs
    obtain ⟨hh, hg, he⟩ := reduce_stopsPendingCheck hs
    have := hn hh
    rw [hg, he, h hs.1] at this
    simp at this
  · intro hc hh
    cases reduce_move s e with
    | refused _ _ heq =>
      rw [heq] at hh ⊢
      exact h hh
    | reacted hop _ ho _ ht =>
      rw [ht] at hh ⊢
      refine ho.waits_for_newest ?_ hh
      intro ha
      refine (hr.dispatch_move e).waits_for_newest ?_ hop h hc ha
      intro hp
      exact hr.known_of_isOpen (by simp [isOpen, hp])

/-- In every state of a run the check can be released by the stop it
waits for, exactly when the run holds no stop of a stream that runs again
under a waiting check. -/
theorem stopPending_releasable_iff_no_second_stop [Lowercase] (files : PreferencesRepository)
    (locale : ResolvedLocale) (events : List AppEvent) :
    (∀ before, before <+: events →
        StopPendingReleasable (run reduce (initialState files.load locale) before)) ↔
      Along reduce (fun s e => ¬ stopsPendingCheck s e)
        (initialState files.load locale) events := by
  refine forall_start_iff_along (I := Reachable) (fun s e hr => hr.step e)
    (fun s e hr h => reduce_releasable_iff hr h e) events (.init files locale) ?_
  rw [stopPendingReleasable_iff]
  simp [initialState]

namespace Sample

/-- Every prerequisite of a check on the kitchen receiver, confirmed. -/
def prerequisites : List AppEvent :=
  [.controller (.discoveryCompleted 0 [kitchen]), .controller (.desiredReceiversChanged 0 [⟨1⟩]),
    .controller (.receiverLevelsChanged .empty), .controller (.muteChanged false),
    .controller (.latencyChanged ⟨.normal, [⟨.normal, none⟩]⟩),
    .controller (.volumeApplied 0 loweredVolume),
    .controller (.audioSourceChanged
      { endpointsKnown := true, refreshFailed := false, endpoints := [⟨⟨1⟩, "Speakers"⟩]
        selection := .systemDefault, capturedKey := some ⟨1⟩
        capturedName := some "Speakers", state := .capturing }),
    .hardwareCheck (.prepare true)]

/-- A check run to its verdict, with the stop not yet acknowledged. -/
def awaitingStop : List AppEvent :=
  prerequisites ++ [.hardwareCheck .start, .controller (.sessionStarted 1 [⟨1⟩]),
    .hardwareCheck (.heard true)]

/-- The stream is reported running under the stop's generation, and the
user stops it again. -/
def stoppedTwice : List AppEvent :=
  awaitingStop ++ [.controller (.sessionStarted 2 [⟨1⟩]), .stopRequested]

/-- That second stop is acknowledged; the check still waits for the
first. -/
def leftBehind : List AppEvent := stoppedTwice ++ [.controller (.sessionStopped 3)]

end Sample

/-- The check is left waiting for generation 2 with the counter at 3. -/
theorem second_stop_leaves_check_behind :
    letI := asciiLowercase
    ¬ ∀ s, Reachable s → s.hardwareCheck.phase = .stopPending →
      s.hardwareCheck.generation = some s.generations.session := by
  let _ := asciiLowercase
  intro h
  have hg := h _ (reachable_run stoppedTwice) (by decide)
  exact absurd hg (by decide)

/-! ## Where a verdict and a tone come from -/

/-- A waiting check that holds a verdict held it before, or has just been
given it by the user's gesture. -/
theorem ArmMove.awaits_verdict (h : ArmMove s e o) (hh : o.state.hardwareCheck.phase = .stopPending)
    (ht : o.state.hardwareCheck.outcome = some heard) :
    (s.hardwareCheck.phase = .stopPending ∧ s.hardwareCheck.outcome = some heard ∧
        o.state.hardwareCheck.generation = s.hardwareCheck.generation) ∨
      (e = .hardwareCheck (.heard heard) ∧
        ∃ g, o.state.hardwareCheck.generation = some g ∧ .stopSession g ∈ o.effects) := by
  cases h with
  | quiet hc | started _ _ hc | stopped _ _ hc | redirected _ _ _ hc
  | answered _ _ _ _ _ hc =>
    obtain ⟨hp, hg, -, ho, -⟩ := core_fields hc
    exact .inl ⟨hp.symm.trans hh, ho.symm.trans ht, hg⟩
  | checkStarted _ _ _ _ hc => simp [(core_fields hc).1] at hh
  | checkStopped verdict hev _ _ hc hf =>
    obtain ⟨-, hg, -, ho, -⟩ := core_fields hc
    have hv : verdict = some heard := ho.symm.trans ht
    rcases hev with ⟨hn, -⟩ | ⟨given, hi, he⟩
    · simp [hn] at hv
    · obtain rfl : given = heard := by simpa [hi] using hv
      exact .inr ⟨he, _, hg, by simp [hf]⟩

theorem ArmMove.phase (h : ArmMove s e o) : o.state.hardwareCheck.phase = s.hardwareCheck.phase ∨
      o.state.hardwareCheck.phase = .connecting ∨ o.state.hardwareCheck.phase = .stopPending := by
  cases h with
  | quiet hc | started _ _ hc | stopped _ _ hc | redirected _ _ _ hc
  | answered _ _ _ _ _ hc => exact .inl (core_fields hc).1
  | checkStarted _ _ _ _ hc => exact .inr (.inl (core_fields hc).1)
  | checkStopped _ _ _ _ hc => exact .inr (.inr (core_fields hc).1)

theorem reduce_awaits_verdict [Lowercase] (hr : Reachable s)
    (hh : (reduce s e).1.hardwareCheck.phase = .stopPending)
    (ho : (reduce s e).1.hardwareCheck.outcome = some heard) :
    (s.hardwareCheck.phase = .stopPending ∧ s.hardwareCheck.outcome = some heard ∧
        (reduce s e).1.hardwareCheck.generation = s.hardwareCheck.generation) ∨
      (e = .hardwareCheck (.heard heard) ∧ ∃ g, (reduce s e).1.hardwareCheck.generation = some g ∧
          .stopSession g ∈ (reduce s e).2.effects) := by
  cases reduce_move s e with
  | refused _ _ heq =>
    rw [heq] at hh ho ⊢
    exact .inl ⟨hh, ho, rfl⟩
  | reacted _ _ hb _ ht hf =>
    rw [ht] at hh ho ⊢
    have ha := hr.dispatch_move e
    cases hb with
    | pending hp _ hs =>
      rw [hs] at ho ⊢
      rcases ha.awaits_verdict hp (stopOutcome_eq_some ho).2 with hk | ⟨he, g, hg, hmem⟩
      · exact .inl hk
      · exact .inr ⟨he, g, hg, by rw [hf]; exact mem_append_left _ hmem⟩
    | abandonedToStop _ _ hs | abandoned _ _ _ hs => simp [hs, awaitStop] at ho
    | resting hp hs | kept hp _ _ hs =>
      rw [hs] at hh
      rcases hp with hp | hp <;> simp [hp] at hh
    | watching hp _ _ _ hs =>
      rw [withRevision_hardwareCheck, hs] at hh
      simp [hh, isUnderWay] at hp
    | complete _ _ _ _ _ hs | lost _ _ hs => simp [hs] at hh
    | released _ _ hs =>
      rw [hs] at hh
      cases hso : stopOutcome (dispatch s e).state (.fromEvent e) with
      | none => simp [hso, verdictPhase] at hh
      | some b => cases b <;> simp [hso, verdictPhase] at hh

theorem verdictPhase_injective {a b : Bool} (h : verdictPhase (some a) = verdictPhase (some b)) :
    a = b := by
  cases a <;> cases b <;> simp [verdictPhase] at h ⊢

/-- A verdict was there before, or the awaited acknowledgement has just
arrived. -/
theorem reduce_enters_verdict [Lowercase] (hr : Reachable s)
    (hh : (reduce s e).1.hardwareCheck.phase = verdictPhase (some heard)) :
    s.hardwareCheck.phase = verdictPhase (some heard) ∨
      (s.hardwareCheck.phase = .stopPending ∧ s.hardwareCheck.outcome = some heard ∧
        ∃ g, e = .controller (.sessionStopped g) ∧ s.hardwareCheck.generation = some g) := by
  have hve := verdictPhase_some heard
  cases reduce_move s e with
  | refused _ _ heq =>
    rw [heq] at hh
    exact .inl hh
  | reacted _ _ hb _ ht =>
    rw [ht] at hh
    have ha := hr.dispatch_move e
    cases hb with
    | resting hp hs =>
      rw [hs] at hh
      rcases hp with hp | hp <;> rcases hve with hv | hv <;> simp [hp, hv] at hh
    | watching hp _ _ _ hs =>
      rw [withRevision_hardwareCheck, hs] at hh
      rcases hve with hv | hv <;> simp [hh.trans hv, isUnderWay] at hp
    | complete _ _ _ _ _ hs | lost _ _ hs => rcases hve with hv | hv <;> simp [hs, hv] at hh
    | abandonedToStop _ _ hs | abandoned _ _ _ hs =>
      rcases hve with hv | hv <;> simp [hs, awaitStop, hv] at hh
    | pending hp _ hs => rcases hve with hv | hv <;> simp [hs, hp, hv] at hh
    | kept hp _ _ hs =>
      rw [hs] at hh
      rcases ha.phase with h | h | h
      · exact .inl (h.symm.trans hh)
      · rcases hp with hp | hp <;> simp [hp] at h
      · rcases hp with hp | hp <;> simp [hp] at h
    | released hp hc hs =>
      obtain ⟨g, rfl, hg, -⟩ := acknowledgesStop_iff.mp hc
      right
      rw [hs] at hh
      have hu : (dispatch s (.controller (.sessionStopped g))).state.hardwareCheck.outcome
          = some heard := by
        cases ho : stopOutcome (dispatch s (.controller (.sessionStopped g))).state
            (.fromEvent (.controller (.sessionStopped g))) with
        | none => cases heard <;> simp [ho, verdictPhase] at hh
        | some b =>
          obtain rfl : b = heard := verdictPhase_injective (by simpa [ho] using hh)
          exact (stopOutcome_eq_some ho).2
      rcases ha.awaits_verdict hp hu with ⟨hp', ho', hg'⟩ | ⟨he, -⟩
      · exact ⟨hp', ho', g, rfl, hg'.symm.trans hg⟩
      · simp at he

/-- A bound check that connects was connecting under the same generation,
or has just been started. -/
theorem ArmMove.connecting (h : ArmMove s e o)
    (hs : CheckSettled s) (hh : o.state.hardwareCheck.phase = .connecting)
    (hd : CheckBound o.state) :
    (s.hardwareCheck.phase = .connecting ∧ o.state.generations.session = s.generations.session) ∨
      (e = .hardwareCheck .start ∧ o.state.stream.isStreaming = false ∧
        o.state.generations.session = s.generations.session + 1 ∧
        ∃ ids vol, .startSession o.state.generations.session ids vol ∈ o.effects) := by
  cases h with
  | quiet hc | started _ _ hc | stopped _ _ hc | redirected _ _ _ hc
  | answered _ _ _ _ _ hc =>
    obtain ⟨hp, hg, -, -, -⟩ := core_fields hc
    have hb : s.hardwareCheck.phase = .connecting := hp.symm.trans hh
    have hn := (hs.underWay (by simp [hb, isUnderWay])).generation
    have hg' : some o.state.generations.session = some s.generations.session :=
      hd.generation.symm.trans (hg.trans hn)
    exact .inl ⟨hb, Option.some.inj hg'⟩
  | checkStarted hv _ _ _ hc hf =>
    obtain ⟨-, -, he, -, ht⟩ := core_fields hc
    obtain ⟨ids, vol, hf⟩ := hf
    refine .inr ⟨hv, by simp [ht, StreamState.isStreaming], he, ids, vol, ?_⟩
    rw [hf, he]
    exact mem_singleton.mpr rfl
  | checkStopped _ _ _ _ hc => simp [(core_fields hc).1] at hh

theorem reduce_connecting [Lowercase] (hr : Reachable s)
    (hh : (reduce s e).1.hardwareCheck.phase = .connecting) :
    (s.hardwareCheck.phase = .connecting ∧
        (reduce s e).1.generations.session = s.generations.session) ∨
      (e = .hardwareCheck .start ∧ (reduce s e).1.generations.session = s.generations.session + 1 ∧
        ∃ ids vol, .startSession (reduce s e).1.generations.session ids vol
          ∈ (reduce s e).2.effects) := by
  cases reduce_move s e with
  | refused _ _ heq =>
    rw [heq] at hh ⊢
    exact .inl ⟨hh, rfl⟩
  | reacted _ _ hb _ ht hf =>
    rw [ht, hf]
    rw [ht, withRevision_hardwareCheck] at hh
    cases hb with
    | watching _ _ hd _ hs =>
      rw [hs] at hh ⊢
      rcases (hr.dispatch_move e).connecting hr.settled hh hd with hk | ⟨he, -, hse, ids, vol, hmem⟩
      · exact .inl hk
      · exact .inr ⟨he, hse, ids, vol, mem_append_left _ hmem⟩
    | resting hp hs | kept hp _ _ hs =>
      rw [hs] at hh
      rcases hp with hp | hp <;> simp [hp] at hh
    | complete _ _ _ _ _ hs | lost _ _ hs => simp [hs] at hh
    | abandonedToStop _ _ hs | abandoned _ _ _ hs => simp [hs, awaitStop] at hh
    | pending hp _ hs => simp [hs, hp] at hh
    | released _ _ hs =>
      rw [hs] at hh
      cases ho : stopOutcome (dispatch s e).state (.fromEvent e) with
      | none => simp [ho, verdictPhase] at hh
      | some b => cases b <;> simp [ho, verdictPhase] at hh

/-- An event asks for a tone at most once: the check was connecting, its
session is the current one, and it has just become complete. -/
theorem reduce_tones [Lowercase] (hr : Reachable s) (e : AppEvent) :
    toneGenerations (reduce s e).2.effects = [] ∨
      (toneGenerations (reduce s e).2.effects = [s.generations.session] ∧
        s.hardwareCheck.phase = .connecting ∧
        (reduce s e).1.hardwareCheck.phase = .listening ∧
        (reduce s e).1.generations.session = s.generations.session ∧
        (reduce s e).1.activeReceivers = (reduce s e).1.desiredReceivers) := by
  cases reduce_move s e with
  | refused _ _ heq =>
    rw [heq]
    exact .inl rfl
  | reacted _ _ ho _ ht hf =>
    rw [ht, hf, toneGenerations_append, (dispatch_within s e).toneless, nil_append]
    cases ho with
    | complete _ _ hb hsr ha hs hf' =>
      rw [hs, hf']
      by_cases hc : (dispatch s e).state.hardwareCheck.phase = .connecting
      · rw [if_pos hc]
        rcases (hr.dispatch_move e).connecting hr.settled hc hb with
          ⟨hbe, he⟩ | ⟨-, hi, -⟩
        · refine .inr ⟨?_, hbe, rfl, he, ha⟩
          rw [he]
          rfl
        · simp [hi] at hsr
      · rw [if_neg hc]
        exact .inl rfl
    | resting _ _ hf' | watching _ _ _ _ _ hf' | abandonedToStop _ _ _ hf'
    | abandoned _ _ _ _ hf' | pending _ _ _ hf' | released _ _ _ hf'
    | kept _ _ _ _ hf' | lost _ _ _ hf' =>
      rw [hf']
      exact .inl rfl

/-! ## A run's history of checks -/

/-- The turns of a run of the shell. -/
abbrev ShellTurn := Turn AppState AppEvent Transition

variable (turns : List ShellTurn)

/-- The tones the turns asked for. -/
def tonesOf : List GenerationId :=
  turns.flatMap (fun turn => toneGenerations turn.output.effects)

/-- The turn is the check's Start, and asked for session `generation`. -/
def StartedByCheck (turn : ShellTurn) (generation : GenerationId) : Prop :=
  turn.input = .hardwareCheck .start ∧
    ∃ ids volume, .startSession generation ids volume ∈ turn.output.effects

/-- The user gave the verdict, a stop under `generation` was issued for
it, and the check has waited for that stop since. -/
def VerdictGiven (heard : Bool) (generation : GenerationId) : Prop :=
  ∃ before gesture waiting, turns = before ++ gesture :: waiting ∧
    gesture.input = .hardwareCheck (.heard heard) ∧
    .stopSession generation ∈ gesture.output.effects ∧
    ∀ turn ∈ gesture :: waiting, turn.after.hardwareCheck.phase = .stopPending

/-- The check entered its verdict on the acknowledgement of the stop the
user's gesture issued, and has kept it since. -/
def VerdictEntered (heard : Bool) : Prop :=
  ∃ before echo since generation, turns = before ++ echo :: since ∧
    VerdictGiven before heard generation ∧
    echo.input = .controller (.sessionStopped generation) ∧
    ∀ turn ∈ echo :: since, turn.after.hardwareCheck.phase = verdictPhase (some heard)

/-- A tone follows the Start of the check whose session it names, and
sounds on every selected receiver. -/
def ToneJustified (before : List ShellTurn) (turn : ShellTurn) (generation : GenerationId) :
    Prop :=
  (∃ start ∈ before, StartedByCheck start generation) ∧
    turn.after.activeReceivers = turn.after.desiredReceivers

/-- What the turns so far say about the check in the state they led to. -/
structure CheckHistory [Lowercase] (turns : List ShellTurn) (s : AppState) : Prop where
  reachable : Reachable s
  given : ∀ heard, s.hardwareCheck.phase = .stopPending → s.hardwareCheck.outcome = some heard →
      ∃ g, s.hardwareCheck.generation = some g ∧ VerdictGiven turns heard g
  entered : ∀ heard, s.hardwareCheck.phase = verdictPhase (some heard) → VerdictEntered turns heard
  connecting : s.hardwareCheck.phase = .connecting →
    (∃ start ∈ turns, StartedByCheck start s.generations.session) ∧
      s.generations.session ∉ tonesOf turns
  bounded : ∀ g ∈ tonesOf turns, g ≤ s.generations.session
  once : (tonesOf turns).Nodup
  justified : ∀ before turn since g, turns = before ++ turn :: since →
    .playListeningTone g ∈ turn.output.effects → ToneJustified before turn g

variable {turns : List ShellTurn} {g : GenerationId} {turn : ShellTurn}

theorem VerdictGiven.concat (h : VerdictGiven turns heard g)
    (hr : turn.after.hardwareCheck.phase = .stopPending) :
    VerdictGiven (turns ++ [turn]) heard g := by
  obtain ⟨before, gesture, waiting, rfl, hi, hs, hw⟩ := h
  refine ⟨before, gesture, waiting ++ [turn], by simp, hi, hs, ?_⟩
  intro t ht
  rw [← cons_append, mem_append, mem_singleton] at ht
  rcases ht with ht | rfl
  · exact hw t ht
  · exact hr

theorem VerdictEntered.concat (h : VerdictEntered turns heard)
    (hr : turn.after.hardwareCheck.phase = verdictPhase (some heard)) :
    VerdictEntered (turns ++ [turn]) heard := by
  obtain ⟨before, echo, since, g, rfl, hg, he, hs⟩ := h
  refine ⟨before, echo, since ++ [turn], g, by simp, hg, he, ?_⟩
  intro t ht
  rw [← cons_append, mem_append, mem_singleton] at ht
  rcases ht with ht | rfl
  · exact hs t ht
  · exact hr

theorem mem_toneGenerations {effs : List AppEffect} :
    g ∈ toneGenerations effs ↔ .playListeningTone g ∈ effs := by
  simp only [toneGenerations, mem_filterMap]
  constructor
  · rintro ⟨eff, hmem, hg⟩
    cases eff <;> simp [AppEffect.toneGeneration] at hg
    exact hg ▸ hmem
  · exact fun h => ⟨_, h, rfl⟩

theorem CheckHistory.init [Lowercase] (files : PreferencesRepository)
    (loc : ResolvedLocale) : CheckHistory [] (initialState files.load loc) where
  reachable := .init files loc
  given := by simp [initialState]
  entered heard := by cases heard <;> simp [initialState, verdictPhase]
  connecting := by simp [initialState]
  bounded := by simp [tonesOf]
  once := by simp [tonesOf]
  justified := by simp

/-- One more turn keeps the history. -/
theorem CheckHistory.step [Lowercase] {turns : List ShellTurn} {s : AppState}
    (h : CheckHistory turns s) (e : AppEvent) :
    CheckHistory (turns ++ [Mealy.turn reduce s e]) (reduce s e).1 := by
  have hle := (reduce_allocates h.reachable e).le
  have hto : tonesOf (turns ++ [turn reduce s e])
      = tonesOf turns ++ toneGenerations (reduce s e).2.effects := by
    simp [tonesOf, turn]
  refine ⟨h.reachable.step e, fun heard hh hu => ?_, fun heard hh => ?_,
    fun hh => ?_, fun g hg => ?_, ?_, fun before turn since g hl hn => ?_⟩
  · rcases reduce_awaits_verdict h.reachable hh hu with
      ⟨hp, ho, he⟩ | ⟨rfl, g, he, hst⟩
    · obtain ⟨g, hg, hv⟩ := h.given heard hp ho
      exact ⟨g, he.trans hg, hv.concat hh⟩
    · refine ⟨g, he, turns, _, [], rfl, rfl, hst, ?_⟩
      intro t ht
      rw [mem_singleton.mp ht]
      exact hh
  · rcases reduce_enters_verdict h.reachable hh with hp | ⟨hp, ho, g, rfl, he⟩
    · exact (h.entered heard hp).concat hh
    · obtain ⟨g', hg', hv⟩ := h.given heard hp ho
      obtain rfl : g' = g := Option.some.inj (hg'.symm.trans he)
      refine ⟨turns, _, [], g', rfl, hv, rfl, ?_⟩
      intro t ht
      rw [mem_singleton.mp ht]
      exact hh
  · have hs : toneGenerations (reduce s e).2.effects = [] := by
      rcases reduce_tones h.reachable e with hs | ⟨-, -, hi, -⟩
      · exact hs
      · simp [hi] at hh
    rw [hto, hs, append_nil]
    rcases reduce_connecting h.reachable hh with ⟨hp, hse⟩ | ⟨rfl, hse, hsa⟩
    · obtain ⟨⟨start, hmem, hr⟩, hf⟩ := h.connecting hp
      rw [hse]
      exact ⟨⟨start, mem_append_left _ hmem, hr⟩, hf⟩
    · refine ⟨⟨_, mem_append_right _ (mem_singleton.mpr rfl), rfl, hsa⟩, fun hmem => ?_⟩
      have := h.bounded _ hmem
      rw [hse] at this
      exact absurd this (Nat.not_succ_le_self _)
  · rw [hto, mem_append] at hg
    rcases hg with hg | hg
    · exact (h.bounded g hg).trans hle
    · rcases reduce_tones h.reachable e with hs | ⟨hn, -⟩
      · simp [hs] at hg
      · rw [hn, mem_singleton] at hg
        exact hg ▸ hle
  · rw [hto]
    rcases reduce_tones h.reachable e with hs | ⟨hn, hp, -⟩
    · rw [hs, append_nil]
      exact h.once
    · rw [hn]
      exact nodup_append.mpr ⟨h.once, by simp, by
        rintro a ha b hb rfl
        rw [mem_singleton] at hb
        exact (h.connecting hp).2 (hb ▸ ha)⟩
  · rcases concat_eq_append_cons hl with ⟨rfl, rfl, -⟩ | ⟨rest, -, hrs⟩
    · have hmem : g ∈ toneGenerations (reduce s e).2.effects := mem_toneGenerations.mpr hn
      rcases reduce_tones h.reachable e with hs | ⟨hn, hp, -, -, hc⟩
      · simp [hs] at hmem
      · rw [hn, mem_singleton] at hmem
        subst hmem
        exact ⟨(h.connecting hp).1, hc⟩
    · exact h.justified before turn rest g hrs hn

theorem toneGenerations_emitted [Lowercase] : ∀ (evs : List AppEvent) (s : AppState),
    toneGenerations (emitted s evs) = tonesOf (trace reduce s evs)
  | [], _ => rfl
  | e :: evs, s => by
      rw [emitted_cons, toneGenerations_append, toneGenerations_emitted evs]
      rfl

/-- A hearing verdict is trustworthy. A check under way is bound to a
session that starts or streams, under the current generation, with
nothing moved since Start. A verdict stands on a stopped stream with
nothing moved, and was entered by the acknowledgement of the stop the
user's own gesture issued. A tone is played once for a session, only for
one the check started, and only on the whole selection. -/
theorem hearing_verdict_trustworthy [Lowercase] (files : PreferencesRepository)
    (locale : ResolvedLocale) (events : List AppEvent) :
    let start := initialState files.load locale
    let s := run reduce start events
    let turns := trace reduce start events
    (s.hardwareCheck.phase = .connecting ∨ s.hardwareCheck.phase = .listening →
      (∃ g, s.stream = .starting g ∨ s.stream = .streaming g) ∧
        s.hardwareCheck.generation = some s.generations.session ∧
        s.hardwareCheck.isMatching s = true) ∧
    (∀ heard, s.hardwareCheck.phase = verdictPhase (some heard) →
      s.stream = .stopped ∧ s.hardwareCheck.isMatching s = true ∧ VerdictEntered turns heard) ∧
    (toneGenerations (emitted start events)).Nodup ∧
    ∀ before turn since g, turns = before ++ turn :: since →
      .playListeningTone g ∈ turn.output.effects → ToneJustified before turn g := by
  intro start s turns
  have hh : CheckHistory turns s :=
    trace_induction (CheckHistory.init files locale) (fun _ _ e h => h.step e) events
  have he := hh.reachable.settled
  refine ⟨fun hph => ?_, fun heard hph => ?_, ?_, hh.justified⟩
  · have hb := he.underWay (by
      rcases hph with hp | hp <;> simp [hp, isUnderWay])
    refine ⟨?_, hb.generation, hb.matching⟩
    have hr := hb.stream
    cases hs : s.stream with
    | starting g => exact ⟨g, .inl rfl⟩
    | streaming g => exact ⟨g, .inr rfl⟩
    | _ => simp [hs, StreamState.isStartingOrStreaming] at hr
  · obtain ⟨hm, ht⟩ := he.verdict (hph ▸ verdictPhase_some heard)
    exact ⟨ht, hm, hh.entered heard hph⟩
  · rw [toneGenerations_emitted]
    exact hh.once

/-! ## Stale echoes -/

/-- The event answers a request that is not the newest of its kind, or a
group operation that is not pending. -/
def AppEvent.isStale (s : AppState) : AppEvent → Prop
  | .controller (.sessionStarted generation _) => generation ≠ s.generations.session
  | .controller (.sessionDegraded generation _) => generation ≠ s.generations.session
  | .controller (.sessionRestarting generation) => generation ≠ s.generations.session
  | .controller (.sessionStopped generation) => generation ≠ s.generations.session
  | .controller (.sessionFailed generation _) => generation ≠ s.generations.session
  | .controller (.discoveryCompleted generation _) => generation ≠ s.generations.discovery
  | .controller (.discoveryFailed generation _) => generation ≠ s.generations.discovery
  | .controller (.volumeApplied generation _) => generation ≠ 0 ∧ generation ≠ s.generations.volume
  | .controller (.groupOperationFinished request _) =>
    ∀ operation, s.groupOperation = some operation →
      ¬ (operation.request = request ∧ operation.status = .pending)
  | .preferences (.persisted generation) => generation ≠ s.generations.preferences
  | .preferences (.persistFailed generation) => generation ≠ s.generations.preferences
  | .preferences (.hotkeyReconfigured generation _ _) => generation ≠ s.generations.hotkey
  | _ => False

/-- The stale echo a left-behind check waits for: it stops nothing any
more, and the check still holds its generation. -/
def releasesLeftBehind (s : AppState) (e : AppEvent) : Prop :=
  s.hardwareCheck.phase = .stopPending ∧ s.stream = .stopped ∧
    ∃ g, e = .controller (.sessionStopped g) ∧ s.hardwareCheck.generation = some g

theorem dispatch_stale [Lowercase] (h : e.isStale s) : dispatch s e = ⟨s, [], false⟩ := by
  cases e with
  | controller event =>
    cases event with
    | sessionStarted gen act | sessionDegraded gen act =>
      simp only [AppEvent.isStale] at h
      simp [dispatch, sessionStarted, sessionDegraded, sessionRunning, h]
    | sessionRestarting gen | sessionStopped gen
    | sessionFailed =>
      simp only [AppEvent.isStale] at h
      simp [dispatch, sessionRestarting, sessionStopped, sessionFailed, h]
    | discoveryCompleted gen receivers | discoveryFailed gen summ =>
      simp only [AppEvent.isStale] at h
      simp [dispatch, mergeDiscovery, discoveryFailed, h]
    | volumeApplied =>
      simp only [AppEvent.isStale] at h
      simp [dispatch, volumeApplied, h]
    | groupOperationFinished req stat =>
      simp only [AppEvent.isStale] at h
      simp only [dispatch, groupOperationFinished]
      split
      · rename_i oper hop
        rw [if_neg (h oper hop)]
      · rfl
    | _ => exact h.elim
  | preferences event =>
    cases event with
    | persisted gen | persistFailed gen =>
      simp only [AppEvent.isStale] at h
      simp [dispatch, preferencesPersisted, preferencesPersistFailed, h]
    | hotkeyReconfigured =>
      simp only [AppEvent.isStale] at h
      simp [dispatch, hotkeyReconfigured, h]
    | _ => exact h.elim
  | _ => exact h.elim

/-- A stale event is no request, and no fault of the current session. -/
theorem observation_stale (h : e.isStale s) : (fromEvent e).configurationRequest = false ∧
      matchingFault s (.fromEvent e) = false ∧ startsPlayback e = false := by
  cases e with
  | controller event =>
    cases event <;> simp_all [AppEvent.isStale, fromEvent, isConfigurationRequest, faultOf,
      matchingFault, startsPlayback]
  | preferences =>
    simp [fromEvent, isConfigurationRequest, faultOf, matchingFault, startsPlayback]
  | _ => exact h.elim

/-- On a settled check an observation that requests nothing and reports
no fault is spent, unless it is the awaited acknowledgement. -/
theorem observeHardwareCheck_settled (hs : CheckSettled s)
    (hc : (fromEvent e).configurationRequest = false)
    (hl : matchingFault s (.fromEvent e) = false)
    (hk : ¬ (s.hardwareCheck.phase = .stopPending ∧ acknowledgesStop s (.fromEvent e) = true)) :
    (observeHardwareCheck s (.fromEvent e)).state = s ∧
      (observeHardwareCheck s (.fromEvent e)).effects = [] := by
  cases observeHardwareCheck_move s (.fromEvent e) with
  | resting _ ha hf | watching _ _ _ _ ha hf | kept _ _ _ ha hf => exact ⟨ha, hf⟩
  | complete hh _ _ hr hac ha hf =>
    have hi : s.hardwareCheck.phase = .listening := by
      cases hp : s.hardwareCheck.phase with
      | listening => rfl
      | connecting => exact absurd ⟨hr, hac⟩ (hs.connecting hp)
      | _ => simp [hp, isUnderWay] at hh
    rw [hf, if_neg (by simp [hi])]
    rw [ha, ← hi]
    exact ⟨rfl, rfl⟩
  | abandonedToStop hh hr =>
    have hn := (hs.underWay hh).stream
    cases ht : s.stream <;>
      simp [ht, StreamState.isStopping, StreamState.isStartingOrStreaming] at hn hr
  | abandoned hh hb =>
    rcases hb with hq | hu
    · simp [hc] at hq
    · exact absurd (hs.underWay hh) hu
  | pending hh _ ha hf =>
    have ho : stopOutcome s (.fromEvent e) = s.hardwareCheck.outcome := by
      cases hm : s.hardwareCheck.isMatching s with
      | true => simp [stopOutcome, hc, hl, hm]
      | false => simp [stopOutcome, hm, hs.stopPending hh hm]
    rw [ha, ho]
    exact ⟨rfl, hf⟩
  | released hh hy => exact absurd ⟨hh, hy⟩ hk
  | lost hh hb =>
    obtain ⟨hm, hsp⟩ := hs.verdict hh
    simp [hc, hl, hm, hsp] at hb

/-- In a reachable state a stale echo leaves the whole state as it is and
asks for nothing, unless it releases a check that was left behind. -/
theorem stale_echo_inert_iff [Lowercase] (s : AppState) (hr : Reachable s) (e : AppEvent)
    (hstale : e.isStale s) :
    (reduce s e).1 = s ∧ (reduce s e).2.effects = [] ↔ ¬ releasesLeftBehind s e := by
  obtain ⟨hc, hf, hl⟩ := observation_stale hstale
  have har := dispatch_stale hstale
  have hd : reduce s e = finish (observeHardwareCheck s (.fromEvent e)).state
      (observeHardwareCheck s (.fromEvent e)).effects
      ((observeHardwareCheck s (.fromEvent e)).changed
        || decide (HardwareCheckSnapshot.fromState s ≠ HardwareCheckSnapshot.fromState
          (observeHardwareCheck s (.fromEvent e)).state)) := by
    simp [reduce, har, hl]
  have hre : releasesLeftBehind s e ↔
      s.hardwareCheck.phase = .stopPending ∧ acknowledgesStop s (.fromEvent e) = true := by
    rw [acknowledgesStop_iff]
    constructor
    · rintro ⟨hp, hs, g, he, hg⟩
      exact ⟨hp, g, he, hg, hs⟩
    · rintro ⟨hp, g, he, hg, hs⟩
      exact ⟨hp, hs, g, he, hg⟩
  rw [hre]
  constructor
  · rintro ⟨hsm, -⟩ ⟨hh, ha⟩
    have hm : (reduce s e).1.hardwareCheck.phase = verdictPhase (stopOutcome s (.fromEvent e)) := by
      obtain ⟨rev, hv⟩ := finish_state (observeHardwareCheck s (.fromEvent e)).state
        (observeHardwareCheck s (.fromEvent e)).effects
        ((observeHardwareCheck s (.fromEvent e)).changed
          || decide (HardwareCheckSnapshot.fromState s ≠ HardwareCheckSnapshot.fromState
            (observeHardwareCheck s (.fromEvent e)).state))
      rw [hd, hv, withRevision_hardwareCheck]
      simp [observeHardwareCheck, hh, observeStopPending, ha]
    rw [hsm, hh] at hm
    cases ho : stopOutcome s (.fromEvent e) with
    | none => simp [ho, verdictPhase] at hm
    | some b => cases b <;> simp [ho, verdictPhase] at hm
  · intro ha
    obtain ⟨ht, hx⟩ := observeHardwareCheck_settled hr.settled hc hf ha
    have hch : (observeHardwareCheck s (.fromEvent e)).changed = false := by
      have : (observeHardwareCheck s (.fromEvent e)).changed = decide (s.hardwareCheck.visible
          ≠ (observeHardwareCheck s (.fromEvent e)).state.hardwareCheck.visible) := rfl
      rw [this, ht]
      simp
    rw [hd, ht, hx, hch]
    simp [finish]

/-- A late start echo of the check's own session, after its verdict. -/
theorem stale_start_echo_inert :
    letI := asciiLowercase
    let s := run reduce fresh awaitingStop
    (reduce s (.controller (.sessionStarted 1 [⟨1⟩]))).1 = s ∧
      (reduce s (.controller (.sessionStarted 1 [⟨1⟩]))).2.effects = [] := by
  let _ := asciiLowercase
  intro s
  have hr : Reachable s := reachable_run awaitingStop
  have hs : (1 : Nat) ≠ s.generations.session := by decide
  have ht : s.stream ≠ .stopped := by decide
  clear_value s
  exact (stale_echo_inert_iff s hr (.controller (.sessionStarted 1 [⟨1⟩])) hs).mpr
    fun hl => ht hl.2.1

/-- The echo of stop 2, stale once stop 3 is acknowledged, still gives a
left-behind check its verdict. -/
theorem stale_stop_echo_releases_check :
    letI := asciiLowercase
    ¬ ∀ s, Reachable s → ∀ e : AppEvent, e.isStale s →
      (reduce s e).1 = s ∧ (reduce s e).2.effects = [] := by
  let _ := asciiLowercase
  intro h
  have hr := reachable_run leftBehind
  have hs : (2 : Nat) ≠ (run reduce fresh leftBehind).generations.session := by decide
  have hm : (reduce (run reduce fresh leftBehind)
        (.controller (.sessionStopped 2))).1.hardwareCheck.phase
      ≠ (run reduce fresh leftBehind).hardwareCheck.phase := by decide
  generalize run reduce fresh leftBehind = s at hr hs hm
  have hi := (h s hr (.controller (.sessionStopped 2)) hs).1
  rw [hi] at hm
  exact hm rfl

end OpenAirCast
