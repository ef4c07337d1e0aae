/-
App.SessionOrderTheorems — what a run asks of the backend, and
when it stops asking.

Two results over whole runs. The session generations a run emits are
1, 2, 3, … up to the session counter, in that order and without a gap
(`sessionGenerations_emitted`), so an echo settles the one request that
carries its stamp. And a shell that is quitting starts nothing more, with
one exception: Apply, while the backend's selection is still unknown, has
no quit guard. `appliesAfterQuit` names that step, and
`quit_final_iff_no_apply` says that it is the only one.
-/
import OpenAirCast.App.ReducerTheorems

namespace OpenAirCast

open List

variable {s : AppState} {o : Outcome}

/-! ## Allocation of session generations -/

/-- `gens` are the generations between two readings of the counter. -/
structure Allocates (before after : Nat) (gens : List Nat) : Prop where
  le : before ≤ after
  eq : gens = List.range' (before + 1) (after - before)

namespace Allocates

theorem none (n : Nat) : Allocates n n [] := ⟨Nat.le_refl n, by simp⟩

theorem one (n : Nat) : Allocates n (n + 1) [n + 1] := ⟨Nat.le_succ n, by simp⟩

theorem append {a b c : Nat} {xs ys : List Nat} (hx : Allocates a b xs)
    (hy : Allocates b c ys) : Allocates a c (xs ++ ys) := by
  refine ⟨hx.le.trans hy.le, ?_⟩
  have ha := hx.le
  have hc := hy.le
  have hb : b + 1 = a + 1 + (b - a) := by omega
  have hlen : c - a = (b - a) + (c - b) := by omega
  rw [hx.eq, hy.eq, hb, hlen, range'_append_1]

end Allocates

theorem ArmMove.allocates {e : AppEvent} (h : ArmMove s e o) :
    Allocates s.generations.session o.state.generations.session (sessionGenerations o.effects) := by
  have hs : ∀ {c : SessionCore}, o.state.core = c →
      o.state.generations.session = c.session := fun hc => congrArg SessionCore.session hc
  cases h with
  | quiet hr hf =>
    rw [hs hr, hf]
    exact .none _
  | started _ _ hr hf | stopped _ _ hr hf | redirected _ _ _ hr hf =>
    rw [hs hr, hf]
    exact .one _
  | answered _ _ _ _ _ hr hf =>
    rw [hs hr, hf]
    exact .none _
  | checkStarted _ _ _ _ hr hf =>
    obtain ⟨_, _, hf⟩ := hf
    rw [hs hr, hf]
    exact .one _
  | checkStopped _ _ _ _ hr hf =>
    rw [hs hr, hf]
    exact .one _

variable {event : HardwareCheckObservation}

theorem ObserveMove.allocates (h : ObserveMove s event o) :
    Allocates s.generations.session o.state.generations.session (sessionGenerations o.effects) := by
  cases h with
  | abandoned _ _ _ hs hf =>
    rw [hs, hf]
    exact .one _
  | complete _ _ _ _ _ hs hf =>
    -- the tone carries a generation but asks for no session
    rw [hs, hf]
    split <;> exact .none _
  | resting _ hs hf | watching _ _ _ _ hs hf | abandonedToStop _ _ hs hf
  | pending _ _ hs hf | released _ _ hs hf | kept _ _ _ hs hf
  | lost _ _ hs hf =>
    rw [hs, hf]
    exact .none _

theorem reduce_allocates [Lowercase] (hr : Reachable s) (e : AppEvent) :
    Allocates s.generations.session (reduce s e).1.generations.session
      (sessionGenerations (reduce s e).2.effects) := by
  cases reduce_move s e with
  | refused _ _ heq =>
    rw [heq]
    exact .none _
  | reacted _ _ ho _ hs hf =>
    rw [hs, hf, sessionGenerations_append]
    exact (hr.dispatch_move e).allocates.append ho.allocates

theorem emitted_allocates [Lowercase] : ∀ (evs : List AppEvent) {s : AppState},
    Reachable s → Allocates s.generations.session
      (Mealy.run reduce s evs).generations.session (sessionGenerations (emitted s evs))
  | [], s, _ => .none _
  | e :: evs, s, hr => by
      rw [emitted_cons, sessionGenerations_append]
      exact (reduce_allocates hr e).append (emitted_allocates evs (hr.step e))

theorem sessionGenerations_emitted [Lowercase] (files : PreferencesRepository)
    (loc : ResolvedLocale) (evs : List AppEvent) :
    sessionGenerations (emitted (initialState files.load loc) evs) = List.range' 1
        (Mealy.run reduce (initialState files.load loc) evs).generations.session := by
  have h := (emitted_allocates evs (.init files loc)).eq
  simpa [initialState] using h

/-- Session requests are totally ordered: the generations of a run's
session effects grow strictly, and the last of them is the counter. -/
theorem session_requests_totally_ordered [Lowercase] (files : PreferencesRepository)
    (locale : ResolvedLocale) (events : List AppEvent) :
    (sessionGenerations (emitted (initialState files.load locale) events)).Pairwise (· < ·) ∧
      (sessionGenerations (emitted (initialState files.load locale) events)).getLast?.getD 0
        = (Mealy.run reduce (initialState files.load locale) events).generations.session := by
  rw [sessionGenerations_emitted]
  refine ⟨pairwise_lt_range', ?_⟩
  cases (Mealy.run reduce (initialState files.load locale) events).generations.session with
  | zero => rfl
  | succ => simp [range'_concat, Nat.add_comm]

/-! ## After Quit -/

/-- The effects start nothing and do not begin the shutdown again. -/
def StartsNothing (effects : List AppEffect) : Prop :=
  effects.all (fun effect => !effect.startsWork) = true

theorem startsNothing_append {a b : List AppEffect} :
    StartsNothing (a ++ b) ↔ StartsNothing a ∧ StartsNothing b := by
  simp [StartsNothing, all_append]

theorem startsNothing_nil : StartsNothing [] := rfl

/-- An arm met by a quitting shell. -/
structure StaysQuit (o : Outcome) : Prop where
  shuttingDown : o.state.shuttingDown = true
  startsNothing : StartsNothing o.effects

theorem staysQuit_of_refused (hq : s.shuttingDown = true)
    (h : o = ⟨s, [], false⟩) : StaysQuit o := h ▸ ⟨hq, rfl⟩

/-- Apply, before the first reading of the backend's selection, on a
session some event has marked as running again, with a staged receiver
that is available. -/
def appliesAfterQuit (s : AppState) (e : AppEvent) : Prop :=
  e = .applyStagedReceivers ∧ s.desiredKnown = false ∧ s.stream.isRunning = true ∧
    ∃ r ∈ s.receivers, r.availability = .available ∧ r.id ∈ s.stagedReceivers

theorem groupRequested_quitting (hq : s.shuttingDown = true)
    (cmd : GroupCommand) : groupRequested s cmd = ⟨s, [], false⟩ := by
  simp [groupRequested, hq]

theorem startRequested_quitting (hq : s.shuttingDown = true) :
    startRequested s = ⟨s, [], false⟩ := by
  simp [startRequested, hq]

theorem hardwareCheckRequested_quitting (hq : s.shuttingDown = true)
    (action : HardwareCheckAction) : hardwareCheckRequested s action = ⟨s, [], false⟩ := by
  simp [hardwareCheckRequested, hq]

theorem mem_availableSelectedIds_adoptStaged {id : DeviceId} :
    id ∈ availableSelectedIds (adoptStaged s) ↔ id ∈ s.stagedReceivers ∧
        ∃ r ∈ s.receivers, r.availability = .available ∧ r.id = id := by
  rw [mem_availableSelectedIds]
  have hs : (adoptStaged s).desiredReceivers = s.stagedReceivers := rfl
  rw [hs]
  simp only [adoptStaged, pruneIrrelevantUnavailable, mem_filter]
  constructor
  · rintro ⟨hi, r, ⟨hr, -⟩, ha, hd⟩
    exact ⟨hi, r, hr, ha, hd⟩
  · rintro ⟨hi, r, hr, ha, hd⟩
    exact ⟨hi, r, ⟨hr, by simp [ha]⟩, ha, hd⟩

section

variable (hq : s.shuttingDown = true)
include hq

/-- Apply is the one arm without a quit guard. -/
theorem applyStaged_quitting : (applyStaged s).state.shuttingDown = true ∧
      (StartsNothing (applyStaged s).effects ↔ ¬ appliesAfterQuit s .applyStagedReceivers) := by
  unfold applyStaged
  split
  · rename_i hk
    rw [groupRequested_quitting hq]
    exact ⟨hq, by simp [startsNothing_nil, appliesAfterQuit, hk]⟩
  · rename_i hk
    have ht : (adoptStaged s).stream = s.stream := rfl
    unfold redirectSession
    rw [ht]
    split
    · rename_i hl
      exact ⟨hq, by simp_all [startsNothing_nil, appliesAfterQuit]⟩
    · rename_i hn
      have hp : appliesAfterQuit s .applyStagedReceivers ↔
          availableSelectedIds (adoptStaged s) ≠ [] := by
        constructor
        · rintro ⟨-, -, -, r, hr, ha, hs⟩
          exact List.ne_nil_of_mem (mem_availableSelectedIds_adoptStaged.mpr ⟨hs, r, hr, ha, rfl⟩)
        · intro hd
          obtain ⟨id, hi⟩ := List.exists_mem_of_ne_nil _ hd
          obtain ⟨hs, r, hr, ha, rfl⟩ := mem_availableSelectedIds_adoptStaged.mp hi
          exact ⟨rfl, by simpa using hk, by simpa using hn, r, hr, ha, hs⟩
      simp only
      split
      · rename_i he
        refine ⟨hq, iff_of_true rfl ?_⟩
        rintro ⟨-, -, -, r, -, -, hs⟩
        have hnn : s.stagedReceivers = ∅ := he
        simp [hnn] at hs
      · split
        · rename_i hd
          exact ⟨hq, iff_of_true startsNothing_nil (by simp [hp, List.isEmpty_iff.mp hd])⟩
        · rename_i hd
          refine ⟨hq, iff_of_false (by simp [StartsNothing, AppEffect.startsWork]) ?_⟩
          simpa [hp, List.isEmpty_iff] using hd

theorem dispatch_quitting [Lowercase] (e : AppEvent) : (dispatch s e).state.shuttingDown = true ∧
      (StartsNothing (dispatch s e).effects ↔ ¬ appliesAfterQuit s e) := by
  by_cases ha : e = .applyStagedReceivers
  · subst ha
    exact applyStaged_quitting hq
  · suffices ht : StaysQuit (dispatch s e) from
      ⟨ht.shuttingDown, iff_of_true ht.startsNothing fun h => ha h.1⟩
    have hw := dispatch_within s e
    cases hs : e.footprint.session with
    | false =>
      have hk := (AppEvent.unchecked hs).2
      exact ⟨(hw.state.shuttingDown hk).trans hq, hw.startless hs hk hq⟩
    | true =>
      cases e with
      | hardwareCheck action =>
        exact staysQuit_of_refused hq (hardwareCheckRequested_quitting hq action)
      | groupRequested cmd => exact staysQuit_of_refused hq (groupRequested_quitting hq cmd)
      | applyStagedReceivers => exact absurd rfl ha
      | startRequested => exact staysQuit_of_refused hq (startRequested_quitting hq)
      | stopRequested =>
        refine ⟨(hw.state.shuttingDown rfl).trans hq, ?_⟩
        simp only [dispatch, stopRequested]
        split <;> rfl
      | globalHotkeyPressed =>
        exact staysQuit_of_refused hq (by simp [dispatch, globalHotkeyPressed, hq])
      | quitRequested => exact staysQuit_of_refused hq (by simp [dispatch, quitRequested, hq])
      | controller event =>
        cases event with
        | sessionStarted generation active | sessionDegraded generation active
        | sessionRestarting generation | sessionStopped generation
        | sessionFailed =>
          refine ⟨(hw.state.shuttingDown rfl).trans hq, ?_⟩
          simp only [dispatch, sessionStarted, sessionDegraded, sessionRunning,
            sessionRestarting, sessionStopped, sessionFailed]
          split <;> rfl
        | _ => cases hs
      | _ => cases hs

/-- A check never survives the quit, so the observer's tone is out of the
question; its own stop is all it can ask for. -/
theorem ObserveMove.quitting (h : ObserveMove s event o) : StaysQuit o := by
  cases h with
  | complete _ _ hb =>
    have := ready_not_shuttingDown (isMatching_ready hb.matching)
    simp [hq] at this
  | watching _ _ hb =>
    have := ready_not_shuttingDown (isMatching_ready hb.matching)
    simp [hq] at this
  | resting _ hs hf | abandonedToStop _ _ hs hf | abandoned _ _ _ hs hf
  | pending _ _ hs hf | released _ _ hs hf | kept _ _ _ hs hf
  | lost _ _ hs hf => exact ⟨by rw [hs]; exact hq, by rw [hf]; rfl⟩

theorem reduce_quitting [Lowercase] (e : AppEvent) : (reduce s e).1.shuttingDown = true ∧
      (StartsNothing (reduce s e).2.effects ↔ ¬ appliesAfterQuit s e) := by
  cases reduce_move s e with
  | refused _ he heq =>
    rw [heq]
    refine ⟨hq, iff_of_true startsNothing_nil ?_⟩
    intro h
    simp [h.1, startsPlayback] at he
  | reacted _ _ ho _ ht hf =>
    obtain ⟨hd, hr⟩ := dispatch_quitting hq e
    have hs := ho.quitting hd
    rw [ht, hf, startsNothing_append]
    exact ⟨hs.shuttingDown, by simp [hs.startsNothing, hr]⟩

end

theorem emitted_quitting [Lowercase] : ∀ (evs : List AppEvent) {s : AppState},
    s.shuttingDown = true → ((Mealy.run reduce s evs).shuttingDown = true ∧
      (StartsNothing (emitted s evs) ↔
        Mealy.Along reduce (fun s e => ¬ appliesAfterQuit s e) s evs))
  | [], s, hq => ⟨hq, iff_of_true startsNothing_nil trivial⟩
  | e :: evs, s, hq => by
      obtain ⟨hd, hs⟩ := reduce_quitting hq e
      obtain ⟨hr, hrs⟩ := emitted_quitting evs hd
      refine ⟨hr, ?_⟩
      rw [emitted_cons, startsNothing_append, hs, hrs]
      rfl

/-- Quit is final, exactly in the runs without the unguarded Apply: no
session, group command, tone, browse or level change is started, the
shutdown is not begun again, and the shell never stops quitting. -/
theorem quit_final_iff_no_apply [Lowercase] (s : AppState) (hquit : s.shuttingDown = true)
    (events : List AppEvent) :
    ((∀ effect ∈ emitted s events, effect.startsWork = false) ∧
        ∀ before, before <+: events → (Mealy.run reduce s before).shuttingDown = true) ↔
      Mealy.Along reduce (fun s e => ¬ appliesAfterQuit s e) s events := by
  rw [← (emitted_quitting events hquit).2]
  constructor
  · rintro ⟨hf, -⟩
    simpa [StartsNothing] using hf
  · intro hf
    exact ⟨by simpa [StartsNothing] using hf, fun before _ => (emitted_quitting before hquit).1⟩

/-- A quit during a session whose late start echo still arrives. -/
def quitDuringStart : List AppEvent :=
  [.controller (.discoveryCompleted 0 [Sample.kitchen]), .toggleStagedReceiver ⟨1⟩,
    .applyStagedReceivers, .startRequested, .quitRequested,
    .controller (.sessionStarted 2 [⟨1⟩])]

theorem quit_final_stop_echo :
    letI := asciiLowercase
    let s := Mealy.run reduce Sample.fresh quitDuringStart
    s.shuttingDown = true ∧ (∀ eff ∈ emitted s [.stopRequested, .controller (.sessionStopped 3),
          .applyStagedReceivers], eff.startsWork = false) := by
  let _ := asciiLowercase
  refine ⟨by decide, ((quit_final_iff_no_apply _ (by decide) _).mpr ?_).1⟩
  refine ⟨by simp [appliesAfterQuit], by simp [appliesAfterQuit], ?_, trivial⟩
  rintro ⟨-, -, hr, -⟩
  exact absurd hr (by decide)

/-- After that quit, Apply asks for a new session. -/
theorem apply_after_quit_starts_session :
    letI := asciiLowercase
    ¬ ∀ s, Reachable s → s.shuttingDown = true → ∀ evs,
      (∀ eff ∈ emitted s evs, eff.startsWork = false) ∧
        ∀ pre, pre <+: evs → (Mealy.run reduce s pre).shuttingDown = true := by
  let _ := asciiLowercase
  intro h
  have hs : (emitted (Mealy.run reduce Sample.fresh quitDuringStart)
      [.applyStagedReceivers]).any AppEffect.startsWork = true := by decide
  obtain ⟨eff, hmem, hw⟩ := any_eq_true.mp hs
  have hn := (h _ (Sample.reachable_run quitDuringStart) (by decide) _).1 eff hmem
  simp [hn] at hw

end OpenAirCast
