/-
Bridge.ClosureTheorems — what the shell takes for the end of
the audio controller.

A `channelClosed` comes from the executor, for a send that found the
controller closed, and from the bridge, when its feed has ended. It comes
from the executor for a shortcut service that is gone as well
(`LosesShortcut`). In runs without that, only the controller closes the
controller, and no failure of another service touches what a closure takes
away (`SameControl`).
-/
import OpenAirCast.Bridge.FeedTheorems

namespace OpenAirCast

open List

section Shell

variable {s : AppState}

/-- What a closure takes away is as it was. -/
structure SameControl (s t : AppState) : Prop where
  closed : t.controllerClosed = s.controllerClosed
  volumePending : t.volumePending = s.volumePending
  masterVolume : t.masterVolume = s.masterVolume
  stream : t.stream = s.stream
  groupOperation : t.groupOperation = s.groupOperation

/-- A failed write leaves a notice, and the listening check alone. -/
theorem reduce_persistFailed [Lowercase] (hr : Reachable s) (gen : GenerationId) :
    SameControl s (reduce s (.preferences (.persistFailed gen))).1 := by
  have hn : ∃ notice, (dispatch s (.preferences (.persistFailed gen))).state
      = { s with notice } := by
    simp only [dispatch, preferencesPersistFailed]
    split
    · exact ⟨_, rfl⟩
    · split <;> exact ⟨_, rfl⟩
  obtain ⟨notice, hn⟩ := hn
  have hs : CheckSettled { s with notice } := by
    have h := hr.settled
    exact ⟨fun hp => ⟨(h.underWay hp).matching, (h.underWay hp).generation,
      (h.underWay hp).stream⟩, h.connecting, h.stopPending, h.verdict⟩
  have ho := (observeHardwareCheck_settled (e := .preferences (.persistFailed gen)) hs rfl
    (by simp [matchingFault, HardwareCheckObservation.fromEvent, HardwareCheckObservation.faultOf])
    (by simp [acknowledgesStop_iff])).1
  rw [reduce, if_neg (by simp [startsPlayback])]
  simp only [hn, ho]
  obtain ⟨_, hf⟩ := finish_state { s with notice } _ _
  rw [hf]
  exact ⟨rfl, rfl, rfl, rfl, rfl⟩

/-- Only a report of the closure closes an open controller. -/
theorem reduce_closes [Lowercase] {ev : AppEvent} (h : s.controllerClosed = false)
    (hc : (reduce s ev).1.controllerClosed = true) :
    ∃ summary, ev = .controller (.channelClosed summary) := by
  have hd : (dispatch s ev).state.controllerClosed = true := by
    cases reduce_move s ev with
    | refused _ _ he =>
      rw [he, h] at hc
      cases hc
    | reacted _ _ ho _ hs =>
      rw [hs] at hc
      exact (congrArg GroupCore.closed ho.groupKept.1).symm.trans hc
  have hg : ∀ cmd, (groupRequested s cmd).state.controllerClosed = s.controllerClosed := by
    intro cmd
    unfold groupRequested
    split
    · rfl
    · simp only
      split
      · rfl
      · split <;> rfl
  by_contra hn
  have hk : (dispatch s ev).state.controllerClosed = s.controllerClosed := by
    cases hp : ev.footprint.groups with
    | false => exact congrArg GroupCore.closed ((dispatch_within s ev).state.groups hp)
    | true =>
      cases ev with
      | hardwareCheck action => cases action <;> cases hp
      | groupRequested cmd => exact hg cmd
      | applyStagedReceivers =>
        simp only [dispatch, applyStaged]
        split
        · exact hg _
        · exact congrArg GroupCore.closed ((redirectSession_within _).state.groups rfl)
      | discardStagedReceivers =>
        simp only [dispatch, discardStaged]
        split <;> rfl
      | controller ev =>
        cases ev with
        | channelClosed summary => exact absurd ⟨summary, rfl⟩ hn
        | groupOperationFinished =>
          simp only [dispatch, groupOperationFinished]
          split
          · split <;> rfl
          · rfl
        | _ => cases hp
      | _ => cases hp
  rw [hk, h] at hd
  cases hd

end Shell

namespace Bridge.Feed

open OpenAirCast.Backend

variable {s s' : Feed}

/-- The executor finds the shortcut service gone, and has room to say so. -/
def LosesShortcut (s : Feed) : Move → Prop
  | .execute _ refused room => s.writes = [] ∧ refused = true ∧ room = true ∧
      ∃ generation value rest, s.effects = .reconfigureHotkey generation value :: rest
  | _ => False

/-- A send to the controller returns Closed. -/
def FindsClosed (s : Feed) : Move → Prop
  | .execute refusal _ _ => s.writes = [] ∧ ∃ effect rest, s.effects = effect :: rest ∧
      (s.reply refusal effect).map PortReply.result = some (.error .closed)
  | _ => False

/-- Effects that go to the settings or to the shortcut service. -/
def isSetting : AppEffect → Bool
  | .persistPreferences .. | .reconfigureHotkey .. => true
  | _ => false

/-- A service that fails leaves the shell as it is, and what is reported of
it leaves the controller alone whenever it arrives. -/
def FailsAlone [Lowercase] (s : Feed) (move : Move) : Prop :=
  ∀ refusal room effect rest, move = .execute refusal true room → s.writes = [] →
    s.effects = effect :: rest → isSetting effect = true →
      (s.step move).shell = s.shell ∧ ∃ fed, (s.step move).queue = s.queue ++ fed ∧
        ∀ event ∈ fed, ∀ t, Reachable t → SameControl t (reduce t event).1

theorem failsAlone [Lowercase] {move : Move} (h : ¬ s.LosesShortcut move) : s.FailsAlone move := by
  rintro refusal room effect rest rfl hw he hs
  have hp : (s.step (.execute refusal true room)).shell = s.shell ∧
      (s.step (.execute refusal true room)).queue
        = s.queue ++ if room then feedback effect (s.reply refusal effect) true else [] := by
    simp [step, execute, hw, he]
  refine ⟨hp.1, _, hp.2, fun ev hmem t ht => ?_⟩
  cases effect with
  | persistPreferences gen =>
    cases room with
    | false => cases hmem
    | true =>
      rw [List.mem_singleton.mp hmem]
      exact reduce_persistFailed ht gen
  | reconfigureHotkey =>
    cases room with
    | false => cases hmem
    | true => exact absurd ⟨hw, rfl, rfl, _, _, _, he⟩ h
  | _ => cases hs

def isClosure : AppEvent → Bool
  | .controller (.channelClosed _) => true
  | _ => false

/-- The executor feeds a closure back for two reasons. -/
theorem feedback_closes {effect : AppEffect} {reply : Option PortReply} {refused : Bool}
    {ev : AppEvent} (h : ev ∈ feedback effect reply refused) (hc : isClosure ev = true) :
    refused = true ∧ (∃ gen val, effect = .reconfigureHotkey gen val) ∨
      reply.map PortReply.result = some (.error .closed) := by
  have hr : ev ∈ Runtime.feedback effect reply refused → refused = true ∧
      ∃ gen val, effect = .reconfigureHotkey gen val := by
    intro hmem
    unfold Runtime.feedback at hmem
    split at hmem
    · split at hmem
      · cases hmem
      · rw [List.mem_singleton.mp hmem] at hc
        cases hc
    · split at hmem
      · rw [List.mem_singleton.mp hmem] at hc
        cases hc
      · cases hmem
    · split at hmem
      · exact ⟨‹_›, _, _, rfl⟩
      · cases hmem
    · cases hmem
  unfold feedback at h
  split at h
  · exact .inl (hr h)
  · rcases mem_append.mp h with h | h
    · exact .inl (hr h)
    · unfold channelLoss at h
      split at h
      · exact .inr ‹_›
      · cases h

/-- Nobody has said that the controller is closed, and nobody is about to. -/
structure Unclosed (s : Feed) : Prop where
  shell : s.shell.controllerClosed = false
  queue : ∀ event ∈ s.queue, isClosure event = false
  outbox : ∀ event ∈ s.outbox, isClosure (.controller event) = false

namespace Unclosed

theorem kept (h : s.Unclosed) (hs : s'.shell = s.shell) (hq : s'.queue = s.queue)
    (ho : s'.outbox = s.outbox) : s'.Unclosed :=
  ⟨hs ▸ h.shell, hq ▸ h.queue, ho ▸ h.outbox⟩

/-- The bridge adds events of its own. -/
theorem sent (h : s.Unclosed) {evs : List ControllerEvent} (hs : s'.shell = s.shell)
    (hq : s'.queue = s.queue) (ho : s'.outbox = s.outbox ++ evs)
    (he : ∀ ev ∈ evs, isClosure (.controller ev) = false) : s'.Unclosed := by
  refine ⟨hs ▸ h.shell, hq ▸ h.queue, ?_⟩
  rw [ho, forall_mem_append]
  exact ⟨h.outbox, he⟩

theorem append (h : s.Unclosed) {ev : ControllerEvent}
    (he : isClosure (.controller ev) = false) : (s.append ev).Unclosed := by
  unfold Feed.append Runtime.append
  split
  · exact h
  · split
    · exact h.sent rfl rfl rfl (by simpa using he)
    · exact h.kept rfl rfl rfl

/-- A move that neither loses a shortcut nor finds the closure keeps this. -/
theorem step [Lowercase] (h : s.Unclosed) {move : Move}
    (hm : ¬ s.LosesShortcut move ∧ ¬ s.FindsClosed move)
    (hr : (s.step move).closureReported = false) : (s.step move).Unclosed := by
  cases move with
  | raise ev =>
    simp only [Feed.step]
    split
    · refine ⟨h.shell, ?_, h.outbox⟩
      rw [forall_mem_append]
      refine ⟨h.queue, forall_mem_singleton.mpr ?_⟩
      cases ev <;> first | rfl | contradiction
    · exact h
  | turn =>
    simp only [Feed.step, turn]
    split
    · rename_i ev rest he hw hq
      have hn := h.queue
      rw [hq, forall_mem_cons] at hn
      have ht : s.toRuntime.turn.shell = (reduce s.shell ev).1 ∧
          s.toRuntime.turn.queue = rest ∧ s.toRuntime.turn.outbox = s.outbox := by
        simp [Runtime.turn, he, hw, hq]
      refine ⟨?_, fun other hmem => hn.2 other (ht.2.1 ▸ hmem), ht.2.2 ▸ h.outbox⟩
      rw [ht.1]
      by_contra hc
      obtain ⟨_, rfl⟩ := reduce_closes h.shell (by simpa using hc)
      cases hn.1
    · exact h
  | execute refusal refused room =>
    simp only [Feed.step, execute]
    split
    · rename_i effect rest hw he
      refine ⟨h.shell, ?_, h.outbox⟩
      rw [forall_mem_append]
      refine ⟨h.queue, fun ev hmem => ?_⟩
      by_contra hc
      split at hmem
      · rename_i ho
        rcases feedback_closes hmem (by simpa using hc) with ⟨hf, _, _, rfl⟩ | hf
        · exact hm.1 ⟨hw, hf, ho, _, _, _, he⟩
        · exact hm.2 ⟨hw, _, _, he, hf⟩
      · cases hmem
    · exact h
  | project =>
    simp only [Feed.step, Runtime.project]
    split
    · refine h.sent rfl rfl rfl (fun ev hmem => ?_)
      have hf := Runtime.project_finishless _ _ _ ev hmem
      cases ev <;> first | rfl | cases hf
    · exact h
  | group =>
    simp only [Feed.step, group]
    split
    · split
      · exact h
      · rename_i snap _ _
        refine h.sent rfl rfl rfl ?_
        have hl := groupEvents_look s.echo s.actor.channels snap s.stateClosed
        generalize s.echo.groupEvents s.actor.channels snap s.stateClosed = result at hl
        cases hl with
        | free | waits => simp
        | ends => simp [GenerationEcho.resolveGroup, isClosure]
    · exact h
  | volume =>
    simp only [Feed.step, volume]
    split
    · refine h.sent rfl rfl rfl ?_
      unfold GenerationEcho.volumeEvents
      split
      · simp
      · simp only
        split <;> simp [isClosure]
    · exact h
  | listen =>
    simp only [Feed.step, listen]
    split
    · rename_i snap hg
      split
      · exact h
      · rename_i hk
        obtain ⟨-, hv⟩ := Runtime.listeningEvents_result s.echo s.actor.channels snap s.stateClosed
        simp only [Feed.step, listen, hg, hk, Bool.false_eq_true, if_false,
          Bool.or_eq_false_iff] at hr
        refine h.sent rfl rfl (append_assoc ..) ?_
        intro ev hmem
        rcases mem_append.mp hmem with hmem | hmem
        · obtain ⟨_, -, rfl⟩ := hv ev hmem
          rfl
        · simp [closure, hr] at hmem
    · exact h
  | flush =>
    simp only [Feed.step, Runtime.flush]
    split
    · rename_i ev rest _ ho
      have hn := h.outbox
      rw [ho, forall_mem_cons] at hn
      refine ⟨h.shell, ?_, hn.2⟩
      rw [forall_mem_append]
      exact ⟨h.queue, forall_mem_singleton.mpr hn.1⟩
    · exact h
  | notice | diagnostics | liveDiagnostics => exact h.append rfl
  | write | look | target | answer | publish | close | hear | finish =>
    refine h.kept ?_ ?_ ?_ <;>
      simp only [Feed.step, Runtime.write, look, Runtime.look, Runtime.target, answer, publish,
        hear, finish] <;> repeat' (first | rfl | split)

end Unclosed

theorem reported_of_fed [Lowercase] (hs : Fed s s') (h : s.closureReported = true) :
    s'.closureReported = true := by
  cases hs with
  | listened => simp [h]
  | _ => exact h

/-- In a run in which no shortcut service is lost, the shell holds the
controller closed only once the bridge has reported that or a send returned
Closed, and a failure of the settings or the shortcut service leaves what a
closure takes away as it was. -/
theorem only_the_controller_closes [Lowercase] (files : PreferencesRepository)
    (locale : ResolvedLocale) (first : DeviceSnapshot) (moves : List Move)
    (hl : Mealy.Along (Mealy.silent step) (fun s move => ¬ s.LosesShortcut move)
      (start (initialState files.load locale) first) moves) :
    let s := run (start (initialState files.load locale) first) moves
    let turns :=
      Mealy.trace (Mealy.silent step) (start (initialState files.load locale) first) moves
    (s.shell.controllerClosed = true →
      s.closureReported = true ∨ ∃ t ∈ turns, t.before.FindsClosed t.input) ∧
    ∀ t ∈ turns, t.before.FailsAlone t.input := by
  intro s turns
  rw [Mealy.along_iff_forall_turn] at hl
  refine ⟨fun hc => ?_, fun t ht => failsAlone (hl t ht)⟩
  by_contra hn
  simp only [not_or, not_exists, not_and] at hn
  have ha : Mealy.Along (Mealy.silent step)
      (fun s move => ¬ s.LosesShortcut move ∧ ¬ s.FindsClosed move)
      (start (initialState files.load locale) first) moves := by
    rw [Mealy.along_iff_forall_turn]
    exact fun t ht => ⟨hl t ht, hn.2 t ht⟩
  have hs : ∀ (s : Feed) (move : Move), ¬ s.LosesShortcut move ∧ ¬ s.FindsClosed move →
      s.closureReported = true ∨ s.Unclosed → (Mealy.silent step s move).1.closureReported = true
          ∨ (Mealy.silent step s move).1.Unclosed := by
    intro s move hm hi
    rcases hi with hi | hi
    · exact .inl (reported_of_fed (s.step_fed move) hi)
    · cases hr : (s.step move).closureReported with
      | true => exact .inl hr
      | false => exact .inr (hi.step hm hr)
  rcases Mealy.along_invariant hs moves ha (.inr ⟨rfl, by simp [start, Runtime.start],
    by simp [start, Runtime.start]⟩) with hi | hi
  · exact hn.1 hi
  · exact absurd (hc.symm.trans hi.shell) (by simp)

/-- The settings file cannot be written. -/
theorem only_the_controller_closes_settings :
    letI := asciiLowercase
    let s := run (start (initialState (PreferencesRepository.load ⟨none, none⟩) .english) {})
      [.raise (.navigate .settings), .turn]
    s.FailsAlone (.execute none true true) ∧ s.effects.any isSetting = true := by
  let _ := asciiLowercase
  refine ⟨(only_the_controller_closes ⟨none, none⟩ .english {}
    [.raise (.navigate .settings), .turn, .execute none true true]
    ⟨id, id, ?_, trivial⟩).2 _ (.tail _ (.tail _ (.head _))), rfl⟩
  rintro ⟨-, -, -, _, _, _, he⟩
  cases he

/-- A shortcut service that is gone is taken for the controller. -/
theorem lost_shortcut_closes_controller :
    letI := asciiLowercase
    ¬ ∀ (files : PreferencesRepository) (locale : ResolvedLocale) (first : DeviceSnapshot)
      (moves : List Move),
      let s := run (start (initialState files.load locale) first) moves
      s.shell.controllerClosed = true → s.closureReported = true ∨
        ∃ t ∈ Mealy.trace (Mealy.silent step) (start (initialState files.load locale) first) moves,
          t.before.FindsClosed t.input := by
  let _ := asciiLowercase
  intro h
  rcases h ⟨none, none⟩ .english {} [.raise (.hotkeyChanged { enabled := false }), .turn,
    .execute none true true, .turn] rfl with h | ⟨t, ht, hf⟩
  · cases h
  · simp only [Mealy.trace, mem_cons, not_mem_nil, or_false] at ht
    rcases ht with rfl | rfl | rfl | rfl
    · exact hf
    · exact hf
    · obtain ⟨-, _, _, he, hr⟩ := hf
      cases he
      cases hr
    · exact hf

end Bridge.Feed

end OpenAirCast
