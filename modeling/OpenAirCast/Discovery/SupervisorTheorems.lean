/-
Discovery.SupervisorTheorems — what a change of the network does to
discovery, and when the settle period is kept.

`step_effect` says once what a step can do: nothing that matters here, begin a
settle period, start a generation that is due, or start one because a second
change was read while the network settled. The last one breaks the promise of
the module documentation ("settles for exactly two seconds after network
changes"), and it is the only way to (`generations_settle`).
-/
import OpenAirCast.Discovery.Supervisor

namespace OpenAirCast.Discovery

open List DiscoveryState

open Backend (Instant U64_MAX saturatingSucc)
open Backend.Capture (SUPERVISOR_CAPACITY)

/-! ## The rows -/

/-- Every receiver that is known is shown as unavailable. -/
def DiscoveryState.AllUnavailable (state : DiscoveryState) : Prop :=
  ∀ id known, state.receivers id = some known → DiscoveryState.lifecycle known = .unavailable

variable (st : DiscoveryState)

theorem DiscoveryState.markAllUnknown_unavailable :
    st.markAllUnknown.AllUnavailable := by
  intro id known h
  obtain ⟨_, -, rfl⟩ := Option.map_eq_some_iff.mp h
  rfl

theorem DiscoveryState.clearInventory_unavailable :
    st.clearInventory.AllUnavailable := by
  intro id known h
  cases h

namespace DiscoverySupervisor

variable {s : DiscoverySupervisor}

variable {s' : DiscoverySupervisor} {turns : List Turn} {event : SupervisorEvent}

theorem renewed_unavailable (s : DiscoverySupervisor) : s.renewed.shared.AllUnavailable := by
  unfold renewed
  dsimp only
  split
  · exact markAllUnknown_unavailable _
  · exact clearInventory_unavailable _

/-! ## What a step can do -/

/-- From when on the task may start a generation of its own accord. -/
def earliest (s : DiscoverySupervisor) : Option Instant :=
  match s.waiting with
  | .settle deadline => some deadline
  | .stopped => none
  | .spawned | .browse | .stream | .backoff _ | .yielded => some s.now

/-- The handle shows the generation that runs. -/
structure Current (s : DiscoverySupervisor) : Prop where
  bounded : s.generation ≤ U64_MAX
  shown : s.shared.generation = s.generation

variable (s)

/-- The step takes an event of the browse. -/
def Takes (event : SupervisorEvent) : Prop :=
  s.waiting = .stream ∧ ∃ browsed, event = .item (.event browsed)

/-- The step does not read a network change during a settle period. -/
def Settles : SupervisorEvent → Prop
  | .control =>
    ∀ deadline, s.waiting = .settle deadline → s.controlReady = true →
      s.control ≠ some .restartAfterNetworkChange
  | _ => True

/-- Another generation can be counted. -/
def Unsaturated (_ : SupervisorEvent) : Prop := s.generation < U64_MAX

variable {s}

instance decidableUnsaturated (s : DiscoverySupervisor) (event : SupervisorEvent) :
    Decidable (Unsaturated s event) :=
  inferInstanceAs (Decidable (s.generation < U64_MAX))

/-- A step that reads no network change and starts nothing. -/
structure Kept (s : DiscoverySupervisor) (event : SupervisorEvent)
    (r : DiscoverySupervisor × Observed) : Prop where
  earliest : ∀ e', r.1.earliest = some e' → ∃ e, s.earliest = some e ∧ e ≤ e'
  generation : r.1.generation = s.generation
  shown : r.1.shared.generation = s.shared.generation
  receivers : Takes s event ∨ r.1.shared.receivers = s.shared.receivers
  read : r.2.read ≠ some .restartAfterNetworkChange
  started : r.2.started = none
  published : ∀ generation browsed, .receiver generation browsed ∈ r.2.published →
    generation = s.generation

/-- A step that starts a generation. -/
structure Started (s : DiscoverySupervisor) (r : DiscoverySupervisor × Observed) : Prop where
  earliest : ∀ e, r.1.earliest = some e → e = s.now
  generation : r.1.generation = saturatingSucc U64_MAX s.generation
  shown : s.Current → r.1.shared.generation = r.1.generation
  unavailable : r.1.shared.AllUnavailable
  started : r.2.started = some r.1.generation
  published : ∀ generation browsed, .receiver generation browsed ∉ r.2.published

/-- Everything a step can do. -/
inductive Effect (s : DiscoverySupervisor) (event : SupervisorEvent)
    (r : DiscoverySupervisor × Observed) : Prop where
  | kept (hk : Kept s event r)
  | changed (he : s.earliest = some s.now)
      (hs : r.1 = { s with controlSeen := true }.networkChanged)
      (ho : r.2 = { read := some .restartAfterNetworkChange })
  | due (hd : ∃ e, s.earliest = some e ∧ e ≤ s.now) (hr : r.2.read = none) (hs : Started s r)
  | again (ha : ¬ Settles s event) (hr : r.2.read = some .restartAfterNetworkChange)
      (hs : Started s r)

theorem pushUpdate_frame (s : DiscoverySupervisor) (upd : DiscoveryUpdate) :
    ∃ updates diagnostics, (s.pushUpdate upd).1 = { s with updates, diagnostics } := by
  unfold pushUpdate
  split
  · exact ⟨_, _, rfl⟩
  · split <;> exact ⟨_, _, rfl⟩

theorem renewed_shown (h : s.Current) :
    s.renewed.shared.generation = saturatingSucc U64_MAX s.generation := by
  have hle : s.shared.generation ≤ saturatingSucc U64_MAX s.generation := by
    rw [h.shown]
    exact Nat.le_min.mpr ⟨Nat.le_succ _, h.bounded⟩
  have ha : (s.shared.applyUpdate (.started (saturatingSucc U64_MAX s.generation))).1.generation =
      saturatingSucc U64_MAX s.generation := by
    unfold DiscoveryState.applyUpdate
    dsimp only
    rw [if_neg (Nat.not_lt.mpr hle)]
  unfold renewed
  dsimp only
  split <;> exact ha

theorem startGeneration_started (s : DiscoverySupervisor) : Started s s.startGeneration := by
  obtain ⟨_, _, hp⟩ := s.renewed.pushUpdate_frame (.started s.renewed.generation)
  unfold startGeneration
  dsimp only
  rcases hr : s.renewed.pushUpdate (.started s.renewed.generation) with ⟨_, flow⟩
  rw [hr] at hp
  dsimp only at hp
  subst hp
  cases flow with
  | sent | overloaded =>
    refine ⟨fun e h => (Option.some.inj h).symm, rfl, renewed_shown, renewed_unavailable s, rfl, ?_⟩
    intro gen browsed hmem
    simp at hmem
  | closed =>
    refine ⟨fun e h => (by cases h), rfl, renewed_shown, renewed_unavailable s, rfl, ?_⟩
    intro gen browsed hmem
    cases hmem

theorem startGeneration_read (s : DiscoverySupervisor) : s.startGeneration.2.read = none := by
  unfold startGeneration
  dsimp only
  split <;> rfl

/-! ## The steps that start nothing -/

theorem earliest_same (hw : s'.waiting = s.waiting) (hn : s.now ≤ s'.now) :
    ∀ e', s'.earliest = some e' → ∃ e, s.earliest = some e ∧ e ≤ e' := by
  intro e' h
  unfold earliest at h ⊢
  rw [hw] at h
  split at h
  · exact ⟨e', h, Nat.le_refl _⟩
  · cases h
  all_goals exact ⟨s.now, rfl, Option.some.inj h ▸ hn⟩

theorem kept_silent (hw : s'.waiting = s.waiting) (hn : s.now ≤ s'.now)
    (hg : s'.generation = s.generation) (hs : s'.shared = s.shared) :
    Effect s event (s', {}) :=
  .kept {
    earliest := earliest_same hw hn
    generation := hg
    shown := congrArg (·.generation) hs
    receivers := .inr (congrArg (·.receivers) hs)
    read := by simp
    started := rfl
    published := by simp }

theorem kept_self (s : DiscoverySupervisor) (event : SupervisorEvent) : Effect s event (s, {}) :=
  kept_silent rfl (Nat.le_refl _) rfl rfl

theorem scheduleFailure_kept (he : s.earliest = some s.now) (event : SupervisorEvent) :
    Kept s event s.scheduleFailure := by
  obtain ⟨_, _, hp⟩ := pushUpdate_frame { s with
    shared := s.shared.noteRetrying s.failures
      (s.now + s.policy.discoveryDelay s.generation s.failures) } (.failed s.generation)
  unfold scheduleFailure
  dsimp only
  rcases hr : pushUpdate { s with
    shared := s.shared.noteRetrying s.failures
      (s.now + s.policy.discoveryDelay s.generation s.failures) } (.failed s.generation)
    with ⟨_, flow⟩
  rw [hr] at hp
  dsimp only at hp
  subst hp
  cases flow with
  | sent | overloaded =>
    refine ⟨fun e h => ⟨s.now, he, (Option.some.inj h).le⟩, rfl, rfl, .inr rfl, ?_, rfl, ?_⟩
    · simp
    · simp
  | closed =>
    refine ⟨fun e h => (by cases h), rfl, rfl, .inr rfl, ?_, rfl, ?_⟩
    · simp
    · simp

theorem relay_kept {shared : DiscoveryState} (hr : s.waiting = .stream)
    (hs : shared.generation = s.shared.generation) (browsed : BrowseEvent) :
    Kept s (.item (.event browsed)) (relay { s with shared } browsed) := by
  have ht : Takes s (.item (.event browsed)) := ⟨hr, browsed, rfl⟩
  have he : s.earliest = some s.now := by
    unfold earliest
    rw [hr]
  obtain ⟨_, _, hp⟩ := pushUpdate_frame
    (emit { s with shared } browsed.payload) (.receiver s.generation browsed)
  unfold relay
  dsimp only
  rcases hpr : pushUpdate (emit { s with shared } browsed.payload)
    (.receiver s.generation browsed) with ⟨s', flow⟩
  have hm : (emit { s with shared } browsed.payload).generation = s.generation := rfl
  rw [hm, hpr]
  rw [hpr] at hp
  dsimp only at hp
  subst hp
  cases flow with
  | sent =>
    refine ⟨?_, rfl, hs, .inl ht, by simp, rfl, ?_⟩
    · exact earliest_same rfl (Nat.le_refl _)
    · intro gen browsed' hmem
      exact (DiscoveryUpdate.receiver.inj (mem_singleton.mp hmem)).1
  | overloaded =>
    refine ⟨fun e h => ⟨s.now, he, (Option.some.inj h).le⟩, rfl, hs, .inl ht, by simp, rfl, by simp⟩
  | closed => exact ⟨fun e h => (by cases h), rfl, hs, .inl ht, by simp, rfl, by simp⟩

theorem applyEvent_generation (gen : Nat) (event : BrowseEvent) :
    (st.applyEvent gen event).1.generation = st.generation := by
  unfold DiscoveryState.applyEvent
  split
  · rfl
  · split
    · rfl
    · rfl
    · split <;> rfl

theorem onItem_kept (hs : s.waiting = .stream) (item : BrowseItem) :
    Kept s (.item item) (s.onItem item) := by
  have he : s.earliest = some s.now := by
    unfold earliest
    rw [hs]
  cases item with
  | event browsed =>
    unfold onItem
    dsimp only
    split
    · exact ⟨earliest_same rfl (Nat.le_refl _), rfl, rfl, .inr rfl, by simp, rfl, by simp⟩
    · rename_i shared ha
      refine relay_kept hs ?_ browsed
      have hh : (s.shared.applyUpdate (.receiver s.generation browsed)).1 = shared := by rw [ha]
      rw [← hh]
      unfold DiscoveryState.applyUpdate
      dsimp only
      split
      · rfl
      · exact applyEvent_generation _ _ _
  | failed | ended => exact scheduleFailure_kept he _

/-! ## Every step -/

theorem onControl_changed (hw : s.waiting = .stream ∨ ∃ dline, s.waiting = .backoff dline)
    (hc : s.control = some .restartAfterNetworkChange) : Effect s .control s.onControl := by
  have he : s.earliest = some s.now := by
    unfold earliest
    rcases hw with h | ⟨dline, h⟩ <;> rw [h]
  have hd : s.onControl = ({ s with controlSeen := true }.networkChanged,
      { read := some .restartAfterNetworkChange }) := by
    unfold onControl
    dsimp only
    rw [hc]
    rcases hw with h | ⟨dline, h⟩ <;> rw [h]
  exact .changed he (congrArg (·.1) hd) (congrArg (·.2) hd)

variable {dline : Instant}

theorem onControl_settle (hw : s.waiting = .settle dline)
    (hc : s.control = some .restartAfterNetworkChange) :
    s.onControl = ((startGeneration { s with controlSeen := true }).1,
      { (startGeneration { s with controlSeen := true }).2 with read := s.control }) := by
  unfold onControl
  dsimp only
  split
  · simp_all
  · simp_all
  · rfl
  all_goals simp_all

theorem onControl_again (hw : s.waiting = .settle dline)
    (hr : s.controlReady = true) (hc : s.control = some .restartAfterNetworkChange) :
    Effect s .control s.onControl := by
  have hs := startGeneration_started { s with controlSeen := true }
  rw [onControl_settle hw hc]
  refine .again (fun h => h dline hw hr hc) hc ?_
  exact ⟨hs.earliest, hs.generation, fun h => hs.shown ⟨h.bounded, h.shown⟩,
    hs.unavailable, hs.started, hs.published⟩

theorem onControl_stop (hint : s.interruptible = true)
    (hc : s.control ≠ some .restartAfterNetworkChange) : Effect s .control s.onControl := by
  have hd : s.onControl = (stop { s with controlSeen := true }, { read := s.control }) := by
    unfold interruptible at hint
    unfold onControl
    dsimp only
    split
    · contradiction
    · contradiction
    · contradiction
    · rfl
    · rfl
    · rfl
    · split at hint <;> simp_all
  rw [hd]
  exact .kept ⟨fun e h => (by cases h), rfl, rfl, .inr rfl, hc, rfl, by simp⟩

/-- `Effect` covers every step. -/
theorem step_effect (s : DiscoverySupervisor) (event : SupervisorEvent) :
    Effect s event (s.step event) := by
  cases event with
  | tick => exact kept_silent rfl (Nat.le_add_right _ _) rfl rfl
  | request =>
    unfold step
    dsimp only
    split
    · exact kept_self s _
    · exact kept_silent rfl (Nat.le_refl _) rfl rfl
  | dropControl | receive | dropUpdates => exact kept_silent rfl (Nat.le_refl _) rfl rfl
  | resume =>
    unfold step
    dsimp only
    split
    · rename_i hw
      have hs := startGeneration_started { s with controlSeen := true }
      refine .due ⟨s.now, ?_, Nat.le_refl _⟩ (startGeneration_read _) ?_
      · unfold earliest
        rw [hw]
      · exact ⟨hs.earliest, hs.generation,
          fun h => hs.shown ⟨h.bounded, h.shown⟩, hs.unavailable, hs.started,
          hs.published⟩
    · rename_i hw
      refine .due ⟨s.now, ?_, Nat.le_refl _⟩ (startGeneration_read _) (startGeneration_started s)
      unfold earliest
      rw [hw]
    · exact kept_self s _
  | browsed ok =>
    unfold step
    dsimp only
    split
    · rename_i hw
      have he : s.earliest = some s.now := by
        unfold earliest
        rw [hw]
      split
      · refine .kept ⟨fun e h => ⟨s.now, he, (Option.some.inj h).le⟩, rfl, rfl, .inr rfl,
          by simp, rfl, by simp⟩
      · exact .kept (scheduleFailure_kept he _)
    · exact kept_self s _
  | item item =>
    unfold step
    dsimp only
    split
    · rename_i ht
      exact .kept (onItem_kept ht item)
    · exact kept_self s _
  | control =>
    unfold step
    dsimp only
    split
    · rename_i hr
      by_cases hc : s.control = some .restartAfterNetworkChange
      · have hint := hr.1
        unfold interruptible at hint
        split at hint
        · rename_i hw
          exact onControl_changed (.inl hw) hc
        · rename_i dline hw
          exact onControl_changed (.inr ⟨dline, hw⟩) hc
        · rename_i dline hw
          exact onControl_again hw hr.2 hc
        all_goals cases hint
      · exact onControl_stop hr.1 hc
    · exact kept_self s _
  | timer =>
    unfold step
    dsimp only
    split
    · rename_i dline hw
      split
      · refine .due ⟨s.now, ?_, Nat.le_refl _⟩ (startGeneration_read _) (startGeneration_started s)
        unfold earliest
        rw [hw]
      · exact kept_self s _
    · rename_i dline hw
      split
      · rename_i hd
        refine .due ⟨dline, ?_, hd⟩ (startGeneration_read _) (startGeneration_started s)
        unfold earliest
        rw [hw]
      · exact kept_self s _
    · exact kept_self s _

/-- A change that is read during a settle period starts the next generation in
the same step. -/
theorem not_settles (h : ¬ Settles s event) :
    (s.step event).2.read = some .restartAfterNetworkChange ∧
      ∃ gen, (s.step event).2.started = some gen := by
  cases event with
  | control =>
    obtain ⟨dline, hw, hr, hc⟩ : ∃ dline, s.waiting = .settle dline ∧
        s.controlReady = true ∧ s.control = some .restartAfterNetworkChange := by
      unfold Settles at h
      push Not at h
      exact h
    have hint : s.interruptible = true := by
      unfold interruptible
      rw [hw]
    have hd : s.step .control = s.onControl := if_pos ⟨hint, hr⟩
    rw [hd, onControl_settle hw hc]
    exact ⟨hc, _, (startGeneration_started _).started⟩
  | _ => exact absurd trivial h

/-! ## Runs -/

abbrev machine : DiscoverySupervisor → SupervisorEvent → DiscoverySupervisor × Observed := step

abbrev Turn : Type := Mealy.Turn DiscoverySupervisor SupervisorEvent Observed

def ReadsChange (t : Turn) : Prop := t.output.read = some .restartAfterNetworkChange

/-- A generation that the turn starts comes two seconds after the changes that
were read, or later. -/
def Waits (turns : List Turn) (t : Turn) : Prop :=
  ∀ generation, t.output.started = some generation →
    ∀ u ∈ turns, ReadsChange u → u.before.now + NETWORK_SETTLE ≤ t.before.now

/-- Nothing starts by itself sooner than two seconds after a change. -/
def Waited (turns : List Turn) (s : DiscoverySupervisor) : Prop :=
  ∀ u ∈ turns, ReadsChange u → ∀ e, s.earliest = some e → u.before.now + NETWORK_SETTLE ≤ e

/-- A step that settles starts nothing too soon. -/
theorem Waited.step {turns : List Turn} (h : Waited turns s) {event : SupervisorEvent}
    (ht : Settles s event) :
    Waited (turns ++ [Mealy.turn machine s event]) (machine s event).1 := by
  intro u hu hreads e he
  rcases mem_append.mp hu with hu | hu
  · cases step_effect s event with
    | kept hk =>
      obtain ⟨e', he', hle⟩ := hk.earliest e he
      exact (h u hu hreads e' he').trans hle
    | changed hl hs =>
      have hn := h u hu hreads s.now hl
      have he' : e = s.now + NETWORK_SETTLE := by
        rw [show (machine s event).1 = _ from hs] at he
        exact (Option.some.inj he).symm
      rw [he']
      exact hn.trans (Nat.le_add_right _ _)
    | due hd _ hr =>
      obtain ⟨e', he', hle⟩ := hd
      rw [hr.earliest e he]
      exact (h u hu hreads e' he').trans hle
    | again ha => exact absurd ht ha
  · obtain rfl := mem_singleton.mp hu
    cases step_effect s event with
    | kept hk => exact absurd hreads hk.read
    | changed _ hs =>
      rw [show (machine s event).1 = _ from hs] at he
      exact (Option.some.inj he).le
    | due _ hrd =>
      rw [show ReadsChange _ = ((s.step event).2.read = _) from rfl, hrd] at hreads
      cases hreads
    | again ha => exact absurd ht ha

theorem Waited.waits (h : Waited turns s) (hs : Settles s event) :
    Waits (turns ++ [Mealy.turn machine s event]) (Mealy.turn machine s event) := by
  intro gen hg u hu hreads
  have hg' : (s.step event).2.started = some gen := hg
  cases step_effect s event with
  | kept hk =>
    rw [hk.started] at hg'
    cases hg'
  | changed _ _ ho =>
    rw [ho] at hg'
    cases hg'
  | due hd hr =>
    rcases mem_append.mp hu with hu | hu
    · obtain ⟨e, he, hle⟩ := hd
      exact (h u hu hreads e he).trans hle
    · obtain rfl := mem_singleton.mp hu
      rw [show ReadsChange _ = ((s.step event).2.read = _) from rfl, hr] at hreads
      cases hreads
  | again ha => exact absurd hs ha

/-- The settle period is kept exactly when no change is read during one. -/
theorem waits_iff (policy : Backend.RetryPolicy) (now : Instant) (evs : List SupervisorEvent) :
    (∀ pre event, pre ++ [event] <+: evs →
        Waits (Mealy.trace machine (start policy now) (pre ++ [event]))
          (Mealy.turn machine (Mealy.run machine (start policy now) pre) event)) ↔
      Mealy.Along machine Settles (start policy now) evs := by
  rw [Mealy.along_iff_forall_start]
  constructor
  · intro h pre event hp
    by_contra hs
    obtain ⟨hr, gen, ht⟩ := not_settles hs
    have hl := h pre event hp gen ht
      (Mealy.turn machine (Mealy.run machine (start policy now) pre) event)
      (by simp [Mealy.trace_concat]) hr
    have hpos : 0 < NETWORK_SETTLE := by decide
    exact absurd hl (Nat.not_le.mpr (Nat.lt_add_of_pos_right hpos))
  · intro h pre event hp
    have hw : Waited (Mealy.trace machine (start policy now) pre)
        (Mealy.run machine (start policy now) pre) := by
      refine @Mealy.trace_induction_along _ _ _ machine Waited (fun _ => Settles) _ ?_ ?_ pre ?_
      · intro u hu
        cases hu
      · exact fun _ _ _ hs hw => hw.step hs
      · intro earlier i he
        exact h earlier i (he.trans ((prefix_append _ _).trans hp))
    rw [Mealy.trace_concat]
    exact hw.waits (h pre event hp)

/-- The generations the turns started, in order. -/
def startedGenerations (turns : List Turn) : List Nat := turns.filterMap (·.output.started)

/-- They increase, up to the one that runs. -/
structure Increasing (turns : List Turn) (s : DiscoverySupervisor) : Prop where
  strictly : (startedGenerations turns).Pairwise (· < ·)
  bounded : ∀ generation ∈ startedGenerations turns, generation ≤ s.generation

theorem Increasing.concat_none (h : Increasing turns s) {t : Turn} (ht : t.output.started = none)
    (hg : s'.generation = s.generation) : Increasing (turns ++ [t]) s' := by
  have hs : startedGenerations (turns ++ [t]) = startedGenerations turns := by
    simp [startedGenerations, ht]
  refine ⟨hs ▸ h.strictly, ?_⟩
  rw [hs, hg]
  exact h.bounded

theorem Increasing.concat_next (h : Increasing turns s)
    (hb : s.generation < U64_MAX) {r : DiscoverySupervisor × Observed} (hs : Started s r)
    {t : Turn} (ht : t.output = r.2) : Increasing (turns ++ [t]) r.1 := by
  have hn : r.1.generation = s.generation + 1 := hs.generation.trans (Nat.min_eq_left hb)
  have ho : startedGenerations (turns ++ [t]) = startedGenerations turns ++ [s.generation + 1] := by
    simp [startedGenerations, ht, hs.started, hn]
  constructor
  · rw [ho, pairwise_append]
    refine ⟨h.strictly, pairwise_singleton _ _, ?_⟩
    intro gen hmem later hl
    rw [mem_singleton.mp hl]
    exact Nat.lt_succ_of_le (h.bounded gen hmem)
  · rw [ho, hn]
    intro gen hmem
    rcases mem_append.mp hmem with hmem | hmem
    · exact (h.bounded gen hmem).trans (Nat.le_succ _)
    · exact (mem_singleton.mp hmem).le

/-- While it can count, a step starts only greater generations. -/
theorem Increasing.step {turns : List Turn} (h : Increasing turns s) {event : SupervisorEvent}
    (hb : Unsaturated s event) :
    Increasing (turns ++ [Mealy.turn machine s event]) (machine s event).1 := by
  cases step_effect s event with
  | kept hk => exact h.concat_none hk.started hk.generation
  | changed _ ht ho =>
    refine h.concat_none (congrArg (·.started) ho) ?_
    rw [show (machine s event).1 = _ from ht]
    rfl
  | due _ _ hs => exact h.concat_next hb hs rfl
  | again _ _ hs => exact h.concat_next hb hs rfl

/-- Every step keeps the handle current. -/
theorem Current.step (s : DiscoverySupervisor) (event : SupervisorEvent) (h : s.Current) :
    (machine s event).1.Current := by
  cases step_effect s event with
  | kept hk => exact ⟨hk.generation ▸ h.bounded, by rw [hk.shown, h.shown, hk.generation]⟩
  | changed _ ht =>
    rw [ht]
    exact ⟨h.bounded, h.shown⟩
  | due hd hr hs | again ha hr hs => exact ⟨hs.generation ▸ Nat.min_le_right _ _, hs.shown h⟩

/-- What is published of receivers bears the generation that is current. -/
def PublishesCurrent (t : Turn) : Prop :=
  ∀ generation browsed, .receiver generation browsed ∈ t.output.published →
    generation = t.before.generation ∧ t.after.shared.generation = generation

theorem turn_publishesCurrent (s : DiscoverySupervisor) (event : SupervisorEvent)
    (h : s.Current) : PublishesCurrent (Mealy.turn machine s event) := by
  intro gen browsed hmem
  have hmem' : DiscoveryUpdate.receiver gen browsed ∈ (s.step event).2.published := hmem
  cases step_effect s event with
  | kept hk =>
    have hg := hk.published gen browsed hmem'
    exact ⟨hg, by rw [hg, ← h.shown]; exact hk.shown⟩
  | changed _ _ ho =>
    rw [ho] at hmem'
    cases hmem'
  | due hd hr hs | again ha hr hs => exact absurd hmem' (hs.published gen browsed)

/-- A change was read, and no event of a browse was taken since. -/
def AwaitingNews (turns : List Turn) : Prop :=
  Mealy.Since ReadsChange (fun t => ¬ Takes t.before t.input) turns

/-- After a change nothing is available until a browse reports. -/
theorem unavailable_step
    (h : AwaitingNews turns → s.shared.AllUnavailable) (event : SupervisorEvent) :
    AwaitingNews (turns ++ [Mealy.turn machine s event]) →
      (machine s event).1.shared.AllUnavailable := by
  intro ha
  cases step_effect s event with
  | kept hk =>
    rcases Mealy.since_concat.mp ha with hreads | ⟨ht, he⟩
    · exact absurd hreads hk.read
    · have hr := hk.receivers.resolve_left ht
      intro id known hn
      exact h he id known (by rw [← hr]; exact hn)
  | changed _ hst =>
    rw [hst]
    exact markAllUnknown_unavailable _
  | due hu hd hs | again hg hd hs => exact hs.unavailable

/-- A generation starts two seconds after the last change that was read, or
later, exactly when no change is read while the network settles. The other
promises hold of every run: the generations increase as long as they can be
counted, the updates bear the generation that is current, and the receivers are
shown as unavailable until there is news of them. -/
theorem generations_settle (policy : Backend.RetryPolicy) (now : Instant)
    (events : List SupervisorEvent) :
    ((∀ before event, before ++ [event] <+: events →
        Waits (Mealy.trace machine (start policy now) (before ++ [event]))
          (Mealy.turn machine (Mealy.run machine (start policy now) before) event)) ↔
      Mealy.Along machine Settles (start policy now) events) ∧
    (Mealy.Along machine Unsaturated (start policy now) events →
      (startedGenerations (Mealy.trace machine (start policy now) events)).Pairwise (· < ·)) ∧
    (∀ t ∈ Mealy.trace machine (start policy now) events, PublishesCurrent t) ∧
    (AwaitingNews (Mealy.trace machine (start policy now) events) →
      (Mealy.run machine (start policy now) events).shared.AllUnavailable) := by
  refine ⟨waits_iff policy now events, fun ha => ?_, ?_, ?_⟩
  · have hi : Increasing (Mealy.trace machine (start policy now) events)
        (Mealy.run machine (start policy now) events) := by
      refine @Mealy.trace_induction_along _ _ _ machine Increasing (fun _ => Unsaturated) _ ?_ ?_
        events ?_
      · exact ⟨.nil, fun _ hmem => by cases hmem⟩
      · exact fun _ _ _ hb hi => hi.step hb
      · exact Mealy.along_iff_forall_start events |>.mp ha
    exact hi.strictly
  · have hs : (start policy now).Current := ⟨Nat.zero_le _, rfl⟩
    exact Mealy.forall_turn Current.step turn_publishesCurrent events hs
  · refine @Mealy.trace_induction _ _ _ machine
      (fun turns s => AwaitingNews turns → s.shared.AllUnavailable) _ ?_ ?_ events
    · intro hn
      exact absurd hn (Mealy.not_since_nil _ _)
    · exact fun _ _ event h => unavailable_step h event

/-- Two changes one second apart. -/
def twoChanges : List SupervisorEvent :=
  [.resume, .browsed true, .request .restartAfterNetworkChange, .control, .tick (Backend.seconds 1),
    .request .restartAfterNetworkChange]

/-- The second change is read while the network settles, and starts the next
generation at once, one second after the first. -/
theorem restart_cuts_settle : ¬ Waits (Mealy.trace machine (start {} 0) (twoChanges ++ [.control]))
      (Mealy.turn machine (Mealy.run machine (start {} 0) twoChanges) .control) := by
  intro h
  have hs : ((Mealy.run machine (start {} 0) twoChanges).step .control).2.started = some 2 := by
    decide
  have hr : ((Mealy.run machine (start {} 0) twoChanges).step .control).2.read =
      some .restartAfterNetworkChange := by
    decide
  have hmem : Mealy.turn machine (Mealy.run machine (start {} 0) twoChanges) .control ∈
      Mealy.trace machine (start {} 0) (twoChanges ++ [.control]) := by
    rw [Mealy.trace_concat]
    exact mem_append_right _ (mem_singleton_self _)
  have hl := h 2 hs _ hmem hr
  revert hl
  decide

end DiscoverySupervisor

end OpenAirCast.Discovery
