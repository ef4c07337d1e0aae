/-
App.TurnTheorems — what one event does to the parts of the
shell the bridge reports to.

`reduce_steady` is about the session: an event that leaves the session
counter alone keeps a check that is under way, and moves the stream and
the active set only when it is an answer under that counter. `GroupMove`
is about group operations: it lists everything an event can do to the
pending operation, with the group effect that goes with it.
-/
import OpenAirCast.App.HardwareCheckTheorems

namespace OpenAirCast

open HardwareCheck

variable {s : AppState} {event : HardwareCheckObservation} {o : Outcome}

/-! ## The session -/

/-- What the window shows of the session. -/
def AppState.view (s : AppState) : StreamState × Finset DeviceId := (s.stream, s.activeReceivers)

/-- What an answer makes the window show. -/
def ControllerEvent.view : ControllerEvent → Option (StreamState × Finset DeviceId)
  | .sessionStarted generation ids => some (.streaming generation, ids.toFinset)
  | .sessionDegraded generation ids => some (.degraded generation, ids.toFinset)
  | .sessionRestarting generation => some (.restarting generation, ∅)
  | .sessionStopped _ => some (.stopped, ∅)
  | .sessionFailed _ _ => some (.stopped, ∅)
  | _ => none

/-- An answer under the current generation is shown. -/
theorem dispatch_view [Lowercase] (s : AppState) {event : ControllerEvent}
    (hs : (AppEvent.controller event).sessionStamp = some s.generations.session) :
    event.view = some (dispatch s (.controller event)).state.view := by
  cases event with
  | sessionStarted gen ids | sessionDegraded gen ids =>
    obtain rfl : gen = s.generations.session := Option.some.inj hs
    simp [dispatch, sessionStarted, sessionDegraded, sessionRunning, AppState.view,
      ControllerEvent.view]
  | sessionRestarting gen | sessionStopped gen
  | sessionFailed gen =>
    obtain rfl : gen = s.generations.session := Option.some.inj hs
    simp [dispatch, sessionRestarting, sessionStopped, sessionFailed, AppState.view,
      ControllerEvent.view]
  | _ => simp [AppEvent.sessionStamp] at hs

theorem ObserveMove.view (h : ObserveMove s event o)
    (hm : o.state.generations.session = s.generations.session) :
    o.state.view = s.view := by
  cases h with
  | abandoned _ _ _ hs => simp [hs, awaitStop, abandonedStop] at hm
  | resting _ hs hf | watching _ _ _ _ hs hf | kept _ _ _ hs hf => rw [hs]
  | complete _ _ _ _ _ hs hf | abandonedToStop _ _ hs hf | pending _ _ hs hf
  | released _ _ hs hf | lost _ _ hs hf =>
    rw [hs]
    rfl

/-- A check under way that the observer leaves keeps its stream, or the
session is being stopped. -/
theorem ObserveMove.isUnderWay
    (h : ObserveMove s event o) (hp : s.hardwareCheck.phase.isUnderWay = true)
    (ht : s.stream.isStopping = false)
    (hm : o.state.generations.session = s.generations.session) :
    o.state.hardwareCheck.phase.isUnderWay = true ∧ s.stream.isStartingOrStreaming = true := by
  cases h with
  | watching _ _ hb _ hs =>
    rw [hs]
    exact ⟨hp, hb.stream⟩
  | complete _ _ hb _ _ hs =>
    rw [hs]
    exact ⟨rfl, hb.stream⟩
  | abandonedToStop _ hsp => simp [hsp] at ht
  | abandoned _ _ _ hs => simp [hs, awaitStop, abandonedStop] at hm
  | resting hr => rcases hr with hr | hr <;> simp [hr, HardwareCheckPhase.isUnderWay] at hp
  | pending hr => simp [hr, HardwareCheckPhase.isUnderWay] at hp
  | released hr => simp [hr, HardwareCheckPhase.isUnderWay] at hp
  | kept hr => rcases hr with hr | hr <;> simp [hr, HardwareCheckPhase.isUnderWay] at hp
  | lost hr => rcases hr with hr | hr <;> simp [hr, HardwareCheckPhase.isUnderWay] at hp

/-- An event that leaves the session counter alone. -/
structure Steady (s : AppState) (e : AppEvent) (s' : AppState) : Prop where
  /-- A check stays under way. -/
  underWay : s.hardwareCheck.phase.isUnderWay = true → s'.hardwareCheck.phase.isUnderWay = true
  /-- Only an answer under the counter is shown. -/
  kept : e.sessionStamp ≠ some s.generations.session → s'.view = s.view
  shown : ∀ event, e = .controller event →
    (AppEvent.controller event).sessionStamp = some s.generations.session →
    event.view = some s'.view
  /-- No failure is shown while a check is under way. -/
  unfailed : s.hardwareCheck.phase.isUnderWay = true →
    ∀ summary, e ≠ .controller (.sessionFailed s.generations.session summary)

variable {e : AppEvent}

theorem ArmMove.steady (h : ArmMove s e o)
    (hm : o.state.generations.session = s.generations.session) :
    o.state.hardwareCheck.phase = s.hardwareCheck.phase ∧ (o.state.view = s.view ∨
        e.sessionStamp = some s.generations.session ∧ o.state.stream.isStopping = false) := by
  have he : ∀ {c : SessionCore}, o.state.core = c → c.session = s.generations.session := fun hc =>
    (congrArg SessionCore.session hc).symm.trans hm
  cases h with
  | quiet hr =>
    refine ⟨congrArg SessionCore.phase hr, .inl ?_⟩
    exact Prod.ext (congrArg SessionCore.stream hr) (congrArg SessionCore.active hr)
  | answered stream _ hv _ ht hr =>
    refine ⟨congrArg SessionCore.phase hr, .inr ⟨hv, ?_⟩⟩
    have hs : o.state.stream = stream := congrArg SessionCore.stream hr
    rw [hs]
    exact ht
  | started _ _ hr hf | stopped _ _ hr hf | redirected _ _ _ hr hf
  | checkStarted _ _ _ _ hr hf | checkStopped _ _ _ _ hr hf =>
    have := he hr
    simp at this

theorem reduce_steady [Lowercase] (hr : Reachable s) (e : AppEvent)
    (hsa : (reduce s e).1.generations.session = s.generations.session) :
    Steady s e (reduce s e).1 := by
  cases reduce_move s e with
  | refused hp hev heq =>
    have hu : s.hardwareCheck.phase.isUnderWay = false := by rw [hp]; rfl
    rw [heq]
    refine ⟨fun h => h, fun _ => rfl, ?_, ?_⟩
    · rintro event rfl hm
      simp [startsPlayback] at hev
    · intro h
      simp [hu] at h
  | reacted _ o hb _ ha =>
    -- neither the arm nor the observer moves the counter
    have hmv := hr.dispatch_move e
    have hle := hmv.allocates.le
    have hle' := hb.allocates.le
    have he : o.state.generations.session = s.generations.session := by
      rw [← hsa, ha]
      rfl
    have har : (dispatch s e).state.generations.session = s.generations.session :=
      le_antisymm (hle'.trans he.le) hle
    have ho : o.state.generations.session
        = (dispatch s e).state.generations.session := he.trans har.symm
    obtain ⟨hp, hv⟩ := hmv.steady har
    have hh : (reduce s e).1.view = (dispatch s e).state.view := by
      rw [ha]
      exact hb.view ho
    -- a check under way rests on a stream that starts or plays
    have hc : s.hardwareCheck.phase.isUnderWay = true →
        (reduce s e).1.hardwareCheck.phase.isUnderWay = true ∧
          (dispatch s e).state.stream.isStartingOrStreaming = true := by
      intro hu
      have hsr : (dispatch s e).state.stream.isStopping = false := by
        rcases hv with hv | hv
        · have hd := (hr.checkBound hu).stream
          have ht : (dispatch s e).state.stream = s.stream := congrArg Prod.fst hv
          rw [ht]
          cases hs : s.stream <;>
            simp_all [StreamState.isStopping, StreamState.isStartingOrStreaming]
        · exact hv.2
      rw [ha]
      exact hb.isUnderWay (hp ▸ hu) hsr ho
    refine ⟨fun hu => (hc hu).1, ?_, ?_, ?_⟩
    · intro hl
      rw [hh]
      rcases hv with hv | hv
      · exact hv
      · exact absurd hv.1 hl
    · rintro _ rfl hm
      rw [hh]
      exact dispatch_view s hm
    · rintro hu summ rfl
      have hf : ControllerEvent.view (.sessionFailed s.generations.session summ)
          = some (dispatch s (.controller (.sessionFailed s.generations.session
              summ))).state.view := dispatch_view s rfl
      have hsr : (dispatch s (.controller (.sessionFailed s.generations.session
          summ))).state.stream = .stopped :=
        (congrArg Prod.fst (Option.some.inj hf)).symm
      have := (hc hu).2
      rw [hsr] at this
      simp [StreamState.isStartingOrStreaming] at this

/-- The tone of an event belongs to the counter it leaves, and to a check
under way. -/
theorem tone_underWay [Lowercase] (hr : Reachable s) (e : AppEvent)
    {g : GenerationId} (h : g ∈ toneGenerations (reduce s e).2.effects) :
    g = (reduce s e).1.generations.session ∧
      (reduce s e).1.hardwareCheck.phase.isUnderWay = true := by
  rcases reduce_tones hr e with hs | ⟨ht, -, hp, he, -⟩
  · simp [hs] at h
  · rw [ht, List.mem_singleton] at h
    exact ⟨h.trans he.symm, by rw [hp]; rfl⟩

/-! ## Group operations -/

/-- The part of the state group operations live in. -/
structure GroupCore where
  operation : Option GroupOperation
  nextRequest : Nat
  closed : Bool

def AppState.groups (s : AppState) : GroupCore where
  operation := s.groupOperation
  nextRequest := s.nextGroupRequest
  closed := s.controllerClosed

def AppEffect.isGroup : AppEffect → Bool
  | .group .. => true
  | _ => false

/-- No effect of the list is a group effect. -/
def Groupless (effects : List AppEffect) : Prop := effects.all (fun fx => !fx.isGroup) = true

theorem groupless_append {a b : List AppEffect} :
    Groupless (a ++ b) ↔ Groupless a ∧ Groupless b := by
  simp [Groupless, List.all_append]

/-- What an event can do to the pending group operation, with the group
effect that goes with it. -/
inductive GroupMove (s : AppState) (e : AppEvent) (s' : AppState) (effects : List AppEffect) :
    Prop
  | kept (hg : s'.groups = s.groups) (hf : Groupless effects)
  /-- A new operation, sent to the backend. A group start that finds a
  session running gets no generation. -/
  | asked (generation : Option GenerationId) (command : GroupCommand) (rest : List AppEffect)
      (hf : groupPending s = false) (ho : s.controllerClosed = false)
      (hg : generation.isSome = true → command.isStart = true)
      (hs : generation = none → command.isStart = true →
        e = .groupRequested command ∧ s.stream.isRunning = true)
      (hr : s'.groups =
        { operation := some
            { request := s.nextGroupRequest + 1, command, status := .pending }
          nextRequest := s.nextGroupRequest + 1
          closed := false })
      (hx : effects = .group (s.nextGroupRequest + 1) generation command :: rest)
      (he : Groupless rest)
  | finished (request : Nat) (status : GroupOperationStatus) (operation : GroupOperation)
      (he : e = .controller (.groupOperationFinished request status))
      (hp : s.groupOperation = some operation ∧ operation.request = request ∧
        operation.status = .pending)
      (hg : s'.groups = { s.groups with operation := some { operation with status } })
      (hf : Groupless effects)
  | discarded (hf : groupPending s = false)
      (hg : s'.groups = { s.groups with operation := none }) (hx : Groupless effects)
  /-- Without a controller nothing is sent any more. -/
  | shut (hc : s'.controllerClosed = true) (hf : groupPending s' = false)
      (hn : s.nextGroupRequest ≤ s'.nextGroupRequest) (hx : Groupless effects)

variable {fp : Footprint}

theorem Differ.groups {t : AppState} (h : Differ fp s t)
    (hg : fp.groups = false) : t.groups = s.groups := by
  rw [h]
  simp only [AppState.groups, AppState.within, hg, cond_false]

theorem Within.groupMove
    (h : Within fp s o) (hg : fp.groups = false) : GroupMove s e o.state o.effects := by
  refine .kept (h.state.groups hg) (List.all_eq_true.mpr (fun eff hmem => ?_))
  have hp := List.all_eq_true.mp h.effects eff hmem
  cases eff <;> simp_all [Footprint.permits, AppEffect.isGroup]

variable (s)

theorem groupRequested_groupMove (cmd : GroupCommand)
    (he : cmd.isStart = true → e = .groupRequested cmd) :
    GroupMove s e (groupRequested s cmd).state (groupRequested s cmd).effects := by
  unfold groupRequested
  split
  · exact .kept rfl rfl
  · rename_i hf
    have hp : groupPending s = false := by
      simp only [Bool.or_eq_true, not_or, Bool.not_eq_true] at hf
      exact hf.2
    simp only
    cases hc : s.controllerClosed with
    | true =>
      rw [if_pos rfl]
      exact .shut rfl rfl (Nat.le_succ _) rfl
    | false =>
      rw [if_neg (by simp)]
      split
      · rename_i hi
        refine .asked _ cmd [] hp hc ?_ (by simp) rfl rfl rfl
        intro _
        simp only [Bool.and_eq_true] at hi
        exact hi.1
      · rename_i hi
        refine .asked none cmd [] hp hc (by simp) ?_ rfl rfl rfl
        intro _ ht
        refine ⟨he ht, ?_⟩
        cases hs : s.stream <;>
          simp_all [StreamState.isStoppedOrFailed, StreamState.isStopping,
            StreamState.isRunning]

theorem applyStaged_groupMove :
    GroupMove s .applyStagedReceivers (applyStaged s).state (applyStaged s).effects := by
  unfold applyStaged
  split
  · exact groupRequested_groupMove s _ (by simp [GroupCommand.isStart])
  · have ha : Differ { session := true, selection := true, draft := true, rows := true } s
        (adoptStaged s) := rfl
    exact (((redirectSession_within _).mono rfl).after ha rfl).groupMove rfl

theorem discardStaged_groupMove (e : AppEvent) :
    GroupMove s e (discardStaged s).state (discardStaged s).effects := by
  unfold discardStaged
  split
  · exact .kept rfl rfl
  · rename_i hf
    simp only
    split
    · exact .discarded (by simpa using hf) rfl rfl
    · exact .kept rfl rfl

theorem groupOperationFinished_groupMove (req : Nat)
    (stat : GroupOperationStatus) :
    GroupMove s (.controller (.groupOperationFinished req stat))
      (groupOperationFinished s req stat).state
      (groupOperationFinished s req stat).effects := by
  unfold groupOperationFinished
  split
  · rename_i oper hop
    split
    · rename_i hm
      exact .finished req stat oper rfl ⟨hop, hm⟩ rfl rfl
    · exact .kept rfl rfl
  · exact .kept rfl rfl

theorem channelClosed_groupPending (summ : String) :
    groupPending (channelClosed s summ).state = false := by
  unfold channelClosed
  cases hp : groupPending s with
  | false => simpa [groupPending] using hp
  | true => cases s.groupOperation <;> simp [groupPending]

variable {s}

theorem groupPending_of_groups {s' : AppState} (h : s'.groups = s.groups) :
    groupPending s' = groupPending s := by
  have hop : s'.groupOperation = s.groupOperation := congrArg GroupCore.operation h
  simp only [groupPending, hop]

theorem dispatch_groupMove [Lowercase] (s : AppState) (e : AppEvent) :
    GroupMove s e (dispatch s e).state (dispatch s e).effects := by
  cases hg : e.footprint.groups with
  | false => exact (dispatch_within s e).groupMove hg
  | true =>
    cases e with
    | hardwareCheck action => cases action <;> cases hg
    | groupRequested cmd => exact groupRequested_groupMove s cmd (fun _ => rfl)
    | applyStagedReceivers => exact applyStaged_groupMove s
    | discardStagedReceivers => exact discardStaged_groupMove s _
    | controller event =>
      cases event with
      | groupOperationFinished req stat => exact groupOperationFinished_groupMove s req stat
      | channelClosed summ =>
        exact .shut rfl (channelClosed_groupPending s summ) (Nat.le_refl _) rfl
      | _ => cases hg
    | _ => cases hg

theorem ObserveMove.groupKept
    (h : ObserveMove s event o) : o.state.groups = s.groups ∧ Groupless o.effects := by
  refine ⟨h.differ.groups rfl, ?_⟩
  rcases h.effects_cases with hf | ⟨gen, hf | hf⟩ <;> rw [hf] <;> rfl

theorem reduce_groupMove [Lowercase] (s : AppState) (e : AppEvent) :
    GroupMove s e (reduce s e).1 (reduce s e).2.effects := by
  cases reduce_move s e with
  | refused _ _ heq =>
    rw [heq]
    exact .kept rfl rfl
  | reacted _ o hb _ ht hx =>
    have ho := hb.groupKept
    have hs : (reduce s e).1.groups = (dispatch s e).state.groups := by
      rw [ht]
      exact ho.1
    have hl := congrArg GroupCore.closed hs
    have hnx := congrArg GroupCore.nextRequest hs
    rw [hx]
    cases dispatch_groupMove s e with
    | kept hg hf => exact .kept (hs.trans hg) (groupless_append.mpr ⟨hf, ho.2⟩)
    | asked gen cmd rest hr hop he ha hg hf hrs =>
      refine .asked gen cmd (rest ++ o.effects) hr hop he ha (hs.trans hg) ?_
        (groupless_append.mpr ⟨hrs, ho.2⟩)
      rw [hf, List.cons_append]
    | finished req stat oper hv hpe hg hf =>
      exact .finished req stat oper hv hpe (hs.trans hg) (groupless_append.mpr ⟨hf, ho.2⟩)
    | discarded hr hg hf => exact .discarded hr (hs.trans hg) (groupless_append.mpr ⟨hf, ho.2⟩)
    | shut hc hp hn hf =>
      exact .shut (hl.trans hc) ((groupPending_of_groups hs).trans hp)
        (hn.trans hnx.ge) (groupless_append.mpr ⟨hf, ho.2⟩)

/-- The outcome of the pending operation is always taken. -/
theorem reduce_groupOperationFinished [Lowercase] {oper : GroupOperation}
    (hop : s.groupOperation = some oper) (hp : oper.status = .pending)
    (status : GroupOperationStatus) :
    (reduce s (.controller (.groupOperationFinished oper.request status))).1.groupOperation
      = some { oper with status } := by
  cases reduce_move s (.controller (.groupOperationFinished oper.request status)) with
  | refused _ he => cases he
  | reacted _ o ho _ hs =>
    rw [hs]
    have hk : o.state.groupOperation = _ := congrArg GroupCore.operation ho.groupKept.1
    refine Eq.trans hk ?_
    show (groupOperationFinished s oper.request status).state.groupOperation = _
    simp [groupOperationFinished, hop, hp]

/-- A shell that has been told of the closure stays told. -/
theorem reduce_controllerClosed [Lowercase] {event : AppEvent}
    (h : s.controllerClosed = true ∨ ∃ summ, event = .controller (.channelClosed summ)) :
    (reduce s event).1.controllerClosed = true := by
  have hd : (dispatch s event).state.controllerClosed = true := by
    rcases h with h | ⟨summ, rfl⟩
    · cases dispatch_groupMove s event with
      | kept hg => exact (congrArg GroupCore.closed hg).trans h
      | asked _ _ _ _ hop =>
        rw [hop] at h
        cases h
      | finished _ _ _ _ _ hg => exact (congrArg GroupCore.closed hg).trans h
      | discarded _ hg => exact (congrArg GroupCore.closed hg).trans h
      | shut hc => exact hc
    · rfl
  cases reduce_move s event with
  | refused _ he heq =>
    rw [heq]
    rcases h with h | ⟨_, rfl⟩
    · exact h
    · cases he
  | reacted _ _ ho _ hs =>
    rw [hs]
    exact (congrArg GroupCore.closed ho.groupKept.1).trans hd

end OpenAirCast
