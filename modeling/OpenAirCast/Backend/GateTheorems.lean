/-
Backend.GateTheorems — the gate of a suspend and the start at
launch.

`Gated` reads what the actor sends from first to last: a suspend closes the
gate, the resume of capture in `finish_resume` opens it, and behind a closed
gate no session is asked for. `Held` ties the gate to the flag the actor
keeps, and every piece of work keeps it.

The launch start is a deadline that is set once, when the actor starts, and
that work only ever takes away (`Work.startup`). Auto-connect takes it away
when it acts, and so do the commands that answer its question.
-/
import OpenAirCast.Backend.WorkTheorems
import OpenAirCast.Backend.DurableTheorems

namespace OpenAirCast.Backend

open List Emission

/-- The gate after an emission. -/
def Emission.gate (closed : Bool) : Emission → Bool
  | .request .suspend => true
  | .captureControl .resume => false
  | _ => closed

def Emission.isReconcile : Emission → Bool
  | .request (.reconcile _) => true
  | _ => false

/-- Behind a closed gate no session is asked for. -/
def Gated (closed : Bool) : List Emission → Prop
  | [] => True
  | e :: rest => (closed = true → e.isReconcile = false) ∧ Gated (e.gate closed) rest

theorem gated_append : ∀ {closed : Bool} {xs ys : List Emission},
    Gated closed (xs ++ ys) ↔ Gated closed xs ∧ Gated (xs.foldl gate closed) ys
  | _, [], _ => by simp [Gated]
  | _, x :: xs, ys => by simp [Gated, gated_append, and_assoc]

/-- A reconcile behind a suspend comes after a resume. -/
theorem Gated.resume_mem {prms : ReconcileParams} {after : List Emission} :
    ∀ {within : List Emission}, Gated true (within ++ .request (.reconcile prms) :: after) →
      captureControl .resume ∈ within
  | [], h => by simp [Gated, isReconcile] at h
  | e :: rest, h => by
      by_cases hr : e = .captureControl .resume
      · simp [hr]
      · have hc : e.gate true = true := by
          unfold gate
          split <;> first | rfl | exact absurd rfl hr
        have hs := h.2
        rw [hc] at hs
        exact mem_cons_of_mem e hs.resume_mem

namespace Controller

variable [Lowercase] {mode : Mode} {ports : Ports}

variable {c c' : Controller}

/-! ## The gate of a suspend -/

/-- What was sent since the gate was as given respects it, and the actor
knows the gate and, behind a closed one, when it opens. -/
structure Held (closed : Bool) (c : Controller) : Prop where
  gated : Gated closed c.out
  gate : c.out.foldl gate closed = c.suspended
  armed : c.suspended = true → c.resumeAt.isSome = true

variable {closed : Bool}

omit [Lowercase] in
theorem Held.of_eq (h : Held closed c)
    (ho : c'.out = c.out) (hs : c'.suspended = c.suspended)
    (hr : c'.resumeAt = c.resumeAt) : Held closed c' := by
  refine ⟨?_, ?_, ?_⟩
  · rw [ho]
    exact h.gated
  · rw [ho, hs]
    exact h.gate
  · rw [hs, hr]
    exact h.armed

variable {e : Emission}

section

omit [Lowercase]

theorem Held.emits (h : Held closed c)
    (hg : e.gate c.suspended = c.suspended)
    (hr : c.suspended = true → e.isReconcile = false) : Held closed (c.emit e) := by
  refine ⟨?_, ?_, h.armed⟩
  · refine gated_append.mpr ⟨h.gated, ?_, trivial⟩
    rw [h.gate]
    exact hr
  · show (c.out ++ [e]).foldl Emission.gate closed = c.suspended
    rw [foldl_append, h.gate]
    exact hg

theorem gate_of_plain (h : e.plain = true) (closed : Bool) : e.gate closed = closed := by
  unfold gate
  split <;> first | rfl | simp [plain] at h

theorem not_isReconcile_of_plain (h : e.plain = true) : e.isReconcile = false := by
  unfold isReconcile
  split <;> first | rfl | simp [plain] at h

end

theorem Work.held (hw : Work mode ports c c') :
    ∀ {closed : Bool}, Held closed c → Held closed c' := by
  intro closed
  induction hw with
  | refl => exact id
  | trans _ _ ihab ihbc => exact fun h => ihbc (ihab h)
  | aside same =>
    exact fun h => h.of_eq (congrArg Core.out same) (congrArg Core.suspended same)
      (congrArg Core.resumeAt same)
  | emit _ plain =>
    exact fun h => h.emits (gate_of_plain plain _) (fun _ => not_isReconcile_of_plain plain)
  | publish c =>
    intro h
    obtain ⟨tone, _, ht, heq⟩ := c.publish_eq
    have hq : Held closed { c with out := c.out ++ tone } := by
      rcases ht with rfl | rfl
      · exact h.of_eq (by simp) rfl rfl
      · exact h.emits (gate_of_plain rfl _) (fun _ => rfl)
    have hpos : Held closed
        (({ c with out := c.out ++ tone } : Controller).emit (.publish c.posted)) :=
      hq.emits rfl (fun _ => rfl)
    rw [heq]
    exact hpos.of_eq rfl rfl rfl
  | view | settle | rows | drive | restart | disarm | intent | sight | select | move | join =>
    exact fun h => h.of_eq rfl rfl rfl
  | reconcile _ _ awake => exact fun h => h.emits rfl (fun hc => by simp [awake] at hc)
  | close =>
    intro h
    refine ⟨?_, ?_, fun _ => rfl⟩
    · simp only [closeGate, Controller.emit, append_assoc, cons_append, nil_append]
      exact gated_append.mpr ⟨h.gated, fun _ => rfl, fun _ => rfl, trivial⟩
    · simp [closeGate, Controller.emit, gate]
  | alarm => exact fun h => ⟨h.gated, h.gate, fun _ => rfl⟩
  | wake =>
    intro h
    refine ⟨?_, ?_, fun hc => Bool.noConfusion hc⟩
    · simp only [openGate, Controller.emit, append_assoc, cons_append, nil_append]
      exact gated_append.mpr ⟨h.gated, fun _ => rfl, fun _ => rfl, trivial⟩
    · simp [openGate, Controller.emit, gate]

theorem Work.grows (hw : Work mode ports c c') : ∃ sent, c'.out = c.out ++ sent := by
  induction hw with
  | refl => exact ⟨[], by simp⟩
  | trans _ _ ihab ihbc =>
    obtain ⟨xs, ha⟩ := ihab
    obtain ⟨ys, hb⟩ := ihbc
    exact ⟨xs ++ ys, by rw [hb, ha, append_assoc]⟩
  | @aside c c' same =>
    have ho : c'.out = c.out := congrArg Core.out same
    exact ⟨[], ho.trans (append_nil _).symm⟩
  | emit c | reconcile c => exact ⟨[_], rfl⟩
  | publish c =>
    obtain ⟨tone, _, _, heq⟩ := c.publish_eq
    exact ⟨tone ++ [.publish c.posted], by rw [heq, append_assoc]⟩
  | view | settle | rows | drive | restart | disarm | intent | alarm | sight | select | move
  | join => exact ⟨[], (append_nil _).symm⟩
  | close => exact ⟨_, append_assoc _ _ _⟩
  | wake => exact ⟨_, append_assoc _ _ _⟩

/-- Only work that wakes resumes capture. -/
theorem Work.resume_mem (hw : Work mode ports c c') (hk : mode.wakes = false) :
    Emission.captureControl .resume ∈ c'.out → Emission.captureControl .resume ∈ c.out := by
  induction hw with
  | refl => exact id
  | trans _ _ ihab ihbc => exact fun h => ihab (ihbc h)
  | @aside c c' same =>
    have ho : c'.out = c.out := congrArg Core.out same
    rw [ho]
    exact id
  | emit _ plain =>
    intro h
    rcases mem_append.mp h with h | h
    · exact h
    · rw [← mem_singleton.mp h] at plain
      simp [Emission.plain] at plain
  | publish c =>
    obtain ⟨tone, _, ht, heq⟩ := c.publish_eq
    rw [heq]
    rcases ht with rfl | rfl <;> simp
  | view | settle | rows | drive | restart | disarm | intent | alarm | sight | select | move
  | join => exact id
  | reconcile => simp [Controller.emit]
  | close => simp [closeGate, Controller.emit]
  | wake _ isWake => simp [hk] at isWake

/-- A pass starts nothing behind a closed gate, and emits each move of it. -/
theorem step_held (hr : c.suspended = true → c.resumeAt.isSome = true)
    (inp : Ports × Event) :
    Gated c.suspended (c.step inp).2 ∧
      (c.step inp).2.foldl gate c.suspended = (c.step inp).1.suspended ∧
      ((c.step inp).1.suspended = true → (c.step inp).1.resumeAt.isSome = true) := by
  rcases c.step_work inp with ⟨_, heq⟩ | ⟨_, _, _, hw, heq⟩
  · rw [heq]
    exact ⟨trivial, rfl, hr⟩
  · have hb : Held c.suspended c.cleared := ⟨trivial, rfl, hr⟩
    have ha := hw.held hb
    rw [heq]
    exact ⟨ha.gated, ha.gate, ha.armed⟩

variable (loaded : LoadedState) (cal : CalibrationProfile) (launch : Instant)
  (ins : List (Ports × Event))

/-- The whole run respects the gate, and the flag is the gate. -/
theorem run_gated : let c := run (start loaded cal launch) ins
    Gated false (Mealy.outputs step (start loaded cal launch) ins).flatten ∧
      (Mealy.outputs step (start loaded cal launch) ins).flatten.foldl gate false = c.suspended ∧
      (c.suspended = true → c.resumeAt.isSome = true) := by
  have ht : (start loaded cal launch).suspended = false := rfl
  refine @Mealy.trace_induction _ _ _ step
    (fun turns c => Gated false (turns.map (·.output)).flatten ∧
      (turns.map (·.output)).flatten.foldl gate false = c.suspended ∧
      (c.suspended = true → c.resumeAt.isSome = true)) _ ?_ ?_ ins
  · exact ⟨trivial, ht.symm, fun h => by simp [ht] at h⟩
  · rintro _ _ inp ⟨ha, hg, hr⟩
    obtain ⟨hs, hn, hnexArm⟩ := step_held hr inp
    simp only [map_append, map_cons, map_nil, flatten_append,
      flatten_cons, flatten_nil, append_nil, foldl_append, hg]
    exact ⟨gated_append.mpr ⟨ha, hg ▸ hs⟩, hn, hnexArm⟩

/-- Only the deadline of a resume opens the gate. -/
theorem resumeSettled_of_resume {inp : Ports × Event}
    (h : captureControl .resume ∈ (c.step inp).2) : inp.2 = .resumeSettled := by
  by_contra ho
  have hr : resumes inp.2 = false := by
    unfold resumes
    split
    · exact absurd ‹_› ho
    · rfl
  have hw : Work { wakes := false } inp.1 c.cleared (c.cleared.handle inp.1 inp.2) :=
    handle_work _ (.inl rfl) (.inl rfl) (.inr hr)
  rcases c.step_work inp with ⟨_, heq⟩ | ⟨_, _, rfl, _, heq⟩
  · rw [heq] at h
    cases h
  · rw [heq] at h
    cases hw.resume_mem rfl h

theorem suspending_sends (c : Controller) (now : Instant) : ∃ sent,
    (c.handleSystemEvent now .suspending).out =
      c.out ++ .captureControl .suspend :: .request .suspend :: sent := by
  have ha : Work {} {} (c.closeGate (now + SUSPEND_WATCHDOG)) (c.beginSuspend now) := by
    unfold beginSuspend
    refine (amend_course _ ?_).work
    exact fun _ => ⟨⟨rfl, rfl, rfl, rfl⟩, rfl, rfl⟩
  obtain ⟨sent, hs⟩ := ha.grows
  refine ⟨sent, hs.trans ?_⟩
  simp [closeGate, emit]

/-- Neither the gate nor its timer moves outside a scope of gates. -/
theorem Course.gate {results : List (Nat × Option CommandFailure)}
    (h : Course { gates := false } c results c') :
    c'.suspended = c.suspended ∧ c'.resumeAt = c.resumeAt := by
  induction h with
  | trans _ _ ihab ihbc => exact ⟨ihbc.1.trans ihab.1, ihbc.2.trans ihab.2⟩
  | publish c =>
    obtain ⟨_, _, -, heq⟩ := publish_eq c
    rw [heq]
    exact ⟨rfl, rfl⟩
  | refuse => simp only [notePersistenceFailure, failWithKind, emit, and_self]
  | close _ _ never | alarm _ _ never | wake _ _ never => cases never
  | _ => exact ⟨rfl, rfl⟩

/-- What follows the opened gate of a resume leaves gates alone. -/
theorem finishResume_course_openGate {scope : Scope} (runs : scope.runs) (asks : scope.asks)
    (c : Controller) {now : Instant} (at_ : scope.restarts now) :
    Course scope c.openGate [] (c.finishResume now) := by
  have hw : Course scope c.openGate [] c.wake := by
    unfold wake
    refine (releaseBackoff_course runs _).quiet (amend_course _ ?_)
    exact fun _ => ⟨⟨rfl, rfl, rfl, rfl⟩, rfl, rfl⟩
  exact course_ite ((hw.quiet (.restart _ runs at_)).quiet
    (requestReconcile_course runs asks _ _)) hw

/-- The settled resume of a suspended actor opens the gate. -/
theorem resumeSettled_wakes (hr : c.resumeAt.isSome = true)
    (hu : ¬ (c.finished ∨ c.crashed)) (ports : Ports) :
    (c.step (ports, .resumeSettled)).1.suspended = false ∧
      (c.step (ports, .resumeSettled)).1.resumeAt = none := by
  unfold step
  rw [if_neg hu]
  simp only [handle, hr, if_true]
  exact (finishResume_course_openGate rfl rfl _ trivial).gate

theorem finishResume_sends (c : Controller) (now : Instant) : ∃ sent, (c.finishResume now).out =
      c.out ++ .restartDiscovery :: .captureControl .resume :: sent := by
  have hr : Work {} { now } c.openGate (c.finishResume now) :=
    (finishResume_course_openGate rfl rfl c rfl).work
  obtain ⟨sent, hs⟩ := hr.grows
  refine ⟨sent, hs.trans ?_⟩
  simp [openGate, emit]

/-! ## The start at launch -/

/-- Work takes the launch start away or leaves it. -/
theorem Work.startup (hw : Work mode ports c c') :
    c'.startupAutoConnectUntil = c.startupAutoConnectUntil ∨ c'.startupAutoConnectUntil = none := by
  induction hw with
  | trans _ _ ihab ihbc =>
    rcases ihbc with hb | hb
    · rw [hb]
      exact ihab
    · exact .inr hb
  | aside same => exact .inl (congrArg Core.startup same)
  | publish c =>
    obtain ⟨_, _, _, heq⟩ := c.publish_eq
    exact .inl (by rw [heq])
  | disarm => exact .inr rfl
  | refl | emit | view | settle | rows | drive | restart | intent | reconcile | close | alarm
  | wake | sight | select | move | join => exact .inl rfl

theorem Work.startup_none (hw : Work mode ports c c')
    (h : c.startupAutoConnectUntil = none) : c'.startupAutoConnectUntil = none := by
  rcases hw.startup with hs | hn
  · exact hs.trans h
  · exact hn

/-- No launch start is left, or nothing runs any more. -/
def Spent (c : Controller) : Prop :=
  c.startupAutoConnectUntil = none ∨ c.finished = true ∨ c.crashed

/-- A spent launch start does not come back. -/
theorem step_spent (h : Spent c) (inp : Ports × Event) : Spent (c.step inp).1 := by
  rcases c.step_work inp with ⟨_, heq⟩ | ⟨hl, _, _, hw, heq⟩
  · rw [heq]
    exact h
  · rw [heq]
    have hn : c.cleared.startupAutoConnectUntil = none := h.resolve_right hl
    exact .inl (hw.startup_none hn)

theorem run_spent (h : Spent c) (ins : List (Ports × Event)) :
    Spent (run c ins) := by
  have ht : ∀ (c : Controller) (inp : Ports × Event), Spent c → Spent (c.step inp).1 :=
    fun _ inp hs => step_spent hs inp
  exact Mealy.run_invariant ht h ins

/-- Auto-connect changes the run intent. -/
def Launches (c : Controller) (ports : Ports) : Prop :=
  (c.step (ports, .autoConnectDue)).1.snapshot.runIntent ≠ c.snapshot.runIntent

/-- What it takes for auto-connect to act. -/
structure Due (c : Controller) (ports : Ports) : Prop where
  armed : ∃ until_, c.startupAutoConnectUntil = some until_ ∧ ports.now ≤ until_
  awake : c.suspended = false
  stopped : c.snapshot.runIntent = .stopped
  eligible : ∃ receiver ∈ c.snapshot.desiredMembers, c.rejoin.mayRejoin ports.now receiver = true

/-- Auto-connect leaves the actor, drops the deadline, or starts when it is
due. -/
theorem applyStartupAutoConnect_cases (c : Controller) (now : Instant) :
    c.applyStartupAutoConnect now = c ∨ c.applyStartupAutoConnect now = c.disarm ∨
      (∃ until_, c.startupAutoConnectUntil = some until_ ∧ now ≤ until_) ∧
        c.suspended = false ∧ c.snapshot.runIntent = .stopped ∧
        (∃ recv ∈ c.snapshot.desiredMembers, c.rejoin.mayRejoin now recv = true) ∧
        c.applyStartupAutoConnect now = c.disarm.startRunning.requestReconcile .membership := by
  unfold applyStartupAutoConnect
  cases hs : c.startupAutoConnectUntil with
  | none => exact .inl rfl
  | some until_ =>
    dsimp only
    split
    · exact .inl rfl
    · rename_i ha
      split
      · exact .inr (.inl rfl)
      · rename_i hw
        simp only [not_or, not_lt, not_not] at hw
        split
        · rename_i he
          obtain ⟨recv, hmem, hm⟩ := any_eq_true.mp he
          exact .inr (.inr ⟨⟨until_, rfl, hw.1⟩, by simpa using ha, hw.2,
            ⟨recv, mem_sortedIds.mp hmem, hm⟩, rfl⟩)
        · exact .inl rfl

theorem launches_due (h : Launches c ports) :
    Due c ports ∧ ¬ Spent c ∧ Spent (c.step (ports, .autoConnectDue)).1 := by
  unfold Launches at h
  rcases c.step_work (ports, .autoConnectDue) with ⟨_, heq⟩ | ⟨hl, _, rfl, _, heq⟩
  · rw [heq] at h
    exact absurd rfl h
  · rw [heq] at h ⊢
    have hc := c.cleared.applyStartupAutoConnect_cases ports.now
    rcases hc with hm | hm | ⟨⟨until_, ha, hn⟩, hw, ht, he, hs⟩
    · exact absurd (congrArg (·.snapshot.runIntent) hm) h
    · exact absurd (congrArg (·.snapshot.runIntent) hm) h
    · refine ⟨⟨⟨until_, ha, hn⟩, hw, ht, he⟩, ?_, .inl ?_⟩
      · rintro (hnn | hd)
        · cases ha.symm.trans hnn
        · exact hl hd
      · have hstart : Work {} ports c.cleared.disarm
            (c.cleared.disarm.startRunning.requestReconcile .membership) :=
          ((startRunning_course rfl _).quiet (requestReconcile_course rfl rfl _ _)).work
        have hp := hstart.startup_none rfl
        rw [← hs] at hp
        exact hp

/-- The launch window is the first one or gone. -/
theorem run_startup : let c := run (start loaded cal launch) ins
    c.startupAutoConnectUntil = some (launch + AUTO_CONNECT_WINDOW) ∨
      c.startupAutoConnectUntil = none := by
  have hs : ∀ (c : Controller) (inp : Ports × Event),
      (c.startupAutoConnectUntil = some (launch + AUTO_CONNECT_WINDOW) ∨
        c.startupAutoConnectUntil = none) →
      ((c.step inp).1.startupAutoConnectUntil = some (launch + AUTO_CONNECT_WINDOW) ∨
        (c.step inp).1.startupAutoConnectUntil = none) := by
    intro c inp h
    rcases c.step_work inp with ⟨_, heq⟩ | ⟨_, _, _, hw, heq⟩
    · rw [heq]
      exact h
    · rw [heq]
      rcases hw.startup with hm | hn
      · exact h.imp hm.trans hm.trans
      · exact .inr hn
  have ht : (start loaded cal launch).startupAutoConnectUntil =
      if loaded.state.autoConnect then some (launch + AUTO_CONNECT_WINDOW) else none := rfl
  refine Mealy.run_invariant hs ?_ ins
  rw [ht]
  split
  · exact .inl rfl
  · exact .inr rfl

/-- The command answers what auto-connect would have asked: a run intent,
auto-connect switched off, or a group activated and not started. -/
def Declines (ports : Ports) (b : Batch) (e : ControllerEnvelope) : Prop :=
  match e.command with
  | .setRunIntent _ => True
  | .setAutoConnect enabled => enabled = false
  | .activateSavedGroup groupId start =>
    start = false ∧ ∃ group,
      b.actor.persisted.savedGroups.find? (fun group => group.id = groupId) = some group ∧
      (b.actor.commitDurable ports e.id
        (Batch.activationCommit b.actor.persisted group)).2.stateIsIntended = true
  | _ => False

theorem execute_declines {b : Batch} : ∀ {e : ControllerEnvelope}, Declines ports b e →
    (b.execute ports e).actor.startupAutoConnectUntil = none := by
  rintro ⟨id, cmd, conf⟩ h
  cases cmd with
  | setRunIntent intent => exact (Batch.setRunIntent_disarms b id intent).2
  | setAutoConnect enabled =>
    obtain rfl : enabled = false := h
    have hw : Work {} ports b.actor.disarm (b.setAutoConnect ports id false).actor := by
      obtain ⟨_, hc, -⟩ := @Batch.perform_verdict _ _ ports
        { b with actor := b.actor.disarm } ⟨id, .setAutoConnect false, none⟩
        (@Batch.allows_of_loose _ {} ports _ (.inl rfl))
      exact hc.work
    exact hw.startup_none rfl
  | activateSavedGroup gid =>
    obtain ⟨rfl, group, hf, hint⟩ := h
    have hd : (b.activateSavedGroup ports id gid false).actor = (b.actor.commitDurable ports id
          (Batch.activationCommit b.actor.persisted group)).1.disarm := by
      simp only [Batch.activateSavedGroup, Batch.handleActivateGroup, hf,
        Batch.finishActivation, Batch.declineStart, Bool.not_false, Bool.true_and,
        Bool.false_and, Bool.false_eq_true, if_false]
      exact if_pos hint
    have he : Work {} ports (b.activateSavedGroup ports id gid false).actor
        (b.execute ports ⟨id, .activateSavedGroup gid false, conf⟩).actor :=
      (Batch.confirm_course rfl (b.activateSavedGroup ports id gid false)
        ⟨id, .activateSavedGroup gid false, conf⟩).work
    refine he.startup_none ?_
    rw [hd]
    rfl
  | setDesiredMembers | setMasterVolume | setMuted | setAudioEndpoint | setLatencyPreset
  | setReceiverLevel | applyDesiredMembers | saveGroup | deleteGroup | retryReceiver
  | notifySystem | calibration | runListeningTest | shutdown => exact False.elim h

/-- A batch that runs such a command spends the launch start. -/
theorem step_declines {envs ran rest : List ControllerEnvelope}
    {e : ControllerEnvelope} (ho : (PendingBatch.ofList envs).order = ran ++ e :: rest)
    (hu : (Batch.partway c ports ran).shutdown = false)
    (hd : Declines ports (Batch.partway c ports ran) e) :
    Spent (c.step (ports, .batch envs)).1 := by
  rcases c.step_work (ports, .batch envs) with ⟨hdd, heq⟩ | ⟨_, after, ha, _, heq⟩
  · rw [heq]
    exact .inr hdd
  · have hb : after = (rest.foldl (Batch.next ports)
          ((Batch.partway c ports ran).next ports e)).settle := by
      have hp : after = c.cleared.processBatch ports (.ofList envs) := ha
      rw [hp, processBatch, ho, foldl_append]
      rfl
    have hn : (Batch.partway c ports ran).next ports e =
        (Batch.partway c ports ran).execute ports e := by
      unfold Batch.next
      rw [hu]
      rfl
    have hw : Work {} ports ((Batch.partway c ports ran).execute ports e).actor after := by
      rw [hb, hn]
      exact (foldl_work rfl rest _).trans (Batch.settle_course rfl rfl rfl _).work
    have hnn := hw.startup_none (execute_declines hd)
    rw [heq]
    exact .inl hnn

/-- In every run of the actor: between a suspend and the `finish_resume`
that follows no session is asked for, a suspended actor knows when it
resumes and is awake once that has settled, and auto-connect acts at most
once, only inside the launch window,
only for a stopped session with an eligible receiver, and never after a
command that has answered its question. -/
theorem suspend_gate_holds_and_launch_acts_once (loaded : LoadedState)
    (calibration : CalibrationProfile) (launch : Instant) (inputs : List (Ports × Event)) :
    let c := run (start loaded calibration launch) inputs
    let sent := (Mealy.outputs step (start loaded calibration launch) inputs).flatten
    -- `Suspending` sends the suspend, `finish_resume` and nothing else the resume
    (∀ (c : Controller) now, ∃ more, (c.handleSystemEvent now .suspending).out =
      c.out ++ .captureControl .suspend :: .request .suspend :: more) ∧
    (∀ (c : Controller) now, ∃ more, (c.finishResume now).out =
      c.out ++ .restartDiscovery :: .captureControl .resume :: more) ∧
    (∀ inp, captureControl .resume ∈ (c.step inp).2 → inp.2 = .resumeSettled) ∧
    (∀ pre within after prms,
      sent = pre ++ .request .suspend :: (within ++ .request (.reconcile prms) :: after) →
        captureControl .resume ∈ within) ∧
    (c.suspended = true → c.resumeAt.isSome = true ∧ ∀ ports, ¬ (c.finished ∨ c.crashed) →
      (c.step (ports, .resumeSettled)).1.suspended = false ∧
        (c.step (ports, .resumeSettled)).1.resumeAt = none) ∧
    (∀ ports, Launches c ports → c.startupAutoConnectUntil = some (launch + AUTO_CONNECT_WINDOW) ∧
      ports.now ≤ launch + AUTO_CONNECT_WINDOW ∧ c.snapshot.runIntent = .stopped ∧
      (∃ recv ∈ c.snapshot.desiredMembers, c.rejoin.mayRejoin ports.now recv = true) ∧
      ∀ later ports', ¬ Launches (run c ((ports, .autoConnectDue) :: later)) ports') ∧
    (∀ ports envs ran e rest, (PendingBatch.ofList envs).order = ran ++ e :: rest →
      (Batch.partway c ports ran).shutdown = false →
      Declines ports (Batch.partway c ports ran) e →
      ∀ later ports', ¬ Launches (run c ((ports, .batch envs) :: later)) ports') := by
  intro c sent
  obtain ⟨hg, _, ha⟩ := run_gated loaded calibration launch inputs
  have hs : ∀ {c : Controller}, Spent c → ∀ later ports', ¬ Launches (run c later) ports' :=
    fun h later ports' hlaunc => (launches_due hlaunc).2.1 (run_spent h later)
  refine ⟨suspending_sends, finishResume_sends, fun _ => resumeSettled_of_resume, ?_,
    fun hc => ⟨ha hc, fun ports hu => resumeSettled_wakes (ha hc) hu ports⟩, ?_, ?_⟩
  · intro pre within after prms hn
    have hp : Gated false
        (pre ++ .request .suspend :: (within ++ .request (.reconcile prms) :: after)) :=
      hn ▸ hg
    exact (gated_append.mp hp).2.2.resume_mem
  · intro ports hlaunc
    obtain ⟨hd, _, hf⟩ := launches_due hlaunc
    obtain ⟨until_, ht, hw⟩ := hd.armed
    have hl : c.startupAutoConnectUntil = some (launch + AUTO_CONNECT_WINDOW) := by
      refine (run_startup loaded calibration launch inputs).resolve_right ?_
      intro hnn
      cases ht.symm.trans hnn
    obtain rfl : launch + AUTO_CONNECT_WINDOW = until_ := Option.some.inj (hl.symm.trans ht)
    exact ⟨hl, hw, hd.stopped, hd.eligible, hs hf⟩
  · intro ports envs ran e rest ho hu hc
    exact hs (step_declines ho hu hc)

omit [Lowercase] in
/-- A receiver seen at launch is started two seconds later. -/
example :
    letI := asciiLowercase
    let wanted : ReceiverId := ⟨1⟩
    let loaded : LoadedState := ⟨{ autoConnect := true, lastDesiredMembers := {wanted} }, rfl⟩
    let seen : Event := .discovery (.receiver 0 (.added ⟨wanted, "kitchen", "", true, true⟩))
    Launches (run (start loaded {} 0) [({}, seen)]) { now := seconds 2 } := by
  unfold Launches
  decide

end Controller

end OpenAirCast.Backend
