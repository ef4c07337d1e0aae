/-
Backend.WorkTheorems — what a pass of the controller does to
receivers and their session.

`Work` lists the pieces: an emission, a publication, a change of the
snapshot, rows rebuilt from the machines, one machine driven, the gate of a
suspend closed and opened. Every course of edits is a chain of such pieces
(`Course.work`), and so is every event and every command of a batch. What
each piece keeps, every pass keeps.

Work is `loose` when it may change who is in the session or wanted in it.
Only the updates of the session supervisor and the commands that change the
selection do. It `wakes` when it may open the gate, which only the deadline
of a resume does, and it `browses` when it may learn of a receiver.
-/
import OpenAirCast.Backend.CourseTheorems

namespace OpenAirCast.Backend

/-- Nothing is published, no session asked for, and the gate of a suspend
stays as it is. -/
def Emission.plain : Emission → Bool
  | .publish _ | .request (.reconcile _) | .request .suspend | .captureControl .resume => false
  | .remember _ _ | .request (.setVolume _ _) | .request .probe | .request .networkChanged
  | .request .resume | .confirm _ _ | .completed _ | .failed _ _ | .persistenceNotice _
  | .discoveryNotice _ | .calibration _ | .capturePreference _
  | .captureControl .requestEndpointChange | .captureControl .suspend | .captureControl .stop
  | .restartDiscovery | .scanEndpoints | .injectPattern | .cancelTone => true

namespace Controller

/-! ## Pieces -/

/-- The fields the pieces below are about. -/
structure Core where
  snapshot : FullSnapshot
  inventory : SortedMap ReceiverId InventoryEntry
  machines : SortedMap ReceiverId ReceiverMachine
  rejoin : RejoinRestartLimiter
  active : Finset ReceiverId
  suspended : Bool
  resumeAt : Option Instant
  startup : Option Instant
  out : List Emission

def core (c : Controller) : Core where
  snapshot := c.snapshot
  inventory := c.inventory
  machines := c.machines
  rejoin := c.rejoin
  active := c.active
  suspended := c.suspended
  resumeAt := c.resumeAt
  startup := c.startupAutoConnectUntil
  out := c.out

/-- What a chain of pieces may contain. -/
structure Mode where
  loose : Bool := true
  wakes : Bool := true
  browses : Bool := true

variable [Lowercase]

/-- The pieces a pass at these ports is made of. -/
inductive Work (mode : Mode) (ports : Ports) : Controller → Controller → Prop
  | refl (c : Controller) : Work mode ports c c
  | trans {a b c : Controller} (ha : Work mode ports a b) (hb : Work mode ports b c) :
      Work mode ports a c
  | aside {c c' : Controller} (same : c'.core = c.core) : Work mode ports c c'
  | emit (c : Controller) {emission : Emission} (plain : emission.plain = true) :
      Work mode ports c (c.emit emission)
  | publish (c : Controller) : Work mode ports c c.publish
  | view (c : Controller) {next : FullSnapshot} (same : view next = view c.snapshot) :
      Work mode ports c { c with snapshot := next }
  | settle (c : Controller) : Work mode ports c c.settleMachines
  | rows (c : Controller) {next : FullSnapshot}
      (same : Controller.view next = Controller.view c.snapshot) :
      Work mode ports c (c.showRows next)
  | drive (c : Controller) (receiver : ReceiverId)
      {op : ReceiverMachine → ReceiverMachine × Bool} (soft : ReceiverMachine.Soft op) :
      Work mode ports c (c.drive receiver op)
  | restart (c : Controller) : Work mode ports c (c.noteRestart ports.now)
  | disarm (c : Controller) : Work mode ports c c.disarm
  | intent (c : Controller) (intent : RunIntent) :
      Work mode ports c { c with snapshot := { c.snapshot with runIntent := intent } }
  | reconcile (c : Controller) (params : ReconcileParams) (awake : c.suspended = false) :
      Work mode ports c (c.emit (.request (.reconcile params)))
  | close (c : Controller) (deadline : Instant) : Work mode ports c (c.closeGate deadline)
  | alarm (c : Controller) (deadline : Instant) :
      Work mode ports c { c with resumeAt := some deadline }
  | wake (c : Controller) (isWake : mode.wakes = true) : Work mode ports c c.openGate
  /-- Discovery is heard; when the last restart was is not its business. -/
  | sight (c : Controller) (isBrowse : mode.browses = true)
      (inventory : SortedMap ReceiverId InventoryEntry)
      (machines : SortedMap ReceiverId ReceiverMachine) (retry : RetryState)
      {rejoin : RejoinRestartLimiter}
      (same : rejoin.lastRejoinRestart = c.rejoin.lastRejoinRestart) :
      Work mode ports c { c with inventory, machines, retry, rejoin }
  /-- The selection, or who is in the session. -/
  | select (c : Controller) {next : FullSnapshot} (isLoose : mode.loose = true)
      (intent : next.runIntent = c.snapshot.runIntent) :
      Work mode ports c { c with snapshot := next }
  | move (c : Controller) (isLoose : mode.loose = true)
      (machines : SortedMap ReceiverId ReceiverMachine) : Work mode ports c { c with machines }
  | join (c : Controller) (isLoose : mode.loose = true) (primary : Option ReceiverId)
      (active : Finset ReceiverId) : Work mode ports c { c with primary, active }

variable {mode : Mode} {ports : Ports}

/-! ## Courses -/

/-- The edits a mode leaves room for. -/
def Mode.scope (mode : Mode) (ports : Ports) : Scope where
  selects := mode.loose
  updates := mode.loose
  joins := mode.loose
  wakes := mode.wakes
  browses := mode.browses
  restarts now := now = ports.now

omit [Lowercase] in
theorem plain_of_isNote {em : Emission} (h : em.isNote = true) : em.plain = true := by
  cases em with
  | publish | request | confirm => cases h
  | captureControl control => cases control <;> first | rfl | cases h
  | _ => rfl

variable (c : Controller)

theorem outcomes_work (outs : CommandOutcomes) :
    Work mode ports c { c with snapshot := { c.snapshot with commandOutcomes := outs } } :=
  .view c rfl

theorem Course.work {c c' : Controller} {results : List (Nat × Option CommandFailure)}
    (h : Course (mode.scope ports) c results c') : Work mode ports c c' := by
  induction h with
  | refl c => exact .refl c
  | trans _ _ ihab ihbc => exact ihab.trans ihbc
  | aside => exact .aside rfl
  | note c plain => exact .emit c (plain_of_isNote plain)
  | publish c => exact .publish c
  | dull c same => exact .view c same.view
  | record c => exact outcomes_work c _
  | refuse c =>
    have hs : Work mode ports c
        { c with snapshot := { c.snapshot with persistence := .error } } := .view c rfl
    have hn := hs.trans (.emit _ (rfl : (Emission.persistenceNotice
      "saving device state failed; the change was not applied").plain = true))
    exact (hn.trans (outcomes_work _ _)).trans (.emit _ rfl)
  | answer c => exact .emit c rfl
  | disarm c => exact .disarm c
  | intent c _ intent => exact .intent c intent
  | adopt | attempt => exact .aside rfl
  | announce c _ same =>
    rcases same.view with hv | hl
    · exact .view c hv
    · exact .select c hl same.intent
  | calibrate c | unmark c => exact .aside rfl
  | stage c => exact .emit c rfl
  | settle c => exact .settle c
  | rows c _ same => exact .rows c same.view
  | drive c _ receiver soft =>
    rcases soft with hf | hl
    · exact .drive c receiver hf
    · exact .move c hl _
  | deadline => exact .aside rfl
  | restart c _ at_ =>
    rw [at_]
    exact .restart c
  | sight c _ browses inventory machines same =>
    exact .sight c browses inventory machines c.retry same
  | volume c => exact .emit c rfl
  | mint => exact .aside rfl
  | reconcile c _ _ params awake => exact .reconcile c params awake
  | close c _ _ deadline => exact .close c deadline
  | alarm c _ _ deadline => exact .alarm c deadline
  | wake c _ _ wakes => exact .wake c wakes
  | move c _ updates machines => exact .move c updates machines
  | count => exact .aside rfl
  | join c _ joins primary active => exact .join c joins primary active
  | raise => exact .aside rfl
  | phase c _ same seen =>
    rcases seen with hv | hl
    · exact .view c hv
    · exact .select c hl (congrArg Kept.runIntent same.kept)

/-- Every command, as long as it may change the selection or does not. -/
theorem Batch.allows_of_loose {cmd : ControllerCommand}
    (h : mode.loose = true ∨ Batch.selects cmd = false) :
    Batch.Allows (mode.scope ports) ports cmd := by
  refine ⟨fun _ _ _ => rfl, fun hs => ⟨rfl, ?_⟩, ?_⟩
  · exact h.resolve_right (by simp [hs])
  · cases cmd <;> simp [Batch.Permits, Mode.scope]

theorem Batch.execute_work (b : Batch) (e : ControllerEnvelope)
    (h : mode.loose = true ∨ Batch.selects e.command = false) :
    Work mode ports b.actor (b.execute ports e).actor := by
  obtain ⟨_, hc, -⟩ := Batch.execute_verdict rfl b e (Batch.allows_of_loose h)
  exact hc.work

/-! ## Passes -/

/-- Discovery saw a receiver, or lost one. -/
def browses : Event → Bool
  | .discovery (.receiver _ _) => true
  | _ => false

/-- The deadline of a resume. -/
def resumes : Event → Bool
  | .resumeSettled => true
  | _ => false

/-- Neither a batch nor an update of the session. -/
def isStrict : Event → Bool
  | .batch _ | .session _ => false
  | _ => true

theorem foldl_work (hl : mode.loose = true) : ∀ (envs : List ControllerEnvelope) (b : Batch),
      Work mode ports b.actor (envs.foldl (Batch.next ports) b).actor
  | [], b => .refl _
  | e :: rest, b => by
      refine Work.trans ?_ (foldl_work hl rest _)
      unfold Batch.next
      split
      · exact .refl _
      · exact Batch.execute_work b e (.inl hl)

theorem handle_work {ev : Event} (hb : mode.browses = true ∨ browses ev = false)
    (h : mode.loose = true ∨ isStrict ev = true)
    (hw : mode.wakes = true ∨ resumes ev = false) :
    Work mode ports c (c.handle ports ev) := by
  have he : ∀ ev, Admits (mode.scope ports) ports ev →
      Work mode ports c (c.handle ports ev) := fun ev h => (handle_course c h).work
  cases ev with
  | batch =>
    have hl := h.resolve_right (by simp [isStrict])
    exact (foldl_work hl _ { actor := c }).trans (Batch.settle_course rfl rfl rfl _).work
  | session =>
    have hl := h.resolve_right (by simp [isStrict])
    exact he _ ⟨rfl, rfl, hl, rfl, rfl, hl, rfl, rfl, rfl⟩
  | discovery upd =>
    refine he _ ?_
    cases upd with
    | receiver => exact ⟨rfl, hb.resolve_right (by simp [browses])⟩
    | started | failed => trivial
  | resumeSettled => exact he _ ⟨rfl, rfl, rfl, hw.resolve_right (by simp [resumes]), rfl⟩
  | capture | captureTelemetry | endpoints => exact he _ trivial
  | system => exact he _ ⟨rfl, rfl, rfl, rfl⟩
  | retryDue => exact he _ ⟨rfl, rfl, rfl⟩
  | autoConnectDue => exact he _ ⟨rfl, rfl, rfl, rfl⟩

/-- The actor at the start of a pass, with nothing sent yet. -/
def cleared : Controller := { c with out := [] }

/-- A pass is work from a clean slate, and nothing at all once the loop has
ended. -/
theorem step_work (inp : Ports × Event) : (c.finished = true ∨ c.crashed) ∧ c.step inp = (c, []) ∨
      ¬ (c.finished = true ∨ c.crashed) ∧ ∃ after,
        after = c.cleared.handle inp.1 inp.2 ∧ Work {} inp.1 c.cleared after ∧
        c.step inp = (after.cleared, after.out) := by
  by_cases hd : c.finished = true ∨ c.crashed
  · exact .inl ⟨hd, if_pos hd⟩
  · exact .inr ⟨hd, _, rfl, handle_work _ (.inl rfl) (.inl rfl) (.inl rfl), if_neg hd⟩

end Controller

end OpenAirCast.Backend
