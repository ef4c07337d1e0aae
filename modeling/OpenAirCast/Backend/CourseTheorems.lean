/-
Backend.CourseTheorems — the edits a pass of the controller is
made of.

`Course` lists them: an emission, a publication, a result on record, rows
rebuilt from the machines, one machine driven, a generation minted. Every
operation of the actor is a course of such edits, and that is proved here
once. A relation between two states of the actor is then one case for each
edit, and holds of every operation that stays in its `Scope`: the relations
differ in what they let a course do.

The index of a course is the results it puts on record. A command records
one, and `perform_course` says which of them is a failed write.
-/
import OpenAirCast.Backend.BatchTheorems
import OpenAirCast.Backend.ControllerLoop
import OpenAirCast.Backend.MachineTheorems

namespace OpenAirCast.Backend

open Option

/-- Nothing is published, asked or answered, no calibration moves on and the
gate of a suspend stays as it is. -/
def Emission.isNote : Emission → Bool
  | .publish _ | .request _ | .confirm _ _ | .calibration .pendingRestart | .calibration .applied
  | .captureControl .resume => false
  | .remember _ _ | .completed _ | .failed _ _ | .persistenceNotice _ | .discoveryNotice _
  | .calibration .failed | .capturePreference _ | .captureControl .requestEndpointChange
  | .captureControl .suspend | .captureControl .stop | .restartDiscovery | .scanEndpoints
  | .injectPattern | .cancelTone => true

def Lifecycle.isStreaming : Lifecycle → Bool
  | .streaming _ => true
  | _ => false

/-- The machine streams after it exactly when it did before. -/
def ReceiverMachine.Soft (op : ReceiverMachine → ReceiverMachine × Bool) : Prop :=
  ∀ machine, (op machine).1.state.isStreaming = machine.state.isStreaming

namespace Controller

variable {change : FullSnapshot → FullSnapshot} {now : Instant}

/-- What a snapshot says of receivers and of the session they are in. -/
structure View where
  receivers : List FullReceiver
  desiredMembers : Finset ReceiverId
  runIntent : RunIntent
  active : Finset ReceiverId
  primary : Option ReceiverId
  retryWaiting : Finset ReceiverId

def view (s : FullSnapshot) : View where
  receivers := s.receivers
  desiredMembers := s.desiredMembers
  runIntent := s.runIntent
  active := s.session.active
  primary := s.session.primary
  retryWaiting := s.session.retryWaiting

/-- The rows as the machines have them. -/
def showRows (c : Controller) (next : FullSnapshot) : Controller :=
  { c.settleMachines with snapshot := c.settleMachines.withRows next }

def closeGate (c : Controller) (deadline : Instant) : Controller :=
  ({ c with suspended := true, resumeAt := some deadline }.emit (.captureControl .suspend)).emit
    (.request .suspend)

def openGate (c : Controller) : Controller :=
  ({ c with resumeAt := none, suspended := false }.emit .restartDiscovery).emit
    (.captureControl .resume)

theorem soft_retryNow : ReceiverMachine.Soft (·.retryNow) := by
  intro mach
  unfold ReceiverMachine.retryNow ReceiverMachine.inBackoff
  cases hc : mach.state <;>
    simp [ReceiverMachine.transition, hc, Lifecycle.permitted, Lifecycle.isStreaming]

theorem syncOne_eq (now : Instant) (c : Controller) (id : ReceiverId) :
    ∃ machines rejoin, c.syncOne now id = { c with machines, rejoin } ∧
      rejoin.lastRejoinRestart = c.rejoin.lastRejoinRestart := by
  have hn : (if c.castable id then c.rejoin.noteDiscovered now id else
      c.rejoin.noteLost id).lastRejoinRestart = c.rejoin.lastRejoinRestart := by
    split
    · unfold RejoinRestartLimiter.noteDiscovered
      split <;> rfl
    · rfl
  unfold syncOne
  dsimp only
  split
  · exact ⟨c.machines, _, rfl, hn⟩
  · exact ⟨_, _, rfl, hn⟩

/-! ## Edits -/

/-- The session is in another state. -/
structure Lasting (s next : FullSnapshot) : Prop where
  kept : Controller.kept next = Controller.kept s
  outcomes : next.commandOutcomes = s.commandOutcomes
  revision : next.revision = s.revision
  persistence : next.persistence = s.persistence

/-- Nothing that a result here reads is another. -/
structure Dull (s next : FullSnapshot) : Prop extends Lasting s next where
  view : Controller.view next = Controller.view s
  phase : next.session.phase = s.session.phase

/-- What follows an announcement of the document: the receivers as they
were, unless the selection may change. -/
structure Announced (selects : Bool) (s next : FullSnapshot) : Prop where
  view : Controller.view next = Controller.view s ∨ selects = true
  intent : next.runIntent = s.runIntent
  outcomes : next.commandOutcomes = s.commandOutcomes
  revision : next.revision = s.revision
  persistence : next.persistence = s.persistence
  phase : next.session.phase = s.session.phase

/-- What a course may do beside presenting and recording. -/
structure Scope where
  /-- The document changes, or what mirrors it. -/
  stores : Bool := true
  /-- The launch start goes, or another calibration comes. -/
  alters : Bool := true
  starts : Bool := true
  selects : Bool := true
  /-- The machinery moves, or the supervisor is asked for something. -/
  runs : Bool := true
  asks : Bool := true
  pledges : Bool := true
  gates : Bool := true
  wakes : Bool := true
  browses : Bool := true
  answers : Bool := true
  /-- The supervisor has reported on machines. -/
  updates : Bool := true
  counts : Bool := true
  joins : Bool := true
  raises : Bool := true
  phases : Bool := true
  restarts : Instant → Prop := fun _ => True

/-- The writes that the store is asked for in a scope. -/
def Scope.writes (scope : Scope) : StoreWrite → Bool
  | .document _ => scope.stores
  | .calibration _ => scope.alters && scope.pledges

variable [Lowercase]

/-- The edits in a scope, with the results they put on record. -/
inductive Course (scope : Scope) :
    Controller → List (Nat × Option CommandFailure) → Controller → Prop
  | refl (c : Controller) : Course scope c [] c
  | trans {a b c : Controller} {front back : List (Nat × Option CommandFailure)}
      (ha : Course scope a front b) (hb : Course scope b back c) :
      Course scope a (front ++ back) c
  /-- Fields that no result here reads. -/
  | aside (c : Controller) (listeningTest : Option ListeningTestGuard)
      (lastListeningTestGeneration : Option Nat) (savedNames : SortedMap ReceiverId String)
      (discoveryFailures seenDiscoveryGeneration : Nat) (finished : Bool) :
      Course scope c [] { c with
        listeningTest, lastListeningTestGeneration, savedNames, discoveryFailures,
        seenDiscoveryGeneration, finished }
  | note (c : Controller) {emission : Emission} (plain : emission.isNote = true) :
      Course scope c [] (c.emit emission)
  | publish (c : Controller) : Course scope c [] c.publish
  | dull (c : Controller) {next : FullSnapshot} (same : Dull c.snapshot next) :
      Course scope c [] { c with snapshot := next }
  | record (c : Controller) (id : Nat) {error : Option CommandFailure}
      (written : error ≠ some .persistence) :
      Course scope c [(id, error)] { c with snapshot := { c.snapshot with
        commandOutcomes := c.snapshot.commandOutcomes.record id error } }
  | refuse (c : Controller) (id : Nat) :
      Course scope c [(id, some .persistence)] (c.notePersistenceFailure id)
  | answer (c : Controller) (answers : scope.answers) (receipt : ReceiptId)
      (confirmation : CommandConfirmation) :
      Course scope c [] (c.emit (.confirm receipt confirmation))
  -- the document
  | disarm (c : Controller) (alters : scope.alters) : Course scope c [] c.disarm
  | intent (c : Controller) (starts : scope.starts) (intent : RunIntent) :
      Course scope c [] { c with snapshot := { c.snapshot with runIntent := intent } }
  | adopt (c : Controller) (stores : scope.stores) (persisted : PersistedState) :
      Course scope c [] { c with persisted }
  | attempt (c : Controller) (ports : Ports) (id : Nat) (write : StoreWrite)
      (writes : scope.writes write) : Course scope c [] (c.attemptSave ports id write)
  | announce (c : Controller) (stores : scope.stores) {next : FullSnapshot}
      (same : Announced scope.selects c.snapshot next) :
      Course scope c [] { c with snapshot := next }
  | calibrate (c : Controller) (alters : scope.alters) (pledges : scope.pledges)
      (calibration : CalibrationProfile) : Course scope c [] { c with calibration }
  | stage (c : Controller) (pledges : scope.pledges) (state : CalibrationApplyState) :
      Course scope c [] (c.emit (.calibration state))
  | unmark (c : Controller) (pledges : scope.pledges) :
      Course scope c [] { c with calibrationPendingGeneration := none }
  -- the machinery
  | settle (c : Controller) (runs : scope.runs) : Course scope c [] c.settleMachines
  | rows (c : Controller) (runs : scope.runs) {next : FullSnapshot}
      (same : Dull c.snapshot next) : Course scope c [] (c.showRows next)
  | drive (c : Controller) (runs : scope.runs) (receiver : ReceiverId)
      {op : ReceiverMachine → ReceiverMachine × Bool}
      (soft : ReceiverMachine.Soft op ∨ scope.updates) :
      Course scope c [] (c.drive receiver op)
  | deadline (c : Controller) (runs : scope.runs) (receiver : ReceiverId) :
      Course scope c [] (c.clearDeadline receiver)
  | restart (c : Controller) (runs : scope.runs) {now : Instant} (at_ : scope.restarts now) :
      Course scope c [] (c.noteRestart now)
  /-- Discovery is heard; when the last restart was is not its business. -/
  | sight (c : Controller) (runs : scope.runs) (browses : scope.browses)
      (inventory : SortedMap ReceiverId InventoryEntry)
      (machines : SortedMap ReceiverId ReceiverMachine) {rejoin : RejoinRestartLimiter}
      (same : rejoin.lastRejoinRestart = c.rejoin.lastRejoinRestart) :
      Course scope c [] { c with inventory, machines, rejoin }
  | volume (c : Controller) (runs : scope.runs) (receiver : ReceiverId) (volume : F32) :
      Course scope c [] (c.emit (.request (.setVolume receiver volume)))
  | mint (c : Controller) (runs : scope.runs) (asks : scope.asks) (cause : ReconcileCause)
      (devices : List Device) : Course scope c [] (c.mintGeneration cause devices)
  | reconcile (c : Controller) (runs : scope.runs) (asks : scope.asks) (params : ReconcileParams)
      (awake : c.suspended = false) : Course scope c [] (c.emit (.request (.reconcile params)))
  | close (c : Controller) (runs : scope.runs) (gates : scope.gates) (deadline : Instant) :
      Course scope c [] (c.closeGate deadline)
  | alarm (c : Controller) (runs : scope.runs) (gates : scope.gates) (deadline : Instant) :
      Course scope c [] { c with resumeAt := some deadline }
  | wake (c : Controller) (runs : scope.runs) (gates : scope.gates) (wakes : scope.wakes) :
      Course scope c [] c.openGate
  -- the reports of the supervisor
  | move (c : Controller) (runs : scope.runs) (updates : scope.updates)
      (machines : SortedMap ReceiverId ReceiverMachine) : Course scope c [] { c with machines }
  | count (c : Controller) (runs : scope.runs) (counts : scope.counts) (retry : RetryState) :
      Course scope c [] { c with retry }
  | join (c : Controller) (runs : scope.runs) (joins : scope.joins) (primary : Option ReceiverId)
      (active : Finset ReceiverId) : Course scope c [] { c with primary, active }
  | raise (c : Controller) (runs : scope.runs) (raises : scope.raises) (generation : Nat) :
      Course scope c [] { c with sessionGeneration := max c.sessionGeneration generation }
  | phase (c : Controller) (phases : scope.phases) {next : FullSnapshot}
      (same : Lasting c.snapshot next)
      (seen : Controller.view next = Controller.view c.snapshot ∨ scope.updates) :
      Course scope c [] { c with snapshot := next }

variable {scope : Scope} {ports : Ports}

theorem Course.quiet {a b c : Controller} {results : List (Nat × Option CommandFailure)}
    (ha : Course scope a [] b) (hb : Course scope b results c) : Course scope a results c :=
  ha.trans hb

variable {results : List (Nat × Option CommandFailure)}

theorem Course.then {a b c : Controller}
    (ha : Course scope a results b) (hb : Course scope b [] c) : Course scope a results c := by
  have h := ha.trans hb
  rwa [List.append_nil] at h

theorem Course.foldl {α : Type} {f : Controller → α → Controller}
    (hf : ∀ c a, Course scope c [] (f c a)) :
    ∀ (l : List α) (c : Controller), Course scope c [] (l.foldl f c)
  | [], c => .refl c
  | a :: rest, c => (hf c a).quiet (Course.foldl hf rest (f c a))

theorem course_ite {c a b : Controller} {p : Prop}
    [Decidable p] (ha : Course scope c results a) (hb : Course scope c results b) :
    Course scope c results (if p then a else b) := by
  split
  · exact ha
  · exact hb

/-! ## Snapshots, rows and results -/

section

variable (c : Controller)

theorem maybePublish_course {next : FullSnapshot}
    (same : Dull c.snapshot next) : Course scope c [] (c.maybePublish next) :=
  course_ite (.refl c) ((Course.dull c same).quiet (.publish _))

theorem amend_course (same : ∀ s, Dull s (change s)) : Course scope c [] (c.amend change) :=
  maybePublish_course c (same _)

variable (id : Nat)

/-- A result is recorded and announced. -/
theorem outcomes_course {err : Option CommandFailure}
    (written : err ≠ some .persistence) {em : Emission} (plain : em.isNote = true) :
    Course scope c [(id, err)] ({ c with snapshot := { c.snapshot with
      commandOutcomes := c.snapshot.commandOutcomes.record id err } }.emit em) :=
  (Course.record c id written).then (.note _ plain)

theorem complete_course : Course scope c [(id, none)] (c.complete id) :=
  outcomes_course c id (by simp) rfl

theorem fail_course (msg : String) : Course scope c [(id, some .rejected)] (c.fail id msg) :=
  outcomes_course c id (by simp) rfl

theorem rememberEffectiveVolumes_course : Course scope c [] c.rememberEffectiveVolumes :=
  Course.foldl (fun c _ => .note c rfl) _ c

/-- Of the audio source only the preference is read. -/
theorem amendSource_course {change : FullAudioSource → FullAudioSource}
    (same : ∀ src, (change src).preference = src.preference) :
    Course scope c [] (c.amendSource change) := by
  refine amend_course c (fun s => ⟨⟨?_, rfl, rfl, rfl⟩, rfl, rfl⟩)
  show { kept s with preference := (change s.audioSource).preference } = kept s
  rw [same]
  rfl

theorem applyEndpoints_course (result : Option (List AudioEndpoint)) :
    Course scope c [] (c.applyEndpoints result) := by
  unfold applyEndpoints
  cases result with
  | none =>
    apply amendSource_course
    intro src
    rfl
  | some =>
    apply amendSource_course
    intro src
    rfl

theorem applyCaptureUpdate_course (upd : CaptureUpdate) :
    Course scope c [] (c.applyCaptureUpdate upd) := by
  unfold applyCaptureUpdate captureGone
  cases upd with
  | started | frameDrop =>
    apply amendSource_course
    intro src
    rfl
  | ready | recovering | stopped | suspended =>
    refine amend_course c ?_
    exact fun _ => ⟨⟨rfl, rfl, rfl, rfl⟩, rfl, rfl⟩

theorem applyCaptureTelemetry_course (peak : Option Nat) (dropped : Nat) :
    Course scope c [] (c.applyCaptureTelemetry peak dropped) := by
  apply amendSource_course
  intro src
  rfl

end

theorem startRunning_course (starts : scope.starts) (c : Controller) :
    Course scope c [] c.startRunning :=
  (Course.intent c starts .running).quiet (.publish _)

/-! ## The machinery -/

section Runs

variable (runs : scope.runs)

include runs

variable (c : Controller)

theorem amendRows_course (same : ∀ s, Dull s (change s)) : Course scope c [] (c.amendRows change) :=
  course_ite (.settle c runs) ((Course.rows c runs (same _)).quiet (.publish _))

theorem amendRows_phase (phases : scope.phases) (updates : scope.updates) (c : Controller)
    (same : ∀ s, Lasting s (change s)) :
    Course scope c [] (c.amendRows change) := by
  have hl := same c.snapshot
  have hr : Course scope c [] (c.showRows (change c.snapshot)) :=
    (Course.settle c runs).quiet (.phase c.settleMachines phases
      ⟨hl.kept, hl.outcomes, hl.revision, hl.persistence⟩ (.inr updates))
  exact course_ite (.settle c runs) (hr.quiet (.publish _))

theorem republishRows_course : Course scope c [] c.republishRows :=
  amendRows_course runs c (fun _ => ⟨⟨rfl, rfl, rfl, rfl⟩, rfl, rfl⟩)

theorem forwardEffectiveVolumes_course : Course scope c [] c.forwardEffectiveVolumes :=
  Course.foldl (fun c _ => .volume c runs _ _) _ c

theorem release_course (receivers : List ReceiverId) (c : Controller) :
    Course scope c [] (receivers.foldl (fun c recv =>
      (c.clearDeadline recv).drive recv (·.retryNow)) c) :=
  Course.foldl (fun c recv => (Course.deadline c runs recv).quiet
    (.drive _ runs recv (.inl soft_retryNow))) _ c

theorem releaseBackoff_course : Course scope c [] c.releaseBackoff :=
  release_course runs _ c

theorem refreshReceivers_course (browses : scope.browses) (c : Controller)
    (inventory : SortedMap ReceiverId InventoryEntry) (now : Instant) :
    Course scope c [] ({ c with inventory }.refreshReceivers now) := by
  have ho : ∀ (c : Controller) id, Course scope c [] (c.syncOne now id) := by
    intro c id
    obtain ⟨machines, _, heq, hs⟩ := syncOne_eq now c id
    rw [heq]
    exact .sight c runs browses c.inventory machines hs
  have ht : Course scope c [] { c with inventory } := .sight c runs browses inventory c.machines rfl
  exact ((ht.quiet (.settle _ runs)).quiet (Course.foldl ho _ _)).quiet
    (republishRows_course runs _)

/-! ## Sessions and platform edges -/

/-- A session is asked for only while the gate is open. -/
theorem requestReconcile_course (asks : scope.asks) (c : Controller) (cause : ReconcileCause) :
    Course scope c [] (c.requestReconcile cause) := by
  unfold requestReconcile
  split
  · exact .refl c
  · rename_i hs
    have ha : c.suspended = false := by
      simp only [nothingToReconcile, Bool.or_eq_true, not_or, Bool.not_eq_true] at hs
      exact hs.1
    generalize (if c.snapshot.runIntent = .stopped then [] else c.desiredDevices) = devices
    have hr := rememberEffectiveVolumes_frame (c.mintGeneration cause devices)
    have hu : (c.mintGeneration cause devices).rememberEffectiveVolumes.suspended = false :=
      (congrArg Engine.suspended hr.engine).trans ha
    exact ((Course.mint c runs asks cause devices).quiet (rememberEffectiveVolumes_course _)).quiet
      (.reconcile _ runs asks _ hu)

theorem beginSuspend_course (gates : scope.gates) (c : Controller) (now : Instant) :
    Course scope c [] (c.beginSuspend now) := by
  unfold beginSuspend
  exact (Course.close c runs gates (now + SUSPEND_WATCHDOG)).quiet
    (amend_course _ (fun _ => ⟨⟨rfl, rfl, rfl, rfl⟩, rfl, rfl⟩))

theorem wake_course (gates : scope.gates) (wakes : scope.wakes) (c : Controller) :
    Course scope c [] c.wake := by
  unfold wake
  exact ((Course.wake c runs gates wakes).quiet (releaseBackoff_course runs _)).quiet
    (amend_course _ (fun _ => ⟨⟨rfl, rfl, rfl, rfl⟩, rfl, rfl⟩))

section Asks

variable (asks : scope.asks)

include asks

theorem finishResume_course (gates : scope.gates) (wakes : scope.wakes) (c : Controller)
    (at_ : scope.restarts now) : Course scope c [] (c.finishResume now) :=
  course_ite (((wake_course runs gates wakes c).quiet (.restart _ runs at_)).quiet
    (requestReconcile_course runs asks _ _)) (wake_course runs gates wakes c)

theorem applyNetworkChange_course (c : Controller) (at_ : scope.restarts now)
    (localBindingChanged : Bool) :
    Course scope c [] (c.applyNetworkChange now localBindingChanged) := by
  have he : Course scope c [] (c.emit .restartDiscovery) := .note c rfl
  exact course_ite (.refl c) (course_ite (((he.quiet (releaseBackoff_course runs _)).quiet
    (.restart _ runs at_)).quiet (requestReconcile_course runs asks _ _)) he)

theorem handleSystemEvent_course (gates : scope.gates) (c : Controller)
    (at_ : scope.restarts now) (ev : SystemEvent) :
    Course scope c [] (c.handleSystemEvent now ev) := by
  cases ev with
  | suspending => exact beginSuspend_course runs gates c now
  | resumed => exact .alarm c runs gates _
  | networkChanged => exact applyNetworkChange_course runs asks c at_ _

theorem fireDueRetries_course (c : Controller) (at_ : scope.restarts now) :
    Course scope c [] (c.fireDueRetries now) := by
  unfold fireDueRetries
  split
  · exact .refl c
  · exact (((release_course runs _ c).quiet (.restart _ runs at_)).quiet
      (republishRows_course runs _)).quiet (requestReconcile_course runs asks _ _)

theorem applyStartupAutoConnect_course (alters : scope.alters) (starts : scope.starts)
    (c : Controller) (now : Instant) : Course scope c [] (c.applyStartupAutoConnect now) := by
  unfold applyStartupAutoConnect
  split
  · exact .refl c
  · exact course_ite (.refl c) (course_ite (.disarm c alters) (course_ite
      (((Course.disarm c alters).quiet (startRunning_course starts _)).quiet
        (requestReconcile_course runs asks _ _)) (.refl c)))

end Asks

/-! ## Session updates -/

omit runs in
theorem settleCalibrationGeneration_course (pledges : scope.pledges) (c : Controller)
    (gen : Nat) : Course scope c [] (c.settleCalibrationGeneration gen) := by
  unfold settleCalibrationGeneration
  cases c.calibrationPendingGeneration with
  | none => exact .refl c
  | some => exact course_ite (.refl c) ((Course.unmark c pledges).quiet (.stage _ pledges _))

section Updates

variable (updates : scope.updates)

include updates

theorem noteReceiverFailure_course (counts : scope.counts) (c : Controller)
    (recv : ReceiverId) (retryable : Bool) (err : String) :
    Course scope c [] (c.noteReceiverFailure ports recv retryable err) := by
  have hd : Course scope c [] (c.drive recv (·.fail retryable err)) :=
    .drive c runs recv (.inr updates)
  exact course_ite ((hd.quiet (.count _ runs counts _)).quiet
    (.drive _ runs recv (.inr updates))) hd

theorem joinMembers_course (counts : scope.counts) (c : Controller) (prim : ReceiverId)
    (mbrs : Finset ReceiverId) (fails : List MemberFailure) :
    Course scope c [] (c.joinMembers ports prim mbrs fails) := by
  have hs : Course scope c [] ((sortedIds mbrs).foldl (fun c recv =>
      c.drive recv (·.enterStreaming (roleIn mbrs prim recv))) c) :=
    Course.foldl (fun c recv => .drive c runs recv (.inr updates)) _ c
  have hf : ∀ (c : Controller) recv retryable error,
      Course scope c [] (c.noteReceiverFailure ports recv retryable error) :=
    noteReceiverFailure_course runs updates counts
  exact ((hs.quiet (Course.foldl (fun c _ => .count c runs counts _) _ _)).quiet
    (Course.foldl (fun c _ => hf c _ _ _) _ _)).quiet (Course.foldl (fun c _ => hf c _ _ _) _ _)

theorem applyStarting_course (raises : scope.raises) (phases : scope.phases) (c : Controller)
    (gen : Nat) : Course scope c [] (c.applyStarting gen) := by
  unfold applyStarting
  exact ((Course.raise c runs raises gen).quiet (Course.foldl
    (fun c recv => .drive c runs recv (.inr updates)) _ _)).quiet
      (amendRows_phase runs phases updates _ (fun _ => ⟨rfl, rfl, rfl, rfl⟩))

theorem applyActive_course (counts : scope.counts) (pledges : scope.pledges) (joins : scope.joins)
    (phases : scope.phases) (c : Controller) (gen : Nat) (primary : ReceiverId)
    (mbrs : Finset ReceiverId) (fails : List MemberFailure) :
    Course scope c [] (c.applyActive ports gen primary mbrs fails) := by
  have hs : Course scope c [] { c with primary := some primary, active := mbrs } :=
    .join c runs joins _ _
  unfold applyActive
  exact (((hs.quiet (forwardEffectiveVolumes_course runs _)).quiet
    (settleCalibrationGeneration_course pledges _ _)).quiet
      (joinMembers_course runs updates counts _ _ _ _)).quiet
        (amendRows_phase runs phases updates _ (fun _ => ⟨rfl, rfl, rfl, rfl⟩))

theorem applyMemberFailed_course (counts : scope.counts) (joins : scope.joins)
    (phases : scope.phases) (asks : scope.asks) (at_ : scope.restarts ports.now) (c : Controller)
    (gen : Nat) (recv : ReceiverId) (primary : Bool) (err : String) :
    Course scope c [] (c.applyMemberFailed ports gen recv primary err) := by
  have hs : Course scope c [] { c with
      active := c.active.erase recv
      primary := if primary ∧ c.primary = some recv then none else c.primary } :=
    .join c runs joins _ _
  have hf := hs.quiet (@noteReceiverFailure_course _ _ ports runs updates counts _ recv true err)
  unfold applyMemberFailed
  dsimp only
  generalize noteReceiverFailure _ ports recv true err = c' at hf
  have hr : ∀ change : FullSnapshot → FullSession, Course scope c' []
      (c'.amendRows (fun next => { next with session := change next })) :=
    fun _ => amendRows_phase runs phases updates _ (fun _ => ⟨rfl, rfl, rfl, rfl⟩)
  exact course_ite (((hf.quiet (hr _)).quiet (.restart _ runs at_)).quiet
    (requestReconcile_course runs asks _ _)) (hf.quiet (hr _))

omit updates in
theorem applyRecovering_course (raises : scope.raises) (phases : scope.phases) (c : Controller)
    (gen : Nat) (rsn : RestartReason) :
    Course scope c [] (c.applyRecovering gen rsn) := by
  have hs : Course scope { c with
      sessionGeneration := max c.sessionGeneration gen } [] { c with
        sessionGeneration := max c.sessionGeneration gen
        snapshot := { c.snapshot with session := { c.snapshot.session with
          phase := .restarting gen rsn } } } :=
    .phase _ phases ⟨rfl, rfl, rfl, rfl⟩ (.inl rfl)
  exact (Course.raise c runs raises gen).quiet (course_ite (.refl _) (hs.quiet (.publish _)))

theorem applyStopped_course (joins : scope.joins) (phases : scope.phases) (c : Controller) :
    Course scope c [] c.applyStopped := by
  have hs : Course scope c [] { c with active := ∅, primary := none } := .join c runs joins _ _
  have hl : ∀ (c : Controller) machines, Course scope c [] { c with machines } :=
    fun c _ => .move c runs updates _
  exact (hs.quiet (hl _ _)).quiet
    (amendRows_phase runs phases updates _ (fun _ => ⟨rfl, rfl, rfl, rfl⟩))

end Updates

end Runs

/-! ## What a command asks of the store -/

/-- The answer of the store to a transaction, if it is asked. -/
def asks (c : Controller) (ports : Ports) (id : Nat) (commit : DurableCommit) : Option Bool :=
  commit.mutatePersisted.bind (fun mutate =>
    match (mutate c.persisted).validate with
    | .error _ => none
    | .ok () => if mutate c.persisted == c.persisted then none else some (ports.saves id))

/-- The transaction a command gets to, on this actor. -/
def transaction (c : Controller) (ports : Ports) (id : Nat) :
    ControllerCommand → Option DurableCommit
  | .setDesiredMembers members | .applyDesiredMembers members =>
    if members ≠ c.persisted.lastDesiredMembers then some (Batch.membersCommit members) else none
  | .setMasterVolume value =>
    if value != c.persisted.masterVolume then some (Batch.volumeCommit value) else none
  | .setMuted muted => if muted ≠ c.persisted.muted then some (Batch.mutedCommit muted) else none
  | .setAudioEndpoint preference =>
    if preference ≠ c.persisted.audioEndpoint then some (Batch.endpointCommit preference)
    else none
  | .setLatencyPreset preset =>
    if preset.disabledReason = none ∧ preset ≠ c.persisted.latencyPreset then
      some (Batch.presetCommit preset)
    else none
  | .setAutoConnect enabled =>
    if enabled ≠ c.persisted.autoConnect then some (Batch.autoConnectCommit enabled) else none
  | .setReceiverLevel receiver level =>
    if c.persisted.receiverLevels.get receiver != some level then
      some (Batch.levelCommit receiver level)
    else none
  | .saveGroup groupId name members =>
    if Batch.saveGroupError c.persisted.savedGroups groupId (trim name) members = none then
      some (Batch.saveCommit ⟨groupId.getD (ports.generates id), trim name, members⟩)
    else none
  | .deleteGroup groupId =>
    if c.persisted.savedGroups.any (fun group => group.id = groupId) then
      some (Batch.deleteCommit groupId)
    else none
  | .activateSavedGroup groupId _ =>
    (c.persisted.savedGroups.find? (fun group => group.id = groupId)).map
      (Batch.activationCommit c.persisted)
  | .setRunIntent _ | .retryReceiver _ | .notifySystem _ | .calibration _ | .runListeningTest _
  | .shutdown => none

/-- The profile that a calibration command stores, with the selection it was
made for. -/
def calibrationOf : CalibrationCommand → Option (Nat × Option CalibrationProfile)
  | .applyCalibrationProfile expected profile => some (expected, some profile)
  | .resetCalibration expected => some (expected, none)
  | .runCalibrationClickTest => none

/-- The answer to the write that a command attempts, if it attempts one: the
document by `save`, the profile by `save_calibration`. -/
def attempt (c : Controller) (ports : Ports) (e : ControllerEnvelope) : Option Bool :=
  match e.command with
  | .calibration command =>
    (calibrationOf command).bind (fun (expected, profile) =>
      if Batch.calibrationError c expected profile = none then
        some (ports.savesCalibration e.id)
      else none)
  | command => (transaction c ports e.id command).bind (asks c ports e.id)

variable {commit : DurableCommit}

theorem attempt_of_transaction {c : Controller} {e : ControllerEnvelope}
    (h : transaction c ports e.id e.command = some commit) :
    attempt c ports e = asks c ports e.id commit := by
  obtain ⟨_, command, _⟩ := e
  cases command with
  | calibration => cases h
  | _ => simp only [attempt, h, bind_some]

/-! ## The durable transaction -/

section Stores

variable (stores : scope.stores)

include stores

theorem adoptDocument_course (c : Controller)
    (cand : PersistedState) (runs : commit.refreshRows = true → scope.runs)
    (same : ∀ s, Announced scope.selects s (commit.announce s)) :
    Course scope c [] (c.adoptDocument commit cand) := by
  have ha : ∀ (c : Controller) (levels : SortedMap ReceiverId Volume), Course scope c []
      { c with snapshot := commit.announce ({ c.snapshot with receiverLevels := levels }) } := by
    intro c levels
    have hs := same { c.snapshot with receiverLevels := levels }
    exact .announce c stores ⟨hs.view, hs.intent, hs.outcomes, hs.revision,
      hs.persistence, hs.phase⟩
  have hr : ∀ c : Controller, Course scope c []
      (if commit.refreshRows then c.showRows c.snapshot else c) := by
    intro c
    split
    · exact .rows c (runs ‹_›) ⟨⟨rfl, rfl, rfl, rfl⟩, rfl, rfl⟩
    · exact .refl c
  have hn : ∀ (c : Controller) (names : SortedMap ReceiverId String), Course scope c []
      (if commit.syncNames then { c with savedNames := names } else c) :=
    fun c names => course_ite (.aside c ..) (.refl c)
  have hd := (Course.adopt c stores cand).quiet (ha _ cand.receiverLevels)
  exact (hd.quiet (hr _)).quiet (hn _ _)

/-- A transaction records one result: none when the state is as intended,
and a failed write when the store was asked and refused. -/
theorem commitDurable_course (c : Controller) (id : Nat) {commit : DurableCommit}
    (runs : commit.refreshRows = true → scope.runs)
    (same : ∀ s, Announced scope.selects s (commit.announce s)) :
    ∃ error, Course scope c [(id, error)] (c.commitDurable ports id commit).1 ∧
      (error = none ↔ (c.commitDurable ports id commit).2.stateIsIntended = true) ∧
      (error = some .persistence ↔ asks c ports id commit = some false) := by
  unfold commitDurable asks
  cases commit.mutatePersisted with
  | none => exact ⟨none, complete_course c id, by simp [CommitOutcome.stateIsIntended], by simp⟩
  | some mutate =>
    dsimp only [bind_some]
    cases (mutate c.persisted).validate with
    | error => exact ⟨_, fail_course c id _, by simp [CommitOutcome.stateIsIntended], by simp⟩
    | ok =>
      dsimp only
      split
      · exact ⟨none, complete_course c id, by simp [CommitOutcome.stateIsIntended], by simp⟩
      · have ha := Course.attempt c ports id (.document (mutate c.persisted)) stores
        cases ports.saves id with
        | true =>
          exact ⟨none, ((ha.quiet (adoptDocument_course stores _ _ runs same)).quiet
            (complete_course _ id)).then (.publish _),
            by simp [CommitOutcome.stateIsIntended], by simp⟩
        | false =>
          exact ⟨_, (ha.quiet (Course.refuse _ id)).then (.publish _),
            by simp [CommitOutcome.stateIsIntended], by simp⟩

end Stores

namespace Batch

variable {command : ControllerCommand}

/-! ## Commands -/

/-- One result goes on record, a failed write exactly when the store refused. -/
def Verdict (scope : Scope) (c c' : Controller) (id : Nat) (answer : Option Bool) : Prop :=
  ∃ error, Course scope c [(id, error)] c' ∧ (error = some .persistence ↔ answer = some false)

variable {id : Nat}

theorem Verdict.then {a b c : Controller} {ans : Option Bool}
    (ha : Verdict scope a b id ans) (hb : Course scope b [] c) :
    Verdict scope a c id ans := by
  obtain ⟨err, hc, hr⟩ := ha
  exact ⟨err, hc.then hb, hr⟩

theorem Verdict.before {a b c : Controller} {id : Nat} {ans : Option Bool}
    (ha : Course scope a [] b) (hb : Verdict scope b c id ans) :
    Verdict scope a c id ans := by
  obtain ⟨err, hc, hr⟩ := hb
  exact ⟨err, ha.quiet hc, hr⟩

variable (c : Controller)

theorem complete_verdict (id : Nat) : Verdict scope c (c.complete id) id none :=
  ⟨none, complete_course c id, by simp⟩

theorem fail_verdict (id : Nat) (msg : String) : Verdict scope c (c.fail id msg) id none :=
  ⟨_, fail_course c id msg, by simp⟩

theorem confirm_course (answers : scope.answers) (b : Batch) (e : ControllerEnvelope) :
    Course scope b.actor [] (b.confirm e).actor := by
  have hv : Course scope b.actor [] (b.confirmVolume e.id e.confirmation).actor := by
    unfold confirmVolume
    cases e.confirmation with
    | none => exact .refl _
    | some =>
      cases b.outcome e.id with
      | none => exact .publish _
      | some => exact (Course.answer _ answers _ _).quiet (.publish _)
  have he : Course scope b.actor [] (b.confirmEdge e).actor := by
    unfold confirmEdge
    cases e.confirmation with
    | none => exact .refl _
    | some =>
      cases b.outcome e.id with
      | none => exact .publish _
      | some =>
        dsimp only
        split
        · exact .publish _
        · exact (Course.answer _ answers _ _).quiet (.publish _)
  unfold confirm
  split
  · exact hv
  · split
    · exact he
    · exact .refl _

/-- The commands that change the selection. -/
def selects : ControllerCommand → Bool
  | .setDesiredMembers _ | .applyDesiredMembers _ | .activateSavedGroup _ _ => true
  | .setRunIntent _ | .setMasterVolume _ | .setMuted _ | .setReceiverLevel _ _
  | .setAudioEndpoint _ | .setLatencyPreset _ | .setAutoConnect _ | .saveGroup _ _ _
  | .deleteGroup _ | .retryReceiver _ | .notifySystem _ | .calibration _ | .runListeningTest _
  | .shutdown => false

/-- What the command does beside its transaction is in scope. -/
def Permits (scope : Scope) (ports : Ports) : ControllerCommand → Prop
  | .setRunIntent _ | .activateSavedGroup _ _ => scope.alters ∧ scope.starts
  | .setAutoConnect enabled => enabled = false → scope.alters
  | .retryReceiver _ => scope.runs
  | .notifySystem _ => scope.runs ∧ scope.asks ∧ scope.gates ∧ scope.restarts ports.now
  | .calibration _ => scope.alters ∧ scope.pledges
  | .setDesiredMembers _ | .applyDesiredMembers _ | .setMasterVolume _ | .setMuted _
  | .setReceiverLevel _ _ | .setAudioEndpoint _ | .setLatencyPreset _ | .saveGroup _ _ _
  | .deleteGroup _ | .runListeningTest _ | .shutdown => True

/-- Nothing the command does is out of scope. -/
structure Allows (scope : Scope) (ports : Ports) (command : ControllerCommand) : Prop where
  stores : ∀ c id, (transaction c ports id command).isSome = true → scope.stores
  selects : selects command = true → scope.runs ∧ scope.selects
  permits : Permits scope ports command

/-- The actor on which the transaction of a command runs. -/
def prepared : ControllerCommand → Controller
  | .setAutoConnect false => c.disarm
  | _ => c

omit [Lowercase] in
theorem prepared_persisted (command : ControllerCommand) :
    (prepared c command).persisted = c.persisted := by
  unfold prepared
  split <;> rfl

theorem prepared_course
    (h : Permits scope ports command) : Course scope c [] (prepared c command) := by
  unfold prepared
  split
  · exact .disarm c (h rfl)
  · exact .refl c

/-- Only a selection is announced with the rows of its receivers. -/
theorem transaction_announced {c : Controller} (h : transaction c ports id command = some commit) :
    (commit.refreshRows = true → selects command = true) ∧
      ∀ s, Announced (selects command) s (commit.announce s) := by
  have hm : ∀ {p : Prop} [Decidable p] {made : DurableCommit},
      (if p then some made else none) = some commit → made.refreshRows = false →
        (∀ s, Announced false s (made.announce s)) → (commit.refreshRows = true → false = true) ∧
            ∀ s, Announced false s (commit.announce s) := by
    intro p _ made hd hr hs
    obtain ⟨-, rfl⟩ := ite_some_none_eq_some.mp hd
    exact ⟨fun h => hr.symm.trans h, hs⟩
  cases command with
  | setDesiredMembers mbrs | applyDesiredMembers mbrs =>
    obtain ⟨-, rfl⟩ := ite_some_none_eq_some.mp h
    exact ⟨fun _ => rfl, fun _ => ⟨.inr rfl, rfl, rfl, rfl, rfl, rfl⟩⟩
  | activateSavedGroup =>
    obtain ⟨_, -, rfl⟩ := map_eq_some_iff.mp h
    exact ⟨fun _ => rfl, fun _ => ⟨.inr rfl, rfl, rfl, rfl, rfl, rfl⟩⟩
  | setMasterVolume | setMuted | setAudioEndpoint | setLatencyPreset | setAutoConnect
  | setReceiverLevel | saveGroup | deleteGroup =>
    exact hm h rfl (fun _ => ⟨.inl rfl, rfl, rfl, rfl, rfl, rfl⟩)
  | setRunIntent | retryReceiver | notifySystem | calibration | runListeningTest | shutdown =>
    cases h

theorem finishActivation_course (alters : scope.alters) (starts : scope.starts)
    (result : Controller × CommitOutcome) (start : Bool) :
    Course scope result.1 [] (finishActivation result start).1 := by
  have hd : Course scope result.1 [] (declineStart result.1 start result.2.stateIsIntended) :=
    course_ite (.disarm _ alters) (.refl _)
  unfold finishActivation
  dsimp only
  split
  · exact hd.quiet (startRunning_course starts _)
  · exact hd

theorem perform_transaction {b : Batch} (h : Permits scope ports command)
    (ht : transaction b.actor ports id command = some commit) :
    Course scope ((prepared b.actor command).commitDurable ports id commit).1 []
      (b.perform ports id command).actor := by
  have hg : ∀ {p : Prop} [Decidable p] {made : DurableCommit} {c : Controller} {x y : Batch},
      (if p then some made else none) = some commit → x.actor = (c.commitDurable ports id made).1 →
          Course scope (c.commitDurable ports id commit).1 [] (if p then x else y).actor := by
    intro p _ made c x y hm hx
    obtain ⟨hp, rfl⟩ := ite_some_none_eq_some.mp hm
    rw [if_pos hp, hx]
    exact .refl _
  cases command with
  | setDesiredMembers | applyDesiredMembers | setMasterVolume | setMuted | setReceiverLevel
  | deleteGroup => exact hg ht rfl
  | setAudioEndpoint =>
    obtain ⟨hc, rfl⟩ := ite_some_none_eq_some.mp ht
    dsimp only [perform, setAudioEndpoint]
    rw [if_pos hc]
    exact course_ite (((Course.note _ rfl).quiet (.note _ rfl)).quiet (.note _ rfl)) (.refl _)
  | setLatencyPreset =>
    obtain ⟨⟨hr, hc⟩, rfl⟩ := ite_some_none_eq_some.mp ht
    dsimp only [perform, setLatencyPreset]
    rw [hr]
    rw [if_pos hc]
    exact .refl _
  | setAutoConnect enabled =>
    cases enabled with
    | true => exact hg ht rfl
    | false =>
      exact @hg _ _ _ b.actor.disarm
        (Batch.commit { b with actor := b.actor.disarm } ports id (autoConnectCommit false)) _
        ht rfl
  | saveGroup =>
    obtain ⟨hv, rfl⟩ := ite_some_none_eq_some.mp ht
    dsimp only [perform, handleSaveGroup]
    rw [hv]
    exact .refl _
  | activateSavedGroup =>
    obtain ⟨_, hgp, rfl⟩ := map_eq_some_iff.mp ht
    dsimp only [perform, activateSavedGroup, handleActivateGroup]
    rw [hgp]
    exact finishActivation_course h.1 h.2 _ _
  | setRunIntent | retryReceiver | notifySystem | calibration | runListeningTest | shutdown =>
    cases ht

/-! ### Commands without a transaction -/

theorem storeCalibration_verdict (alters : scope.alters) (pledges : scope.pledges)
    (c : Controller) (id expd : Nat) (prof : Option CalibrationProfile) :
    Verdict scope c (storeCalibration c ports id expd prof).1 id
      (if calibrationError c expd prof = none then some (ports.savesCalibration id)
        else none) := by
  unfold storeCalibration
  cases calibrationError c expd prof with
  | some err => exact (fail_verdict c id err).then (.note _ rfl)
  | none =>
    have ha : Course scope c [] (c.attemptSave ports id (.calibration prof)) :=
      .attempt c ports id _ (by simp [Scope.writes, alters, pledges])
    cases ports.savesCalibration id with
    | true =>
      exact ⟨none, ((ha.quiet (.calibrate _ alters pledges _)).quiet (complete_course _ id)).then
        (.stage _ pledges _), by simp⟩
    | false =>
      exact ⟨_, ((ha.quiet (Course.refuse _ id)).then (.note _ rfl)).then (.publish _), by simp⟩

theorem handleCalibration_verdict (alters : scope.alters) (pledges : scope.pledges)
    (c : Controller) (id : Nat) (command : CalibrationCommand) :
    Verdict scope c (handleCalibration c ports id command).1 id
      ((calibrationOf command).bind (fun (expd, prof) =>
        if calibrationError c expd prof = none then some (ports.savesCalibration id)
        else none)) := by
  cases command with
  | applyCalibrationProfile => exact storeCalibration_verdict alters pledges c id _ _
  | resetCalibration => exact storeCalibration_verdict alters pledges c id _ _
  | runCalibrationClickTest =>
    dsimp only [handleCalibration]
    split
    · exact fail_verdict c id _
    · exact (complete_verdict _ id).before (.note c rfl)

theorem setRunIntent_verdict (alters : scope.alters) (starts : scope.starts) (b : Batch)
    (id : Nat) (intent : RunIntent) :
    Verdict scope b.actor (b.setRunIntent id intent).actor id none := by
  unfold setRunIntent
  dsimp only
  split
  · exact ((complete_verdict _ id).before ((Course.disarm b.actor alters).quiet
      (.intent _ starts intent))).then (.publish _)
  · exact (complete_verdict _ id).before (.disarm b.actor alters)

variable (b : Batch)

theorem retryReceiver_verdict (runs : scope.runs) (b : Batch) (id : Nat) (recv : ReceiverId) :
    Verdict scope b.actor (b.retryReceiver id recv).actor id none := by
  have hf : Course scope b.actor [] { b.actor with
      retry := b.actor.retry.manualRetry recv } := .deadline b.actor runs recv
  exact (complete_verdict _ id).before ((hf.quiet
    (.drive _ runs recv (.inl soft_retryNow))).quiet (republishRows_course runs _))

theorem runListeningTest_verdict (id : Nat) (guard : ListeningTestGuard) :
    Verdict scope b.actor (b.runListeningTest ports id guard).actor id none := by
  unfold runListeningTest
  dsimp only
  split
  · exact fail_verdict _ _ _
  · split
    · have hs : Course scope b.actor [] { b.actor with
          lastListeningTestGeneration := some guard.generation
          listeningTest := some guard } := .aside _ ..
      exact (complete_verdict _ id).before hs
    · exact fail_verdict _ _ _

theorem shutDown_verdict (id : Nat) : Verdict scope b.actor (b.shutDown id).actor id none := by
  unfold shutDown
  cases b.actor.listeningTest with
  | none => exact complete_verdict _ _
  | some =>
    have hs : Course scope b.actor [] { b.actor with listeningTest := none } := .aside _ ..
    exact (complete_verdict _ id).before (hs.quiet (.note _ rfl))

theorem perform_other {b : Batch} : ∀ {e : ControllerEnvelope}, Permits scope ports e.command →
    transaction b.actor ports e.id e.command = none →
      Verdict scope b.actor (b.perform ports e.id e.command).actor e.id
        (attempt b.actor ports e) := by
  rintro ⟨id, command, _⟩ h hn
  have hs : ∀ {p : Prop} [Decidable p] {made : DurableCommit} {c : Controller} {x y : Batch},
      (if p then some made else none) = none → y.actor = c.complete id →
        Verdict scope c (if p then x else y).actor id none := by
    intro p _ made c x y hm hy
    have hp : ¬p := by simpa using hm
    rw [if_neg hp, hy]
    exact complete_verdict c id
  unfold attempt
  cases command with
  | setDesiredMembers | applyDesiredMembers | setMasterVolume | setMuted | setReceiverLevel
  | setAudioEndpoint | deleteGroup =>
    dsimp only
    rw [hn]
    exact hs hn rfl
  | setLatencyPreset preset =>
    dsimp only
    rw [hn]
    dsimp only [perform, setLatencyPreset]
    cases hr : preset.disabledReason with
    | some => exact fail_verdict _ _ _
    | none =>
      refine @hs _ _ (presetCommit preset) _ _ _ ?_ rfl
      simpa [transaction, hr] using hn
  | setAutoConnect enabled =>
    dsimp only
    rw [hn]
    cases enabled with
    | true => exact hs hn rfl
    | false =>
      exact (@hs _ _ _ b.actor.disarm _
        (Batch.complete { b with actor := b.actor.disarm } id) hn rfl).before
          (.disarm b.actor (h rfl))
  | saveGroup gid name mbrs =>
    dsimp only
    rw [hn]
    dsimp only [perform, handleSaveGroup]
    cases he : saveGroupError b.actor.persisted.savedGroups gid (trim name) mbrs with
    | some => exact fail_verdict _ _ _
    | none => simp [transaction, he] at hn
  | activateSavedGroup =>
    dsimp only
    rw [hn]
    dsimp only [perform, activateSavedGroup, handleActivateGroup]
    rw [map_eq_none_iff.mp hn]
    exact fail_verdict _ _ _
  | setRunIntent intent => exact setRunIntent_verdict h.1 h.2 b id intent
  | retryReceiver recv => exact retryReceiver_verdict h b id recv
  | notifySystem ev =>
    exact (complete_verdict _ id).before
      (handleSystemEvent_course h.1 h.2.1 h.2.2.1 b.actor h.2.2.2 ev)
  | calibration command => exact handleCalibration_verdict h.1 h.2 b.actor id command
  | runListeningTest guard => exact runListeningTest_verdict b id guard
  | shutdown => exact shutDown_verdict b id

/-- Every command records one result, before it is answered. -/
theorem perform_verdict (b : Batch) (e : ControllerEnvelope) (h : Allows scope ports e.command) :
    Verdict scope b.actor (b.perform ports e.id e.command).actor e.id
      (attempt b.actor ports e) := by
  cases ht : transaction b.actor ports e.id e.command with
  | none => exact perform_other h.permits ht
  | some commit =>
    obtain ⟨hr, hs⟩ := transaction_announced ht
    have ha : ∀ s, Announced scope.selects s (commit.announce s) := fun s =>
      { hs s with view := (hs s).view.imp_right (fun hl => (h.selects hl).2) }
    obtain ⟨err, hc, -, hf⟩ := @commitDurable_course _ _ ports
      (h.stores b.actor e.id (by simp [ht])) (prepared b.actor e.command) e.id commit
      (fun hrf => (h.selects (hr hrf)).1) ha
    refine ⟨err, ((prepared_course b.actor h.permits).quiet hc).then
      (perform_transaction h.permits ht), hf.trans ?_⟩
    unfold asks
    rw [prepared_persisted, attempt_of_transaction ht]
    rfl

theorem execute_verdict (answers : scope.answers) (b : Batch) (e : ControllerEnvelope)
    (h : Allows scope ports e.command) :
    Verdict scope b.actor (b.execute ports e).actor e.id (attempt b.actor ports e) := by
  rw [execute_eq]
  exact (perform_verdict b e h).then (confirm_course answers _ e)

/-! ## The end of a batch -/

theorem answerStarts_course (answers : scope.answers) (c : Controller)
    (starts : List ReceiptId) : Course scope c [] (answerStarts c starts) :=
  course_ite (.refl c)
    ((Course.foldl (fun c _ => .answer c answers _ _) starts c).quiet (.publish _))

theorem publishOutcomes_course : Course scope c [] (publishOutcomes c) :=
  course_ite (.publish c) (.refl c)

theorem settle_course (runs : scope.runs) (asks : scope.asks) (answers : scope.answers)
    (b : Batch) : Course scope b.actor [] b.settle := by
  have hv : Course scope b.actor [] (flushVolumes b.actor b.volumesChanged) :=
    course_ite ((rememberEffectiveVolumes_course _).quiet
      (forwardEffectiveVolumes_course runs _)) (.refl _)
  have hr : ∀ c : Controller, Course scope c [] (flushReconcile c b.reconcile) := by
    intro c
    cases b.reconcile with
    | none => exact .refl c
    | some cause => exact requestReconcile_course runs asks c cause
  have hf : ∀ (c : Controller) finished, Course scope c [] { c with finished } :=
    fun c _ => .aside c ..
  exact (((hv.quiet (hr _)).quiet (answerStarts_course answers _ _)).quiet
    (publishOutcomes_course _)).quiet (hf _ _)

end Batch

/-! ## Events -/

/-- Nothing the event does is out of scope. -/
def Admits (scope : Scope) (ports : Ports) : Event → Prop
  | .batch _ => False
  | .discovery (.receiver _ _) => scope.runs ∧ scope.browses
  | .discovery _ | .capture _ | .captureTelemetry _ _ | .endpoints _ => True
  | .session _ => scope.runs ∧ scope.asks ∧ scope.updates ∧ scope.counts ∧ scope.pledges ∧
      scope.joins ∧ scope.raises ∧ scope.phases ∧ scope.restarts ports.now
  | .system _ => scope.runs ∧ scope.asks ∧ scope.gates ∧ scope.restarts ports.now
  | .resumeSettled => scope.runs ∧ scope.asks ∧ scope.gates ∧ scope.wakes ∧ scope.restarts ports.now
  | .retryDue => scope.runs ∧ scope.asks ∧ scope.restarts ports.now
  | .autoConnectDue => scope.runs ∧ scope.asks ∧ scope.alters ∧ scope.starts

theorem applyDiscoveryUpdate_course (c : Controller) (upd : DiscoveryUpdate)
    (h : Admits scope ports (.discovery upd)) :
    Course scope c [] (c.applyDiscoveryUpdate ports upd) := by
  cases upd with
  | started gen =>
    have hs : Course scope c [] { c with
        seenDiscoveryGeneration := max gen c.seenDiscoveryGeneration } := .aside c ..
    unfold applyDiscoveryUpdate
    refine hs.quiet (amend_course _ ?_)
    exact fun _ => ⟨⟨rfl, rfl, rfl, rfl⟩, rfl, rfl⟩
  | receiver => exact course_ite (.refl c) (refreshReceivers_course h.1 h.2 c _ _)
  | failed =>
    have hs : Course scope c [] { c with
        discoveryFailures := saturatingSucc U32_MAX c.discoveryFailures } := .aside c ..
    refine course_ite (.refl c) (course_ite hs
      ((hs.quiet (maybePublish_course _ ?_)).quiet (.note _ rfl)))
    exact ⟨⟨rfl, rfl, rfl, rfl⟩, rfl, rfl⟩

theorem applySessionUpdate_course (c : Controller) (upd : SessionUpdate)
    (h : Admits scope ports (.session upd)) :
    Course scope c [] (c.applySessionUpdate ports upd) := by
  obtain ⟨runs, asks, updates, counts, pledges, joins, raises, phases, at_⟩ := h
  cases upd with
  | starting gen => exact applyStarting_course runs updates raises phases c gen
  | active gen prim =>
    exact applyActive_course runs updates counts pledges joins phases c gen prim _ _
  | memberControlFailed => exact .refl c
  | memberFailed _ _ prim =>
    exact applyMemberFailed_course runs updates counts joins phases asks at_ c _ _ prim _
  | recovering gen rsn => exact applyRecovering_course runs raises phases c gen rsn
  | stopped => exact applyStopped_course runs updates joins phases c

/-- Every event but a batch records nothing. -/
theorem handle_course (c : Controller) {ev : Event} (h : Admits scope ports ev) :
    Course scope c [] (c.handle ports ev) := by
  cases ev with
  | batch => cases h
  | discovery upd => exact applyDiscoveryUpdate_course c upd h
  | capture upd =>
    have ha : ∀ c : Controller, Course scope c [] (c.applyCaptureUpdate upd) :=
      fun c => applyCaptureUpdate_course c upd
    cases upd with
    | ready | recovering => exact (Course.note c rfl).quiet (ha _)
    | started | frameDrop | stopped | suspended => exact ha c
  | captureTelemetry peak dropped => exact applyCaptureTelemetry_course c peak dropped
  | endpoints result => exact applyEndpoints_course c result
  | session upd => exact applySessionUpdate_course c upd h
  | system ev => exact handleSystemEvent_course h.1 h.2.1 h.2.2.1 c h.2.2.2 ev
  | resumeSettled =>
    exact course_ite ((Course.note c rfl).quiet
      (finishResume_course h.1 h.2.1 h.2.2.1 h.2.2.2.1 _ h.2.2.2.2)) (.refl c)
  | retryDue => exact fireDueRetries_course h.1 h.2.1 c h.2.2
  | autoConnectDue => exact applyStartupAutoConnect_course h.1 h.2.1 h.2.2.1 h.2.2.2 c ports.now

end Controller

end OpenAirCast.Backend
