/-
Backend.AnswerTheorems — what the controller asks of the session
supervisor, event by event.

`Minted` says how the requests of an event number their reconciles. `Quiet`
is the other half: the event gives the controller no new reason to have a
session. Every event is one or the other (`handle_answers`): it sends a
reconcile, or it is quiet. The updates of a generation that comes up are
the exception (`Steady`): they ask nothing and put receivers into it.
-/
import OpenAirCast.Backend.LoopTheorems

namespace OpenAirCast.Backend

open List ReceiverMachine

namespace Controller

variable {apply : ReceiverMachine → ReceiverMachine × Bool}

/-- There is to be a session, and nothing keeps it from being built. -/
def wants (c : Controller) : Prop := c.snapshot.runIntent = .running ∧ c.suspended = false

/-! ## Requests -/

/-- Requests that take the generation counter from one value to another:
every reconcile carries the next generation, and nothing but volumes and
suspends stands between. -/
inductive Minted : Nat → List SessionRequest → Nat → Prop
  | nil (g : Nat) : Minted g [] g
  | level {g g' : Nat} {rest : List SessionRequest} (receiver : ReceiverId) (volume : F32)
      (later : Minted g rest g') : Minted g (.setVolume receiver volume :: rest) g'
  | suspend {g g' : Nat} {rest : List SessionRequest} (later : Minted g rest g') :
      Minted g (.suspend :: rest) g'
  | reconcile {g g' : Nat} {rest : List SessionRequest} (params : ReconcileParams)
      (next : params.generation = saturatingSucc U64_MAX g)
      (later : Minted params.generation rest g') : Minted g (.reconcile params :: rest) g'

theorem Minted.append {g' g'' : Nat} {more : List SessionRequest} (h' : Minted g' more g'') :
    ∀ {reqs : List SessionRequest} {g : Nat}, Minted g reqs g' → Minted g (reqs ++ more) g''
  | _, _, .nil _ => h'
  | _, _, .level receiver volume later => .level receiver volume (h'.append later)
  | _, _, .suspend later => .suspend (h'.append later)
  | _, _, .reconcile params next later => .reconcile params next (h'.append later)

/-- The requests of a stretch of work, with the machines in step after it
if they were before. -/
structure Sends (c c' : Controller) (new : List SessionRequest) : Prop where
  sent : c'.sent = c.sent ++ new
  minted : Minted c.sessionGeneration new c'.sessionGeneration
  mirrored : Mirrored c → Mirrored c'

theorem Sends.trans {a b c : Controller} {first second : List SessionRequest}
    (ha : Sends a b first) (hb : Sends b c second) : Sends a c (first ++ second) where
  sent := by rw [hb.sent, ha.sent, append_assoc]
  minted := Minted.append hb.minted ha.minted
  mirrored h := hb.mirrored (ha.mirrored h)

/-- Something was asked, or nothing. -/
def Asks (c c' : Controller) : Prop := ∃ new, Sends c c' new

theorem Asks.trans {a b c : Controller} (ha : Asks a b) (hb : Asks b c) : Asks a c := by
  obtain ⟨first, hf⟩ := ha
  obtain ⟨second, hs⟩ := hb
  exact ⟨first ++ second, hf.trans hs⟩

/-- No new reason for a session: it was wanted before, by receivers that
were in it before. -/
def Quiet (c c' : Controller) : Prop :=
  c'.wants → c.wants ∧ ∀ id ∈ c'.snapshot.desiredMembers, c'.owned id = true →
    id ∈ c.snapshot.desiredMembers ∧ c.owned id = true

theorem Quiet.trans {a b c : Controller} (hab : Quiet a b) (hbc : Quiet b c) : Quiet a c := by
  intro hc
  obtain ⟨hb, ho⟩ := hbc hc
  obtain ⟨ha, ho'⟩ := hab hb
  refine ⟨ha, fun id hi h => ?_⟩
  obtain ⟨hi', h'⟩ := ho id hi h
  exact ho' id hi' h'

theorem Quiet.of_not {c c' : Controller} (h : ¬ c'.wants) : Quiet c c' := fun hw => absurd hw h

/-- Nothing was asked and nothing is new. -/
structure Calm (c c' : Controller) : Prop where
  sends : Sends c c' []
  quiet : Quiet c c'

theorem Calm.trans {a b c : Controller} (ha : Calm a b) (hb : Calm b c) : Calm a c :=
  ⟨ha.sends.trans hb.sends, ha.quiet.trans hb.quiet⟩

/-- The part of the engine that machines and requests depend on. -/
structure Seat where
  inventory : SortedMap ReceiverId InventoryEntry
  machines : SortedMap ReceiverId ReceiverMachine
  onlineSince : SortedMap ReceiverId Instant
  suspended : Bool
  sessionGeneration : Nat

def seat (c : Controller) : Seat where
  inventory := c.inventory
  machines := c.machines
  onlineSince := c.rejoin.onlineSince
  suspended := c.suspended
  sessionGeneration := c.sessionGeneration

theorem castable_of_seat {c c' : Controller} (h : c'.seat = c.seat) : c'.castable = c.castable := by
  have hi : c'.inventory = c.inventory := congrArg Seat.inventory h
  unfold castable
  rw [hi]

theorem Mirrored.of_seat {c c' : Controller} (h : Mirrored c) (hs : c'.seat = c.seat) :
    Mirrored c' := by
  have hm : c'.machines = c.machines := congrArg Seat.machines hs
  have ho : c'.rejoin.onlineSince = c.rejoin.onlineSince := congrArg Seat.onlineSince hs
  refine ⟨?_, ?_, ?_⟩
  · unfold AllPlaced
    rw [hm]
    exact h.placed
  · rw [hm, castable_of_seat hs]
    exact h.offered
  · rw [ho, castable_of_seat hs]
    exact h.online

theorem Calm.of_eq {c c' : Controller} (hn : c'.sent = c.sent) (hs : c'.seat = c.seat)
    (hm : c'.snapshot.desiredMembers = c.snapshot.desiredMembers)
    (hint : c'.snapshot.runIntent = c.snapshot.runIntent) : Calm c c' := by
  have hg : c'.sessionGeneration = c.sessionGeneration := congrArg Seat.sessionGeneration hs
  have hu : c'.suspended = c.suspended := congrArg Seat.suspended hs
  have ho : c'.owned = c.owned := by
    have hc : c'.machines = c.machines := congrArg Seat.machines hs
    unfold owned
    rw [hc]
  refine ⟨⟨by rw [hn, append_nil], by rw [hg]; exact .nil _, fun h => h.of_seat hs⟩, ?_⟩
  intro hw
  unfold wants at hw ⊢
  rw [hint, hu] at hw
  rw [hm, ho]
  exact ⟨hw, fun id hi h => ⟨hi, h⟩⟩

theorem Frame.calm {c c' : Controller} (h : Frame c c') : Calm c c' := by
  have hk : kept c'.snapshot = kept c.snapshot := congrArg Ledger.kept h.ledger
  have hs : c'.seat = c.seat := congrArg (fun engine : Engine => (⟨engine.inventory,
    engine.machines, engine.rejoin.onlineSince, engine.suspended, engine.sessionGeneration⟩ : Seat))
    h.engine
  exact Calm.of_eq h.sent hs (congrArg Kept.desiredMembers hk) (congrArg Kept.runIntent hk)

variable (c : Controller)

theorem Calm.refl : Calm c c := (Frame.refl c).calm

theorem Course.calm [Lowercase] {c c' : Controller} {ress : List (Nat × Option CommandFailure)}
    (h : Course { runs := false, starts := false, selects := false } c ress c') :
    Calm c c' := by
  induction h with
  | trans _ _ ihab ihbc => exact ihab.trans ihbc
  | publish c => exact (publish_frame c).calm
  | refuse c id => exact (notePersistenceFailure_frame c id).calm
  | record c => exact (recorded_frame c _).calm
  | note c plain =>
    refine Frame.calm (emit_frame c ?_)
    cases ‹Emission› <;> first | rfl | cases plain
  | answer c | stage c => exact (emit_frame c rfl).calm
  | dull _ same =>
    exact Calm.of_eq rfl rfl (congrArg View.desiredMembers same.view)
      (congrArg View.runIntent same.view)
  | announce _ _ same =>
    have hv := same.view.resolve_right Bool.false_ne_true
    exact Calm.of_eq rfl rfl (congrArg View.desiredMembers hv) same.intent
  | phase _ _ same =>
    exact Calm.of_eq rfl rfl (congrArg Kept.desiredMembers same.kept)
      (congrArg Kept.runIntent same.kept)
  | intent c never | settle c never | rows c never | drive c never | deadline c never
  | restart c never | sight c never | volume c never | mint c never | reconcile c never
  | close c never | alarm c never | wake c never | move c never | count c never | join c never
  | raise _ never => cases never
  | _ => exact Calm.of_eq rfl rfl rfl rfl

/-- A reconcile went out, or everything stays as it was; a suspend among
the requests leaves a controller that wants nothing. -/
def Answers (c c' : Controller) : Prop :=
  ∃ new, Sends c c' new ∧ ((∃ params, .reconcile params ∈ new) ∨
    (Quiet c c' ∧ (.suspend ∈ new → ¬ c'.wants)))

theorem Answers.asks {c c' : Controller} (h : Answers c c') : Asks c c' := by
  obtain ⟨new, hs, -⟩ := h
  exact ⟨new, hs⟩

theorem Calm.answers {c c' : Controller} (h : Calm c c') : Answers c c' :=
  ⟨[], h.sends, .inr ⟨h.quiet, fun hs => by cases hs⟩⟩

theorem Calm.asks {c c' : Controller} (h : Calm c c') : Asks c c' := h.answers.asks

theorem Answers.trans {a b c : Controller} (ha : Answers a b) (hb : Answers b c) : Answers a c := by
  obtain ⟨first, hf, ha⟩ := ha
  obtain ⟨second, hc, hb⟩ := hb
  refine ⟨first ++ second, hf.trans hc, ?_⟩
  rcases ha with ⟨prms, hmem⟩ | ⟨hq, hs⟩
  · exact .inl ⟨prms, mem_append_left _ hmem⟩
  rcases hb with ⟨prms, hmem⟩ | ⟨hq', hs'⟩
  · exact .inl ⟨prms, mem_append_right _ hmem⟩
  · refine .inr ⟨hq.trans hq', fun hmem hw => ?_⟩
    rcases mem_append.mp hmem with hmem | hmem
    · exact hs hmem (hq' hw).1
    · exact hs' hmem hw

theorem Sends.answers_of_not {c c' : Controller} {new : List SessionRequest}
    (h : Sends c c' new) (hw : ¬ c'.wants) : Answers c c' :=
  ⟨new, h, .inr ⟨Quiet.of_not hw, fun _ => hw⟩⟩

theorem answers_ite {c a b : Controller} {p : Prop} [Decidable p] (ha : p → Answers c a)
    (hb : ¬ p → Answers c b) : Answers c (if p then a else b) := by
  split
  · exact ha ‹_›
  · exact hb ‹_›

/-! ## The machinery -/

theorem settleMachines_calm : Calm c c.settleMachines where
  sends := ⟨(append_nil _).symm, .nil _, settleMachines_mirrored⟩
  quiet hw := ⟨hw, fun _ hi h => ⟨hi, settleMachines_owned hi h⟩⟩

theorem drive_sends (recv : ReceiverId) (hs : ReceiverMachine.Sound (fun mach => (apply mach).1)) :
    Sends c (c.drive recv apply) [] :=
  ⟨(append_nil _).symm, .nil _, fun h => drive_mirrored h recv hs⟩

theorem drive_calm (recv : ReceiverId) (hs : ReceiverMachine.Sound (fun mach => (apply mach).1))
    (hl : ReceiverMachine.Lets (fun mach => (apply mach).1)) :
    Calm c (c.drive recv apply) :=
  ⟨drive_sends c recv hs, fun hw => ⟨hw, fun _ hi h => ⟨hi, drive_owned hl h⟩⟩⟩

theorem retry_calm (retry : RetryState) : Calm c { c with retry } :=
  Calm.of_eq rfl rfl rfl rfl

variable (now : Instant)

theorem noteRestart_calm : Calm c (c.noteRestart now) :=
  Calm.of_eq rfl rfl rfl rfl

variable {α : Type} {f : Controller → α → Controller}

theorem sends_foldl (hf : ∀ c a, Sends c (f c a) []) :
    ∀ (l : List α) (c : Controller), Sends c (l.foldl f c) []
  | [], c => (Calm.refl c).sends
  | a :: rest, c => (hf c a).trans (sends_foldl hf rest (f c a))

theorem releaseBackoff_sends : Sends c c.releaseBackoff [] :=
  sends_foldl (fun c recv => (retry_calm c _).sends.trans (drive_sends _ recv retryNow_sound)) _ c

/-! ### Volumes and reconciles -/

theorem setVolume_answers (recv : ReceiverId) (vol : F32) :
    Answers c (c.emit (.request (.setVolume recv vol))) := by
  refine ⟨[.setVolume recv vol], ⟨sent_emit c _, .level _ _ (.nil _), fun h => ?_⟩, .inr
    ⟨fun hw => ⟨hw, fun _ hi h => ⟨hi, h⟩⟩, by simp⟩⟩
  exact h.of_seat rfl

theorem answers_foldl (hf : ∀ c a, Answers c (f c a)) :
    ∀ (l : List α) (c : Controller), Answers c (l.foldl f c)
  | [], c => (Calm.refl c).answers
  | a :: rest, c => (hf c a).trans (answers_foldl hf rest (f c a))

theorem forwardEffectiveVolumes_answers : Answers c c.forwardEffectiveVolumes :=
  answers_foldl (fun c _ => setVolume_answers c _ _) _ c

theorem not_wants_of_nothing {c : Controller} (h : c.nothingToReconcile = true) : ¬ c.wants := by
  rintro ⟨hint, hs⟩
  simp [nothingToReconcile, hint, hs] at h

/-- `request_reconcile` sends one reconcile of the next generation, or has
nothing to reconcile and changes nothing. -/
theorem requestReconcile_cases (cause : ReconcileCause) :
    (¬ c.wants ∧ c.requestReconcile cause = c) ∨
      ∃ prms, Sends c (c.requestReconcile cause) [.reconcile prms] := by
  unfold requestReconcile
  split
  · exact .inl ⟨not_wants_of_nothing ‹_›, rfl⟩
  · right
    generalize (if c.snapshot.runIntent = .stopped then [] else c.desiredDevices) = devs
    have hf := rememberEffectiveVolumes_frame (c.mintGeneration cause devs)
    have hg : (c.mintGeneration cause devs).rememberEffectiveVolumes.sessionGeneration
        = saturatingSucc U64_MAX c.sessionGeneration :=
      congrArg Engine.sessionGeneration hf.engine
    refine ⟨(c.mintGeneration cause devs).rememberEffectiveVolumes.reconcileParams devs,
      ?_, ?_, fun h => ?_⟩
    · rw [sent_emit, hf.sent]
      rfl
    · refine .reconcile _ hg ?_
      exact .nil _
    · have hm : Mirrored (c.mintGeneration cause devs) := ⟨h.placed, h.offered, h.online⟩
      exact (hf.calm.sends.mirrored hm).of_seat rfl

/-- Whatever came before, after `request_reconcile` it is answered. -/
theorem Asks.requestReconcile {c c' : Controller} (h : Asks c c') (cause : ReconcileCause) :
    Answers c (c'.requestReconcile cause) := by
  obtain ⟨_, hs⟩ := h
  rcases requestReconcile_cases c' cause with ⟨hn, heq⟩ | ⟨prms, hr⟩
  · rw [heq]
    exact hs.answers_of_not hn
  · exact ⟨_, hs.trans hr, .inl ⟨prms, by simp⟩⟩

variable [Lowercase]

theorem startRunning_sends : Sends c c.startRunning [] := by
  have hs : Sends c { c with snapshot := { c.snapshot with runIntent := .running } } [] :=
    ⟨(append_nil _).symm, .nil _, fun h => h.of_seat rfl⟩
  exact hs.trans (publish_frame _).calm.sends

theorem amendRows_calm {chg : FullSnapshot → FullSnapshot}
    (h : Cosmetic chg) : Calm c (c.amendRows chg) :=
  (settleMachines_calm c).trans (amendRows_frame c h).calm

theorem republishRows_calm : Calm c c.republishRows :=
  amendRows_calm c ⟨fun _ => rfl, fun _ => rfl⟩

/-! ## Transactions -/

omit [Lowercase] in
theorem adoptDocument_sends (commit : DurableCommit)
    (cand : PersistedState) : Sends c (c.adoptDocument commit cand) [] := by
  have hs : (c.adoptDocument commit cand).sent = c.sent ∧
      (c.adoptDocument commit cand).sessionGeneration = c.sessionGeneration := by
    unfold adoptDocument
    split <;> split <;> exact ⟨rfl, rfl⟩
  refine ⟨by rw [hs.1, append_nil], by rw [hs.2]; exact .nil _, fun h => ?_⟩
  -- the rows are settled for the announced selection
  have hr := settleMachines_mirrored (@Mirrored.of_seat c { c with
    persisted := cand
    snapshot := commit.announce { c.snapshot with receiverLevels := cand.receiverLevels } } h rfl)
  unfold adoptDocument
  dsimp only
  split <;> split
  · exact hr.of_seat rfl
  · exact h.of_seat rfl
  · exact hr.of_seat rfl
  · exact h.of_seat rfl

theorem commitDurable_asks (ports : Ports) (id : Nat) (commit : DurableCommit) :
    Asks c (c.commitDurable ports id commit).1 := by
  cases hm : commit.mutatePersisted with
  | none =>
    unfold commitDurable
    rw [hm]
    exact (complete_frame c id).calm.asks
  | some =>
    rcases commitDurable_cases c ports id commit hm rfl with
      ⟨_, -, -, hf, -⟩ | ⟨-, -, -, hf, -⟩ | ⟨-, -, -, -, hf, -, -⟩
        | ⟨-, -, -, -, hf, -⟩
    · exact hf.calm.asks
    · exact hf.calm.asks
    · have ha : ∀ write, Sends c (c.attemptSave ports id write) [] :=
        fun _ => ⟨(append_nil _).symm, .nil _, fun h => h.of_seat rfl⟩
      exact ⟨_, (ha _).trans ((adoptDocument_sends _ commit _).trans hf.calm.sends)⟩
    · exact hf.calm.asks

/-- Without an applied change nothing happened. -/
theorem commitDurable_unapplied {c : Controller} {ports : Ports} {id : Nat}
    {commit : DurableCommit} (h : (c.commitDurable ports id commit).2.isApplied = false) :
    Calm c (c.commitDurable ports id commit).1 := by
  cases hm : commit.mutatePersisted with
  | none =>
    unfold commitDurable
    rw [hm]
    exact (complete_frame c id).calm
  | some =>
    rcases commitDurable_cases c ports id commit hm rfl with
      ⟨_, -, -, hf, -⟩ | ⟨-, -, -, hf, -⟩ | ⟨-, -, -, ha, -, -, -⟩
        | ⟨-, -, -, -, hf, -⟩
    · exact hf.calm
    · exact hf.calm
    · rw [ha] at h
      cases h
    · exact hf.calm

/-! ## Platform edges -/

theorem wake_sends : Sends c c.wake [] := by
  have hs : Sends c { c with resumeAt := none, suspended := false } [] :=
    ⟨(append_nil _).symm, .nil _, fun h => ⟨h.placed, h.offered, h.online⟩⟩
  have he : ∀ c : Controller, Sends c ((c.emit .restartDiscovery).emit
      (.captureControl .resume)) [] :=
    fun _ => ((emit_frame _ rfl).trans (emit_frame _ rfl)).calm.sends
  unfold wake
  exact ((hs.trans (he _)).trans (releaseBackoff_sends _)).trans (amendSession_frame _ _).calm.sends

theorem finishResume_answers : Answers c (c.finishResume now) := by
  unfold finishResume
  refine answers_ite (fun _ => ?_) (fun hs => ?_)
  · exact Asks.requestReconcile ⟨_, (wake_sends c).trans (noteRestart_calm _ now).sends⟩ _
  · exact (wake_sends c).answers_of_not (fun hw => hs hw.1)

theorem beginSuspend_answers : Answers c (c.beginSuspend now) := by
  have hs : Sends c { c with
      suspended := true
      resumeAt := some (now + SUSPEND_WATCHDOG) } [] :=
    ⟨(append_nil _).symm, .nil _, fun h => ⟨h.placed, h.offered, h.online⟩⟩
  have hu : ∀ c : Controller, Sends c (c.emit (.request .suspend)) [.suspend] :=
    fun c => ⟨sent_emit c _, .suspend (.nil _), fun h => h.of_seat rfl⟩
  unfold beginSuspend
  have hf := fun c : Controller => amendSession_frame c (fun session =>
    { session with resumePending := true, audioFlow := .silenceBridged })
  have hc : ∀ c : Controller, Sends c (c.emit (.captureControl .suspend)) [] :=
    fun _ => (emit_frame _ rfl).calm.sends
  have hn := ((hs.trans (hc _)).trans (hu _)).trans (hf _).calm.sends
  refine hn.answers_of_not (fun hw => ?_)
  have ha : true = false := ((hf _).calm.quiet hw).1.2
  cases ha

theorem handleSystemEvent_answers (ev : SystemEvent) : Answers c (c.handleSystemEvent now ev) := by
  cases ev with
  | suspending => exact beginSuspend_answers c now
  | resumed =>
    have hs : Calm c (c.beginResume now) := Calm.of_eq rfl rfl rfl rfl
    exact hs.answers
  | networkChanged =>
    have he : Calm c (c.emit .restartDiscovery) := (emit_frame c rfl).calm
    refine answers_ite (fun _ => (Calm.refl c).answers) (fun _ => answers_ite (fun _ => ?_)
      (fun _ => he.answers))
    exact Asks.requestReconcile ⟨_, (he.sends.trans (releaseBackoff_sends _)).trans
      (noteRestart_calm _ now).sends⟩ _

/-! ## Batches -/

namespace Batch

/-- A batch on its way: what it has asked, and, as long as it owes no
reconcile, that it is answered. -/
structure Owes (c : Controller) (b : Batch) : Prop where
  asks : Asks c b.actor
  answers : b.reconcile = none → Answers c b.actor

variable {c : Controller} {b : Batch}

section

variable (h : Owes c b)
include h

variable {b' : Batch}

section

omit [Lowercase]

theorem Owes.answered (ha : Answers b.actor b'.actor)
    (hr : b'.reconcile = b.reconcile) : Owes c b' :=
  ⟨h.asks.trans ha.asks, fun hn => (h.answers (hr.symm.trans hn)).trans ha⟩

theorem Owes.calm (hc : Calm b.actor b'.actor) (hr : b'.reconcile = b.reconcile) : Owes c b' :=
  h.answered hc.answers hr

theorem Owes.asking (ha : Asks b.actor b'.actor) (hr : b'.reconcile ≠ none) : Owes c b' :=
  ⟨h.asks.trans ha, fun hn => absurd hn hr⟩

end

theorem Owes.commitFor (ports : Ports) (id : Nat) (cause : ReconcileCause)
    (commit : DurableCommit) : Owes c (b.commitFor ports id cause commit) := by
  cases ha : (b.actor.commitDurable ports id commit).2.isApplied with
  | true =>
    refine h.asking (commitDurable_asks _ _ _ _) ?_
    simp [Batch.commitFor, ha]
  | false =>
    refine h.calm (commitDurable_unapplied ha) ?_
    simp [Batch.commitFor, ha]

omit [Lowercase] in
theorem Owes.complete (id : Nat) : Owes c (b.complete id) :=
  h.calm (complete_frame _ _).calm (by simp only [Batch.complete])

theorem Owes.applyMembers (ports : Ports) (id : Nat)
    (mbrs : Finset ReceiverId) : Owes c (b.applyMembers ports id mbrs) := by
  unfold Batch.applyMembers
  split
  · exact h.commitFor ports id .membership _
  · exact h.complete id

theorem Owes.setRunIntent (id : Nat) (intent : RunIntent) : Owes c (b.setRunIntent id intent) := by
  have hd : Calm b.actor b.actor.disarm := Calm.of_eq rfl rfl rfl rfl
  unfold Batch.setRunIntent
  dsimp only
  split
  · have hs : Sends b.actor { b.actor.disarm with
        snapshot := { b.actor.disarm.snapshot with runIntent := intent } } [] :=
      ⟨(append_nil _).symm, .nil _, fun hm => hm.of_seat rfl⟩
    refine h.asking ⟨_, hs.trans ((complete_frame _ _).trans (publish_frame _)).calm.sends⟩ ?_
    simp
  · exact h.calm (hd.trans (complete_frame _ _).calm) rfl

/-- A command that leaves machinery and selection alone. -/
theorem Owes.modest {ports : Ports} {id : Nat} {command : ControllerCommand}
    (ha : Allows { runs := false, starts := false, selects := false } ports command) :
    Owes c (b.perform ports id command) := by
  obtain ⟨_, hr, -⟩ := perform_verdict b ⟨id, command, none⟩ ha
  have hc : Calm b.actor (b.perform ports id command).actor := hr.calm
  rcases (b.perform_leaves ports id command).reconcile with hs | ⟨hcs, ho⟩
  · exact h.calm hc hs
  · exact h.asking hc.asks (hcs.trans_ne ho)

end

/-! ### Groups and calibration -/

omit [Lowercase] in
theorem declineStart_calm (c : Controller) (start intended : Bool) :
    Calm c (declineStart c start intended) := by
  unfold declineStart
  split
  · exact Calm.of_eq rfl rfl rfl rfl
  · exact Calm.refl c

theorem finishActivation_asks (r : Controller × CommitOutcome) (start : Bool) :
    Asks r.1 (finishActivation r start).1 := by
  unfold finishActivation
  dsimp only
  split
  · exact ⟨_, (declineStart_calm _ _ _).sends.trans (startRunning_sends _)⟩
  · exact (declineStart_calm _ _ _).asks

theorem finishActivation_calm {r : Controller × CommitOutcome} {start : Bool}
    (h : (finishActivation r start).2 = false) :
    Calm r.1 (finishActivation r start).1 ∧ r.2.isApplied = false := by
  unfold finishActivation at h ⊢
  dsimp only at h ⊢
  split at h
  · cases h
  · rename_i hs
    rw [if_neg hs]
    exact ⟨declineStart_calm _ _ _, h⟩

theorem handleActivateGroup_asks (c : Controller) (ports : Ports) (id : Nat)
    (gid : GroupId) (start : Bool) :
    Asks c (handleActivateGroup c ports id gid start).1 := by
  unfold handleActivateGroup
  split
  · exact (fail_frame _ _ _).calm.asks
  · exact (commitDurable_asks _ _ _ _).trans (finishActivation_asks _ _)

theorem handleActivateGroup_calm {ports : Ports} {id : Nat} {gid : GroupId} {start : Bool}
    (h : (handleActivateGroup c ports id gid start).2 = false) :
    Calm c (handleActivateGroup c ports id gid start).1 := by
  unfold handleActivateGroup at h ⊢
  split at h
  · exact (fail_frame _ _ _).calm
  · obtain ⟨hf, ha⟩ := finishActivation_calm h
    exact (commitDurable_unapplied ha).trans hf

theorem Owes.activateSavedGroup (h : Owes c b) (ports : Ports) (id : Nat) (gid : GroupId)
    (start : Bool) : Owes c (b.activateSavedGroup ports id gid start) := by
  cases ho : (handleActivateGroup b.actor ports id gid start).2 with
  | true =>
    refine h.asking (handleActivateGroup_asks _ ports id gid start) ?_
    cases hr : b.reconcile <;> simp [Batch.activateSavedGroup, ho, hr]
  | false =>
    refine h.calm (handleActivateGroup_calm ho) ?_
    simp [Batch.activateSavedGroup, ho]

theorem Owes.retryReceiver (h : Owes c b) (id : Nat) (recv : ReceiverId) :
    Owes c (b.retryReceiver id recv) := by
  refine h.asking ⟨_, (((retry_calm b.actor _).sends.trans
    (drive_sends _ recv retryNow_sound)).trans
      (republishRows_calm _).sends).trans (complete_frame _ id).calm.sends⟩ ?_
  simp [Batch.retryReceiver]

/-! ### The batch -/

theorem execute_owes (h : Owes c b) (ports : Ports) (e : ControllerEnvelope) :
    Owes c (b.execute ports e) := by
  have hp : Owes c (b.perform ports e.id e.command) := by
    obtain ⟨id, command, _⟩ := e
    cases command with
    | setDesiredMembers mbrs | applyDesiredMembers mbrs => exact h.applyMembers ports id mbrs
    | setRunIntent intent => exact h.setRunIntent id intent
    | activateSavedGroup gid start => exact h.activateSavedGroup ports id gid start
    | retryReceiver recv => exact h.retryReceiver id recv
    | notifySystem ev =>
      have he : Owes c { b with actor := b.actor.handleSystemEvent ports.now ev } :=
        h.answered (handleSystemEvent_answers _ _ _) rfl
      exact he.complete id
    | setMasterVolume | setMuted | setAudioEndpoint | setLatencyPreset | setAutoConnect
    | setReceiverLevel | saveGroup | deleteGroup | calibration | runListeningTest | shutdown =>
      exact h.modest ⟨fun _ _ _ => rfl, by simp [selects], by simp [Permits]⟩
  rw [execute_eq]
  exact hp.calm (confirm_course rfl _ e).calm (confirm_same _ e).1

theorem foldl_owes (ports : Ports) : ∀ (envs : List ControllerEnvelope) {b : Batch},
    Owes c b → Owes c (envs.foldl (Batch.next ports) b)
  | [], _, h => h
  | e :: rest, b, h => by
      refine foldl_owes ports rest ?_
      unfold Batch.next
      split
      · exact h
      · exact execute_owes h ports e

/-- At the end of a batch everything is answered. -/
theorem settle_answers (h : Owes c b) : Answers c b.settle := by
  have hv : Answers b.actor (flushVolumes b.actor b.volumesChanged) := by
    unfold flushVolumes
    refine answers_ite (fun _ => ?_) (fun _ => (Calm.refl _).answers)
    exact (rememberEffectiveVolumes_frame _).calm.answers.trans (forwardEffectiveVolumes_answers _)
  have hr : Answers c (flushReconcile (flushVolumes b.actor b.volumesChanged) b.reconcile) := by
    cases hc : b.reconcile with
    | none => exact (h.answers hc).trans hv
    | some cause => exact (h.asks.trans hv.asks).requestReconcile cause
  have he : ∀ (c : Controller) finished, Calm c { c with finished } :=
    fun _ _ => Calm.of_eq rfl rfl rfl rfl
  exact hr.trans ((((answerStarts_course rfl _ _).quiet (publishOutcomes_course _)).calm.trans
    (he _ _)).answers)

end Batch

theorem processBatch_answers (ports : Ports) (pend : PendingBatch) :
    Answers c (c.processBatch ports pend) :=
  Batch.settle_answers (Batch.foldl_owes ports pend.order
    ⟨(Calm.refl c).asks, fun _ => (Calm.refl c).answers⟩)

/-! ## Discovery -/

section

omit [Lowercase]

theorem Quiet.refl (c : Controller) : Quiet c c := fun hw => ⟨hw, fun _ hi h => ⟨hi, h⟩⟩

theorem syncOne_quiet (now : Instant) (c : Controller) (id : ReceiverId) :
    Quiet c (c.syncOne now id) ∧ (c.syncOne now id).sent = c.sent ∧
      (c.syncOne now id).sessionGeneration = c.sessionGeneration := by
  have hs : ∀ rejoin, Quiet c { c with rejoin } := fun _ hw => ⟨hw, fun _ hi h => ⟨hi, h⟩⟩
  have hd : ∀ (c : Controller) available, Quiet c (c.drive id (·.setServiceAvailable available)) :=
    fun _ available hw => ⟨hw, fun _ hi h =>
      ⟨hi, drive_owned (setServiceAvailable_lets available) h⟩⟩
  unfold syncOne
  dsimp only
  split
  · exact ⟨hs _, rfl, rfl⟩
  · exact ⟨(hs _).trans (hd _ _), rfl, rfl⟩

theorem syncOne_foldl_quiet (now : Instant) : ∀ (ids : List ReceiverId) (c : Controller),
    Quiet c (ids.foldl (syncOne now) c) ∧ (ids.foldl (syncOne now) c).sent = c.sent ∧
      (ids.foldl (syncOne now) c).sessionGeneration = c.sessionGeneration
  | [], c => ⟨Quiet.refl c, rfl, rfl⟩
  | id :: rest, c => by
      obtain ⟨hq, hs, hg⟩ := syncOne_quiet now c id
      obtain ⟨ihquiet, ihsent, ihgeneration⟩ := syncOne_foldl_quiet now rest (c.syncOne now id)
      exact ⟨hq.trans ihquiet, ihsent.trans hs, ihgeneration.trans hg⟩

end

theorem refreshReceivers_calm (inventory : SortedMap ReceiverId InventoryEntry)
    (now : Instant) : Calm c ({ c with inventory }.refreshReceivers now) := by
  have hs : Quiet c { c with inventory } := fun hw => ⟨hw, fun _ hi h => ⟨hi, h⟩⟩
  have hr := settleMachines_calm { c with inventory }
  obtain ⟨hq, hn, hg⟩ := syncOne_foldl_quiet now
    ({ c with inventory } : Controller).settleMachines.machines.keys
    ({ c with inventory } : Controller).settleMachines
  have hy : Calm c
      (({ c with inventory } : Controller).settleMachines.syncServiceAvailability now) := by
    refine ⟨⟨?_, ?_, fun h => ?_⟩, (hs.trans hr.quiet).trans hq⟩
    · rw [append_nil]
      exact hn
    · have hg' : (({ c with inventory } : Controller
          ).settleMachines.syncServiceAvailability now).sessionGeneration
            = c.sessionGeneration := hg
      rw [hg']
      exact .nil _
    · exact syncServiceAvailability_mirrored (c := { c with inventory }) h.placed now
  exact hy.trans (republishRows_calm _)

theorem applyDiscoveryUpdate_calm (ports : Ports) (upd : DiscoveryUpdate) :
    Calm c (c.applyDiscoveryUpdate ports upd) := by
  cases upd with
  | started | failed => exact (applyDiscoveryUpdate_course c _ (by exact trivial)).calm
  | receiver =>
    unfold applyDiscoveryUpdate
    dsimp only
    split
    · exact Calm.refl c
    · exact refreshReceivers_calm c _ _

/-! ## Session updates -/

/-- Nothing was asked and the wish for a session is no newer. -/
structure Moves (c c' : Controller) : Prop where
  sends : Sends c c' []
  wants : c'.wants → c.wants

section

omit [Lowercase]

theorem Calm.moves {c c' : Controller} (h : Calm c c') : Moves c c' :=
  ⟨h.sends, fun hw => (h.quiet hw).1⟩

theorem Moves.trans {a b c : Controller} (ha : Moves a b) (hb : Moves b c) : Moves a c :=
  ⟨ha.sends.trans hb.sends, fun hw => ha.wants (hb.wants hw)⟩

theorem Moves.foldl (hf : ∀ c a, Moves c (f c a)) :
    ∀ (l : List α) (c : Controller), Moves c (l.foldl f c)
  | [], c => (Calm.refl c).moves
  | a :: rest, c => (hf c a).trans (Moves.foldl hf rest (f c a))

theorem drive_moves (c : Controller) (recv : ReceiverId)
    (hs : ReceiverMachine.Sound (fun mach => (apply mach).1)) :
    Moves c (c.drive recv apply) :=
  ⟨drive_sends c recv hs, id⟩

end

/-- As `Answers`, but receivers may have been taken into a generation. -/
def Steady (c c' : Controller) : Prop :=
  ∃ new, Sends c c' new ∧ ((∃ params, .reconcile params ∈ new) ∨
    ((c'.wants → c.wants) ∧ (.suspend ∈ new → ¬ c'.wants)))

section

omit [Lowercase]

theorem Answers.steady {c c' : Controller} (h : Answers c c') : Steady c c' := by
  obtain ⟨new, hs, hc⟩ := h
  refine ⟨new, hs, hc.imp id (fun hq => ⟨fun hw => ?_, hq.2⟩)⟩
  exact (hq.1 hw).1

theorem Steady.moves {a b c : Controller} (ha : Steady a b) (hb : Moves b c) : Steady a c := by
  obtain ⟨new, hn, hc⟩ := ha
  refine ⟨new, ?_, hc.imp id (fun hs => ⟨fun hw => hs.1 (hb.wants hw),
    fun hmem hw => hs.2 hmem (hb.wants hw)⟩)⟩
  have ht := hn.trans hb.sends
  rwa [append_nil] at ht

theorem noteReceiverFailure_calm (c : Controller) (ports : Ports) (recv : ReceiverId)
    (retryable : Bool) (err : String) :
    Calm c (c.noteReceiverFailure ports recv retryable err) := by
  have hf := drive_calm c recv (fail_sound retryable err) (fail_lets retryable err)
  unfold noteReceiverFailure
  split
  · exact (hf.trans (retry_calm _ _)).trans (drive_calm _ recv (waitRetry_sound _ _)
        (waitRetry_lets _ _))
  · exact hf

end

theorem applyStarting_moves {c : Controller} {gen : Nat}
    (h : gen ≤ c.sessionGeneration) : Moves c (c.applyStarting gen) := by
  have hs : Calm c { c with sessionGeneration := max c.sessionGeneration gen } := by
    rw [max_eq_left h]
    exact Calm.refl c
  unfold applyStarting
  exact (hs.moves.trans (Moves.foldl (fun c recv => drive_moves c recv
    (beginGeneration_sound gen _)) _ _)).trans (amendRows_calm _ (session_cosmetic _)).moves

omit [Lowercase] in
theorem joinMembers_moves (ports : Ports) (prim : ReceiverId)
    (mbrs : Finset ReceiverId) (fails : List MemberFailure) :
    Moves c (c.joinMembers ports prim mbrs fails) := by
  unfold joinMembers
  exact (((Moves.foldl (fun c recv => drive_moves c recv (enterStreaming_sound _)) _ _).trans
      (Moves.foldl (fun c recv => (retry_calm c _).moves) _ _)).trans
        (Moves.foldl (fun c _ => (noteReceiverFailure_calm c ports _ _ _).moves) _ _)).trans
          (Moves.foldl (fun c _ => (noteReceiverFailure_calm c ports _ _ _).moves) _ _)

theorem applyActive_steady (ports : Ports) (gen : Nat)
    (primary : ReceiverId) (mbrs : Finset ReceiverId) (fails : List MemberFailure) :
    Steady c (c.applyActive ports gen primary mbrs fails) := by
  have hs : Calm c { c with primary := some primary, active := mbrs } := Calm.of_eq rfl rfl rfl rfl
  have hf := (hs.answers.trans (forwardEffectiveVolumes_answers _)).steady
  unfold applyActive
  exact hf.moves (((settleCalibrationGeneration_course rfl _ gen).calm.moves.trans
    (joinMembers_moves _ ports primary mbrs fails)).trans
      (amendRows_calm _ (session_cosmetic _)).moves)

theorem applyMemberFailed_answers (ports : Ports) (gen : Nat)
    (recv : ReceiverId) (primary : Bool) (err : String) :
    Answers c (c.applyMemberFailed ports gen recv primary err) := by
  have hs : Calm c { c with
      active := c.active.erase recv
      primary := if primary ∧ c.primary = some recv then none else c.primary } :=
    Calm.of_eq rfl rfl rfl rfl
  have hn := hs.trans (noteReceiverFailure_calm _ ports recv true err)
  have hr := fun chg => hn.trans (amendRows_calm _ (session_cosmetic chg))
  unfold applyMemberFailed
  refine answers_ite (fun _ => ?_) (fun _ => (hr _).answers)
  exact ((hr _).trans (noteRestart_calm _ _)).asks.requestReconcile _

theorem applyRecovering_calm {c : Controller} {gen : Nat}
    (h : gen ≤ c.sessionGeneration) (rsn : RestartReason) :
    Calm c (c.applyRecovering gen rsn) := by
  have hs : Calm c { c with sessionGeneration := max c.sessionGeneration gen } := by
    rw [max_eq_left h]
    exact Calm.refl c
  exact hs.trans (amendSession_frame _ _).calm

/-- Everyone has left the session. -/
def dismissed (c : Controller) : Controller :=
  { c with
    active := ∅
    primary := none
    machines := c.machines.mapValues (fun _ machine => machine.leaveSession) }

omit [Lowercase] in
theorem dismissed_not_owned (id : ReceiverId) : c.dismissed.owned id = false := by
  show ((c.machines.mapValues _).get id).any _ = false
  rw [SortedMap.get_mapValues]
  cases c.machines.get id with
  | none => rfl
  | some mach => exact leaveSession_not_owned mach

omit [Lowercase] in
theorem dismissed_mirrored {c : Controller} (h : Mirrored c) : Mirrored c.dismissed where
  placed := by
    intro id mach hg
    replace hg : (c.machines.mapValues (fun _ mach => mach.leaveSession)).get id = some mach := hg
    rw [SortedMap.get_mapValues] at hg
    obtain ⟨pre, hb, rfl⟩ := Option.map_eq_some_iff.mp hg
    exact leaveSession_sound.placed _ (h.placed id pre hb)
  offered := by
    intro id hc
    obtain ⟨mach, hg, ha⟩ := h.offered id hc
    refine ⟨mach.leaveSession, ?_, (leaveSession_sound.service _).trans ha⟩
    show (c.machines.mapValues _).get id = _
    rw [SortedMap.get_mapValues, hg]
    rfl
  online := h.online

/-- A stopped session holds nobody. -/
theorem applyStopped_calm : Calm c c.applyStopped ∧
    (c.applyStopped.wants → ∀ id ∈ c.applyStopped.snapshot.desiredMembers,
      c.applyStopped.owned id = false) := by
  have hr : Calm c.dismissed c.applyStopped := amendRows_calm _ (session_cosmetic _)
  have hs : Calm c c.dismissed := by
    refine ⟨⟨(append_nil _).symm, .nil _, dismissed_mirrored⟩, fun hw => ⟨hw, ?_⟩⟩
    intro id _ h
    rw [dismissed_not_owned] at h
    cases h
  refine ⟨hs.trans hr, fun hw id hi => ?_⟩
  cases ho : c.applyStopped.owned id with
  | false => rfl
  | true =>
    have hb := ((hr.quiet hw).2 id hi ho).2
    rw [dismissed_not_owned] at hb
    cases hb

/-! ## Timers -/

theorem fireDueRetries_answers : Answers c (c.fireDueRetries now) := by
  unfold fireDueRetries
  cases (c.rejoinCandidates now).1 with
  | nil => exact (Calm.refl c).answers
  | cons recv =>
    refine Asks.requestReconcile ⟨_, ((sends_foldl (fun c recv =>
      (retry_calm c _).sends.trans (drive_sends _ recv retryNow_sound)) _ c
      ).trans (noteRestart_calm _ now).sends).trans (republishRows_calm _).sends⟩ _

theorem applyStartupAutoConnect_answers : Answers c (c.applyStartupAutoConnect now) := by
  have hd : Calm c c.disarm := Calm.of_eq rfl rfl rfl rfl
  unfold applyStartupAutoConnect
  cases c.startupAutoConnectUntil with
  | none => exact (Calm.refl c).answers
  | some =>
    refine answers_ite (fun _ => (Calm.refl c).answers) (fun _ => answers_ite
      (fun _ => hd.answers) (fun _ => answers_ite (fun _ => ?_) (fun _ => (Calm.refl c).answers)))
    exact Asks.requestReconcile ⟨_, hd.sends.trans (startRunning_sends _)⟩ _

/-- Every event that does not come from the session sends a reconcile or
is quiet. -/
theorem handle_answers (ports : Ports) {ev : Event}
    (h : ∀ upd, ev ≠ .session upd) : Answers c (c.handle ports ev) := by
  cases ev with
  | batch => exact processBatch_answers c ports _
  | discovery upd => exact (applyDiscoveryUpdate_calm c ports upd).answers
  | capture | captureTelemetry | endpoints =>
    exact (handle_course c (by exact trivial)).calm.answers
  | session upd => exact absurd rfl (h upd)
  | system ev => exact handleSystemEvent_answers c ports.now ev
  | resumeSettled =>
    have hs : Frame c (c.emit .scanEndpoints) := emit_frame c rfl
    exact answers_ite (fun _ => hs.calm.answers.trans (finishResume_answers _ _))
      (fun _ => (Calm.refl c).answers)
  | retryDue => exact fireDueRetries_answers c ports.now
  | autoConnectDue => exact applyStartupAutoConnect_answers c ports.now

end Controller

end OpenAirCast.Backend
