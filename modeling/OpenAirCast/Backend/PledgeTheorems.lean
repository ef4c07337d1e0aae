/-
Backend.PledgeTheorems — an accepted calibration and the session
it waits for.

The controller keeps a book of pledges (`OpenAirCast.Lib.Pledge`): an
accepted calibration is the pledge, the requests are its reconciles, the mark
is `calibrationPendingGeneration`. `Still` is all of the controller that has
no part in it. `Bears` says that a piece of a pass is moves of the book, and
`step_moves` that a whole pass is, as long as a batch that accepts a
calibration also mints the generation for it (`prompt`). Without that the
mark is never set.
-/
import OpenAirCast.Backend.EdgeTheorems
import OpenAirCast.Lib.Pledge

namespace OpenAirCast.Backend

open List

open Pledge (Book Sight Move Honest built)

/-- What an emission shows of a pledge. -/
def Emission.sight : Emission → Option (Sight CalibrationProfile)
  | .calibration .pendingRestart => some .pledged
  | .calibration .applied => some .kept
  | .request (.reconcile params) => some (.carried params.generation params.calibration)
  | _ => none

namespace Controller

/-- What the pass has shown so far. -/
def sights (c : Controller) : List (Sight CalibrationProfile) := c.out.filterMap Emission.sight

/-- The book the controller keeps, in a batch that owes a generation or
not. -/
def book (c : Controller) (owes : Bool) : Book CalibrationProfile where
  counter := c.sessionGeneration
  setting := c.calibration
  mark := c.calibrationPendingGeneration
  owes

/-! ## What has no part in it -/

/-- The book stays and nothing is shown. -/
structure Still (c c' : Controller) : Prop where
  book : c'.book false = c.book false
  sights : c'.sights = c.sights

variable (c : Controller)

theorem Still.refl : Still c c := ⟨rfl, rfl⟩

theorem Still.trans {a b c : Controller} (ha : Still a b) (hb : Still b c) : Still a c :=
  ⟨hb.book.trans ha.book, hb.sights.trans ha.sights⟩

theorem still_ite {c a b : Controller} {p : Prop} [Decidable p] (ha : Still c a)
    (hb : Still c b) : Still c (if p then a else b) := by
  split
  · exact ha
  · exact hb

theorem emit_still {em : Emission} (h : em.sight = none) : Still c (c.emit em) := by
  refine ⟨rfl, ?_⟩
  simp [sights, emit, h]

variable [Lowercase]

/-- The book has no part in it: no generation is minted, announced or asked
for, and no calibration moves on. -/
abbrev aloof : Scope := { asks := false, pledges := false, raises := false }

theorem Course.still {c c' : Controller} {ress : List (Nat × Option CommandFailure)}
    (h : Course aloof c ress c') : Still c c' := by
  have hr : ∀ (c : Controller) outcomes, Still c
      { c with snapshot := { c.snapshot with commandOutcomes := outcomes } } :=
        fun _ _ => ⟨rfl, rfl⟩
  induction h with
  | trans _ _ ihab ihbc => exact ihab.trans ihbc
  | @note c em plain =>
    refine emit_still c ?_
    cases em with
    | publish | request | confirm => cases plain
    | calibration st => cases st <;> first | rfl | cases plain
    | _ => rfl
  | publish c =>
    obtain ⟨tone, _, ht, heq⟩ := c.publish_eq
    rw [heq]
    refine ⟨rfl, ?_⟩
    rcases ht with rfl | rfl <;> simp [sights, Emission.sight]
  | record c => exact hr c _
  | refuse c =>
    have hs : Still c { c with snapshot := { c.snapshot with persistence := .error } } := ⟨rfl, rfl⟩
    exact ((hs.trans (emit_still _ rfl)).trans (hr _ _)).trans (emit_still _ rfl)
  | answer c | volume c => exact emit_still c rfl
  | close c _ _ dline =>
    have hs : Still c { c with suspended := true, resumeAt := some dline } := ⟨rfl, rfl⟩
    exact (hs.trans (emit_still _ rfl)).trans (emit_still _ rfl)
  | wake c =>
    have hs : Still c { c with resumeAt := none, suspended := false } := ⟨rfl, rfl⟩
    exact (hs.trans (emit_still _ rfl)).trans (emit_still _ rfl)
  | calibrate c alters never | stage c never | unmark c never | mint c runs never
  | reconcile c runs never | raise c runs never => cases never
  | _ => exact ⟨rfl, rfl⟩

theorem maybePublish_still (next : FullSnapshot) : Still c (c.maybePublish next) := by
  have hs : Still c { c with snapshot := next } := ⟨rfl, rfl⟩
  exact still_ite (Still.refl c) (hs.trans (Course.publish _).still)

theorem amendRows_still (chg : FullSnapshot → FullSnapshot) : Still c (c.amendRows chg) :=
  (Course.settle c rfl).still.trans (maybePublish_still _ _)

/-! ## What has -/

/-- A piece of a pass is moves of the book inside the counter's width, and
keeps no pledge. -/
def Bears (owes owes' : Bool) (c c' : Controller) : Prop :=
  c.sessionGeneration ≤ U64_MAX → c'.sessionGeneration ≤ U64_MAX ∧
    ∃ new, c'.sights = c.sights ++ new ∧ .kept ∉ new ∧
      Pledge.Moves (c.book owes) new (c'.book owes')

section

omit [Lowercase]

theorem Still.bears {c c' : Controller} (h : Still c c') (owes : Bool) : Bears owes owes c c' := by
  have hc : c'.sessionGeneration = c.sessionGeneration := congrArg Book.counter h.book
  have hb : c'.book owes = c.book owes :=
    congrArg (fun book : Book CalibrationProfile => { book with owes }) h.book
  intro hw
  refine ⟨by rwa [hc], [], by simpa using h.sights, by simp, ?_⟩
  rw [hb]
  exact Pledge.Moves.refl _

theorem Bears.trans {first second third : Bool} {a b c : Controller} (ha : Bears first second a b)
    (hbc : Bears second third b c) : Bears first third a c := by
  intro hw
  obtain ⟨hb, new, hn, hk, hm⟩ := ha hw
  obtain ⟨hc, more, hr, hk', hm'⟩ := hbc hb
  refine ⟨hc, new ++ more, ?_, by simp [hk, hk'], hm.trans hm'⟩
  rw [hr, hn, append_assoc]

theorem sights_emit (c : Controller) (em : Emission) :
    (c.emit em).sights = c.sights ++ em.sight.toList := by
  cases h : em.sight <;> simp [sights, emit, h]

end

/-- One request goes out, with the profile of now. -/
theorem requestReconcile_shows (cause : ReconcileCause) (h : c.nothingToReconcile = false) :
    (c.requestReconcile cause).sights = c.sights ++
        [.carried (saturatingSucc U64_MAX c.sessionGeneration) c.calibration] ∧
      ∀ owes, (c.requestReconcile cause).book owes = { c.book owes with
        counter := saturatingSucc U64_MAX c.sessionGeneration
        mark := if cause = .calibrationChanged then
            some (saturatingSucc U64_MAX c.sessionGeneration)
          else c.calibrationPendingGeneration } := by
  unfold requestReconcile
  rw [if_neg (by simp [h])]
  dsimp only
  generalize (if c.snapshot.runIntent = .stopped then [] else c.desiredDevices) = devs
  have hr : Still (c.mintGeneration cause devs) _ := (rememberEffectiveVolumes_course _).still
  generalize (c.mintGeneration cause devs).rememberEffectiveVolumes = minted at hr
  have hg := congrArg Book.counter hr.book
  have hp := congrArg Book.setting hr.book
  have hm := congrArg Book.mark hr.book
  dsimp only [book] at hg hp hm
  constructor
  · rw [sights_emit, hr.sights]
    simp only [Emission.sight, reconcileParams, hg, hp]
    rfl
  · intro owes
    simp only [book, emit, hg, hp, hm]
    rfl

theorem requestReconcile_bears {cause : ReconcileCause}
    (hs : cause ≠ .calibrationChanged) : Bears false false c (c.requestReconcile cause) := by
  cases hn : c.nothingToReconcile with
  | true =>
    unfold requestReconcile
    rw [if_pos hn]
    exact (Still.refl c).bears false
  | false =>
    obtain ⟨hg, hb⟩ := requestReconcile_shows c cause hn
    have hc := congrArg Book.counter (hb false)
    dsimp only [book] at hc
    intro hw
    refine ⟨by rw [hc]; exact Nat.min_le_right _ _, _, hg, by simp, ?_⟩
    rw [hb, if_neg hs]
    exact (Move.carry (c.book false) _ rfl (le_min (Nat.le_succ _) hw)).moves

/-- The generation a batch owes is minted, and the mark set to it. -/
theorem requestReconcile_mints_pledge (hn : c.nothingToReconcile = false)
    (hr : c.sessionGeneration < U64_MAX) :
    Bears true false c (c.requestReconcile .calibrationChanged) := by
  obtain ⟨hs, hb⟩ := requestReconcile_shows c .calibrationChanged hn
  have hc := congrArg Book.counter (hb false)
  dsimp only [book] at hc
  intro _
  refine ⟨by rw [hc]; exact Nat.min_le_right _ _, _, hs, by simp, ?_⟩
  rw [hb, if_pos rfl]
  exact (Move.mint (c.book true) _ rfl (lt_min (Nat.lt_succ_self _) hr)).moves

/-! ### Platform edges and timers -/

section

variable (c : Controller) (now : Instant)

/-- A network change asks for a session of its own only in an awake, running
controller. -/
theorem applyNetworkChange_bears (localBindingChanged owes : Bool)
    (h : owes = true → localBindingChanged = true → c.suspended = true ∨
      c.snapshot.runIntent ≠ .running) :
    Bears owes owes c (c.applyNetworkChange now localBindingChanged) := by
  have he : Still c (c.emit .restartDiscovery) := emit_still c rfl
  unfold applyNetworkChange
  split
  · exact (Still.refl c).bears owes
  · rename_i ha
    dsimp only
    split
    · rename_i hm
      have hf : owes = false := by
        cases owes with
        | false => rfl
        | true =>
          rcases h rfl hm.1 with hs | hi
          · exact absurd hs ha
          · exact absurd hm.2 hi
      subst hf
      have hr := he.trans
        ((releaseBackoff_course rfl _).quiet (@Course.restart _ aloof _ rfl now trivial)).still
      exact (hr.bears false).trans (requestReconcile_bears _ (by simp))
    · exact he.bears owes

theorem handleSystemEvent_bears (ev : SystemEvent)
    (owes : Bool) (h : owes = true → ev = .networkChanged true → c.suspended = true ∨
      c.snapshot.runIntent ≠ .running) :
    Bears owes owes c (c.handleSystemEvent now ev) := by
  cases ev with
  | suspending => exact (beginSuspend_course rfl rfl c now).still.bears owes
  | resumed =>
    have hs : Still c (c.beginResume now) := ⟨rfl, rfl⟩
    exact hs.bears owes
  | networkChanged localBindingChanged =>
    refine applyNetworkChange_bears c now localBindingChanged owes ?_
    rintro ho rfl
    exact h ho rfl

theorem finishResume_bears : Bears false false c (c.finishResume now) := by
  unfold finishResume
  dsimp only
  split
  · exact (((wake_course rfl rfl rfl c).quiet (.restart _ rfl trivial)).still.bears false).trans
      (requestReconcile_bears _ (by simp))
  · exact (wake_course rfl rfl rfl c).still.bears false

theorem fireDueRetries_bears : Bears false false c (c.fireDueRetries now) := by
  unfold fireDueRetries
  cases (c.rejoinCandidates now).1 with
  | nil => exact (Still.refl c).bears false
  | cons =>
    exact ((((release_course rfl _ c).quiet (.restart _ rfl trivial)).quiet
      (republishRows_course rfl _)).still.bears false).trans (requestReconcile_bears _ (by simp))

theorem applyStartupAutoConnect_bears : Bears false false c (c.applyStartupAutoConnect now) := by
  unfold applyStartupAutoConnect
  cases c.startupAutoConnectUntil with
  | none => exact (Still.refl c).bears false
  | some =>
    dsimp only
    split
    · exact (Still.refl c).bears false
    · split
      · exact (Course.disarm c rfl).still.bears false
      · split
        · exact (((Course.disarm c rfl).quiet (startRunning_course rfl _)).still.bears
            false).trans (requestReconcile_bears _ (by simp))
        · exact (Still.refl c).bears false

end

/-! ### Updates of the session -/

variable {generation : Nat}

omit [Lowercase] in
/-- The supervisor's own generations raise the counter. -/
theorem raise_bears (hw : generation ≤ U64_MAX) :
    Bears false false c { c with sessionGeneration := max c.sessionGeneration generation } := by
  intro hb
  exact ⟨max_le hb hw, [], (append_nil _).symm, by simp,
    (Move.raise (c.book false) _ (Nat.le_max_left _ _)).moves⟩

theorem applyStarting_bears (hw : generation ≤ U64_MAX) :
    Bears false false c (c.applyStarting generation) := by
  unfold applyStarting
  refine (raise_bears c hw).trans (Still.bears (Still.trans ?_ (amendRows_still _ _)) false)
  exact (Course.foldl (fun c _ => .drive c rfl _ (.inr rfl)) _ _).still

theorem applyRecovering_bears (rsn : RestartReason) (hw : generation ≤ U64_MAX) :
    Bears false false c (c.applyRecovering generation rsn) :=
  (raise_bears c hw).trans ((maybePublish_still _ _).bears false)

theorem applyMemberFailed_bears (ports : Ports) (generation : Nat)
    (recv : ReceiverId) (primary : Bool) (err : String) :
    Bears false false c (c.applyMemberFailed ports generation recv primary err) := by
  have hs : Still c { c with
      active := c.active.erase recv
      primary := if primary ∧ c.primary = some recv then none else c.primary } := ⟨rfl, rfl⟩
  have hr := fun chg => (hs.trans
    (@noteReceiverFailure_course _ _ ports rfl rfl rfl _ recv true err).still).trans
      (amendRows_still _ chg)
  unfold applyMemberFailed
  dsimp only
  split
  · exact (((hr _).trans (Course.restart _ rfl trivial).still).bears false).trans
      (requestReconcile_bears _ (by simp))
  · exact (hr _).bears false

/-- A live generation keeps the pledge that waits for it or an older one,
and only such a one. -/
theorem applyActive_shows (ports : Ports) (generation : Nat)
    (primary : ReceiverId) (mbrs : Finset ReceiverId) (fails : List MemberFailure) :
    let after := c.applyActive ports generation primary mbrs fails
    (∃ mark, c.calibrationPendingGeneration = some mark ∧ mark ≤ generation ∧
        after.sights = c.sights ++ [.kept] ∧
        after.book false = { c.book false with mark := none }) ∨
      ((∀ mark, c.calibrationPendingGeneration = some mark → generation < mark) ∧
        Still c after) := by
  intro after
  have ht : Still c { c with primary := some primary, active := mbrs } := ⟨rfl, rfl⟩
  have hf := ht.trans (forwardEffectiveVolumes_course rfl _).still
  have hj : ∀ c : Controller, Still c ((c.joinMembers ports primary mbrs
      fails).amendRows _) := fun c =>
    (joinMembers_course rfl rfl rfl c primary mbrs fails).still.trans (amendRows_still _
      (fun next => { next with session := { next.session with
        phase := derivePhase next.desiredMembers mbrs next.runIntent generation
        desired := next.desiredMembers
        active := mbrs
        failed := (fails.map (·.receiver)).toFinset
        primary := some primary
        audioFlow := if next.audioSource.state = .capturing then .live else .silenceBridged } }))
  have hm : { c with primary := some primary, active := mbrs
      }.forwardEffectiveVolumes.calibrationPendingGeneration = c.calibrationPendingGeneration :=
    congrArg Book.mark hf.book
  have ha : Still ({ c with primary := some primary, active := mbrs
      }.forwardEffectiveVolumes.settleCalibrationGeneration generation) after := hj _
  generalize { c with primary := some primary, active := mbrs }.forwardEffectiveVolumes =
    forwarded at hf hm ha
  unfold settleCalibrationGeneration at ha
  rw [hm] at ha
  cases hp : c.calibrationPendingGeneration with
  | none =>
    rw [hp] at ha
    exact .inr ⟨(fun mark hs => by cases hs), hf.trans ha⟩
  | some pend =>
    rw [hp] at ha
    dsimp only at ha
    split at ha
    · rename_i he
      refine .inr ⟨fun mark hs => ?_, hf.trans ha⟩
      obtain rfl : pend = mark := by simpa using hs
      exact he
    · rename_i hd
      refine .inl ⟨pend, rfl, Nat.not_lt.mp hd, ?_, ?_⟩
      · rw [ha.sights, sights_emit]
        exact congrArg (· ++ [Sight.kept]) hf.sights
      · rw [ha.book]
        exact congrArg (fun book : Book CalibrationProfile => { book with mark := none }) hf.book

/-! ## Batches -/

namespace Batch

/-- The command applies or resets the calibration, and is accepted. -/
def accepts (ports : Ports) (b : Batch) (e : ControllerEnvelope) : Bool :=
  match e.command with
  | .calibration command =>
    (calibrationOf command).any (fun (expected, profile) =>
      (calibrationError b.actor expected profile).isNone && ports.savesCalibration e.id)
  | _ => false

/-- The command asks for a session of its own, before the batch does. -/
def rebinds (b : Batch) (e : ControllerEnvelope) : Bool :=
  match e.command with
  | .notifySystem (.networkChanged true) =>
    !b.actor.suspended && decide (b.actor.snapshot.runIntent = .running)
  | _ => false

/-- A calibration is accepted while none is waiting, no command behind it
asks for a session of its own, and the batch ends with a reconcile for it:
no other cause has taken its place, the gate is open, and there is room for
another generation. -/
def prompt (ports : Ports) : Batch → Bool → List ControllerEnvelope → Bool
  | b, owes, [] =>
    !owes || (b.reconcile == some .calibrationChanged && !b.actor.nothingToReconcile
      && decide (b.actor.sessionGeneration < U64_MAX))
  | b, owes, e :: rest =>
    if b.shutdown then prompt ports b owes rest
    else
      (!accepts ports b e || b.actor.calibrationPendingGeneration.isNone) && !(owes && rebinds b e)
        && prompt ports (b.execute ports e) (owes || accepts ports b e) rest

variable (b : Batch) (ports : Ports) (e : ControllerEnvelope)

/-- Only a calibration makes itself the cause of its batch. -/
theorem execute_cause (ho : ∀ calibration, e.command ≠ .calibration calibration)
    (h : (b.execute ports e).reconcile = some .calibrationChanged) :
    b.reconcile = some .calibrationChanged := by
  rcases execute_reconcile b ports e with hs | ⟨hcs, -⟩
  · rwa [hs] at h
  · rw [hcs] at h
    cases hc : e.command with
    | calibration calibration => exact absurd hc (ho calibration)
    | _ => simp [causeOf, hc] at h

variable (c : Controller)

/-- A calibration command is a pledge exactly when it is accepted. -/
theorem handleCalibration_shows (ports : Ports) (id : Nat) (cmd : CalibrationCommand) :
    let accepted := (calibrationOf cmd).any (fun (expd, prof) =>
      (calibrationError c expd prof).isNone && ports.savesCalibration id)
    let res := handleCalibration c ports id cmd
    res.2 = accepted ∧ (accepted = false → Still c res.1) ∧
      (accepted = true → ∃ prof, res.1.sights = c.sights ++ [.pledged] ∧
        ∀ owes, res.1.book owes = { c.book owes with setting := prof }) := by
  have hs : ∀ (expd : Nat) (prof : Option CalibrationProfile),
      let accepted := (calibrationError c expd prof).isNone && ports.savesCalibration id
      let res := storeCalibration c ports id expd prof
      res.2 = accepted ∧ (accepted = false → Still c res.1) ∧
        (accepted = true → ∃ prof, res.1.sights = c.sights ++ [.pledged] ∧
          ∀ owes, res.1.book owes = { c.book owes with setting := prof }) := by
    intro expd prof
    unfold storeCalibration
    cases calibrationError c expd prof with
    | some err =>
      exact ⟨rfl, fun _ => (fail_course c id err).still.trans (emit_still _ rfl),
        fun h => by cases h⟩
    | none =>
      cases ports.savesCalibration id with
      | true =>
        refine ⟨rfl, (fun h => by cases h), fun _ => ⟨prof.getD {}, ?_⟩⟩
        have hd := (complete_course { c.attemptSave ports id (.calibration prof) with
          calibration := prof.getD {} } id).still
        constructor
        · exact (sights_emit _ _).trans (congrArg (· ++ [Sight.pledged]) hd.sights)
        · intro owes
          exact congrArg (fun book : Book CalibrationProfile => { book with owes }) hd.book
      | false =>
        have ha : Still c (c.attemptSave ports id (.calibration prof)) := ⟨rfl, rfl⟩
        exact ⟨rfl, fun _ => ((ha.trans (Course.refuse _ id).still).trans
          (emit_still _ rfl)).trans (Course.publish _).still, fun h => by cases h⟩
  cases cmd with
  | applyCalibrationProfile expd prof => exact hs expd (some prof)
  | resetCalibration expd => exact hs expd none
  | runCalibrationClickTest =>
    have ht : Still c ((c.emit .injectPattern).complete id) :=
      (emit_still c rfl).trans (complete_course _ id).still
    intro accepted res
    show (handleCalibration c ports id .runCalibrationClickTest).2 = false ∧ _
    have hl : Still c (handleCalibration c ports id .runCalibrationClickTest).1 := by
      dsimp only [handleCalibration]
      split
      · exact (fail_course c id _).still
      · exact ht
    refine ⟨?_, fun _ => hl, fun h => absurd (show false = true from h) Bool.false_ne_true⟩
    dsimp only [handleCalibration]
    split <;> rfl

variable (owes : Bool)

theorem execute_bears (hf : accepts ports b e = true → b.actor.calibrationPendingGeneration = none)
    (hr : owes = true → rebinds b e = false) :
    Bears owes (owes || accepts ports b e) b.actor (b.execute ports e).actor := by
  rw [execute_eq]
  refine Bears.trans ?_ ((confirm_course rfl _ e).still.bears _)
  obtain ⟨id, cmd, conf⟩ := e
  have ho : accepts ports b ⟨id, cmd, conf⟩ = false →
      Permits aloof ports cmd → Bears owes (owes || accepts ports b
        ⟨id, cmd, conf⟩) b.actor (b.perform ports id cmd).actor := by
    intro ho hp
    rw [ho, Bool.or_false]
    obtain ⟨_, hcr, -⟩ := perform_verdict b ⟨id, cmd, conf⟩
      ⟨fun _ _ _ => rfl, fun _ => ⟨rfl, rfl⟩, hp⟩
    exact hcr.still.bears owes
  cases cmd with
  | calibration calibration =>
    obtain ⟨-, hj, ha⟩ := handleCalibration_shows b.actor ports id calibration
    cases hc : accepts ports b ⟨id, .calibration calibration, conf⟩ with
    | false =>
      rw [Bool.or_false]
      exact (hj hc).bears owes
    | true =>
      obtain ⟨prof, hs, hb⟩ := ha hc
      have hn := congrArg Book.counter (hb false)
      rw [Bool.or_true]
      intro hw
      refine ⟨hn.trans_le hw, _, hs, by simp, ?_⟩
      show Pledge.Moves _ _ ((handleCalibration b.actor ports id calibration).1.book true)
      rw [hb]
      exact (Move.pledge (b.actor.book owes) prof (hf hc)).moves
  | notifySystem ev =>
    have hh := handleSystemEvent_bears b.actor ports.now ev owes (by
      rintro hos rfl
      have hq := hr hos
      simp only [rebinds, Bool.and_eq_false_imp, Bool.not_eq_true', decide_eq_false_iff_not] at hq
      cases hl : b.actor.suspended with
      | true => exact .inl rfl
      | false => exact .inr (hq hl))
    have hcl : accepts ports b ⟨id, .notifySystem ev, conf⟩ = false := rfl
    rw [hcl, Bool.or_false]
    exact hh.trans ((complete_course _ id).still.bears owes)
  | setDesiredMembers | applyDesiredMembers | setRunIntent | setMasterVolume | setMuted
  | setReceiverLevel | setAudioEndpoint | setLatencyPreset | setAutoConnect | saveGroup
  | deleteGroup | activateSavedGroup | retryReceiver | runListeningTest | shutdown =>
    exact ho rfl (by simp [Permits])

/-- The cause of a batch is a calibration only if it accepted one. -/
theorem execute_owed (h : b.reconcile = some .calibrationChanged → owes = true) :
    (b.execute ports e).reconcile = some .calibrationChanged →
      (owes || accepts ports b e) = true := by
  intro hs
  by_cases hl : ∃ calibration, e.command = .calibration calibration
  · obtain ⟨calibration, hm⟩ := hl
    rw [execute_eq, (confirm_same _ e).1, hm] at hs
    unfold accepts
    rw [hm]
    dsimp only
    obtain ⟨ha, -, -⟩ := handleCalibration_shows b.actor ports e.id calibration
    rw [← ha]
    dsimp only [perform, calibrate] at hs
    split at hs
    · rename_i hr
      rw [hr, Bool.or_true]
    · rw [h hs, Bool.true_or]
  · have hb := execute_cause b ports e (fun calibration hc => hl ⟨calibration, hc⟩) hs
    rw [h hb, Bool.true_or]

theorem flushVolumes_still (chg : Bool) : Still c (flushVolumes c chg) := by
  have hc : Course aloof c [] (flushVolumes c chg) :=
    course_ite ((rememberEffectiveVolumes_course _).quiet (forwardEffectiveVolumes_course rfl _))
      (.refl c)
  exact hc.still

theorem flushVolumes_nothingToReconcile (chg : Bool) :
    (flushVolumes c chg).nothingToReconcile = c.nothingToReconcile := by
  unfold flushVolumes
  split
  · exact nothingToReconcile_congr ((rememberEffectiveVolumes_course c).quiet
      (forwardEffectiveVolumes_course rfl _)).idles
  · rfl

/-- The end of a batch mints the generation it owes, or one for another
cause. -/
theorem settle_bears (hp : prompt ports b owes [] = true)
    (hc : b.reconcile = some .calibrationChanged → owes = true) :
    Bears owes false b.actor b.settle := by
  have hv := flushVolumes_still b.actor b.volumesChanged
  have hn := flushVolumes_nothingToReconcile b.actor b.volumesChanged
  have hcn : (flushVolumes b.actor b.volumesChanged).sessionGeneration =
      b.actor.sessionGeneration := congrArg Book.counter hv.book
  have hr : Bears owes false (flushVolumes b.actor b.volumesChanged)
      (flushReconcile (flushVolumes b.actor b.volumesChanged) b.reconcile) := by
    cases owes with
    | true =>
      simp only [prompt, Bool.not_true, Bool.false_or, Bool.and_eq_true, beq_iff_eq,
        Bool.not_eq_true', decide_eq_true_eq] at hp
      obtain ⟨⟨hm, hop⟩, hrm⟩ := hp
      rw [hm]
      exact requestReconcile_mints_pledge _ (hn.trans hop) (hcn.trans_lt hrm)
    | false =>
      cases ha : b.reconcile with
      | none => exact (Still.refl _).bears false
      | some =>
        refine requestReconcile_bears _ ?_
        rintro rfl
        cases hc ha
  have he : ∀ c : Controller, Course aloof c []
      { publishOutcomes (answerStarts c b.groupStarts) with
        finished := (publishOutcomes (answerStarts c b.groupStarts)).finished || b.shutdown } :=
    fun c => ((answerStarts_course rfl c _).quiet (publishOutcomes_course _)).quiet (.aside _ ..)
  exact ((hv.bears owes).trans hr).trans ((he _).still.bears false)

/-- A prompt batch is moves of the book, from one that owes nothing to one
that owes nothing. -/
theorem fold_bears (order : List ControllerEnvelope) : ∀ (b : Batch) (owes : Bool),
    prompt ports b owes order = true →
    (b.reconcile = some .calibrationChanged → owes = true) →
    Bears owes false b.actor (order.foldl (Batch.next ports) b).settle := by
  induction order with
  | nil => exact fun b owes hp hc => settle_bears b ports owes hp hc
  | cons e _ ih =>
    intro b owes hp hc
    rw [foldl_cons]
    unfold prompt at hp
    unfold Batch.next
    split at hp
    · rw [if_pos ‹_›]
      exact ih b owes hp hc
    · rw [if_neg ‹_›]
      simp only [Bool.and_eq_true, Bool.or_eq_true, Bool.not_eq_true', Bool.and_eq_false_imp] at hp
      obtain ⟨⟨hf, hr⟩, hs⟩ := hp
      have ho := execute_bears b ports e owes (fun ha => by simpa [ha] using hf) hr
      exact ho.trans (ih _ _ hs (execute_owed b ports e owes hc))

end Batch

/-! ## Passes -/

/-- A generation is live once its update has been dealt with. -/
def liveOf : Event → List (Sight CalibrationProfile)
  | .session (.active generation _ _ _) => [.live generation]
  | _ => []

omit [Lowercase] in
theorem liveOf_other {ev : Event} (h : ∀ generation prim mbrs fails,
    ev ≠ .session (.active generation prim mbrs fails)) : liveOf ev = [] := by
  unfold liveOf
  split
  · exact absurd rfl (h _ _ _ _)
  · rfl

/-- What a pass of the loop shows. -/
def passSights (c : Controller) (input : Ports × Event) : List (Sight CalibrationProfile) :=
  if c.finished ∨ c.crashed then []
  else (c.step input).2.filterMap Emission.sight ++ liveOf input.2

/-- What a run shows, first to last. -/
def shown (c : Controller) : List (Ports × Event) → List (Sight CalibrationProfile)
  | [] => []
  | input :: rest => c.passSights input ++ shown (c.step input).1 rest

/-- A batch that accepts a calibration is prompt; the supervisor announces
its own generations inside the counter's width. -/
def timely (c : Controller) (input : Ports × Event) : Bool :=
  match input.2 with
  | .batch envelopes =>
    Batch.prompt input.1 { actor := c.cleared } false (PendingBatch.ofList envelopes).order
  | .session (.starting generation) | .session (.recovering generation _ _) =>
    decide (generation ≤ U64_MAX)
  | _ => true

theorem handle_bears (ports : Ports) (ev : Event)
    (ht : c.timely (ports, ev) = true) (ho : ∀ generation prim mbrs fails,
      ev ≠ .session (.active generation prim mbrs fails)) :
    Bears false false c.cleared (c.cleared.handle ports ev) := by
  have hq : Admits aloof ports ev → Bears false false c.cleared (c.cleared.handle ports ev) :=
    fun h => (handle_course c.cleared h).still.bears false
  cases ev with
  | batch => exact Batch.fold_bears ports _ { actor := c.cleared } false ht (fun h => by cases h)
  | discovery upd => exact hq (by cases upd <;> simp [Admits])
  | capture | captureTelemetry | endpoints => exact hq (by exact trivial)
  | session upd =>
    cases upd with
    | starting => exact applyStarting_bears _ (of_decide_eq_true ht)
    | active => exact absurd rfl (ho _ _ _ _)
    | memberControlFailed => exact (Still.refl _).bears false
    | memberFailed generation recv prim err =>
      exact applyMemberFailed_bears _ ports generation recv prim err
    | recovering _ rsn => exact applyRecovering_bears _ rsn (of_decide_eq_true ht)
    | stopped => exact (applyStopped_course rfl rfl rfl rfl _).still.bears false
  | system ev => exact handleSystemEvent_bears _ ports.now ev false (fun h => by cases h)
  | resumeSettled =>
    have hs : Still c.cleared (c.cleared.emit .scanEndpoints) := emit_still _ rfl
    dsimp only [handle]
    split
    · exact (hs.bears false).trans (finishResume_bears _ _)
    · exact (Still.refl _).bears false
  | retryDue => exact fireDueRetries_bears _ ports.now
  | autoConnectDue => exact applyStartupAutoConnect_bears _ ports.now

/-- What a pass does to the book, what it shows, and when it keeps a
pledge. -/
structure Passes (c : Controller) (input : Ports × Event) : Prop where
  width : (c.step input).1.sessionGeneration ≤ U64_MAX
  moves : Pledge.Moves (c.book false) (c.passSights input) ((c.step input).1.book false)
  kept : .kept ∈ c.passSights input → ∃ generation primary members failures,
    input.2 = .session (.active generation primary members failures) ∧
      ∃ mark, c.calibrationPendingGeneration = some mark ∧ mark ≤ generation

/-- A timely pass moves the book as it shows. -/
theorem step_passes (inp : Ports × Event) (ht : c.timely inp = true)
    (hw : c.sessionGeneration ≤ U64_MAX) : Passes c inp := by
  by_cases hd : c.finished = true ∨ c.crashed
  · have hs : c.step inp = (c, []) := if_pos hd
    have hh : c.passSights inp = [] := if_pos hd
    refine ⟨by rwa [hs], ?_, fun h => by rw [hh] at h; cases h⟩
    rw [hs, hh]
    exact Pledge.Moves.refl _
  · have hs : c.step inp = ((c.cleared.handle inp.1 inp.2).cleared,
        (c.cleared.handle inp.1 inp.2).out) := if_neg hd
    have hh : c.passSights inp = (c.cleared.handle inp.1 inp.2).sights ++ liveOf inp.2 := by
      unfold passSights
      rw [if_neg hd, hs]
      rfl
    by_cases ha : ∃ generation prim mbrs fails,
        inp.2 = .session (.active generation prim mbrs fails)
    · obtain ⟨ports, _⟩ := inp
      obtain ⟨generation, prim, mbrs, fails, rfl⟩ := ha
      have hc := applyActive_shows c.cleared ports generation prim mbrs fails
      dsimp only at hc hh hs
      rcases hc with ⟨mark, hm, hu, hg, hb⟩ | ⟨he, hl⟩
      · refine ⟨?_, ?_, fun _ => ⟨_, _, _, _, rfl, mark, hm, hu⟩⟩
        · rw [hs]
          exact (congrArg Book.counter hb).trans_le hw
        · rw [hh, hs]
          have hk := (Move.keep (c.book false) mark hm).moves
          have hv := (Move.report { c.book false with mark := none } generation
            (fun _ h => by cases h)).moves
          have hbt := hk.trans hv
          rw [show (c.cleared.handle ports (.session (.active generation prim mbrs
            fails))).sights = [.kept] from hg]
          rw [show (c.cleared.handle ports (.session (.active generation prim mbrs
            fails))).cleared.book false = { c.book false with mark := none } from hb]
          exact hbt
      · have hn : (c.cleared.handle ports (.session (.active generation prim mbrs
            fails))).sights = [] := hl.sights
        refine ⟨?_, ?_, ?_⟩
        · rw [hs]
          exact (congrArg Book.counter hl.book).trans_le hw
        · rw [hh, hn, hs]
          have hv := (Move.report (c.book false) generation he).moves
          rw [show (c.cleared.handle ports (.session (.active generation prim mbrs
            fails))).cleared.book false = c.book false from hl.book]
          exact hv
        · intro h
          rw [hh, hn] at h
          simp [liveOf] at h
    · have ho : ∀ generation prim mbrs fails,
          inp.2 ≠ .session (.active generation prim mbrs fails) :=
        fun _ _ _ _ h => ha ⟨_, _, _, _, h⟩
      obtain ⟨hf, new, hne, hk, hmo⟩ := handle_bears c inp.1 inp.2 ht ho hw
      have hall : c.passSights inp = new := by
        rw [hh, liveOf_other ho, append_nil, hne]
        rfl
      refine ⟨by rw [hs]; exact hf, ?_, fun h => absurd (hall ▸ h) hk⟩
      rw [hall, hs]
      exact hmo

/-! ## Runs -/

/-- So does a run of timely passes. -/
theorem run_moves (ins : List (Ports × Event)) : ∀ c : Controller,
    Mealy.Along step (fun c inp => c.timely inp = true) c ins →
    c.sessionGeneration ≤ U64_MAX →
    (run c ins).sessionGeneration ≤ U64_MAX ∧
      Pledge.Moves (c.book false) (c.shown ins) ((run c ins).book false) := by
  induction ins with
  | nil => exact fun c _ hw => ⟨hw, Pledge.Moves.refl _⟩
  | cons inp _ ih =>
    rintro c ⟨ht, ha⟩ hw
    have hp := step_passes c inp ht hw
    obtain ⟨hf, hm⟩ := ih (c.step inp).1 ha hp.width
    exact ⟨hf, hp.moves.trans hm⟩

/-- An accepted calibration of a run is closed. In what is shown of the run,
it is `pledged` where it was accepted, `carried` by each reconcile with its
generation and profile, `live` where an active generation has been dealt
with, and `kept` where it was applied. -/
structure Closes (c : Controller) (inputs : List (Ports × Event)) : Prop where
  honest : Honest (c.shown inputs)
  /-- A reconcile carries what was accepted last. -/
  carries : ∀ front since, c.shown inputs = front ++ since → .pledged ∉ since →
    ∀ generation profile, .carried generation profile ∈ since → profile = (run c inputs).calibration
  /-- Nothing is applied but with a session that was built from the current
  profile. -/
  never_early : ∀ before input, before ++ [input] <+: inputs →
    .kept ∈ (run c before).passSights input → ∃ generation primary members failures,
      input.2 = .session (.active generation primary members failures) ∧
        built (c.shown before) generation = some (run c before).calibration

/-- In every run whose passes are timely a calibration is closed: its mark is
then the generation that the next session is asked for with. -/
theorem calibration_closes (loaded : LoadedState) (calibration : CalibrationProfile)
    (launch : Instant) (inputs : List (Ports × Event))
    (htimely : Mealy.Along step (fun c input => c.timely input = true)
      (start loaded calibration launch) inputs) :
    Closes (start loaded calibration launch) inputs := by
  have hw : (start loaded calibration launch).sessionGeneration ≤ U64_MAX := Nat.zero_le _
  have he := (Mealy.along_iff_forall_start inputs).mp htimely
  have ha : ∀ before, before <+: inputs →
      Mealy.Along step (fun c input => c.timely input = true) (start loaded calibration launch)
        before := by
    intro before hb
    rw [Mealy.along_iff_forall_start]
    intro earlier input h
    exact he earlier input (h.trans hb)
  have hk : ∀ before, before <+: inputs →
      Pledge.Inv ((start loaded calibration launch).shown before)
          ((run (start loaded calibration launch) before).book false) ∧
        Honest ((start loaded calibration launch).shown before) :=
    fun before hb => (run_moves before _ (ha before hb) hw).2.honest rfl rfl
  obtain ⟨hi, hh⟩ := hk inputs (prefix_refl _)
  refine ⟨hh, hi.current, ?_⟩
  intro before input hp hkp
  have hb : before <+: inputs := (prefix_append before [input]).trans hp
  have hs := step_passes _ input (he before input hp) (run_moves before _ (ha before hb) hw).1
  obtain ⟨generation, prim, mbrs, fails, hc, mark, hm, hd⟩ := hs.kept hkp
  exact ⟨generation, prim, mbrs, fails, hc, (hk before hb).1.built mark generation hm hd⟩

/-- An alignment from an earlier launch. -/
def aligned : CalibrationProfile where
  requestedRelativeDelayNs := SortedMap.empty.insert office.id 1000000

/-- A receiver plays, its alignment is reset, and the session comes up
again. -/
def resetRun : List (Ports × Event) :=
  [({}, .discovery (.receiver 0 (.added office))),
   ({}, .batch [{ id := 1, command := .setDesiredMembers {office.id} },
     { id := 2, command := .setRunIntent .running }]),
   ({}, .session (.active 1 office.id {office.id} [])),
   ({}, .batch [{ id := 3, command := .calibration (.resetCalibration 1) }]),
   ({}, .session (.active 2 office.id {office.id} []))]

omit [Lowercase] in
theorem calibration_closes_resetRun :
    letI := asciiLowercase
    let launched := start LoadedState.defaults aligned 0
    Mealy.Along step (fun c inp => c.timely inp = true) launched resetRun ∧
      Closes launched resetRun := by
  let := asciiLowercase
  intro launched
  have ht : Mealy.Along step (fun c inp => c.timely inp = true) launched resetRun := by decide
  exact ⟨ht, calibration_closes LoadedState.defaults aligned 0 resetRun ht⟩

/-- The alignment is reset before the start. -/
def stoppedReset : List (Ports × Event) :=
  [({}, .discovery (.receiver 0 (.added office))),
   ({}, .batch [{ id := 1, command := .setDesiredMembers {office.id} },
     { id := 2, command := .calibration (.resetCalibration 1) }]),
   ({}, .batch [{ id := 3, command := .setRunIntent .running }]),
   ({}, .session (.active 1 office.id {office.id} []))]

omit [Lowercase] in
/-- The session that carries it is live, and nothing is ever applied. -/
theorem stopped_reset_never_applied :
    letI := asciiLowercase
    let launched := start LoadedState.defaults aligned 0
    launched.shown stoppedReset = [.pledged, .carried 1 {}, .live 1] ∧
      (run launched stoppedReset).calibration = {} ∧ ¬ Closes launched stoppedReset := by
  let := asciiLowercase
  intro launched
  have hs : launched.shown stoppedReset = [.pledged, .carried 1 {}, .live 1] := by decide
  refine ⟨hs, by decide, ?_⟩
  intro h
  have hk := h.honest.closed [] [.carried 1 {}] 1 [] hs ⟨{}, mem_cons_self⟩
  simp at hk

end Controller

end OpenAirCast.Backend
