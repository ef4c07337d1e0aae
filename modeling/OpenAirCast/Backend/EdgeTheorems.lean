/-
Backend.EdgeTheorems — what a session edge of an older generation
costs.

The controller compares no generations before it takes an edge, so an old one
costs what a new one does. `Idles` says that no reconcile went out and that
what decides about the next one stays; every edge but a primary's failure
idles (`keepsSession_iff`). Of the counters the ladder says what the failures
of one edge do to them (`attempts_spared_iff`), and
`session_edge_costs_nothing_iff` puts the two together.
-/
import OpenAirCast.Backend.LadderTheorems
import OpenAirCast.Backend.SupervisionTheorems

namespace OpenAirCast.Backend

open Ladder (Signal Rung)

namespace Controller

variable {c c' : Controller}

/-- The reconciles handed to the supervisor. -/
def reconciles (c : Controller) : List ReconcileParams := Supervisor.reconciles c.sent

/-- No reconcile went out, and what decides about the next one stays. -/
structure Idles (c c' : Controller) : Prop where
  reconciles : c'.reconciles = c.reconciles
  asked : c'.pendingDesired = c.pendingDesired
  suspended : c'.suspended = c.suspended
  intent : c'.snapshot.runIntent = c.snapshot.runIntent
  active : c'.active = c.active

theorem Idles.trans {a b c : Controller} (ha : Idles a b) (hb : Idles b c) : Idles a c :=
  ⟨hb.reconciles.trans ha.reconciles, hb.asked.trans ha.asked,
    hb.suspended.trans ha.suspended, hb.intent.trans ha.intent, hb.active.trans ha.active⟩

theorem Frame.idles (h : Frame c c') : Idles c c' where
  reconciles := congrArg Supervisor.reconciles h.sent
  asked := congrArg Engine.pendingDesired h.engine
  suspended := congrArg Engine.suspended h.engine
  intent := congrArg (fun ledger : Ledger => ledger.kept.runIntent) h.ledger
  active := congrArg Engine.active h.engine

theorem nothingToReconcile_congr (h : Idles c c') :
    c'.nothingToReconcile = c.nothingToReconcile := by
  unfold nothingToReconcile
  rw [h.asked, h.suspended, h.intent, h.active]

/-- `request_reconcile` keeps still exactly when there is nothing to
reconcile. -/
theorem requestReconcile_reconciles_iff (c : Controller) (cause : ReconcileCause) :
    (c.requestReconcile cause).reconciles = c.reconciles ↔ c.nothingToReconcile = true := by
  unfold requestReconcile
  split
  · exact iff_of_true rfl ‹_›
  · rename_i ho
    refine iff_of_false (fun hs => ?_) ho
    dsimp only at hs
    generalize (if c.snapshot.runIntent = .stopped then [] else c.desiredDevices) = devices at hs
    unfold reconciles at hs
    rw [sent_emit, (rememberEffectiveVolumes_frame _).sent] at hs
    have hlen := congrArg List.length hs
    simp [Supervisor.reconciles, requestOf, Supervisor.paramsOf, mintGeneration, sent] at hlen

variable [Lowercase]

/-- A course that asks for nothing, leaves the gate alone and takes nobody
into the session. -/
theorem Course.idles {ress : List (Nat × Option CommandFailure)}
    (h : Course { asks := false, gates := false, joins := false, starts := false } c ress c') :
    Idles c c' := by
  have he : ∀ (c : Controller) {em : Emission},
      (requestOf em).bind Supervisor.paramsOf = none → Idles c (c.emit em) := by
    intro c em hp
    refine ⟨?_, rfl, rfl, rfl, rfl⟩
    unfold reconciles
    rw [sent_emit]
    cases hr : requestOf em with
    | none => simp
    | some => simp_all [Supervisor.reconciles]
  induction h with
  | trans _ _ ihab ihbc => exact ihab.trans ihbc
  | publish c => exact (publish_frame c).idles
  | dull _ same => exact ⟨rfl, rfl, rfl, congrArg View.runIntent same.view, rfl⟩
  | rows _ _ same => exact ⟨rfl, rfl, rfl, congrArg View.runIntent same.view, rfl⟩
  | announce _ _ same => exact ⟨rfl, rfl, rfl, same.intent, rfl⟩
  | phase _ _ same => exact ⟨rfl, rfl, rfl, congrArg Kept.runIntent same.kept, rfl⟩
  | record c => exact (recorded_frame c _).idles
  | refuse c id => exact (notePersistenceFailure_frame c id).idles
  | @note c em plain =>
    refine he c ?_
    cases em <;> first | rfl | cases plain
  | answer c | stage c | volume c => exact he c rfl
  | intent c never | mint c runs never | reconcile c runs never | close c runs never
  | alarm c runs never | wake c runs never | join c runs never => cases never
  | _ => exact ⟨rfl, rfl, rfl, rfl, rfl⟩

/-- A member's failure asks for no new session exactly when it was not the
primary's, or when there is nothing to reconcile without it. -/
theorem applyMemberFailed_quiet_iff (c : Controller) (ports : Ports) (gen : Nat)
    (recv : ReceiverId) (primary : Bool) (error : String) :
    ((c.applyMemberFailed ports gen recv primary error).reconciles = c.reconciles ∧
      (c.applyMemberFailed ports gen recv primary error).pendingDesired = c.pendingDesired) ↔
    (primary = true →
      ({ c with active := c.active.erase recv } : Controller).nothingToReconcile = true) := by
  have hs : Idles { c with active := c.active.erase recv } { c with
      active := c.active.erase recv
      primary := if primary ∧ c.primary = some recv then none else c.primary } :=
    ⟨rfl, rfl, rfl, rfl, rfl⟩
  have hn := hs.trans (@noteReceiverFailure_course _ _ ports rfl rfl rfl _ recv true error).idles
  have hw := fun change => hn.trans (Idles.trans (Course.settle _ rfl).idles
    (amendRows_frame _ (session_cosmetic change)).idles)
  unfold applyMemberFailed
  dsimp only
  generalize ha : amendRows _ _ = after
  have hi : Idles { c with active := c.active.erase recv } after := ha ▸ hw _
  cases primary with
  | false =>
    refine iff_of_true ⟨hi.reconciles, hi.asked⟩ ?_
    intro hp
    cases hp
  | true =>
    rw [if_pos rfl]
    have hr : Idles { c with active := c.active.erase recv } (after.noteRestart ports.now) :=
      hi.trans ⟨rfl, rfl, rfl, rfl, rfl⟩
    have hq := requestReconcile_reconciles_iff (after.noteRestart ports.now) .primaryFailure
    rw [nothingToReconcile_congr hr, hr.reconciles] at hq
    constructor
    · intro h _
      exact hq.mp h.1
    · intro h
      refine ⟨hq.mpr (h rfl), ?_⟩
      unfold requestReconcile
      rw [if_pos (by rw [nothingToReconcile_congr hr]; exact h rfl)]
      exact hr.asked

/-! ## One edge -/

/-- No further reconcile, no counter advanced, and the receivers that were
asked for are the same. -/
structure CostsNothing (c c' : Controller) : Prop where
  reconciles : c'.reconciles = c.reconciles
  attempts : ∀ receiver, c'.retry.attempt receiver ≤ c.retry.attempt receiver
  asked : c'.pendingDesired = c.pendingDesired

/-- How many failures of the receiver the update reports. -/
def failures (c : Controller) (receiver : ReceiverId) (update : SessionUpdate) : Nat :=
  (c.told receiver update).count .failure

/-- So many failures now leave the counter no higher: there are none, it is
at its bound, or it starts over from far enough below. -/
def Spared (c : Controller) (now : Instant) (receiver : ReceiverId) (failures : Nat) : Prop :=
  failures = 0 ∨ U32_MAX ≤ c.retry.attempt receiver ∨
    (Ladder.old c.policy.healthyResetAfter (c.retry.rung receiver).since now = true ∧
      failures ≤ c.retry.attempt receiver)

/-- Whether the failed member was not the primary, or leaves nothing to
reconcile. -/
def KeepsSession (c : Controller) : SessionUpdate → Prop
  | .memberFailed _ receiver primary _ => primary = true →
      ({ c with active := c.active.erase receiver } : Controller).nothingToReconcile = true
  | _ => True

theorem attempts_spared_iff (c : Controller) (ports : Ports) (upd : SessionUpdate)
    (hp : 0 < c.policy.healthyResetAfter) (recv : ReceiverId) :
    (c.applySessionUpdate ports upd).retry.attempt recv ≤ c.retry.attempt recv ↔
      c.Spared ports.now recv (c.failures recv upd) := by
  have hr := (session_ascends c ports upd).rung recv
  have hc := Ladder.climb_le_iff c.policy.healthyResetAfter U32_MAX hp ports.now
    (c.told recv upd) (c.retry.rung recv)
  rw [← hr] at hc
  exact hc

theorem keepsSession_iff (c : Controller) (ports : Ports) (upd : SessionUpdate) :
    ((c.applySessionUpdate ports upd).reconciles = c.reconciles ∧
      (c.applySessionUpdate ports upd).pendingDesired = c.pendingDesired) ↔
    c.KeepsSession upd := by
  have hi : ∀ {c' : Controller}, c'.reconciles = c.reconciles →
      c'.pendingDesired = c.pendingDesired →
      ((c'.reconciles = c.reconciles ∧ c'.pendingDesired = c.pendingDesired) ↔ True) :=
    fun hs ha => iff_of_true ⟨hs, ha⟩ trivial
  cases upd with
  | starting gen =>
    have h := (applyStarting_course rfl rfl rfl rfl c gen).idles
    exact hi h.reconciles h.asked
  | active gen primary mbrs fails =>
    have h : Idles { c with primary := some primary, active := mbrs }
        (c.applyActive ports gen primary mbrs fails) := by
      unfold applyActive
      refine Course.idles ((((forwardEffectiveVolumes_course rfl _).quiet
        (settleCalibrationGeneration_course rfl _ gen)).quiet
          (joinMembers_course rfl rfl rfl _ primary mbrs fails)).quiet
            (amendRows_phase rfl rfl rfl _ ?_))
      exact fun _ => ⟨rfl, rfl, rfl, rfl⟩
    exact hi h.reconciles h.asked
  | memberControlFailed => exact hi rfl rfl
  | memberFailed gen recv primary error =>
    exact c.applyMemberFailed_quiet_iff ports gen recv primary error
  | recovering gen rsn =>
    have h := (applyRecovering_course rfl rfl rfl c gen rsn).idles
    exact hi h.reconciles h.asked
  | stopped =>
    have h : Idles { c with
        active := ∅
        primary := none
        machines := c.machines.mapValues (fun _ mach => mach.leaveSession) }
        c.applyStopped := by
      refine Course.idles (amendRows_phase rfl rfl rfl _ ?_)
      exact fun _ => ⟨rfl, rfl, rfl, rfl⟩
    exact hi h.reconciles h.asked

/-- An edge, of whatever generation, costs nothing exactly when every counter
is spared and the session is kept: nowhere is its generation compared with
the newest one. -/
theorem session_edge_costs_nothing_iff (c : Controller) (ports : Ports) (update : SessionUpdate)
    (hpolicy : 0 < c.policy.healthyResetAfter) :
    CostsNothing c (c.applySessionUpdate ports update) ↔
      (∀ receiver, c.Spared ports.now receiver (c.failures receiver update)) ∧
        c.KeepsSession update := by
  have hk := c.keepsSession_iff ports update
  have hs := c.attempts_spared_iff ports update hpolicy
  constructor
  · intro h
    exact ⟨fun receiver => (hs receiver).mp (h.attempts receiver), hk.mp ⟨h.reconciles, h.asked⟩⟩
  · rintro ⟨hc, he⟩
    obtain ⟨hr, ha⟩ := hk.mpr he
    exact ⟨hr, fun receiver => (hs receiver).mpr (hc receiver), ha⟩

/-- The receiver is retried while it plays, so a second session is asked
for. -/
def rebuilt : List (Ports × Event) :=
  broughtUp ++ [(({} : Ports), .batch [{ id := 3, command := .retryReceiver office.id }])]

omit [Lowercase] in
theorem session_edge_costs_nothing_iff_rebuilt :
    letI := asciiLowercase
    let c := run (start LoadedState.defaults {} 0) rebuilt
    let upd : SessionUpdate := .active 1 office.id {office.id} []
    0 < c.policy.healthyResetAfter ∧ (CostsNothing c (c.applySessionUpdate {} upd) ↔
        (∀ recv, c.Spared 0 recv (c.failures recv upd)) ∧ c.KeepsSession upd) := by
  let := asciiLowercase
  intro c upd
  have hp : 0 < c.policy.healthyResetAfter := by decide
  exact ⟨hp, session_edge_costs_nothing_iff c {} upd hp⟩

omit [Lowercase] in
/-- The primary of the first session fails behind that: a third session goes
out, without the receiver, and its counter has moved. -/
theorem stale_primary_failure_restarts :
    letI := asciiLowercase
    let c := run (start LoadedState.defaults {} 0) rebuilt
    let after := c.applySessionUpdate {} (.memberFailed 1 office.id true "lost")
    c.sessionGeneration = 2 ∧ after.reconciles.length = c.reconciles.length + 1 ∧
      c.retry.attempt office.id < after.retry.attempt office.id ∧
      c.pendingDesired = {office.id} ∧ after.pendingDesired = ∅ ∧ ¬ CostsNothing c after := by
  let := asciiLowercase
  intro c after
  have hm : c.retry.attempt office.id < after.retry.attempt office.id := by decide
  refine ⟨by decide, by decide, hm, by decide, by decide, ?_⟩
  intro h
  exact absurd (h.attempts office.id) (Nat.not_le.mpr hm)

end Controller

end OpenAirCast.Backend
