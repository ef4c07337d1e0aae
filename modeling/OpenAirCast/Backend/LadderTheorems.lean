/-
Backend.LadderTheorems — the failure counters of the receivers
over whole runs of the controller.

Only the session supervisor moves them. `reported` is what an event tells the
counter of a receiver, `reports` what a run has told it. `session_ascends`
walks through the updates, `run_rung` along a run: the counter is where
`Ladder.climb` takes it.
-/
import OpenAirCast.Backend.RowTheorems
import OpenAirCast.Backend.SignalTheorems

namespace OpenAirCast.Backend

open List

open Ladder (Signal Rung)

/-- One report about one receiver, as another receiver hears it. -/
def about (subject : ReceiverId) (signal : Signal) (receiver : ReceiverId) : List Signal :=
  if subject = receiver then [signal] else []

/-- Only a failure that a retry can help is counted. -/
def failureSignal (retryable : Bool) : Signal := if retryable then .failure else .ended

theorem flatMap_about (signal : Signal) (receiver : ReceiverId) : ∀ {ids : List ReceiverId},
    ids.Nodup → ids.flatMap (fun id => about id signal receiver) =
      if receiver ∈ ids then [signal] else []
  | [], _ => rfl
  | id :: rest, h => by
      obtain ⟨hf, hr⟩ := nodup_cons.mp h
      rw [flatMap_cons, flatMap_about signal receiver hr]
      by_cases hs : id = receiver
      · subst hs
        simp [about, hf]
      · simp [about, hs, Ne.symm hs]

/-! ## The operations on the counters -/

namespace RetryState

variable (retry : RetryState)

theorem rung_insert (receiver other : ReceiverId) (ent : ReceiverRetryEntry) :
    (RetryState.mk (retry.receivers.insert receiver ent)).rung other =
      if receiver = other then ⟨ent.attempt, ent.streamingSince⟩ else retry.rung other := by
  by_cases hs : other = receiver
  · simp [rung, RetryState.entry, SortedMap.get_insert, hs]
  · simp [rung, RetryState.entry, SortedMap.get_insert, hs, Ne.symm hs]

variable (policy : RetryPolicy) (now : Instant)

theorem rung_noteStreaming (receiver other : ReceiverId) :
    (retry.noteStreaming policy now receiver).rung other =
      if receiver = other then (retry.rung other).seen policy.healthyResetAfter now
      else retry.rung other := by
  unfold noteStreaming
  dsimp only
  rw [rung_insert]
  split
  · rename_i hm
    subst hm
    cases hs : (retry.entry receiver).streamingSince with
    | none => simp [rung, Rung.seen, hs]
    | some =>
      simp only [rung, Rung.seen, hs, Ladder.old, Option.any_some, decide_eq_true_eq]
      split <;> simp_all
  · rfl

theorem rung_noteFailure (receiver other : ReceiverId) :
    ((retry.noteStreaming policy now receiver).noteFailure policy now receiver).1.rung other =
      if receiver = other then
        (retry.rung other).fail policy.healthyResetAfter U32_MAX now
      else retry.rung other := by
  have hs := rung_noteStreaming retry policy now receiver
  generalize retry.noteStreaming policy now receiver = streamed at hs ⊢
  unfold noteFailure
  dsimp only
  rw [rung_insert]
  split
  · rename_i hm
    subst hm
    have ha : (streamed.entry receiver).attempt =
        ((retry.rung receiver).seen policy.healthyResetAfter now).attempt := by
      rw [show (streamed.entry receiver).attempt = (streamed.rung receiver).attempt from rfl,
        hs, if_pos rfl]
    rw [ha, Rung.fail, Rung.found, saturatingSucc, Nat.min_comm]
  · rename_i ho
    rw [hs, if_neg ho]

end RetryState

namespace Controller

variable {receiver : ReceiverId}

/-- The counters after what the receivers were told of. -/
structure Ascends (now : Instant) (c c' : Controller) (told : ReceiverId → List Signal) : Prop where
  flag : c'.snapshot.persistence = c.snapshot.persistence
  policy : c'.policy = c.policy
  rung : ∀ receiver, c'.retry.rung receiver =
    Ladder.climb c.policy.healthyResetAfter U32_MAX (c.retry.rung receiver)
      ((told receiver).map (fun signal => (now, signal)))

theorem Unmoved.ascends {c c' : Controller} (h : Unmoved c c') (now : Instant) :
    Ascends now c c' (fun _ => []) where
  flag := h.flag
  policy := h.flagged.policy
  rung := by
    intro receiver
    rw [h.flagged.rung]
    rfl

theorem Ascends.trans {now : Instant} {a b c : Controller} {first second : ReceiverId → List Signal}
    (ha : Ascends now a b first) (hb : Ascends now b c second) :
    Ascends now a c (fun receiver => first receiver ++ second receiver) where
  flag := hb.flag.trans ha.flag
  policy := hb.policy.trans ha.policy
  rung := by
    intro receiver
    rw [hb.rung, ha.rung, ha.policy]
    simp only [Ladder.climb, map_append, foldl_append]

variable {now : Instant}

theorem Ascends.then {a b c : Controller} {told : ReceiverId → List Signal}
    (ha : Ascends now a b told) (hb : Unmoved b c) : Ascends now a c told := by
  have ht := ha.trans (hb.ascends now)
  simpa using ht

theorem Ascends.foldl {α : Type} {f : Controller → α → Controller}
    {told : α → ReceiverId → List Signal} (hf : ∀ c a, Ascends now c (f c a) (told a))
    (l : List α) : ∀ c : Controller,
      Ascends now c (l.foldl f c) (fun receiver => l.flatMap (fun a => told a receiver)) := by
  induction l with
  | nil => exact fun c => (Unmoved.refl c).ascends now
  | cons a _ ih => exact fun c => (hf c a).trans (ih (f c a))

variable (c : Controller)

theorem noteStreaming_ascends (now : Instant) (receiver : ReceiverId) :
    Ascends now c { c with retry := c.retry.noteStreaming c.policy now receiver }
      (about receiver .streaming) where
  flag := rfl
  policy := rfl
  rung := by
    intro other
    show (c.retry.noteStreaming c.policy now receiver).rung other = _
    rw [RetryState.rung_noteStreaming, about]
    split <;> rfl

variable (ports : Ports)

theorem noteReceiverFailure_ascends (receiver : ReceiverId) (retryable : Bool) (err : String) :
    Ascends ports.now c (c.noteReceiverFailure ports receiver retryable err)
      (about receiver (failureSignal retryable)) := by
  cases retryable with
  | true =>
    refine ⟨rfl, rfl, ?_⟩
    intro other
    show ((c.retry.noteStreaming c.policy ports.now receiver).noteFailure c.policy ports.now
      receiver).1.rung other = _
    rw [RetryState.rung_noteFailure, about]
    split <;> rfl
  | false =>
    refine ⟨rfl, rfl, ?_⟩
    intro other
    show c.retry.rung other = _
    rw [about]
    split <;> rfl

/-! ## The updates of a session -/

/-- Who was to come up with the generation and is neither a member nor
reported as failed. -/
def missing (members : Finset ReceiverId)
    (partialFailures : List MemberFailure) : Finset ReceiverId :=
  c.pendingDesired \ (members ∪ (partialFailures.map (·.receiver)).toFinset)

/-- What an update tells the counter of a receiver. -/
def told (receiver : ReceiverId) : SessionUpdate → List Signal
  | .active _ _ members partialFailures =>
    (if receiver ∈ members then [.streaming] else []) ++ partialFailures.flatMap (fun failure =>
        about failure.receiver (failureSignal failure.retryable) receiver)
      ++ (if receiver ∈ c.missing members partialFailures then [.failure] else [])
  | .memberFailed _ failed _ _ => about failed .failure receiver
  | .stopped _ => [.ended]
  | .starting _ | .memberControlFailed _ _ _ | .recovering _ _ _ => []

variable [Lowercase]

theorem joinMembers_ascends (prim : ReceiverId)
    (mbrs : Finset ReceiverId) (fails : List MemberFailure)
    (hm : c.active = mbrs) :
    Ascends ports.now c (c.joinMembers ports prim mbrs fails) (fun receiver =>
      (if receiver ∈ mbrs then [.streaming] else []) ++ fails.flatMap (fun fail =>
          about fail.receiver (failureSignal fail.retryable) receiver)
        ++ (if receiver ∈ c.missing mbrs fails then [.failure] else [])) := by
  have ho := fun (ids : Finset ReceiverId) (signal : Signal) (receiver : ReceiverId) =>
    flatMap_about signal receiver (sortedIds_nodup ids)
  simp only [mem_sortedIds] at ho
  unfold joinMembers
  dsimp only
  have he : Unmoved c ((sortedIds mbrs).foldl (fun c receiver =>
      c.drive receiver (·.enterStreaming (roleIn mbrs prim receiver))) c) :=
    (Course.foldl (fun c _ => .drive c rfl _ (.inr rfl)) _ c).unmoved
  have hb : Beneath c ((sortedIds mbrs).foldl (fun c receiver =>
      c.drive receiver (·.enterStreaming (roleIn mbrs prim receiver))) c) :=
    .foldl (fun c _ => drive_beneath c _ _) _ c
  generalize (sortedIds mbrs).foldl (fun c receiver =>
    c.drive receiver (·.enterStreaming (roleIn mbrs prim receiver))) c = entered at *
  have hn : Ascends ports.now entered ((sortedIds mbrs).foldl (fun c receiver =>
      { c with retry := c.retry.noteStreaming c.policy ports.now receiver }) entered) _ :=
    .foldl (fun c receiver => noteStreaming_ascends c ports.now receiver) _ _
  have hb := hb.trans (@noteStreaming_beneath ports (sortedIds mbrs) entered).1
  generalize (sortedIds mbrs).foldl (fun c receiver =>
    { c with retry := c.retry.noteStreaming c.policy ports.now receiver }) entered = noted at *
  have hd : Ascends ports.now noted (fails.foldl (fun c fail =>
      c.noteReceiverFailure ports fail.receiver fail.retryable (setupFailureError fail)) noted) _ :=
    .foldl (fun c fail => noteReceiverFailure_ascends c ports fail.receiver
      fail.retryable (setupFailureError fail)) _ _
  have hb : Beneath c (fails.foldl (fun c fail => c.noteReceiverFailure
      ports fail.receiver fail.retryable (setupFailureError fail)) noted) :=
    hb.trans (.foldl (fun c _ => noteReceiverFailure_beneath c _ _ _) _ _)
  generalize fails.foldl (fun c fail => c.noteReceiverFailure ports
    fail.receiver fail.retryable (setupFailureError fail)) noted = dropped at *
  rw [hb.pending, hb.active, hm]
  have hs : Ascends ports.now dropped ((sortedIds (c.missing mbrs fails)).foldl
      (fun c receiver => c.noteReceiverFailure ports receiver true
        "the receiver did not join the group") dropped) _ :=
    .foldl (fun c receiver => noteReceiverFailure_ascends c ports receiver true _) _ _
  have hall := (((he.ascends ports.now).trans hn).trans hd).trans hs
  have hc : failureSignal true = .failure := rfl
  simp only [nil_append, hc, ho] at hall
  exact hall

theorem session_ascends (upd : SessionUpdate) :
    Ascends ports.now c (c.applySessionUpdate ports upd) (fun receiver =>
      c.told receiver upd) := by
  cases upd with
  | starting gen => exact (applyStarting_course rfl rfl rfl rfl c gen).unmoved.ascends ports.now
  | active gen primary mbrs fails =>
    let taken : Controller := { c with primary := some primary, active := mbrs }
    have ht : Unmoved c taken := ⟨rfl⟩
    have hs := ht.trans ((forwardEffectiveVolumes_course rfl taken).quiet
      (settleCalibrationGeneration_course rfl _ gen)).unmoved
    have hb := taken.forwardEffectiveVolumes_beneath.1.trans
      (settleCalibrationGeneration_beneath taken.forwardEffectiveVolumes gen).1
    show Ascends ports.now c (c.applyActive ports gen primary mbrs fails) _
    unfold applyActive
    dsimp only
    generalize taken.forwardEffectiveVolumes.settleCalibrationGeneration gen = settled at *
    have hj := joinMembers_ascends settled ports primary mbrs fails hb.active
    have hm : settled.missing mbrs fails = c.missing mbrs fails := by
      rw [missing, hb.pending]
      rfl
    rw [hm] at hj
    have hbt := (hs.ascends ports.now).trans hj
    refine hbt.then (Course.unmoved (amendRows_phase rfl rfl rfl _ ?_))
    exact fun _ => ⟨rfl, rfl, rfl, rfl⟩
  | memberControlFailed => exact (Unmoved.refl c).ascends ports.now
  | memberFailed gen receiver primary err =>
    let dropped : Controller := { c with
      active := c.active.erase receiver
      primary := if primary ∧ c.primary = some receiver then none else c.primary }
    have hd : Unmoved c dropped := ⟨rfl⟩
    have hf := (hd.ascends ports.now).trans
      (noteReceiverFailure_ascends dropped ports receiver true err)
    show Ascends ports.now c (c.applyMemberFailed ports gen receiver primary err) _
    unfold applyMemberFailed
    dsimp only
    have hr : ∀ c : Controller, Course { counts := false } c []
        (if primary then (c.noteRestart ports.now).requestReconcile .primaryFailure else c) :=
      fun c => course_ite ((Course.restart c rfl trivial).quiet
        (requestReconcile_course rfl rfl _ _)) (.refl c)
    refine hf.then (Course.unmoved (Course.quiet (amendRows_phase rfl rfl rfl _ ?_) (hr _)))
    exact fun _ => ⟨rfl, rfl, rfl, rfl⟩
  | recovering gen rsn =>
    exact (applyRecovering_course rfl rfl rfl c gen rsn).unmoved.ascends ports.now
  | stopped =>
    have he : Ascends ports.now c c (fun _ => [.ended]) := ⟨rfl, rfl, fun _ => rfl⟩
    exact he.then (applyStopped_course rfl rfl rfl rfl c).unmoved

/-! ## Runs -/

def toldBy (c : Controller) (receiver : ReceiverId) (input : Ports × Event) :
    List (Instant × Signal) :=
  match input.2 with
  | .session update => (c.told receiver update).map (fun signal => (input.1.now, signal))
  | _ => []

/-- What a pass of the loop tells the counter of a receiver. -/
def reported (c : Controller) (receiver : ReceiverId) (input : Ports × Event) :
    List (Instant × Signal) :=
  if c.finished ∨ c.crashed then [] else c.toldBy receiver input

/-- What a run has told it, first to last. -/
def reports (c : Controller) (receiver : ReceiverId) : List (Ports × Event) →
    List (Instant × Signal)
  | [] => []
  | input :: rest => c.reported receiver input ++ reports (c.step input).1 receiver rest

/-- The policy stays, and the counter of the receiver takes the reports. -/
structure Reaches (c c' : Controller) (receiver : ReceiverId)
    (reports : List (Instant × Signal)) : Prop where
  policy : c'.policy = c.policy
  rung : c'.retry.rung receiver =
    Ladder.climb c.policy.healthyResetAfter U32_MAX (c.retry.rung receiver) reports

omit [Lowercase] in
theorem Reaches.flat {c c' : Controller} (hp : c'.policy = c.policy)
    (hr : c'.retry.rung = c.retry.rung) : Reaches c c' receiver [] := by
  refine ⟨hp, ?_⟩
  rw [hr]
  rfl

theorem handle_rung (ev : Event) (receiver : ReceiverId) :
    Reaches c (c.handle ports ev) receiver (c.toldBy receiver (ports, ev)) := by
  have haside : ∀ ev, isAside ev = true → Reaches c (c.handle ports ev) receiver [] := by
    intro ev h
    have hu := (other_unmoved c ports h).flagged
    exact .flat hu.policy hu.rung
  cases ev with
  | session upd =>
    have hascends := session_ascends c ports upd
    exact ⟨hascends.policy, hascends.rung receiver⟩
  | batch envs =>
    obtain ⟨hp, hr⟩ := processBatch_rung c ports (.ofList envs)
    exact .flat hp hr
  | discovery | capture | captureTelemetry | endpoints | system | resumeSettled | retryDue
  | autoConnectDue => exact haside _ rfl

/-- The counter takes what a pass reports. -/
theorem step_rung (inp : Ports × Event) (receiver : ReceiverId) :
    Reaches c (c.step inp).1 receiver (c.reported receiver inp) := by
  unfold step reported
  split
  · exact .flat rfl rfl
  · have hh := handle_rung { c with out := [] } inp.1 inp.2 receiver
    exact ⟨hh.policy, hh.rung⟩

/-- The counter of a receiver is where the reports about it have taken it. -/
theorem run_rung (receiver : ReceiverId) (ins : List (Ports × Event)) : ∀ c : Controller,
    Reaches c (run c ins) receiver (c.reports receiver ins) := by
  induction ins with
  | nil => exact fun c => .flat rfl rfl
  | cons inp rest ih =>
    intro c
    have hs := step_rung c inp receiver
    have hr := ih (c.step inp).1
    refine ⟨hr.policy.trans hs.policy, ?_⟩
    show (run (c.step inp).1 rest).retry.rung receiver = _
    rw [hr.rung, hs.rung, hs.policy]
    simp only [reports, Ladder.climb, foldl_append]

variable (ins : List (Ports × Event))

theorem mem_reports {rep : Instant × Signal} : ∀ {c : Controller}, rep ∈ c.reports receiver ins →
      ∃ inp ∈ ins, inp.1.now = rep.1 := by
  induction ins with
  | nil =>
    intro c h
    cases h
  | cons inp _ ih =>
    intro c h
    rcases mem_append.mp h with hn | hl
    · refine ⟨inp, mem_cons_self, ?_⟩
      unfold reported toldBy at hn
      split at hn
      · cases hn
      · split at hn
        · obtain ⟨_, _, rfl⟩ := mem_map.mp hn
          rfl
        · cases hn
    · obtain ⟨later, hmem, ha⟩ := ih hl
      exact ⟨later, mem_cons_of_mem _ hmem, ha⟩

theorem reports_clock : ∀ {c : Controller}, ins.Pairwise (fun a b => a.1.now ≤ b.1.now) →
      Ladder.Clock (c.reports receiver ins) := by
  induction ins with
  | nil => exact fun _ => List.Pairwise.nil
  | cons inp rest ih =>
    intro c h
    obtain ⟨hl, hr⟩ := pairwise_cons.mp h
    have ht : ∀ rep ∈ c.reported receiver inp, inp.1.now = rep.1 := by
      intro rep hp
      have ho : rep ∈ c.reports receiver [inp] := mem_append_left _ hp
      obtain ⟨same, hs, hn⟩ := mem_reports [inp] ho
      obtain rfl := mem_singleton.mp hs
      exact hn
    refine pairwise_append.mpr ⟨List.Pairwise.imp_of_mem ?_ (pairwise_of_forall
      (fun _ _ => trivial)), ih hr, ?_⟩
    · intro a b ha hb _
      rw [← ht a ha, ← ht b hb]
    · intro a ha b hb
      obtain ⟨other, hh, hn⟩ := mem_reports rest hb
      rw [← ht a ha, ← hn]
      exact hl other hh

theorem start_rung (loaded : LoadedState) (cal : CalibrationProfile) (launch : Instant)
    (receiver : ReceiverId) :
    (start loaded cal launch).policy = {} ∧ (start loaded cal launch).retry.rung receiver = {} := by
  unfold start
  dsimp only
  exact ⟨(settleMachines_unmoved _).flagged.policy,
    congrFun (settleMachines_unmoved _).flagged.rung receiver⟩

/-- What the reports of a run leave on the counter, from its launch on. -/
def counterAfter (reports : List (Instant × Signal)) : Nat :=
  (Ladder.climb (seconds 60) U32_MAX {} reports).attempt

/-- With a clock that never goes back the counter of a receiver is what the
reports about it say, and the first failure makes it one. Every later
failure is counted as it should be, or starts over after real health,
exactly when no stop and no other failure has cut the window that the code
measures, and the counter is below its bound. -/
theorem counter_reset_by_health_iff (loaded : LoadedState) (calibration : CalibrationProfile)
    (launch : Instant) (inputs : List (Ports × Event)) (receiver : ReceiverId)
    (hclock : inputs.Pairwise (fun a b => a.1.now ≤ b.1.now)) :
    (∀ before, before <+: inputs →
      (run (start loaded calibration launch) before).retry.attempt receiver =
        counterAfter ((start loaded calibration launch).reports receiver before)) ∧
    (∀ front now back, (start loaded calibration launch).reports receiver inputs =
        front ++ (now, .failure) :: back → (∀ report ∈ front, report.2 ≠ .failure) →
      counterAfter (front ++ [(now, .failure)]) = 1) ∧
    (∀ front instant between now back, (start loaded calibration launch).reports receiver inputs =
        front ++ (instant, .failure) :: between ++ (now, .failure) :: back →
      (∀ report ∈ between, report.2 ≠ .failure) →
        (Ladder.Counted (seconds 60) U32_MAX (front ++ (instant, .failure) :: between)
            (counterAfter (front ++ [(instant, .failure)])) now ↔
          Ladder.unbroken (seconds 60) U32_MAX (front ++ (instant, .failure) :: between)
            (counterAfter (front ++ [(instant, .failure)])) now = true)) := by
  have hr : Ladder.Clock ((start loaded calibration launch).reports receiver inputs) :=
    reports_clock inputs hclock
  have hc : 0 < U32_MAX := by decide
  refine ⟨?_, ?_, ?_⟩
  · intro before _
    have hrn := (run_rung receiver before (start loaded calibration launch)).rung
    obtain ⟨hp, hf⟩ := start_rung loaded calibration launch receiver
    rw [hp, hf] at hrn
    exact congrArg Rung.attempt hrn
  · intro front now back hs ht
    rw [hs] at hr
    obtain ⟨hfr, _, hn⟩ := pairwise_append.mp hr
    exact Ladder.first_failure (seconds 60) U32_MAX hc front now hfr
      (fun report h => hn report h _ mem_cons_self) ht
  · intro front instant between now back hs hb
    rw [hs] at hr
    obtain ⟨hfr, _, hn⟩ := pairwise_append.mp hr
    exact Ladder.counted_iff (seconds 60) U32_MAX hc front between instant now hfr
      (fun report h => hn report h _ mem_cons_self) hb

/-- A receiver is lost and comes up again, the session is stopped ten seconds
later, and a session of the next minute loses it after five. -/
def stoppedRun (receiver : ReceiverId) : List (Ports × Event) :=
  [({}, .session (.active 1 receiver {receiver} [])),
   ({}, .session (.memberFailed 1 receiver false "lost")),
   ({}, .session (.active 2 receiver {receiver} [])),
   ({ now := seconds 10 }, .session (.stopped 2)),
   ({ now := seconds 95 }, .session (.active 3 receiver {receiver} [])),
   ({ now := seconds 100 }, .session (.memberFailed 3 receiver false "lost"))]

omit [Lowercase] in
theorem counter_reset_by_health_iff_stopped :
    letI := asciiLowercase
    let launched := start armedLaunch {} 0
    (stoppedRun ⟨0⟩).Pairwise (fun a b => a.1.now ≤ b.1.now) ∧
      (run launched (stoppedRun ⟨0⟩)).retry.attempt ⟨0⟩ =
        counterAfter (launched.reports ⟨0⟩ (stoppedRun ⟨0⟩)) := by
  let := asciiLowercase
  intro launched
  have hc : (stoppedRun ⟨0⟩).Pairwise (fun a b => a.1.now ≤ b.1.now) := by
    simp [stoppedRun, seconds]
  exact ⟨hc, (counter_reset_by_health_iff armedLaunch {} 0 _ ⟨0⟩ hc).1 _ (prefix_refl _)⟩

omit [Lowercase] in
/-- It streamed for ten seconds, yet its counter starts over. -/
theorem stopped_window_resets_counter :
    letI := asciiLowercase
    let launched := start armedLaunch {} 0
    let history : List (Instant × Signal) :=
      [(0, .streaming)] ++ (0, .failure) ::
        [(0, .streaming), (seconds 10, .ended), (seconds 95, .streaming)]
    launched.reports ⟨0⟩ (stoppedRun ⟨0⟩) = history ++ (seconds 100, .failure) :: [] ∧
      counterAfter ([(0, .streaming)] ++ [(0, .failure)]) = 1 ∧
      (run launched (stoppedRun ⟨0⟩)).retry.attempt ⟨0⟩ = 1 ∧
      ¬ Ladder.Counted (seconds 60) U32_MAX history 1 (seconds 100) := by
  let := asciiLowercase
  intro launched history
  refine ⟨by decide, by decide, by decide, ?_⟩
  have hc := Ladder.counted_iff (seconds 60) U32_MAX (by decide) [(0, .streaming)]
    [(0, .streaming), (seconds 10, .ended), (seconds 95, .streaming)] 0 (seconds 100)
    (by simp [Ladder.Clock, seconds]) (by simp [seconds]) (by simp)
  intro h
  exact absurd (hc.mp h) (by decide)

end Controller

end OpenAirCast.Backend
