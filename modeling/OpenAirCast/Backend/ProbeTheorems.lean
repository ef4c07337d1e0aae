/-
Backend.ProbeTheorems — which members the probe policy fails.

The policy is said on what one receiver has answered in a generation, each
answer with whether a send failure had armed it: `Fails` tells which answer
is a failure after which other, and `Failing` that one of them was.
`Judged` ties the bookkeeping of the supervisor to that: the reported
receivers are the failing ones, and a streak is a last answer that timed
out. One answer keeps it (`judged_probeMember`), so a cycle and a run of
cycles do. `Unprobed` says that every generation is activated with an empty
bookkeeping.
-/
import OpenAirCast.Backend.TransportTheorems

namespace OpenAirCast.Backend

open List

/-! ## The policy -/

/-- An answer, and whether a send failure had armed the receiver. -/
abbrev Answered := ProbeAnswer × Bool

/-- The answer fails its receiver, after this previous one. -/
def Fails (previous : Option ProbeAnswer) (armed : Bool) : ProbeAnswer → Prop
  | .healthy => False
  | .timedOut => previous = some .timedOut ∨ armed = true
  | .failed _ => True

/-- One of the answers failed the receiver. -/
def Failing (answers : List Answered) : Prop :=
  ∃ front answer armed back, answers = front ++ (answer, armed) :: back ∧
    Fails (front.getLast?.map (·.1)) armed answer

theorem not_failing_nil : ¬ Failing [] := by
  rintro ⟨_, _, _, _, h, -⟩
  simp at h

theorem failing_concat {answers : List Answered} {ans : ProbeAnswer} {armed : Bool} :
    Failing (answers ++ [(ans, armed)]) ↔
      Failing answers ∨ Fails (answers.getLast?.map (·.1)) armed ans := by
  constructor
  · rintro ⟨front, a, b, back, hs, hf⟩
    rcases eq_nil_or_concat back with rfl | ⟨back, _, rfl⟩
    · obtain ⟨rfl, hl⟩ := append_inj' hs rfl
      cases hl
      exact .inr hf
    · rw [concat_eq_append, ← cons_append, ← append_assoc] at hs
      obtain ⟨rfl, -⟩ := append_inj' hs rfl
      exact .inl ⟨front, a, b, back, rfl, hf⟩
  · rintro (⟨front, a, b, back, rfl, hf⟩ | hf)
    · exact ⟨front, a, b, back ++ [(ans, armed)], by simp, hf⟩
    · exact ⟨answers, ans, armed, [], rfl, hf⟩

/-- What a receiver answered, of what all did. -/
def answersOf (receiver : ReceiverId) (heard : List (ReceiverId × Answered)) : List Answered :=
  heard.filterMap (fun entry => if entry.1 = receiver then some entry.2 else none)

theorem answersOf_self (recv : ReceiverId) (heard : List (ReceiverId × Answered)) (ans : Answered) :
    answersOf recv (heard ++ [(recv, ans)]) = answersOf recv heard ++ [ans] := by
  simp [answersOf]

theorem answersOf_other {recv other : ReceiverId} (hne : recv ≠ other)
    (heard : List (ReceiverId × Answered)) (ans : Answered) :
    answersOf recv (heard ++ [(other, ans)]) = answersOf recv heard := by
  simp [answersOf, hne.symm]

/-- The receivers a drain of the event feed arms. -/
def drained (reading : Reading) : Finset ReceiverId :=
  (reading.sendFailures.take SESSION_REQUEST_CAPACITY).toFinset

/-- The answers of a cycle, with the receivers armed since the one before. -/
def cycleHeard (armed : Finset ReceiverId) (reading : Reading) : List (ReceiverId × Answered) :=
  reading.probes.map (fun result => (result.1, result.2, decide (result.1 ∈ armed)))

/-- What the cycles of a generation hear, first to last. What was drained
before a cycle arms it alone. -/
def heardIn (armed : Finset ReceiverId) : List Reading → List (ReceiverId × Answered)
  | [] => []
  | reading :: rest => cycleHeard (armed ∪ drained reading) reading ++ heardIn ∅ rest

/-! ## The bookkeeping -/

def isFailureOf (receiver : ReceiverId) : SessionUpdate → Bool
  | .memberFailed _ other _ _ => decide (other = receiver)
  | _ => false

/-- A report of this generation, with the flag of its primary. -/
def Reports (generation : Nat) (primary : Option ReceiverId) (update : SessionUpdate) : Prop :=
  ∃ receiver error,
    update = .memberFailed generation receiver (decide (primary = some receiver)) error

namespace Supervisor

variable {s : Supervisor} {heard : List (ReceiverId × Answered)} {start : List SessionUpdate}
  {generation : Nat} {transport : Transport}

/-- What the supervisor keeps of the answers it has heard since it had
published `start`. -/
structure Judged (start : List SessionUpdate) (generation : Nat) (primary : Option ReceiverId)
    (heard : List (ReceiverId × Answered)) (s : Supervisor) : Prop where
  accepted : s.accepted = generation
  failed : ∀ receiver, receiver ∈ s.health.failed ↔ Failing (answersOf receiver heard)
  streak : ∀ receiver, receiver ∉ s.health.failed → (1 ≤ (s.health.streak.get receiver).getD 0 ↔
      (answersOf receiver heard).getLast?.map (·.1) = some .timedOut)
  reported : ∃ reports, s.updates = start ++ reports ∧
    (∀ update ∈ reports, Reports generation primary update) ∧
    ∀ receiver, reports.countP (isFailureOf receiver) = if receiver ∈ s.health.failed then 1 else 0

theorem judge_failure (streak : SortedMap ReceiverId Nat) (urgent : Finset ReceiverId)
    (recv : ReceiverId) (ans : ProbeAnswer) {prev : Option ProbeAnswer}
    (h : 1 ≤ (streak.get recv).getD 0 ↔ prev = some .timedOut) :
    (judge streak urgent recv ans).2.isSome = true ↔ Fails prev (decide (recv ∈ urgent)) ans := by
  cases ans with
  | healthy => simp [judge, Fails]
  | failed => simp [judge, Fails]
  | timedOut =>
    have hc : TIMEOUT_STREAK_TO_FAIL ≤ (streak.get recv).getD 0 + 1 ↔ prev = some .timedOut := by
      rw [← h]
      unfold TIMEOUT_STREAK_TO_FAIL
      omega
    unfold judge Fails
    dsimp only
    rw [← hc, decide_eq_true_iff]
    by_cases hf : TIMEOUT_STREAK_TO_FAIL ≤ (streak.get recv).getD 0 + 1 ∨ recv ∈ urgent
    · rw [if_pos hf]
      exact iff_of_true rfl hf
    · rw [if_neg hf]
      exact iff_of_false Bool.false_ne_true hf

theorem judge_others (streak : SortedMap ReceiverId Nat) (urgent : Finset ReceiverId)
    (recv : ReceiverId) (ans : ProbeAnswer) {other : ReceiverId} (hne : other ≠ recv) :
    (judge streak urgent recv ans).1.get other = streak.get other := by
  cases ans <;> simp [judge, hne]

theorem judge_streak (streak : SortedMap ReceiverId Nat) (urgent : Finset ReceiverId)
    (recv : ReceiverId) (ans : ProbeAnswer)
    (h : (judge streak urgent recv ans).2 = none) :
    1 ≤ ((judge streak urgent recv ans).1.get recv).getD 0 ↔ ans = .timedOut := by
  cases ans with
  | healthy | timedOut => simp [judge]
  | failed => cases h

theorem mem_failed_concat {failed failed' : Finset ReceiverId}
    {recv : ReceiverId} {ans : ProbeAnswer} {armed : Bool}
    (hf : ∀ other, other ∈ failed ↔ Failing (answersOf other heard))
    (hs : recv ∈ failed' ↔
      recv ∈ failed ∨ Fails ((answersOf recv heard).getLast?.map (·.1)) armed ans)
    (ho : ∀ other, other ≠ recv → (other ∈ failed' ↔ other ∈ failed))
    (other : ReceiverId) :
    other ∈ failed' ↔ Failing (answersOf other (heard ++ [(recv, ans, armed)])) := by
  by_cases heq : other = recv
  · subst heq
    rw [answersOf_self, failing_concat, ← hf]
    exact hs
  · rw [answersOf_other heq, ho other heq]
    exact hf other

variable (urgent : Finset ReceiverId)

theorem judged_probeMember {prim : Option ReceiverId} (res : ReceiverId × ProbeAnswer)
    (h : Judged start generation prim heard s) :
    Judged start generation prim (heard ++ [(res.1, res.2, decide (res.1 ∈ urgent))])
      (probeMember urgent prim s res) := by
  obtain ⟨recv, ans⟩ := res
  obtain ⟨ha, hfaile, hs, reports, hu, hr, hc⟩ := h
  unfold probeMember
  dsimp only
  by_cases hmem : recv ∈ s.health.failed
  · -- reported before
    rw [if_pos hmem]
    refine ⟨ha, mem_failed_concat hfaile ⟨.inl, fun _ => hmem⟩ fun _ _ => Iff.rfl,
      fun other ho => ?_, reports, hu, hr, hc⟩
    · have hne : other ≠ recv := by
        rintro rfl
        exact ho hmem
      rw [answersOf_other hne]
      exact hs other ho
  · rw [if_neg hmem]
    have hf := judge_failure s.health.streak urgent recv ans (hs recv hmem)
    have hn : ¬ Failing (answersOf recv heard) := fun hfaili => hmem ((hfaile recv).mpr hfaili)
    split
    · rename_i streak hj
      rw [hj] at hf
      have hk := judge_streak s.health.streak urgent recv ans (by rw [hj])
      have hh := @judge_others s.health.streak urgent recv ans
      rw [hj] at hk hh
      refine ⟨ha, mem_failed_concat hfaile (by simp [← hf]) fun _ _ => Iff.rfl,
        fun other ho => ?_, reports, hu, hr, hc⟩
      · by_cases heq : other = recv
        · subst heq
          rw [answersOf_self]
          simpa using hk
        · rw [answersOf_other heq]
          dsimp only
          rw [hh heq]
          exact hs other ho
    · rename_i streak error hj
      rw [hj] at hf
      have hh := @judge_others s.health.streak urgent recv ans
      rw [hj] at hh
      have hfaiNow := hf.mp rfl
      refine ⟨ha, mem_failed_concat hfaile ?_ fun other heq => ?_, fun other ho => ?_,
        reports ++ [.memberFailed s.accepted recv (decide (prim = some recv)) error],
        ?_, fun upd hp => ?_, fun other => ?_⟩
      · simpa [Supervisor.pushUpdate] using .inr hfaiNow
      · simp [Supervisor.pushUpdate, heq]
      · have hb : other ≠ recv ∧ other ∉ s.health.failed := by
          simpa [Supervisor.pushUpdate] using ho
        rw [answersOf_other hb.1, ← hs other hb.2, ← hh hb.1]
        simp [Supervisor.pushUpdate, hb.1]
      · simp [Supervisor.pushUpdate, hu]
      · rcases mem_append.mp hp with he | hl
        · exact hr upd he
        · rw [mem_singleton] at hl
          exact ⟨recv, error, by rw [hl, ha]⟩
      · rw [countP_append, hc other]
        by_cases heq : other = recv
        · subst heq
          simp [Supervisor.pushUpdate, isFailureOf, hmem]
        · have ho : ¬ recv = other := fun h => heq h.symm
          simp [Supervisor.pushUpdate, isFailureOf, heq, ho]

theorem judged_answers {prim : Option ReceiverId} (urgent : Finset ReceiverId) :
    ∀ (ress : List (ReceiverId × ProbeAnswer)) {heard : List (ReceiverId × Answered)}
      {s : Supervisor}, Judged start generation prim heard s →
      Judged start generation prim
        (heard ++ ress.map (fun res => (res.1, res.2, decide (res.1 ∈ urgent))))
        (ress.foldl (probeMember urgent prim) s)
  | [], heard, s, h => by simpa using h
  | res :: rest, heard, s, h => by
      have hf := judged_probeMember urgent res h
      have hr := judged_answers urgent rest hf
      simpa using hr

variable (prim : Option ReceiverId)

theorem urgent_probeMember (s : Supervisor) (res : ReceiverId × ProbeAnswer) :
    (probeMember urgent prim s res).health.urgent = s.health.urgent := by
  unfold probeMember
  split
  · rfl
  · split <;> rfl

theorem urgent_answers (urgent : Finset ReceiverId) (prim : Option ReceiverId) :
    ∀ (ress : List (ReceiverId × ProbeAnswer)) (s : Supervisor),
      (ress.foldl (probeMember urgent prim) s).health.urgent = s.health.urgent
  | [], _ => rfl
  | result :: rest, s =>
    (urgent_answers urgent prim rest _).trans (urgent_probeMember urgent prim s result)

theorem judged_cycle (rdg : Reading) (ha : s.active = some transport)
    (h : Judged start generation transport.primary heard s) :
    Judged start generation transport.primary
      (heard ++ cycleHeard (s.health.urgent ∪ drained rdg) rdg) (s.runProbeCycle rdg) ∧
    (s.runProbeCycle rdg).active = some transport ∧
    (s.runProbeCycle rdg).health.urgent = ∅ := by
  refine ⟨?_, (same_runProbeCycle s rdg).active.trans ha, ?_⟩
  · unfold runProbeCycle
    rw [ha]
    exact judged_answers _ rdg.probes ⟨h.accepted, h.failed, h.streak, h.reported⟩
  · unfold runProbeCycle
    rw [ha]
    exact urgent_answers _ _ rdg.probes _

theorem judged_cycles :
    ∀ (cycles : List Reading) {heard : List (ReceiverId × Answered)} {s : Supervisor},
      s.active = some transport → Judged start generation transport.primary heard s →
      Judged start generation transport.primary (heard ++ heardIn s.health.urgent cycles)
        (cycles.foldl runProbeCycle s)
  | [], heard, s, _, h => by simpa [heardIn] using h
  | reading :: rest, heard, s, ha, h => by
      obtain ⟨hf, ha', hu⟩ := judged_cycle reading ha h
      have hr := judged_cycles rest ha' hf
      rw [hu] at hr
      simpa [heardIn] using hr

theorem updates_probeMember (s : Supervisor) (res : ReceiverId × ProbeAnswer) :
    s.updates <+: (probeMember urgent prim s res).updates := by
  unfold probeMember
  split
  · exact prefix_rfl
  · split
    · exact prefix_rfl
    · exact prefix_append _ _

theorem updates_answers (urgent : Finset ReceiverId) (prim : Option ReceiverId) :
    ∀ (ress : List (ReceiverId × ProbeAnswer)) (s : Supervisor),
      s.updates <+: (ress.foldl (probeMember urgent prim) s).updates
  | [], _ => prefix_rfl
  | result :: rest, s =>
    (updates_probeMember urgent prim s result).trans (updates_answers urgent prim rest _)

theorem updates_runProbeCycle (s : Supervisor) (rdg : Reading) :
    s.updates <+: (s.runProbeCycle rdg).updates := by
  unfold runProbeCycle
  split
  · exact prefix_rfl
  · refine List.IsPrefix.trans ?_ (updates_answers _ _ rdg.probes _)
    exact prefix_rfl

/-! ## A new generation -/

/-- Without a transport nothing is kept of probes. -/
def Unprobed (s : Supervisor) : Prop := s.active = none → s.stage ≠ .ended → s.health = {}

theorem Unprobed.startGeneration (h : Unprobed s) (prms : ReconcileParams) :
    Unprobed (s.startGeneration prms) := by
  unfold Supervisor.startGeneration
  split
  · exact h
  · dsimp only
    split <;> exact fun _ _ => rfl

theorem Unprobed.rebuildForCause (h : Unprobed s) (rsn : RestartReason) :
    Unprobed (s.rebuildForCause rsn) := by
  unfold Supervisor.rebuildForCause
  split
  · exact h
  · exact Unprobed.startGeneration (s := s.pushUpdate _) h _

/-- Without a transport a probe cycle keeps nothing. -/
theorem Unprobed.runProbeCycle (h : Unprobed s) (rdg : Reading) :
    Unprobed (s.runProbeCycle rdg) := by
  cases ha : s.active with
  | none =>
    unfold Supervisor.runProbeCycle
    rw [ha]
    exact h
  | some =>
    intro hn
    rw [(same_runProbeCycle s rdg).active, ha] at hn
    cases hn

theorem Unprobed.applyInlineRequest (h : Unprobed s) (req : SessionRequest)
    (rdg : Reading) : Unprobed (s.applyInlineRequest req rdg) := by
  cases req with
  | reconcile => exact h
  | setVolume recv =>
    show Unprobed (s.setMemberVolume recv rdg)
    unfold Supervisor.setMemberVolume
    split
    · exact h
    · split
      · split <;> exact h
      · exact h
  | probe => exact h.runProbeCycle rdg
  | networkChanged => exact h.rebuildForCause _
  | suspend =>
    show Unprobed s.suspend
    unfold Supervisor.suspend
    dsimp only
    split <;> exact fun _ _ => rfl
  | resume => exact h.rebuildForCause _

theorem Unprobed.applyInline : ∀ (reqs : List SessionRequest) (rdgs : List Reading)
    {s : Supervisor}, Unprobed s → Unprobed (s.applyInline reqs rdgs)
  | [], _, _, h => h
  | request :: rest, rdgs, _, h =>
    Unprobed.applyInline rest rdgs.tail (h.applyInlineRequest request (rdgs.headD {}))

theorem Unprobed.handle (h : Unprobed s) (pend : List SessionRequest)
    (rdgs : List Reading) : Unprobed (s.handle pend rdgs) := by
  have hi := Unprobed.applyInline (coalesce pend).1 rdgs h
  unfold Supervisor.handle
  dsimp only
  split
  · exact hi.startGeneration _
  · exact hi

/-- No move of the supervisor leaves probes behind. -/
theorem Unprobed.step {s : Supervisor} (h : Unprobed s) (move : Move) : Unprobed (s.step move) := by
  cases move with
  | send req =>
    unfold Supervisor.step Supervisor.trySend
    cases req <;> dsimp only <;> split <;> exact h
  | remember => exact h
  | complete res =>
    unfold Supervisor.step Supervisor.complete
    dsimp only
    split
    · exact h
    · split
      · cases res <;> exact h
      · exact h
  | adopt =>
    unfold Supervisor.step
    dsimp only
    split
    · rename_i hw
      have hk : s.active = none → s.health = {} :=
        fun hn => h hn (by rw [hw]; exact Stage.noConfusion)
      unfold Supervisor.adopt
      split
      · exact h
      · dsimp only
        split
        · exact h
        · split <;> exact fun hn _ => hk hn
        · split <;> exact fun hn _ => hk hn
        · exact fun hn _ => hk hn
    · exact h
  | turn rdgs =>
    have ht := turn_turned s rdgs
    simp only [Supervisor.step]
    generalize s.turn rdgs = s' at ht
    cases ht with
    | still => exact h
    | waited => exact Unprobed.handle (s := { s with requests := [] }) h _ _
    | replayed _ replaying =>
      refine Unprobed.handle (s := { s with stage := .waiting, requests := [] }) ?_ _ _
      exact fun hn _ => h hn (by rw [replaying]; exact Stage.noConfusion)
  | probe rdg =>
    unfold Supervisor.step
    dsimp only
    split
    · exact h.runProbeCycle rdg
    · exact h
  | activationRequest =>
    have hm := activationRequest_interrupted s
    simp only [Supervisor.step]
    generalize s.activationRequest = s' at hm
    cases hm with
    | still => exact h
    | dropped => exact h
    | replaced _ _ _ _ _ activating =>
      exact fun hn _ => h hn (by rw [activating]; exact Stage.noConfusion)
  | activated succeeded rdg =>
    unfold Supervisor.step Supervisor.activated
    dsimp only
    split
    · rename_i generation transport hs
      have hk : s.active = none → s.health = {} :=
        fun hn => h hn (by rw [hs]; exact Stage.noConfusion)
      split
      · intro hn
        cases hn
      · exact fun hn _ => hk hn
    · exact h
  | cancel =>
    unfold Supervisor.step Supervisor.cancel
    dsimp only
    split
    · exact h
    · exact fun _ he => absurd rfl he
    · exact fun _ he => absurd rfl he
    · exact fun _ he => absurd rfl he

theorem run_unprobed (moves : List Move) : Unprobed (run {} moves) :=
  @Mealy.run_invariant _ _ _ (Mealy.silent Supervisor.step) Unprobed (fun _ move h => h.step move)
    {} (fun _ _ => rfl) moves

/-! ## A generation and its cycles -/

variable (adoption : Reading)

/-- What a generation has heard when it goes active. -/
theorem judged_activated
    {prim : ReceiverId} (hs : s.stage = .activating generation transport)
    (hp : transport.primary = some prim) (hh : s.health = {})
    (ha : generation = s.accepted) :
    (s.activated true adoption).active = some { transport with failures := [] } ∧
    (s.activated true adoption).health.urgent = drained adoption ∧
    Judged (s.activated true adoption).updates generation transport.primary []
      (s.activated true adoption) := by
  unfold activated
  rw [hs]
  dsimp only
  rw [hp]
  refine ⟨rfl, ?_, ha.symm, fun recv => ?_, fun recv _ => ?_, [], ?_, ?_, ?_⟩
  · simp [drainRuntimeEvents, pushUpdate, hh, drained]
  · simpa [drainRuntimeEvents, pushUpdate, hh, answersOf] using not_failing_nil
  · simp [drainRuntimeEvents, pushUpdate, hh, answersOf]
  · simp
  · simp
  · simp [drainRuntimeEvents, pushUpdate, hh]

/-- The first cycle that fails a receiver, of those after the adoption. -/
def FirstFails (front : List Reading) (reading : Reading)
    (receiver : ReceiverId) : Prop :=
  Failing (answersOf receiver (heardIn (drained adoption) (front ++ [reading]))) ∧
    ¬ Failing (answersOf receiver (heardIn (drained adoption) front))

/-- The probe policy fails the right members: whatever the members answer
and whatever send failures are drained, a cycle of a generation reports the
receivers of which it is the first to hear a failing answer, each once and
flagged by the primary, and over all cycles none is reported twice. -/
theorem probe_policy (moves : List Move) (generation : Nat) (transport : Transport)
    (primary : ReceiverId) (adoption : Reading) (front : List Reading) (reading : Reading)
    (hstage : (run {} moves).stage = .activating generation transport)
    (hprimary : transport.primary = some primary) :
    ∃ before pushed : List SessionUpdate,
      (front.foldl runProbeCycle ((run {} moves).activated true adoption)).updates
        = ((run {} moves).activated true adoption).updates ++ before ∧
      ((front ++ [reading]).foldl runProbeCycle ((run {} moves).activated true adoption)).updates
        = ((run {} moves).activated true adoption).updates ++ before ++ pushed ∧
      (∀ update ∈ before ++ pushed, ∃ receiver error,
        update = .memberFailed generation receiver (decide (receiver = primary)) error) ∧
      (∀ receiver, (before ++ pushed).countP (isFailureOf receiver) ≤ 1) ∧
      ∀ receiver, (pushed.countP (isFailureOf receiver) = 1 ↔
        FirstFails adoption front reading receiver) := by
  obtain ⟨hac, -⟩ := (run_placed moves).activating generation transport hstage
  have hh := run_unprobed moves ((run_alone moves).activating generation transport hstage).2
    (by rw [hstage]; exact Stage.noConfusion)
  obtain ⟨ha, hg, hj⟩ := judged_activated adoption hstage hprimary hh hac
  generalize (run {} moves).activated true adoption = s at ha hg hj ⊢
  have hf := judged_cycles front ha hj
  have hall := judged_cycles (front ++ [reading]) ha hj
  rw [hg, nil_append] at hf hall
  obtain ⟨before, hb, -, hc⟩ := hf.reported
  obtain ⟨reports, hr, hm, hc'⟩ := hall.reported
  have hp := updates_runProbeCycle (front.foldl runProbeCycle s) reading
  rw [foldl_append] at hr
  obtain ⟨pushed, hpu⟩ := hp
  have hsp : before ++ pushed = reports := by
    have hbt : s.updates ++ (before ++ pushed) = s.updates ++ reports := by
      rw [← append_assoc, ← hb, hpu]
      exact hr
    exact append_cancel_left hbt
  subst hsp
  refine ⟨before, pushed, hb, ?_, fun update hu => ?_, fun receiver => ?_, fun receiver => ?_⟩
  · rw [foldl_append, append_assoc]
    exact hr
  · obtain ⟨receiver, error, hu⟩ := hm update hu
    refine ⟨receiver, error, ?_⟩
    rw [hu, show ({ transport with failures := [] } : Transport).primary = some primary
      from hprimary]
    simp [eq_comm]
  · rw [hc']
    split <;> omega
  · have hs := hc' receiver
    rw [countP_append, hc receiver] at hs
    unfold FirstFails
    rw [← hf.failed, ← hall.failed]
    by_cases he : receiver ∈ (front.foldl runProbeCycle s).health.failed
    · rw [if_pos he] at hs
      refine iff_of_false (fun ho => ?_) (fun ht => ht.2 he)
      rw [ho] at hs
      split at hs <;> omega
    · rw [if_neg he, Nat.zero_add] at hs
      rw [hs]
      split
      · rename_i hl
        exact iff_of_true rfl ⟨hl, he⟩
      · rename_i hl
        exact iff_of_false Nat.zero_ne_one (fun ht => hl ht.1)

/-- The only member does not answer. -/
def silence : Reading where
  probes := [(⟨1⟩, .timedOut)]

theorem probe_policy_silence : ∃ before pushed : List SessionUpdate,
      ([silence, silence].foldl runProbeCycle ((run {} [.send (.reconcile (oneReceiver 1)),
        .turn [], .complete oneMember, .adopt]).activated true {})).updates
          = [.starting 1, .active 1 ⟨1⟩ {⟨1⟩} []] ++ before ++ pushed ∧
      pushed.countP (isFailureOf ⟨1⟩) = 1 := by
  obtain ⟨before, pushed, -, hu, -, -, hp⟩ := probe_policy
    [.send (.reconcile (oneReceiver 1)), .turn [], .complete oneMember, .adopt] 1
    ⟨0, some ⟨1⟩, {⟨1⟩}, []⟩ ⟨1⟩ {} [silence] silence rfl rfl
  refine ⟨before, pushed, hu, (hp ⟨1⟩).mpr ⟨?_, ?_⟩⟩
  · exact ⟨[(.timedOut, false)], .timedOut, false, [], by decide, .inl rfl⟩
  · -- a first timeout is no failure
    have hh : answersOf ⟨1⟩ (heardIn (drained {}) [silence]) = [] ++ [(.timedOut, false)] := by
      decide
    rw [hh, failing_concat]
    rintro (hn | hr | ha)
    · exact not_failing_nil hn
    · cases hr
    · cases ha

end Supervisor

end OpenAirCast.Backend
