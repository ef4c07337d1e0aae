/-
Backend.SignalTheorems — the health flag of the store and the
retry counters, seen through everything the controller does.

Both are set in very few places: the flag where a write fails, the counters
where the session supervisor reports. `signals` is the two of them, and
`Unmoved` a change that leaves them as they are. A course that counts no
failure moves nothing but the flag, and the flag only with a failed write on
record (`Course.flagged`). So every event leaves them that is neither a batch
nor a report (`other_unmoved`), and `execute_flagged` says which commands of
a batch raise the flag.
-/
import OpenAirCast.Backend.CourseTheorems
import OpenAirCast.Lib.Ladder

namespace OpenAirCast.Backend

/-- How often a receiver has failed, and since when it has streamed. -/
def RetryState.rung (retry : RetryState) (receiver : ReceiverId) : Ladder.Rung where
  attempt := (retry.entry receiver).attempt
  since := (retry.entry receiver).streamingSince

/-- Clearing a deadline leaves the counters alone. -/
@[simp] theorem RetryState.rung_clearDeadline (retry : RetryState) (recv : ReceiverId) :
    (retry.clearDeadline recv).rung = retry.rung := by
  funext other
  unfold clearDeadline
  cases he : retry.receivers.get recv with
  | none => rfl
  | some ent =>
    simp only [rung, RetryState.entry, SortedMap.get_insert]
    split
    · rename_i hs
      simp [hs, he]
    · rfl

namespace Controller

structure Signals where
  persistence : PersistenceSnapshot
  rung : ReceiverId → Ladder.Rung
  policy : RetryPolicy

def signals (c : Controller) : Signals where
  persistence := c.snapshot.persistence
  rung := c.retry.rung
  policy := c.policy

/-- The flag, the counters and the policy stay. -/
structure Unmoved (c c' : Controller) : Prop where
  same : c'.signals = c.signals

variable (c : Controller)

theorem Unmoved.refl : Unmoved c c := ⟨rfl⟩

theorem Unmoved.trans {a b c : Controller} (ha : Unmoved a b) (hb : Unmoved b c) : Unmoved a c :=
  ⟨hb.same.trans ha.same⟩

theorem Unmoved.flag {c c' : Controller} (h : Unmoved c c') :
    c'.snapshot.persistence = c.snapshot.persistence :=
  congrArg Signals.persistence h.same

theorem settleMachines_unmoved : Unmoved c c.settleMachines := by
  have hf : ∀ (keys : List ReceiverId) (desired : Finset ReceiverId) (retry : RetryState),
      (keys.foldl (fun retry id => if id ∈ desired then retry else retry.clearDeadline id)
        retry).rung = retry.rung := by
    intro keys desired
    induction keys with
    | nil => simp
    | cons id _ ih =>
      intro retry
      rw [List.foldl_cons, ih]
      split
      · rfl
      · exact retry.rung_clearDeadline id
  constructor
  simp only [signals, settleMachines, hf]

/-- The flag is up after a failed write, and as it was otherwise. -/
structure Flagged (c c' : Controller) (answer : Option Bool) : Prop where
  flag : c'.snapshot.persistence = if answer = some false then .error else c.snapshot.persistence
  rung : c'.retry.rung = c.retry.rung
  policy : c'.policy = c.policy

theorem Unmoved.flagged {c c' : Controller} (h : Unmoved c c') : Flagged c c' none where
  flag := h.flag
  rung := congrArg Signals.rung h.same
  policy := congrArg Signals.policy h.same

/-! ## Courses -/

/-- A failed write is among the results. -/
def refused (results : List (Nat × Option CommandFailure)) : Bool :=
  results.any (fun result => result.2 = some .persistence)

section Courses

variable [Lowercase] {c c' : Controller} {results : List (Nat × Option CommandFailure)}

/-- A course that counts no failure raises the flag with a failed write and
moves nothing else. -/
theorem Course.flagged (h : Course { counts := false } c results c') :
    Flagged c c' (if refused results then some false else none) := by
  have hu : ∀ {c c' : Controller}, Unmoved c c' →
      Flagged c c' (if refused [] then some false else none) := fun h => h.flagged
  have hs : ∀ (c : Controller) {next : FullSnapshot},
      next.persistence = c.snapshot.persistence → Unmoved c { c with snapshot := next } := by
    intro c next h
    constructor
    simp only [signals, h]
  have hr : ∀ (c : Controller) outcomes, Unmoved c
      { c with snapshot := { c.snapshot with commandOutcomes := outcomes } } := fun _ _ => ⟨rfl⟩
  induction h with
  | @trans a b c front back _ _ ihab ihbc =>
    refine ⟨?_, ihbc.rung.trans ihab.rung, ihbc.policy.trans ihab.policy⟩
    have ha : refused (front ++ back) = (refused front || refused back) := by simp [refused]
    rw [ihbc.flag, ihab.flag, ha]
    cases refused front <;> cases refused back <;> rfl
  | publish c =>
    obtain ⟨_, _, -, heq⟩ := c.publish_eq
    rw [heq]
    exact hu ⟨rfl⟩
  | dull c same => exact hu (hs c same.persistence)
  | announce c _ same => exact hu (hs c same.persistence)
  | phase c _ same => exact hu (hs c same.persistence)
  | @record c id err written =>
    have hw : refused [(id, err)] = false := by simp [refused, written]
    rw [hw]
    exact (hr c _).flagged
  | refuse _ id =>
    have hf : refused [(id, some .persistence)] = true := by simp [refused]
    rw [hf]
    unfold notePersistenceFailure failWithKind
    dsimp only
    generalize CommandOutcomes.record _ _ _ = outcomes
    exact ⟨rfl, rfl, rfl⟩
  | settle c => exact hu (settleMachines_unmoved c)
  | rows c _ same =>
    have hrw : Unmoved c.settleMachines (c.showRows _) := hs _ same.persistence
    exact hu ((settleMachines_unmoved c).trans hrw)
  | deadline =>
    refine hu ⟨?_⟩
    simp [signals, clearDeadline]
  | count _ _ never => cases never
  | _ => exact hu ⟨rfl⟩

theorem Course.unmoved (h : Course { counts := false } c [] c') : Unmoved c c' := by
  have hflagg := h.flagged
  have hf : c'.snapshot.persistence = c.snapshot.persistence := hflagg.flag
  constructor
  simp only [signals, hf, hflagg.rung, hflagg.policy]

theorem Batch.Verdict.flagged {id : Nat} {ans : Option Bool}
    (h : Batch.Verdict { counts := false } c c' id ans) : Flagged c c' ans := by
  obtain ⟨err, hc, hr⟩ := h
  have hf := hc.flagged
  refine ⟨?_, hf.rung, hf.policy⟩
  rw [hf.flag]
  by_cases h : err = some .persistence
  · simp [refused, h, hr.mp h]
  · simp [refused, h, mt hr.mpr h]

end Courses

variable [Lowercase]

/-! ## Events and commands -/

/-- The events that neither carry commands nor report of a session. -/
def isAside : Event → Bool
  | .batch _ | .session _ => false
  | .discovery _ | .capture _ | .captureTelemetry _ _ | .endpoints _ | .system _ | .resumeSettled
  | .retryDue | .autoConnectDue => true

theorem other_unmoved (ports : Ports) {ev : Event} (h : isAside ev = true) :
    Unmoved c (c.handle ports ev) := by
  have hc : Course { counts := false } c [] (c.handle ports ev) := by
    refine handle_course c ?_
    cases ev with
    | batch | session => cases h
    | discovery upd => cases upd <;> simp [Admits]
    | capture | captureTelemetry | endpoints | system | resumeSettled | retryDue
    | autoConnectDue => simp [Admits]
  exact hc.unmoved

/-- Of all commands those raise the flag whose write fails, and none lowers
it. -/
theorem Batch.execute_flagged (b : Batch) (ports : Ports) (e : ControllerEnvelope) :
    Flagged b.actor (b.execute ports e).actor (attempt b.actor ports e) := by
  have hv : Batch.Verdict { counts := false } b.actor (b.execute ports e).actor e.id
      (attempt b.actor ports e) := by
    refine Batch.execute_verdict rfl b e ?_
    refine ⟨fun _ _ _ => rfl, fun _ => ⟨rfl, rfl⟩, ?_⟩
    cases e.command <;> simp [Batch.Permits]
  exact hv.flagged

theorem Batch.settle_unmoved (b : Batch) : Unmoved b.actor b.settle :=
  (Batch.settle_course rfl rfl rfl b).unmoved

/-- No command touches the counters or their policy. -/
theorem processBatch_rung (ports : Ports) (pend : PendingBatch) :
    (c.processBatch ports pend).policy = c.policy ∧
      (c.processBatch ports pend).retry.rung = c.retry.rung := by
  have hn : ∀ (order : List ControllerEnvelope) (b : Batch),
      (order.foldl (Batch.next ports) b).actor.policy = b.actor.policy ∧
        (order.foldl (Batch.next ports) b).actor.retry.rung = b.actor.retry.rung := by
    intro order
    induction order with
    | nil => exact fun b => ⟨rfl, rfl⟩
    | cons e _ ih =>
      intro b
      rw [List.foldl_cons]
      obtain ⟨hp, hr⟩ := ih (b.next ports e)
      rw [hp, hr, Batch.next]
      split
      · exact ⟨rfl, rfl⟩
      · have ho := Batch.execute_flagged b ports e
        exact ⟨ho.policy, ho.rung⟩
  obtain ⟨hp, hr⟩ := hn pend.order { actor := c }
  have hs := (Batch.settle_unmoved (pend.order.foldl (Batch.next ports) { actor := c }) ).flagged
  exact ⟨hs.policy.trans hp, hs.rung.trans hr⟩

end Controller

end OpenAirCast.Backend
