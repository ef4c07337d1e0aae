/-
Backend.LoopTheorems — what the events that carry no command
leave alone.

Discovery, capture, the session supervisor, the platform edges and the
timers touch neither the document nor what mirrors it (`other_keeps`). The
launch start is the exception: it spends itself and sets the run intent.
-/
import OpenAirCast.Backend.CourseTheorems

namespace OpenAirCast.Backend.Controller

/-- The session is no part of the ledger. -/
theorem session_cosmetic (chg : FullSnapshot → FullSession) :
    Cosmetic (fun next => { next with session := chg next }) :=
  ⟨fun _ => rfl, fun _ => rfl⟩

theorem recorded_frame (c : Controller) (outs : CommandOutcomes) :
    Frame c { c with snapshot := { c.snapshot with commandOutcomes := outs } } :=
  ⟨rfl, rfl, rfl, le_refl _⟩

theorem intent_of_keeps {c c' : Controller} (h : Keeps c c') :
    c'.snapshot.runIntent = c.snapshot.runIntent :=
  congrArg (·.kept.runIntent) h.ledger

section Courses

variable [Lowercase] {c c' : Controller} {results : List (Nat × Option CommandFailure)}

theorem Course.keeps
    (h : Course { stores := false, alters := false, starts := false } c results c') :
    Keeps c c' := by
  have hs : ∀ (c : Controller) {next : FullSnapshot}, Lasting c.snapshot next →
      Keeps c { c with snapshot := next } :=
    fun c _ same => ⟨by simp only [ledger, same.kept], le_of_eq same.revision.symm⟩
  induction h with
  | trans _ _ ihab ihbc => exact ihab.trans ihbc
  | publish c => exact (publish_frame c).keeps
  | dull c same => exact hs c same.toLasting
  | phase c _ same => exact hs c same
  | record c => exact (recorded_frame c _).keeps
  | refuse c id => exact (notePersistenceFailure_frame c id).keeps
  | rows c _ same =>
    have hr : Lasting c.settleMachines.snapshot (c.settleMachines.withRows _) :=
      { same.toLasting with }
    exact (Keeps.of_eq rfl rfl : Keeps c c.settleMachines).trans (hs _ hr)
  | attempt _ _ _ write never => cases write <;> cases never
  | disarm c never | intent c never | adopt c never | announce c never | calibrate c never =>
    cases never
  | _ => exact Keeps.of_eq rfl rfl

theorem Course.frame
    (h : Course { stores := false, alters := false, starts := false, runs := false } c results c') :
    Frame c c' := by
  have hs : ∀ (c : Controller) {next : FullSnapshot}, Lasting c.snapshot next →
      Frame c { c with snapshot := next } := fun c _ same =>
    ⟨by simp only [ledger, same.kept], rfl, rfl, le_of_eq same.revision.symm⟩
  induction h with
  | refl c => exact .refl c
  | trans _ _ ihab ihbc => exact ihab.trans ihbc
  | publish c => exact publish_frame c
  | dull c same => exact hs c same.toLasting
  | phase c _ same => exact hs c same
  | record c => exact recorded_frame c _
  | refuse c id => exact notePersistenceFailure_frame c id
  | note c plain =>
    refine emit_frame c ?_
    cases ‹Emission› <;> first | rfl | cases plain
  | answer c | stage c => exact emit_frame c rfl
  | aside c | unmark c => exact ⟨rfl, rfl, rfl, le_refl _⟩
  | attempt _ _ _ write never => cases write <;> cases never
  | disarm c never | intent c never | adopt c never | announce c never | calibrate c never
  | settle c never | rows c never | drive c never | deadline c never | restart c never
  | sight c never | volume c never | mint c never | reconcile c never | close c never
  | alarm c never | wake c never | move c never | count c never | join c never | raise c never =>
    cases never

variable {scope : Scope}

theorem Course.lastOutcome (h : Course scope c results c') :
    c'.lastOutcome = results.getLast?.or c.lastOutcome := by
  have hs : ∀ (c : Controller) {next : FullSnapshot},
      next.commandOutcomes = c.snapshot.commandOutcomes →
        ({ c with snapshot := next } : Controller).lastOutcome = c.lastOutcome := by
    intro c next same
    unfold Controller.lastOutcome
    rw [same]
  induction h with
  | trans _ _ ihab ihbc => rw [ihbc, ihab, List.getLast?_append, Option.or_assoc]
  | publish c => exact publish_lastOutcome c
  | dull c same => exact hs c same.outcomes
  | announce c _ same => exact hs c same.outcomes
  | phase c _ same => exact hs c same.outcomes
  | rows c _ same => exact hs c.settleMachines same.outcomes
  | record => exact getLast?_record _ _ _
  | refuse c id => exact notePersistenceFailure_lastOutcome c id
  | _ => rfl

/-- A course that asks for no write leaves the log of writes alone. -/
theorem Course.attempts (hn : ∀ write, scope.writes write = false)
    (h : Course scope c results c') : c'.attempts = c.attempts := by
  induction h with
  | trans _ _ ihab ihbc => exact ihbc.trans ihab
  | publish c =>
    obtain ⟨_, _, -, hp⟩ := publish_eq c
    rw [hp]
  | attempt _ _ _ write hw =>
    rw [hn write] at hw
    cases hw
  | refuse => simp only [notePersistenceFailure, failWithKind, emit]
  | _ => rfl

theorem Course.sameIntent (h : Course { starts := false } c results c') :
    c'.snapshot.runIntent = c.snapshot.runIntent := by
  induction h with
  | trans _ _ ihab ihbc => exact ihbc.trans ihab
  | publish c => exact intent_of_keeps (publish_frame c).keeps
  | dull _ same => exact congrArg View.runIntent same.view
  | rows _ _ same => exact congrArg View.runIntent same.view
  | announce _ _ same => exact same.intent
  | phase _ _ same => exact congrArg Kept.runIntent same.kept
  | record c => exact intent_of_keeps (recorded_frame c _).keeps
  | refuse c id => exact intent_of_keeps (notePersistenceFailure_frame c id).keeps
  | intent _ never => cases never
  | _ => rfl

end Courses

/-- The events that carry no command and are not the launch start. -/
def isOther : Event → Bool
  | .batch _ | .autoConnectDue => false
  | .discovery _ | .capture _ | .captureTelemetry _ _ | .endpoints _ | .session _ | .system _
  | .resumeSettled | .retryDue => true

theorem other_course [Lowercase] (c : Controller) (ports : Ports) {ev : Event}
    (h : isOther ev = true) :
    Course { stores := false, alters := false, starts := false } c [] (c.handle ports ev) := by
  refine handle_course c ?_
  cases ev with
  | batch | autoConnectDue => cases h
  | discovery upd => cases upd <;> simp [Admits]
  | capture | captureTelemetry | endpoints | session | system | resumeSettled | retryDue =>
    simp [Admits]

theorem other_keeps [Lowercase] (c : Controller) (ports : Ports) {ev : Event}
    (h : isOther ev = true) : Keeps c (c.handle ports ev) :=
  (other_course c ports h).keeps

end OpenAirCast.Backend.Controller
