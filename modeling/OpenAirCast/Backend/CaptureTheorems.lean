/-
Backend.CaptureTheorems — what becomes of a suspend, a resume
and a stop.

The controls requested so far say what capture is to do (`Wanted`), and so
does the phase the supervisor is in (`Supervisor.level`). Between the two
stands one unread value. `Follows` says that reading it brings the
supervisor to what is wanted; every event keeps it but a request that
overwrites a value whose effect it does not have (`Heard`).
-/
import OpenAirCast.Backend.Capture

namespace OpenAirCast.Backend.Capture

open Option CaptureWorker List Mealy

/-! ## What is wanted -/

inductive Wanted where
  | running
  | suspended
  | stopped
  deriving DecidableEq

/-- The last of suspend and resume decides, until there is a stop. -/
def Wanted.after (wanted : Wanted) (control : CaptureControl) : Wanted :=
  match wanted, control with
  | .stopped, _ => .stopped
  | _, .stop => .stopped
  | _, .suspend => .suspended
  | _, .resume => .running
  | wanted, .requestEndpointChange => wanted

def Wanted.next (wanted : Wanted) : SupervisorEvent → Wanted
  | .requestControl control => wanted.after control
  | _ => wanted

/-- What the events have asked for. -/
def wantedBy (events : List SupervisorEvent) : Wanted := events.foldl Wanted.next .running

/-! ## Workers -/

namespace CaptureWorker

variable {w : CaptureWorker}

@[simp] theorem cancel_uncancelled (w : CaptureWorker) : w.cancel.uncancelled = false := rfl

@[simp] theorem report_uncancelled (w : CaptureWorker) (gen : Nat) (endp : AudioEndpoint) :
    (w.report gen endp).uncancelled = w.uncancelled := by
  unfold report
  split <;> rfl

theorem finish_uncancelled {gen : Nat} {outc : WorkerEnd}
    (h : w.uncancelled = false) : (w.finish gen outc).uncancelled = false := by
  unfold finish
  split
  · simp [uncancelled]
  · exact h

/-- A worker that never became ready has ended. -/
def Told (w : CaptureWorker) : Prop := w.readiness = .failed → w.outcome.isSome = true

theorem told_cancel (h : w.Told) : w.cancel.Told := h

theorem told_report (h : w.Told) (gen : Nat) (endp : AudioEndpoint) : (w.report gen endp).Told := by
  unfold report
  split
  · exact fun hf => by cases hf
  · exact h

theorem told_finish (h : w.Told) (gen : Nat) (outc : WorkerEnd) : (w.finish gen outc).Told := by
  unfold finish
  split
  · exact fun _ => rfl
  · exact h

end CaptureWorker

namespace Supervisor

/-- No worker goes on uncancelled. -/
def Quiet (s : Supervisor) : Prop := ∀ w ∈ s.workers, w.uncancelled = false

/-- Only the worker of this generation can go on, and only while it is
awaited. -/
structure Sound (s : Supervisor) : Prop where
  past : ∀ w ∈ s.past, w.uncancelled = false
  current : s.phase ≠ .handshake → s.phase ≠ .capturing → ∀ w ∈ s.worker, w.uncancelled = false
  told : ∀ w ∈ s.worker, w.Told

variable {s : Supervisor}

theorem quiet_iff :
    s.Quiet ↔ (∀ w ∈ s.past, w.uncancelled = false) ∧ ∀ w ∈ s.worker, w.uncancelled = false := by
  simp only [Quiet, workers, mem_append, mem_toList, mem_def, or_imp, forall_and]

theorem Sound.quiet {s : Supervisor} (h : s.Sound) (hh : s.phase ≠ .handshake)
    (hc : s.phase ≠ .capturing) : s.Quiet :=
  quiet_iff.mpr ⟨h.past, h.current hh hc⟩

theorem quiet_cancelChild (h : ∀ w ∈ s.past, w.uncancelled = false) :
    s.cancelChild.Quiet := by
  refine quiet_iff.mpr ⟨h, fun w hw => ?_⟩
  obtain ⟨pre, -, rfl⟩ := mem_map.mp hw
  exact pre.cancel_uncancelled

theorem quiet_teardown (s : Supervisor) : s.teardown.Quiet := by
  refine quiet_iff.mpr ⟨fun w hw => ?_, fun w hw => ?_⟩
  · obtain ⟨pre, -, rfl⟩ := mem_map.mp hw
    exact pre.cancel_uncancelled
  · obtain ⟨pre, -, rfl⟩ := mem_map.mp hw
    exact pre.cancel_uncancelled

/-- Of all workers there have been, at most one goes on. -/
theorem Sound.one_uncancelled (h : s.Sound) : (s.workers.filter (·.uncancelled)).length ≤ 1 := by
  have hp : s.past.filter (·.uncancelled) = [] :=
    filter_eq_nil_iff.mpr (fun w hw => by simp [h.past w hw])
  rw [workers, filter_append, hp, nil_append]
  refine (length_filter_le _ _).trans ?_
  cases s.worker <;> simp

/-! ## What a step of the loop can do -/

/-- An update is queued, or the queue is full. -/
theorem trySend_cases {s : Supervisor} (hop : s.updatesOpen = true)
    (upd : Controller.CaptureUpdate) :
    (s.updates.length < SUPERVISOR_CAPACITY ∧ s.trySend upd =
        ({ s with updates := s.updates ++ [⟨s.captureGeneration, upd⟩] }, .sent)) ∨
      (SUPERVISOR_CAPACITY ≤ s.updates.length ∧ s.trySend upd = (s, .overloaded)) := by
  unfold trySend
  rw [if_neg (by simp [hop])]
  by_cases hr : s.updates.length < SUPERVISOR_CAPACITY
  · exact .inl ⟨hr, if_pos hr⟩
  · exact .inr ⟨Nat.le_of_not_lt hr, if_neg hr⟩

/-- A new generation is announced, or the loop yields. -/
theorem beginGeneration_cases (hop : s.updatesOpen = true) :
    (s.updates.length < SUPERVISOR_CAPACITY ∧ s.beginGeneration = ({ s with
            captureGeneration := s.captureGeneration + 1
            past := s.workers
            worker := none
            updates := s.updates ++ [⟨s.captureGeneration + 1, .started⟩]
            phase := .opening
            openedWith := s.preference }, [.sent])) ∨
      (s.beginGeneration = ({ s with
            captureGeneration := s.captureGeneration + 1
            past := s.workers
            worker := none
            phase := .yielding }, [.overloaded])) := by
  unfold beginGeneration pushUpdate
  rcases @trySend_cases { s with
      captureGeneration := s.captureGeneration + 1
      past := s.workers
      worker := none } hop .started with ⟨hr, hs⟩ | ⟨-, hs⟩
  · left
    simp only [hs]
    exact ⟨hr, trivial⟩
  · right
    simp only [hs]
    rfl

/-- Parking tries one update, whatever becomes of it. -/
theorem park_cases (hop : s.updatesOpen = true) : ∃ updates flow, s.park = ({ s with
            state := .unavailable
            capturedEndpoint := none
            updates := updates
            phase := .parked }, [flow]) ∧
      ((flow = .sent ∧ updates = s.updates ++ [⟨s.captureGeneration, .suspended⟩]) ∨
        flow = .overloaded) := by
  unfold park
  rcases @trySend_cases { s with state := .unavailable, capturedEndpoint := none } hop
    .suspended with ⟨-, hs⟩ | ⟨-, hs⟩
  · simp only [hs]
    exact ⟨_, _, rfl, .inl ⟨rfl, rfl⟩⟩
  · simp only [hs]
    exact ⟨_, _, rfl, .inr rfl⟩

/-- Recovering is reported, or a full queue costs the worker. -/
theorem climbLadder_cases (hop : s.updatesOpen = true) : (s.climbLadder = ({ s with
            state := .recovering
            capturedEndpoint := none
            updates := s.updates ++ [⟨s.captureGeneration, .recovering⟩]
            phase := .recovering }, [.sent])) ∨
      ∃ full : Supervisor, full = { s with state := .recovering, capturedEndpoint := none } ∧
        s.climbLadder = (full.cancelChild.cancelChild.beginGeneration.1,
          .overloaded :: full.cancelChild.cancelChild.beginGeneration.2) := by
  unfold climbLadder pushUpdate
  rcases @trySend_cases { s with state := .recovering, capturedEndpoint := none } hop
    .recovering with ⟨-, hs⟩ | ⟨-, hs⟩
  · left
    simp only [hs]
  · right
    refine ⟨_, rfl, ?_⟩
    simp only [hs]

/-- Readiness is reported, or a full queue costs the worker. -/
theorem becomeReady_cases (hop : s.updatesOpen = true) (endp : AudioEndpoint) :
    (s.becomeReady endp = ({ s with
            state := .capturing
            capturedEndpoint := some endp
            updates := s.updates ++ [⟨s.captureGeneration, .ready endp⟩]
            phase := .capturing }, [.sent])) ∨
      (s.becomeReady endp = ({ s.cancelChild.cancelChild with
            state := .capturing
            capturedEndpoint := some endp
            phase := .yielding }, [.overloaded])) := by
  unfold becomeReady pushUpdate
  rcases @trySend_cases { s with state := .capturing, capturedEndpoint := some endp } hop
    (.ready endp) with ⟨-, hs⟩ | ⟨-, hs⟩
  · left
    simp only [hs]
  · right
    simp only [hs]
    rfl

/-! ## Going on -/

end Supervisor

/-- The loop is under way, and not parked. -/
def CapturePhase.isActive : CapturePhase → Bool
  | .opening | .handshake | .capturing | .recovering | .yielding => true
  | .spawned | .parked | .joining | .ended => false

namespace Supervisor

variable {control : CaptureControl} {read : Supervisor}

/-- What every way to go on leaves: the control channel as it was, and an
active loop. -/
structure GoesOn (s r : Supervisor) : Prop where
  control : r.control = s.control
  isOpen : r.updatesOpen = true
  active : r.phase.isActive = true
  sound : r.Sound

variable {s : Supervisor}

theorem sound_of_none (hp : ∀ w ∈ s.past, w.uncancelled = false)
    (hn : s.worker = none) : s.Sound := by
  refine ⟨hp, fun _ _ w hw => ?_, fun w hw => ?_⟩ <;> simp [hn] at hw

theorem beginGeneration_goesOn (hop : s.updatesOpen = true) (hq : s.Quiet) :
    GoesOn s s.beginGeneration.1 := by
  rcases beginGeneration_cases hop with ⟨-, hb⟩ | hb
  · rw [hb]
    exact ⟨rfl, hop, rfl, sound_of_none hq rfl⟩
  · rw [hb]
    exact ⟨rfl, hop, rfl, sound_of_none hq rfl⟩

theorem climbLadder_goesOn (hop : s.updatesOpen = true) (hq : s.Quiet)
    (ht : ∀ w ∈ s.worker, w.Told) : GoesOn s s.climbLadder.1 := by
  obtain ⟨hp, hw⟩ := quiet_iff.mp hq
  rcases climbLadder_cases hop with hc | ⟨_, rfl, hc⟩
  · rw [hc]
    exact ⟨rfl, hop, rfl, hp, fun _ _ => hw, ht⟩
  · rw [hc]
    obtain ⟨hn, hs, ha, hsn⟩ := beginGeneration_goesOn (s := cancelChild
      (cancelChild { s with state := .recovering, capturedEndpoint := none })) hop
      (quiet_cancelChild hp)
    exact ⟨hn, hs, ha, hsn⟩

theorem becomeReady_goesOn (hop : s.updatesOpen = true)
    (hp : ∀ w ∈ s.past, w.uncancelled = false) (ht : ∀ w ∈ s.worker, w.Told)
    (endp : AudioEndpoint) : GoesOn s (s.becomeReady endp).1 := by
  rcases becomeReady_cases hop endp with hr | hr
  · rw [hr]
    exact ⟨rfl, hop, rfl, hp, fun _ hne => absurd rfl hne, ht⟩
  · rw [hr]
    have hq := quiet_cancelChild (s := s.cancelChild) hp
    refine ⟨rfl, hop, rfl, hp, fun _ _ => (quiet_iff.mp hq).2, fun w hw => ?_⟩
    simp only [cancelChild, Option.map_map, Option.mem_map, Function.comp_apply] at hw
    obtain ⟨pre, hb, rfl⟩ := hw
    exact CaptureWorker.told_cancel (CaptureWorker.told_cancel (ht pre hb))

/-- What parking leaves. -/
structure Parks (s r : Supervisor) : Prop where
  control : r.control = s.control
  isOpen : r.updatesOpen = true
  parked : r.phase = .parked
  sound : r.Sound

theorem park_parks (hop : s.updatesOpen = true) (hq : s.Quiet)
    (ht : ∀ w ∈ s.worker, w.Told) : Parks s s.park.1 := by
  obtain ⟨hp, hw⟩ := quiet_iff.mp hq
  obtain ⟨_, _, hr, -⟩ := park_cases hop
  rw [hr]
  exact ⟨rfl, hop, rfl, hp, fun _ _ => hw, ht⟩

theorem teardown_sound (ht : ∀ w ∈ s.worker, w.Told) : s.teardown.Sound := by
  obtain ⟨hp, hr⟩ := quiet_iff.mp s.quiet_teardown
  refine ⟨hp, fun _ _ => hr, fun w hw => ?_⟩
  obtain ⟨pre, hb, rfl⟩ := mem_map.mp hw
  exact ht pre hb

theorem told_cancelChild (ht : ∀ w ∈ s.worker, w.Told) : ∀ w ∈ s.cancelChild.worker, w.Told := by
  intro w hw
  obtain ⟨pre, hb, rfl⟩ := mem_map.mp hw
  exact ht pre hb

theorem sound_mapWorkers (h : s.Sound) {f : CaptureWorker → CaptureWorker}
    (hq : ∀ w : CaptureWorker, w.uncancelled = false → (f w).uncancelled = false)
    (ht : ∀ w : CaptureWorker, w.Told → (f w).Told) : (s.mapWorkers f).Sound := by
  refine ⟨fun w hw => ?_, fun hh hc w hw => ?_, fun w hw => ?_⟩
  · obtain ⟨pre, hb, rfl⟩ := mem_map.mp hw
    exact hq pre (h.past pre hb)
  · obtain ⟨pre, hb, rfl⟩ := mem_map.mp hw
    exact hq pre (h.current hh hc pre hb)
  · obtain ⟨pre, hb, rfl⟩ := mem_map.mp hw
    exact ht pre (h.told pre hb)

/-! ## What reading the control brings -/

/-- What the supervisor does as it stands. -/
def level (s : Supervisor) : Wanted :=
  match s.phase with
  | .parked => .suspended
  | .joining | .ended => .stopped
  | _ => .running

/-- What it will do once it has read this control next. The first poll
reads past whatever is there. -/
def reads (s : Supervisor) (control : CaptureControl) : Wanted :=
  if s.phase = .spawned then .running else s.level.after control

/-- What it will do once it has read what is unread. No value is taken for a
stop. -/
def pendingLevel (s : Supervisor) : Wanted :=
  if s.control.unread then s.reads (s.control.value.getD .stop) else s.level

/-- Reading the channel brings the supervisor to what is wanted. -/
structure Follows (s : Supervisor) (wanted : Wanted) : Prop where
  sound : s.Sound
  isOpen : s.phase.isOver = false → s.updatesOpen = true
  level : s.pendingLevel = wanted

theorem level_of_active (h : s.phase.isActive = true) : s.level = .running := by
  unfold level
  cases hp : s.phase <;> simp_all [CapturePhase.isActive]

variable {r : Supervisor}

theorem pendingLevel_congr (hc : r.control = s.control)
    (hl : r.level = s.level) (hs : r.phase = .spawned ↔ s.phase = .spawned) :
    r.pendingLevel = s.pendingLevel := by
  unfold pendingLevel reads
  rw [hc, hl]
  simp only [hs]

theorem pendingLevel_read (h : s.control.unread = false) : s.pendingLevel = s.level := by
  simp [pendingLevel, h]

theorem Follows.goesOn {wanted : Wanted} (h : s.Follows wanted)
    (ha : s.phase.isActive = true) (ho : GoesOn s r) : r.Follows wanted := by
  refine ⟨ho.sound, fun _ => ho.isOpen, ?_⟩
  rw [← h.level]
  refine pendingLevel_congr ho.control ?_ ?_
  · rw [level_of_active ho.active, level_of_active ha]
  · have hr := ho.active
    refine iff_of_false (fun hp => ?_) (fun hp => ?_)
    · rw [hp] at hr
      cases hr
    · rw [hp] at ha
      cases ha

theorem Follows.beside {wanted : Wanted} (h : s.Follows wanted)
    (hc : r.control = s.control) (hp : r.phase = s.phase) (hs : r.Sound)
    (hop : r.phase.isOver = false → r.updatesOpen = true) : r.Follows wanted := by
  refine ⟨hs, hop, ?_⟩
  rw [← h.level]
  exact pendingLevel_congr hc (by unfold Supervisor.level; rw [hp]) (by rw [hp])

/-! ## Steps -/

/-- A request does not lose what the value it overwrites would have done:
reading it alone comes to the same as reading both. -/
def Heard (s : Supervisor) : SupervisorEvent → Prop
  | .requestControl control => s.reads control = s.pendingLevel.after control
  | .dropUpdates => s.phase.isOver = true
  | _ => True

instance (s : Supervisor) : ∀ event, Decidable (s.Heard event)
  | .requestControl _ => inferInstanceAs (Decidable (_ = _))
  | .dropUpdates => inferInstanceAs (Decidable (_ = _))
  | .poll | .opened _ | .seeReadiness | .seeOutcome | .elapsed | .yielded | .takeControl
  | .joined | .setPreference _ | .report _ _ | .finish _ _ | .frameDrop _ | .takeUpdate =>
    inferInstanceAs (Decidable True)

variable {s : Supervisor} {wanted : Wanted}

theorem not_over_of_active (h : s.phase.isActive = true) : s.phase.isOver = false := by
  cases hp : s.phase <;> simp_all [CapturePhase.isActive, CapturePhase.isOver]

theorem poll_follows (h : s.Follows wanted) : s.poll.1.Follows wanted := by
  unfold poll
  split
  · rename_i hs
    have hq : s.Quiet := h.sound.quiet (by simp [hs]) (by simp [hs])
    have ho := beginGeneration_goesOn (s := s.readControl)
      (h.isOpen (by simp [hs, CapturePhase.isOver])) hq
    refine ⟨ho.sound, fun _ => ho.isOpen, ?_⟩
    rw [pendingLevel_read (by rw [ho.control]; rfl), level_of_active ho.active, ← h.level]
    simp [pendingLevel, reads, Supervisor.level, hs]
  · exact h

theorem opened_follows (h : s.Follows wanted) (ok : Bool) : (s.opened ok).1.Follows wanted := by
  unfold opened
  split
  · rename_i hp
    have ha : s.phase.isActive = true := by rw [hp]; rfl
    have hop := h.isOpen (not_over_of_active ha)
    have hq : s.Quiet := h.sound.quiet (by simp [hp]) (by simp [hp])
    split
    · refine h.goesOn ha ⟨rfl, hop, rfl, h.sound.past, fun hne => absurd rfl hne, ?_⟩
      rintro w hw hf
      cases hw
      cases hf
    · exact h.goesOn ha (climbLadder_goesOn hop hq h.sound.told)
  · exact h

/-- A worker that has ended leaves nobody going on. -/
theorem Sound.quiet_of_ended (h : s.Sound)
    (he : ∀ w ∈ s.worker, w.outcome.isSome = true) : s.Quiet := by
  refine quiet_iff.mpr ⟨h.past, fun w hw => ?_⟩
  have hs := he w hw
  unfold CaptureWorker.uncancelled
  cases ho : w.outcome <;> simp_all

section

variable (h : s.Follows wanted)
include h

theorem seeReadiness_follows : s.seeReadiness.1.Follows wanted := by
  unfold seeReadiness
  split
  · rename_i hp
    have ha : s.phase.isActive = true := by rw [hp]; rfl
    have hop := h.isOpen (not_over_of_active ha)
    split
    · exact h.goesOn ha (becomeReady_goesOn hop h.sound.past h.sound.told _)
    · rename_i hf
      obtain ⟨w, hw, hr⟩ := map_eq_some_iff.mp hf
      have he : ∀ v ∈ s.worker, v.outcome.isSome = true := by
        intro v hv
        rw [hw] at hv
        cases hv
        exact h.sound.told w hw hr
      exact h.goesOn ha (climbLadder_goesOn hop (h.sound.quiet_of_ended he) h.sound.told)
    · exact h
  · exact h

theorem seeOutcome_follows : s.seeOutcome.1.Follows wanted := by
  unfold seeOutcome
  split
  · rename_i hp
    have ha : s.phase.isActive = true := by rw [hp]; rfl
    have hop := h.isOpen (not_over_of_active ha)
    have he : ∀ outc, s.worker.bind CaptureWorker.outcome = some outc → s.Quiet := by
      intro outc ho
      obtain ⟨w, hw, ht⟩ := bind_eq_some_iff.mp ho
      refine h.sound.quiet_of_ended (fun v hv => ?_)
      rw [hw] at hv
      cases hv
      simp [ht]
    split
    · rename_i ho
      split
      · have hn := beginGeneration_goesOn (s := s.cancelChild) hop (quiet_cancelChild h.sound.past)
        exact h.goesOn ha ⟨hn.control, hn.isOpen, hn.active, hn.sound⟩
      · exact h.goesOn ha (climbLadder_goesOn hop (he _ ho) h.sound.told)
    · rename_i ho
      exact h.goesOn ha (climbLadder_goesOn hop (he _ ho) h.sound.told)
    · exact h
  · exact h

theorem goOn_follows {ph : CapturePhase}
    (hp : ph = .recovering ∨ ph = .yielding) : (s.goOn ph).1.Follows wanted := by
  unfold goOn
  split
  · rename_i ha
    have hc : s.phase.isActive = true := by rcases hp with rfl | rfl <;> rw [ha] <;> rfl
    have hq : s.Quiet := by refine h.sound.quiet ?_ ?_ <;> rcases hp with rfl | rfl <;> simp [ha]
    exact h.goesOn hc (beginGeneration_goesOn (h.isOpen (not_over_of_active hc)) hq)
  · exact h

theorem joined_follows : s.joined.1.Follows wanted := by
  unfold joined
  split
  · rename_i hj
    have hk : (s.trySend .stopped).1.control = s.control ∧
        (s.trySend .stopped).1.worker = s.worker ∧ (s.trySend .stopped).1.past = s.past := by
      unfold trySend
      split
      · exact ⟨rfl, rfl, rfl⟩
      · split <;> exact ⟨rfl, rfl, rfl⟩
    obtain ⟨hc, hw, hp⟩ := hk
    have hq := quiet_iff.mp (h.sound.quiet (by simp [hj.1]) (by simp [hj.1]))
    refine ⟨⟨?_, fun _ _ => ?_, ?_⟩, fun ho => ?_, ?_⟩
    · rw [hp]
      exact hq.1
    · rw [hw]
      exact hq.2
    · rw [hw]
      exact h.sound.told
    · cases ho
    · rw [← h.level]
      refine pendingLevel_congr hc ?_ ?_ <;> simp [Supervisor.level, hj.1]
  · exact h

end

theorem GoesOn.follows_read (ho : GoesOn read r)
    (hr : read.control.unread = false) : r.Follows .running := by
  refine ⟨ho.sound, fun _ => ho.isOpen, ?_⟩
  rw [pendingLevel_read (by rw [ho.control]; exact hr)]
  exact level_of_active ho.active

theorem Parks.follows_read (hp : Parks read r)
    (hr : read.control.unread = false) : r.Follows .suspended := by
  refine ⟨hp.sound, fun _ => hp.isOpen, ?_⟩
  rw [pendingLevel_read (by rw [hp.control]; exact hr), Supervisor.level, hp.parked]

theorem teardown_follows (ht : ∀ w ∈ read.worker, w.Told)
    (hr : read.control.unread = false) : read.teardown.Follows .stopped := by
  have hl : read.teardown.pendingLevel = .stopped := pendingLevel_read hr
  refine ⟨teardown_sound ht, fun ho => ?_, hl⟩
  cases ho

theorem obey_follows (hs : read.Sound) (hop : read.updatesOpen = true)
    (hr : read.control.unread = false) (control : CaptureControl) :
    (read.obey (actionOf (some control))).1.Follows (Wanted.running.after control) := by
  have hq := quiet_cancelChild hs.past
  cases control with
  | requestEndpointChange | resume =>
    exact (beginGeneration_goesOn (s := read.cancelChild) hop hq).follows_read hr
  | suspend =>
    exact (park_parks (s := read.cancelChild) hop hq (told_cancelChild hs.told)).follows_read hr
  | stop => exact teardown_follows hs.told hr

theorem parkedControl_follows (hs : read.Sound)
    (hop : read.updatesOpen = true) (hp : read.phase = .parked)
    (hr : read.control.unread = false) (control : CaptureControl) :
    (read.parkedControl (some control)).1.Follows (Wanted.suspended.after control) := by
  cases control with
  | resume =>
    exact (beginGeneration_goesOn hop (hs.quiet (by simp [hp]) (by simp [hp]))).follows_read hr
  | requestEndpointChange | suspend =>
    have hpr : Parks read read := ⟨rfl, hop, hp, hs⟩
    exact hpr.follows_read hr
  | stop => exact teardown_follows hs.told hr

theorem takeControl_follows (h : s.Follows wanted) : s.takeControl.1.Follows wanted := by
  unfold takeControl
  split
  · exact h
  · rename_i hu
    have hn : ∀ level, s.phase ≠ .spawned → s.level = level →
        wanted = level.after (s.control.value.getD .stop) := by
      intro level hsp hl
      rw [← h.level, pendingLevel, if_pos (by simpa using hu), reads, if_neg hsp, hl]
    have ho : s.phase.isActive = true →
        (s.readControl.obey (actionOf s.control.value)).1.Follows wanted := by
      intro ha
      have hv : actionOf s.control.value = actionOf (some (s.control.value.getD .stop)) := by
        cases s.control.value <;> rfl
      rw [hv, hn .running (fun hne => by simp [hne, CapturePhase.isActive] at ha)
        (level_of_active ha)]
      have hs : s.readControl.Sound := ⟨h.sound.past, h.sound.current, h.sound.told⟩
      exact obey_follows hs (h.isOpen (not_over_of_active ha)) rfl _
    cases hp : s.phase with
    | opening | handshake | capturing | recovering => exact ho (by rw [hp]; rfl)
    | parked =>
      have hv : ∀ read : Supervisor, read.parkedControl s.control.value =
          read.parkedControl (some (s.control.value.getD .stop)) := by
        intro read
        cases s.control.value <;> rfl
      rw [hv, hn .suspended (by simp [hp]) (by simp [Supervisor.level, hp])]
      have hs : s.readControl.Sound := ⟨h.sound.past, h.sound.current, h.sound.told⟩
      exact parkedControl_follows hs (h.isOpen (by simp [hp, CapturePhase.isOver])) hp rfl _
    | spawned | yielding | joining | ended => exact h

theorem request_follows (h : s.Follows wanted) (hh : s.Heard (.requestControl control)) :
    (s.requestControl control).Follows (wanted.after control) := by
  have hh : s.reads control = s.pendingLevel.after control := hh
  refine ⟨⟨h.sound.past, h.sound.current, h.sound.told⟩, h.isOpen, ?_⟩
  rw [h.level] at hh
  exact hh

/-- An event keeps the supervisor on what is wanted, unless it is a request
that is not heard. -/
theorem step_follows (h : s.Follows wanted) (ev : SupervisorEvent) (hh : s.Heard ev) :
    (s.step ev).1.Follows (wanted.next ev) := by
  cases ev with
  | poll => exact poll_follows h
  | opened ok => exact opened_follows h ok
  | seeReadiness => exact seeReadiness_follows h
  | seeOutcome => exact seeOutcome_follows h
  | elapsed => exact goOn_follows h (.inl rfl)
  | yielded => exact goOn_follows h (.inr rfl)
  | takeControl => exact takeControl_follows h
  | joined => exact joined_follows h
  | requestControl => exact request_follows h hh
  | setPreference => exact h.beside rfl rfl ⟨h.sound.past, h.sound.current, h.sound.told⟩ h.isOpen
  | report gen endp =>
    refine h.beside rfl rfl (sound_mapWorkers h.sound (fun w hw => ?_) (fun w hw => ?_)) h.isOpen
    · rw [report_uncancelled]
      exact hw
    · exact told_report hw gen endp
  | finish gen outc =>
    exact h.beside rfl rfl (sound_mapWorkers h.sound (fun w hw => finish_uncancelled hw)
      (fun w hw => told_finish hw gen outc)) h.isOpen
  | frameDrop =>
    simp only [step, trySend]
    split
    · exact h
    · split
      · exact h.beside rfl rfl ⟨h.sound.past, h.sound.current, h.sound.told⟩ h.isOpen
      · exact h
  | takeUpdate => exact h.beside rfl rfl ⟨h.sound.past, h.sound.current, h.sound.told⟩ h.isOpen
  | dropUpdates =>
    have ho : s.phase.isOver = true := hh
    refine h.beside rfl rfl ⟨h.sound.past, h.sound.current, h.sound.told⟩ (fun hn => ?_)
    exact absurd (ho.symm.trans hn) (by decide)

/-! ## Runs -/

/-- A supervisor that has just been spawned. -/
def start (preference : AudioEndpointPreference) : Supervisor := { preference }

theorem start_follows (pref : AudioEndpointPreference) : (start pref).Follows .running :=
  ⟨sound_of_none (fun w hw => by cases hw) rfl, fun _ => rfl, rfl⟩

/-- Over every run that is heard the updates follow what is wanted. -/
theorem run_follows {evs : List SupervisorEvent} : ∀ {s : Supervisor} {wanted : Wanted},
    s.Follows wanted → Along step Heard s evs →
      (run step s evs).Follows (evs.foldl Wanted.next wanted) := by
  induction evs with
  | nil => exact fun h _ => h
  | cons ev _ ih => exact fun h ha => ih (step_follows h ev ha.1) ha.2

/-- The supervisor does what is wanted of it. -/
structure Honours (s : Supervisor) (wanted : Wanted) : Prop where
  suspended : wanted = .suspended → s.phase = .parked ∧ s.Quiet
  running : wanted = .running → s.phase ≠ .parked
  stopped : wanted = .stopped → s.phase.isOver = true ∧ s.Quiet

theorem Follows.honours (h : s.Follows wanted) (hr : s.control.unread = false) :
    s.Honours wanted := by
  have hl : s.level = wanted := (pendingLevel_read hr).symm.trans h.level
  refine ⟨fun hw => ?_, fun hw hp => ?_, fun hw => ?_⟩ <;> subst hw
  · have hp : s.phase = .parked := by
      unfold Supervisor.level at hl
      cases hh : s.phase <;> simp_all
    exact ⟨hp, h.sound.quiet (by simp [hp]) (by simp [hp])⟩
  · simp [Supervisor.level, hp] at hl
  · have ho : s.phase = .joining ∨ s.phase = .ended := by
      unfold Supervisor.level at hl
      cases hh : s.phase <;> simp_all
    refine ⟨by rcases ho with ho | ho <;> rw [ho] <;> rfl, h.sound.quiet ?_ ?_⟩ <;>
      rcases ho with ho | ho <;> simp [ho]

@[simp] theorem stopped_after (control : CaptureControl) :
    Wanted.stopped.after control = .stopped := by
  cases control <;> rfl

@[simp] theorem after_stop (wanted : Wanted) : wanted.after .stop = .stopped := by
  cases wanted <;> rfl

/-- A stop is never taken for anything else. -/
theorem Follows.not_stopped_early (h : s.Follows wanted)
    (hs : s.reads control = .stopped) : wanted.after control = .stopped := by
  unfold reads at hs
  by_cases hp : s.phase = .spawned
  · rw [if_pos hp] at hs
    cases hs
  · rw [if_neg hp] at hs
    cases hl : s.level with
    | stopped =>
      have hn : s.pendingLevel = .stopped := by simp [pendingLevel, reads, hp, hl]
      rw [← h.level, hn, stopped_after]
    | running | suspended =>
      rw [hl] at hs
      cases control with
      | stop => exact after_stop wanted
      | requestEndpointChange | suspend | resume => cases hs

/-- A control that is not heard is lost once the channel is read. -/
theorem Follows.unheard (h : s.Follows wanted)
    (hu : ¬ s.Heard (.requestControl control)) {rdg : SupervisorEvent}
    (hreadi : rdg = .poll ∨ rdg = .takeControl)
    (hr : ((s.requestControl control).step rdg).1.control.unread = false) :
    ¬ ((s.requestControl control).step rdg).1.Honours (wanted.after control) := by
  have hne : s.reads control ≠ wanted.after control := by
    rw [← h.level]
    exact hu
  have hq : (s.requestControl control).Follows (s.reads control) :=
    ⟨⟨h.sound.past, h.sound.current, h.sound.told⟩, h.isOpen, rfl⟩
  have ha : ((s.requestControl control).step rdg).1.Follows (s.reads control) := by
    rcases hreadi with rfl | rfl
    · exact step_follows hq .poll trivial
    · exact step_follows hq .takeControl trivial
  have hl := (pendingLevel_read hr).symm.trans ha.level
  intro hh
  cases hw : wanted.after control with
  | suspended =>
    obtain ⟨hp, -⟩ := hh.suspended hw
    simp [Supervisor.level, hp] at hl
    exact hne (hl.symm.trans hw.symm)
  | running =>
    cases hreads : s.reads control with
    | running => exact hne (hreads.trans hw.symm)
    | suspended =>
      obtain ⟨hp, -⟩ := (ha.honours hr).suspended hreads
      exact hh.running hw hp
    | stopped =>
      rw [h.not_stopped_early hreads] at hw
      cases hw
  | stopped =>
    obtain ⟨_, -⟩ := hh.stopped hw
    refine hne (hl.symm.trans (Eq.trans ?_ hw.symm))
    unfold Supervisor.level
    cases hph : ((s.requestControl control).step rdg).1.phase <;> simp_all [CapturePhase.isOver]

/-- Capture honours the order of suspend, resume and stop in every run in
which each control is heard; one that is not heard is lost. -/
theorem suspends_and_resumes_in_order (preference : AudioEndpointPreference)
    (events : List SupervisorEvent) (hheard : Along step Heard (start preference) events) :
    (∀ before, before <+: events → (run step (start preference) before).control.unread = false →
        (run step (start preference) before).Honours (wantedBy before)) ∧
    ∀ control, ¬ Heard (run step (start preference) events) (.requestControl control) →
      ∀ reading, reading = .poll ∨ reading = .takeControl →
        let later := events ++ [.requestControl control, reading]
        (run step (start preference) later).control.unread = false →
          ¬ (run step (start preference) later).Honours (wantedBy later) := by
  have hf : ∀ before, before <+: events →
      (run step (start preference) before).Follows (wantedBy before) := by
    intro before hb
    refine run_follows (start_follows preference) ?_
    refine (along_iff_forall_start before).mpr (fun earlier ev he => ?_)
    exact (along_iff_forall_start events).mp hheard earlier ev (he.trans hb)
  refine ⟨fun before hb hr => (hf before hb).honours hr, ?_⟩
  intro control hu reading hreadi
  have hw : wantedBy (events ++ [.requestControl control, reading]) =
      (wantedBy events).after control := by
    rcases hreadi with rfl | rfl <;> simp [wantedBy, Wanted.next]
  dsimp only
  rw [hw, run_append]
  exact (hf events prefix_rfl).unheard hu hreadi

theorem suspends_and_resumes_in_order_once :
    (run step (start .systemDefault) [.poll, .requestControl .suspend, .takeControl,
      .requestControl .requestEndpointChange, .takeControl, .requestControl .resume,
      .takeControl]).Honours .running :=
  (suspends_and_resumes_in_order .systemDefault _ (by decide)).1 _ prefix_rfl (by decide)

/-- An endpoint change right after a resume: the supervisor stays parked. -/
theorem endpoint_change_swallows_resume : ∃ events : List SupervisorEvent,
      events = [.poll, .requestControl .suspend, .takeControl, .requestControl .resume,
        .requestControl .requestEndpointChange, .takeControl] ∧
      (run step (start .systemDefault) events).control.unread = false ∧
      wantedBy events = .running ∧
      (run step (start .systemDefault) events).phase = .parked ∧
      ¬ (run step (start .systemDefault) events).Honours (wantedBy events) := by
  refine ⟨_, rfl, by decide, by decide, by decide, fun h => ?_⟩
  exact h.running (by decide) (by decide)

end Supervisor

end OpenAirCast.Backend.Capture
