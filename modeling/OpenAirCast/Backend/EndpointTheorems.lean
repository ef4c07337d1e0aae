/-
Backend.EndpointTheorems — the endpoint that was chosen last is
the one that is captured.

Three things are carried along a run. The supervisor's own worker was opened
with the preference stored now, or a control that will replace it is on its
way (`Fresh.opened`). What the actor shows once it has taken the updates in
the queue is the endpoint of the worker being captured (`Fresh.ready`). And
the preference is the document's, as far as it has been handed over
(`HandedOver`).
-/
import OpenAirCast.Backend.Endpoint
import OpenAirCast.Backend.CaptureTheorems
import OpenAirCast.Backend.LoopTheorems
import OpenAirCast.Backend.WorkTheorems

namespace OpenAirCast.Backend.Capture

open Supervisor CaptureWorker List Option Controller

/-! ## What the actor shows -/

/-- The state of the audio source, and the endpoint that is captured. -/
abbrev Shown := AudioSourceState × Option AudioEndpoint

def shown (c : Controller) : Shown :=
  (c.snapshot.audioSource.state, c.snapshot.audioSource.capturedEndpoint)

/-- What an update makes of it. -/
def Shown.after (v : Shown) : CaptureUpdate → Shown
  | .ready endpoint => (.capturing, some endpoint)
  | .recovering => (.recovering, none)
  | .suspended | .stopped => (.unavailable, none)
  | .started | .frameDrop _ => v

/-- What the updates in the queue will make of it. -/
def Shown.foreseen (v : Shown) (updates : List Tagged) : Shown :=
  updates.foldl (fun v tagged => v.after tagged.update) v

theorem Shown.foreseen_concat (v : Shown) (upds : List Tagged) (tagged : Tagged) :
    v.foreseen (upds ++ [tagged]) = (v.foreseen upds).after tagged.update := by
  simp [foreseen]

theorem audioSource_of_beq {a b : FullSnapshot} (h : (a == b) = true) :
    a.audioSource = b.audioSource := by
  cases a
  cases b
  simp only [BEq.beq, instBEqFullSnapshot.beq] at h
  simp_all

section Actor

variable [Lowercase]

variable (c : Controller)

theorem shown_publish : shown c.publish = shown c := by
  obtain ⟨_, _, -, heq⟩ := c.publish_eq
  rw [heq]
  rfl

theorem shown_maybePublish (next : FullSnapshot) :
    shown (c.maybePublish next) = (next.audioSource.state, next.audioSource.capturedEndpoint) := by
  unfold maybePublish
  split
  · rename_i hs
    rw [audioSource_of_beq hs]
    rfl
  · rw [shown_publish]
    rfl

theorem shown_applyCaptureUpdate (upd : CaptureUpdate) :
    shown (c.applyCaptureUpdate upd) = (shown c).after upd := by
  cases upd <;> exact shown_maybePublish c _

/-- The actor goes on without a word to the supervisor, and shows what it
has shown. -/
def Silent (c c' : Controller) : Prop :=
  shown c' = shown c ∧ ∃ said, c'.out = c.out ++ said ∧ said.filterMap handoverOf = []

section

omit [Lowercase]

theorem Silent.trans {a b c : Controller} (ha : Silent a b) (hb : Silent b c) : Silent a c := by
  obtain ⟨hs, said, ho, hd⟩ := ha
  obtain ⟨hs', said', ho', hd'⟩ := hb
  refine ⟨hs'.trans hs, said ++ said', ?_, ?_⟩
  · rw [ho', ho, append_assoc]
  · rw [filterMap_append, hd, hd', append_nil]

theorem silent_emit (c : Controller) {em : Emission} (h : handoverOf em = none) :
    Silent c (c.emit em) :=
  ⟨rfl, [em], rfl, by simp [h]⟩

theorem silent_of_out {c c' : Controller} (ho : c'.out = c.out) (hs : shown c' = shown c) :
    Silent c c' :=
  ⟨hs, [], by rw [ho, append_nil], rfl⟩

end

section

variable (c : Controller)

omit [Lowercase] in
theorem silent_outcomes (outs : CommandOutcomes) :
    Silent c { c with snapshot := { c.snapshot with commandOutcomes := outs } } := by
  refine silent_of_out ?_ ?_
  · dsimp only
  · unfold shown
    dsimp only

theorem silent_publish : Silent c c.publish := by
  refine ⟨shown_publish c, ?_⟩
  obtain ⟨tone, _, ht, heq⟩ := c.publish_eq
  refine ⟨tone ++ [.publish c.posted], by rw [heq, append_assoc], ?_⟩
  rcases ht with rfl | rfl <;> rfl

variable (id : Nat)

section

omit [Lowercase]

theorem silent_complete : Silent c (c.complete id) :=
  (silent_outcomes c _).trans (silent_emit _ rfl)

theorem silent_failWithKind (msg : String)
    (kind : CommandFailure) : Silent c (c.failWithKind id msg kind) :=
  (silent_outcomes c _).trans (silent_emit _ rfl)

theorem silent_notePersistenceFailure : Silent c (c.notePersistenceFailure id) := by
  have hs : Silent c { c with snapshot := { c.snapshot with persistence := .error } } := by
    refine silent_of_out ?_ ?_
    · dsimp only
    · unfold shown
      dsimp only
  exact (hs.trans (silent_emit _ rfl)).trans (silent_failWithKind _ _ _ _)

end

end

omit [Lowercase] in
theorem handedOut_of_silent {c c' : Controller} (h : Silent c c') : handedOut c c' = [] := by
  obtain ⟨-, said, ho, hs⟩ := h
  unfold handedOut
  rw [ho, drop_left, hs]

theorem commitDurable_silent {c : Controller} (ports : Ports) (id : Nat) {commit : DurableCommit}
    (ha : ∀ (c : Controller) cand, Silent c (c.adoptDocument commit cand)) :
    Silent c (c.commitDurable ports id commit).1 := by
  unfold commitDurable
  cases commit.mutatePersisted with
  | none => exact silent_complete c id
  | some mutate =>
    dsimp only
    cases (mutate c.persisted).validate with
    | error => exact silent_failWithKind _ _ _ _
    | ok =>
      dsimp only
      split
      · exact silent_complete c id
      · have hs : ∀ write, Silent c (c.attemptSave ports id write) :=
          fun _ => ⟨rfl, [], (append_nil _).symm, rfl⟩
        split
        · exact (((hs _).trans (ha _ _)).trans (silent_complete _ _)).trans (silent_publish _)
        · exact ((hs _).trans (silent_notePersistenceFailure _ _)).trans (silent_publish _)

omit [Lowercase] in
theorem adoptDocument_endpoint (preference : AudioEndpointPreference) (cand : PersistedState) :
    Silent c (c.adoptDocument (Batch.endpointCommit preference) cand) := by
  refine silent_of_out ?_ ?_
  · simp [adoptDocument, Batch.endpointCommit]
  · simp [shown, adoptDocument, Batch.endpointCommit]

/-- The document has the endpoint exactly if it was applied. -/
theorem commitDurable_endpoint (ports : Ports) (id : Nat)
    (preference : AudioEndpointPreference) {r : Controller × CommitOutcome}
    (hr : c.commitDurable ports id (Batch.endpointCommit preference) = r) :
    r.1.persisted.audioEndpoint =
      if r.2.isApplied then preference else c.persisted.audioEndpoint := by
  have hs : ∀ {c c' : Controller}, Frame c c' →
      c'.persisted.audioEndpoint = c.persisted.audioEndpoint := fun hf =>
    congrArg (fun ledger => ledger.persisted.audioEndpoint) hf.ledger
  rcases commitDurable_cases c ports id _ rfl hr with
    ⟨_, -, ho, hf, -⟩ | ⟨-, -, ho, hf, -⟩ | ⟨-, -, -, ho, hf, -, -⟩
      | ⟨-, -, -, ho, hf, -⟩
  · rw [ho]
    exact hs hf
  · rw [ho]
    exact hs hf
  · rw [ho, hs hf]
    rfl
  · rw [ho]
    exact hs hf

/-- What an endpoint command hands over: nothing, or the new preference and
then the request to change to it. -/
theorem setAudioEndpoint_hands (ports : Ports) (id : Nat)
    (preference : AudioEndpointPreference) (c' : Controller)
    (hc : (Batch.setAudioEndpoint { actor := c } ports id preference).actor = c') :
    shown c' = shown c ∧
      ((handedOut c c' = [] ∧ c'.persisted.audioEndpoint = c.persisted.audioEndpoint) ∨
        handedOut c c' = [.preference c'.persisted.audioEndpoint,
          .control .requestEndpointChange]) := by
  subst hc
  unfold Batch.setAudioEndpoint
  split
  · dsimp only
    generalize hr : c.commitDurable ports id (Batch.endpointCommit preference) = r
    have hd := commitDurable_endpoint c ports id preference hr
    have hs : Silent c r.1 := by
      rw [← hr]
      exact commitDurable_silent ports id (fun c => adoptDocument_endpoint c preference)
    split
    · rename_i ha
      rw [if_pos ha] at hd
      obtain ⟨hh, said, ho, hsd⟩ := hs
      refine ⟨hh, .inr ?_⟩
      show (((r.1.out ++ [_] ++ [_] ++ [_]).drop c.out.length).filterMap handoverOf) =
        [.preference r.1.persisted.audioEndpoint, _]
      rw [ho, hd]
      simp only [append_assoc, drop_left, filterMap_append, hsd]
      rfl
    · rename_i ha
      rw [if_neg ha] at hd
      exact ⟨hs.1, .inl ⟨handedOut_of_silent hs, hd⟩⟩
  · have hs : Silent c (c.complete id) := silent_complete c id
    exact ⟨hs.1, .inl ⟨handedOut_of_silent hs, rfl⟩⟩

end Actor

/-! ## The supervisor -/

/-- A worker is being opened, or awaited. -/
def CapturePhase.opens : CapturePhase → Bool
  | .opening | .handshake | .capturing => true
  | _ => false

namespace Supervisor

/-- The worker there is, or will be, has the preference stored now, unless
something that replaces it is on its way (`behind`, or a control that is not
read yet). `v` is what the actor shows. -/
structure Fresh (behind : Prop) (v : Shown) (s : Supervisor) : Prop where
  sound : s.Sound
  isOpen : s.updatesOpen = true
  worker : ∀ w ∈ s.worker, w.openedWith = s.openedWith
  opened : s.phase.opens = true → s.openedWith = s.preference ∨ s.control.unread = true ∨ behind
  ready : s.phase = .capturing → ∃ w ∈ s.worker, ∃ endpoint,
    w.readiness = .ready endpoint ∧ v.foreseen s.updates = (.capturing, some endpoint)

variable {behind : Prop} {v : Shown} {s : Supervisor}

theorem Fresh.idle (hs : s.Sound) (hop : s.updatesOpen = true)
    (hw : ∀ w ∈ s.worker, w.openedWith = s.openedWith) (hp : s.phase.opens = false) :
    s.Fresh behind v := by
  refine ⟨hs, hop, hw, fun hopens => ?_, fun hc => ?_⟩
  · rw [hp] at hopens
    cases hopens
  · rw [hc] at hp
    cases hp

section

variable (hop : s.updatesOpen = true)
include hop

theorem beginGeneration_fresh (hq : s.Quiet)
    (hr : .overloaded ∉ s.beginGeneration.2) : s.beginGeneration.1.Fresh behind v := by
  rcases beginGeneration_cases hop with ⟨-, hb⟩ | hb
  · have ho := beginGeneration_goesOn hop hq
    rw [hb] at ho ⊢
    refine ⟨ho.sound, ho.isOpen, fun w hw => ?_, fun _ => .inl rfl, fun hc => ?_⟩
    · cases hw
    · cases hc
  · rw [hb] at hr
    simp at hr

theorem park_fresh (hq : s.Quiet)
    (ht : ∀ w ∈ s.worker, w.Told) (hw : ∀ w ∈ s.worker, w.openedWith = s.openedWith) :
    s.park.1.Fresh behind v := by
  have hp := park_parks hop hq ht
  obtain ⟨_, _, hr, -⟩ := park_cases hop
  rw [hr] at hp ⊢
  exact .idle hp.sound hp.isOpen hw rfl

theorem climbLadder_fresh (hq : s.Quiet)
    (ht : ∀ w ∈ s.worker, w.Told) (hw : ∀ w ∈ s.worker, w.openedWith = s.openedWith)
    (hr : .overloaded ∉ s.climbLadder.2) : s.climbLadder.1.Fresh behind v := by
  have ho := climbLadder_goesOn hop hq ht
  rcases climbLadder_cases hop with hc | ⟨_, -, hc⟩
  · rw [hc] at ho ⊢
    exact .idle ho.sound ho.isOpen hw rfl
  · rw [hc] at hr
    simp at hr

theorem teardown_fresh (ht : ∀ w ∈ s.worker, w.Told)
    (hr : ∀ w ∈ s.worker, w.openedWith = s.openedWith) : s.teardown.Fresh behind v := by
  refine .idle (teardown_sound ht) hop (fun w hw => ?_) rfl
  obtain ⟨pre, hb, rfl⟩ := mem_map.mp hw
  exact hr pre hb

end

theorem worker_cancelChild (hr : ∀ w ∈ s.worker, w.openedWith = s.openedWith) :
    ∀ w ∈ s.cancelChild.worker, w.openedWith = s.cancelChild.openedWith := by
  intro w hw
  obtain ⟨pre, hb, rfl⟩ := mem_map.mp hw
  exact hr pre hb

/-- Whatever is obeyed, nothing is behind afterwards. -/
theorem obey_fresh (hs : s.Sound) (hop : s.updatesOpen = true)
    (hw : ∀ w ∈ s.worker, w.openedWith = s.openedWith) (action : ControlAction)
    (hr : .overloaded ∉ (s.obey action).2) : (s.obey action).1.Fresh behind v := by
  have hq := quiet_cancelChild hs.past
  cases action with
  | restart => exact beginGeneration_fresh (s := s.cancelChild) hop hq hr
  | suspend =>
    exact park_fresh (s := s.cancelChild) hop hq (told_cancelChild hs.told) (worker_cancelChild hw)
  | stop => exact teardown_fresh hop hs.told hw

/-! ### Events -/

variable (h : s.Fresh behind v)

include h

theorem poll_fresh (hr : .overloaded ∉ s.poll.2) : s.poll.1.Fresh behind v := by
  unfold poll at hr ⊢
  by_cases hs : s.phase = .spawned
  · rw [if_pos hs] at hr ⊢
    have hq : s.Quiet := h.sound.quiet (by simp [hs]) (by simp [hs])
    exact beginGeneration_fresh (s := s.readControl) h.isOpen hq hr
  · rw [if_neg hs]
    exact h

theorem opened_fresh (ok : Bool) (hr : .overloaded ∉ (s.opened ok).2) :
    (s.opened ok).1.Fresh behind v := by
  unfold opened at hr ⊢
  by_cases hp : s.phase = .opening
  · rw [if_pos hp] at hr ⊢
    cases ok with
    | true =>
      have hs : Sound { s with
          phase := .handshake
          worker := some ⟨s.captureGeneration, s.openedWith, .pending, none, false⟩ } := by
        refine ⟨h.sound.past, fun hne => absurd rfl hne, fun w hw hf => ?_⟩
        cases hw
        cases hf
      refine ⟨hs, h.isOpen, fun w hw => ?_, fun _ => ?_, fun hc => ?_⟩
      · cases hw
        rfl
      · exact h.opened (by rw [hp]; rfl)
      · cases hc
    | false =>
      have hq : s.Quiet := h.sound.quiet (by simp [hp]) (by simp [hp])
      exact climbLadder_fresh h.isOpen hq h.sound.told h.worker hr
  · rw [if_neg hp]
    exact h

theorem becomeReady_fresh (hp : s.phase = .handshake) {w : CaptureWorker}
    (hw : s.worker = some w) {endp : AudioEndpoint} (hd : w.readiness = .ready endp)
    (hr : .overloaded ∉ (s.becomeReady endp).2) :
    (s.becomeReady endp).1.Fresh behind v := by
  have ho := becomeReady_goesOn h.isOpen h.sound.past h.sound.told endp
  rcases becomeReady_cases h.isOpen endp with hb | hb
  · rw [hb] at ho ⊢
    refine ⟨ho.sound, ho.isOpen, h.worker, fun _ => h.opened (by rw [hp]; rfl), fun _ => ?_⟩
    refine ⟨w, hw, endp, hd, ?_⟩
    exact v.foreseen_concat s.updates _
  · rw [hb] at hr
    simp at hr

theorem seeReadiness_fresh (hr : .overloaded ∉ s.seeReadiness.2) :
    s.seeReadiness.1.Fresh behind v := by
  unfold seeReadiness at hr ⊢
  by_cases hp : s.phase = .handshake
  · rw [if_pos hp] at hr ⊢
    cases hw : s.worker with
    | none => exact h
    | some w =>
      rw [hw] at hr
      simp only [map_some] at hr ⊢
      cases hd : w.readiness with
      | pending => exact h
      | ready =>
        rw [hd] at hr
        exact becomeReady_fresh h hp hw hd hr
      | failed =>
        rw [hd] at hr
        have he : ∀ v ∈ s.worker, v.outcome.isSome = true := by
          intro v hv
          rw [hw] at hv
          cases hv
          exact h.sound.told w hw hd
        exact climbLadder_fresh h.isOpen (h.sound.quiet_of_ended he) h.sound.told h.worker hr
  · rw [if_neg hp]
    exact h

theorem seeOutcome_fresh (hr : .overloaded ∉ s.seeOutcome.2) : s.seeOutcome.1.Fresh behind v := by
  unfold seeOutcome at hr ⊢
  by_cases hp : s.phase = .capturing
  · rw [if_pos hp] at hr ⊢
    cases ho : s.worker.bind CaptureWorker.outcome with
    | none => exact h
    | some outc =>
      rw [ho] at hr
      have hq : s.Quiet := by
        obtain ⟨w, hw, ht⟩ := bind_eq_some_iff.mp ho
        refine h.sound.quiet_of_ended (fun v hv => ?_)
        rw [hw] at hv
        cases hv
        simp [ht]
      have hc : .overloaded ∉ s.climbLadder.2 → s.climbLadder.1.Fresh behind v :=
        climbLadder_fresh h.isOpen hq h.sound.told h.worker
      cases outc with
      | failed => exact hc hr
      | clean =>
        dsimp only at hr ⊢
        by_cases hn : s.pendingEndpointChange = true
        · rw [if_pos hn] at hr ⊢
          exact obey_fresh h.sound h.isOpen h.worker .restart hr
        · rw [if_neg hn] at hr ⊢
          exact hc hr
  · rw [if_neg hp]
    exact h

theorem goOn_fresh {ph : CapturePhase} (hp : ph = .recovering ∨ ph = .yielding)
    (hr : .overloaded ∉ (s.goOn ph).2) : (s.goOn ph).1.Fresh behind v := by
  unfold goOn at hr ⊢
  by_cases ha : s.phase = ph
  · rw [if_pos ha] at hr ⊢
    have hq : s.Quiet := by refine h.sound.quiet ?_ ?_ <;> rcases hp with rfl | rfl <;> simp [ha]
    exact beginGeneration_fresh h.isOpen hq hr
  · rw [if_neg ha]
    exact h

/-- A control that has been read is obeyed with the preference of now. -/
theorem takeControl_fresh (hr : .overloaded ∉ s.takeControl.2) :
    s.takeControl.1.Fresh behind v := by
  unfold takeControl at hr ⊢
  by_cases hd : s.control.unread = false
  · rw [if_pos hd]
    exact h
  · rw [if_neg hd] at hr ⊢
    have hs : s.readControl.Sound := ⟨h.sound.past, h.sound.current, h.sound.told⟩
    cases hp : s.phase with
    | opening | handshake | capturing | recovering =>
      rw [hp] at hr
      exact obey_fresh hs h.isOpen h.worker _ hr
    | parked =>
      rw [hp] at hr
      have hq : s.readControl.Quiet := h.sound.quiet (by simp [hp]) (by simp [hp])
      have ht : s.readControl.Fresh behind v := by
        refine .idle hs h.isOpen h.worker ?_
        show s.phase.opens = false
        rw [hp]
        rfl
      rcases hv : s.control.value with _ | control
      · exact teardown_fresh h.isOpen h.sound.told h.worker
      · rw [hv] at hr
        cases control with
        | resume => exact beginGeneration_fresh h.isOpen hq hr
        | requestEndpointChange | suspend => exact ht
        | stop => exact teardown_fresh h.isOpen h.sound.told h.worker
    | spawned | yielding | joining | ended => exact h

theorem joined_fresh : s.joined.1.Fresh behind v := by
  unfold joined
  split
  · rename_i hj
    have hw := h.sound.current (by simp [hj.1]) (by simp [hj.1])
    have ho : ∀ updates : List Tagged, Sound { s with updates := updates, phase := .ended } :=
      fun _ => ⟨h.sound.past, fun _ _ => hw, h.sound.told⟩
    dsimp only
    rcases trySend_cases h.isOpen .stopped with ⟨-, hs⟩ | ⟨-, hs⟩
    · rw [hs]
      exact .idle (ho _) h.isOpen h.worker rfl
    · rw [hs]
      exact .idle (ho s.updates) h.isOpen h.worker rfl
  · exact h

theorem frameDrop_fresh (dropped : Nat) : (s.trySend (.frameDrop dropped)).1.Fresh behind v := by
  rcases trySend_cases h.isOpen (.frameDrop dropped) with ⟨-, hs⟩ | ⟨-, hs⟩
  · rw [hs]
    refine ⟨⟨h.sound.past, h.sound.current, h.sound.told⟩, h.isOpen, h.worker, h.opened,
      fun hc => ?_⟩
    obtain ⟨w, hw, endp, hr, hh⟩ := h.ready hc
    exact ⟨w, hw, endp, hr, (v.foreseen_concat s.updates _).trans hh⟩
  · rw [hs]
    exact h

theorem mapWorkers_fresh {f : CaptureWorker → CaptureWorker}
    (hq : ∀ w : CaptureWorker, w.uncancelled = false → (f w).uncancelled = false)
    (ht : ∀ w : CaptureWorker, w.Told → (f w).Told)
    (hop : ∀ w, (f w).openedWith = w.openedWith)
    (hr : ∀ w endp, w.readiness = .ready endp → (f w).readiness = .ready endp) :
    (s.mapWorkers f).Fresh behind v := by
  refine ⟨sound_mapWorkers h.sound hq ht, h.isOpen, fun w hw => ?_, h.opened, fun hc => ?_⟩
  · obtain ⟨pre, hb, rfl⟩ := mem_map.mp hw
    rw [hop]
    exact h.worker pre hb
  · obtain ⟨w, hw, endp, hreadi, hs⟩ := h.ready hc
    exact ⟨f w, mem_map_of_mem f hw, endp, hr w endp hreadi, hs⟩

/-- A step of the supervisor's own that overflows nothing keeps it fresh. -/
theorem step_fresh (ev : SupervisorEvent) (ho : ev.isOwn = true)
    (hr : .overloaded ∉ (s.step ev).2) : (s.step ev).1.Fresh behind v := by
  cases ev with
  | poll => exact poll_fresh h hr
  | opened ok => exact opened_fresh h ok hr
  | seeReadiness => exact seeReadiness_fresh h hr
  | seeOutcome => exact seeOutcome_fresh h hr
  | elapsed => exact goOn_fresh h (.inl rfl) hr
  | yielded => exact goOn_fresh h (.inr rfl) hr
  | takeControl => exact takeControl_fresh h hr
  | joined => exact joined_fresh h
  | report =>
    refine mapWorkers_fresh h (fun w hw => ?_) (fun w hw => told_report hw _ _)
      (fun w => ?_) (fun w reported hd => ?_)
    · rw [report_uncancelled]
      exact hw
    · unfold CaptureWorker.report
      split <;> rfl
    · unfold CaptureWorker.report
      rw [if_neg (by simp [hd])]
      exact hd
  | finish =>
    refine mapWorkers_fresh h (fun w hw => finish_uncancelled hw)
      (fun w hw => told_finish hw _ _) (fun w => ?_) (fun w reported hd => ?_)
    · unfold CaptureWorker.finish
      split <;> rfl
    · unfold CaptureWorker.finish
      split <;> simp [hd]
  | frameDrop dropped => exact frameDrop_fresh h dropped
  | requestControl _ | setPreference _ | takeUpdate | dropUpdates => cases ho

omit h in
/-- A new request is one that is not read yet. -/
theorem requestControl_fresh (h : s.Fresh behind v) (control : CaptureControl) {still : Prop} :
    (s.requestControl control).Fresh still v :=
  ⟨⟨h.sound.past, h.sound.current, h.sound.told⟩, h.isOpen, h.worker,
    fun _ => .inr (.inl rfl), h.ready⟩

omit h in
theorem setPreference_fresh (h : s.Fresh behind v) (preference : AudioEndpointPreference)
    {still : Prop} (hs : still) : (s.setPreference preference).Fresh still v :=
  ⟨⟨h.sound.past, h.sound.current, h.sound.told⟩, h.isOpen, h.worker,
    fun _ => .inr (.inr hs), h.ready⟩

omit h in
theorem takeUpdate_fresh (h : s.Fresh behind v) {tagged : Tagged} {rest : List Tagged}
    (hu : s.updates = tagged :: rest) :
    s.takeUpdate.Fresh behind (v.after tagged.update) := by
  refine ⟨⟨h.sound.past, h.sound.current, h.sound.told⟩, h.isOpen, h.worker, h.opened, fun hc => ?_⟩
  obtain ⟨w, hw, endp, hr, hs⟩ := h.ready hc
  refine ⟨w, hw, endp, hr, ?_⟩
  rw [hu] at hs
  show Shown.foreseen _ s.updates.tail = _
  rw [hu]
  exact hs

end Supervisor

/-! ### The preference -/

namespace Supervisor

variable {s r : Supervisor} {flow : Flow}

theorem trySend_preference {upd : CaptureUpdate}
    (hs : s.trySend upd = (r, flow)) : r.preference = s.preference := by
  unfold trySend at hs
  split at hs
  · cases hs
    rfl
  · split at hs <;> (cases hs; rfl)

theorem pushUpdate_preference {upd : CaptureUpdate}
    (hp : s.pushUpdate upd = (r, flow)) : r.preference = s.preference := by
  unfold pushUpdate at hp
  split at hp
  · rename_i hs
    cases hp
    exact (trySend_preference hs :)
  · exact trySend_preference hp

variable (s)

theorem beginGeneration_preference : s.beginGeneration.1.preference = s.preference := by
  unfold beginGeneration
  dsimp only
  split <;> rename_i hp <;> exact (pushUpdate_preference hp :)

theorem park_preference : s.park.1.preference = s.preference := by
  unfold park
  dsimp only
  generalize hs : Supervisor.trySend _ _ = sent
  exact (trySend_preference hs :)

theorem climbLadder_preference : s.climbLadder.1.preference = s.preference := by
  unfold climbLadder
  dsimp only
  split <;> rename_i hp
  · exact (pushUpdate_preference hp :)
  · exact (beginGeneration_preference _).trans (pushUpdate_preference hp :)
  · exact (pushUpdate_preference hp :)

theorem becomeReady_preference (endp : AudioEndpoint) :
    (s.becomeReady endp).1.preference = s.preference := by
  unfold becomeReady
  dsimp only
  split <;> rename_i hp <;> exact (pushUpdate_preference hp :)

theorem obey_preference (action : ControlAction) : (s.obey action).1.preference = s.preference := by
  cases action with
  | restart => exact beginGeneration_preference _
  | suspend => exact park_preference _
  | stop => rfl

theorem takeControl_preference : s.takeControl.1.preference = s.preference := by
  unfold takeControl
  split
  · rfl
  · split
    all_goals try rfl
    all_goals try exact obey_preference _ _
    unfold parkedControl
    split
    · exact beginGeneration_preference _
    all_goals rfl

/-- Only the actor changes the preference. -/
theorem step_preference {ev : SupervisorEvent} (ho : ev.isOwn = true) :
    (s.step ev).1.preference = s.preference := by
  cases ev with
  | poll =>
    simp only [step, poll]
    split
    · exact beginGeneration_preference _
    · rfl
  | opened =>
    simp only [step, opened]
    split
    · split
      · rfl
      · exact climbLadder_preference s
    · rfl
  | seeReadiness =>
    simp only [step, seeReadiness]
    split
    · split
      · exact becomeReady_preference s _
      · exact climbLadder_preference s
      · rfl
    · rfl
  | seeOutcome =>
    simp only [step, seeOutcome]
    split
    · split
      · split
        · exact obey_preference s .restart
        · exact climbLadder_preference s
      · exact climbLadder_preference s
      · rfl
    · rfl
  | elapsed | yielded =>
    simp only [step, goOn]
    split
    · exact beginGeneration_preference s
    · rfl
  | takeControl => exact takeControl_preference s
  | joined =>
    simp only [step, joined]
    split
    · exact (@trySend_preference s _ _ .stopped rfl :)
    · rfl
  | report _ _ | finish _ _ => rfl
  | frameDrop dropped => exact @trySend_preference s _ _ (.frameDrop dropped) rfl
  | requestControl _ | setPreference _ | takeUpdate | dropUpdates => cases ho

end Supervisor

/-! ## Both together -/

namespace CaptureSystem

section Runs

variable [Lowercase]

/-- The supervisor has the document's preference, or gets it with what is
left to hand over. -/
def HandedOver (t : CaptureSystem) : Prop :=
  (t.supervisor.preference = t.actor.persisted.audioEndpoint ∧
      (t.handing = [] ∨ t.handing = [.control .requestEndpointChange])) ∨
    t.handing = [.preference t.actor.persisted.audioEndpoint, .control .requestEndpointChange]

/-- The worker has the stored preference, or it is on its way. -/
structure InOrder (t : CaptureSystem) : Prop where
  fresh : t.supervisor.Fresh (t.handing ≠ []) (shown t.actor)
  handed : t.HandedOver

variable {t : CaptureSystem}

theorem setAudioEndpoint_inOrder (h : t.InOrder) (hi : t.handing = []) (ports : Ports)
    (id : Nat) (preference : AudioEndpointPreference) :
    (t.setAudioEndpoint ports id preference).InOrder := by
  unfold setAudioEndpoint
  generalize ha : (Batch.setAudioEndpoint { actor := t.actor } ports id preference).actor = actor
  obtain ⟨hs, hn⟩ := setAudioEndpoint_hands t.actor ports id preference actor ha
  have hp : t.supervisor.preference = t.actor.persisted.audioEndpoint := by
    rcases h.handed with ⟨hp, -⟩ | hh
    · exact hp
    · rw [hi] at hh
      cases hh
  have hf : t.supervisor.Fresh (handedOut t.actor actor ≠ []) (shown t.actor) :=
    { h.fresh with
      opened := fun hop => (h.fresh.opened hop).imp_right (Or.imp_right fun hb => absurd hi hb) }
  rw [← hs] at hf
  rcases hn with ⟨hnn, hm⟩ | ht
  · exact ⟨hf, .inl ⟨hp.trans hm.symm, .inl hnn⟩⟩
  · exact ⟨hf, .inr ht⟩

omit [Lowercase] in
theorem handOver_inOrder (h : t.InOrder) : t.handOver.InOrder := by
  unfold handOver
  rcases h.handed with ⟨hp, hh | hh⟩ | hh
  · rw [hh]
    exact h
  · rw [hh]
    exact ⟨requestControl_fresh h.fresh _, .inl ⟨hp, .inl rfl⟩⟩
  · rw [hh]
    exact ⟨setPreference_fresh h.fresh _ (by simp), .inl ⟨rfl, .inr rfl⟩⟩

theorem applyUpdate_inOrder (h : t.InOrder) : t.applyUpdate.InOrder := by
  unfold applyUpdate
  cases hu : t.supervisor.updates with
  | nil => exact h
  | cons tagged =>
    have hf := takeUpdate_fresh h.fresh hu
    rw [← shown_applyCaptureUpdate] at hf
    have hd : (t.actor.applyCaptureUpdate tagged.update).persisted = t.actor.persisted :=
      congrArg Ledger.persisted (applyCaptureUpdate_course t.actor tagged.update).frame.ledger
    refine ⟨hf, ?_⟩
    have hh := h.handed
    unfold HandedOver at hh ⊢
    dsimp only
    rw [hd]
    exact hh

/-- A step keeps everything in order, as long as the queue has room. -/
theorem step_inOrder (h : t.InOrder) (ev : SystemEvent)
    (hr : .overloaded ∉ (t.step ev).2) : (t.step ev).1.InOrder := by
  cases ev with
  | setAudioEndpoint ports id preference =>
    simp only [step]
    split
    · rename_i hi
      exact setAudioEndpoint_inOrder h hi ports id preference
    · exact h
  | handOver => exact handOver_inOrder h
  | requestControl control =>
    simp only [step]
    split
    · exact ⟨requestControl_fresh h.fresh control, h.handed⟩
    · exact h
  | applyUpdate =>
    simp only [step]
    split
    · exact applyUpdate_inOrder h
    · exact h
  | supervisor ev =>
    simp only [step] at hr ⊢
    by_cases ho : ev.isOwn = true
    · rw [if_pos ho] at hr ⊢
      refine ⟨step_fresh h.fresh ev ho hr, ?_⟩
      have hh := h.handed
      unfold HandedOver at hh ⊢
      dsimp only
      rw [step_preference _ ho]
      exact hh
    · rw [if_neg ho]
      exact h

theorem start_inOrder (loaded : LoadedState) (cal : CalibrationProfile) (now : Instant) :
    (start loaded cal now).InOrder := by
  have hs : Supervisor.Sound { preference := loaded.state.audioEndpoint } :=
    sound_of_none (fun w hw => by cases hw) rfl
  exact ⟨.idle hs rfl (fun w hw => by cases hw) rfl, .inl ⟨rfl, .inl rfl⟩⟩

/-- What there is to see once everything has arrived. -/
structure CapturesNewest (t : CaptureSystem) (w : CaptureWorker) (endpoint : AudioEndpoint) :
    Prop where
  ready : w.readiness = .ready endpoint
  opened : w.openedWith = t.supervisor.preference
  chosen : t.supervisor.preference = t.actor.persisted.audioEndpoint
  state : t.actor.snapshot.audioSource.state = .capturing
  endpoint : t.actor.snapshot.audioSource.capturedEndpoint = some endpoint

omit [Lowercase] in
theorem InOrder.capturesNewest (h : t.InOrder) (hi : t.handing = [])
    (hr : t.supervisor.control.unread = false) (ha : t.supervisor.updates = [])
    (hc : t.supervisor.phase = .capturing) :
    ∃ w ∈ t.supervisor.worker, ∃ endp, t.CapturesNewest w endp := by
  obtain ⟨w, hw, endp, hready, hs⟩ := h.fresh.ready hc
  rw [ha] at hs
  have hop : t.supervisor.openedWith = t.supervisor.preference := by
    rcases h.fresh.opened (by rw [hc]; rfl) with hop | hu | hb
    · exact hop
    · simp [hr] at hu
    · exact absurd hi hb
  have hch : t.supervisor.preference = t.actor.persisted.audioEndpoint := by
    rcases h.handed with ⟨hp, -⟩ | hh
    · exact hp
    · rw [hi] at hh
      cases hh
  exact ⟨w, hw, endp, hready, (h.fresh.worker w hw).trans hop, hch,
    congrArg Prod.fst hs, congrArg Prod.snd hs⟩

/-- With no command between its halves, no control unread and no update on
its way, a ready worker is one for the endpoint chosen last, and the
snapshot shows it. -/
theorem newest_endpoint_captured (loaded : LoadedState) (calibration : CalibrationProfile)
    (now : Instant) (events : List SystemEvent)
    (hroom : Mealy.Along step (fun t event => .overloaded ∉ (t.step event).2)
      (start loaded calibration now) events) :
    let t := Mealy.run step (start loaded calibration now) events
    (t.supervisor.workers.filter (·.uncancelled)).length ≤ 1 ∧
      (t.handing = [] → t.supervisor.control.unread = false → t.supervisor.updates = [] →
        t.supervisor.phase = .capturing →
          ∃ w ∈ t.supervisor.worker, ∃ endp, t.CapturesNewest w endp) := by
  have ho := Mealy.along_invariant (fun t event hroom h => step_inOrder h event hroom) events
    hroom (start_inOrder loaded calibration now)
  dsimp only
  refine ⟨ho.fresh.sound.one_uncancelled, ?_⟩
  exact fun hi hr ha hc => ho.capturesNewest hi hr ha hc

end Runs

/-- Capture comes up, the endpoint is changed, and capture comes up again. -/
def changed : List SystemEvent :=
  [.supervisor .poll, .supervisor (.opened true), .supervisor (.report 1 ⟨"a", "Speakers"⟩),
    .supervisor .seeReadiness, .applyUpdate, .applyUpdate,
    .setAudioEndpoint {} 1 (.explicit "b" "Headphones"), .handOver, .handOver,
    .supervisor .takeControl, .supervisor (.opened true),
    .supervisor (.report 2 ⟨"b", "Headphones"⟩), .supervisor .seeReadiness, .applyUpdate,
    .applyUpdate]

def afterChange : CaptureSystem :=
  Mealy.run (@step asciiLowercase)
    (@start asciiLowercase (@LoadedState.defaults asciiLowercase) {} 0) changed

theorem newest_endpoint_captured_changed :
    ∃ w ∈ afterChange.supervisor.worker, ∃ endpoint, afterChange.CapturesNewest w endpoint :=
  (@newest_endpoint_captured asciiLowercase (@LoadedState.defaults asciiLowercase) {} 0 changed
    (by decide)).2
    (by decide) (by decide) (by decide) (by decide)

/-- Between the halves of a command the preference is stored and the change
not requested yet. -/
theorem preference_stored_before_request : ∃ t : CaptureSystem, t = Mealy.run (@step asciiLowercase)
        (@start asciiLowercase (@LoadedState.defaults asciiLowercase) {} 0) (changed.take 8) ∧
      t.supervisor.control.unread = false ∧ t.supervisor.updates.isEmpty = true ∧
        t.supervisor.phase = .capturing ∧
        t.supervisor.worker.map (·.openedWith) = some .systemDefault ∧
        t.supervisor.preference = .explicit "b" "Headphones" :=
  ⟨_, rfl, by decide⟩

end CaptureSystem

end OpenAirCast.Backend.Capture
