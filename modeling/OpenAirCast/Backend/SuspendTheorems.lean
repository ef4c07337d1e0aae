/-
Backend.SuspendTheorems — suspends and reconciles take effect
in the order they arrive, up to one case.

`lastWord` reads the requests of one turn in arrival order and keeps the
last thing they ask for. After the turn the supervisor is as that word
says, unless a suspend arrived in the same turn as the reconcile before
it. `coalesce` runs the suspend first, and the turn ends with a start
under way on a machine that is going to sleep. A rebuild counts as a
reconcile the supervisor makes by itself.
-/
import OpenAirCast.Backend.SessionTheorems

namespace OpenAirCast.Backend

open List Option

namespace Supervisor

variable {s s' : Supervisor}

variable {params : ReconcileParams} {pending : List SessionRequest} {request : SessionRequest}

/-! ## The last word of a turn -/

/-- What the requests handled so far leave the supervisor with: a suspend,
a session it rebuilt by itself, or a reconcile it accepted. -/
inductive Word where
  | suspend
  | rebuild
  | reconcile (params : ReconcileParams)
  deriving DecidableEq

/-- The gate and the generation of the retained parameters, as far as
requests move them. -/
structure Gate where
  accepted : Nat
  retained : Option Nat

/-- A rebuild takes the generation after the retained one. -/
def Gate.rebuild (gate : Gate) : Option Gate :=
  (gate.retained.map wrappingSucc).bind fun generation =>
    if generation ≤ gate.accepted then none else some ⟨generation, some generation⟩

def Gate.after (gate : Gate) (request : SessionRequest) : Gate :=
  if rebuilds request then gate.rebuild.getD gate else gate

def gate (s : Supervisor) : Gate := ⟨s.accepted, s.retained.map (·.generation)⟩

/-- The gate after the requests of a turn other than its reconciles. -/
def gateAfter (s : Supervisor) (pending : List SessionRequest) : Gate :=
  pending.foldl Gate.after s.gate

/-- What is left after the requests of one turn in the order they arrived:
the last suspend, rebuild or accepted reconcile. A reconcile is accepted
when it is newer than the ones before it and than the gate. -/
structure Heard where
  gate : Gate
  newest : Option ReconcileParams := none
  word : Option Word := none

def Heard.next (floor : Nat) (heard : Heard) (request : SessionRequest) : Heard :=
  match request with
  | .reconcile params =>
    { heard with
      newest := newer heard.newest params
      word := if supersedes heard.newest params ∧ floor < params.generation then
          some (.reconcile params)
        else heard.word }
  | .suspend => { heard with word := some .suspend }
  | .networkChanged | .resume =>
    { heard with
      gate := heard.gate.after request
      word := if heard.gate.rebuild.isSome then some .rebuild else heard.word }
  | .setVolume _ _ | .probe => heard

/-- The last word of a turn over the requests. -/
def lastWord (s : Supervisor) (pending : List SessionRequest) : Option Word :=
  (pending.foldl (Heard.next (s.gateAfter pending).accepted) { gate := s.gate }).word

theorem applyInline_concat (requests : List SessionRequest) (request : SessionRequest) :
    ∀ (s : Supervisor) (rdgs : List Reading), s.applyInline (requests ++ [request]) rdgs =
        (s.applyInline requests rdgs).applyInlineRequest request
          ((rdgs.drop requests.length).headD {}) := by
  induction requests with
  | nil => exact fun _ _ => rfl
  | cons _ _ ih =>
    intro s rdgs
    simp only [cons_append, applyInline, ih, length_cons]
    rw [← drop_one, drop_drop, Nat.add_comm]

theorem gate_of_same (same : Same s s') : s'.gate = s.gate := by
  rw [gate, gate, same.accepted, same.retained]

theorem Started.gate (hs : Started s params s') :
    s'.gate = if params.generation ≤ s.accepted then s.gate
      else ⟨params.generation, some params.generation⟩ := by
  cases hs with
  | stale old => rw [if_pos old]
  | idle _ _ same =>
    rw [if_neg (by omega), gate_of_same same]
    rfl
  | starting _ _ same =>
    rw [if_neg (by omega), gate_of_same same]
    rfl

theorem Inlined.gate (hi : Inlined s request s') : s'.gate = s.gate.after request := by
  cases hi with
  | same same kind rebuild =>
    rw [gate_of_same same, Gate.after]
    split
    · rename_i hr
      have hn : s.retained = none := rebuild (by cases request <;> simp_all [rebuilds])
      simp [Gate.rebuild, Supervisor.gate, hn]
    · rfl
  | suspended same =>
    rw [gate_of_same same]
    rfl
  | rebuilt _ _ kind retained started =>
    have hr : rebuilds request = true := by rcases kind with rfl | rfl <;> rfl
    rw [started.gate, Gate.after, if_pos hr]
    simp only [Gate.rebuild, Supervisor.gate, retained, map_some, bind_some, pushUpdate]
    split <;> rfl

/-- A rebuild the gate does not admit leaves what is running. -/
theorem Inlined.unmoved (hi : Inlined s request s')
    (hr : rebuilds request = true) (hg : s.gate.rebuild = none) :
    s'.inFlight = s.inFlight ∧ s'.active = s.active := by
  cases hi with
  | same same => exact ⟨same.inFlight, same.active⟩
  | suspended => simp [rebuilds] at hr
  | rebuilt _ _ _ retained started =>
    cases started with
    | stale => exact ⟨rfl, rfl⟩
    | idle newer | starting newer =>
      simp only [Gate.rebuild, Supervisor.gate, retained, map_some, bind_some,
        ite_eq_left_iff, reduceCtorEq, imp_false, not_not] at hg
      simp only [pushUpdate] at newer
      omega

/-- A suspend leaves nothing running. -/
theorem Inlined.suspended_idle (hi : Inlined s .suspend s') :
    s'.inFlight = none ∧ s'.active = none := by
  cases hi with
  | same same kind => exact ⟨same.inFlight.trans (kind rfl).1, same.active.trans (kind rfl).2⟩
  | suspended same => exact ⟨same.inFlight, same.active⟩
  | rebuilt _ _ kind => simp at kind

theorem Inlined.untouched (hi : Inlined s request s')
    (hs : request ≠ .suspend) (hr : rebuilds request = false) :
    s'.inFlight = s.inFlight ∧ s'.active = s.active := by
  cases hi with
  | same same => exact ⟨same.inFlight, same.active⟩
  | suspended => exact absurd rfl hs
  | rebuilt _ _ kind => rcases kind with rfl | rfl <;> simp [rebuilds] at hr

/-- What the words so far say of the supervisor that has handled the
requests so far other than the reconciles. -/
structure Follows (s : Supervisor) (floor : Nat) (heard : Heard) (s' : Supervisor) : Prop where
  gate : s'.gate = heard.gate
  suspended : heard.word = some .suspend → s'.inFlight = none ∧ s'.active = none
  reconciled : ∀ params, heard.word = some (.reconcile params) →
    heard.newest = some params ∧ floor < params.generation
  silent : heard.word = none → s'.inFlight = s.inFlight ∧ s'.active = s.active
  accepted : ∀ params, heard.newest = some params → floor < params.generation → heard.word ≠ none

variable {newest : Option ReconcileParams}

theorem newer_of_supersedes
    (h : supersedes newest params = true) : newer newest params = some params := by
  simp [newer, h]

theorem newer_of_not_supersedes
    (h : supersedes newest params = false) : newer newest params = newest := by
  simp [newer, h]

variable {heard : Heard} {floor : Nat}

theorem Follows.reconcile (h : Follows s floor heard s')
    (params : ReconcileParams) : Follows s floor (heard.next floor (.reconcile params)) s' := by
  cases hs : supersedes heard.newest params with
  | false =>
    have hn := newer_of_not_supersedes hs
    refine ⟨h.gate, ?_, ?_, ?_, ?_⟩ <;>
      simp only [Heard.next, hs, hn, Bool.false_eq_true, false_and, if_false]
    · exact h.suspended
    · exact h.reconciled
    · exact h.silent
    · exact h.accepted
  | true =>
    have hn := newer_of_supersedes hs
    by_cases hf : floor < params.generation
    · refine ⟨h.gate, ?_, ?_, ?_, ?_⟩ <;> simp [Heard.next, hs, hn, hf]
    · refine ⟨h.gate, ?_, ?_, ?_, ?_⟩ <;> simp only [Heard.next, hs, hn, hf, and_false, if_false]
      · exact h.suspended
      · -- an accepted reconcile is above the floor, and this one is above that
        intro accepted hw
        obtain ⟨hh, ha⟩ := h.reconciled accepted hw
        simp only [supersedes, hh, all_some, decide_eq_true_eq] at hs
        omega
      · exact h.silent
      · intro held hh ha
        rw [← Option.some.inj hh] at ha
        exact absurd ha hf

theorem Follows.inline {s'' : Supervisor}
    (h : Follows s floor heard s') (hi : Inlined s' request s'')
    (hk : isReconcile request = false) : Follows s floor (heard.next floor request) s'' := by
  have hg := hi.gate
  rw [h.gate] at hg
  cases request with
  | reconcile => simp [isReconcile] at hk
  | setVolume receiver volume | probe =>
    obtain ⟨hf, ha⟩ := hi.untouched (by simp) rfl
    refine ⟨hg, ?_, h.reconciled, ?_, h.accepted⟩ <;> rw [hf, ha]
    · exact h.suspended
    · exact h.silent
  | suspend =>
    exact ⟨hg, fun _ => hi.suspended_idle, by simp [Heard.next], by simp [Heard.next],
      by simp [Heard.next]⟩
  | networkChanged | resume =>
    cases hr : heard.gate.rebuild with
    | some next => refine ⟨hg, ?_, ?_, ?_, ?_⟩ <;> simp [Heard.next, hr]
    | none =>
      obtain ⟨hf, ha⟩ := hi.unmoved rfl (h.gate ▸ hr)
      refine ⟨hg, ?_, ?_, ?_, ?_⟩ <;>
        simp only [Heard.next, hr, isSome_none, Bool.false_eq_true, if_false, hf, ha]
      · exact h.suspended
      · exact h.reconciled
      · exact h.silent
      · exact h.accepted

/-- The words of a turn describe what its requests did. -/
theorem heard_follows (s : Supervisor) (floor : Nat) (rdgs : List Reading)
    (pending : List SessionRequest) :
    (pending.foldl (Heard.next floor) { gate := s.gate }).newest = (coalesce pending).2 ∧
      Follows s floor (pending.foldl (Heard.next floor) { gate := s.gate })
        (s.applyInline (coalesce pending).1 rdgs) := by
  induction pending using List.reverseRecOn with
  | nil => exact ⟨rfl, rfl, nofun, nofun, fun _ => ⟨rfl, rfl⟩, nofun⟩
  | append_singleton _ request ih =>
    obtain ⟨hn, hf⟩ := ih
    rw [foldl_append, coalesce_concat]
    cases request with
    | reconcile params =>
      refine ⟨?_, hf.reconcile params⟩
      simp only [foldl_cons, foldl_nil, Heard.next, hn]
    | setVolume | probe | networkChanged | suspend | resume =>
      refine ⟨hn, ?_⟩
      rw [applyInline_concat, foldl_cons, foldl_nil]
      refine hf.inline (applyInlineRequest_inlined ..) ?_
      rfl

/-! ## One turn -/

/-- The turn's newest reconcile passes the gate and wants somebody, and a
suspend arrived after it. -/
def Overtaken (s : Supervisor) (pending : List SessionRequest) : Prop :=
  s.lastWord pending = some .suspend ∧ ∃ params, (coalesce pending).2 = some params ∧
      (s.gateAfter pending).accepted < params.generation ∧ params.desired ≠ []

/-- Reconciles and words leave the gate alone. -/
theorem next_gate (floor : Nat) (heard : Heard) (request : SessionRequest) :
    (heard.next floor request).gate = heard.gate.after request := by
  cases request <;> rfl

theorem gateAfter_inline (s : Supervisor) (pending : List SessionRequest) (rdgs : List Reading) :
    (s.applyInline (coalesce pending).1 rdgs).gate = s.gateAfter pending := by
  have hg := (heard_follows s (s.gateAfter pending).accepted rdgs pending).2.gate
  rw [hg, gateAfter]
  generalize s.gate = gate
  generalize (pending.foldl Gate.after gate).accepted = floor
  have hf : ∀ (requests : List SessionRequest) (heard : Heard),
      (requests.foldl (Heard.next floor) heard).gate = requests.foldl Gate.after heard.gate := by
    intro requests
    induction requests with
    | nil => exact fun _ => rfl
    | cons _ _ ih =>
      intro heard
      rw [foldl_cons, ih, next_gate, foldl_cons]
  exact hf pending { gate := gate }

/-- No turn of the run is overtaken by a suspend. -/
def InOrder (s : Supervisor) : Move → Prop
  | .turn _ => ¬ s.Overtaken s.batch
  | _ => True

/-- Nothing runs and nothing is being activated. -/
structure Asleep (s : Supervisor) : Prop where
  unstarted : s.inFlight = none
  inactive : s.active = none
  unprepared : ∀ generation transport, s.stage ≠ .activating generation transport

theorem lastWord_congr (h : s'.gate = s.gate) : s'.lastWord pending = s.lastWord pending := by
  rw [lastWord, lastWord, gateAfter, gateAfter, h]

/-- Without a word no rebuild has moved the gate. -/
theorem gateAfter_wordless (hw : s.lastWord pending = none) : s.gateAfter pending = s.gate := by
  have hn : ∀ (floor : Nat) (heard : Heard) (request : SessionRequest),
      (heard.next floor request).word = none →
        heard.word = none ∧ heard.gate.after request = heard.gate := by
    intro floor heard request h
    cases request with
    | reconcile =>
      simp only [Heard.next] at h
      split at h
      · cases h
      · exact ⟨h, rfl⟩
    | suspend => cases h
    | setVolume | probe => exact ⟨h, rfl⟩
    | networkChanged | resume =>
      simp only [Heard.next] at h
      cases hr : heard.gate.rebuild <;> simp_all [Gate.after, rebuilds]
  have hf : ∀ (floor : Nat) (requests : List SessionRequest) (heard : Heard),
      (requests.foldl (Heard.next floor) heard).word = none →
        heard.word = none ∧ requests.foldl Gate.after heard.gate = heard.gate := by
    intro floor requests
    induction requests with
    | nil => exact fun _ h => ⟨h, rfl⟩
    | cons request _ ih =>
      intro heard h
      obtain ⟨hw, hg⟩ := ih _ h
      obtain ⟨hw', hg'⟩ := hn floor heard request hw
      rw [next_gate, hg'] at hg
      rw [foldl_cons, hg']
      exact ⟨hw', hg⟩
  exact (hf _ pending _ hw).2

variable (rdgs : List Reading)

/-- A turn without a word leaves what is running. -/
theorem handle_wordless (hw : s.lastWord pending = none) :
    (s.handle pending rdgs).inFlight = s.inFlight ∧ (s.handle pending rdgs).active = s.active ∧
      (s.handle pending rdgs).accepted = s.accepted := by
  obtain ⟨hn, hf⟩ := heard_follows s (s.gateAfter pending).accepted rdgs pending
  obtain ⟨hi, hv⟩ := hf.silent hw
  have ha : (s.applyInline (coalesce pending).1 rdgs).accepted =
      (s.gateAfter pending).accepted := congrArg Gate.accepted (gateAfter_inline s pending rdgs)
  have hg : (s.gateAfter pending).accepted = s.accepted :=
    congrArg Gate.accepted (gateAfter_wordless hw)
  cases hp : (coalesce pending).2 with
  | none =>
    simp only [handle, hp]
    exact ⟨hi, hv, ha.trans hg⟩
  | some params =>
    have hold : params.generation ≤ (s.gateAfter pending).accepted := by
      by_contra hnw
      exact hf.accepted params (hn.trans hp) (Nat.lt_of_not_le hnw) hw
    simp only [handle, hp, startGeneration, ha, hold, if_true]
    exact ⟨hi, hv, hg⟩

variable {word : Option Word}

theorem Same.asleep (same : Same s s') (h : Asleep s) : Asleep s' :=
  ⟨same.inFlight.trans h.unstarted, same.active.trans h.inactive, same.stage ▸ h.unprepared⟩

/-- Only a turn wakes a supervisor that sleeps. -/
theorem Asleep.step (h : Asleep s) {move : Move} (ht : ∀ rdgs, move ≠ .turn rdgs) :
    Asleep (s.step move) := by
  cases move with
  | send request =>
    obtain ⟨_, _, heq⟩ := trySend_eq s request
    rw [Supervisor.step, heq]
    exact ⟨h.unstarted, h.inactive, h.unprepared⟩
  | remember => exact ⟨h.unstarted, h.inactive, h.unprepared⟩
  | complete => simpa [Supervisor.step, complete, h.unstarted] using h
  | adopt => simpa [Supervisor.step, adopt, h.unstarted] using h
  | turn rdgs => exact absurd rfl (ht rdgs)
  | probe rdg =>
    simp only [Supervisor.step]
    split
    · exact (same_runProbeCycle s rdg).asleep h
    · exact h
  | activationRequest =>
    have hm := activationRequest_interrupted s
    simp only [Supervisor.step]
    generalize s.activationRequest = s' at hm
    cases hm with
    | still => exact h
    | dropped => exact ⟨h.unstarted, h.inactive, h.unprepared⟩
    | replaced gen tport _ _ _ activating => exact absurd activating (h.unprepared gen tport)
  | activated succeeded rdg =>
    have hm := activated_activated s succeeded rdg
    simp only [Supervisor.step]
    generalize s.activated succeeded rdg = s' at hm
    cases hm with
    | still => exact h
    | adopted gen tport _ activating => exact absurd activating (h.unprepared gen tport)
    | failed gen tport activating => exact absurd activating (h.unprepared gen tport)
  | cancel =>
    have hi : ∀ s₀ : Supervisor, Asleep { s₀.supersede with stage := .ended } := fun s₀ =>
      ⟨(same_supersede s₀).inFlight, (same_supersede s₀).active, by simp⟩
    simp only [Supervisor.step, cancel]
    split
    · exact h
    · exact hi _
    · exact hi _
    · exact hi _

/-- The session of the newest generation is being started or activated, or is
active. -/
inductive Serving (s : Supervisor) : Prop
  | starting (attempt : StartAttempt) (started : s.inFlight = some attempt)
      (same : attempt.generation = s.accepted) (inactive : s.active = none)
      (unprepared : ∀ generation transport, s.stage ≠ .activating generation transport)
  | activating (transport : Transport) (preparing : s.stage = .activating s.accepted transport)
      (unstarted : s.inFlight = none) (inactive : s.active = none)
  | active (transport : Transport) (adopted : s.active = some transport)
      (unstarted : s.inFlight = none)
      (unprepared : ∀ generation transport, s.stage ≠ .activating generation transport)

/-- A move that concludes a start: its task failed or is gone, its activation
failed or is interrupted, or the supervisor ends. -/
def concludesStart (s : Supervisor) : Move → Bool
  | .adopt => s.inFlight.any (fun attempt => attempt.outcome = .failed || attempt.outcome = .lost)
  | .activated succeeded _ =>
    match s.stage with
    | .activating _ transport => !succeeded || transport.primary.isNone
    | _ => false
  | .activationRequest => decide (s.activationRequest.stage ≠ s.stage)
  | .cancel => true
  | _ => false

theorem Serving.of_eq (h : Serving s) (ha : s'.accepted = s.accepted)
    (hf : s'.inFlight = s.inFlight) (hv : s'.active = s.active) (hs : s'.stage = s.stage) :
    Serving s' := by
  cases h with
  | starting att started same inactive unprepared =>
    exact .starting att (hf.trans started) (same.trans ha.symm) (hv.trans inactive) (by rwa [hs])
  | activating tport preparing unstarted inactive =>
    exact .activating tport (by rw [hs, ha, preparing]) (hf.trans unstarted) (hv.trans inactive)
  | active tport adopted unstarted unprepared =>
    exact .active tport (hv.trans adopted) (hf.trans unstarted) (by rwa [hs])

/-- Adopting its outcome activates the session that is starting. -/
theorem Serving.adopt (h : Serving s) (he : s.concludesStart .adopt = false) :
    Serving s.adopt ∧ s.adopt.accepted = s.accepted := by
  cases hf : s.inFlight with
  | none =>
    have hn : s.adopt = s := by simp only [Supervisor.adopt, hf]
    rw [hn]
    exact ⟨h, rfl⟩
  | some att =>
    cases h with
    | activating _ _ unstarted | active _ _ unstarted => simp [unstarted] at hf
    | starting _ started same inactive unprepared =>
      rw [hf] at started
      cases started
      cases ho : att.outcome with
      | running =>
        have hn : s.adopt = s := by simp only [Supervisor.adopt, hf, ho]
        rw [hn]
        exact ⟨.starting att hf same inactive unprepared, rfl⟩
      | prepared tport =>
        simp only [Supervisor.adopt, hf, ho, same, if_true]
        exact ⟨.activating tport rfl rfl inactive, rfl⟩
      | failed | lost => simp [concludesStart, hf, ho] at he

/-- An activation that succeeds leaves the session active. -/
theorem Serving.activated (h : Serving s) {succeeded : Bool} {rdg : Reading}
    (he : s.concludesStart (.activated succeeded rdg) = false) :
    Serving (s.activated succeeded rdg) ∧ (s.activated succeeded rdg).accepted = s.accepted := by
  have hn : (∀ generation transport, s.stage ≠ .activating generation transport) →
      s.activated succeeded rdg = s := by
    intro hu
    unfold Supervisor.activated
    split
    · exact absurd ‹_› (hu _ _)
    · rfl
  have hs := h
  cases hs with
  | starting _ _ _ _ unprepared | active _ _ _ unprepared =>
    rw [hn unprepared]
    exact ⟨h, rfl⟩
  | activating tport preparing unstarted =>
    simp only [concludesStart, preparing, Bool.or_eq_false_iff, Bool.not_eq_false'] at he
    obtain ⟨prim, hp⟩ := Option.isSome_iff_exists.mp (by simpa using he.2)
    simp only [Supervisor.activated, preparing, he.1, hp]
    exact ⟨.active _ rfl unstarted nofun, rfl⟩

/-- Between two turns a session goes on until a move concludes its start. -/
theorem Serving.step (h : Serving s) {move : Move} (ht : ∀ rdgs, move ≠ .turn rdgs)
    (he : s.concludesStart move = false) :
    Serving (s.step move) ∧ (s.step move).accepted = s.accepted := by
  cases move with
  | send request =>
    obtain ⟨_, _, heq⟩ := trySend_eq s request
    rw [Supervisor.step, heq]
    exact ⟨h.of_eq rfl rfl rfl rfl, rfl⟩
  | remember => exact ⟨h.of_eq rfl rfl rfl rfl, rfl⟩
  | complete res =>
    rcases complete_eq s res with heq | ⟨att, outc, built, hf, heq⟩ <;> rw [Supervisor.step, heq]
    · exact ⟨h, rfl⟩
    · cases h with
      | starting _ started same inactive unprepared =>
        rw [hf] at started
        cases started
        exact ⟨.starting _ rfl same inactive unprepared, rfl⟩
      | activating _ _ unstarted | active _ _ unstarted => simp [unstarted] at hf
  | adopt =>
    simp only [Supervisor.step]
    split
    · exact h.adopt he
    · exact ⟨h, rfl⟩
  | turn rdgs => exact absurd rfl (ht rdgs)
  | probe rdg =>
    have same := same_runProbeCycle s rdg
    simp only [Supervisor.step]
    split
    · exact ⟨h.of_eq same.accepted same.inFlight same.active same.stage, same.accepted⟩
    · exact ⟨h, rfl⟩
  | activationRequest =>
    have hm := activationRequest_interrupted s
    simp only [Supervisor.step, concludesStart, decide_eq_false_iff_not, not_not] at he ⊢
    generalize s.activationRequest = s' at hm he
    cases hm with
    | still => exact ⟨h, rfl⟩
    | dropped => exact ⟨h.of_eq rfl rfl rfl rfl, rfl⟩
    | replaced _ _ _ _ _ activating => simp [activating] at he
  | activated => exact h.activated he
  | cancel => cases he

end Supervisor

end OpenAirCast.Backend
