/-
Backend.SupervisionTheorems — the newest intent reaches the
session supervisor, as long as the queue has room for it.

`Informed` relates the supervisor to the controller's generation counter:
the reconciles it has not handled yet are numbered upwards behind its gate,
the last of them is what the controller asked last, and when none is left
the gate stands at the counter and the retained session is the one asked
for. Requests and turns keep it, unless a reconcile finds the queue full:
then the counter has moved and nothing tells the supervisor.
-/
import OpenAirCast.Backend.AnswerTheorems
import OpenAirCast.Backend.SessionTheorems
import OpenAirCast.Backend.Supervision

namespace OpenAirCast.Backend

open List Controller Supervisor

namespace Supervisor

variable {s s' : Supervisor}

/-- The request an interrupted activation is about to replay. -/
def replayed : Stage → List SessionRequest
  | .replaying request => [request]
  | .waiting | .activating _ _ | .ended => []

/-- Every request the supervisor has not handled, oldest first. -/
def unhandled (s : Supervisor) : List SessionRequest := replayed s.stage ++ s.requests

def paramsOf : SessionRequest → Option ReconcileParams
  | .reconcile params => some params
  | _ => none

/-- The reconciles among the requests. -/
def reconciles (requests : List SessionRequest) : List ReconcileParams :=
  requests.filterMap paramsOf

/-- Where the reconciles of the controller have got to: `counter` is its
generation counter and `asked` what it asked last. -/
structure Informed (counter : Nat) (asked : Option ReconcileParams) (s : Supervisor) : Prop where
  numbered : (reconciles s.unhandled).Pairwise (fun a b => a.generation < b.generation)
  newer : ∀ params ∈ reconciles s.unhandled, s.accepted < params.generation
  newest : ∀ params, (reconciles s.unhandled).getLast? = some params →
    params.generation = counter ∧ asked = some params
  settled : reconciles s.unhandled = [] → s.accepted = counter ∧ s.retained = asked
  plain : ∀ request ∈ s.unhandled, rebuilds request = false

variable {counter : Nat} {asked : Option ReconcileParams}

section

variable (h : Informed counter asked s)
include h

/-- The gate never runs ahead of the counter. -/
theorem Informed.accepted_le : s.accepted ≤ counter := by
  cases hl : (reconciles s.unhandled).getLast? with
  | none => exact le_of_eq (h.settled (getLast?_eq_none_iff.mp hl)).1
  | some prms =>
    rw [← (h.newest prms hl).1]
    exact le_of_lt (h.newer prms (mem_of_getLast? hl))

/-- Only the reconciles tell anything. -/
theorem Informed.of_reconciles (ha : s'.accepted = s.accepted) (hr : s'.retained = s.retained)
    (hs : reconciles s'.unhandled = reconciles s.unhandled)
    (hp : ∀ request ∈ s'.unhandled, rebuilds request = false) :
    Informed counter asked s' := by
  refine ⟨?_, ?_, ?_, ?_, hp⟩
  · rw [hs]
    exact h.numbered
  · rw [hs, ha]
    exact h.newer
  · rw [hs]
    exact h.newest
  · rw [hs, ha, hr]
    exact h.settled

theorem Informed.of_eq (ha : s'.accepted = s.accepted)
    (hr : s'.retained = s.retained) (hu : s'.unhandled = s.unhandled) :
    Informed counter asked s' := by
  refine h.of_reconciles ha hr (by rw [hu]) ?_
  rw [hu]
  exact h.plain

end

theorem Same.informed (same : Same s s') (h : Informed counter asked s) :
    Informed counter asked s' := by
  refine h.of_eq same.accepted same.retained ?_
  unfold unhandled
  rw [same.stage, same.requests]

/-! ## Sending -/

variable (request : SessionRequest)

theorem trySend_room (h : s.requests.length < SESSION_REQUEST_CAPACITY) :
    (s.trySend request).1.unhandled = s.unhandled ++ [request] ∧
      (s.trySend request).1.accepted = s.accepted ∧
      (s.trySend request).1.retained = s.retained := by
  unfold unhandled trySend
  cases request <;> simp [rememberVolume, h]

theorem trySend_full (h : ¬ s.requests.length < SESSION_REQUEST_CAPACITY) :
    (s.trySend request).1.unhandled = s.unhandled ∧ (s.trySend request).1.accepted = s.accepted ∧
      (s.trySend request).1.retained = s.retained := by
  unfold unhandled trySend
  cases request <;> simp [rememberVolume, h]

theorem trySend_length (s : Supervisor) (request : SessionRequest) :
    (s.trySend request).1.requests.length =
      if s.requests.length < SESSION_REQUEST_CAPACITY then s.requests.length + 1
      else s.requests.length := by
  unfold trySend
  by_cases h : s.requests.length < SESSION_REQUEST_CAPACITY <;>
    cases request <;> simp [rememberVolume, h]

/-- A volume or a suspend changes nothing, queued or refused. -/
theorem Informed.send_plain (h : Informed counter asked s) {request : SessionRequest}
    (hc : paramsOf request = none) (hp : rebuilds request = false) :
    Informed counter asked (s.trySend request).1 := by
  by_cases hm : s.requests.length < SESSION_REQUEST_CAPACITY
  · obtain ⟨hu, ha, hr⟩ := trySend_room request hm
    refine h.of_reconciles ha hr ?_ ?_
    · rw [hu]
      simp [reconciles, hc]
    · rw [hu]
      intro other ho
      rcases mem_append.mp ho with ho | ho
      · exact h.plain other ho
      · rw [mem_singleton.mp ho]
        exact hp
  · obtain ⟨hu, ha, hr⟩ := trySend_full request hm
    exact h.of_eq ha hr hu

theorem Informed.send_reconcile (h : Informed counter asked s) {prms : ReconcileParams}
    (hr : s.requests.length < SESSION_REQUEST_CAPACITY) (hx : counter < prms.generation) :
    Informed prms.generation (some prms) (s.trySend (.reconcile prms)).1 := by
  obtain ⟨hu, hc, _⟩ := trySend_room (.reconcile prms) hr
  have ha : reconciles (s.trySend (.reconcile prms)).1.unhandled
      = reconciles s.unhandled ++ [prms] := by
    rw [hu]
    simp [reconciles, paramsOf]
  -- whatever is queued is at most the counter
  have hb : ∀ old ∈ reconciles s.unhandled, old.generation ≤ counter := by
    intro old hold
    cases hl : (reconciles s.unhandled).getLast? with
    | none =>
      rw [getLast?_eq_none_iff.mp hl] at hold
      cases hold
    | some last =>
      rw [← (h.newest last hl).1]
      obtain ⟨_, hf⟩ := getLast?_eq_some_iff.mp hl
      rw [hf] at hold
      rcases mem_append.mp hold with hold | hold
      · have hs := h.numbered
        rw [hf, pairwise_append] at hs
        exact le_of_lt (hs.2.2 old hold last (by simp))
      · rw [mem_singleton.mp hold]
  refine ⟨?_, ?_, ?_, ?_, ?_⟩
  · rw [ha, pairwise_append]
    refine ⟨h.numbered, pairwise_singleton _ _, ?_⟩
    intro old hold new hn
    rw [mem_singleton.mp hn]
    exact lt_of_le_of_lt (hb old hold) hx
  · rw [ha, hc]
    intro new hn
    rcases mem_append.mp hn with hold | hn
    · exact h.newer new hold
    · rw [mem_singleton.mp hn]
      exact lt_of_le_of_lt h.accepted_le hx
  · rw [ha]
    intro last hl
    rw [getLast?_concat] at hl
    cases hl
    exact ⟨rfl, rfl⟩
  · rw [ha]
    simp
  · rw [hu]
    intro other ho
    rcases mem_append.mp ho with ho | ho
    · exact h.plain other ho
    · rw [mem_singleton.mp ho]
      rfl

/-! ## Handling -/

theorem applyInline_gate (reqs : List SessionRequest) : ∀ (s : Supervisor)
    (rdgs : List Reading), (∀ request ∈ reqs, rebuilds request = false) →
      (s.applyInline reqs rdgs).accepted = s.accepted ∧
        (s.applyInline reqs rdgs).retained = s.retained := by
  induction reqs with
  | nil => exact fun _ _ _ => ⟨rfl, rfl⟩
  | cons request _ ih =>
    intro s rdgs h
    rw [forall_mem_cons] at h
    have hf : Inlined s request (s.applyInlineRequest request (rdgs.headD {})) :=
      applyInlineRequest_inlined ..
    have hr : (s.applyInlineRequest request (rdgs.headD {})).retained = s.retained := by
      cases hf with
      | same same => exact same.retained
      | suspended same => exact same.retained
      | rebuilt _ _ kind => rcases kind with rfl | rfl <;> simp [rebuilds] at h
    obtain ⟨ihaccepted, ihretained⟩ := ih (s.applyInlineRequest request (rdgs.headD {}))
      rdgs.tail h.2
    exact ⟨ihaccepted.trans (hf.accepted h.1), ihretained.trans hr⟩

/-- Of reconciles that are numbered upwards the last one is dispatched. -/
theorem coalesce_last : ∀ {pend : List SessionRequest},
    (reconciles pend).Pairwise (fun a b => a.generation < b.generation) →
      (coalesce pend).2 = (reconciles pend).getLast? := by
  intro pend
  induction pend using List.reverseRecOn with
  | nil => exact fun _ => rfl
  | append_singleton pend request ih =>
    intro hn
    rw [coalesce_concat]
    unfold reconciles at hn ih ⊢
    rw [filterMap_append] at hn ⊢
    have ih := ih (pairwise_append.mp hn).1
    cases request with
    | reconcile prms =>
      simp only [filterMap_cons, paramsOf, filterMap_nil, getLast?_concat] at hn ⊢
      unfold newer supersedes
      rw [ih]
      cases hl : (pend.filterMap paramsOf).getLast? with
      | none => rfl
      | some last =>
        have hlt := (pairwise_append.mp hn).2.2 last (mem_of_getLast? hl) prms (by simp)
        simp [hlt]
    | setVolume | probe | networkChanged | suspend | resume => simp [paramsOf, ih]

/-- After a turn over everything nothing is left to learn. -/
theorem Informed.handled (h : Informed counter asked s) (base : Supervisor)
    (ht : base.stage = .waiting) (hq : base.requests = [])
    (hac : base.accepted = s.accepted) (he : base.retained = s.retained)
    (rdgs : List Reading) : Informed counter asked (base.handle s.unhandled rdgs) := by
  obtain ⟨hs', hr'⟩ := handle_frame base s.unhandled rdgs
  have hm : (base.handle s.unhandled rdgs).unhandled = [] := by
    show replayed (base.handle s.unhandled rdgs).stage ++ _ = []
    rw [hs', ht, hr', hq]
    rfl
  have hp : ∀ request ∈ (coalesce s.unhandled).1, rebuilds request = false := by
    rw [coalesce_inline]
    intro request hr
    exact h.plain request (mem_of_mem_filter hr)
  obtain ⟨hg, hk⟩ := applyInline_gate (coalesce s.unhandled).1 base rdgs hp
  have hn : (base.handle s.unhandled rdgs).accepted = counter ∧
      (base.handle s.unhandled rdgs).retained = asked := by
    unfold handle
    rw [coalesce_last h.numbered]
    cases hl : (reconciles s.unhandled).getLast? with
    | none =>
      obtain ⟨hc, ha⟩ := h.settled (getLast?_eq_none_iff.mp hl)
      exact ⟨hg.trans (hac.trans hc), hk.trans (he.trans ha)⟩
    | some prms =>
      obtain ⟨hc, ha⟩ := h.newest prms hl
      have hw := h.newer prms (mem_of_getLast? hl)
      have hs := startGeneration_started (base.applyInline (coalesce s.unhandled).1 rdgs) prms
      dsimp only
      generalize (base.applyInline (coalesce s.unhandled).1 rdgs).startGeneration prms
        = started at hs ⊢
      cases hs with
      | stale => omega
      | idle _ _ same => exact ⟨same.accepted.trans hc, same.retained.trans ha.symm⟩
      | starting _ _ same => exact ⟨same.accepted.trans hc, same.retained.trans ha.symm⟩
  refine ⟨?_, ?_, ?_, fun _ => hn, ?_⟩ <;> rw [hm] <;> simp [reconciles]

theorem Informed.turn (h : Informed counter asked s) (rdgs : List Reading) :
    Informed counter asked (s.turn rdgs) := by
  have ht := turn_turned s rdgs
  generalize s.turn rdgs = s' at ht
  cases ht with
  | still => exact h
  | waited waiting queued =>
    have hb : s.batch = s.unhandled := by
      rw [queued]
      simp [unhandled, replayed, waiting]
    rw [hb]
    exact h.handled { s with requests := [] } waiting rfl rfl rfl rdgs
  | replayed _ replaying queued =>
    have hb : s.batch = s.unhandled := by
      rw [queued]
      simp [unhandled, Supervisor.replayed, replaying]
    rw [hb]
    exact h.handled { s with stage := .waiting, requests := [] } rfl rfl rfl rfl rdgs

/-- A request dropped during an activation tells nothing new: no reconcile
is old. -/
theorem Informed.activationRequest (h : Informed counter asked s) (hp : Placed s) :
    Informed counter asked s.activationRequest := by
  -- taking a request that is no reconcile off the queue
  have hd : ∀ {request rest}, s.requests = request :: rest → paramsOf request = none →
      Informed counter asked { s with requests := rest } := by
    intro request rest hr hc
    refine h.of_reconciles rfl rfl ?_ ?_
    · unfold unhandled
      rw [hr]
      simp [reconciles, hc]
    · intro other ho
      refine h.plain other ?_
      unfold unhandled at ho ⊢
      rw [hr]
      rcases mem_append.mp ho with ho | ho
      · exact mem_append_left _ ho
      · exact mem_append_right _ (mem_cons_of_mem _ ho)
  unfold Supervisor.activationRequest
  split
  · rename_i gen tport request rest hs hr
    -- an interrupting request is the next to be handled, as before
    have hint : Informed counter asked { s.stopBounded tport with
        requests := rest
        stage := .replaying request } := by
      refine h.of_eq rfl rfl ?_
      simp [unhandled, Supervisor.replayed, hs, hr]
    cases request with
    | reconcile prms =>
      dsimp only
      split
      · rename_i hold
        have hu := (hp.activating gen tport hs).1
        have hn := h.newer prms (by
          simp [unhandled, reconciles, hr, paramsOf])
        omega
      · exact hint
    | setVolume => exact hd hr rfl
    | probe => exact hd hr rfl
    | networkChanged => exact hint
    | suspend => exact hint
    | resume => exact hint
  · exact h

theorem Placed.taken (h : Placed s) {updates : List SessionUpdate}
    (hs : updates.Sublist s.updates) : Placed { s with updates } := by
  have hn : (generations updates).Sublist (generations s.updates) := (hs.filter _).filterMap _
  exact ⟨⟨h.ordered.sorted.sublist hn, fun g hg => h.ordered.bound g
    (hn.subset hg)⟩, h.tagged, h.activating, h.replaying⟩

/-- What the supervisor does by itself teaches it nothing but what it was
told. -/
theorem Informed.step (h : Informed counter asked s) (hp : Placed s) {move : Supervised.Move}
    {turn : Move} (ht : move.ofSupervisor = some turn) :
    Informed counter asked (s.step turn) := by
  cases move with
  | event | deliver | lose => cases ht
  | complete res =>
    cases ht
    rcases complete_eq s res with heq | ⟨att, outc, built, -, heq⟩ <;> rw [Supervisor.step, heq]
    · exact h
    · exact h.of_eq rfl rfl rfl
  | adopt =>
    cases ht
    simp only [Supervisor.step]
    split
    · rename_i hw
      have ha := adopt_adopted s
      generalize s.adopt = s' at ha
      cases ha with
      | still => exact h
      | activating =>
        refine h.of_eq rfl rfl ?_
        simp [unhandled, replayed, hw, call]
      | stale => exact h.of_eq rfl rfl rfl
      | failed => exact h.of_eq rfl rfl rfl
      | forgotten => exact h.of_eq rfl rfl rfl
    · exact h
  | turn rdgs =>
    cases ht
    exact h.turn rdgs
  | probe rdg =>
    cases ht
    simp only [Supervisor.step]
    split
    · exact (same_runProbeCycle s rdg).informed h
    · exact h
  | activationRequest =>
    cases ht
    exact h.activationRequest hp
  | activated succeeded rdg =>
    cases ht
    have hc := activated_activated s succeeded rdg
    simp only [Supervisor.step]
    generalize s.activated succeeded rdg = s' at hc
    cases hc with
    | still => exact h
    | adopted _ _ _ activating same =>
      refine same.informed (h.of_eq rfl rfl ?_)
      simp [unhandled, replayed, activating]
    | failed _ _ activating =>
      refine h.of_eq rfl rfl ?_
      simp [unhandled, replayed, activating, recover, pushUpdate, stopBounded, call]

end Supervisor

namespace Supervised

open Supervisor (Informed Placed)

/-! ## What the controller hands over -/

/-- Whether every reconcile among the emissions finds room in a queue of
this length. -/
def admits (queued : Nat) : List Emission → Bool
  | [] => true
  | .request request :: rest =>
    (!Supervisor.isReconcile request || decide (queued < SESSION_REQUEST_CAPACITY))
      && admits (if queued < SESSION_REQUEST_CAPACITY then queued + 1 else queued) rest
  | _ :: rest => admits queued rest

theorem feed_placed {s : Supervisor} (h : Placed s) (em : Emission) : Placed (feed s em) := by
  cases em with
  | remember => exact h.requeue s.requests _
  | request request =>
    obtain ⟨reqs, vols, heq⟩ := trySend_eq s request
    show Placed (s.trySend request).1
    rw [heq]
    exact h.requeue reqs vols
  | publish | confirm | completed | failed | persistenceNotice | discoveryNotice | calibration
  | capturePreference | captureControl | restartDiscovery | scanEndpoints | injectPattern
  | cancelTone => exact h

/-- The newest of the reconciles, the first of them counted. -/
theorem getLast?_or_cons {α : Type} (a : α) (rest : List α) (last : Option α) :
    (a :: rest).getLast?.or last = rest.getLast?.or (some a) := by
  rw [getLast?_cons]
  cases rest.getLast? <;> rfl

/-- Where every reconcile finds room, the supervisor is informed of the
last one. -/
theorem informed_fed : ∀ (emissions : List Emission) {s : Supervisor} {counter counter' : Nat}
    {asked : Option ReconcileParams}, Informed counter asked s →
    Controller.Minted counter (emissions.filterMap Controller.requestOf) counter' →
    admits s.requests.length emissions = true →
    counter + (emissions.filterMap reconcileOf).length ≤ U64_MAX →
      Informed counter' ((emissions.filterMap reconcileOf).getLast?.or asked)
        (emissions.foldl feed s)
  | [], s, counter, counter', asked, h, hm, _, _ => by
      cases hm
      exact h
  | .request (.reconcile params) :: rest, s, counter, counter', asked, h, hm, hr, hb => by
      simp only [admits, Supervisor.isReconcile, Bool.not_true, Bool.false_or, Bool.and_eq_true,
        decide_eq_true_eq] at hr
      obtain ⟨hs, hrs⟩ := hr
      have hc : ((.request (.reconcile params) :: rest : List Emission).filterMap
          reconcileOf) = params :: rest.filterMap reconcileOf := rfl
      rw [hc, length_cons] at hb
      rw [hc, getLast?_or_cons]
      cases hm with
      | reconcile _ next later =>
        have hg : params.generation = counter + 1 := by
          rw [next, saturatingSucc]
          omega
        refine informed_fed rest (h.send_reconcile hs (by omega)) later ?_ (by omega)
        show admits (s.trySend _).1.requests.length rest = true
        rw [trySend_length]
        exact hrs
  | .request (.setVolume receiver volume) :: rest, s, counter, counter', asked, h, hm, hr, hb => by
      cases hm with
      | level _ _ later =>
        refine informed_fed rest (h.send_plain rfl rfl) later ?_ hb
        show admits (s.trySend _).1.requests.length rest = true
        rw [trySend_length]
        simpa [admits, Supervisor.isReconcile] using hr
  | .request .suspend :: rest, s, counter, counter', asked, h, hm, hr, hb => by
      cases hm with
      | suspend later =>
        refine informed_fed rest (h.send_plain rfl rfl) later ?_ hb
        show admits (s.trySend _).1.requests.length rest = true
        rw [trySend_length]
        simpa [admits, Supervisor.isReconcile] using hr
  | .request .probe :: _, _, _, _, _, _, hm, _, _ => by cases hm
  | .request .networkChanged :: _, _, _, _, _, _, hm, _, _ => by cases hm
  | .request .resume :: _, _, _, _, _, _, hm, _, _ => by cases hm
  | .remember receiver volume :: rest, s, counter, counter', asked, h, hm, hr, hb =>
    informed_fed rest (h.of_eq rfl rfl rfl) hm hr hb
  | .publish _ :: rest, _, _, _, _, h, hm, hr, hb
  | .confirm _ _ :: rest, _, _, _, _, h, hm, hr, hb
  | .completed _ :: rest, _, _, _, _, h, hm, hr, hb
  | .failed _ _ :: rest, _, _, _, _, h, hm, hr, hb
  | .persistenceNotice _ :: rest, _, _, _, _, h, hm, hr, hb
  | .discoveryNotice _ :: rest, _, _, _, _, h, hm, hr, hb
  | .calibration _ :: rest, _, _, _, _, h, hm, hr, hb
  | .capturePreference _ :: rest, _, _, _, _, h, hm, hr, hb
  | .captureControl _ :: rest, _, _, _, _, h, hm, hr, hb
  | .restartDiscovery :: rest, _, _, _, _, h, hm, hr, hb
  | .scanEndpoints :: rest, _, _, _, _, h, hm, hr, hb
  | .injectPattern :: rest, _, _, _, _, h, hm, hr, hb
  | .cancelTone :: rest, _, _, _, _, h, hm, hr, hb => informed_fed rest h hm hr hb

/-! ## The two together -/

/-- The loop keeps its place and the supervisor is informed. -/
structure Tracks (s : Supervised) : Prop where
  placed : Placed s.supervisor
  informed : Informed s.controller.sessionGeneration s.asked s.supervisor

variable [Lowercase]

/-- What the controller emits during a move. -/
def emissions (s : Supervised) : Move → List Emission
  | .event _ (.session _) => []
  | .event ports event => (s.controller.step (ports, event)).2
  | .deliver ports =>
    match s.supervisor.updates with
    | [] => []
    | update :: _ => (s.controller.step (ports, .session update)).2
  | _ => []

/-- No reconcile of the move finds the queue full, and the generation
counter is not exhausted. -/
def Heeds (s : Supervised) (move : Move) : Prop :=
  admits s.supervisor.requests.length (s.emissions move) = true ∧
    s.controller.sessionGeneration + ((s.emissions move).filterMap reconcileOf).length ≤ U64_MAX

instance (s : Supervised) (move : Move) : Decidable (Heeds s move) :=
  inferInstanceAs (Decidable (_ ∧ _))

/-- A pass of the controller, if it is still there, starts and ends with
nothing left to hand over. -/
theorem controller_step_cases (c : Controller) (inp : Ports × Controller.Event) :
    c.step inp = (c, []) ∨ (¬ (c.finished ∨ c.crashed) ∧
        c.step inp = ({ Controller.handle { c with out := [] } inp.1 inp.2 with out := [] },
          (Controller.handle { c with out := [] } inp.1 inp.2).out)) := by
  unfold Controller.step
  split
  · exact .inl rfl
  · exact .inr ⟨‹_›, rfl⟩

/-- A session update of a generation that was minted asks for reconciles in
order, like every other event. -/
theorem applySessionUpdate_asks {c : Controller} (ports : Ports) {upd : SessionUpdate}
    (h : ∀ g, upd.lifecycle = some g → g ≤ c.sessionGeneration) :
    Controller.Asks c (c.applySessionUpdate ports upd) := by
  cases upd with
  | starting => exact ⟨_, (applyStarting_moves (h _ rfl)).sends⟩
  | active gen prim mbrs fails =>
    obtain ⟨new, hs, -⟩ := applyActive_steady c ports gen prim mbrs fails
    exact ⟨new, hs⟩
  | memberControlFailed => exact (Controller.Calm.refl c).asks
  | memberFailed gen recv prim err =>
    exact (applyMemberFailed_answers c ports gen recv prim err).asks
  | recovering _ rsn => exact (applyRecovering_calm (h _ rfl) rsn).asks
  | stopped => exact (applyStopped_calm c).1.asks

variable {s : Supervised}

theorem Tracks.react (h : Tracks s) {inp : Ports × Controller.Event}
    (ha : Controller.Asks { s.controller with out := [] }
      (Controller.handle { s.controller with out := [] } inp.1 inp.2))
    (hr : admits s.supervisor.requests.length (s.controller.step inp).2 = true)
    (hb : s.controller.sessionGeneration
      + ((s.controller.step inp).2.filterMap reconcileOf).length ≤ U64_MAX) :
    Tracks (s.react inp) := by
  have hp : ∀ (emissions : List Emission) {supervisor : Supervisor}, Placed supervisor →
      Placed (emissions.foldl feed supervisor) := by
    intro emissions
    induction emissions with
    | nil => exact id
    | cons em _ ih => exact fun h => ih (feed_placed h em)
  refine ⟨hp _ h.placed, ?_⟩
  unfold Supervised.react
  rcases controller_step_cases s.controller inp with heq | ⟨-, heq⟩
  · rw [heq]
    exact h.informed
  · obtain ⟨new, hs⟩ := ha
    rw [heq] at hr hb ⊢
    refine informed_fed _ h.informed ?_ hr hb
    have hn : (Controller.handle { s.controller with out := [] } inp.1 inp.2).sent = new := hs.sent
    have hm := hs.minted
    rw [← hn] at hm
    exact hm

theorem Tracks.deliver (h : Tracks s) {ports : Ports}
    (hh : Heeds s (.deliver ports)) : Tracks (s.deliver ports) := by
  unfold Supervised.deliver
  split
  · exact h
  · obtain ⟨hr, hb⟩ := hh
    cases hu : s.supervisor.updates with
    | nil => exact h
    | cons _ rest =>
      simp only [emissions, hu] at hr hb
      have ht : Tracks { s with supervisor := { s.supervisor with updates := rest } } := by
        refine ⟨h.placed.taken ?_, h.informed.of_eq rfl rfl rfl⟩
        rw [hu]
        exact sublist_cons_self _ _
      refine ht.react ?_ hr hb
      refine applySessionUpdate_asks ports (fun g hg => ?_)
      refine le_trans (h.placed.ordered.bound g ?_) h.informed.accepted_le
      rw [hu]
      simp [Supervisor.generations, lifecycles, hg]

/-- Every move keeps the supervisor informed, as long as no reconcile is
refused. -/
theorem Tracks.step {s : Supervised} (h : Tracks s) {move : Move} (hh : Heeds s move) :
    Tracks (s.step move) := by
  -- what the supervisor does by itself
  have ht : ∀ turn, move.ofSupervisor = some turn →
      Tracks { s with supervisor := s.supervisor.step turn } :=
    fun turn hm => ⟨h.placed.step turn, h.informed.step h.placed hm⟩
  cases move with
  | event _ event =>
    cases event with
    | session => exact h
    | batch | discovery | capture | captureTelemetry | endpoints | system | resumeSettled
    | retryDue | autoConnectDue =>
      refine h.react (handle_answers _ _ ?_).asks hh.1 hh.2
      intro upd heq
      cases heq
  | deliver => exact h.deliver hh
  | lose => exact ⟨h.placed.taken (eraseIdx_sublist _ _), h.informed.of_eq rfl rfl rfl⟩
  | complete | adopt | turn | probe | activationRequest | activated => exact ht _ rfl

theorem start_tracks (loaded : LoadedState) (cal : CalibrationProfile) (now : Instant) :
    Tracks (start loaded cal now) := by
  have hp : Placed ({} : Supervisor) := run_placed []
  refine ⟨hp, ?_, ?_, ?_, fun _ => ⟨rfl, rfl⟩, ?_⟩ <;>
    simp [start, Supervisor.unhandled, Supervisor.replayed, Supervisor.reconciles]

/-- The supervisor is informed in every run it heeds. -/
theorem run_tracks {loaded : LoadedState} {cal : CalibrationProfile} {now : Instant}
    {moves : List Move} (h : Along Heeds (start loaded cal now) moves) :
    Tracks (run (start loaded cal now) moves) := by
  have hs : ∀ (s : Supervised) (move : Move), Heeds s move → Tracks s → Tracks (s.step move) :=
    fun _ _ hh ht => ht.step hh
  exact Mealy.along_invariant hs moves h (start_tracks loaded cal now)

/-- Whenever no request waits, the supervisor has accepted the generation
the controller is at, and the session it retains is the one the controller
asked for last, with its desired set and its intent. Provided that no
reconcile was refused by a full queue. -/
theorem newest_intent_reaches_supervisor (loaded : LoadedState) (calibration : CalibrationProfile)
    (now : Instant) (moves : List Move) (h : Along Heeds (start loaded calibration now) moves) :
    let s := run (start loaded calibration now) moves
    s.supervisor.unhandled = [] → s.supervisor.accepted = s.controller.sessionGeneration ∧
      s.supervisor.retained = s.asked := by
  intro s hn
  refine (run_tracks h).informed.settled ?_
  rw [show (run (start loaded calibration now) moves).supervisor.unhandled = [] from hn]
  rfl

/-! ### A group that plays -/

variable (n : Nat)

/-- A receiver in reach. -/
def speaker : Device := ⟨⟨BitVec.ofNat _ n⟩, "", "", true, true⟩

def speakers : Finset ReceiverId :=
  ((List.range n).map (fun i => (speaker i).id)).toFinset

/-- Discovery finds the first of them. -/
def found : List Move :=
  (List.range n).map (fun i => .event {} (.discovery (.receiver 0 (.added (speaker i)))))

/-- A batch of one command. -/
def press (id : Nat) (command : ControllerCommand) : Move :=
  .event {} (.batch [{ id, command }])

/-- They are found, selected and started. -/
def started : List Move :=
  found n ++ [press 1 (.setDesiredMembers (speakers n)), press 2 (.setRunIntent .running),
    .turn [], .deliver {}]

/-- All of them play, and the supervisor has time for requests. -/
def playing : List Move :=
  started n ++ [.complete (.prepared (some (speaker 0).id) (speakers n) []), .adopt,
    .activated true {}, .deliver {}, .turn []]

/-- A fresh launch, and what the moves make of it. -/
def launched (moves : List Move) : Supervised :=
  @run asciiLowercase (@start asciiLowercase (@LoadedState.defaults asciiLowercase) {} 0) moves

/-- They play, and the user presses Stop. -/
def playedAndStopped : List Move :=
  playing 1 ++ [press 3 (.setRunIntent .stopped), .turn []]

omit [Lowercase] in
/-- A Stop that found room tears the session down. -/
theorem newest_intent_reaches_supervisor_stop : (launched playedAndStopped).supervisor.accepted
        = (launched playedAndStopped).controller.sessionGeneration ∧
      (launched playedAndStopped).supervisor.retained = (launched playedAndStopped).asked ∧
      (launched playedAndStopped).asked.map (·.teardownOnly) = some true := by
  have ha : @Along asciiLowercase (@Heeds asciiLowercase) (@start asciiLowercase
      (@LoadedState.defaults asciiLowercase) {} 0) playedAndStopped := by
    unfold Along
    decide
  have hn : (launched playedAndStopped).supervisor.unhandled = [] := by decide
  obtain ⟨hc, hr⟩ := @newest_intent_reaches_supervisor asciiLowercase
    (@LoadedState.defaults asciiLowercase) {} 0 playedAndStopped ha hn
  exact ⟨hc, hr, by decide⟩

/-- Eight receivers play, and the user mutes and unmutes them while the
supervisor is busy: each press queues eight volumes. The Stop that follows
finds the queue full. -/
def mutedAndStopped : List Move :=
  playing 8 ++ (List.range 32).map (fun i => press (10 + i) (.setMuted (i % 2 == 0)))
    ++ [press 50 (.setRunIntent .stopped), .turn []]

omit [Lowercase] in
/-- When the supervisor has worked the queue off, it still plays. -/
theorem stop_lost_behind_full_queue : let s := launched mutedAndStopped
    s.supervisor.unhandled = [] ∧ s.controller.suspended = false ∧
      s.controller.snapshot.runIntent = .stopped ∧
      s.supervisor.accepted = 1 ∧ s.controller.sessionGeneration = 2 ∧
      s.supervisor.retained.map (·.teardownOnly) = some false ∧
      s.asked.map (·.teardownOnly) = some true ∧ s.supervisor.active.isSome = true := by
  decide +kernel

end Supervised

end OpenAirCast.Backend
