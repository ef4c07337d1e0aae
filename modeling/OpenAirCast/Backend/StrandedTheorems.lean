/-
Backend.StrandedTheorems — when the retry arm of a running app
is armed.

`Attended` is what holds of the controller and the supervisor together:
while a session is wanted and the supervisor has neither one nor a request
for one, the end of the last one is on its way, or it has arrived and no
desired receiver is in a generation any more. Such a receiver, if discovery
offers it, waits for its rejoin, so the retry arm is armed
(`nextRetryDelay_of_free`).

What breaks it is a session that ends in `Recovering`: the update names the
generation and nobody takes its receivers out of it. `Spared` rules such an
update out.
-/
import OpenAirCast.Backend.SupervisionTheorems

namespace OpenAirCast.Backend

open List Supervisor Controller

namespace Supervisor

variable {s s' : Supervisor}

variable {updates : List SessionUpdate} {update : SessionUpdate}

/-! ## The last update -/

/-- The last lifecycle update is about the newest generation. -/
def Current (s : Supervisor) : Prop :=
  ∀ update, (lifecycles s.updates).getLast? = some update → update.lifecycle = some s.accepted

theorem Same.current (same : Same s s') (h : Current s) : Current s' := by
  unfold Current
  rw [same.lifecycles, same.accepted]
  exact h

variable {g : Nat}

/-- A lifecycle update is the last one once it was published. -/
theorem lifecycles_concat (updates : List SessionUpdate) (h : update.lifecycle = some g) :
    lifecycles (updates ++ [update]) = lifecycles updates ++ [update] := by
  simp [lifecycles, h]

theorem current_concat
    (hu : s.updates = updates ++ [update]) (h : update.lifecycle = some s.accepted) :
    Current s := by
  intro last hl
  rw [hu, lifecycles_concat updates h, getLast?_concat] at hl
  rw [← Option.some.inj hl]
  exact h

theorem Started.current {prms : ReconcileParams} (hs : Started s prms s') (h : Current s) :
    Current s' := by
  cases hs with
  | stale => exact h
  | idle _ _ same => exact same.current (current_concat rfl (lifecycle_idleUpdate prms))
  | starting _ _ same => exact same.current (current_concat rfl rfl)

theorem Inlined.current {req : SessionRequest} (hi : Inlined s req s') (h : Current s) :
    Current s' := by
  cases hi with
  | same same => exact same.current h
  | suspended same => exact same.current (current_concat rfl rfl)
  | rebuilt _ _ _ _ started => exact started.current (current_concat rfl rfl)

/-- No start task has vanished. -/
def Unlost (s : Supervisor) : Prop :=
  ∀ attempt, s.inFlight = some attempt → attempt.outcome ≠ .lost

theorem Same.unlost (same : Same s s') (h : Unlost s) : Unlost s' := by
  unfold Unlost
  rw [same.inFlight]
  exact h

theorem Started.unlost {prms : ReconcileParams} (hs : Started s prms s') (h : Unlost s) :
    Unlost s' := by
  cases hs with
  | stale => exact h
  | idle _ _ same => exact same.unlost (by simp [Unlost])
  | starting _ _ same => exact same.unlost (by simp [Unlost])

theorem Inlined.unlost {req : SessionRequest} (hi : Inlined s req s') (h : Unlost s) :
    Unlost s' := by
  cases hi with
  | same same => exact same.unlost h
  | suspended same => exact same.unlost (by simp [Unlost])
  | rebuilt _ _ _ _ started => exact started.unlost h

/-! ## Between sessions -/

/-- The loop waits and there is no session, and none under way. -/
structure Vacant (s : Supervisor) : Prop where
  waiting : s.stage = .waiting
  unstarted : s.inFlight = none
  inactive : s.active = none

/-- The end of the last session is on its way to the controller, or nothing
is: then `rest` holds. -/
def Ends (updates : List SessionUpdate) (rest : Prop) : Prop :=
  Concluded updates ∧ (lifecycles updates = [] → rest)

variable {rest : Prop}

theorem ends_concat (hl : update.lifecycle = some g) (h : update.concludes = true) :
    Ends (updates ++ [update]) rest := by
  refine ⟨concluded_append (by rw [hl]; rfl) h, fun hn => ?_⟩
  rw [lifecycles_concat updates hl] at hn
  simp at hn

theorem Ends.imp {p q : Prop} (h : Ends updates p) (hi : p → q) : Ends updates q :=
  ⟨h.1, fun hn => hi (h.2 hn)⟩

theorem ends_congr {updates' : List SessionUpdate}
    (hs : lifecycles updates' = lifecycles updates) (h : Ends updates rest) :
    Ends updates' rest := by
  unfold Ends Concluded at h ⊢
  rw [hs]
  exact h

/-- Behind an update that is no end, there is one. -/
theorem Ends.behind {other : Prop} (h : Ends (update :: updates) rest)
    (hf : update.lifecycle = some g)
    (hop : update.concludes = false) : Ends updates other := by
  have hc : lifecycles (update :: updates) = update :: lifecycles updates := by
    simp [lifecycles, hf]
  have hs : lifecycles updates ≠ [] := by
    intro hn
    have hl := h.1 update (by rw [hc, hn]; rfl)
    rw [hop] at hl
    cases hl
  refine ⟨fun last hl => h.1 last ?_, fun hn => absurd hn hs⟩
  rw [hc, getLast?_cons, hl]
  rfl

theorem Ends.taken {other : Prop} (h : Ends (update :: updates) rest)
    (hl : update.lifecycle = some g)
    (ho : lifecycles updates = [] → other) : Ends updates other := by
  have hc : lifecycles (update :: updates) = update :: lifecycles updates := by
    simp [lifecycles, hl]
  refine ⟨fun last hs => h.1 last ?_, ho⟩
  rw [hc, getLast?_cons, hs]
  rfl

/-- Requests that neither suspend nor rebuild leave the session alone. -/
theorem same_applyInline (reqs : List SessionRequest) : ∀ (s : Supervisor) (rdgs : List Reading),
    (∀ req ∈ reqs, req ≠ .suspend ∧ rebuilds req = false) → Same s (s.applyInline reqs rdgs) := by
  induction reqs with
  | nil => exact fun s _ _ => .refl s
  | cons req _ ih =>
    intro s rdgs h
    rw [forall_mem_cons] at h
    refine Same.trans ?_ (ih _ rdgs.tail h.2)
    have hf : Inlined s req (s.applyInlineRequest req (rdgs.headD {})) :=
      applyInlineRequest_inlined ..
    cases hf with
    | same same => exact same
    | suspended => exact absurd rfl h.1.1
    | rebuilt _ _ kind => rcases kind with rfl | rfl <;> simp [rebuilds] at h

/-- A turn after which there is no session reports its end, unless it only
set volumes or handled a suspend. -/
theorem ends_handle {base : Supervisor} {pend : List SessionRequest} {rdgs : List Reading}
    (hm : (reconciles pend).Pairwise (fun a b => a.generation < b.generation))
    (hp : ∀ req ∈ pend, rebuilds req = false)
    (hw : ∀ prms ∈ reconciles pend, base.accepted < prms.generation)
    (hv : Vacant (base.handle pend rdgs))
    (hq : reconciles pend = [] → .suspend ∉ pend ∧ (Vacant base → Ends base.updates rest)) :
    Ends (base.handle pend rdgs).updates rest := by
  have hg := applyInline_gate (coalesce pend).1 base rdgs (by
    rw [coalesce_inline]
    exact fun req hr => hp req (mem_of_mem_filter hr))
  unfold handle at hv ⊢
  rw [coalesce_last hm] at hv ⊢
  cases hl : (reconciles pend).getLast? with
  | none =>
    rw [hl] at hv
    obtain ⟨hu, he⟩ := hq (getLast?_eq_none_iff.mp hl)
    have hs := same_applyInline (coalesce pend).1 base rdgs (by
      rw [coalesce_inline]
      intro req hr
      have hmem := mem_of_mem_filter hr
      exact ⟨fun heq => hu (heq ▸ hmem), hp req hmem⟩)
    refine ends_congr hs.lifecycles (he ⟨hs.stage.symm.trans hv.waiting,
      hs.inFlight.symm.trans hv.unstarted, hs.active.symm.trans hv.inactive⟩)
  | some prms =>
    rw [hl] at hv
    dsimp only at hv ⊢
    have ht := startGeneration_started (base.applyInline (coalesce pend).1 rdgs) prms
    have ha := hw prms (mem_of_getLast? hl)
    generalize (base.applyInline (coalesce pend).1 rdgs).startGeneration prms = started at ht hv ⊢
    cases ht with
    | stale => omega
    | idle _ _ same =>
      exact ends_congr same.lifecycles
        (ends_concat (lifecycle_idleUpdate prms) (concludes_idleUpdate prms))
    | starting _ _ same =>
      have hn := hv.unstarted
      rw [same.inFlight] at hn
      cases hn

/-! ## What the supervisor does by itself -/

/-- The supervisor has no session, and no request for one. -/
structure Unserved (s : Supervisor) : Prop where
  vacant : Vacant s
  unasked : reconciles s.unhandled = []

/-- A move that keeps what is known of the updates and of the requests: no
suspend is left alone that was not, and a session that is gone was gone
before or reports its end. -/
structure Carries (s s' : Supervisor) : Prop where
  current : Current s → Current s'
  unlost : Unlost s → Unlost s'
  asleep : .suspend ∈ s'.unhandled → reconciles s'.unhandled = [] →
    .suspend ∈ s.unhandled ∧ reconciles s.unhandled = []
  ends : ∀ {rest : Prop}, (.suspend ∈ s.unhandled → reconciles s.unhandled ≠ []) →
    (Unserved s → Ends s.updates rest) → Unserved s' → Ends s'.updates rest

theorem Same.carries (same : Same s s') : Carries s s' := by
  have hn : s'.unhandled = s.unhandled := by
    unfold unhandled
    rw [same.stage, same.requests]
  refine ⟨same.current, same.unlost, ?_, ?_⟩
  · rw [hn]
    exact fun hs hnn => ⟨hs, hnn⟩
  · intro rest _ he hu
    refine ends_congr same.lifecycles (he ⟨⟨?_, ?_, ?_⟩, ?_⟩)
    · exact same.stage.symm.trans hu.vacant.waiting
    · exact same.inFlight.symm.trans hu.vacant.unstarted
    · exact same.active.symm.trans hu.vacant.inactive
    · rw [← hn]
      exact hu.unasked

theorem Carries.refl (s : Supervisor) : Carries s s := (Same.refl s).carries

theorem Carries.of_unhandled (hu : s'.unhandled = s.unhandled)
    (hc : Current s → Current s') (hn : Unlost s → Unlost s')
    (he : ∀ {rest : Prop}, Vacant s' → Ends s'.updates rest) : Carries s s' := by
  refine ⟨hc, hn, ?_, fun _ _ hs => he hs.vacant⟩
  rw [hu]
  exact fun hsu hnn => ⟨hsu, hnn⟩

/-- A task that ends with an outcome is not lost. -/
theorem complete_carries (s : Supervisor) {res : StartResult} (hr : res ≠ .lost) :
    Carries s (s.complete res) := by
  unfold complete
  split
  · exact .refl s
  · rename_i att hf
    split
    · cases res with
      | prepared =>
        exact .of_unhandled rfl id (fun _ => by simp [Unlost]) (fun hv => by cases hv.unstarted)
      | failed =>
        exact .of_unhandled rfl id (fun _ => by simp [Unlost]) (fun hv => by cases hv.unstarted)
      | lost => exact absurd rfl hr
    · exact .refl s

/-- An outcome that is adopted is activated or reported. -/
theorem adopt_carries (hp : Placed s) (hu : Unlost s) (hw : s.stage = .waiting) :
    Carries s s.adopt := by
  have ha := adopt_adopted s
  generalize s.adopt = s' at ha
  cases ha with
  | still => exact .refl s
  | activating =>
    refine .of_unhandled ?_ id (fun _ => by simp [Unlost]) (fun hv => ?_)
    · simp [unhandled, replayed, hw, call]
    · cases hv.waiting
  | stale att _ started old => exact absurd (hp.tagged att started).1 old
  | failed _ _ curr =>
    refine .of_unhandled rfl (fun _ => ?_) (fun _ => by simp [Unlost, recover, pushUpdate])
      (fun _ => ends_concat rfl rfl)
    exact current_concat rfl (congrArg some curr)
  | forgotten att started gone =>
    rcases gone with gone | gone
    · exact absurd gone (hu att started)
    · exact absurd (hp.tagged att started).1 gone

theorem activated_carries (hp : Placed s) (succeeded : Bool) (rdg : Reading) :
    Carries s (s.activated succeeded rdg) := by
  have ha := activated_activated s succeeded rdg
  generalize s.activated succeeded rdg = s' at ha
  cases ha with
  | still => exact .refl s
  | adopted generation tport _ activating same =>
    have hc := (hp.activating generation tport activating).1
    refine .of_unhandled ?_ (fun _ => same.current (current_concat rfl (congrArg some hc)))
      (fun hu => same.unlost hu) (fun hv => ?_)
    · unfold unhandled
      rw [same.stage, same.requests, activating]
      rfl
    · have hn := hv.inactive
      rw [same.active] at hn
      cases hn
  | failed generation tport activating =>
    have hc := (hp.activating generation tport activating).1
    refine .of_unhandled ?_ (fun _ => current_concat rfl (congrArg some hc)) id
      (fun _ => ends_concat rfl rfl)
    simp [unhandled, replayed, activating, recover, pushUpdate, stopBounded, call]

variable {asked : Option ReconcileParams} {ctr : Nat}

/-- While an activation runs nothing is vacant, and what it drops is no
reconcile. -/
theorem activationRequest_carries (hp : Placed s) (hi : Informed ctr asked s) :
    Carries s s.activationRequest := by
  unfold Supervisor.activationRequest
  split
  · rename_i generation tport req rest ht hr
    have hd : paramsOf req = none → Carries s { s with requests := rest } := by
      intro hc
      refine ⟨id, id, fun hs hn => ⟨?_, ?_⟩, fun _ _ hu => ?_⟩
      · simp only [unhandled, hr] at hs ⊢
        rcases mem_append.mp hs with hs | hs
        · exact mem_append_left _ hs
        · exact mem_append_right _ (mem_cons_of_mem _ hs)
      · unfold unhandled reconciles at hn ⊢
        simpa [hr, hc] using hn
      · cases ht.symm.trans hu.vacant.waiting
    -- an interrupting request is the next to be handled, as before
    have hint : Carries s { s.stopBounded tport with
        requests := rest
        stage := .replaying req } := by
      refine .of_unhandled ?_ id id (fun hv => by cases hv.waiting)
      simp [unhandled, Supervisor.replayed, ht, hr]
    cases req with
    | reconcile prms =>
      dsimp only
      split
      · rename_i hold
        have hcu := (hp.activating generation tport ht).1
        have hw := hi.newer prms (by
          simp [unhandled, reconciles, hr, paramsOf])
        omega
      · exact hint
    | setVolume => exact hd rfl
    | probe => exact hd rfl
    | networkChanged => exact hint
    | suspend => exact hint
    | resume => exact hint
  · exact .refl s

/-- A turn over everything leaves no request, and no session without its
end. -/
theorem handled_carries (hi : Informed ctr asked s) (base : Supervisor) (ht : base.stage = .waiting)
    (hr : base.requests = []) (ha : base.accepted = s.accepted)
    (hc : Current s → Current base) (hu : Unlost s → Unlost base)
    (he : ∀ {rest : Prop}, reconciles s.unhandled = [] → .suspend ∉ s.unhandled →
      (Unserved s → Ends s.updates rest) → Vacant base → Ends base.updates rest)
    (rdgs : List Reading) : Carries s (base.handle s.unhandled rdgs) := by
  obtain ⟨hs', hr'⟩ := handle_frame base s.unhandled rdgs
  have hm : (base.handle s.unhandled rdgs).unhandled = [] := by
    show replayed (base.handle s.unhandled rdgs).stage ++ _ = []
    rw [hs', ht, hr', hr]
    rfl
  refine ⟨fun h => handle_induction Inlined.current Started.current _ rdgs (hc h),
    fun h => handle_induction Inlined.unlost Started.unlost _ rdgs (hu h), ?_, ?_⟩
  · rw [hm]
    exact fun hs => absurd hs (by simp)
  · intro rest hl hb hun
    refine ends_handle hi.numbered hi.plain ?_ hun.vacant ?_
    · rw [ha]
      exact hi.newer
    · intro hn
      have hs : .suspend ∉ s.unhandled := fun hmem => hl hmem hn
      exact ⟨hs, he hn hs hb⟩

theorem turn_carries (hl : Placed s) (hi : Informed ctr asked s) (rdgs : List Reading) :
    Carries s (s.turn rdgs) := by
  have ht := turn_turned s rdgs
  generalize s.turn rdgs = s' at ht
  cases ht with
  | still => exact .refl s
  | waited waiting queued =>
    have hb : s.batch = s.unhandled := by
      rw [queued]
      simp [unhandled, replayed, waiting]
    rw [hb]
    refine handled_carries hi { s with requests := [] } waiting rfl rfl id id ?_ rdgs
    intro rest hn _ hf hv
    exact hf ⟨⟨hv.waiting, hv.unstarted, hv.inactive⟩, hn⟩
  | replayed req replaying queued =>
    have hb : s.batch = s.unhandled := by
      rw [queued]
      simp [unhandled, Supervisor.replayed, replaying]
    have hmem : req ∈ s.unhandled := by
      rw [← hb, queued]
      exact mem_cons_self
    rw [hb]
    refine handled_carries hi { s with stage := .waiting, requests := [] } rfl rfl rfl id id ?_ rdgs
    -- the interrupting request starts a session or is a suspend
    intro rest hn hs _ _
    have hp := hi.plain req hmem
    rcases (hl.replaying req replaying).2 with rfl | he
    · exact absurd hmem hs
    · cases req with
      | reconcile prms =>
        have hr : prms ∈ reconciles s.unhandled := mem_filterMap.mpr ⟨_, hmem, rfl⟩
        rw [hn] at hr
        cases hr
      | networkChanged | resume => cases hp
      | setVolume | probe | suspend => exact he.elim

end Supervisor

/-! ## The retry arm -/

namespace Controller

/-- No desired receiver is in a generation. -/
def Free (c : Controller) : Prop := ∀ id ∈ c.snapshot.desiredMembers, c.owned id = false

variable {c c' : Controller}

theorem Quiet.free (h : Quiet c c') (hw : c'.wants) (hf : Free c) :
    Free c' := by
  intro id hi
  cases ho : c'.owned id with
  | false => rfl
  | true =>
    obtain ⟨hi', ho'⟩ := (h hw).2 id hi ho
    rw [hf id hi'] at ho'
    cases ho'

/-- A receiver that may rejoin at some time arms the retry arm. -/
theorem nextRetryDelay_isSome (hw : c.wants) {id : ReceiverId}
    (hi : id ∈ c.snapshot.desiredMembers) {at_ : Instant} (h : c.rejoinAt id = some at_)
    (now : Instant) : (c.nextRetryDelay now).isSome = true := by
  have hmem : (id, at_) ∈ (sortedIds c.snapshot.desiredMembers).filterMap (fun recv =>
      (c.rejoinAt recv).map (fun at_ => (recv, at_))) := by
    refine mem_filterMap.mpr ⟨id, by simpa using hi, ?_⟩
    rw [h]
    rfl
  have ha : ¬ (c.suspended = true ∨ c.snapshot.runIntent ≠ .running) := by simp [hw.1, hw.2]
  unfold nextRetryDelay rejoinCandidates
  simp only [if_neg ha]
  generalize (sortedIds c.snapshot.desiredMembers).filterMap _ = instants at hmem
  by_cases hd : at_ ≤ now
  · rw [if_pos]
    · rfl
    · have hc : id ∈ (instants.filter (fun ent => decide (ent.2 ≤ now))).map (·.1) :=
        mem_map.mpr ⟨(id, at_), mem_filter.mpr ⟨hmem, by simpa using hd⟩, rfl⟩
      exact ne_nil_of_mem hc
  · split
    · rfl
    · have hl : at_ ∈ (instants.filter (fun ent => decide (now < ent.2))).map (·.2) :=
        mem_map.mpr ⟨(id, at_), mem_filter.mpr ⟨hmem, by simpa using Nat.lt_of_not_le hd⟩, rfl⟩
      rw [Option.isSome_map, Option.isSome_iff_ne_none, Ne, min?_eq_none_iff]
      exact ne_nil_of_mem hl

/-- Outside a generation, a castable receiver whose failure is not final
waits for its rejoin. -/
theorem nextRetryDelay_of_free (hm : Mirrored c) (hw : c.wants)
    (hf : Free c) {id : ReceiverId} (hi : id ∈ c.snapshot.desiredMembers)
    (hc : c.castable id = true) {mach : ReceiverMachine}
    (hg : c.machines.get id = some mach)
    (hr : ∀ err, mach.state ≠ .failed false err) (now : Instant) :
    (c.nextRetryDelay now).isSome = true := by
  obtain ⟨known, hk, ha⟩ := hm.offered id hc
  obtain rfl : mach = known := Option.some.inj (hg.symm.trans hk)
  have ho : mach.state.ownedByGeneration = false := by
    have hn := hf id hi
    unfold owned at hn
    rw [hg] at hn
    exact hn
  have ht : mach.awaitingRejoin = true := by
    have hp := hm.placed id mach hg ha
    unfold ReceiverMachine.awaitingRejoin
    cases hs : mach.state with
    | discovered | retryWaiting => rfl
    | failed retryable err =>
      cases retryable with
      | true => rfl
      | false => exact absurd hs (hr err)
    | unavailable => exact absurd hs hp
    | connecting | settingUp | ready | streaming =>
      rw [hs] at ho
      cases ho
  obtain ⟨since, hl⟩ := Option.isSome_iff_exists.mp (hm.online id hc)
  have hj : c.rejoinAt id = some (max (max (since + REJOIN_ONLINE_STABLE_FOR)
      ((c.retry.nextRetry id).getD 0)) (c.rejoin.groupAllowedAt.getD 0)) := by
    unfold rejoinAt
    rw [hg, if_pos (by simpa using ht)]
    simp [RejoinRestartLimiter.rejoinEligibleAt, hl]
  exact nextRetryDelay_isSome hw hi hj now

end Controller

/-! ## The two together -/

namespace Supervised

open Supervisor (Current Unlost Ends Unserved unhandled reconciles)

variable {rest : List SessionUpdate} {ports : Ports}

/-- What the supervisor takes of what the controller hands over: the queue
may refuse some, but no reconcile where it `admits`. -/
theorem fed_spec : ∀ (emissions : List Emission) (s : Supervisor),
    ∃ taken : List SessionRequest, taken.Sublist (emissions.filterMap Controller.requestOf) ∧
      (emissions.foldl feed s).unhandled = s.unhandled ++ taken ∧
      (admits s.requests.length emissions = true →
        reconciles taken = reconciles (emissions.filterMap Controller.requestOf))
  | [], s => ⟨[], List.Sublist.refl _, by simp, fun _ => rfl⟩
  | .request req :: rest, s => by
      obtain ⟨taken, hs, hu, ha⟩ := fed_spec rest (s.trySend req).1
      have hl : (Emission.request req :: rest).filterMap Controller.requestOf
          = req :: rest.filterMap Controller.requestOf := rfl
      have hf : (Emission.request req :: rest).foldl feed s
          = rest.foldl feed (s.trySend req).1 := rfl
      rw [hl, hf, hu]
      rw [trySend_length] at ha
      unfold admits
      by_cases hr : s.requests.length < SESSION_REQUEST_CAPACITY
      · refine ⟨req :: taken, hs.cons_cons req, ?_, fun h => ?_⟩
        · rw [(trySend_room req hr).1]
          simp
        · have ht := ha (Bool.and_eq_true_iff.mp h).2
          unfold reconciles at ht ⊢
          rw [filterMap_cons, filterMap_cons, ht]
      · refine ⟨taken, hs.cons req, ?_, fun h => ?_⟩
        · rw [(trySend_full req hr).1]
        · obtain ⟨hp, hrs⟩ := Bool.and_eq_true_iff.mp h
          have hn : Supervisor.paramsOf req = none := by
            cases req with
            | reconcile => simp [Supervisor.isReconcile, hr] at hp
            | setVolume | probe | networkChanged | suspend | resume => rfl
          have ht := ha hrs
          unfold reconciles at ht ⊢
          rw [filterMap_cons, hn, ht]
  | .remember receiver volume :: rest, s => fed_spec rest (s.rememberVolume receiver volume)
  | .publish _ :: rest, s | .confirm _ _ :: rest, s | .completed _ :: rest, s
  | .failed _ _ :: rest, s | .persistenceNotice _ :: rest, s | .discoveryNotice _ :: rest, s
  | .calibration _ :: rest, s | .capturePreference _ :: rest, s | .captureControl _ :: rest, s
  | .restartDiscovery :: rest, s | .scanEndpoints :: rest, s | .injectPattern :: rest, s
  | .cancelTone :: rest, s => fed_spec rest s

theorem fed_frame : ∀ (emissions : List Emission) (s : Supervisor),
    ∃ requests volumes, emissions.foldl feed s = { s with requests, volumes }
  | [], s => ⟨s.requests, s.volumes, rfl⟩
  | emission :: rest, s => by
      have hf : ∃ requests volumes, feed s emission = { s with requests, volumes } := by
        cases emission with
        | remember => exact ⟨s.requests, _, rfl⟩
        | request request => exact trySend_eq s request
        | publish | confirm | completed | failed | persistenceNotice | discoveryNotice
        | calibration | capturePreference | captureControl | restartDiscovery | scanEndpoints
        | injectPattern | cancelTone => exact ⟨s.requests, s.volumes, rfl⟩
      obtain ⟨_, _, heq⟩ := hf
      obtain ⟨requests', volumes', heq'⟩ := fed_frame rest (feed s emission)
      refine ⟨requests', volumes', ?_⟩
      rw [foldl_cons, heq', heq]

/-- What holds whatever the updates say. -/
structure Staged (s : Supervised) : Prop where
  tracks : Tracks s
  mirrored : s.controller.Mirrored
  current : Current s.supervisor
  unlost : Unlost s.supervisor
  /-- A suspend without a reconcile is for a controller that sleeps. -/
  asleep : .suspend ∈ s.supervisor.unhandled → reconciles s.supervisor.unhandled = [] →
    ¬ s.controller.wants

/-- A wanted session that is missing has reported its end, or holds no
desired receiver any more. -/
structure Attended (s : Supervised) : Prop extends Staged s where
  ends : s.controller.wants → Unserved s.supervisor → Ends s.supervisor.updates s.controller.Free

/-- What one pass of the controller has to do for it: send a reconcile, or
not want more than before and see to the end of the session. -/
def Attends (s : Supervised) (after : Controller) : Prop :=
  ∃ new, Controller.Sends { s.controller with out := [] } after new ∧
    ((∃ params, .reconcile params ∈ new) ∨
      ((after.wants → s.controller.wants) ∧ (.suspend ∈ new → ¬ after.wants) ∧
        (after.wants → Unserved s.supervisor → Ends s.supervisor.updates after.Free)))

theorem unserved_fed {s : Supervisor} {emissions : List Emission}
    (h : Unserved (emissions.foldl feed s)) : Unserved s := by
  obtain ⟨_, _, heq⟩ := fed_frame emissions s
  obtain ⟨_, -, hu, -⟩ := fed_spec emissions s
  have hn := h.unasked
  rw [hu] at hn
  unfold reconciles at hn
  rw [filterMap_append] at hn
  have hv := h.vacant
  rw [heq] at hv
  exact ⟨⟨hv.waiting, hv.unstarted, hv.inactive⟩, (append_eq_nil_iff.mp hn).1⟩

variable [Lowercase]

variable {s : Supervised}

theorem Staged.react (h : Staged s) {inp : Ports × Controller.Event}
    (hu : ¬ (s.controller.finished ∨ s.controller.crashed))
    (ht : Tracks (s.react inp))
    (hr : admits s.supervisor.requests.length (s.controller.step inp).2 = true)
    (hat : Attends s (Controller.handle { s.controller with out := [] } inp.1 inp.2)) :
    Attended (s.react inp) := by
  obtain ⟨new, hs, hc⟩ := hat
  have heq : s.controller.step inp =
      ({ Controller.handle { s.controller with out := [] } inp.1 inp.2 with out := [] },
        (Controller.handle { s.controller with out := [] } inp.1 inp.2).out) := by
    rcases controller_step_cases s.controller inp with heq | ⟨-, heq⟩
    · unfold Controller.step at heq ⊢
      rw [if_neg hu]
    · exact heq
  unfold Supervised.react at ht ⊢
  rw [heq] at hr ht ⊢
  generalize Controller.handle { s.controller with out := [] } inp.1 inp.2 = after at hs hc hr ht ⊢
  have hsn : after.out.filterMap Controller.requestOf = new := hs.sent
  obtain ⟨_, _, hf⟩ := fed_frame after.out s.supervisor
  obtain ⟨_, hsu, hh, hd⟩ := fed_spec after.out s.supervisor
  have hrc := hd hr
  rw [hsn] at hsu hrc
  have hm : Controller.Mirrored { after with out := [] } :=
    (hs.mirrored (h.mirrored.of_seat rfl)).of_seat rfl
  have hcu : Current (after.out.foldl feed s.supervisor) := by
    rw [hf]
    exact h.current
  have hl : Unlost (after.out.foldl feed s.supervisor) := by
    rw [hf]
    exact h.unlost
  -- a reconcile that was sent is waiting
  have ha : (∃ prms, .reconcile prms ∈ new) →
      reconciles (after.out.foldl feed s.supervisor).unhandled ≠ [] := by
    rintro ⟨prms, hmem⟩ hn
    rw [hh] at hn
    unfold reconciles at hn hrc
    rw [filterMap_append, hrc] at hn
    have hp : prms ∈ new.filterMap Supervisor.paramsOf := mem_filterMap.mpr ⟨_, hmem, rfl⟩
    rw [(append_eq_nil_iff.mp hn).2] at hp
    cases hp
  refine ⟨⟨ht, hm, hcu, hl, ?_⟩, ?_⟩
  · intro hss hn hw
    rcases hc with he | ⟨hk, hsl, -⟩
    · exact ha he hn
    · rw [hh] at hss hn
      rcases mem_append.mp hss with hb | hne
      · refine h.asleep hb ?_ (hk hw)
        unfold reconciles at hn ⊢
        rw [filterMap_append] at hn
        exact (append_eq_nil_iff.mp hn).1
      · exact hsl (hsu.subset hne) hw
  · intro hw hun
    rcases hc with he | ⟨-, -, hen⟩
    · exact absurd hun.unasked (ha he)
    · have hb := unserved_fed hun
      have hud : (after.out.foldl feed s.supervisor).updates = s.supervisor.updates := by rw [hf]
      rw [hud]
      exact hen hw hb

omit [Lowercase] in
theorem Attended.answered (h : Attended s) {after : Controller}
    (ha : Controller.Answers { s.controller with out := [] } after) : Attends s after := by
  obtain ⟨new, hs, hc⟩ := ha
  refine ⟨new, hs, hc.imp id (fun hq => ⟨fun hw => (hq.1 hw).1, hq.2, fun hw hu => ?_⟩)⟩
  have hb : s.controller.wants := (hq.1 hw).1
  exact (h.ends hb hu).imp (fun hf => hq.1.free hw hf)

/-! ### Updates -/

/-- A session of the newest generation is reported as `Recovering` to a
controller that wants one and has desired receivers in it. -/
def strands (s : Supervised) : Move → Bool
  | .deliver _ =>
    match s.supervisor.updates with
    | .recovering generation _ _ :: _ =>
      decide (s.controller.sessionGeneration ≤ generation)
        && decide (s.controller.snapshot.runIntent = .running) && !s.controller.suspended
        && (sortedIds s.controller.snapshot.desiredMembers).any s.controller.owned
    | _ => false
  | _ => false

omit [Lowercase] in
theorem free_of_not_strands {generation att : Nat} {rsn : RestartReason}
    (h : strands s (.deliver ports) = false)
    (hu : s.supervisor.updates = .recovering generation rsn att :: rest)
    (hn : s.controller.sessionGeneration ≤ generation) (hw : s.controller.wants) :
    s.controller.Free := by
  intro id hi
  cases ho : s.controller.owned id with
  | false => rfl
  | true =>
    have ha : (sortedIds s.controller.snapshot.desiredMembers).any s.controller.owned
        = true := any_eq_true.mpr ⟨id, by simpa using hi, ho⟩
    simp [strands, hu, hn, hw.1, hw.2, ha] at h

theorem Attended.update (h : Attended s) {update : SessionUpdate}
    (hp : s.supervisor.updates = update :: rest)
    (hd : ∀ g, update.lifecycle = some g → g ≤ s.controller.sessionGeneration)
    (hsp : strands s (.deliver ports) = false) :
    Attends { s with supervisor := { s.supervisor with updates := rest } }
      (Controller.applySessionUpdate { s.controller with out := [] } ports update) := by
  -- an update that is no part of the lifecycle is like any other event
  have hl : ∀ {after : Controller}, update.lifecycle = none →
      Controller.Answers { s.controller with out := [] } after →
      Attends { s with supervisor := { s.supervisor with updates := rest } } after := by
    intro after hf han
    obtain ⟨new, hn, ha⟩ := h.answered han
    refine ⟨new, hn, ha.imp id (fun hs => ⟨hs.1, hs.2.1, ?_⟩)⟩
    intro hw hu
    have he := hs.2.2 hw ⟨⟨hu.vacant.waiting, hu.vacant.unstarted, hu.vacant.inactive⟩, hu.unasked⟩
    rw [hp] at he
    refine ends_congr ?_ he
    simp [lifecycles, hf]
  -- for the others, what the queue said before
  have hb : s.controller.wants → Unserved { s.supervisor with updates := rest } →
        Ends (update :: rest) s.controller.Free := by
    intro hw hu
    rw [← hp]
    exact h.ends hw ⟨⟨hu.vacant.waiting, hu.vacant.unstarted, hu.vacant.inactive⟩, hu.unasked⟩
  cases update with
  | starting generation =>
    have hm : Controller.Moves { s.controller with out := [] }
        (Controller.applySessionUpdate { s.controller with out := [] } ports
          (.starting generation)) :=
      applyStarting_moves (hd generation rfl)
    refine ⟨[], hm.sends, .inr ⟨hm.wants, fun hmem => absurd hmem (by simp), ?_⟩⟩
    intro hw hu
    exact (hb (hm.wants hw) hu).behind rfl rfl
  | active generation prim mbrs fails =>
    obtain ⟨new, hn, ha⟩ := applyActive_steady
      { s.controller with out := [] } ports generation prim mbrs fails
    refine ⟨new, hn, ha.imp id (fun hs => ⟨hs.1, hs.2, ?_⟩)⟩
    intro hw hu
    exact (hb (hs.1 hw) hu).behind rfl rfl
  | memberControlFailed => exact hl rfl (Controller.Calm.refl _).answers
  | memberFailed generation recv prim err =>
    exact hl rfl (applyMemberFailed_answers _ ports generation recv prim err)
  | recovering generation rsn att =>
    have hc : Controller.Calm { s.controller with out := [] }
        (Controller.applySessionUpdate { s.controller with out := [] } ports
          (.recovering generation rsn att)) :=
      applyRecovering_calm (c := { s.controller with out := [] }) (hd generation rfl) rsn
    refine ⟨[], hc.sends, .inr ⟨fun hw => (hc.quiet hw).1, fun hmem => absurd hmem (by simp), ?_⟩⟩
    intro hw hu
    have hwn : s.controller.wants := (hc.quiet hw).1
    refine (hb hwn hu).taken rfl (fun hls => ?_)
    -- it is the last word, so it is about the newest generation
    have hcu : generation = s.supervisor.accepted := by
      refine Option.some.inj (h.current (.recovering generation rsn att) ?_)
      rw [hp]
      show (lifecycles ([SessionUpdate.recovering generation rsn att] ++ rest)).getLast? = _
      rw [lifecycles_append, hls]
      rfl
    have hne := (h.tracks.informed.settled hu.unasked).1
    have hr := free_of_not_strands hsp hp (by omega) hwn
    exact hc.quiet.free hw hr
  | stopped =>
    obtain ⟨hc, hle⟩ := applyStopped_calm { s.controller with out := [] }
    show Attends _ (Controller.applyStopped { s.controller with out := [] })
    refine ⟨[], hc.sends, .inr ⟨fun hw => (hc.quiet hw).1, fun hmem => absurd hmem (by simp), ?_⟩⟩
    intro hw hu
    exact (hb (hc.quiet hw).1 hu).taken rfl (fun _ => hle hw)

omit [Lowercase] in
theorem current_taken {s : Supervisor} (h : Current s) {update : SessionUpdate}
    (hu : s.updates = update :: rest) :
    Current { s with updates := rest } := by
  intro last hl
  refine h last ?_
  rw [hu]
  show (lifecycles ([update] ++ rest)).getLast? = _
  rw [lifecycles_append, getLast?_append, hl]
  rfl

theorem Attended.deliver (h : Attended s)
    (hh : Heeds s (.deliver ports)) (hs : strands s (.deliver ports) = false) :
    Attended (s.deliver ports) := by
  have ht := h.tracks.deliver hh
  unfold Supervised.deliver at ht ⊢
  split
  · exact h
  · rename_i hu
    rw [if_neg hu] at ht
    cases hp : s.supervisor.updates with
    | nil => exact h
    | cons update rest =>
      rw [hp] at ht
      obtain ⟨hr, -⟩ := hh
      simp only [emissions, hp] at hr
      have hb : ∀ g, update.lifecycle = some g → g ≤ s.controller.sessionGeneration := by
        intro g hg
        refine le_trans (h.tracks.placed.ordered.bound g ?_) h.tracks.informed.accepted_le
        rw [hp]
        simp [Supervisor.generations, lifecycles, hg]
      have hl : Supervisor.Placed { s.supervisor with updates := rest } := by
        refine h.tracks.placed.taken ?_
        rw [hp]
        exact sublist_cons_self _ _
      have hst : Staged { s with supervisor := { s.supervisor with updates := rest } } :=
        ⟨⟨hl, h.tracks.informed.of_eq rfl rfl rfl⟩, h.mirrored,
          current_taken h.current hp, h.unlost, h.asleep⟩
      exact hst.react hu ht hr (h.update hp hb hs)

/-! ### Runs -/

/-- No update is lost, and every start task reports its outcome. -/
def reports : Move → Bool
  | .lose _ | .complete .lost => false
  | _ => true

/-- The queues hold what is put into them, every start is reported, and no
`Recovering` strands the receivers of its session. -/
def Spared (s : Supervised) (move : Move) : Prop :=
  Heeds s move ∧ reports move = true ∧ strands s move = false

instance (s : Supervised) (move : Move) : Decidable (Spared s move) :=
  inferInstanceAs (Decidable (_ ∧ _))

theorem Attended.event (h : Attended s)
    {ev : Controller.Event} (hs : ∀ update, ev ≠ .session update)
    (ht : Tracks (s.react (ports, ev)))
    (hr : admits s.supervisor.requests.length (s.controller.step (ports, ev)).2 = true) :
    Attended (s.react (ports, ev)) := by
  by_cases hu : s.controller.finished ∨ s.controller.crashed
  · have hst : s.react (ports, ev) = s := by
      unfold Supervised.react Controller.step
      rw [if_pos hu]
      rfl
    rw [hst]
    exact h
  · exact h.toStaged.react hu ht hr (h.answered (handle_answers _ _ hs))

omit [Lowercase] in
theorem Attended.carried (h : Attended s) {supervisor : Supervisor}
    (ht : Tracks { s with supervisor })
    (hc : Supervisor.Carries s.supervisor supervisor) :
    Attended { s with supervisor } := by
  refine ⟨⟨ht, h.mirrored, hc.current h.current, hc.unlost h.unlost, ?_⟩, ?_⟩
  · intro hs hn
    obtain ⟨hs', hn'⟩ := hc.asleep hs hn
    exact h.asleep hs' hn'
  · intro hw hu
    exact hc.ends (fun hs hn => h.asleep hs hn hw) (h.ends hw) hu

/-- A spared move leaves no session unattended. -/
theorem Attended.step {s : Supervised} (h : Attended s) {move : Move} (hs : Spared s move) :
    Attended (s.step move) := by
  obtain ⟨hh, hr, hst⟩ := hs
  have ht := h.tracks.step hh
  have hp := h.tracks.placed
  have hi := h.tracks.informed
  cases move with
  | event _ event =>
    cases event with
    | session => exact h
    | batch | discovery | capture | captureTelemetry | endpoints | system | resumeSettled
    | retryDue | autoConnectDue => exact h.event (by simp) ht hh.1
  | deliver => exact h.deliver hh hst
  | lose => cases hr
  | complete =>
    refine h.carried ht (complete_carries _ ?_)
    rintro rfl
    cases hr
  | adopt =>
    refine h.carried ht ?_
    simp only [Supervisor.step]
    split
    · exact adopt_carries hp h.unlost ‹_›
    · exact .refl _
  | turn rdgs => exact h.carried ht (turn_carries hp hi rdgs)
  | probe rdg =>
    refine h.carried ht ?_
    simp only [Supervisor.step]
    split
    · exact (same_runProbeCycle _ rdg).carries
    · exact .refl _
  | activationRequest => exact h.carried ht (activationRequest_carries hp hi)
  | activated succeeded rdg => exact h.carried ht (activated_carries hp succeeded rdg)

theorem start_attended (loaded : LoadedState) (cal : CalibrationProfile) (now : Instant) :
    Attended (start loaded cal now) := by
  have hs : ¬ (start loaded cal now).controller.wants := by
    rintro ⟨hint, -⟩
    cases hint
  have hf : ∀ c : Controller, c.machines = .empty → c.inventory = .empty → c.Mirrored := by
    intro c hm hi
    have hn : ∀ id, c.castable id = false := by
      intro id
      unfold Controller.castable
      rw [hi]
      rfl
    refine ⟨fun id mach hg => ?_, fun id hc => ?_, fun id hc => ?_⟩
    · rw [hm] at hg
      cases hg
    · rw [hn id] at hc
      cases hc
    · rw [hn id] at hc
      cases hc
  have hr : (start loaded cal now).controller.Mirrored := by
    exact (settleMachines_mirrored (hf _ rfl rfl)).of_seat rfl
  refine ⟨⟨start_tracks loaded cal now, hr, ?_, ?_, fun _ _ => hs⟩, fun hw => absurd hw hs⟩
  · intro update hl
    cases hl
  · intro att hfl
    cases hfl

/-- Nor does a run of spared moves from the launch. -/
theorem run_attended {loaded : LoadedState} {cal : CalibrationProfile} {now : Instant}
    {moves : List Move} (h : Along Spared (start loaded cal now) moves) :
    Attended (run (start loaded cal now) moves) := by
  have hs : ∀ (s : Supervised) (move : Move), Spared s move → Attended s →
      Attended (s.step move) := fun _ _ hp ha => ha.step hp
  exact Mealy.along_invariant hs moves h (start_attended loaded cal now)

/-- A running app with both queues empty and no session, in which discovery
offers a desired receiver whose failure is not final, has its retry arm
armed. Provided that no session ended in `Recovering` with desired
receivers in it. -/
theorem running_app_never_stranded (loaded : LoadedState) (calibration : CalibrationProfile)
    (launch : Instant) (moves : List Move)
    (h : Along Spared (start loaded calibration launch) moves) :
    let s := run (start loaded calibration launch) moves
    s.supervisor.Idle → s.supervisor.updates = [] →
      s.controller.snapshot.runIntent = .running → s.controller.suspended = false →
      (∃ id ∈ s.controller.snapshot.desiredMembers, s.controller.castable id = true ∧
        ∃ mach, s.controller.machines.get id = some mach ∧ ∀ err, mach.state ≠ .failed false err) →
        ∀ now, (s.controller.nextRetryDelay now).isSome = true := by
  intro s hi hu hr ha ho now
  obtain ⟨id, hd, hc, _, hg, he⟩ := ho
  have ht : Attended s := run_attended h
  have hn : Unserved s.supervisor := by
    refine ⟨⟨hi.waiting, hi.unstarted, hi.inactive⟩, ?_⟩
    simp [unhandled, Supervisor.replayed, hi.waiting, hi.unasked, reconciles]
  have hf : s.controller.Free := by
    refine (ht.ends ⟨hr, ha⟩ hn).2 ?_
    rw [hu]
    rfl
  exact nextRetryDelay_of_free ht.mirrored ⟨hr, ha⟩ hf hd hc hg he now

/-- A receiver is selected and started before discovery has found it. -/
def foundLate : List Move :=
  [press 1 (.setDesiredMembers (speakers 1)), press 2 (.setRunIntent .running), .turn [],
    .deliver {}] ++ found 1

omit [Lowercase] in
/-- It is started once it is found. -/
theorem running_app_never_stranded_foundLate :
    ((launched foundLate).controller.nextRetryDelay 0).isSome = true := by
  have ha : @Along asciiLowercase (@Spared asciiLowercase) (@start asciiLowercase
      (@LoadedState.defaults asciiLowercase) {} 0) foundLate := by
    unfold Along
    decide
  have ho : ∃ mach, (launched foundLate).controller.machines.get (speaker 0).id
      = some mach ∧ ∀ err, mach.state ≠ .failed false err := by
    refine ⟨((launched foundLate).controller.machines.get (speaker 0).id).get (by decide),
      by simp, fun err => ?_⟩
    have hd : (((launched foundLate).controller.machines.get (speaker 0).id).get
        (by decide)).state = .discovered := by decide
    rw [hd]
    simp
  exact @running_app_never_stranded asciiLowercase (@LoadedState.defaults asciiLowercase) {} 0
    foundLate ha ⟨by decide, by decide, by decide, by decide⟩
    (by decide) (by decide) (by decide)
    ⟨(speaker 0).id, by decide, by decide, ho⟩ 0

/-- The only receiver refuses its setup, so the start fails as a whole. -/
def startRefused : List Move := started 1 ++ [.complete .failed, .adopt, .deliver {}]

omit [Lowercase] in
/-- The receiver stays in `Connecting` and nothing is going to try again. -/
theorem failed_start_strands : let s := launched startRefused
    s.supervisor.Idle ∧ s.supervisor.updates = [] ∧ s.controller.snapshot.runIntent = .running ∧
      s.controller.suspended = false ∧ (speaker 0).id ∈ s.controller.snapshot.desiredMembers ∧
      s.controller.castable (speaker 0).id = true ∧
      (s.controller.machines.get (speaker 0).id).map (·.state) = some (.connecting 0) ∧
      s.controller.nextRetryDelay 0 = none := by
  refine ⟨⟨?_, ?_, ?_, ?_⟩, ?_⟩
  all_goals decide

end Supervised

end OpenAirCast.Backend
