/-
Backend.SessionTheorems — what the session supervisor owes the
controller.

`Inlined` and `Started` say once what a request and a generation can do;
`Same` is what volume changes and probes leave alone. The lifecycle
updates never go back in generation, and a start that was announced is
concluded, unless its task vanishes without an outcome or a suspend
interrupts its activation: that suspend finds neither a start nor a
transport, and says nothing.
-/
import OpenAirCast.Backend.Session

namespace OpenAirCast.Backend

open List

/-- The generation of a lifecycle update. -/
def SessionUpdate.lifecycle : SessionUpdate → Option Nat
  | .starting generation | .active generation _ _ _ | .recovering generation _ _
  | .stopped generation => some generation
  | .memberControlFailed _ _ _ | .memberFailed _ _ _ _ => none

/-- A conclusion: nothing of the generation is left. -/
def SessionUpdate.concludes : SessionUpdate → Bool
  | .recovering _ _ _ | .stopped _ => true
  | _ => false

/-- The lifecycle updates, oldest first. -/
def lifecycles (updates : List SessionUpdate) : List SessionUpdate :=
  updates.filter (fun update => update.lifecycle.isSome)

@[simp] theorem lifecycles_append (upds more : List SessionUpdate) :
    lifecycles (upds ++ more) = lifecycles upds ++ lifecycles more :=
  filter_append ..

namespace Supervisor

variable {s s' : Supervisor}

variable {request : SessionRequest} {params : ReconcileParams} {update : SessionUpdate}

/-! ## What leaves the session alone -/

/-- Nothing that decides about a session differs. -/
structure Same (s s' : Supervisor) : Prop where
  accepted : s'.accepted = s.accepted
  inFlight : s'.inFlight = s.inFlight
  active : s'.active = s.active
  retained : s'.retained = s.retained
  stage : s'.stage = s.stage
  requests : s'.requests = s.requests
  lifecycles : lifecycles s'.updates = lifecycles s.updates

theorem Same.refl (s : Supervisor) : Same s s := ⟨rfl, rfl, rfl, rfl, rfl, rfl, rfl⟩

theorem Same.trans {s'' : Supervisor} (h : Same s s') (h' : Same s' s'') : Same s s'' :=
  ⟨h'.accepted.trans h.accepted, h'.inFlight.trans h.inFlight, h'.active.trans h.active,
    h'.retained.trans h.retained, h'.stage.trans h.stage, h'.requests.trans h.requests,
    h'.lifecycles.trans h.lifecycles⟩

theorem Same.pushUpdate (same : Same s s')
    (h : update.lifecycle = none) : Same s (s'.pushUpdate update) :=
  same.trans ⟨rfl, rfl, rfl, rfl, rfl, rfl, by simp [Supervisor.pushUpdate, Backend.lifecycles, h]⟩

theorem same_probeMember (urgent : Finset ReceiverId) (prim : Option ReceiverId)
    (s : Supervisor) (res : ReceiverId × ProbeAnswer) :
    Same s (probeMember urgent prim s res) := by
  unfold probeMember
  split
  · exact .refl s
  · split
    · exact ⟨rfl, rfl, rfl, rfl, rfl, rfl, rfl⟩
    · exact Same.pushUpdate ⟨rfl, rfl, rfl, rfl, rfl, rfl, rfl⟩ rfl

theorem same_runProbeCycle (s : Supervisor) (rdg : Reading) : Same s (s.runProbeCycle rdg) := by
  unfold runProbeCycle
  split
  · exact .refl s
  · rename_i tport _
    -- one member's answer after the other
    have hf : ∀ (urgent : Finset ReceiverId) (ress : List (ReceiverId × ProbeAnswer))
        (s₀ : Supervisor), Same s₀ (ress.foldl (probeMember urgent tport.primary) s₀) := by
      intro urgent ress
      induction ress with
      | nil => exact fun s₀ => .refl s₀
      | cons _ _ ih => exact fun s₀ => (same_probeMember ..).trans (ih _)
    refine Same.trans ?_ (hf ..)
    exact ⟨rfl, rfl, rfl, rfl, rfl, rfl, rfl⟩

theorem same_setMemberVolume (s : Supervisor) (recv : ReceiverId) (rdg : Reading) :
    Same s (s.setMemberVolume recv rdg) := by
  unfold setMemberVolume
  split
  · exact .refl s
  · split
    · split
      · exact ⟨rfl, rfl, rfl, rfl, rfl, rfl, rfl⟩
      · exact Same.pushUpdate ⟨rfl, rfl, rfl, rfl, rfl, rfl, rfl⟩ rfl
    · exact .refl s

/-! ## What a generation and a request can do -/

/-- What `start_generation` leaves, with the lifecycle update it publishes. -/
inductive Started (s : Supervisor) (params : ReconcileParams) : Supervisor → Prop
  | stale (old : params.generation ≤ s.accepted) : Started s params s
  | idle {s' : Supervisor} (newer : s.accepted < params.generation) (nothing : params.desired = [])
      (same : Same { s with
        accepted := params.generation
        inFlight := none
        active := none
        retained := some params
        updates := s.updates ++ [idleUpdate params] } s') : Started s params s'
  | starting {s' : Supervisor} (newer : s.accepted < params.generation)
      (something : params.desired ≠ [])
      (same : Same { s with
        accepted := params.generation
        inFlight := some { generation := params.generation }
        active := none
        retained := some params
        updates := s.updates ++ [.starting params.generation] } s') : Started s params s'

theorem same_supersede (s : Supervisor) :
    Same { s with inFlight := none, active := none } s.supersede := by
  unfold supersede
  split
  · exact ⟨rfl, rfl, rfl, rfl, rfl, rfl, rfl⟩
  · rename_i ha
    exact ⟨rfl, rfl, ha, rfl, rfl, rfl, rfl⟩

theorem startGeneration_started (s : Supervisor) (params : ReconcileParams) :
    Started s params (s.startGeneration params) := by
  unfold startGeneration
  have hs := same_supersede { s with accepted := params.generation }
  split
  · exact .stale ‹_›
  · rename_i hn
    have hn : s.accepted < params.generation := Nat.lt_of_not_le hn
    split
    · refine .idle hn ‹_› ⟨hs.accepted, hs.inFlight, hs.active, rfl, hs.stage, hs.requests, ?_⟩
      simp [pushUpdate, hs.lifecycles]
    · refine .starting hn ‹_› ⟨hs.accepted, rfl, hs.active, rfl, hs.stage, hs.requests, ?_⟩
      simp [pushUpdate, hs.lifecycles]

/-- What one request other than a reconcile does. -/
inductive Inlined (s : Supervisor) : SessionRequest → Supervisor → Prop
  | same {request : SessionRequest} {s' : Supervisor} (same : Same s s')
      (kind : request = .suspend → s.inFlight = none ∧ s.active = none)
      (rebuild : request = .networkChanged ∨ request = .resume → s.retained = none) :
      Inlined s request s'
  | suspended {s' : Supervisor} (same : Same { s with
        inFlight := none
        active := none
        updates := s.updates ++ [.stopped s.accepted] } s') : Inlined s .suspend s'
  | rebuilt {request : SessionRequest} {s' : Supervisor} (reason : RestartReason)
      (params : ReconcileParams)
      (kind : request = .networkChanged ∨ request = .resume)
      (retained : s.retained = some params)
      (started : Started (s.pushUpdate (.recovering s.accepted reason 0))
        { params with generation := wrappingSucc params.generation } s') : Inlined s request s'

theorem suspend_inlined (s : Supervisor) : Inlined s .suspend s.suspend := by
  have hs := same_supersede s
  simp only [suspend]
  split
  · refine .suspended ⟨hs.accepted, hs.inFlight, hs.active, hs.retained, hs.stage, hs.requests, ?_⟩
    simp [pushUpdate, hs.lifecycles, hs.accepted]
  · rename_i hi
    obtain ⟨hf, ha⟩ : s.inFlight = none ∧ s.active = none := by simpa using hi
    refine .same ⟨hs.accepted, hs.inFlight.trans hf.symm,
      hs.active.trans ha.symm, hs.retained, hs.stage, hs.requests,
      hs.lifecycles⟩ (fun _ => ⟨hf, ha⟩) (by simp)

theorem rebuild_inlined (s : Supervisor) (rsn : RestartReason)
    (hk : request = .networkChanged ∨ request = .resume) :
    Inlined s request (s.rebuildForCause rsn) := by
  unfold rebuildForCause
  split
  · refine .same (.refl s) ?_ (fun _ => ‹_›)
    rintro rfl
    simp at hk
  · exact .rebuilt rsn _ hk ‹_› (startGeneration_started ..)

theorem applyInlineRequest_inlined (s : Supervisor) {request : SessionRequest}
    (rdg : Reading) : Inlined s request (s.applyInlineRequest request rdg) := by
  cases request with
  | reconcile => exact .same (.refl s) (by simp) (by simp)
  | setVolume => exact .same (same_setMemberVolume ..) (by simp) (by simp)
  | probe => exact .same (same_runProbeCycle ..) (by simp) (by simp)
  | networkChanged => exact rebuild_inlined s _ (.inl rfl)
  | suspend => exact suspend_inlined s
  | resume => exact rebuild_inlined s _ (.inr rfl)

/-! ## Lifecycle updates -/

/-- The generations of the lifecycle updates, oldest first. -/
def generations (updates : List SessionUpdate) : List Nat :=
  (lifecycles updates).filterMap (·.lifecycle)

variable {g : Nat} {upds : List SessionUpdate}

theorem generations_append (h : update.lifecycle = some g) :
    generations (upds ++ [update]) = generations upds ++ [g] := by
  simp [generations, lifecycles, h]

/-- The last lifecycle update, if there is one, is a conclusion. -/
def Concluded (updates : List SessionUpdate) : Prop :=
  ∀ update, (lifecycles updates).getLast? = some update → update.concludes = true

theorem concluded_append (hf : update.lifecycle.isSome) (h : update.concludes = true) :
    Concluded (upds ++ [update]) := by
  intro last hl
  have hs : lifecycles [update] = [update] := by simp [lifecycles, hf]
  rw [lifecycles_append, hs, getLast?_concat] at hl
  rw [← Option.some.inj hl]
  exact h

/-- The updates never go back, and none is ahead of the gate. -/
structure Ordered (s : Supervisor) : Prop where
  sorted : (generations s.updates).Pairwise (· ≤ ·)
  bound : ∀ g ∈ generations s.updates, g ≤ s.accepted

/-- A session is under way, or the last one was concluded. -/
def Good (s : Supervisor) : Prop :=
  s.inFlight ≠ none ∨ s.active ≠ none ∨ Concluded s.updates

theorem Same.ordered (same : Same s s') (h : Ordered s) : Ordered s' := by
  have hg : generations s'.updates = generations s.updates := by
    unfold generations
    rw [same.lifecycles]
  exact ⟨hg ▸ h.sorted, hg ▸ same.accepted ▸ h.bound⟩

theorem Same.good (same : Same s s') (h : Good s) : Good s' := by
  unfold Good Concluded at h ⊢
  rw [same.inFlight, same.active, same.lifecycles]
  exact h

theorem Ordered.push (h : Ordered s) (update : SessionUpdate)
    (hl : update.lifecycle = some g) (hle : s.accepted ≤ g) (accepted : g ≤ s'.accepted)
    (hu : s'.updates = s.updates ++ [update]) : Ordered s' := by
  have hb : ∀ old ∈ generations s.updates, old ≤ g := fun old hold => (h.bound old hold).trans hle
  constructor
  · rw [hu, generations_append hl, pairwise_append]
    refine ⟨h.sorted, pairwise_singleton .., ?_⟩
    intro old hold new hn
    rw [mem_singleton.mp hn]
    exact hb old hold
  · rw [hu, generations_append hl]
    intro new hn
    rcases mem_append.mp hn with hold | hn
    · exact (hb new hold).trans accepted
    · rw [mem_singleton.mp hn]
      exact accepted

theorem lifecycle_idleUpdate (params : ReconcileParams) :
    (idleUpdate params).lifecycle = some params.generation := by
  unfold idleUpdate
  split <;> rfl

theorem concludes_idleUpdate (params : ReconcileParams) : (idleUpdate params).concludes = true := by
  unfold idleUpdate
  split <;> rfl

theorem Started.ordered (hs : Started s params s') (h : Ordered s) : Ordered s' := by
  cases hs with
  | stale => exact h
  | idle newer _ same =>
    exact same.ordered (h.push _ (lifecycle_idleUpdate params) newer.le le_rfl rfl)
  | starting newer _ same =>
    exact same.ordered (h.push (.starting params.generation) rfl newer.le le_rfl rfl)

/-- A generation the gate admits is under way or concluded. -/
theorem Started.good_of_newer (hs : Started s params s')
    (newer : s.accepted < params.generation) : Good s' := by
  cases hs with
  | stale => omega
  | idle _ _ same =>
    refine same.good (.inr (.inr (concluded_append ?_ (concludes_idleUpdate params))))
    simp [lifecycle_idleUpdate]
  | starting _ _ same => exact same.good (.inl (by simp))

theorem Started.good (hs : Started s params s') (h : Good s) : Good s' := by
  by_cases newer : s.accepted < params.generation
  · exact hs.good_of_newer newer
  · cases hs with
    | stale => exact h
    | idle newer' => exact absurd newer' newer
    | starting newer' => exact absurd newer' newer

theorem Inlined.ordered (hi : Inlined s request s') (h : Ordered s) : Ordered s' := by
  cases hi with
  | same same => exact same.ordered h
  | suspended same => exact same.ordered (h.push (.stopped s.accepted) rfl le_rfl le_rfl rfl)
  | rebuilt rsn _ _ _ started =>
    exact started.ordered (h.push (.recovering s.accepted rsn 0) rfl le_rfl le_rfl rfl)

/-- A rebuild leaves a session under way or a conclusion. -/
theorem Inlined.good_of_rebuild (hi : Inlined s request s')
    (hk : request = .networkChanged ∨ request = .resume) (hp : s.retained ≠ none) :
    Good s' := by
  cases hi with
  | same _ _ rebuild => exact absurd (rebuild hk) hp
  | suspended => simp at hk
  | rebuilt _ _ _ _ started => exact started.good (.inr (.inr (concluded_append rfl rfl)))

theorem Inlined.good (hi : Inlined s request s') (h : Good s) : Good s' := by
  cases hi with
  | same same => exact same.good h
  | suspended same => exact same.good (.inr (.inr (concluded_append rfl rfl)))
  | rebuilt _ _ _ _ started => exact started.good (.inr (.inr (concluded_append rfl rfl)))

/-! ## Coalescing -/

/-- A request that rebuilds the retained session. -/
def rebuilds : SessionRequest → Bool
  | .networkChanged | .resume => true
  | _ => false

def isReconcile : SessionRequest → Bool
  | .reconcile _ => true
  | _ => false

variable (newest : Option ReconcileParams)

/-- The new reconcile is strictly newer than the one held. -/
def supersedes (params : ReconcileParams) : Bool :=
  newest.all (fun current => decide (current.generation < params.generation))

/-- The reconcile that is left after another one arrived. -/
def newer (params : ReconcileParams) : Option ReconcileParams :=
  if supersedes newest params then some params else newest

variable (pend : List SessionRequest)

theorem coalesce_concat (request : SessionRequest) :
    coalesce (pend ++ [request]) = match request with
      | .reconcile params => ((coalesce pend).1, newer (coalesce pend).2 params)
      | other => ((coalesce pend).1 ++ [other], (coalesce pend).2) := by
  unfold coalesce
  rw [foldl_append]
  cases request <;> rfl

theorem coalesce_inline :
    (coalesce pend).1 = pend.filter (fun request => !isReconcile request) := by
  induction pend using List.reverseRecOn with
  | nil => rfl
  | append_singleton _ request ih =>
    rw [coalesce_concat, filter_append]
    cases request <;> simp [ih, isReconcile]

theorem newer_generation (params : ReconcileParams) :
    ∃ q, newer newest params = some q ∧ params.generation ≤ q.generation ∧
      ∀ curr, newest = some curr → curr.generation ≤ q.generation := by
  unfold newer supersedes
  cases newest with
  | none => exact ⟨params, by simp⟩
  | some curr =>
    by_cases h : curr.generation < params.generation
    · exact ⟨params, by simp [h], le_rfl, by simpa using h.le⟩
    · exact ⟨curr, by simp [h], by omega, by simp⟩

/-- The reconcile that is dispatched is as new as every one queued. -/
theorem coalesce_newest {pend : List SessionRequest} (h : .reconcile params ∈ pend) :
    ∃ q, (coalesce pend).2 = some q ∧ params.generation ≤ q.generation := by
  induction pend using List.reverseRecOn with
  | nil => simp at h
  | append_singleton pend request ih =>
    rw [coalesce_concat]
    rcases mem_append.mp h with h | h
    · obtain ⟨q, hq, hle⟩ := ih h
      cases request with
      | reconcile params' =>
        obtain ⟨q', hq', -, hle'⟩ := newer_generation (coalesce pend).2 params'
        exact ⟨q', hq', hle.trans (hle' q hq)⟩
      | _ => exact ⟨q, hq, hle⟩
    · obtain rfl := mem_singleton.mp h
      obtain ⟨q', hq', hle', -⟩ := newer_generation (coalesce pend).2 params
      exact ⟨q', hq', hle'⟩

/-! ## A turn -/

theorem Started.retained (hs : Started s params s')
    (h : s.retained ≠ none) : s'.retained ≠ none := by
  cases hs with
  | stale => exact h
  | idle _ _ same => simp [same.retained]
  | starting _ _ same => simp [same.retained]

theorem Inlined.retained (hi : Inlined s request s')
    (h : s.retained ≠ none) : s'.retained ≠ none := by
  cases hi with
  | same same => rwa [same.retained]
  | suspended same => rwa [same.retained]
  | rebuilt _ _ _ retained started => exact started.retained h

theorem Inlined.accepted (hi : Inlined s request s')
    (h : rebuilds request = false) : s'.accepted = s.accepted := by
  cases hi with
  | same same => exact same.accepted
  | suspended same => exact same.accepted
  | rebuilt _ _ kind => rcases kind with rfl | rfl <;> simp [rebuilds] at h

variable {P : Supervisor → Prop}

theorem applyInline_induction (hi : ∀ {s s'} {request}, Inlined s request s' → P s → P s') :
    ∀ (reqs : List SessionRequest) {s : Supervisor} (rdgs : List Reading),
      P s → P (s.applyInline reqs rdgs)
  | [], _, _, h => h
  | _ :: rest, _, _, h => applyInline_induction hi rest _ (hi (applyInlineRequest_inlined ..) h)

/-- What every request and every generation keeps, a turn keeps. -/
theorem handle_induction (hn : ∀ {s s'} {request}, Inlined s request s' → P s → P s')
    (hs : ∀ {s s'} {params}, Started s params s' → P s → P s')
    (pend : List SessionRequest) (rdgs : List Reading) (h : P s) :
    P (s.handle pend rdgs) := by
  unfold handle
  have hi := applyInline_induction hn (coalesce pend).1 rdgs h
  split
  · exact hs (startGeneration_started ..) hi
  · exact hi

variable (reqs : List SessionRequest)

theorem accepted_applyInline : ∀ (s : Supervisor)
    (rdgs : List Reading), (∀ request ∈ reqs, rebuilds request = false) →
      (s.applyInline reqs rdgs).accepted = s.accepted := by
  induction reqs with
  | nil => exact fun _ _ _ => rfl
  | cons _ _ ih =>
    intro s rdgs h
    rw [forall_mem_cons] at h
    exact (ih _ _ h.2).trans ((applyInlineRequest_inlined ..).accepted h.1)

/-- A rebuild among the requests leaves a session under way or a
conclusion, whatever was before it. -/
theorem good_applyInline_of_rebuild : ∀ {s : Supervisor}
    (rdgs : List Reading), s.retained ≠ none → (∃ request ∈ reqs, rebuilds request = true) →
        Good (s.applyInline reqs rdgs) := by
  induction reqs with
  | nil => simp
  | cons request rest ih =>
    intro s rdgs hk hr
    have hi : Inlined s request (s.applyInlineRequest request (rdgs.headD {})) :=
      applyInlineRequest_inlined ..
    by_cases hq : rebuilds request = true
    · refine applyInline_induction Inlined.good rest _ (hi.good_of_rebuild ?_ hk)
      cases request <;> simp_all [rebuilds]
    · refine ih _ (hi.retained hk) ?_
      simpa [hq] using hr

/-- A request after which a session is under way or was concluded. -/
def Rescues (accepted : Nat) : SessionRequest → Prop
  | .reconcile params => accepted < params.generation
  | .networkChanged | .resume => True
  | .setVolume _ _ | .probe | .suspend => False

instance (accepted : Nat) : DecidablePred (Rescues accepted)
  | .reconcile params => inferInstanceAs (Decidable (accepted < params.generation))
  | .networkChanged | .resume => isTrue trivial
  | .setVolume _ _ | .probe | .suspend => isFalse id

variable (rdgs : List Reading)

theorem good_handle_of_rescue {pend : List SessionRequest}
    (hk : s.retained ≠ none) (hmem : request ∈ pend)
    (hr : Rescues s.accepted request) : Good (s.handle pend rdgs) := by
  by_cases hb : ∃ request ∈ (coalesce pend).1, rebuilds request = true
  · have hi := good_applyInline_of_rebuild (coalesce pend).1 rdgs hk hb
    unfold handle
    split
    · exact (startGeneration_started ..).good hi
    · exact hi
  · -- without a rebuild the gate has not moved when the newest reconcile gets to it
    cases request with
    | reconcile =>
      obtain ⟨q, hq, hle⟩ := coalesce_newest hmem
      unfold handle
      rw [hq]
      refine (startGeneration_started ..).good_of_newer ?_
      rw [accepted_applyInline _ _ _ (by simpa using hb)]
      exact lt_of_lt_of_le hr hle
    | networkChanged =>
      refine absurd ⟨.networkChanged, ?_, rfl⟩ hb
      rw [coalesce_inline]
      exact mem_filter.mpr ⟨hmem, rfl⟩
    | resume =>
      refine absurd ⟨.resume, ?_, rfl⟩ hb
      rw [coalesce_inline]
      exact mem_filter.mpr ⟨hmem, rfl⟩
    | setVolume => exact hr.elim
    | probe => exact hr.elim
    | suspend => exact hr.elim

/-! ## Every announced start is concluded -/

/-- The start under way is the newest generation's. -/
def Tagged (s : Supervisor) : Prop :=
  ∀ attempt, s.inFlight = some attempt → attempt.generation = s.accepted ∧ s.retained ≠ none

theorem Started.tagged (hs : Started s params s') (h : Tagged s) : Tagged s' := by
  cases hs with
  | stale => exact h
  | idle _ _ same => simp [Tagged, same.inFlight]
  | starting _ _ same =>
    intro att ha
    rw [same.inFlight] at ha
    obtain rfl := Option.some.inj ha
    simp [same.accepted, same.retained]

theorem Inlined.tagged (hi : Inlined s request s') (h : Tagged s) : Tagged s' := by
  cases hi with
  | same same =>
    unfold Tagged
    rw [same.inFlight, same.accepted, same.retained]
    exact h
  | suspended same => simp [Tagged, same.inFlight]
  | rebuilt _ _ _ _ started => exact started.tagged h

theorem Started.frame (hs : Started s params s') :
    s'.stage = s.stage ∧ s'.requests = s.requests := by
  cases hs with
  | stale => exact ⟨rfl, rfl⟩
  | idle _ _ same => exact ⟨same.stage, same.requests⟩
  | starting _ _ same => exact ⟨same.stage, same.requests⟩

theorem Inlined.frame (hi : Inlined s request s') :
    s'.stage = s.stage ∧ s'.requests = s.requests := by
  cases hi with
  | same same => exact ⟨same.stage, same.requests⟩
  | suspended same => exact ⟨same.stage, same.requests⟩
  | rebuilt _ _ _ _ started => exact started.frame

theorem handle_frame (s : Supervisor) (pend : List SessionRequest) (rdgs : List Reading) :
    (s.handle pend rdgs).stage = s.stage ∧ (s.handle pend rdgs).requests = s.requests :=
  handle_induction (P := fun s' => s'.stage = s.stage ∧ s'.requests = s.requests)
    (fun hi h => ⟨hi.frame.1.trans h.1, hi.frame.2.trans h.2⟩)
    (fun hs h => ⟨hs.frame.1.trans h.1, hs.frame.2.trans h.2⟩) pend rdgs ⟨rfl, rfl⟩

/-- Where the loop stands and what it holds agree. -/
structure Placed (s : Supervisor) : Prop where
  ordered : Ordered s
  tagged : Tagged s
  activating : ∀ generation transport, s.stage = .activating generation transport →
    generation = s.accepted ∧ s.retained ≠ none
  replaying : ∀ request, s.stage = .replaying request →
    s.retained ≠ none ∧ (request = .suspend ∨ Rescues s.accepted request)

theorem Placed.handle (ho : Ordered s) (ht : Tagged s) (hs : s.stage = .waiting) :
    Placed (s.handle pend rdgs) := by
  have hw := (handle_frame s pend rdgs).1.trans hs
  exact ⟨handle_induction Inlined.ordered Started.ordered pend rdgs ho,
    handle_induction Inlined.tagged Started.tagged pend rdgs ht,
    by simp [hw], by simp [hw]⟩

/-- The state in which the loop only waits for requests. -/
structure Idle (s : Supervisor) : Prop where
  waiting : s.stage = .waiting
  unstarted : s.inFlight = none
  inactive : s.active = none
  unasked : s.requests = []

/-- The condition under which no announced start is forgotten: the loop
never finds a start task gone without an outcome, and where a suspend
interrupted an activation, something behind it starts or rebuilds a
session. -/
def Concluding (s : Supervisor) : Move → Prop
  | .adopt => s.stage = .waiting → s.inFlight.map (·.outcome) ≠ some .lost
  | .turn _ => s.stage = .replaying .suspend → ∃ request ∈ s.requests, Rescues s.accepted request
  | _ => True

instance (s : Supervisor) : DecidablePred (Concluding s)
  | .adopt => inferInstanceAs
      (Decidable (s.stage = .waiting → s.inFlight.map (·.outcome) ≠ some .lost))
  | .turn _ => inferInstanceAs (Decidable (s.stage = .replaying .suspend →
      ∃ request ∈ s.requests, Rescues s.accepted request))
  | .send _ | .remember _ _ | .complete _ | .probe _ | .activationRequest | .activated _ _
  | .cancel => isTrue trivial

theorem Same.placed (same : Same s s') (h : Placed s) : Placed s' := by
  refine ⟨same.ordered h.ordered, ?_, ?_, ?_⟩
  · unfold Tagged
    rw [same.inFlight, same.accepted, same.retained]
    exact h.tagged
  · rw [same.stage, same.accepted, same.retained]
    exact h.activating
  · rw [same.stage, same.accepted, same.retained]
    exact h.replaying

theorem Placed.requeue (h : Placed s) (requests : List SessionRequest)
    (volumes : EffectiveVolumes) : Placed { s with requests, volumes } :=
  ⟨⟨h.ordered.sorted, h.ordered.bound⟩, h.tagged, h.activating, h.replaying⟩

theorem trySend_eq (s : Supervisor) (request : SessionRequest) :
    ∃ requests volumes, (s.trySend request).1 = { s with requests, volumes } := by
  unfold trySend
  cases request <;> dsimp only <;> split <;> exact ⟨_, _, rfl⟩

theorem complete_eq (s : Supervisor) (res : StartResult) :
    s.complete res = s ∨ ∃ att outcome built, s.inFlight = some att ∧
      s.complete res = { s with inFlight := some { att with outcome }, built } := by
  unfold complete
  split
  · exact .inl rfl
  · split
    · cases res <;> exact .inr ⟨_, _, _, ‹_›, rfl⟩
    · exact .inl rfl

/-- What adopting an outcome does. -/
inductive Adopted (s : Supervisor) : Supervisor → Prop
  | still : Adopted s s
  | activating (attempt : StartAttempt) (transport : Transport)
      (started : s.inFlight = some attempt) (current : attempt.generation = s.accepted) :
      Adopted s { s.call (.activate transport.serial) with
        inFlight := none
        stage := .activating attempt.generation transport }
  | stale (attempt : StartAttempt) (transport : Transport) (started : s.inFlight = some attempt)
      (old : attempt.generation ≠ s.accepted) :
      Adopted s ({ s with inFlight := none }.stopBounded transport)
  | failed (attempt : StartAttempt) (started : s.inFlight = some attempt)
      (current : attempt.generation = s.accepted) :
      Adopted s ({ s with inFlight := none }.recover attempt.generation)
  | forgotten (attempt : StartAttempt) (started : s.inFlight = some attempt)
      (gone : attempt.outcome = .lost ∨ attempt.generation ≠ s.accepted) :
      Adopted s { s with inFlight := none }

theorem adopt_adopted (s : Supervisor) : Adopted s s.adopt := by
  unfold adopt
  split
  · exact .still
  · rename_i att hs
    dsimp only
    split
    · exact .still
    · split
      · exact .activating att _ hs ‹_›
      · exact .stale att _ hs ‹_›
    · split
      · exact .failed att hs ‹_›
      · exact .forgotten att hs (.inr ‹_›)
    · exact .forgotten att hs (.inl ‹_›)

theorem Ordered.recover (h : Ordered s) (hg : g = s.accepted) : Ordered (s.recover g) :=
  h.push (.recovering g .deadRtspRecovered 0) rfl hg.ge hg.le rfl

theorem Placed.adopt (h : Placed s) : Placed s.adopt := by
  have hm := adopt_adopted s
  generalize s.adopt = s' at hm
  cases hm with
  | still => exact h
  | activating att _ started curr =>
    refine ⟨⟨h.ordered.sorted, h.ordered.bound⟩, by simp [Tagged], ?_, by simp⟩
    intro gen transport' ha
    obtain ⟨rfl, rfl⟩ := Stage.activating.inj ha
    exact ⟨curr, (h.tagged att started).2⟩
  | stale =>
    exact ⟨⟨h.ordered.sorted, h.ordered.bound⟩, by simp [Tagged, stopBounded, call],
      h.activating, h.replaying⟩
  | failed _ _ curr =>
    refine ⟨Ordered.recover (s := { s with inFlight := none })
      ⟨h.ordered.sorted, h.ordered.bound⟩ curr, ?_, h.activating, h.replaying⟩
    simp [Tagged, Supervisor.recover, pushUpdate]
  | forgotten =>
    exact ⟨⟨h.ordered.sorted, h.ordered.bound⟩, by simp [Tagged], h.activating, h.replaying⟩

/-- What `activate_prepared` does with the next request. -/
inductive Interrupted (s : Supervisor) : Supervisor → Prop
  | still : Interrupted s s
  | dropped (rest : List SessionRequest) : Interrupted s { s with requests := rest }
  | replaced (generation : Nat) (transport : Transport) (request : SessionRequest)
      (rest : List SessionRequest) (queued : s.requests = request :: rest)
      (activating : s.stage = .activating generation transport)
      (kind : request = .suspend ∨ Rescues generation request) :
      Interrupted s { s.stopBounded transport with
        requests := rest
        stage := .replaying request }

theorem activationRequest_interrupted (s : Supervisor) : Interrupted s s.activationRequest := by
  unfold activationRequest
  split
  · rename_i gen tport request rest hs hr
    cases request with
    | reconcile params =>
      dsimp only
      split
      · exact .dropped rest
      · rename_i hn
        exact .replaced gen tport _ rest hr hs (.inr (Nat.lt_of_not_le hn))
    | setVolume => exact .dropped rest
    | probe => exact .dropped rest
    | networkChanged => exact .replaced gen tport _ rest hr hs (.inr trivial)
    | suspend => exact .replaced gen tport _ rest hr hs (.inl rfl)
    | resume => exact .replaced gen tport _ rest hr hs (.inr trivial)
  · exact .still

theorem Placed.activationRequest (h : Placed s) : Placed s.activationRequest := by
  have hm := activationRequest_interrupted s
  generalize s.activationRequest = s' at hm
  cases hm with
  | still => exact h
  | dropped rest => exact h.requeue rest s.volumes
  | replaced gen tport _ _ _ activating kind =>
    obtain ⟨hc, hk⟩ := h.activating gen tport activating
    refine ⟨⟨h.ordered.sorted, h.ordered.bound⟩, h.tagged, by simp, ?_⟩
    intro request' hr
    obtain rfl := Stage.replaying.inj hr
    exact ⟨hk, hc ▸ kind⟩

/-- How an activation ends. -/
inductive Activated (s : Supervisor) : Supervisor → Prop
  | still : Activated s s
  | adopted {s' : Supervisor} (generation : Nat) (transport : Transport) (primary : ReceiverId)
      (activating : s.stage = .activating generation transport)
      (same : Same { s with
        stage := .waiting
        active := some { transport with failures := [] }
        updates := s.updates ++
          [.active generation primary transport.members transport.failures] } s') :
      Activated s s'
  | failed (generation : Nat) (transport : Transport)
      (activating : s.stage = .activating generation transport) :
      Activated s (({ s with stage := .waiting }.stopBounded transport).recover generation)

theorem activated_activated (s : Supervisor) (succeeded : Bool) (rdg : Reading) :
    Activated s (s.activated succeeded rdg) := by
  unfold activated
  split
  · rename_i gen tport hs
    dsimp only
    split
    · rename_i prim _
      exact .adopted gen tport prim hs ⟨rfl, rfl, rfl, rfl, rfl, rfl, rfl⟩
    · exact .failed gen tport hs
  · exact .still

theorem Placed.activated (h : Placed s) (succeeded : Bool) (rdg : Reading) :
    Placed (s.activated succeeded rdg) := by
  have hm := activated_activated s succeeded rdg
  generalize s.activated succeeded rdg = s' at hm
  cases hm with
  | still => exact h
  | adopted gen tport prim activating same =>
    have hc := (h.activating gen tport activating).1
    refine same.placed ⟨?_, h.tagged, by simp, by simp⟩
    exact h.ordered.push (.active gen prim tport.members tport.failures) rfl hc.ge hc.le rfl
  | failed gen tport activating =>
    have hc := (h.activating gen tport activating).1
    refine ⟨Ordered.recover (s := { s with stage := .waiting }.stopBounded tport)
      ⟨h.ordered.sorted, h.ordered.bound⟩ hc, h.tagged, ?_, ?_⟩ <;>
      simp [Supervisor.recover, pushUpdate, stopBounded, call]

/-- The requests the next turn handles. -/
def batch (s : Supervisor) : List SessionRequest :=
  match s.stage with
  | .replaying request => request :: s.requests
  | .waiting => s.requests
  | .activating _ _ | .ended => []

/-- A turn handles its batch with the queue drained, or finds none. -/
inductive Turned (s : Supervisor) (readings : List Reading) : Supervisor → Prop
  | still (none : s.batch = []) : Turned s readings s
  | waited (waiting : s.stage = .waiting) (queued : s.batch = s.requests) :
      Turned s readings ({ s with requests := [] }.handle s.batch readings)
  | replayed (request : SessionRequest) (replaying : s.stage = .replaying request)
      (queued : s.batch = request :: s.requests) :
      Turned s readings ({ s with stage := .waiting, requests := [] }.handle s.batch readings)

theorem turn_turned (s : Supervisor) (rdgs : List Reading) : Turned s rdgs (s.turn rdgs) := by
  unfold turn
  cases hs : s.stage with
  | waiting =>
    have hb : s.batch = s.requests := by simp [batch, hs]
    cases hr : s.requests with
    | nil => exact .still (hb.trans hr)
    | cons =>
      have ht := @Turned.waited s rdgs hs hb
      rw [hb, hr, hs] at ht
      exact ht
  | replaying request =>
    have hb : s.batch = request :: s.requests := by simp [batch, hs]
    have ht := @Turned.replayed s rdgs request hs hb
    rw [hb] at ht
    exact ht
  | activating => exact .still (by simp [batch, hs])
  | ended => exact .still (by simp [batch, hs])

theorem Placed.turn (h : Placed s) (rdgs : List Reading) : Placed (s.turn rdgs) := by
  have ht := turn_turned s rdgs
  generalize s.turn rdgs = s' at ht
  have ho : Ordered { s with requests := [] } := ⟨h.ordered.sorted, h.ordered.bound⟩
  cases ht with
  | still => exact h
  | waited waiting => exact Placed.handle _ _ ho h.tagged waiting
  | replayed => exact Placed.handle _ _ ⟨h.ordered.sorted, h.ordered.bound⟩ h.tagged rfl

theorem Placed.cancel (h : Placed s) : Placed s.cancel := by
  have he : ∀ s₀ : Supervisor, Ordered s₀ → Placed { s₀.supersede with stage := .ended } := by
    intro s₀ h₀
    have hs := same_supersede s₀
    have ho := hs.ordered (s := { s₀ with inFlight := none, active := none }) ⟨h₀.sorted, h₀.bound⟩
    refine ⟨⟨ho.sorted, ho.bound⟩, ?_, by simp, by simp⟩
    simp [Tagged, hs.inFlight]
  unfold Supervisor.cancel
  split
  · exact h
  · exact he _ ⟨h.ordered.sorted, h.ordered.bound⟩
  · exact he _ h.ordered
  · exact he _ h.ordered

/-- Every move keeps where the loop stands and what it holds in step. -/
theorem Placed.step (h : Placed s) (move : Move) : Placed (s.step move) := by
  cases move with
  | send request =>
    obtain ⟨reqs, vols, heq⟩ := trySend_eq s request
    rw [Supervisor.step, heq]
    exact h.requeue reqs vols
  | remember => exact h.requeue s.requests _
  | complete res =>
    rcases complete_eq s res with heq | ⟨att, outc, built, hf, heq⟩ <;> rw [Supervisor.step, heq]
    · exact h
    · refine ⟨⟨h.ordered.sorted, h.ordered.bound⟩, ?_, h.activating, h.replaying⟩
      intro attempt' ha
      obtain rfl := Option.some.inj ha
      exact h.tagged att hf
  | adopt =>
    simp only [Supervisor.step]
    split
    · exact h.adopt
    · exact h
  | turn rdgs => exact h.turn rdgs
  | probe rdg =>
    simp only [Supervisor.step]
    split
    · exact (same_runProbeCycle s rdg).placed h
    · exact h
  | activationRequest => exact h.activationRequest
  | activated succeeded rdg => exact h.activated succeeded rdg
  | cancel => exact h.cancel

/-- A waiting loop has a session under way or has concluded the last one. -/
def Honest (s : Supervisor) : Prop := s.stage = .waiting → Good s

theorem Same.honest (same : Same s s') (h : Honest s) : Honest s' := by
  intro hs
  exact same.good (h (same.stage ▸ hs))

theorem Honest.adopt (h : Honest s) (hp : Placed s) (hs : s.stage = .waiting)
    (hc : Concluding s .adopt) : Honest s.adopt := by
  have hm := adopt_adopted s
  generalize s.adopt = s' at hm
  intro hw
  cases hm with
  | still => exact h hw
  | activating => simp at hw
  | stale att _ started old => exact absurd (hp.tagged att started).1 old
  | failed => exact .inr (.inr (concluded_append rfl rfl))
  | forgotten att started gone =>
    rcases gone with gone | gone
    · exact absurd (by simp [started, gone]) (hc hs)
    · exact absurd (hp.tagged att started).1 gone

theorem Honest.activated (h : Honest s) (succeeded : Bool) (rdg : Reading) :
    Honest (s.activated succeeded rdg) := by
  have hm := activated_activated s succeeded rdg
  generalize s.activated succeeded rdg = s' at hm
  cases hm with
  | still => exact h
  | adopted _ _ _ _ same => exact fun _ => same.good (.inr (.inl (by simp)))
  | failed => exact fun _ => .inr (.inr (concluded_append rfl rfl))

theorem Honest.turn (h : Honest s) (hp : Placed s) {rdgs : List Reading}
    (hc : Concluding s (.turn rdgs)) : Honest (s.turn rdgs) := by
  have ht := turn_turned s rdgs
  generalize s.turn rdgs = s' at ht
  intro hw
  cases ht with
  | still => exact h hw
  | waited waiting =>
    exact handle_induction Inlined.good Started.good _ _ (s := { s with requests := [] })
      (h waiting)
  | replayed request replaying queued =>
    -- an activation was interrupted: its start is still unconcluded
    obtain ⟨hkp, hk⟩ := hp.replaying request replaying
    have he : ∃ r ∈ s.batch, Rescues s.accepted r := by
      rw [queued]
      rcases hk with rfl | hk
      · obtain ⟨r, hr, hs⟩ := hc replaying
        exact ⟨r, mem_cons_of_mem _ hr, hs⟩
      · exact ⟨request, mem_cons_self .., hk⟩
    obtain ⟨r, hr, hs⟩ := he
    exact good_handle_of_rescue rdgs hkp hr hs

/-- A concluding move keeps a waiting loop honest. -/
theorem Honest.step (h : Honest s) (hp : Placed s) {move : Move}
    (hc : Concluding s move) : Honest (s.step move) := by
  cases move with
  | send request =>
    obtain ⟨_, _, heq⟩ := trySend_eq s request
    rw [Supervisor.step, heq]
    exact h
  | remember => exact h
  | complete res =>
    rcases complete_eq s res with heq | ⟨att, outc, built, hf, heq⟩ <;> rw [Supervisor.step, heq]
    · exact h
    · exact fun _ => .inl (by simp)
  | adopt =>
    simp only [Supervisor.step]
    split
    · exact h.adopt hp ‹_› hc
    · exact h
  | turn => exact h.turn hp hc
  | probe rdg =>
    simp only [Supervisor.step]
    split
    · exact (same_runProbeCycle s rdg).honest h
    · exact h
  | activationRequest =>
    have hm := activationRequest_interrupted s
    simp only [Supervisor.step]
    generalize s.activationRequest = s' at hm
    cases hm with
    | still => exact h
    | dropped => exact h
    | replaced => exact fun hw => by simp at hw
  | activated succeeded rdg => exact h.activated succeeded rdg
  | cancel =>
    intro hw
    have he : s.cancel.stage = .ended := by
      unfold Supervisor.cancel
      split <;> first | assumption | rfl
    simp [Supervisor.step, he] at hw

/-- The loop is placed in every run. -/
theorem run_placed (moves : List Move) : Placed (run {} moves) :=
  @Mealy.run_invariant _ _ _ (Mealy.silent Supervisor.step) Placed (fun _ move h => h.step move)
    {} ⟨⟨List.Pairwise.nil, by simp [generations, lifecycles]⟩, by simp [Tagged], by simp, by simp⟩
    moves

/-- In every concluding run a waiting loop is honest. -/
theorem run_honest {moves : List Move} (h : Along Concluding {} moves) : Honest (run {} moves) := by
  have hi := @Mealy.along_invariant _ _ _ (Mealy.silent Supervisor.step)
    (fun s => Placed s ∧ Honest s) Concluding
    (fun s move hc hs => ⟨hs.1.step move, hs.2.step hs.1 hc⟩) moves {} h
    ⟨run_placed [], fun _ => .inr (.inr (by simp [Concluded, lifecycles]))⟩
  exact hi.2

/-- The supervisor, at rest, has concluded what it announced last. -/
def StartsConcluded (s : Supervisor) : Prop :=
  s.Idle → ∀ g, .starting g ∈ s.updates →
    ∃ last, (lifecycles s.updates).getLast? = some last ∧ last.concludes = true ∧
      ∃ generation, last.lifecycle = some generation ∧ g ≤ generation

/-- A lifecycle update is never ahead of the last one. -/
theorem Ordered.last (h : Ordered s) (hmem : update ∈ s.updates) (hl : update.lifecycle = some g) :
    ∃ last, (lifecycles s.updates).getLast? = some last ∧
      ∃ gen, last.lifecycle = some gen ∧ g ≤ gen := by
  have hf : update ∈ lifecycles s.updates := mem_filter.mpr ⟨hmem, by simp [hl]⟩
  obtain ⟨_, last, hs⟩ := eq_nil_or_concat' (lifecycles s.updates)
    |>.resolve_left (ne_nil_of_mem hf)
  have hls : last ∈ lifecycles s.updates := by simp [hs]
  obtain ⟨gen, hg⟩ := Option.isSome_iff_exists.mp (mem_filter.mp hls).2
  refine ⟨last, by simp [hs], gen, hg, ?_⟩
  have ho := h.sorted
  simp only [generations, hs, filterMap_append, pairwise_append] at ho
  rw [hs] at hf
  rcases mem_append.mp hf with hr | hr
  · exact ho.2.2 g (mem_filterMap.mpr ⟨update, hr, hl⟩) gen (mem_filterMap.mpr ⟨last, by simp, hg⟩)
  · rw [mem_singleton.mp hr] at hl
    rw [hl] at hg
    exact (Option.some.inj hg).le

/-- Lifecycle updates never go back in generation, in any run. In a run
in which no start task vanishes without an outcome and no suspend alone
interrupts an activation, the supervisor never rests on a start it has
not concluded. -/
theorem announced_starts_concluded (moves : List Move) :
    (generations (run {} moves).updates).Pairwise (· ≤ ·) ∧
      (Along Concluding {} moves → (run {} moves).StartsConcluded) := by
  constructor
  · exact (run_placed moves).ordered.sorted
  · intro h hi g hs
    obtain ⟨last, hl, gen, hn, hle⟩ := (run_placed moves).ordered.last hs rfl
    have hg := run_honest h hi.waiting
    simp only [Good, hi.unstarted, hi.inactive, ne_eq, not_true_eq_false, false_or] at hg
    exact ⟨last, hl, hg last hl, gen, hn, hle⟩

/-- A request for one receiver. -/
def oneReceiver (generation : Nat) : ReconcileParams where
  generation
  desired := [⟨⟨1⟩, "Kitchen", "AudioAccessory5,1", true, true⟩]
  latency := ⟨2000, 200⟩
  teardownOnly := false

/-- A transport for that receiver. -/
def oneMember : StartResult := .prepared (some ⟨1⟩) {⟨1⟩} []

/-- A start succeeds and a suspend comes in while it is activated. -/
def suspendedActivation : List Move :=
  [.send (.reconcile (oneReceiver 1)), .turn [], .complete oneMember, .adopt, .send .suspend,
    .activationRequest, .turn []]

/-- The suspend finds no session to stop and says nothing. -/
theorem suspendedActivation_forgotten : ¬ (run {} suspendedActivation).StartsConcluded ∧
      (run {} suspendedActivation).updates = [.starting 1] := by
  refine ⟨?_, by decide⟩
  intro h
  obtain ⟨last, hl, hc, -⟩ := h ⟨by decide, by decide, by decide, by decide⟩ 1 (by decide)
  have hs : (lifecycles (run {} suspendedActivation).updates).getLast? =
      some (.starting 1) := by decide
  rw [hs] at hl
  rw [← Option.some.inj hl] at hc
  exact absurd hc (by decide)

/-- The same start, with a resume queued behind the suspend. -/
theorem announced_starts_concluded_resumed :
    (run {} [.send (.reconcile (oneReceiver 1)), .turn [], .complete oneMember, .adopt,
      .send .suspend, .activationRequest, .send .resume, .turn [], .send .suspend,
      .turn []]).StartsConcluded := by
  refine (announced_starts_concluded _).2 ?_
  unfold Along
  decide

end Supervisor

end OpenAirCast.Backend
