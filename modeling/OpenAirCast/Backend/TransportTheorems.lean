/-
Backend.TransportTheorems — where the transports are.

A transport the factory built is in an outcome nobody took yet, active,
being activated, or stopped. `places` counts how often it is found in any
of these, and `Owned` says that the count is one. Volume changes, probes
and generations only move a transport from active to stopped
(`Custody`). What loses one is dropping a start that has completed:
its outcome goes down with it, and nobody stops what is inside.

A start that completes while a turn is dropping it has completed before
the turn.
-/
import OpenAirCast.Backend.SuspendTheorems

namespace OpenAirCast.Backend

open List Option

/-- The transports in an outcome. -/
def StartOutcome.serials : StartOutcome → List Nat
  | .prepared transport => [transport.serial]
  | .running | .failed | .lost => []

/-- The transport a call stops. -/
def TransportCall.stopped : TransportCall → Option Nat
  | .stop serial => some serial
  | .activate _ | .setMemberVolume _ _ _ | .probeMembers _ => none

namespace Supervisor

variable {s s' : Supervisor}

/-! ## Places -/

variable (s)

/-- The transports in the outcome of the start under way. -/
def unconsumed : List Nat :=
  s.inFlight.toList.flatMap (fun attempt => attempt.outcome.serials)

def activeSerials : List Nat := s.active.toList.map (·.serial)

def activatingSerials : List Nat :=
  match s.stage with
  | .activating _ transport => [transport.serial]
  | .waiting | .replaying _ | .ended => []

/-- The transports `stop` was called on, once for each call. -/
def stopped : List Nat := s.calls.filterMap TransportCall.stopped

/-- How often a transport is found. -/
def places (serial : Nat) : Nat :=
  s.unconsumed.count serial + s.activeSerials.count serial + s.activatingSerials.count serial +
    s.stopped.count serial

/-- Every transport that was built is in one place, and in that only once;
none is found that was not built. -/
def Owned : Prop :=
  ∀ serial, s.places serial = if serial < s.built then 1 else 0

variable {s}

/-- At most one transport lives, and none behind the back of a start. -/
structure Alone (s : Supervisor) : Prop where
  starting : s.inFlight ≠ none → s.active = none
  activating : ∀ generation transport, s.stage = .activating generation transport →
    s.inFlight = none ∧ s.active = none
  ended : s.stage = .ended → s.inFlight = none

theorem unconsumed_of_inFlight (h : s'.inFlight = s.inFlight) : s'.unconsumed = s.unconsumed := by
  rw [unconsumed, unconsumed, h]

theorem unconsumed_none (h : s.inFlight = none) : s.unconsumed = [] := by
  rw [unconsumed, h]
  rfl

@[simp] theorem stopped_call (s : Supervisor) (call : TransportCall) :
    (s.call call).stopped = s.stopped ++ call.stopped.toList := by
  rw [stopped, Supervisor.call, filterMap_append]
  cases call <;> rfl

@[simp] theorem stopped_stopBounded (s : Supervisor) (tport : Transport) :
    (s.stopBounded tport).stopped = s.stopped ++ [tport.serial] :=
  stopped_call s _

/-! ## What a request does -/

/-- Transports went from active to stopped, and a start was kept or what
is left of it holds none. -/
structure Custody (s s' : Supervisor) : Prop where
  built : s'.built = s.built
  stage : s'.stage = s.stage
  moved : ∀ serial, s'.activeSerials.count serial + s'.stopped.count serial =
    s.activeSerials.count serial + s.stopped.count serial
  dropped : s'.inFlight = s.inFlight ∨ s'.unconsumed = []
  alone : (s.inFlight ≠ none → s.active = none) → s'.inFlight ≠ none → s'.active = none

theorem Custody.still (hb : s'.built = s.built) (ht : s'.stage = s.stage)
    (ha : s'.active = s.active) (hf : s'.inFlight = s.inFlight)
    (hs : s'.stopped = s.stopped) : Custody s s' := by
  refine ⟨hb, ht, ?_, .inl hf, ?_⟩
  · intro ser
    rw [activeSerials, activeSerials, ha, hs]
  · rw [ha, hf]
    exact fun h => h

theorem Custody.refl (s : Supervisor) : Custody s s := .still rfl rfl rfl rfl rfl

theorem Custody.trans {s'' : Supervisor} (h : Custody s s') (h' : Custody s' s'') :
    Custody s s'' := by
  refine ⟨h'.built.trans h.built, h'.stage.trans h.stage,
    fun ser => (h'.moved ser).trans (h.moved ser), ?_, fun hs => h'.alone (h.alone hs)⟩
  rcases h'.dropped with hk | hd
  · rcases h.dropped with hk' | hd'
    · exact .inl (hk.trans hk')
    · exact .inr ((unconsumed_of_inFlight hk).trans hd')
  · exact .inr hd

theorem custody_probeMember (urgent : Finset ReceiverId) (prim : Option ReceiverId)
    (s : Supervisor) (res : ReceiverId × ProbeAnswer) :
    Custody s (probeMember urgent prim s res) := by
  unfold probeMember
  split
  · exact .refl s
  · split <;> exact .still rfl rfl rfl rfl rfl

variable (s)

theorem custody_runProbeCycle (rdg : Reading) : Custody s (s.runProbeCycle rdg) := by
  unfold runProbeCycle
  split
  · exact .refl s
  · rename_i tport _
    have hf : ∀ (urgent : Finset ReceiverId) (ress : List (ReceiverId × ProbeAnswer))
        (s₀ : Supervisor), Custody s₀ (ress.foldl (probeMember urgent tport.primary) s₀) := by
      intro urgent ress
      induction ress with
      | nil => exact fun s₀ => .refl s₀
      | cons _ _ ih => exact fun s₀ => (custody_probeMember ..).trans (ih _)
    refine Custody.trans ?_ (hf ..)
    exact .still rfl rfl rfl rfl ((stopped_call _ _).trans (append_nil _))

theorem custody_setMemberVolume (recv : ReceiverId) (rdg : Reading) :
    Custody s (s.setMemberVolume recv rdg) := by
  unfold setMemberVolume
  split
  · exact .refl s
  · split
    · dsimp only
      have hc : ∀ call, TransportCall.stopped call = none → (s.call call).stopped = s.stopped := by
        intro call hl
        rw [stopped_call, hl, toList_none, append_nil]
      split <;> exact .still rfl rfl rfl rfl (hc _ rfl)
    · exact .refl s

theorem custody_supersede : Custody s s.supersede := by
  unfold supersede
  split
  · rename_i tport ha
    refine ⟨rfl, rfl, ?_, .inr rfl, fun _ _ => rfl⟩
    intro ser
    rw [stopped_stopBounded, count_append]
    have hb : s.activeSerials = [tport.serial] := by
      rw [activeSerials, ha]
      rfl
    have hf : ({ s with inFlight := none, active := none }.stopBounded
        tport).activeSerials = [] := rfl
    have hk : stopped { s with inFlight := none, active := none } = s.stopped := rfl
    rw [hb, hf, hk, count_nil]
    omega
  · exact ⟨rfl, rfl, fun _ => rfl, .inr rfl, fun _ h => absurd rfl h⟩

theorem supersede_idle : s.supersede.inFlight = none ∧ s.supersede.active = none :=
  ⟨(same_supersede s).inFlight, (same_supersede s).active⟩

theorem custody_startGeneration (prms : ReconcileParams) : Custody s (s.startGeneration prms) := by
  unfold startGeneration
  split
  · exact .refl s
  · have hf : Custody s { s with accepted := prms.generation } := .still rfl rfl rfl rfl rfl
    have hd := hf.trans (custody_supersede _)
    have hi := supersede_idle { s with accepted := prms.generation }
    dsimp only
    split
    · exact hd.trans (.still rfl rfl rfl rfl rfl)
    · exact ⟨hd.built, hd.stage, hd.moved, .inr rfl, fun _ _ => hi.2⟩

theorem custody_rebuildForCause (rsn : RestartReason) : Custody s (s.rebuildForCause rsn) := by
  unfold rebuildForCause
  split
  · exact .refl s
  · refine Custody.trans ?_ (custody_startGeneration _ _)
    exact .still rfl rfl rfl rfl rfl

theorem custody_suspend : Custody s s.suspend := by
  have hd : Custody s { s.supersede with health := {} } :=
    (custody_supersede s).trans (.still rfl rfl rfl rfl rfl)
  unfold suspend
  dsimp only
  split
  · exact hd.trans (.still rfl rfl rfl rfl rfl)
  · exact hd

theorem custody_applyInlineRequest (req : SessionRequest)
    (rdg : Reading) : Custody s (s.applyInlineRequest req rdg) := by
  cases req with
  | reconcile => exact .refl s
  | setVolume recv => exact custody_setMemberVolume s recv rdg
  | probe => exact custody_runProbeCycle s rdg
  | networkChanged => exact custody_rebuildForCause s _
  | suspend => exact custody_suspend s
  | resume => exact custody_rebuildForCause s _

variable {s}

theorem custody_applyInline (reqs : List SessionRequest) : ∀ (s : Supervisor)
    (rdgs : List Reading), Custody s (s.applyInline reqs rdgs) := by
  induction reqs with
  | nil => exact fun s _ => .refl s
  | cons req _ ih => exact fun s _ => (custody_applyInlineRequest s req _).trans (ih _ _)

theorem custody_handle (s : Supervisor) (pend : List SessionRequest)
    (rdgs : List Reading) : Custody s (s.handle pend rdgs) := by
  have hi := custody_applyInline (coalesce pend).1 s rdgs
  unfold handle
  dsimp only
  split
  · exact hi.trans (custody_startGeneration _ _)
  · exact hi

/-! ## A turn with a word drops the start -/

theorem Custody.unconsumed_nil (h : Custody s s') (hn : s.unconsumed = []) :
    s'.unconsumed = [] := by
  rcases h.dropped with hk | hd
  · exact (unconsumed_of_inFlight hk).trans hn
  · exact hd

/-- A generation that is admitted leaves no completed start. -/
theorem Started.unconsumed {prms : ReconcileParams} (hs : Started s prms s')
    (hn : s.accepted < prms.generation) : s'.unconsumed = [] := by
  cases hs with
  | stale => omega
  | idle _ _ same => exact unconsumed_none same.inFlight
  | starting _ _ same =>
    rw [Supervisor.unconsumed, same.inFlight]
    rfl

theorem Inlined.unconsumed_of_rebuild {req : SessionRequest} (hi : Inlined s req s')
    (hk : rebuilds req = true) (hg : s.gate.rebuild.isSome = true) :
    s'.unconsumed = [] := by
  cases hi with
  | same _ _ rebuild =>
    have hn : s.retained = none := rebuild (by cases req <;> simp_all [rebuilds])
    simp [Gate.rebuild, Supervisor.gate, hn] at hg
  | suspended same => exact unconsumed_none same.inFlight
  | rebuilt _ _ _ retained started =>
    refine started.unconsumed ?_
    simp only [Gate.rebuild, Supervisor.gate, retained, map_some, bind_some] at hg
    split at hg
    · simp at hg
    · exact Nat.lt_of_not_le ‹_›

/-- Where a turn has a word so far, the completed start is gone, or a
reconcile that is admitted will see to it. -/
theorem unconsumed_of_word (s : Supervisor) (floor : Nat) (rdgs : List Reading)
    (pend : List SessionRequest)
    (hw : (pend.foldl (Heard.next floor) { gate := s.gate }).word ≠ none) :
    (s.applyInline (coalesce pend).1 rdgs).unconsumed = [] ∨
      ∃ prms, (coalesce pend).2 = some prms ∧ floor < prms.generation := by
  induction pend using List.reverseRecOn with
  | nil => exact absurd rfl hw
  | append_singleton pend req ih =>
    obtain ⟨hn, hl⟩ := heard_follows s floor rdgs pend
    rw [foldl_append, foldl_cons, foldl_nil] at hw
    generalize pend.foldl (Heard.next floor) { gate := s.gate } = heard at *
    have hi := @applyInlineRequest_inlined (s.applyInline (coalesce pend).1 rdgs) req
      ((rdgs.drop (coalesce pend).1.length).headD {})
    rw [coalesce_concat]
    cases req with
    | reconcile prms =>
      dsimp only
      simp only [Heard.next] at hw
      cases hs : supersedes heard.newest prms with
      | false =>
        simp only [hs, Bool.false_eq_true, false_and, if_false] at hw
        rw [← hn, newer_of_not_supersedes hs, hn]
        exact ih hw
      | true =>
        rw [← hn, newer_of_supersedes hs]
        by_cases ho : floor < prms.generation
        · exact .inr ⟨prms, rfl, ho⟩
        · simp only [hs, ho, and_false, if_false] at hw
          rcases ih hw with hg | ⟨held, hh, _⟩
          · exact .inl hg
          · -- the reconcile held so far is older than one that is not admitted
            rw [supersedes, hn, hh, all_some, decide_eq_true_eq] at hs
            omega
    | setVolume receiver volume | probe =>
      rw [applyInline_concat]
      obtain ⟨hf, -⟩ := hi.untouched (by simp) rfl
      exact (ih hw).imp_left (unconsumed_of_inFlight hf).trans
    | suspend =>
      rw [applyInline_concat]
      exact .inl (unconsumed_none hi.suspended_idle.1)
    | networkChanged | resume =>
      rw [applyInline_concat]
      cases hr : heard.gate.rebuild with
      | some =>
        refine .inl (hi.unconsumed_of_rebuild rfl ?_)
        rw [hl.gate, hr, isSome_some]
      | none =>
        simp only [Heard.next, hr, isSome_none, Bool.false_eq_true, if_false] at hw
        obtain ⟨hf, -⟩ := hi.unmoved rfl (hl.gate ▸ hr)
        exact (ih hw).imp_left (unconsumed_of_inFlight hf).trans

variable (rdgs : List Reading)

theorem handle_unconsumed {pend : List SessionRequest}
    (hw : s.lastWord pend ≠ none) : (s.handle pend rdgs).unconsumed = [] := by
  have ha : (s.applyInline (coalesce pend).1 rdgs).accepted =
      (s.gateAfter pend).accepted := congrArg Gate.accepted (gateAfter_inline s pend rdgs)
  have hg := unconsumed_of_word s _ rdgs pend hw
  unfold handle
  dsimp only
  split
  · rename_i prms hp
    rcases hg with hg | ⟨held, hh, hb⟩
    · exact (custody_startGeneration _ _).unconsumed_nil hg
    · rw [hp] at hh
      obtain rfl := Option.some.inj hh
      exact (startGeneration_started _ _).unconsumed (ha ▸ hb)
  · rename_i hp
    rcases hg with hg | ⟨held, hh, -⟩
    · exact hg
    · rw [hp] at hh
      cases hh

/-! ## Steps -/

/-- A turn over requests with a word does not meet a completed start, and
neither does cancellation. -/
def KeepsStart (s : Supervisor) : Move → Prop
  | .turn _ => s.unconsumed = [] ∨ s.lastWord s.batch = none
  | .cancel => s.unconsumed = []
  | _ => True

/-- A step that builds nothing and at most loses a completed start: all
are owned exactly when it did not. -/
theorem owned_iff_of_kept (ho : Owned s) (hb : s'.built = s.built)
    (hp : ∀ ser, s'.places ser + s.unconsumed.count ser = s.places ser + s'.unconsumed.count ser)
    (hd : s'.unconsumed = s.unconsumed ∨ s'.unconsumed = []) :
    Owned s' ↔ s'.unconsumed = s.unconsumed := by
  constructor
  · intro ho'
    refine hd.elim id (fun hn => ?_)
    rw [hn]
    refine (eq_nil_iff_forall_not_mem.mpr (fun ser hmem => ?_)).symm
    have hc := count_pos_iff.mpr hmem
    have hl := hp ser
    rw [ho ser, ho' ser, hb, hn, count_nil] at hl
    omega
  · intro hs ser
    have hl := hp ser
    rw [hs] at hl
    rw [hb, ← ho ser]
    omega

theorem Custody.places (h : Custody s s') (ser : Nat) : s'.places ser + s.unconsumed.count ser =
      s.places ser + s'.unconsumed.count ser := by
  have hs : s'.activatingSerials = s.activatingSerials := by
    rw [activatingSerials, activatingSerials, h.stage]
  have hm := h.moved ser
  rw [Supervisor.places, Supervisor.places, hs]
  omega

theorem Custody.owned_iff (h : Custody s s') (ho : Owned s) :
    Owned s' ↔ s'.unconsumed = s.unconsumed :=
  owned_iff_of_kept ho h.built h.places (h.dropped.imp_left unconsumed_of_inFlight)

/-- A turn over the requests keeps every transport exactly when it has no
word or no completed start to drop. -/
theorem owned_handle_iff (pend : List SessionRequest) (rdgs : List Reading) (ho : Owned s) :
    Owned (s.handle pend rdgs) ↔ s.unconsumed = [] ∨ s.lastWord pend = none := by
  have hc := custody_handle s pend rdgs
  rw [hc.owned_iff ho]
  constructor
  · intro hs
    refine or_iff_not_imp_right.mpr (fun hw => ?_)
    rw [← hs, handle_unconsumed rdgs hw]
  · rintro (hn | hw)
    · rw [hn, hc.unconsumed_nil hn]
    · exact unconsumed_of_inFlight (handle_wordless rdgs hw).1

theorem owned_turn_iff (ho : Owned s) : Owned (s.turn rdgs) ↔ KeepsStart s (.turn rdgs) := by
  have ht := turn_turned s rdgs
  unfold KeepsStart
  generalize s.turn rdgs = s' at ht
  cases ht with
  | still none =>
    rw [none]
    exact iff_of_true ho (.inr rfl)
  | waited =>
    have hs : lastWord { s with requests := [] } s.batch = s.lastWord s.batch := lastWord_congr rfl
    rw [← hs]
    exact owned_handle_iff s.batch rdgs ho
  | replayed _ replaying =>
    have hs : lastWord { s with stage := .waiting, requests := [] } s.batch =
        s.lastWord s.batch := lastWord_congr rfl
    have hn : s.activatingSerials = [] := by rw [activatingSerials, replaying]
    have ho' : Owned { s with stage := .waiting, requests := [] } := by
      intro ser
      rw [← ho ser, places, places, hn]
      rfl
    rw [← hs]
    exact owned_handle_iff s.batch rdgs ho'

theorem owned_complete (res : StartResult) (ho : Owned s) : Owned (s.complete res) := by
  unfold complete
  split
  · exact ho
  · rename_i att hf
    split
    · rename_i hr
      have hn : s.unconsumed = [] := by
        rw [unconsumed, hf, toList_some, flatMap_singleton, hr]
        rfl
      cases res with
      | prepared prim mbrs fails =>
        intro ser
        have hp := ho ser
        rw [places, hn, count_nil] at hp
        have hb : Supervisor.unconsumed { s with
            inFlight := some { att with
              outcome := .prepared ⟨s.built, prim, mbrs, fails⟩ }
            built := s.built + 1 } = [s.built] := rfl
        rw [places, hb, count_singleton]
        show _ + s.activeSerials.count ser + s.activatingSerials.count ser +
          s.stopped.count ser = if ser < s.built + 1 then 1 else 0
        by_cases hl : s.built = ser
        · subst hl
          simp only [beq_self_eq_true, if_true, Nat.lt_irrefl, if_false, Nat.lt_succ_self] at hp ⊢
          omega
        · simp only [beq_iff_eq, hl, if_false]
          split at hp <;> split <;> omega
      | failed | lost =>
        intro ser
        rw [← ho ser, places, places, hn]
        rfl
    · exact ho

/-- Transports that only changed places are still owned. -/
theorem owned_of_lists (ho : Owned s) (hb : s'.built = s.built)
    {unconsumed act activating stopped : List Nat} (hu : s'.unconsumed = unconsumed)
    (hc : s'.activeSerials = act) (ha : s'.activatingSerials = activating)
    (hs : s'.stopped = stopped)
    (h : ∀ ser, s.places ser = unconsumed.count ser + act.count ser +
      activating.count ser + stopped.count ser) : Owned s' := by
  intro ser
  rw [hb, ← ho ser, h, places, hu, hc, ha, hs]

theorem owned_adopt (hw : s.stage = .waiting) (ho : Owned s) : Owned s.adopt := by
  have hn : s.activatingSerials = [] := by rw [activatingSerials, hw]
  unfold adopt
  split
  · exact ho
  · rename_i att hf
    have hs : s.unconsumed = att.outcome.serials := by
      rw [unconsumed, hf, toList_some, flatMap_singleton]
    dsimp only
    split
    · exact ho
    · rename_i tport ht
      rw [ht, StartOutcome.serials] at hs
      split
      · have hst : (Supervisor.call { s with inFlight := none }
            (.activate tport.serial)).stopped = s.stopped :=
          (stopped_call _ _).trans (append_nil _)
        refine owned_of_lists ho rfl rfl rfl rfl hst (fun ser => ?_)
        rw [places, hs, hn]
        show _ = 0 + s.activeSerials.count ser + [tport.serial].count ser + s.stopped.count ser
        rw [count_nil]
        omega
      · refine owned_of_lists ho rfl rfl rfl hn (stopped_stopBounded _ _) (fun ser => ?_)
        rw [places, hs, hn, count_append]
        show _ = 0 + s.activeSerials.count ser + List.count ser [] +
          (s.stopped.count ser + [tport.serial].count ser)
        omega
    · rename_i ht
      rw [ht, StartOutcome.serials] at hs
      split <;> exact owned_of_lists ho rfl rfl rfl rfl rfl (fun ser => by rw [places, hs]; rfl)
    · rename_i ht
      rw [ht, StartOutcome.serials] at hs
      exact owned_of_lists ho rfl rfl rfl rfl rfl (fun ser => by rw [places, hs]; rfl)

/-- A transport that is being activated is stopped, whatever happens to the
loop. -/
theorem owned_stop_activating {gen : Nat} {tport : Transport}
    (ht : s.stage = .activating gen tport) (ho : Owned s)
    (hb : s'.built = s.built) (hf : s'.inFlight = s.inFlight)
    (hc : s'.active = s.active) (ha : s'.activatingSerials = [])
    (hs : s'.stopped = s.stopped ++ [tport.serial]) : Owned s' := by
  have hr : s.activatingSerials = [tport.serial] := by rw [activatingSerials, ht]
  refine owned_of_lists ho hb (unconsumed_of_inFlight hf)
    (by rw [activeSerials, hc, ← activeSerials]) ha hs (fun ser => ?_)
  rw [places, hr, count_append, count_nil]
  omega

theorem owned_activationRequest (ho : Owned s) : Owned s.activationRequest := by
  have hm := activationRequest_interrupted s
  generalize s.activationRequest = s' at hm
  cases hm with
  | still => exact ho
  | dropped => exact ho
  | replaced _ _ _ _ _ activating =>
    exact owned_stop_activating activating ho rfl rfl rfl rfl (stopped_stopBounded _ _)

theorem owned_activated (ha : Alone s) (succeeded : Bool) (rdg : Reading)
    (ho : Owned s) : Owned (s.activated succeeded rdg) := by
  unfold activated
  split
  · rename_i gen tport hs
    have hr : s.activatingSerials = [tport.serial] := by rw [activatingSerials, hs]
    have hc : s.activeSerials = [] := by
      rw [activeSerials, (ha.activating gen tport hs).2]
      rfl
    dsimp only
    split
    · refine owned_of_lists ho rfl rfl rfl rfl rfl (fun ser => ?_)
      rw [places, hr, hc]
      show _ = s.unconsumed.count ser + [tport.serial].count ser + 0 + s.stopped.count ser
      rw [count_nil]
      omega
    · exact owned_stop_activating hs ho rfl rfl rfl rfl (stopped_stopBounded _ _)
  · exact ho

/-- The final teardown stops what is active or being activated. -/
theorem owned_cancel_iff (ha : Alone s) (ho : Owned s) : Owned s.cancel ↔ KeepsStart s .cancel := by
  have he : ∀ s₀ : Supervisor, s₀.inFlight = s.inFlight → Owned { s₀ with stage := .waiting } →
      (Owned { s₀.supersede with stage := .ended } ↔ s.unconsumed = []) := by
    intro s₀ hf hn
    have hc := custody_supersede s₀
    have hg : s₀.supersede.unconsumed = [] := unconsumed_none (supersede_idle s₀).1
    have hk := @owned_iff_of_kept _ { s₀.supersede with stage := .ended } hn
      hc.built ?_ (.inr hg)
    · refine hk.trans ?_
      show s₀.supersede.unconsumed = s₀.unconsumed ↔ _
      rw [hg, unconsumed_of_inFlight hf]
      exact eq_comm
    · intro ser
      have hm := hc.moved ser
      show s₀.supersede.unconsumed.count ser + s₀.supersede.activeSerials.count ser + 0 +
          s₀.supersede.stopped.count ser + s₀.unconsumed.count ser =
        s₀.unconsumed.count ser + s₀.activeSerials.count ser + 0 +
          s₀.stopped.count ser + s₀.supersede.unconsumed.count ser
      omega
  unfold cancel KeepsStart
  split
  · rename_i hs
    exact iff_of_true ho (unconsumed_none (ha.ended hs))
  · rename_i gen tport hs
    refine he (s.stopBounded tport) rfl ?_
    exact owned_stop_activating hs ho rfl rfl rfl rfl (stopped_stopBounded _ _)
  all_goals
    rename_i hs
    refine he s rfl (owned_of_lists ho rfl rfl rfl rfl rfl (fun ser => ?_))
    rw [places, activatingSerials, hs]
    rfl

/-- A step keeps every transport exactly when it does not drop a completed
start. -/
theorem owned_step_iff (ha : Alone s) (move : Move) (ho : Owned s) :
    Owned (s.step move) ↔ KeepsStart s move := by
  cases move with
  | send req =>
    obtain ⟨_, _, heq⟩ := trySend_eq s req
    rw [Supervisor.step, heq]
    exact iff_of_true ho trivial
  | remember => exact iff_of_true ho trivial
  | complete res => exact iff_of_true (owned_complete res ho) trivial
  | adopt =>
    refine iff_of_true ?_ trivial
    simp only [Supervisor.step]
    split
    · exact owned_adopt ‹_› ho
    · exact ho
  | turn rdgs => exact owned_turn_iff rdgs ho
  | probe rdg =>
    refine iff_of_true ?_ trivial
    simp only [Supervisor.step]
    split
    · exact ((custody_runProbeCycle s rdg).owned_iff ho).mpr
        (unconsumed_of_inFlight (same_runProbeCycle s rdg).inFlight)
    · exact ho
  | activationRequest => exact iff_of_true (owned_activationRequest ho) trivial
  | activated succeeded rdg => exact iff_of_true (owned_activated ha succeeded rdg ho) trivial
  | cancel => exact owned_cancel_iff ha ho

/-! ## One at a time -/

theorem Alone.handle (h : Alone s) (hs : s.stage = .waiting) (pend : List SessionRequest)
    (rdgs : List Reading) : Alone (s.handle pend rdgs) := by
  have hc := custody_handle s pend rdgs
  have hw := hc.stage.trans hs
  exact ⟨hc.alone h.starting, by simp [hw], by simp [hw]⟩

/-- No move brings a second transport to life. -/
theorem Alone.step (h : Alone s) (move : Move) : Alone (s.step move) := by
  cases move with
  | send req =>
    obtain ⟨requests, vols, heq⟩ := trySend_eq s req
    rw [Supervisor.step, heq]
    exact ⟨h.starting, h.activating, h.ended⟩
  | remember => exact ⟨h.starting, h.activating, h.ended⟩
  | complete res =>
    rcases complete_eq s res with heq | ⟨att, outcome, built, hf, heq⟩ <;> rw [Supervisor.step, heq]
    · exact h
    · have hs : s.inFlight ≠ none := by simp [hf]
      exact ⟨fun _ => h.starting hs, fun gen tport ht => absurd (h.activating _ _ ht).1 hs,
        fun ht => absurd (h.ended ht) hs⟩
  | adopt =>
    simp only [Supervisor.step]
    split
    · rename_i ht
      have hm := adopt_adopted s
      generalize s.adopt = s' at hm
      cases hm with
      | still => exact h
      | activating _ _ started =>
        exact ⟨fun hs => absurd rfl hs, fun _ _ _ => ⟨rfl, h.starting (by simp [started])⟩, by simp⟩
      | stale | failed | forgotten =>
        exact ⟨fun hs => absurd rfl hs, fun gen tport hc => absurd (ht.symm.trans hc) (by simp),
          fun _ => rfl⟩
    · exact h
  | turn rdgs =>
    have hr := turn_turned s rdgs
    simp only [Supervisor.step]
    generalize s.turn rdgs = s' at hr
    cases hr with
    | still => exact h
    | waited waiting =>
      exact Alone.handle (s := { s with requests := [] })
        ⟨h.starting, h.activating, h.ended⟩ waiting _ _
    | replayed =>
      exact Alone.handle (s := { s with stage := .waiting, requests := [] })
        ⟨h.starting, by simp, by simp⟩ rfl _ _
  | probe rdg =>
    simp only [Supervisor.step]
    split
    · have ha := same_runProbeCycle s rdg
      refine ⟨?_, ?_, ?_⟩ <;> rw [ha.inFlight]
      · rw [ha.active]
        exact h.starting
      · rw [ha.active, ha.stage]
        exact h.activating
      · rw [ha.stage]
        exact h.ended
    · exact h
  | activationRequest =>
    have hm := activationRequest_interrupted s
    simp only [Supervisor.step]
    generalize s.activationRequest = s' at hm
    cases hm with
    | still => exact h
    | dropped => exact ⟨h.starting, h.activating, h.ended⟩
    | replaced => exact ⟨h.starting, by simp, by simp⟩
  | activated succeeded rdg =>
    simp only [Supervisor.step, Supervisor.activated]
    split
    · rename_i gen tport ht
      have hn : s.inFlight = none := (h.activating gen tport ht).1
      have hw : ∀ {s' : Supervisor}, s'.inFlight = none → s'.stage = .waiting → Alone s' :=
        fun hi ht => ⟨fun hs => absurd hi hs, by simp [ht], by simp [ht]⟩
      split <;> exact hw hn rfl
    · exact h
  | cancel =>
    have hi : ∀ s₀ : Supervisor, Alone { s₀.supersede with stage := .ended } := fun s₀ =>
      ⟨fun hs => absurd (supersede_idle s₀).1 hs, by simp, fun _ => (supersede_idle s₀).1⟩
    simp only [Supervisor.step, Supervisor.cancel]
    split
    · exact h
    · exact hi _
    · exact hi _
    · exact hi _

theorem Alone.start : Alone {} := ⟨fun hs => absurd rfl hs, by simp, by simp⟩

theorem Owned.start : Owned {} := fun _ => rfl

/-- At most one transport is alive. -/
theorem Alone.single (h : Alone s) :
    s.unconsumed.length + s.activeSerials.length + s.activatingSerials.length ≤ 1 := by
  have hu : s.unconsumed.length ≤ 1 := by
    unfold unconsumed
    cases s.inFlight with
    | none => simp
    | some att =>
      rw [toList_some, flatMap_singleton]
      generalize att.outcome = outcome
      cases outcome <;> simp [StartOutcome.serials]
  have ha : s.activeSerials.length ≤ 1 := by
    unfold activeSerials
    cases s.active <;> simp
  by_cases hm : s.inFlight = none
  · rw [unconsumed_none hm]
    cases hs : s.stage with
    | activating =>
      rw [activeSerials, (h.activating _ _ hs).2, activatingSerials, hs]
      simp
    | waiting | replaying | ended =>
      rw [activatingSerials, hs]
      simpa using ha
  · rw [activeSerials, h.starting hm]
    cases hs : s.stage with
    | activating => exact absurd (h.activating _ _ hs).1 hm
    | waiting | replaying | ended =>
      rw [activatingSerials, hs]
      simpa using hu

/-! ## Whole runs -/

theorem run_alone (moves : List Move) : Alone (run {} moves) :=
  @Mealy.run_invariant _ _ _ (Mealy.silent Supervisor.step) Alone (fun _ move h => h.step move)
    {} .start moves

/-- In every run at most one transport is alive. All along a run every
transport that was built is in one place exactly when no turn and no
cancellation drops a start that has completed. -/
theorem transports_never_leaked (moves : List Move) :
    ((run {} moves).unconsumed.length + (run {} moves).activeSerials.length +
      (run {} moves).activatingSerials.length ≤ 1) ∧
    ((∀ before, before <+: moves → Owned (run {} before)) ↔ Along KeepsStart {} moves) := by
  refine ⟨(run_alone moves).single, ?_⟩
  exact @Mealy.forall_start_iff_along _ _ _ (Mealy.silent Supervisor.step) Alone Owned KeepsStart
    (fun _ move h => h.step move) (fun _ move ha ho => owned_step_iff ha move ho)
    moves {} .start .start

/-- A start completes, and the supervisor is cancelled before it adopts it:
its transport is nowhere, and nobody stopped it. -/
theorem completed_start_leaked :
    ¬ Owned (run {} [.send (.reconcile (oneReceiver 1)), .turn [], .complete oneMember,
      .cancel]) := by
  intro h
  have hp := h 0
  revert hp
  decide

end Supervisor

end OpenAirCast.Backend
