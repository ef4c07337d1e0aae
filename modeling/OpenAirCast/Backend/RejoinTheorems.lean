/-
Backend.RejoinTheorems — automatic restarts are gated.

Three gates stand before a restart by `fire_due_retries`: thirty seconds
since the last one, the backoff deadline of the receiver, and two seconds in
which discovery has offered it throughout. The first two hold in every run
under a monotone clock, and neither timer arm spins. The third is kept in a
map that is maintained for receivers with a machine. A receiver nobody
wants loses its machine together with its service, its window is never
closed, and the next sighting inherits it. `forgets` is that event, and a
run meets the third gate exactly when it has none (`restarts_gated_iff`).
-/
import OpenAirCast.Backend.GateTheorems

namespace OpenAirCast.Backend.Controller

open List Mealy

variable [Lowercase] {mode : Mode} {ports : Ports}

variable {c : Controller} {r : ReceiverId} {input : Ports × Event} {since : Instant}
  {turns : List Pass} {now : Instant}

/-! ## What work leaves alone -/

variable {c' : Controller}

theorem Work.windows (hw : Work mode ports c c') (hb : mode.browses = false) :
    c'.rejoin.onlineSince = c.rejoin.onlineSince ∧ ∀ r, c'.castable r = c.castable r := by
  induction hw with
  | trans _ _ ihab ihbc => exact ⟨ihbc.1.trans ihab.1, fun r => (ihbc.2 r).trans (ihab.2 r)⟩
  | @aside c c' same =>
    have hi : c'.inventory = c.inventory := congrArg Core.inventory same
    have hr : c'.rejoin = c.rejoin := congrArg Core.rejoin same
    exact ⟨by rw [hr], fun r => by rw [castable, castable, hi]⟩
  | publish c =>
    obtain ⟨_, _, _, heq⟩ := c.publish_eq
    rw [heq]
    exact ⟨rfl, fun _ => rfl⟩
  | settle c => exact ⟨rfl, c.settleMachines_castable⟩
  | rows c => exact ⟨rfl, c.settleMachines_castable⟩
  | sight _ isBrowse => simp [hb] at isBrowse
  | refl | emit | view | drive | restart | disarm | intent | reconcile | close | alarm | wake
  | select | move | join => exact ⟨rfl, fun _ => rfl⟩

/-- A restart is noted at the instant of the pass. -/
theorem Work.lastRestart (hw : Work mode ports c c') :
    c'.rejoin.lastRejoinRestart = c.rejoin.lastRejoinRestart ∨
      c'.rejoin.lastRejoinRestart = some ports.now := by
  induction hw with
  | trans _ _ ihab ihbc =>
    rcases ihbc with hb | hb
    · rw [hb]
      exact ihab
    · exact .inr hb
  | aside same => exact .inl (congrArg (fun core => core.rejoin.lastRejoinRestart) same)
  | publish c =>
    obtain ⟨_, _, _, heq⟩ := c.publish_eq
    rw [heq]
    exact .inl rfl
  | restart => exact .inr rfl
  | sight _ _ _ _ _ same => exact .inl same
  | refl | emit | view | settle | rows | drive | disarm | intent | reconcile | close | alarm
  | wake | select | move | join => exact .inl rfl

/-! ## What is due -/

omit [Lowercase] in
theorem rejoinAt_eq {at_ : Instant}
    (h : c.rejoinAt r = some at_) : ∃ eligible, c.rejoin.rejoinEligibleAt r = some eligible ∧
      at_ = max (max eligible ((c.retry.nextRetry r).getD 0)) (c.rejoin.groupAllowedAt.getD 0) := by
  unfold rejoinAt at h
  split at h
  · obtain ⟨eligible, he, rfl⟩ := Option.map_eq_some_iff.mp h
    exact ⟨eligible, he, rfl⟩
  · cases h

omit [Lowercase] in
/-- A receiver that is due has passed all three gates, and the app wants to
run and is awake. -/
theorem due_gates (h : r ∈ (c.rejoinCandidates now).1) :
    c.suspended = false ∧ c.snapshot.runIntent = .running ∧
      (∀ dline, c.retry.nextRetry r = some dline → dline ≤ now) ∧
      (∀ allowed, c.rejoin.groupAllowedAt = some allowed → allowed ≤ now) ∧
      ∃ eligible, c.rejoin.rejoinEligibleAt r = some eligible ∧ eligible ≤ now := by
  unfold rejoinCandidates at h
  split at h
  · cases h
  · rename_i hop
    simp only [not_or, Bool.not_eq_true, not_not] at hop
    simp only [mem_map, mem_filter, mem_filterMap, decide_eq_true_eq, Option.map_eq_some_iff] at h
    obtain ⟨⟨_, _⟩, ⟨⟨_, _, _, ha, hp⟩, hle⟩, rfl⟩ := h
    cases hp
    obtain ⟨eligible, he, rfl⟩ := rejoinAt_eq ha
    have hg := hle
    simp only [max_le_iff] at hg
    refine ⟨hop.1, hop.2, ?_, ?_, eligible, he, hg.1.1⟩
    · intro dline hd
      rw [hd] at hg
      exact hg.1.2
    · intro allowed hl
      rw [hl] at hg
      exact hg.2

/-- A restart goes out only when somebody is due, and is noted. -/
theorem fireDueRetries_cases (c : Controller) (now : Instant) :
    (c.rejoinCandidates now).1 = [] ∧ c.fireDueRetries now = c ∨
      (∃ r, r ∈ (c.rejoinCandidates now).1) ∧
        (c.fireDueRetries now).rejoin.lastRejoinRestart = some now := by
  unfold fireDueRetries
  split
  · rename_i hn
    exact .inl ⟨hn, rfl⟩
  · rename_i due hs
    have ho : ∃ r, r ∈ (c.rejoinCandidates now).1 :=
      exists_mem_of_ne_nil _ (fun hnil => hs (by rw [← hnil]))
    refine .inr ⟨ho, ?_⟩
    dsimp only
    generalize (List.foldl _ c _ : Controller) = freed
    have hw : Work {} { now } (freed.noteRestart now)
        ((freed.noteRestart now).republishRows.requestReconcile .retry) :=
      ((republishRows_course rfl _).quiet (requestReconcile_course rfl rfl _ _)).work
    rcases hw.lastRestart with ha | hno
    · exact ha
    · exact hno

/-! ## No spinning -/

omit [Lowercase] in
/-- Nobody due means that the next candidate is later. -/
theorem nextRetryDelay_ne_zero
    (h : (c.rejoinCandidates now).1 = []) : c.nextRetryDelay now ≠ some 0 := by
  unfold nextRetryDelay
  dsimp only
  rw [if_neg (by simpa using h)]
  intro hz
  obtain ⟨_, hn, hd⟩ := Option.map_eq_some_iff.mp hz
  unfold rejoinCandidates at hn
  split at hn
  · cases hn
  · have hmem := min?_mem hn
    simp only [mem_map, mem_filter, decide_eq_true_eq] at hmem
    obtain ⟨_, ⟨_, hl⟩, rfl⟩ := hmem
    exact absurd (Nat.sub_eq_zero_iff_le.mp hd) (Nat.not_le.mpr hl)

/-- Right after it fired, the retry arm waits. -/
theorem fireDueRetries_waits (c : Controller) (now : Instant) :
    (c.fireDueRetries now).nextRetryDelay now ≠ some 0 := by
  apply nextRetryDelay_ne_zero
  rcases c.fireDueRetries_cases now with ⟨hn, hs⟩ | ⟨_, ht⟩
  · rw [hs]
    exact hn
  · rw [eq_nil_iff_forall_not_mem]
    intro r hd
    obtain ⟨_, _, _, ha, _⟩ := due_gates hd
    have hp := ha (now + REJOIN_RESTART_SPACING) (by
      simp [RejoinRestartLimiter.groupAllowedAt, ht])
    simp [REJOIN_RESTART_SPACING, seconds] at hp

omit [Lowercase] in
theorem autoConnectDelay_disarmed (h : c.startupAutoConnectUntil = none)
    (now : Instant) : c.autoConnectDelay now = none := by
  unfold autoConnectDelay
  rw [h]

omit [Lowercase] in
/-- With nobody eligible the auto-connect arm waits for later. -/
theorem autoConnectDelay_ne_zero
    (h : (sortedIds c.snapshot.desiredMembers).any (c.rejoin.mayRejoin now) = false) :
    c.autoConnectDelay now ≠ some 0 := by
  unfold autoConnectDelay
  split
  · nofun
  · split
    · nofun
    · intro hz
      obtain ⟨_, hn, hd⟩ := Option.map_eq_some_iff.mp hz
      have hm := (Option.filter_eq_some_iff.mp hn).1
      obtain ⟨r, hmem, he⟩ := mem_filterMap.mp (min?_mem hm)
      have hy : c.rejoin.mayRejoin now r = true := by
        simp only [RejoinRestartLimiter.mayRejoin, he, Option.any_some, decide_eq_true_eq]
        exact Nat.sub_eq_zero_iff_le.mp hd
      exact absurd (any_eq_true.mpr ⟨r, hmem, hy⟩) (by simp [h])

/-- Right after it woke up, the auto-connect arm waits. -/
theorem applyStartupAutoConnect_waits (c : Controller) (now : Instant) :
    (c.applyStartupAutoConnect now).autoConnectDelay now ≠ some 0 := by
  have hs : ∀ {c : Controller}, c.startupAutoConnectUntil = none →
      c.autoConnectDelay now ≠ some 0 := by
    intro c hn
    rw [autoConnectDelay_disarmed hn]
    nofun
  have ht : Work {} { now } c.disarm (c.disarm.startRunning.requestReconcile .membership) :=
    ((startRunning_course rfl _).quiet (requestReconcile_course rfl rfl _ _)).work
  unfold applyStartupAutoConnect
  split
  · exact hs ‹_›
  · split
    · rename_i hu
      unfold autoConnectDelay
      split
      · nofun
      · rw [if_pos (.inl hu)]
        nofun
    · split
      · exact hs rfl
      · split
        · exact hs (ht.startup_none rfl)
        · rename_i hb
          exact autoConnectDelay_ne_zero (by simpa using hb)

/-! ## Restarts -/

/-- The turns of the actor. -/
abbrev Pass := Mealy.Turn Controller (Ports × Event) (List Emission)

/-- A pass in which `fire_due_retries` asks for a restart. -/
def Restarts (t : Pass) : Prop :=
  t.input.2 = .retryDue ∧ ∃ params, Emission.request (.reconcile params) ∈ t.output

theorem restarts_spec (h : Restarts (Mealy.turn step c input)) :
    c.suspended = false ∧ c.snapshot.runIntent = .running ∧
      (∀ allowed, c.rejoin.groupAllowedAt = some allowed → allowed ≤ input.1.now) ∧
      (c.step input).1.rejoin.lastRejoinRestart = some input.1.now := by
  obtain ⟨ports, event⟩ := input
  obtain ⟨he, _, hs⟩ := h
  obtain rfl : event = .retryDue := he
  rcases c.step_work (ports, .retryDue) with ⟨_, heq⟩ | ⟨_, after, ha, _, heq⟩
  · simp [Mealy.turn, heq] at hs
  · have hp : after = c.cleared.fireDueRetries ports.now := ha
    rcases c.cleared.fireDueRetries_cases ports.now with ⟨_, hm⟩ | ⟨⟨_, hd⟩, hn⟩
    · have hq : (Mealy.turn step c (ports, .retryDue)).output = [] := by
        show (c.step (ports, .retryDue)).2 = []
        rw [heq, hp, hm]
        rfl
      rw [hq] at hs
      cases hs
    · obtain ⟨hw, hr, _, hl, _⟩ := due_gates hd
      refine ⟨hw, hr, hl, ?_⟩
      rw [heq, hp]
      exact hn

/-- A restart is noted at the time of its pass. -/
theorem step_lastRestart (c : Controller) (input : Ports × Event) :
    (c.step input).1.rejoin.lastRejoinRestart = c.rejoin.lastRejoinRestart ∨
      (c.step input).1.rejoin.lastRejoinRestart = some input.1.now := by
  rcases c.step_work input with ⟨_, heq⟩ | ⟨_, _, _, hw, heq⟩
  · rw [heq]
    exact .inl rfl
  · rw [heq]
    exact hw.lastRestart

/-- The clock never goes back. -/
def MonotoneClock (inputs : List (Ports × Event)) : Prop :=
  inputs.Pairwise (fun a b => a.1.now ≤ b.1.now)

/-- Restarts are thirty seconds apart, and the last one noted is no earlier
than any of them. -/
structure Spaced (turns : List Pass) (c : Controller) : Prop where
  apart : turns.Pairwise (fun a b => Restarts a → Restarts b →
    a.input.1.now + REJOIN_RESTART_SPACING ≤ b.input.1.now)
  noted : ∀ t ∈ turns, Restarts t →
    ∃ last, c.rejoin.lastRejoinRestart = some last ∧ t.input.1.now ≤ last

/-- One more pass keeps the spacing. -/
theorem step_spaced (hc : ∀ t ∈ turns, t.input.1.now ≤ input.1.now) (h : Spaced turns c) :
    Spaced (turns ++ [Mealy.turn step c input]) (c.step input).1 := by
  refine ⟨?_, ?_⟩
  · refine pairwise_append.mpr ⟨h.apart, pairwise_singleton _ _, ?_⟩
    intro t ht t' ht' he ha
    rw [mem_singleton.mp ht'] at ha ⊢
    obtain ⟨last, hl, hle⟩ := h.noted t ht he
    have hal := (restarts_spec ha).2.2.1 (last + REJOIN_RESTART_SPACING) (by
      simp [RejoinRestartLimiter.groupAllowedAt, hl])
    exact le_trans (Nat.add_le_add_right hle _) hal
  · intro t ht hr
    rcases mem_append.mp ht with hold | hn
    · obtain ⟨last, hl, hle⟩ := h.noted t hold hr
      rcases c.step_lastRestart input with hs | hw
      · exact ⟨last, hs.trans hl, hle⟩
      · exact ⟨input.1.now, hw, hc t hold⟩
    · rw [mem_singleton.mp hn] at hr ⊢
      exact ⟨input.1.now, (restarts_spec hr).2.2.2, le_refl _⟩

theorem MonotoneClock.before {ins : List (Ports × Event)} (hc : MonotoneClock ins)
    {c : Controller} {pre : List (Ports × Event)} {input : Ports × Event}
    (hb : pre ++ [input] <+: ins) :
    ∀ t ∈ Mealy.trace step c pre, t.input.1.now ≤ input.1.now := by
  intro t ht
  have hi : t.input ∈ pre := by
    rw [← trace_map_input c pre]
    exact mem_map_of_mem ht
  have hp : (pre ++ [input]).Pairwise (fun a b => a.1.now ≤ b.1.now) := hc.sublist hb.sublist
  exact (pairwise_append.mp hp).2.2 _ hi input (mem_singleton_self _)

variable {ins : List (Ports × Event)}

/-- Under a clock that does not go back every run is spaced. -/
theorem run_spaced (c : Controller) (hc : MonotoneClock ins) :
    Spaced (Mealy.trace step c ins) (Mealy.run step c ins) := by
  have hs : ∀ (turns : List Pass) (c : Controller) (input : Ports × Event),
      (∀ t ∈ turns, t.input.1.now ≤ input.1.now) → Spaced turns c →
        Spaced (turns ++ [Mealy.turn step c input]) (c.step input).1 :=
    fun _ _ _ => step_spaced
  have hnil : Spaced [] c := ⟨List.Pairwise.nil, fun t ht => absurd ht (not_mem_nil)⟩
  exact @trace_induction_along _ _ _ step Spaced
    (fun turns _ input => ∀ t ∈ turns, t.input.1.now ≤ input.1.now) c hnil hs ins
    (fun _ _ hb => hc.before hb)

/-! ## Windows -/

/-- The receiver a browse event is about. -/
def BrowseEvent.receiver : BrowseEvent → ReceiverId
  | .added device | .updated device => device.id
  | .removed id => id

/-- The actor that has heard a browse event and not acted on it yet. -/
def heard (c : Controller) (event : BrowseEvent) : Controller :=
  { c with inventory := noteBrowse c.inventory event }

variable {event : BrowseEvent}

omit [Lowercase] in
theorem heard_castable (c : Controller)
    (h : r ≠ event.receiver) : (c.heard event).castable r = c.castable r := by
  have hg : (noteBrowse c.inventory event).get r = c.inventory.get r := by
    cases event with
    | added dev | updated dev =>
      unfold noteBrowse
      rw [SortedMap.get_insert]
      exact if_neg h
    | removed =>
      unfold noteBrowse
      dsimp only
      split
      · rw [SortedMap.get_insert]
        exact if_neg h
      · rfl
  show ((noteBrowse c.inventory event).get r).any InventoryEntry.offered = _
  rw [hg]
  rfl

omit [Lowercase] in
/-- The windows after every machine has been told. -/
theorem syncOne_foldl_online (now : Instant) (r : ReceiverId) :
    ∀ (ids : List ReceiverId) (c : Controller), (ids.foldl (syncOne now) c).castable = c.castable ∧
      (ids.foldl (syncOne now) c).rejoin.onlineSince.get r = if r ∈ ids then
          if c.castable r then some ((c.rejoin.onlineSince.get r).getD now) else none
        else c.rejoin.onlineSince.get r
  | [], c => ⟨rfl, by simp⟩
  | id :: rest, c => by
      obtain ⟨hc, ho⟩ := syncOne_foldl_online now r rest (c.syncOne now id)
      rw [syncOne_castable] at hc ho
      refine ⟨hc, ?_⟩
      rw [foldl_cons, ho, syncOne_online]
      by_cases hi : r = id
      · subst hi
        by_cases hr : c.castable r <;> by_cases hs : r ∈ rest <;> simp [hr, hs]
      · by_cases hs : r ∈ rest <;> simp [hi, hs]

theorem refreshReceivers_online (c : Controller) (now : Instant) (r : ReceiverId) :
    (c.refreshReceivers now).castable r = c.castable r ∧
      (c.refreshReceivers now).rejoin.onlineSince.get r = if r ∈ c.settleMachines.rowIds then
          if c.castable r then some ((c.rejoin.onlineSince.get r).getD now) else none
        else c.rejoin.onlineSince.get r := by
  have hr : Work { browses := false } {} (c.settleMachines.syncServiceAvailability now)
      (c.refreshReceivers now) := (republishRows_course rfl _).work
  obtain ⟨hs, ho⟩ := hr.windows rfl
  obtain ⟨hc, hn⟩ := syncOne_foldl_online now r c.settleMachines.machines.keys c.settleMachines
  have hk : r ∈ c.settleMachines.machines.keys ↔ r ∈ c.settleMachines.rowIds := by
    rw [SortedMap.mem_keys, settleMachines_get]
    split <;> simp_all
  refine ⟨?_, ?_⟩
  · rw [ho]
    exact (congrFun hc r).trans (c.settleMachines_castable r)
  · rw [hs]
    refine hn.trans ?_
    rw [c.settleMachines_castable r]
    simp only [hk]
    rfl

/-- Discovery takes a receiver away that nobody wants and whose window is
open. -/
def forgets (c : Controller) (input : Ports × Event) : Bool :=
  !(c.finished || decide c.crashed) && match input.2 with
    | .discovery (.receiver generation event) =>
      decide (c.seenDiscoveryGeneration ≤ generation)
        && decide (event.receiver ∉ c.snapshot.desiredMembers)
        && (c.rejoin.onlineSince.get event.receiver).isSome
        && !(c.heard event).castable event.receiver
    | _ => false

/-- Since the sighting that opened its window every pass has left the
receiver castable. -/
def Uninterrupted (turns : List Pass) (r : ReceiverId) (since : Instant) : Prop :=
  ∃ earlier opened later, turns = earlier ++ opened :: later ∧
    browses opened.input.2 = true ∧ opened.input.1.now = since ∧
    ∀ t ∈ opened :: later, t.after.castable r = true

variable {t : Pass}

omit [Lowercase] in
theorem Uninterrupted.extend (h : Uninterrupted turns r since) (ht : t.after.castable r = true) :
    Uninterrupted (turns ++ [t]) r since := by
  obtain ⟨earlier, opened, later, rfl, hb, hn, hall⟩ := h
  refine ⟨earlier, opened, later ++ [t], by simp, hb, hn, ?_⟩
  intro t' ht'
  rw [← cons_append] at ht'
  rcases mem_append.mp ht' with hold | hw
  · exact hall t' hold
  · rw [mem_singleton.mp hw]
    exact ht

omit [Lowercase] in
theorem Uninterrupted.castable
    (h : Uninterrupted (turns ++ [t]) r since) : t.after.castable r = true := by
  obtain ⟨_, _, _, hs, _, _, hall⟩ := h
  refine hall t (mem_of_getLast? ?_)
  have hl := congrArg List.getLast? hs
  rw [getLast?_concat, getLast?_append_cons] at hl
  exact hl.symm

/-- Every open window is a true one. -/
def Windowed (turns : List Pass) (c : Controller) : Prop :=
  ∀ r since, c.rejoin.onlineSince.get r = some since →
    c.castable r = true ∧ Uninterrupted turns r since

omit [Lowercase] in
theorem settled_rowless (hw : r ∉ c.snapshot.desiredMembers) (hl : c.castable r = false) :
    r ∉ c.settleMachines.rowIds := by
  intro hr
  rcases Finset.mem_union.mp hr with hk | hmem
  · have hs := SortedMap.mem_keys.mp (mem_toFinset.mp hk)
    have ht : c.settleMachines.inventory.get r = (c.inventory.get r).filter
        (fun entry => decide (r ∈ c.snapshot.desiredMembers) || entry.offered) :=
      SortedMap.get_retain _ _ _
    rw [ht] at hs
    unfold castable at hl
    cases hg : c.inventory.get r with
    | none => simp [hg] at hs
    | some =>
      rw [hg] at hl hs
      simp only [Option.any_some] at hl
      simp [Option.filter, hw, hl] at hs
  · exact hw hmem

theorem heard_online (hf : event.receiver ∉ c.snapshot.desiredMembers →
      (c.rejoin.onlineSince.get event.receiver).isSome = true →
        (c.heard event).castable event.receiver = true)
    (hop : ∀ r since, c.rejoin.onlineSince.get r = some since → c.castable r = true)
    (h : ((c.heard event).refreshReceivers now).rejoin.onlineSince.get r = some since) :
    ((c.heard event).refreshReceivers now).castable r = true ∧
      (c.rejoin.onlineSince.get r = some since ∨ now = since) := by
  obtain ⟨hc, hn⟩ := (c.heard event).refreshReceivers_online now r
  rw [hn] at h
  rw [hc]
  by_cases hw : r ∈ (c.heard event).settleMachines.rowIds
  · rw [if_pos hw] at h
    split at h
    · rename_i ho
      refine ⟨ho, ?_⟩
      cases hold : (c.heard event).rejoin.onlineSince.get r with
      | none =>
        rw [hold] at h
        exact .inr (Option.some.inj h)
      | some =>
        rw [hold] at h
        exact .inl (hold.trans h)
    · cases h
  · -- without a row the window stays, so the event must not have been about it
    rw [if_neg hw] at h
    have ha : r ∉ c.snapshot.desiredMembers := fun hmem => hw (Finset.mem_union_right _ hmem)
    have hl : (c.heard event).castable r = false := by
      by_contra ho
      refine hw (mem_rowIds ?_)
      rw [settleMachines_castable]
      simpa using ho
    exfalso
    by_cases hr : r = event.receiver
    · subst hr
      have hk := hf ha (by
        show (c.rejoin.onlineSince.get event.receiver).isSome = true
        rw [show c.rejoin.onlineSince.get event.receiver = some since from h]
        rfl)
      rw [hl] at hk
      cases hk
    · rw [c.heard_castable hr, hop r since h] at hl
      cases hl

/-- After a pass that forgets nobody the open windows are of castable
receivers and old, or opened by this very sighting. -/
theorem step_online (hf : forgets c input = false)
    (hop : ∀ r since, c.rejoin.onlineSince.get r = some since → c.castable r = true)
    (h : (c.step input).1.rejoin.onlineSince.get r = some since) :
    (c.step input).1.castable r = true ∧ (c.rejoin.onlineSince.get r = some since ∨
      browses input.2 = true ∧ input.1.now = since) := by
  rcases c.step_work input with ⟨_, heq⟩ | ⟨hl, after, ha, _, heq⟩
  · rw [heq] at h ⊢
    exact ⟨hop r since h, .inl h⟩
  · rw [heq] at h ⊢
    have hk : after.rejoin.onlineSince = c.rejoin.onlineSince ∧
        (∀ r, after.castable r = c.castable r) →
          after.castable r = true ∧ (c.rejoin.onlineSince.get r = some since ∨
            browses input.2 = true ∧ input.1.now = since) := by
      rintro ⟨hm, hof⟩
      have hold : c.rejoin.onlineSince.get r = some since := hm ▸ h
      exact ⟨(hof r).trans (hop r since hold), .inl hold⟩
    cases hb : browses input.2 with
    | false =>
      have hw : Work { browses := false } input.1 c.cleared after :=
        ha ▸ handle_work _ (.inr hb) (.inl rfl) (.inl rfl)
      rw [hb] at hk
      exact hk (hw.windows rfl)
    | true =>
      obtain ⟨ports, event⟩ := input
      unfold browses at hb
      split at hb
      · rename_i gen event he
        obtain rfl := he
        have hp : after = if gen < c.seenDiscoveryGeneration then c.cleared
            else (c.cleared.heard event).refreshReceivers ports.now := ha
        by_cases hs : gen < c.seenDiscoveryGeneration
        · rw [if_pos hs] at hp
          rw [hp] at hk ⊢
          exact hk ⟨rfl, fun _ => rfl⟩
        · rw [if_neg hs] at hp
          have hke : event.receiver ∉ c.snapshot.desiredMembers →
              (c.rejoin.onlineSince.get event.receiver).isSome = true →
                (c.heard event).castable event.receiver = true := by
            intro hn hso
            rw [not_or, Bool.not_eq_true] at hl
            simpa [forgets, hl, not_lt.mp hs, hn, hso] using hf
          have ho : after.rejoin.onlineSince.get r = some since := h
          rw [hp] at ho
          obtain ⟨hc, hh⟩ := heard_online (c := c.cleared) hke hop ho
          rw [← hp] at hc
          exact ⟨hc, hh.imp id (fun hno => ⟨rfl, hno⟩)⟩
      · cases hb

/-- A pass that forgets no window keeps them true. -/
theorem step_windowed (hf : forgets c input = false) (h : Windowed turns c) :
    Windowed (turns ++ [Mealy.turn step c input]) (c.step input).1 := by
  intro r since ho
  obtain ⟨hc, hw⟩ := step_online hf (fun r since hold => (h r since hold).1) ho
  refine ⟨hc, ?_⟩
  rcases hw with hold | ⟨hb, hn⟩
  · exact (h r since hold).2.extend hc
  · refine ⟨turns, Mealy.turn step c input, [], rfl, hb, hn, ?_⟩
    intro t ht
    rw [mem_singleton.mp ht]
    exact hc

/-- A pass that forgets a receiver leaves its window open. -/
theorem forgets_spec (hf : forgets c input = true) :
    ∃ r since, (c.step input).1.rejoin.onlineSince.get r = some since ∧
      (c.step input).1.castable r = false := by
  obtain ⟨ports, event⟩ := input
  unfold forgets at hf
  split at hf
  · rename_i gen event he
    obtain rfl := he
    simp only [Bool.and_eq_true, Bool.not_eq_true', Bool.or_eq_false_iff, decide_eq_true_eq,
      decide_eq_false_iff_not] at hf
    obtain ⟨⟨hu, hr⟩, ⟨⟨hfr, hw⟩, hop⟩, hl⟩ := hf
    obtain ⟨since, hs⟩ := Option.isSome_iff_exists.mp hop
    rcases c.step_work (ports, .discovery (.receiver gen event)) with
      ⟨hd, _⟩ | ⟨_, after, ha, _, heq⟩
    · exact absurd hd (by simp [hu, hr])
    · have hp : after = if gen < c.seenDiscoveryGeneration then c.cleared
          else (c.cleared.heard event).refreshReceivers ports.now := ha
      rw [if_neg (not_lt.mpr hfr)] at hp
      obtain ⟨hc, ho⟩ := (c.cleared.heard event).refreshReceivers_online ports.now event.receiver
      have hro := settled_rowless (c := c.cleared.heard event) hw hl
      rw [if_neg hro, ← hp] at ho
      rw [← hp] at hc
      rw [heq]
      exact ⟨event.receiver, since, ho.trans hs, hc.trans hl⟩
  · simp at hf

/-! ## The gates of a run -/

/-- What is promised of automatic restarts, at one point of a run. -/
structure RestartsGated (turns : List Pass) (c : Controller) : Prop where
  apart : turns.Pairwise (fun a b => Restarts a → Restarts b →
    a.input.1.now + REJOIN_RESTART_SPACING ≤ b.input.1.now)
  awake : ∀ t ∈ turns, Restarts t →
    t.before.suspended = false ∧ t.before.snapshot.runIntent ≠ .stopped
  deadline : ∀ now, ∀ r ∈ (c.rejoinCandidates now).1,
    ∀ deadline, c.retry.nextRetry r = some deadline → deadline ≤ now
  stable : ∀ now, ∀ r ∈ (c.rejoinCandidates now).1, ∃ since,
    c.rejoin.rejoinEligibleAt r = some (since + REJOIN_ONLINE_STABLE_FOR) ∧
      since + REJOIN_ONLINE_STABLE_FOR ≤ now
  /-- By the order of the updates, and so by the clock. -/
  window : ∀ r since, c.rejoin.rejoinEligibleAt r = some (since + REJOIN_ONLINE_STABLE_FOR) →
    Uninterrupted turns r since ∧ ∀ t ∈ turns, since < t.input.1.now → t.after.castable r = true
  retryWaits : ∀ now, (c.fireDueRetries now).nextRetryDelay now ≠ some 0
  launchWaits : ∀ now, (c.applyStartupAutoConnect now).autoConnectDelay now ≠ some 0

omit [Lowercase] in
theorem rejoinEligibleAt_iff {limiter : RejoinRestartLimiter} :
    limiter.rejoinEligibleAt r = some (since + REJOIN_ONLINE_STABLE_FOR) ↔
      limiter.onlineSince.get r = some since := by
  simp [RejoinRestartLimiter.rejoinEligibleAt]

theorem Uninterrupted.later {c : Controller} {ins : List (Ports × Event)}
    (hc : MonotoneClock ins) {r : ReceiverId} {since : Instant}
    (h : Uninterrupted (Mealy.trace step c ins) r since) :
    ∀ t ∈ Mealy.trace step c ins, since < t.input.1.now → t.after.castable r = true := by
  have hp : ((Mealy.trace step c ins).map (·.input)).Pairwise (fun a b => a.1.now ≤ b.1.now) := by
    rw [trace_map_input]
    exact hc
  obtain ⟨_, opened, _, hs, _, hn, hall⟩ := h
  rw [hs] at hp ⊢
  rw [pairwise_map, pairwise_append] at hp
  intro t ht hl
  rcases mem_append.mp ht with he | ha
  · have hle := hp.2.2 t he opened (by simp)
    rw [hn] at hle
    exact absurd hl (not_lt.mpr hle)
  · exact hall t ha

theorem restarts_awake (c : Controller) (ins : List (Ports × Event)) :
    ∀ t ∈ Mealy.trace step c ins, Restarts t →
      t.before.suspended = false ∧ t.before.snapshot.runIntent ≠ .stopped := by
  have hs : ∀ (turns : List Pass) (c : Controller) (input : Ports × Event),
      (∀ t ∈ turns, Restarts t →
        t.before.suspended = false ∧ t.before.snapshot.runIntent ≠ .stopped) →
      ∀ t ∈ turns ++ [Mealy.turn step c input], Restarts t →
        t.before.suspended = false ∧ t.before.snapshot.runIntent ≠ .stopped := by
    intro turns c input h t ht hr
    rcases mem_append.mp ht with hold | hn
    · exact h t hold hr
    · rw [mem_singleton.mp hn] at hr ⊢
      obtain ⟨ha, hu, _⟩ := restarts_spec hr
      refine ⟨ha, fun hp => ?_⟩
      cases hu.symm.trans hp
  exact @trace_induction _ _ _ step (fun turns _ => ∀ t ∈ turns, Restarts t →
    t.before.suspended = false ∧ t.before.snapshot.runIntent ≠ .stopped) c
    (fun t ht => absurd ht not_mem_nil) hs ins

/-- A run that forgets nobody has true windows only. -/
theorem run_windowed (loaded : LoadedState) (cal : CalibrationProfile)
    (launch : Instant) (ins : List (Ports × Event))
    (hk : Mealy.Along step (fun c input => forgets c input = false) (start loaded cal launch) ins) :
    Windowed (Mealy.trace step (start loaded cal launch) ins)
      (run (start loaded cal launch) ins) := by
  have ht : Windowed [] (start loaded cal launch) := by
    intro r since ho
    have he : (start loaded cal launch).rejoin.onlineSince.get r = none := rfl
    rw [he] at ho
    cases ho
  have hs : ∀ (turns : List Pass) (c : Controller) (input : Ports × Event),
      forgets c input = false → Windowed turns c →
        Windowed (turns ++ [Mealy.turn step c input]) (c.step input).1 :=
    fun _ _ _ => step_windowed
  exact @trace_induction_along _ _ _ step Windowed
    (fun _ c input => forgets c input = false) _ ht hs ins
    (fun pre i hb => (along_iff_forall_start ins).mp hk pre i hb)

/-- Everything but the windows holds in every run. -/
theorem restartsGated_of_window (c : Controller) (hc : MonotoneClock ins)
    (hw : ∀ r since, (run c ins).rejoin.onlineSince.get r = some since →
      Uninterrupted (Mealy.trace step c ins) r since) :
    RestartsGated (Mealy.trace step c ins) (run c ins) where
  apart := (run_spaced c hc).apart
  awake := restarts_awake c ins
  deadline := fun _ _ hd => (due_gates hd).2.2.1
  stable := by
    intro now r hd
    obtain ⟨_, he, hle⟩ := (due_gates hd).2.2.2.2
    obtain ⟨since, _, rfl⟩ := Option.map_eq_some_iff.mp he
    exact ⟨since, he, hle⟩
  window := by
    intro r since he
    have hop := hw r since (rejoinEligibleAt_iff.mp he)
    exact ⟨hop, hop.later hc⟩
  retryWaits := fireDueRetries_waits _
  launchWaits := applyStartupAutoConnect_waits _

/-- Under a monotone clock automatic restarts are gated all along a run
exactly when no browse event of it takes away a receiver that nobody wants
and whose window is open. -/
theorem restarts_gated_iff (loaded : LoadedState) (calibration : CalibrationProfile)
    (launch : Instant) (inputs : List (Ports × Event)) (hclock : MonotoneClock inputs) :
    (∀ before, before <+: inputs →
      RestartsGated (Mealy.trace step (start loaded calibration launch) before)
        (run (start loaded calibration launch) before)) ↔
      Mealy.Along step (fun c input => forgets c input = false)
        (start loaded calibration launch) inputs := by
  constructor
  · intro hall
    rw [along_iff_forall_start]
    intro before input hb
    by_contra hf
    obtain ⟨r, since, ho, hl⟩ := forgets_spec (by simpa using hf)
    have hg := hall (before ++ [input]) hb
    rw [run, run_concat, trace_concat] at hg
    have ht := (hg.window r since (rejoinEligibleAt_iff.mpr ho)).1.castable
    exact absurd (ht.symm.trans hl) (by simp)
  · intro hk before hb
    have hc' : MonotoneClock before := hclock.sublist hb.sublist
    refine restartsGated_of_window _ hc' ?_
    intro r since ho
    have hk' : Mealy.Along step (fun c input => forgets c input = false)
        (start loaded calibration launch) before := by
      rw [along_iff_forall_start] at hk ⊢
      exact fun xs i hi => hk xs i (hi.trans hb)
    exact (run_windowed loaded calibration launch before hk' r since ho).2

def kitchen : Device := ⟨⟨1⟩, "kitchen", "", true, true⟩

/-- A receiver is seen at launch and selected five seconds later. -/
def selected : List (Ports × Event) :=
  [({}, .discovery (.receiver 0 (.added kitchen))),
   ({ now := seconds 5 }, .batch [{ id := 1, command := .setDesiredMembers {kitchen.id} },
     { id := 2, command := .setRunIntent .running }])]

omit [Lowercase] in
theorem restarts_gated_iff_selected :
    letI := asciiLowercase
    let launched := start LoadedState.defaults {} 0
    MonotoneClock selected ∧
      RestartsGated (Mealy.trace step launched selected) (run launched selected) := by
  let := asciiLowercase
  intro launched
  have hc : MonotoneClock selected := by
    unfold MonotoneClock
    decide
  have hk : Mealy.Along step (fun c input => forgets c input = false) launched selected := by decide
  exact ⟨hc, (restarts_gated_iff LoadedState.defaults {} 0 selected hc).mpr hk selected prefix_rfl⟩

/-- A receiver nobody wants goes away after ten seconds and comes back after
twenty. Only then it is selected. -/
def inherited : List (Ports × Event) :=
  [({}, .discovery (.receiver 0 (.added kitchen))),
   ({ now := seconds 10 }, .discovery (.receiver 0 (.removed kitchen.id))),
   ({ now := seconds 20 }, .discovery (.receiver 0 (.added kitchen))),
   ({ now := seconds 20 }, .batch [{ id := 1, command := .setDesiredMembers {kitchen.id} },
     { id := 2, command := .setRunIntent .running }])]

omit [Lowercase] in
/-- It is due at once, on a window that a loss has interrupted. -/
theorem inherited_window_is_due :
    letI := asciiLowercase
    let launched := start LoadedState.defaults {} 0
    let c := run launched inherited
    MonotoneClock inherited ∧ kitchen.id ∈ (c.rejoinCandidates (seconds 20)).1 ∧
      c.rejoin.rejoinEligibleAt kitchen.id = some (seconds 2) ∧
      (run launched (inherited.take 2)).castable kitchen.id = false ∧
      ¬ RestartsGated (Mealy.trace step launched inherited) c := by
  let := asciiLowercase
  intro launched c
  have hl : (run launched (inherited.take 2)).castable kitchen.id = false := by decide
  have hop : c.rejoin.rejoinEligibleAt kitchen.id = some (0 + REJOIN_ONLINE_STABLE_FOR) := by decide
  refine ⟨?_, by decide, by decide, hl, fun hg => ?_⟩
  · unfold MonotoneClock
    decide
  · let loss : Ports × Event :=
      ({ now := seconds 10 }, .discovery (.receiver 0 (.removed kitchen.id)))
    have hmem : Mealy.turn step (run launched (inherited.take 1)) loss ∈
        Mealy.trace step launched (inherited.take 1 ++ loss :: inherited.drop 2) :=
      turn_mem_trace launched (inherited.take 1) (inherited.drop 2) loss
    have hn : (Mealy.turn step (run launched (inherited.take 1)) loss).after.castable
        kitchen.id ≠ true := by decide
    have ht : (0 : Instant) <
        (Mealy.turn step (run launched (inherited.take 1)) loss).input.1.now := by decide
    exact hn ((hg.window kitchen.id 0 hop).2 _ hmem ht)

/-! ## The rate of restarts -/

omit [Lowercase] in
/-- Times that are `d` apart fit a window once for every `d` of its length. -/
theorem length_le_of_spaced {d : Nat} {times : List Nat} : ∀ {first n : Nat},
    times.Pairwise (fun a b => a + d ≤ b) → (∀ t ∈ times, first ≤ t ∧ t < first + n * d) →
      times.length ≤ n := by
  induction times with
  | nil => exact fun _ _ => Nat.zero_le _
  | cons t rest ih =>
    intro first n hp ht
    obtain ⟨hl, hr⟩ := pairwise_cons.mp hp
    obtain ⟨hf, hb⟩ := ht t mem_cons_self
    cases n with
    | zero => omega
    | succ n =>
      rw [Nat.succ_mul] at ht
      refine Nat.succ_le_succ (@ih (first + d) n hr fun u hu => ?_)
      have hd := hl u hu
      have hu' := (ht u (mem_cons_of_mem _ hu)).2
      omega

/-- Whatever the receivers and the user do, automatic restarts come at most
once for every thirty seconds of a window, and only awake and wanted. -/
theorem restarts_bounded (c : Controller) (inputs : List (Ports × Event))
    (hclock : MonotoneClock inputs) (first n : Nat) (restarts : List Pass)
    (hsub : restarts.Sublist (Mealy.trace step c inputs)) (hrestarts : ∀ t ∈ restarts,
      Restarts t ∧ first ≤ t.input.1.now ∧ t.input.1.now < first + n * REJOIN_RESTART_SPACING) :
    restarts.length ≤ n ∧ ∀ t ∈ restarts,
      t.before.suspended = false ∧ t.before.snapshot.runIntent ≠ .stopped := by
  constructor
  · have hp : (restarts.map (·.input.1.now)).Pairwise
        (fun a b => a + REJOIN_RESTART_SPACING ≤ b) := by
      refine pairwise_map.mpr (((run_spaced c hclock).apart.sublist hsub).imp_of_mem ?_)
      intro a b ha hb h
      exact h (hrestarts a ha).1 (hrestarts b hb).1
    rw [← length_map (fun t : Pass => t.input.1.now)]
    refine @length_le_of_spaced _ _ first n hp fun t ht => ?_
    obtain ⟨u, hu, rfl⟩ := mem_map.mp ht
    exact (hrestarts u hu).2
  · exact fun t ht => restarts_awake c inputs t (hsub.subset ht) (hrestarts t ht).1

omit [Lowercase] in
theorem restarts_of_any (h : t.input.2 = .retryDue)
    (ha : t.output.any (fun | .request (.reconcile _) => true | _ => false) = true) :
    Restarts t := by
  obtain ⟨e, he, hm⟩ := any_eq_true.mp ha
  split at hm
  · exact ⟨h, _, he⟩
  · cases hm

omit [Lowercase] in
/-- The receiver that came back is restarted for five seconds later. -/
theorem restarts_bounded_once :
    letI := asciiLowercase
    let c := run (start LoadedState.defaults {} 0) inherited
    let t := Mealy.turn step c ({ now := seconds 25 }, .retryDue)
    Restarts t ∧ c.suspended = false := by
  let := asciiLowercase
  intro c t
  have hc : MonotoneClock [(({ now := seconds 25 } : Ports), Event.retryDue)] :=
    pairwise_singleton _ _
  have hr : Restarts t := restarts_of_any rfl (by decide)
  refine ⟨hr, ((restarts_bounded c _ hc (seconds 25) 1 [t] (Sublist.refl _) ?_).2 t
    (mem_singleton_self t)).1⟩
  intro u hu
  obtain rfl := mem_singleton.mp hu
  exact ⟨hr, le_rfl, by decide⟩

end OpenAirCast.Backend.Controller
