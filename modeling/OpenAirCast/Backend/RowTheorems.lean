/-
Backend.RowTheorems — receiver rows and the session view.

A published snapshot says twice who streams: in the lifecycle of the rows,
which the machines author, and in `session.active`, which the updates of the
supervisor write. `Coherent` is the agreement of the two, with the primary
and the backoff set. `Joined` is what the actor keeps for it: the machines
that stream are the members of the session, and all of them are wanted.
Strict work keeps both.

Two kinds of input break it. A command can take a member of the session out
of the selection, which releases its machine at once while the session still
counts it; and an update can move machines without the session or the other
way round, as a generation that starts over a live one does. `agrees` is a
step that does neither, and a run of such steps publishes coherent snapshots
only.
-/
import OpenAirCast.Backend.GateTheorems

namespace OpenAirCast.Backend

open List ReceiverMachine Controller

/-- Rows and session of a snapshot say the same. -/
structure FullSnapshot.Coherent (s : FullSnapshot) : Prop where
  streaming : ∀ row ∈ s.receivers, (row.lifecycle.isStreaming = true ↔ row.id ∈ s.session.active)
  primary : ∀ p, s.session.primary = some p → p ∈ s.session.active
  waiting : ∀ id, id ∈ s.session.retryWaiting ↔
    ∃ row ∈ s.receivers, row.id = id ∧ row.lifecycle.isRetryWaiting = true
  wanted : ∀ id ∈ s.desiredMembers, (s.receivers.map (·.id)).count id = 1
  distinct : (s.receivers.map (·.id)).Nodup

theorem FullSnapshot.Coherent.of_view {s s' : FullSnapshot} (h : s.Coherent)
    (same : view s' = view s) : s'.Coherent := by
  have hr : s'.receivers = s.receivers := congrArg View.receivers same
  have hd : s'.desiredMembers = s.desiredMembers := congrArg View.desiredMembers same
  have ha : s'.session.active = s.session.active := congrArg View.active same
  have hp : s'.session.primary = s.session.primary := congrArg View.primary same
  have hw : s'.session.retryWaiting = s.session.retryWaiting := congrArg View.retryWaiting same
  refine ⟨?_, ?_, ?_, ?_, ?_⟩
  · rw [hr, ha]
    exact h.streaming
  · rw [hp, ha]
    exact h.primary
  · rw [hr, hw]
    exact h.waiting
  · rw [hr, hd]
    exact h.wanted
  · rw [hr]
    exact h.distinct

theorem FullSnapshot.Coherent.perm {s s' : FullSnapshot} (h : s.Coherent)
    (hc : s'.receivers.Perm s.receivers) (hs : s'.session = s.session)
    (he : s'.desiredMembers = s.desiredMembers) : s'.Coherent := by
  have hd := hc.map (·.id)
  refine ⟨?_, ?_, ?_, ?_, ?_⟩
  · intro row hr
    rw [hs]
    exact h.streaming row (hc.mem_iff.mp hr)
  · rw [hs]
    exact h.primary
  · intro id
    rw [hs, h.waiting]
    constructor
    · rintro ⟨row, hr, hrs⟩
      exact ⟨row, hc.mem_iff.mpr hr, hrs⟩
    · rintro ⟨row, hr, hrs⟩
      exact ⟨row, hc.mem_iff.mp hr, hrs⟩
  · intro id hi
    rw [hd.count_eq]
    exact h.wanted id (he ▸ hi)
  · exact hd.nodup_iff.mpr h.distinct

namespace Controller

variable {c : Controller}

/-- The receiver's machine streams. -/
def streams (c : Controller) (id : ReceiverId) : Bool :=
  (c.machines.get id).any (·.state.isStreaming)

/-- The machines that stream are the members of the session, and the
selection has them all. -/
structure Joined (c : Controller) : Prop where
  streams : ∀ id, c.streams id = true ↔ id ∈ c.snapshot.session.active
  active : c.active = c.snapshot.session.active
  wanted : c.snapshot.session.active ⊆ c.snapshot.desiredMembers
  primary : ∀ p, c.snapshot.session.primary = some p → p ∈ c.snapshot.session.active

variable {c' : Controller}

theorem Joined.of_eq (h : Joined c) (hm : c'.machines = c.machines)
    (ha : c'.active = c.active) (hv : view c'.snapshot = view c.snapshot) :
    Joined c' := by
  have hs : c'.snapshot.session.active = c.snapshot.session.active := congrArg View.active hv
  have hd : c'.snapshot.desiredMembers = c.snapshot.desiredMembers :=
    congrArg View.desiredMembers hv
  have hp : c'.snapshot.session.primary = c.snapshot.session.primary := congrArg View.primary hv
  refine ⟨?_, ?_, ?_, ?_⟩
  · intro id
    unfold Controller.streams
    rw [hm, hs]
    exact h.streams id
  · rw [ha, hs]
    exact h.active
  · rw [hs, hd]
    exact h.wanted
  · rw [hs, hp]
    exact h.primary

/-- What was published is coherent. -/
def Published (c : Controller) : Prop := ∀ s, Emission.publish s ∈ c.out → s.Coherent

/-- The actor between two pieces of work. -/
structure InStep (c : Controller) : Prop where
  joined : Joined c
  coherent : c.snapshot.Coherent
  published : Published c

/-! ## Rows -/

theorem new_not_streaming (available : Bool) : (new available).state.isStreaming = false := by
  cases available <;> rfl

theorem release_not_streaming (machine : ReceiverMachine) :
    machine.release.state.isStreaming = false := by
  unfold release
  split
  · rename_i hu
    rw [hu]
    rfl
  · show (Lifecycle.idle machine.serviceAvailable).isStreaming = false
    cases machine.serviceAvailable <;> rfl

theorem settled_streaming (c : Controller) (id : ReceiverId) :
    (c.settled id).state.isStreaming = c.streams id := by
  unfold settled streams
  cases c.machines.get id with
  | none => exact new_not_streaming _
  | some => rfl

/-- Rebuilding the rows stops nobody who is wanted. -/
theorem settleMachines_streams
    (hw : ∀ id, c.streams id = true → id ∈ c.snapshot.desiredMembers) (id : ReceiverId) :
    c.settleMachines.streams id = c.streams id := by
  unfold streams
  rw [settleMachines_get]
  by_cases hi : id ∈ c.snapshot.desiredMembers
  · have hr : id ∈ c.settleMachines.rowIds := Finset.mem_union_right _ hi
    rw [if_pos hr, if_pos hi]
    exact c.settled_streaming id
  · have hl : c.streams id = false := by
      by_contra hs
      exact hi (hw id (by simpa using hs))
    unfold streams at hl
    rw [hl]
    split
    · exact release_not_streaming _
    · rfl

/-- Every row has a machine and every machine a row. -/
def Rowed (c : Controller) : Prop :=
  ∀ id, (c.machines.get id).isSome = true ↔ id ∈ c.rowIds

theorem settleMachines_rowed (c : Controller) : Rowed c.settleMachines := by
  intro id
  rw [settleMachines_get]
  split <;> simp_all

variable {next : FullSnapshot}

/-- Rebuilt rows agree with a session view whose members are the machines
that stream. -/
theorem withRows_coherent (hrw : Rowed c)
    (hs : ∀ id, c.streams id = true ↔ id ∈ next.session.active)
    (he : next.desiredMembers = c.snapshot.desiredMembers)
    (hp : ∀ p, next.session.primary = some p → p ∈ next.session.active) :
    (c.withRows next).Coherent := by
  have hd : (c.withRows next).receivers.map (·.id) = sortedIds c.rowIds := by
    show ((sortedIds c.rowIds).map c.row).map (·.id) = _
    rw [map_map]
    exact map_id _
  have hn : (sortedIds c.rowIds).Nodup := sortedIds_nodup _
  have hm : ∀ id ∈ c.rowIds, ∃ machine, c.machines.get id = some machine ∧
      (c.row id).lifecycle = machine.state := by
    intro id hi
    obtain ⟨machine, hg⟩ := Option.isSome_iff_exists.mp ((hrw id).mpr hi)
    refine ⟨machine, hg, ?_⟩
    unfold row
    rw [hg]
    rfl
  refine ⟨?_, hp, ?_, ?_, ?_⟩
  · intro row hr
    obtain ⟨id, hi, rfl⟩ := mem_map.mp hr
    obtain ⟨machine, hg, hl⟩ := hm id (mem_sortedIds.mp hi)
    have ht : c.streams id = machine.state.isStreaming := by
      unfold streams
      rw [hg]
      rfl
    rw [hl, ← ht]
    exact hs id
  · intro id
    show id ∈ (c.machines.keys.filter (fun id => (c.machines.get id).any
      (fun machine => machine.state.isRetryWaiting))).toFinset ↔ _
    rw [mem_toFinset, mem_filter, SortedMap.mem_keys]
    constructor
    · rintro ⟨hsm, hw⟩
      have hr := (hrw id).mp hsm
      obtain ⟨machine, hg, hl⟩ := hm id hr
      refine ⟨c.row id, mem_map_of_mem (mem_sortedIds.mpr hr), rfl, ?_⟩
      rw [hl]
      rw [hg] at hw
      exact hw
    · rintro ⟨row, hr, rfl, hw⟩
      obtain ⟨id, hi, rfl⟩ := mem_map.mp hr
      obtain ⟨_, hg, hl⟩ := hm id (mem_sortedIds.mp hi)
      rw [hl] at hw
      show (c.machines.get id).isSome = true ∧ (c.machines.get id).any _ = true
      rw [hg]
      exact ⟨rfl, hw⟩
  · intro id hi
    rw [hd]
    refine count_eq_one_of_mem hn (mem_sortedIds.mpr (Finset.mem_union_right _ ?_))
    rw [← he]
    exact hi
  · rw [hd]
    exact hn

/-! ## Strict work -/

variable {e : Emission}

theorem Published.emits (h : Published c) (hp : ∀ s, e ≠ .publish s) : Published (c.emit e) := by
  intro s hs
  rcases mem_append.mp hs with hold | hn
  · exact h s hold
  · exact absurd (mem_singleton.mp hn).symm (hp s)

theorem InStep.of_eq (h : InStep c) (hm : c'.machines = c.machines)
    (ha : c'.active = c.active) (hv : view c'.snapshot = view c.snapshot)
    (ho : c'.out = c.out) : InStep c' := by
  refine ⟨h.joined.of_eq hm ha hv, h.coherent.of_view hv, ?_⟩
  unfold Published
  rw [ho]
  exact h.published

theorem InStep.emits (h : InStep c) (hp : ∀ s, e ≠ .publish s) : InStep (c.emit e) :=
  ⟨h.joined.of_eq rfl rfl rfl, h.coherent, h.published.emits hp⟩

theorem Joined.streams_wanted (h : Joined c) (id : ReceiverId)
    (hi : c.streams id = true) : id ∈ c.snapshot.desiredMembers :=
  h.wanted ((h.streams id).mp hi)

theorem Joined.settle (h : Joined c) : Joined c.settleMachines := by
  refine ⟨fun id => ?_, h.active, h.wanted, h.primary⟩
  rw [settleMachines_streams h.streams_wanted]
  exact h.streams id

theorem drive_streams (c : Controller) (recv : ReceiverId)
    (op : ReceiverMachine → ReceiverMachine × Bool) (id : ReceiverId) :
    (c.drive recv op).streams id =
      if id = recv then (op (c.settled recv)).1.state.isStreaming else c.streams id := by
  unfold streams
  rw [drive_get]
  split <;> rfl

variable {op : ReceiverMachine → ReceiverMachine × Bool} {recv : ReceiverId}

theorem drive_soft (soft : Soft op)
    (id : ReceiverId) : (c.drive recv op).streams id = c.streams id := by
  rw [drive_streams]
  split
  · rename_i hi
    rw [soft, settled_streaming, hi]
  · rfl

theorem Joined.showRows (h : Joined c) (hp : Published c) (same : view next = view c.snapshot) :
    InStep (c.showRows next) := by
  have ha : next.session.active = c.snapshot.session.active := congrArg View.active same
  have hd : next.desiredMembers = c.snapshot.desiredMembers := congrArg View.desiredMembers same
  have hr : next.session.primary = c.snapshot.session.primary := congrArg View.primary same
  have ht := h.settle
  have hn : ∀ p, next.session.primary = some p → p ∈ next.session.active := by
    rw [ha, hr]
    exact h.primary
  have hs : ∀ id, c.settleMachines.streams id = true ↔ id ∈ next.session.active := by
    rw [ha]
    exact ht.streams
  have hc := withRows_coherent c.settleMachines_rowed hs hd hn
  have hw : next.session.active ⊆ next.desiredMembers := by
    rw [ha, hd]
    exact h.wanted
  have hm : c.active = next.session.active := h.active.trans ha.symm
  exact ⟨⟨hs, hm, hw, hn⟩, hc, hp⟩

variable [Lowercase] {mode : Mode} {ports : Ports}

theorem posted_view (c : Controller) : c.posted.session = c.snapshot.session ∧
    c.posted.desiredMembers = c.snapshot.desiredMembers ∧
    c.posted.receivers.Perm c.snapshot.receivers :=
  ⟨rfl, rfl, perm_insertionSort _ _⟩

theorem InStep.publish (h : InStep c) : InStep c.publish := by
  obtain ⟨tone, _, ht, heq⟩ := c.publish_eq
  obtain ⟨he, hd, hp⟩ := c.posted_view
  have hpos : c.posted.Coherent := h.coherent.perm hp he hd
  rw [heq]
  refine ⟨⟨?_, ?_, ?_, ?_⟩, hpos, ?_⟩
  · exact he ▸ h.joined.streams
  · exact he ▸ h.joined.active
  · show c.posted.session.active ⊆ c.posted.desiredMembers
    exact h.joined.wanted
  · exact he ▸ h.joined.primary
  · intro s hs
    rcases mem_append.mp hs with hb | hn
    · rcases mem_append.mp hb with hold | hc
      · exact h.published s hold
      · rcases ht with rfl | rfl
        · cases hc
        · cases mem_singleton.mp hc
    · cases mem_singleton.mp hn
      exact hpos

theorem Work.inStep (hw : Work mode ports c c')
    (hl : mode.loose = false) (hb : mode.browses = false) :
    InStep c → InStep c' := by
  induction hw with
  | refl => exact id
  | trans _ _ ihab ihbc => exact fun h => ihbc (ihab h)
  | aside same =>
    intro h
    refine h.of_eq (congrArg Core.machines same) (congrArg Core.active same) ?_
      (congrArg Core.out same)
    exact congrArg (fun core => Controller.view core.snapshot) same
  | emit _ plain =>
    refine fun h => h.emits (fun s hs => ?_)
    rw [hs] at plain
    cases plain
  | publish => exact InStep.publish
  | view _ same => exact fun h => h.of_eq rfl rfl same rfl
  | settle => exact fun h => ⟨h.joined.settle, h.coherent, h.published⟩
  | rows _ same => exact fun h => h.joined.showRows h.published same
  | drive _ _ soft =>
    intro h
    refine ⟨⟨fun id => ?_, h.joined.active, h.joined.wanted, h.joined.primary⟩, h.coherent,
      h.published⟩
    rw [drive_soft soft]
    exact h.joined.streams id
  | restart | disarm | alarm => exact fun h => h.of_eq rfl rfl rfl rfl
  | intent =>
    exact fun h => ⟨⟨h.joined.streams, h.joined.active, h.joined.wanted, h.joined.primary⟩,
      ⟨h.coherent.streaming, h.coherent.primary, h.coherent.waiting, h.coherent.wanted,
        h.coherent.distinct⟩, h.published⟩
  | reconcile => exact fun h => h.emits (fun s hs => by cases hs)
  | close c dline =>
    intro h
    have ht : InStep { c with suspended := true, resumeAt := some dline } := h.of_eq rfl rfl rfl rfl
    exact (ht.emits (fun s hs => by cases hs)).emits (fun s hs => by cases hs)
  | wake c =>
    intro h
    have ht : InStep { c with resumeAt := none, suspended := false } := h.of_eq rfl rfl rfl rfl
    exact (ht.emits (fun s hs => by cases hs)).emits (fun s hs => by cases hs)
  | sight _ isBrowse => simp [hb] at isBrowse
  | select c isLoose | move c isLoose | join c isLoose => simp [hl] at isLoose

/-- Work that leaves the session and the selection alone. -/
abbrev strict : Mode := { loose := false, browses := false }

theorem InStep.work {c c' : Controller} (h : InStep c) (hw : Work strict ports c c') : InStep c' :=
  hw.inStep rfl rfl h

theorem InStep.course {c c' : Controller} {ress : List (Nat × Option CommandFailure)}
    (h : InStep c) (hc : Course (strict.scope ports) c ress c') : InStep c' :=
  h.work hc.work

omit [Lowercase] in
theorem inStep_ite {a b : Controller} {p : Prop} [Decidable p] (ha : InStep a) (hb : InStep b) :
    InStep (if p then a else b) := by
  split
  · exact ha
  · exact hb

omit [Lowercase] in
theorem session_of_beq {a b : FullSnapshot} (h : (a == b) = true) : a.session = b.session := by
  cases a
  cases b
  simp only [BEq.beq, instBEqFullSnapshot.beq] at h
  simp_all

/-- Rows rebuilt around a new session view whose members are the machines
that stream. -/
theorem amendRows_inStep {chg : FullSnapshot → FullSnapshot}
    (hb : Published c) (hc : c.snapshot.Coherent)
    (ht : ∀ id, c.streams id = true ↔ id ∈ (chg c.snapshot).session.active)
    (ha : c.active = (chg c.snapshot).session.active)
    (hw : (chg c.snapshot).session.active ⊆ c.snapshot.desiredMembers)
    (hd : (chg c.snapshot).desiredMembers = c.snapshot.desiredMembers)
    (hp : ∀ p, (chg c.snapshot).session.primary = some p →
      p ∈ (chg c.snapshot).session.active) : InStep (c.amendRows chg) := by
  have hs : ∀ id, c.settleMachines.streams id = true ↔ id ∈ (chg c.snapshot).session.active := by
    intro id
    rw [settleMachines_streams (fun id hi => hw ((ht id).mp hi))]
    exact ht id
  have hr := withRows_coherent c.settleMachines_rowed hs hd hp
  unfold amendRows
  dsimp only
  generalize hn : c.settleMachines.withRows (chg c.snapshot) = next at hr
  have he : next.session.active = (chg c.snapshot).session.active ∧
      next.session.primary = (chg c.snapshot).session.primary ∧
      next.desiredMembers = (chg c.snapshot).desiredMembers := by
    rw [← hn]
    exact ⟨rfl, rfl, rfl⟩
  obtain ⟨hnexAct, hnexPri, hnexDes⟩ := he
  rw [← hnexAct] at hs ha hw hp
  rw [← hnexPri] at hp
  unfold maybePublish
  split
  · -- nothing to see, and then the old view has the same members
    rename_i hm
    have hold : next.session = c.snapshot.session := session_of_beq hm
    rw [hold] at hs ha hw hp
    exact ⟨⟨hs, ha, hw, hp⟩, hc, hb⟩
  · have hh : InStep { c.settleMachines with snapshot := next } := by
      refine ⟨⟨hs, ha, ?_, hp⟩, hr, hb⟩
      show next.session.active ⊆ next.desiredMembers
      rw [hnexDes, hd]
      exact hw
    exact hh.publish

/-! ## Session updates -/

section

omit [Lowercase]

theorem drive_stops (hop : ∀ machine, (op machine).1.state.isStreaming = false) (id : ReceiverId) :
    (c.drive recv op).streams id = (decide (id ≠ recv) && c.streams id) := by
  rw [drive_streams, hop]
  by_cases hi : id = recv <;> simp [hi]

theorem waitRetry_not_streaming {machine : ReceiverMachine}
    (h : machine.state.isStreaming = false) (attempt : Nat) (retryAt : Instant) :
    (machine.waitRetry attempt retryAt).1.state.isStreaming = false := by
  unfold waitRetry
  rcases transition_state { machine with attempt, nextRetry := some retryAt }
    (.retryWaiting attempt retryAt) with heq | heq
  · rw [heq]
    exact h
  · rw [heq]
    rfl

theorem noteReceiverFailure_streams (c : Controller) (recv : ReceiverId) (retryable : Bool)
    (err : String) (id : ReceiverId) :
    (c.noteReceiverFailure ports recv retryable err).streams id =
      (decide (id ≠ recv) && c.streams id) := by
  have hs : ∀ id, (c.drive recv (·.fail retryable err)).streams id =
      (decide (id ≠ recv) && c.streams id) := drive_stops (fun _ => rfl)
  unfold noteReceiverFailure
  split
  · rw [drive_streams]
    split
    · rename_i hi
      rw [hi]
      simp only [ne_eq, not_true_eq_false, decide_false, Bool.false_and]
      refine waitRetry_not_streaming ?_ _ _
      rw [settled_streaming]
      exact (hs recv).trans (by simp)
    · exact hs id
  · exact hs id

theorem failures_streams (id : ReceiverId) : ∀ (fails : List MemberFailure) (c : Controller),
    (fails.foldl (fun c fail => c.noteReceiverFailure ports fail.receiver
      fail.retryable (setupFailureError fail)) c).streams id =
        (decide (id ∉ fails.map (·.receiver)) && c.streams id)
  | [], c => by simp
  | fail :: rest, c => by
      rw [foldl_cons, failures_streams id rest, noteReceiverFailure_streams]
      by_cases hi : id = fail.receiver <;> simp [hi]

theorem missing_streams (err : String) (id : ReceiverId) :
    ∀ (ids : List ReceiverId) (c : Controller),
      (ids.foldl (fun c recv => c.noteReceiverFailure ports recv true err) c).streams id
        = (decide (id ∉ ids) && c.streams id)
  | [], c => by simp
  | recv :: rest, c => by
      rw [foldl_cons, missing_streams err id rest, noteReceiverFailure_streams]
      by_cases hi : id = recv <;> simp [hi]

/-- What a loop over the new members makes stream. -/
theorem foldl_enters {role : ReceiverId → ReceiverRole} (id : ReceiverId) :
    ∀ (l : List ReceiverId) (c : Controller),
      (l.foldl (fun c recv => c.drive recv (·.enterStreaming (role recv))) c).streams id
        = (decide (id ∈ l) || c.streams id)
  | [], c => by simp
  | recv :: rest, c => by
      have he : ∀ machine : ReceiverMachine,
          (machine.enterStreaming (role recv)).1.state.isStreaming = true := by
        intro machine
        obtain ⟨_, hs⟩ := (machine.enterStreaming_state (role recv)).2
        rw [hs]
        rfl
      rw [foldl_cons, foldl_enters id rest, drive_streams, he]
      by_cases hi : id = recv <;> simp [hi]

end

/-- The snapshot, the members and what is on its way stay, and nothing is
published. -/
structure Beneath (c c' : Controller) : Prop where
  snapshot : c'.snapshot = c.snapshot
  active : c'.active = c.active
  pending : c'.pendingDesired = c.pendingDesired
  published : Published c → Published c'

section

omit [Lowercase]

theorem Beneath.of_eq (hs : c'.snapshot = c.snapshot)
    (ha : c'.active = c.active) (hp : c'.pendingDesired = c.pendingDesired)
    (ho : c'.out = c.out) : Beneath c c' := by
  refine ⟨hs, ha, hp, ?_⟩
  unfold Published
  rw [ho]
  exact id

theorem Beneath.refl (c : Controller) : Beneath c c := ⟨rfl, rfl, rfl, id⟩

theorem Beneath.trans {a b c : Controller} (ha : Beneath a b) (hb : Beneath b c) : Beneath a c :=
  ⟨hb.snapshot.trans ha.snapshot, hb.active.trans ha.active, hb.pending.trans ha.pending,
    fun h => hb.published (ha.published h)⟩

theorem Beneath.foldl {α : Type} {f : Controller → α → Controller}
    (hf : ∀ c a, Beneath c (f c a)) : ∀ (l : List α) (c : Controller), Beneath c (l.foldl f c)
  | [], c => .refl c
  | a :: rest, c => (hf c a).trans (Beneath.foldl hf rest (f c a))

variable (c)

theorem drive_beneath (recv : ReceiverId)
    (op : ReceiverMachine → ReceiverMachine × Bool) : Beneath c (c.drive recv op) :=
  .of_eq rfl rfl rfl rfl

theorem noteReceiverFailure_beneath (c : Controller) (recv : ReceiverId) (retryable : Bool)
    (err : String) : Beneath c (c.noteReceiverFailure ports recv retryable err) := by
  unfold noteReceiverFailure
  split
  · exact .of_eq rfl rfl rfl rfl
  · exact .of_eq rfl rfl rfl rfl

theorem emit_beneath (hp : ∀ s, e ≠ .publish s) : Beneath c (c.emit e) :=
  ⟨rfl, rfl, rfl, fun h => h.emits hp⟩

theorem forwardEffectiveVolumes_beneath : Beneath c c.forwardEffectiveVolumes ∧
      c.forwardEffectiveVolumes.machines = c.machines := by
  unfold forwardEffectiveVolumes
  generalize sortedIds c.active = ids
  induction ids generalizing c with
  | nil => exact ⟨.refl c, rfl⟩
  | cons recv _ ih =>
    obtain ⟨hb, hm⟩ := ih (c.emit (.request (.setVolume recv (c.effectiveLevel recv))))
    have hn : Beneath c (c.emit (.request (.setVolume recv (c.effectiveLevel recv)))) :=
      emit_beneath c (fun s hs => by cases hs)
    exact ⟨hn.trans hb, hm⟩

theorem settleCalibrationGeneration_beneath (gen : Nat) :
    Beneath c (c.settleCalibrationGeneration gen) ∧
      (c.settleCalibrationGeneration gen).machines = c.machines := by
  unfold settleCalibrationGeneration
  cases c.calibrationPendingGeneration with
  | none => exact ⟨.refl c, rfl⟩
  | some =>
    dsimp only
    split
    · exact ⟨.refl c, rfl⟩
    · have ht : Beneath c { c with calibrationPendingGeneration := none } := .of_eq rfl rfl rfl rfl
      exact ⟨ht.trans (emit_beneath _ (fun s hs => by cases hs)), rfl⟩

theorem noteStreaming_beneath (ids : List ReceiverId) (c : Controller) :
    Beneath c (ids.foldl (fun c recv =>
      { c with retry := c.retry.noteStreaming c.policy ports.now recv }) c) ∧
    ∀ id, (ids.foldl (fun c recv =>
      { c with retry := c.retry.noteStreaming c.policy ports.now recv }) c).streams id =
        c.streams id := by
  induction ids generalizing c with
  | nil => exact ⟨.refl c, fun _ => rfl⟩
  | cons recv _ ih =>
    obtain ⟨hb, hs⟩ := ih { c with retry := c.retry.noteStreaming c.policy ports.now recv }
    have ho : Beneath c { c with retry := c.retry.noteStreaming c.policy ports.now recv } :=
      .of_eq rfl rfl rfl rfl
    exact ⟨ho.trans hb, hs⟩

/-- After a generation came up its members stream, and nobody who failed or
is missing does. -/
theorem joinMembers_spec (c : Controller) (prim : ReceiverId) (mbrs : Finset ReceiverId)
    (fails : List MemberFailure) :
    Beneath c (c.joinMembers ports prim mbrs fails) ∧
      ∀ id, (c.joinMembers ports prim mbrs fails).streams id = (decide (id ∉ c.pendingDesired \
            (c.active ∪ (fails.map (·.receiver)).toFinset)) &&
          (decide (id ∉ fails.map (·.receiver)) && (decide (id ∈ mbrs) || c.streams id))) := by
  unfold joinMembers
  dsimp only
  have he : Beneath c ((sortedIds mbrs).foldl (fun c recv =>
      c.drive recv (·.enterStreaming (roleIn mbrs prim recv))) c) :=
    .foldl (fun c _ => drive_beneath c _ _) _ c
  have hin := fun id => @foldl_enters (roleIn mbrs prim) id (sortedIds mbrs) c
  generalize (sortedIds mbrs).foldl (fun c recv =>
    c.drive recv (·.enterStreaming (roleIn mbrs prim recv))) c = entered at *
  obtain ⟨hn, hk⟩ := @noteStreaming_beneath ports (sortedIds mbrs) entered
  generalize (sortedIds mbrs).foldl (fun c recv =>
    { c with retry := c.retry.noteStreaming c.policy ports.now recv }) entered = noted at *
  have hd : Beneath noted (fails.foldl (fun c fail => c.noteReceiverFailure
      ports fail.receiver fail.retryable (setupFailureError fail)) noted) :=
    .foldl (fun c _ => noteReceiverFailure_beneath c _ _ _) _ _
  have ho := fun id => @failures_streams ports id fails noted
  have hb := (he.trans hn).trans hd
  rw [hb.pending, hb.active]
  refine ⟨hb.trans (.foldl (fun c _ => noteReceiverFailure_beneath c _ _ _) _ _), ?_⟩
  intro id
  rw [missing_streams, ho, hk, hin]
  simp only [mem_sortedIds]

end

/-- The update moves machines and session alike: a generation that starts
takes no member of a live one; one that came up has its primary, members
that are wanted and did not fail, and accounts for the members it replaces;
and the loss of the primary is reported as one. -/
def updateAgrees (c : Controller) : SessionUpdate → Bool
  | .starting _ => decide (Disjoint c.pendingDesired c.active)
  | .active _ primary members partialFailures =>
    let failed := (partialFailures.map (·.receiver)).toFinset
    decide (primary ∈ members) && decide (members ⊆ c.snapshot.desiredMembers)
      && decide (Disjoint members failed)
      && decide (c.active ⊆ members ∪ failed ∪ c.pendingDesired)
  | .memberFailed _ receiver primary _ =>
    primary || decide (c.snapshot.session.primary ≠ some receiver)
  | .memberControlFailed _ _ _ | .recovering _ _ _ | .stopped _ => true

theorem applyStarting_inStep (h : InStep c) (gen : Nat)
    (ha : Disjoint c.pendingDesired c.active) : InStep (c.applyStarting gen) := by
  have hs : ∀ (ids : List ReceiverId) (c : Controller) (id : ReceiverId),
      (ids.foldl (fun c recv => c.drive recv
        (·.beginGeneration gen (c.retry.attempt recv))) c).streams id =
          (decide (id ∉ ids) && c.streams id) := by
    intro ids
    induction ids with
    | nil => simp
    | cons recv _ ih =>
      intro c id
      rw [foldl_cons, ih, drive_stops (fun _ => rfl)]
      by_cases hi : id = recv <;> simp [hi]
  let raised : Controller := { c with sessionGeneration := max c.sessionGeneration gen }
  have hr : Beneath c raised := .of_eq rfl rfl rfl rfl
  unfold applyStarting
  have hg : Beneath raised ((sortedIds c.pendingDesired).foldl (fun c recv =>
      c.drive recv (·.beginGeneration gen (c.retry.attempt recv))) raised) :=
    .foldl (fun c _ => drive_beneath c _ _) _ _
  have ht := hs (sortedIds c.pendingDesired) raised
  have hb := hr.trans hg
  have hj := h.joined
  apply amendRows_inStep
  · exact hb.published h.published
  · rw [hb.snapshot]
    exact h.coherent
  · intro id
    rw [ht, hb.snapshot]
    simp only [mem_sortedIds, Bool.and_eq_true, decide_eq_true_eq]
    have hi : raised.streams id = true ↔ id ∈ c.snapshot.session.active := hj.streams id
    rw [hi]
    refine ⟨fun hbt => hbt.2, fun hm => ⟨fun hp => ?_, hm⟩⟩
    exact Finset.disjoint_left.mp ha hp (hj.active ▸ hm)
  · rw [hb.active, hb.snapshot]
    exact hj.active
  · rw [hb.snapshot]
    exact hj.wanted
  · rfl
  · rw [hb.snapshot]
    exact hj.primary

theorem applyActive_inStep (h : InStep c) (gen : Nat)
    (primary : ReceiverId) (mbrs : Finset ReceiverId) (fails : List MemberFailure)
    (hr : primary ∈ mbrs) (hw : mbrs ⊆ c.snapshot.desiredMembers)
    (hl : Disjoint mbrs (fails.map (·.receiver)).toFinset)
    (hlf : c.active ⊆ mbrs ∪ (fails.map (·.receiver)).toFinset ∪ c.pendingDesired) :
    InStep (c.applyActive ports gen primary mbrs fails) := by
  let taken : Controller := { c with primary := some primary, active := mbrs }
  obtain ⟨hf, hsm⟩ := taken.forwardEffectiveVolumes_beneath
  obtain ⟨hs, hs'⟩ := taken.forwardEffectiveVolumes.settleCalibrationGeneration_beneath gen
  unfold applyActive
  dsimp only
  generalize taken.forwardEffectiveVolumes.settleCalibrationGeneration gen = settled at *
  obtain ⟨hj, hsr⟩ := @joinMembers_spec ports settled primary mbrs fails
  generalize settled.joinMembers ports primary mbrs fails = joined at *
  have hb := (hf.trans hs).trans hj
  have he := hf.trans hs
  have hold : ∀ id, settled.streams id = true ↔ id ∈ c.snapshot.session.active := by
    intro id
    unfold streams
    rw [hs', hsm]
    exact h.joined.streams id
  have hn : joined.snapshot = c.snapshot := hb.snapshot
  apply amendRows_inStep
  · exact hb.published h.published
  · rw [hn]
    exact h.coherent
  · intro id
    have hpe : settled.pendingDesired = c.pendingDesired := he.pending
    have ha : settled.active = mbrs := he.active
    rw [hsr, hpe, ha]
    simp only [Bool.and_eq_true, Bool.or_eq_true, decide_eq_true_eq]
    rw [hold]
    show _ ↔ id ∈ mbrs
    constructor
    · -- somebody the generation replaces has failed or is missing
      rintro ⟨hi, ht, hm | hm⟩
      · exact hm
      · have hc := hlf (h.joined.active ▸ hm)
        simp only [Finset.mem_union, Finset.mem_sdiff, mem_toFinset, not_and, not_not] at hc hi
        rcases hc with (hin | ho) | hwt
        · exact hin
        · exact absurd ho ht
        · exact (hi hwt).resolve_right ht
    · intro hm
      refine ⟨?_, ?_, .inl hm⟩
      · simp [hm]
      · exact fun ht => Finset.disjoint_left.mp hl hm (mem_toFinset.mpr ht)
  · exact hb.active
  · rw [hn]
    exact hw
  · rfl
  · intro p hp
    cases hp
    exact hr

theorem applyMemberFailed_inStep (h : InStep c) (gen : Nat)
    (recv : ReceiverId) (primary : Bool) (err : String)
    (hg : primary = true ∨ c.snapshot.session.primary ≠ some recv) :
    InStep (c.applyMemberFailed ports gen recv primary err) := by
  let left : Controller := { c with
    active := c.active.erase recv
    primary := if primary ∧ c.primary = some recv then none else c.primary }
  have ht := fun id => @noteReceiverFailure_streams ports left recv true err id
  have hb := @noteReceiverFailure_beneath ports left recv true err
  unfold applyMemberFailed
  dsimp only
  generalize left.noteReceiverFailure ports recv true err = failed at *
  have hs : failed.snapshot = c.snapshot := hb.snapshot
  have ha : failed.active = c.snapshot.session.active.erase recv :=
    hb.active.trans (by rw [← h.joined.active])
  have hr : InStep (failed.amendRows (fun next => { next with session := { next.session with
      phase := derivePhase next.desiredMembers failed.active next.runIntent gen
      active := failed.active
      failed := insert recv next.session.failed
      primary := if primary then none else next.session.primary } })) := by
    apply amendRows_inStep
    · exact hb.published h.published
    · rw [hs]
      exact h.coherent
    · intro id
      rw [ht]
      show _ ↔ id ∈ failed.active
      have hi : left.streams id = true ↔ id ∈ c.snapshot.session.active := h.joined.streams id
      simp [ha, hi]
    · rfl
    · show failed.active ⊆ failed.snapshot.desiredMembers
      rw [ha, hs]
      exact (Finset.erase_subset _ _).trans h.joined.wanted
    · rfl
    · intro p hp
      show p ∈ failed.active
      rw [hs] at hp
      split at hp
      · cases hp
      · rename_i hc
        rw [ha]
        refine Finset.mem_erase.mpr ⟨fun heq => ?_, h.joined.primary p hp⟩
        rw [heq] at hp
        exact (hg.resolve_left hc) hp
  have he : ∀ {c : Controller}, InStep c →
      InStep ((c.noteRestart ports.now).requestReconcile .primaryFailure) :=
    fun h => @InStep.course _ ports _ _ _ h
      ((Course.restart _ rfl rfl).quiet (requestReconcile_course rfl rfl _ _))
  exact inStep_ite (he hr) hr

theorem applyStopped_inStep (h : InStep c) : InStep c.applyStopped := by
  have hl : ∀ machine : ReceiverMachine, machine.leaveSession.state.isStreaming = false := by
    intro machine
    have ho := machine.leaveSession_not_owned
    cases hs : machine.leaveSession.state <;>
      simp_all [Lifecycle.isStreaming, Lifecycle.ownedByGeneration]
  apply amendRows_inStep
  · exact h.published
  · exact h.coherent
  · intro id
    have hn : ({ c with
        active := ∅
        primary := none
        machines := c.machines.mapValues (fun _ machine => machine.leaveSession) } :
          Controller).streams id = false := by
      unfold streams
      rw [SortedMap.get_mapValues]
      cases c.machines.get id with
      | none => rfl
      | some machine => exact hl machine
    rw [hn]
    simp
  · rfl
  · exact Finset.empty_subset _
  · rfl
  · intro p hp
    cases hp

theorem applySessionUpdate_inStep (h : InStep c) {upd : SessionUpdate}
    (ha : c.updateAgrees upd = true) : InStep (c.applySessionUpdate ports upd) := by
  cases upd with
  | starting gen => exact applyStarting_inStep h gen (by simpa [updateAgrees] using ha)
  | active gen prim mbrs fails =>
    simp only [updateAgrees, Bool.and_eq_true, decide_eq_true_eq] at ha
    obtain ⟨⟨⟨hp, hw⟩, hf⟩, hl⟩ := ha
    exact applyActive_inStep h gen prim mbrs fails hp hw hf hl
  | memberControlFailed => exact h
  | memberFailed gen recv prim err =>
    refine applyMemberFailed_inStep h gen recv prim err ?_
    simpa [updateAgrees] using ha
  | recovering gen rsn =>
    exact @InStep.course _ ports _ _ _ h (applyRecovering_course rfl rfl rfl c gen rsn)
  | stopped => exact applyStopped_inStep h

/-! ## Browse events -/

omit [Lowercase] in
theorem soft_setServiceAvailable (available : Bool) : Soft (·.setServiceAvailable available) := by
  intro machine
  unfold setServiceAvailable
  cases available <;> cases hc : machine.state <;>
    simp [transition, hc, Lifecycle.permitted, Lifecycle.isStreaming, Lifecycle.ownedByGeneration]

theorem syncOne_inStep (h : InStep c) (now : Instant) (id : ReceiverId) :
    InStep (c.syncOne now id) := by
  have hn : ∀ rejoin, InStep { c with rejoin } := fun _ => h.of_eq rfl rfl rfl rfl
  refine inStep_ite (hn _) ?_
  exact @InStep.work _ {} _ _ (hn _) (.drive _ id (soft_setServiceAvailable _))

theorem refreshReceivers_inStep (h : InStep c) (now : Instant) :
    InStep (c.refreshReceivers now) := by
  have hs : ∀ (ids : List ReceiverId) (c : Controller), InStep c →
      InStep (ids.foldl (syncOne now) c) := by
    intro ids
    induction ids with
    | nil => exact fun _ h => h
    | cons id _ ih => exact fun c h => ih _ (syncOne_inStep h now id)
  have ht : InStep c.settleMachines := @InStep.work _ {} _ _ h (.settle c)
  exact @InStep.course _ {} _ _ _ (hs _ _ ht) (republishRows_course rfl _)

/-! ## Commands -/

/-- The transaction goes through and changes the document. -/
def takes (c : Controller) (ports : Ports) (id : Nat) (commit : DurableCommit) : Bool :=
  commit.mutatePersisted.any (fun mutate =>
    (mutate c.persisted).validate.isOk && mutate c.persisted != c.persisted && ports.saves id)

/-- Nobody in the session is dropped from the selection. -/
def keepsMembers (ports : Ports) (c : Controller) (envelope : ControllerEnvelope) : Bool :=
  match envelope.command with
  | .setDesiredMembers members | .applyDesiredMembers members =>
    !c.takes ports envelope.id (Batch.membersCommit members) || decide (c.active ⊆ members)
  | .activateSavedGroup groupId _ =>
    (c.persisted.savedGroups.find? (fun group => group.id = groupId)).all (fun group =>
      !c.takes ports envelope.id (Batch.activationCommit c.persisted group)
        || decide (c.active ⊆ (group.members.map (·.receiver)).toFinset))
  | _ => true

omit [Lowercase] in
/-- A new selection that has every member of the session. -/
theorem adoptDocument_inStep (h : InStep c) {commit : DurableCommit}
    (cand : PersistedState) (hr : commit.refreshRows = true)
    (he : ∀ s, (commit.announce s).session = s.session)
    (hw : ∀ s, c.active ⊆ (commit.announce s).desiredMembers) :
    InStep (c.adoptDocument commit cand) := by
  let announced := commit.announce { c.snapshot with receiverLevels := cand.receiverLevels }
  let stored : Controller := { c with
    persisted := cand
    snapshot := announced }
  have hv : announced.session = c.snapshot.session := he _
  have hj : Joined stored := by
    refine ⟨?_, ?_, ?_, ?_⟩
    · exact hv ▸ h.joined.streams
    · exact hv ▸ h.joined.active
    · show announced.session.active ⊆ announced.desiredMembers
      rw [hv, ← h.joined.active]
      exact hw _
    · exact hv ▸ h.joined.primary
  have hs : InStep (stored.showRows announced) := hj.showRows h.published rfl
  have hn : ∀ names, InStep { stored.showRows announced with savedNames := names } :=
    fun _ => hs.of_eq rfl rfl rfl rfl
  unfold adoptDocument
  rw [hr]
  exact inStep_ite (hn _) hs

theorem commitDurable_inStep {c : Controller} (h : InStep c) (id : Nat) {commit : DurableCommit}
    (hr : commit.refreshRows = true)
    (hs : ∀ s, (commit.announce s).session = s.session)
    (hw : c.takes ports id commit = true → ∀ s, c.active ⊆ (commit.announce s).desiredMembers) :
    InStep (c.commitDurable ports id commit).1 := by
  have hd : ∀ {c : Controller}, InStep c → InStep (c.complete id) :=
    fun h => @InStep.course _ ports _ _ _ h (complete_course _ id)
  unfold takes at hw
  unfold commitDurable
  cases hm : commit.mutatePersisted with
  | none => exact hd h
  | some mutate =>
    rw [hm] at hw
    dsimp only
    cases hv : (mutate c.persisted).validate with
    | error => exact @InStep.course _ ports _ _ _ h (fail_course _ _ _)
    | ok u =>
      dsimp only
      split
      · exact hd h
      · rename_i hf
        have hi : InStep (c.attemptSave ports id (.document (mutate c.persisted))) :=
          h.of_eq rfl rfl rfl rfl
        split
        · rename_i ha
          refine (hd (adoptDocument_inStep hi _ hr hs (hw ?_))).publish
          have hn : (mutate c.persisted != c.persisted) = true := by
            unfold bne
            rw [Bool.eq_false_iff.mpr hf]
            rfl
          simp [hv, Except.isOk, Except.toBool, hn, ha]
        · exact (@InStep.course _ ports _ _ _ hi (.refuse _ id)).publish

namespace Batch

section

variable {b : Batch} (h : InStep b.actor)
include h

theorem applyMembers_inStep (id : Nat) {mbrs : Finset ReceiverId}
    (hk : b.actor.takes ports id (membersCommit mbrs) = true → b.actor.active ⊆ mbrs) :
    InStep (b.applyMembers ports id mbrs).actor := by
  rw [applyMembers_actor]
  refine inStep_ite ?_ (@InStep.course _ ports _ _ _ h (complete_course _ id))
  exact commitDurable_inStep h id rfl (fun _ => rfl) (fun ht _ => hk ht)

theorem activateSavedGroup_inStep (id : Nat) (gid : GroupId) (start : Bool)
    (hk : ∀ group, b.actor.persisted.savedGroups.find? (fun group => group.id = gid) =
      some group → b.actor.takes ports id (activationCommit b.actor.persisted group) = true →
        b.actor.active ⊆ (group.members.map (·.receiver)).toFinset) :
    InStep (b.activateSavedGroup ports id gid start).actor := by
  unfold activateSavedGroup handleActivateGroup
  split
  · exact @InStep.course _ ports _ _ _ h (fail_course _ _ _)
  · rename_i group hg
    have hc := @commitDurable_inStep _ ports _ h id (activationCommit b.actor.persisted group)
      rfl (fun _ => rfl) (fun ht _ => hk group hg ht)
    exact @InStep.course _ ports _ _ _ hc (finishActivation_course rfl rfl _ _)

theorem execute_inStep {e : ControllerEnvelope}
    (hk : keepsMembers ports b.actor e = true) : InStep (b.execute ports e).actor := by
  by_cases hs : selects e.command = false
  · exact h.work (execute_work b e (.inr hs))
  · rw [execute_eq]
    refine @InStep.course _ ports _ _ _ ?_ (confirm_course rfl _ e)
    obtain ⟨id, cmd, _⟩ := e
    unfold keepsMembers at hk
    cases cmd with
    | setDesiredMembers mbrs | applyDesiredMembers mbrs =>
      refine applyMembers_inStep h id (fun ht => ?_)
      simpa [ht] using hk
    | activateSavedGroup gid start =>
      refine activateSavedGroup_inStep h id gid start (fun group hg ht => ?_)
      simpa [hg, ht] using hk
    | _ => exact absurd rfl hs

end

end Batch

/-- Every command of a batch keeps the members, in the state it finds. -/
def keepsAll (ports : Ports) : Batch → List ControllerEnvelope → Bool
  | _, [] => true
  | b, e :: rest =>
    (b.shutdown || keepsMembers ports b.actor e) && keepsAll ports (b.next ports e) rest

theorem foldl_inStep : ∀ (envs : List ControllerEnvelope) {b : Batch},
    keepsAll ports b envs = true → InStep b.actor → InStep (envs.foldl (Batch.next ports) b).actor
  | [], _, _, h => h
  | e :: rest, b, hk, h => by
      simp only [keepsAll, Bool.and_eq_true, Bool.or_eq_true] at hk
      refine foldl_inStep rest hk.2 ?_
      unfold Batch.next
      split
      · exact h
      · rename_i hop
        exact Batch.execute_inStep h (hk.1.resolve_left hop)

/-! ## Runs -/

/-- The pass takes nobody out of the selection who is in the session, and
its update moves machines and session alike. -/
def agrees (c : Controller) (input : Ports × Event) : Bool :=
  match input.2 with
  | .batch envelopes => keepsAll input.1 { actor := c } (PendingBatch.ofList envelopes).order
  | .session update => c.updateAgrees update
  | _ => true

variable {inp : Ports × Event}

theorem handle_inStep (h : InStep c)
    (ha : c.agrees inp = true) : InStep (c.handle inp.1 inp.2) := by
  obtain ⟨ports, ev⟩ := inp
  have hs : ∀ ev, browses ev = false → isStrict ev = true →
      InStep (c.handle ports ev) := fun ev hb hisStr =>
    @InStep.work _ ports _ _ h (handle_work c (.inr hb) (.inr hisStr) (.inl rfl))
  cases ev with
  | batch =>
    exact @InStep.course _ ports _ _ _ (foldl_inStep _ ha h) (Batch.settle_course rfl rfl rfl _)
  | session => exact applySessionUpdate_inStep h ha
  | discovery upd =>
    cases upd with
    | receiver _ ev =>
      have hh : InStep { c with inventory := noteBrowse c.inventory ev } := h.of_eq rfl rfl rfl rfl
      exact inStep_ite h (refreshReceivers_inStep hh ports.now)
    | started | failed => exact hs _ rfl rfl
  | capture | captureTelemetry | endpoints | system | resumeSettled | retryDue | autoConnectDue =>
    exact hs _ rfl rfl

/-- The rows of an actor without a session, in the order of a publication. -/
theorem idle_inStep (hm : c.machines = .empty) (ha : c.active = ∅)
    (he : c.snapshot.session = {}) (ho : c.out = []) :
    InStep { c.settleMachines with
      snapshot := (c.settleMachines.withRows c.snapshot).sortForPublication } := by
  have hj : Joined c := by
    refine ⟨fun id => ?_, ?_, ?_, ?_⟩
    · unfold streams
      rw [hm, he]
      exact iff_of_false Bool.false_ne_true (Finset.notMem_empty id)
    · rw [ha, he]
    · rw [he]
      exact Finset.empty_subset _
    · rw [he]
      exact fun p hp => by cases hp
  have hb : Published c := by
    intro s hs
    rw [ho] at hs
    cases hs
  have hh : InStep (c.showRows c.snapshot) := hj.showRows hb rfl
  exact ⟨⟨hh.joined.streams, hh.joined.active, hh.joined.wanted,
    hh.joined.primary⟩, hh.coherent.perm (perm_insertionSort _ _) rfl rfl,
    hh.published⟩

theorem start_inStep (loaded : LoadedState) (cal : CalibrationProfile)
    (now : Instant) : InStep (start loaded cal now) := by
  exact idle_inStep rfl rfl rfl rfl

/-- The actor between two passes. -/
def Rests (c : Controller) : Prop := InStep c ∧ c.out = []

/-- A pass that agrees comes to rest and publishes coherent snapshots. -/
theorem step_rests (h : Rests c) (hg : c.agrees inp = true) :
    Rests (c.step inp).1 ∧ ∀ s, Emission.publish s ∈ (c.step inp).2 → s.Coherent := by
  have hc : c.cleared = c := by
    obtain ⟨-, ho⟩ := h
    unfold cleared
    rw [← ho]
  rcases c.step_work inp with ⟨-, ht⟩ | ⟨-, after, ha, -, ht⟩
  · rw [ht]
    exact ⟨h, fun s hs => absurd hs not_mem_nil⟩
  · rw [hc] at ha
    have hin : InStep after := ha ▸ handle_inStep h.1 hg
    rw [ht]
    refine ⟨⟨⟨hin.joined.of_eq rfl rfl rfl, hin.coherent, ?_⟩, rfl⟩, hin.published⟩
    exact fun s hs => absurd hs not_mem_nil

/-- In a run that takes nobody of the session out of the selection, and
whose updates move machines and session alike, rows and session agree in
every snapshot that is published. -/
theorem published_snapshots_coherent (loaded : LoadedState) (calibration : CalibrationProfile)
    (now : Instant) (inputs : List (Ports × Event))
    (hagrees : Mealy.Along step (fun c input => c.agrees input = true)
      (start loaded calibration now) inputs) :
    (start loaded calibration now).snapshot.Coherent ∧
      ∀ out ∈ Mealy.outputs step (start loaded calibration now) inputs,
        ∀ s, Emission.publish s ∈ out → s.Coherent := by
  have hs := start_inStep loaded calibration now
  have hr : Rests (start loaded calibration now) := ⟨hs, rfl⟩
  have hn := @Mealy.trace_induction_along _ _ _ step
    (fun turns c => Rests c ∧ ∀ t ∈ turns, ∀ s, Emission.publish s ∈ t.output → s.Coherent)
    (fun _ c input => c.agrees input = true) (start loaded calibration now)
    ⟨hr, fun t ht => absurd ht not_mem_nil⟩
    (fun turns c input ho h => by
      obtain ⟨hx, hsn⟩ := step_rests h.1 ho
      refine ⟨hx, fun t ht => ?_⟩
      rcases mem_append.mp ht with hold | hw
      · exact h.2 t hold
      · rw [mem_singleton.mp hw]
        exact hsn)
    inputs (fun pre i hb => (Mealy.along_iff_forall_start inputs).mp hagrees pre i hb)
  refine ⟨hs.coherent, fun out hu => ?_⟩
  obtain ⟨t, ht, rfl⟩ := mem_map.mp hu
  exact hn.2 t ht

/-! ## A session -/

def office : Device := ⟨⟨1⟩, "office", "", true, true⟩

/-- A receiver is seen, selected and started, and its session comes up. -/
def broughtUp : List (Ports × Event) :=
  [(({} : Ports), .discovery (.receiver 0 (.added office))),
   ({}, .batch [{ id := 1, command := .setDesiredMembers {office.id} },
     { id := 2, command := .setRunIntent .running }]),
   ({}, .session (.starting 1)),
   ({}, .session (.active 1 office.id {office.id} []))]

omit [Lowercase] in
theorem published_snapshots_coherent_broughtUp :
    letI := asciiLowercase
    let launched := start LoadedState.defaults {} 0
    launched.snapshot.Coherent ∧ ∀ out ∈ Mealy.outputs step launched broughtUp,
      ∀ s, Emission.publish s ∈ out → s.Coherent := by
  let := asciiLowercase
  exact published_snapshots_coherent LoadedState.defaults {} 0 broughtUp (by decide)

/-- The receiver is taken out of the selection while it plays. -/
def deselected : List (Ports × Event) :=
  broughtUp ++ [(({} : Ports), .batch [{ id := 3, command := .setDesiredMembers ∅ }])]

omit [Lowercase] in
/-- Its row is released at once and the session still has it. -/
theorem deselected_member_is_published_active :
    letI := asciiLowercase
    ∃ s, (∃ out ∈ Mealy.outputs step (start LoadedState.defaults {} 0) deselected,
      Emission.publish s ∈ out) ∧ ¬ s.Coherent := by
  let := asciiLowercase
  have hh : ∃ s ∈ ((Mealy.outputs step (start LoadedState.defaults {} 0)
      deselected).flatten.filterMap publicationOf),
      ∃ row ∈ s.receivers, row.id ∈ s.session.active ∧ row.lifecycle.isStreaming = false := by
    decide
  obtain ⟨s, hs, row, hr, ha, hi⟩ := hh
  obtain ⟨em, he, heq⟩ := mem_filterMap.mp hs
  obtain ⟨out, ho, hmem⟩ := mem_flatten.mp he
  refine ⟨s, ⟨out, ho, ?_⟩, fun hc => ?_⟩
  · cases em <;> cases heq
    exact hmem
  · exact absurd ((hc.streaming row hr).mpr ha) (by simp [hi])

end Controller

end OpenAirCast.Backend
