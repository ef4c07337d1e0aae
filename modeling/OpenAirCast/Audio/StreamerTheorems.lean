/-
Audio.StreamerTheorems — every PT=87 packet is stamped from one
clock generation.

`Coherent` says that the fields of the clock are those of the state consumed
last; every setter keeps it once there is a subscription. `Streamed` adds what
the run so far says about the senders and the anchor: a sender has built its
first sync packet exactly if it has given one since its last reset, and the
anchor is the one of the previous frame of this generation
(`step_streamed`). What is in the packets is then read off the plan of the
frame (`prepareStreamFrame_ok`).
-/
import OpenAirCast.Audio.FrameTheorems
import OpenAirCast.Audio.Streamer

namespace OpenAirCast.Audio

open Timing List StreamerInner Option Mealy FramePlan Streaming

variable {input : FrameInput}

/-- A PT=87 packet. -/
def ptpSyncBytes (first : UInt8) (sequence : BitVec 16) (rtpTimestamp : BitVec 32) (timeNs : Nat)
    (nextRtpTimestamp : BitVec 32) (masterClockId : BitVec 64) : Bytes :=
  [first, 0xD7] ++ beBytes sequence ++ beBytes rtpTimestamp
    ++ beBytes (RtpSender.ptpSeconds timeNs) ++ beBytes (RtpSender.ptpFraction timeNs)
    ++ beBytes nextRtpTimestamp ++ beBytes masterClockId

variable {κ : Type}

/-! ## Consuming a clock state -/

namespace StreamerInner

/-- With a subscription, the fields of the clock are those of the state
consumed last. -/
structure Coherent (inner : StreamerInner κ) : Prop where
  ptp : inner.usePtpSync = true
  subscribed : inner.ptpClockRx.isSome = true
  offset : inner.clockOffset = inner.ptpClockState.map (·.offset)
  clockId : inner.ptpMasterClockId = inner.identity.getD 0

theorem clockStateChanged_iff (curr next : Option PtpClockState) :
    clockStateChanged curr next = true ↔ curr ≠ next := by
  cases curr with
  | none => cases next <;> simp [clockStateChanged]
  | some curr =>
    cases next with
    | none => simp [clockStateChanged]
    | some next =>
      obtain ⟨_, _, _, _⟩ := curr
      obtain ⟨_, _, _, _⟩ := next
      simp only [clockStateChanged, Bool.or_eq_true, bne_iff_ne, ne_eq, Option.some.injEq,
        PtpClockState.mk.injEq, ClockOffset.mk.injEq]
      tauto

/-- What a change of the consumed state does to the senders and the anchor. -/
structure Consumed (inner after : StreamerInner κ) : Prop where
  same : after.identity = inner.identity →
    after.rtpSenders = inner.rtpSenders ∧ after.lastMasterAnchorNs = inner.lastMasterAnchorNs
  changed : after.identity ≠ inner.identity →
    after.rtpSenders = inner.rtpSenders.map RtpSender.resetSyncState

variable (inner : StreamerInner κ)

theorem installPtpClockState_spec (state : Option PtpClockState) :
    Consumed inner (inner.installPtpClockState state) ∧
      (inner.installPtpClockState state).ptpClockState = state ∧
      (inner.installPtpClockState state).clockOffset = state.map (·.offset) ∧
      (inner.installPtpClockState state).ptpMasterClockId
        = (state.map (·.masterClockId)).getD 0 := by
  unfold installPtpClockState
  dsimp only
  split
  · rename_i hc
    refine ⟨⟨fun hs => absurd hs.symm hc, fun _ => rfl⟩, rfl, rfl, rfl⟩
  · rename_i hs
    exact ⟨⟨fun _ => ⟨rfl, rfl⟩, fun hne => absurd (fun h => hne h.symm) hs⟩, rfl, rfl, rfl⟩

theorem consume_frame : inner.consumePtpClockUpdates.ptpClockRx = inner.ptpClockRx ∧
    inner.consumePtpClockUpdates.usePtpSync = inner.usePtpSync ∧
    inner.consumePtpClockUpdates.sampleRate = inner.sampleRate ∧
    inner.consumePtpClockUpdates.renderDelayNs = inner.renderDelayNs ∧
    inner.consumePtpClockUpdates.targetPresentationDelaysNs = inner.targetPresentationDelaysNs := by
  unfold consumePtpClockUpdates
  split
  · exact ⟨rfl, rfl, rfl, rfl, rfl⟩
  · split
    · unfold installPtpClockState
      dsimp only
      split <;> exact ⟨rfl, rfl, rfl, rfl, rfl⟩
    · exact ⟨rfl, rfl, rfl, rfl, rfl⟩

/-- Consuming shows the published state in all fields of the clock. -/
theorem consume_spec {inner : StreamerInner κ} (h : Coherent inner) :
    Coherent inner.consumePtpClockUpdates ∧ Consumed inner inner.consumePtpClockUpdates ∧
      inner.ptpClockRx = some inner.consumePtpClockUpdates.ptpClockState := by
  obtain ⟨hr, hp, -, -, -⟩ := consume_frame inner
  obtain ⟨latest, hl⟩ := isSome_iff_exists.mp h.subscribed
  have hs : inner.consumePtpClockUpdates.ptpClockRx.isSome = true := by
    rw [hr]
    exact h.subscribed
  have hp' : inner.consumePtpClockUpdates.usePtpSync = true := hp.trans h.ptp
  unfold consumePtpClockUpdates at hs hp' ⊢
  rw [hl] at hs hp' ⊢
  dsimp only at hs hp' ⊢
  by_cases hc : clockStateChanged inner.ptpClockState latest = true
  · rw [if_pos hc] at hs hp' ⊢
    obtain ⟨hn, ht, ho, hi⟩ := installPtpClockState_spec inner latest
    refine ⟨⟨hp', hs, ?_, ?_⟩, hn, ?_⟩
    · rw [ho, ht]
    · rw [hi, identity, ht]
    · rw [ht]
  · rw [if_neg hc]
    have hm : inner.ptpClockState = latest :=
      Decidable.not_not.mp ((clockStateChanged_iff _ _).not.mp hc)
    exact ⟨h, ⟨fun _ => ⟨rfl, rfl⟩, fun hne => absurd rfl hne⟩, by rw [hm]⟩

end StreamerInner

/-! ## Preparing a frame -/

namespace FramePlan

variable {plan : FramePlan}

theorem syncFor_ptp (ht : plan.usePtpSync = true) (s : RtpSender κ) (time : Nat) :
    plan.syncFor s time = if s.takesSync then
      (s.noteSync, some (ptpSyncBytes s.syncFirstByte s.syncSequence plan.rtpTimestamp time
        plan.nextRtpTimestamp plan.ptpMasterClockId))
    else (s, none) := by
  unfold syncFor RtpSender.preparePtpSync RtpSender.takesSync
  rw [if_pos ht]
  by_cases hp : s.controlTarget.port = 0
  · simp [hp]
  · rw [if_neg hp, if_pos (by simpa using hp)]
    simp [ptpSyncBytes]

/-- A presentation time that can be lies after the reference. -/
theorem reference_lt_due {dly : Nat}
    (h : plan.unpresentable dly = false) : plan.referenceMasterTimeNs < plan.due dly := by
  unfold unpresentable at h
  cases ht : plan.presentation dly with
  | error =>
    rw [ht] at h
    cases h
  | ok time =>
    rw [← presentation_eq ht]
    unfold presentation checkedPresentationTimeNs at ht
    split at ht
    · cases ht
    · split at ht
      · cases ht
      · rename_i hl
        cases ht
        exact Nat.lt_of_not_le hl

/-- What a frame does for one target. -/
structure Serves (plan : FramePlan) (frame : PreparedFrame) (i : Nat) (sender after : RtpSender κ)
    (delay : Nat) : Prop where
  mark : after.firstSyncSent = (sender.firstSyncSent || (plan.syncDue && sender.takesSync))
  gives : (∃ packet, frame.syncPackets[i]? = some (some packet)) ↔
    plan.syncDue = true ∧ sender.takesSync = true
  packet : ∀ packet, frame.syncPackets[i]? = some (some packet) →
    packet = ptpSyncBytes sender.syncFirstByte sender.syncSequence plan.rtpTimestamp
      (plan.due delay) plan.nextRtpTimestamp plan.ptpMasterClockId ∧
    plan.referenceMasterTimeNs < plan.due delay

theorem noted_firstSyncSent (plan : FramePlan) (s : RtpSender κ) :
    (plan.noted s).firstSyncSent = (s.firstSyncSent || (plan.syncDue && s.takesSync)) := by
  unfold noted
  split
  · rename_i h
    rw [h, Bool.or_true]
    rfl
  · rename_i h
    rw [Bool.eq_false_iff.mpr h, Bool.or_false]

variable {sndrs : List (RtpSender κ)} {dlys times : List Nat}

theorem syncPacket_at (hp : plan.usePtpSync = true) {i dly : Nat}
    {sndr : RtpSender κ} (hs : sndrs[i]? = some sndr) (hl : dlys[i]? = some dly)
    (ht : plan.syncDue = true → times = dlys.map plan.due) :
    ((plan.syncAll sndrs times).map (·.2))[i]? = some (if plan.syncDue && sndr.takesSync then
        some (ptpSyncBytes sndr.syncFirstByte sndr.syncSequence plan.rtpTimestamp
          (plan.due dly) plan.nextRtpTimestamp plan.ptpMasterClockId)
      else none) := by
  unfold syncAll
  by_cases hd : plan.syncDue = true
  · rw [if_pos hd, ht hd, getElem?_map, getElem?_zipWith, hs, getElem?_map, hl]
    dsimp only [map_some]
    rw [syncFor_ptp hp, hd, Bool.true_and]
    split <;> rfl
  · rw [if_neg hd, getElem?_map, getElem?_map, hs, Bool.eq_false_iff.mpr hd]
    rfl

variable [PacketCipher κ]

/-- A prepared frame serves every target. -/
theorem prepare_serves (hpt : plan.usePtpSync = true)
    {after : List (RtpSender κ)} {frame : PreparedFrame}
    (h : prepareFrameForTargets sndrs dlys plan = (after, .ok frame)) :
    after.length = sndrs.length ∧ frame.syncPackets.length = sndrs.length ∧
    ∀ (i : Nat) (sndr : RtpSender κ), sndrs[i]? = some sndr →
      ∃ sender' dly, after[i]? = some sender' ∧ dlys[i]? = some dly ∧
        plan.Serves frame i sndr sender' dly := by
  rcases plan.outcomes sndrs dlys with
    hw | ⟨hp, hc⟩ | ⟨hp, front, s, back, rfl, hf, hfl⟩
  · obtain ⟨err, hpr⟩ := prepare_of_turnsDown hw
    rw [hpr] at h
    cases h
  · obtain ⟨times, frame', ht, hpr, -, hy⟩ := prepare_ok hp hc
    rw [hpr] at h
    cases h
    have hlen : sndrs.length = dlys.length := Decidable.not_not.mp (fun hne => hp (.inl hne))
    have hm : plan.syncDue = true → times.length = sndrs.length := fun hd => by
      rw [ht hd, length_map, hlen]
    have ho := plan.syncAll_senders hm
    have hcn : frame.syncPackets.length = sndrs.length := by
      have hl := congrArg List.length ho
      rw [length_map, length_map] at hl
      rw [hy, length_map, hl]
    refine ⟨length_map _, hcn, fun i sndr hs => ?_⟩
    have hi : i < dlys.length := by
      rw [← hlen]
      exact (List.getElem?_eq_some_iff.mp hs).1
    have hdl : dlys[i]? = some dlys[i] := getElem?_eq_getElem hi
    have hh := (cipherFails_noted plan sndr).trans (hc sndr (mem_of_getElem? hs))
    obtain ⟨ciph, body, wire, -, hr⟩ := audioFor_ok hh
    have hk := syncPacket_at hpt hs hdl ht
    rw [← hy] at hk
    refine ⟨(plan.audioFor (plan.noted sndr)).1, dlys[i], ?_, hdl, ?_, ?_, ?_⟩
    · rw [getElem?_map, hs]
      rfl
    · rw [hr]
      exact noted_firstSyncSent plan sndr
    · rw [hk]
      cases plan.syncDue <;> cases sndr.takesSync <;> simp
    · intro packet hg
      rw [hk] at hg
      split at hg
      · rename_i hd
        cases hg
        refine ⟨rfl, reference_lt_due ?_⟩
        have hnn : ¬ plan.unpresentable dlys[i] = true := fun hn =>
          hp (.inr ⟨(Bool.and_eq_true_iff.mp hd).1, dlys[i], getElem_mem hi, hn⟩)
        exact Bool.eq_false_iff.mpr hnn
      · cases hg
  · obtain ⟨_, hpr⟩ := prepare_failed hp hf hfl
    rw [hpr] at h
    cases h

theorem presentationTime_keeps {idx : Nat} {src : PresentationTimeError}
    (h : (prepareFrameForTargets sndrs dlys plan).2 = .error (.presentationTime idx src)) :
    (prepareFrameForTargets sndrs dlys plan).1 = sndrs := by
  unfold prepareFrameForTargets at h ⊢
  split at h
  · rw [if_pos ‹_›]
  · rw [if_neg ‹_›]
    dsimp only at h ⊢
    split at h
    · rfl
    · split at h <;> cases h

end FramePlan

namespace StreamerInner

variable [PacketCipher κ]

/-- A prepared frame is one by its plan, with sync packets or without, from
the clock state that was consumed for it. -/
theorem prepareStreamFrame_ok {inner after : StreamerInner κ} {mark : Bool}
    {frame : PreparedStreamFrame}
    (h : inner.prepareStreamFrame input mark = (after, .ok frame)) :
    ∃ plan sndrs, (plan = inner.consumePtpClockUpdates.framePlan input mark ∨
        plan = { inner.consumePtpClockUpdates.framePlan input mark with syncDue := false }) ∧
      prepareFrameForTargets inner.consumePtpClockUpdates.rtpSenders
        inner.consumePtpClockUpdates.targetPresentationDelaysNs plan = (sndrs, .ok frame.prepared) ∧
      after = { inner.consumePtpClockUpdates with rtpSenders := sndrs } ∧
      frame.masterAnchorNs = if inner.consumePtpClockUpdates.clockReady then
        some (masterTimeForAnchorNs input.localWallNs inner.consumePtpClockUpdates.clockOffset)
        else none := by
  unfold prepareStreamFrame at h
  dsimp only at h
  generalize inner.consumePtpClockUpdates = consumed at h ⊢
  split at h
  · rename_i prepared heq
    cases h
    obtain ⟨rfl, hs⟩ := Prod.mk.inj heq
    refine ⟨_, _, .inl rfl, ?_, rfl, rfl⟩
    rw [← hs]
  · rename_i index src heq
    obtain ⟨rfl, hs⟩ := Prod.mk.inj heq
    have hk := presentationTime_keeps hs
    unfold prepareWith at h
    rw [hk] at h
    obtain ⟨rfl, hr⟩ := Prod.mk.inj h
    cases hp : (prepareFrameForTargets consumed.rtpSenders consumed.targetPresentationDelaysNs
        { consumed.framePlan input mark with syncDue := false }).2 with
    | error error =>
      rw [hp] at hr
      cases hr
    | ok prepared =>
      rw [hp] at hr
      cases hr
      exact ⟨_, _, .inr rfl, by rw [← hp], rfl, rfl⟩
  · cases h

theorem prepareStreamFrame_fst (inner : StreamerInner κ) (input : FrameInput) (mark : Bool) :
    ∃ sndrs, (inner.prepareStreamFrame input mark).1
      = { inner.consumePtpClockUpdates with rtpSenders := sndrs } := by
  unfold prepareStreamFrame prepareWith
  dsimp only
  split
  · rename_i heq
    obtain ⟨rfl, -⟩ := Prod.mk.inj heq
    exact ⟨_, rfl⟩
  · rename_i heq
    obtain ⟨rfl, -⟩ := Prod.mk.inj heq
    exact ⟨_, rfl⟩
  · rename_i heq
    obtain ⟨rfl, -⟩ := Prod.mk.inj heq
    exact ⟨_, rfl⟩

end StreamerInner

/-! ## What a run says -/

abbrev StreamerTurn (κ : Type) :=
  Mealy.Turn (Streaming κ) StreamerEvent (Option PreparedStreamFrame)

/-- The identity of the clock consumed changes, or there is a new
subscription. -/
def NewGeneration (t : StreamerTurn κ) : Prop :=
  t.after.inner.identity ≠ t.before.inner.identity ∨ ∃ latest, t.input = .setPtpClockUpdates latest

/-- The next sync packet of a target is to be its first. -/
def Resets (t : StreamerTurn κ) : Prop := NewGeneration t ∨ t.input = .resetAfterFlush

/-- The frame of the turn has a sync packet for target `i`. -/
def Gives (i : Nat) (t : StreamerTurn κ) : Prop :=
  ∃ frame packet, t.output = some frame ∧ frame.prepared.syncPackets[i]? = some (some packet)

/-- Target `i` has been given a sync packet since the last reset. -/
def Synced (i : Nat) (turns : List (StreamerTurn κ)) : Prop :=
  Mealy.Since (Gives i) (fun t => ¬ Resets t) turns

/-- This is the last frame prepared, and in this generation. -/
def Previous (frame : PreparedStreamFrame) (turns : List (StreamerTurn κ)) : Prop :=
  Mealy.Since (fun t => t.output = some frame) (fun t => t.output = none ∧ ¬ NewGeneration t) turns

/-- What the run so far says about the streamer. -/
structure Streamed (turns : List (StreamerTurn κ)) (s : Streaming κ) : Prop where
  coherent : s.inner.Coherent
  marks : s.running = true → ∀ (i : Nat) (sender : RtpSender κ),
    s.inner.rtpSenders[i]? = some sender →
    (sender.firstSyncSent = true ↔ Synced i turns)
  anchor : s.running = true → ∀ frame, Previous frame turns →
    frame.masterAnchorNs = s.inner.identity.map (fun _ => s.inner.lastMasterAnchorNs)

theorem Streamed.quiet {turns : List (StreamerTurn κ)} {t : StreamerTurn κ}
    (h : Streamed turns t.before) (ho : t.output = none) (hc : t.after.inner.Coherent)
    (hrn : t.after.running = t.before.running)
    (hk : ¬ Resets t → t.after.inner.rtpSenders = t.before.inner.rtpSenders)
    (he : Resets t → ∀ (i : Nat) (sndr : RtpSender κ),
      t.after.inner.rtpSenders[i]? = some sndr → sndr.firstSyncSent = false)
    (ha : ¬ NewGeneration t →
      t.after.inner.lastMasterAnchorNs = t.before.inner.lastMasterAnchorNs) :
    Streamed (turns ++ [t]) t.after := by
  have hv : ∀ i, ¬ Gives i t := by
    rintro i ⟨frame, _, hf, -⟩
    rw [ho] at hf
    cases hf
  refine ⟨hc, fun hn i sndr hs => ?_, fun hn frame hp => ?_⟩
  · unfold Synced
    rw [since_concat]
    by_cases hr : Resets t
    · rw [he hr i sndr hs]
      refine iff_of_false Bool.false_ne_true ?_
      rintro (hg | ⟨ht, -⟩)
      · exact hv i hg
      · exact ht hr
    · rw [hk hr] at hs
      rw [h.marks (hrn ▸ hn) i sndr hs]
      constructor
      · exact fun hy => .inr ⟨hr, hy⟩
      · rintro (hg | ⟨-, hy⟩)
        · exact absurd hg (hv i)
        · exact hy
  · rcases since_concat.mp hp with hf | ⟨⟨-, hm⟩, hp⟩
    · rw [ho] at hf
      cases hf
    · have hi : t.after.inner.identity = t.before.inner.identity :=
        Decidable.not_not.mp (fun hne => hm (.inl hne))
      rw [ha hm, hi]
      exact h.anchor (hrn ▸ hn) frame hp

variable {t : StreamerTurn κ}

theorem Streamed.idle {turns : List (StreamerTurn κ)}
    (h : Streamed turns t.before) (ho : t.output = none) (hc : t.after.inner.Coherent)
    (hr : t.after.running = t.before.running) (hs : ¬ Resets t)
    (hn : t.after.inner.rtpSenders = t.before.inner.rtpSenders)
    (ha : t.after.inner.lastMasterAnchorNs = t.before.inner.lastMasterAnchorNs) :
    Streamed (turns ++ [t]) t.after :=
  h.quiet ho hc hr (fun _ => hn) (fun he => absurd he hs) (fun _ => ha)

theorem not_resets (hd : t.after.inner.identity = t.before.inner.identity)
    (hs : ∀ latest, t.input ≠ .setPtpClockUpdates latest)
    (hf : t.input ≠ .resetAfterFlush) : ¬ Resets t := by
  rintro ((hne | ⟨latest, hi⟩) | hi)
  · exact hne hd
  · exact hs latest hi
  · exact hf hi

theorem firstSyncSent_of_reset {sndrs : List (RtpSender κ)} {i : Nat} {sndr : RtpSender κ}
    (h : (sndrs.map RtpSender.resetSyncState)[i]? = some sndr) :
    sndr.firstSyncSent = false := by
  rw [getElem?_map] at h
  obtain ⟨_, -, rfl⟩ := map_eq_some_iff.mp h
  rfl

namespace StreamerInner

theorem setPtpClockUpdates_spec (inner : StreamerInner κ) (latest : Option PtpClockState) :
    Coherent (inner.setPtpClockUpdates latest) ∧
      ∀ (i : Nat) (sndr : RtpSender κ),
        (inner.setPtpClockUpdates latest).rtpSenders[i]? = some sndr →
        sndr.firstSyncSent = false := by
  unfold setPtpClockUpdates
  generalize hf : ({ inner with
    usePtpSync := true
    timingRx := none
    ptpClockRx := some latest
    ptpClockState := none
    clockOffset := none
    ptpMasterClockId := 0
    lastMasterAnchorNs := 0
    lastSyncRtp := 0 } : StreamerInner κ).resetSyncStates = fresh
  have hh : Coherent fresh := by
    rw [← hf]
    exact ⟨rfl, rfl, rfl, rfl⟩
  have hn : fresh.rtpSenders = inner.rtpSenders.map RtpSender.resetSyncState := by
    rw [← hf]
    rfl
  obtain ⟨ha, hc, -⟩ := consume_spec hh
  refine ⟨ha, fun i sndr hs => ?_⟩
  by_cases hm : fresh.consumePtpClockUpdates.identity = fresh.identity
  · rw [(hc.same hm).1, hn] at hs
    exact firstSyncSent_of_reset hs
  · rw [hc.changed hm] at hs
    exact firstSyncSent_of_reset hs

theorem consumeTimingUpdates_eq {inner : StreamerInner κ} (h : Coherent inner) :
    inner.consumeTimingUpdates = inner.consumePtpClockUpdates := by
  obtain ⟨hr, -⟩ := consume_frame inner
  obtain ⟨_, hl⟩ := isSome_iff_exists.mp h.subscribed
  unfold consumeTimingUpdates
  dsimp only
  rw [hl] at hr
  rw [hr]

end StreamerInner

/-- In a frame, only another identity resets. -/
theorem resets_frame_iff (hi : t.input = .frame input) :
    Resets t ↔ t.after.inner.identity ≠ t.before.inner.identity := by
  constructor
  · rintro ((hne | ⟨_, heq⟩) | heq)
    · exact hne
    · rw [hi] at heq
      cases heq
    · rw [hi] at heq
      cases heq
  · exact fun hne => .inl (.inl hne)

theorem newGeneration_frame_iff (hi : t.input = .frame input) :
    NewGeneration t ↔ t.after.inner.identity ≠ t.before.inner.identity := by
  rw [← resets_frame_iff hi]
  constructor
  · exact .inl
  · rintro (hn | heq)
    · exact hn
    · rw [hi] at heq
      cases heq

theorem StreamerInner.Coherent.clockReady_eq {inner : StreamerInner κ} (h : inner.Coherent) :
    inner.clockReady = inner.ptpClockState.isSome := by
  have hr : inner.ptpClockRx.isNone = false := by
    rw [← not_isSome, h.subscribed]
    rfl
  unfold StreamerInner.clockReady
  rw [h.ptp, hr]
  rfl

theorem plan_of_gives {inner : StreamerInner κ} {mark : Bool}
    {plan : FramePlan} (hp : plan = inner.framePlan input mark ∨
      plan = { inner.framePlan input mark with syncDue := false }) (hd : plan.syncDue = true) :
    plan = inner.framePlan input mark ∧ inner.clockReady = true := by
  rcases hp with rfl | rfl
  · refine ⟨rfl, ?_⟩
    have hr : (inner.clockReady && (mark || inner.lastSyncRtp == 0
      || decide (inner.sampleRate.toNat ≤ (input.rtpTimestamp - inner.lastSyncRtp).toNat)))
        = true := hd
    exact (Bool.and_eq_true_iff.mp hr).1
  · cases hd

/-- What a PT=87 packet of target `i` says: identity and offset are those of
the state published last, which the frame has consumed; it is marked as first
exactly if the target has not been given one since its last reset; and its
time lies after the anchor of the previous frame of this generation. -/
def Stamped (turns : List (StreamerTurn κ)) (t : StreamerTurn κ) (input : FrameInput) (i : Nat)
    (packet : Bytes) : Prop :=
  ∃ state delay time first sequence, t.before.inner.ptpClockRx = some (some state) ∧
    t.after.inner.ptpClockState = some state ∧
    t.before.inner.targetPresentationDelaysNs[i]? = some delay ∧
    time = masterTimeForAnchorNs input.localWallNs (some state.offset)
      + t.before.inner.renderDelayNs + delay ∧
    packet = ptpSyncBytes first sequence input.rtpTimestamp time
      (t.before.inner.nextRtpTimestamp input.rtpTimestamp) state.masterClockId ∧
    ((first = 0x80 ∧ ¬ Resets t ∧ Synced i turns) ∨
      (first = 0x90 ∧ ¬ (¬ Resets t ∧ Synced i turns))) ∧
    ∀ frame, Previous frame turns → ¬ NewGeneration t →
      ∃ anchor, frame.masterAnchorNs = some anchor ∧ anchor < time

theorem mark_consumed {turns : List (StreamerTurn κ)} {s : Streaming κ} (h : Streamed turns s)
    (hr : s.running = true) {t : StreamerTurn κ} {input : FrameInput} (hf : t.before = s)
    (hi : t.input = .frame input)
    (hd : t.after.inner.identity = s.inner.consumePtpClockUpdates.identity) {i : Nat}
    {sndr : RtpSender κ}
    (hs : s.inner.consumePtpClockUpdates.rtpSenders[i]? = some sndr) :
    sndr.firstSyncSent = true ↔ ¬ Resets t ∧ Synced i turns := by
  obtain ⟨-, hc, -⟩ := consume_spec h.coherent
  rw [resets_frame_iff hi, hd, hf]
  by_cases hm : s.inner.consumePtpClockUpdates.identity = s.inner.identity
  · rw [(hc.same hm).1] at hs
    rw [h.marks hr i sndr hs]
    exact ⟨fun hy => ⟨fun hne => hne hm, hy⟩, fun hb => hb.2⟩
  · rw [hc.changed hm] at hs
    rw [firstSyncSent_of_reset hs]
    exact iff_of_false Bool.false_ne_true (fun hb => hb.1 hm)

section Steps

variable [PacketCipher κ] {turns : List (StreamerTurn κ)} {s : Streaming κ}

variable {ev : StreamerEvent}

section

variable (h : Streamed turns s)
include h

/-- A turn of the loop consumes the clock state. -/
theorem turn_streamed : Streamed (turns ++ [Mealy.turn step s .turn]) (s.step .turn).1 := by
  by_cases hr : s.running = true
  · have ha : s.step .turn = ({ s with inner := s.inner.consumePtpClockUpdates }, none) := by
      show (if s.running then ({ s with inner := s.inner.consumeTimingUpdates }, none)
        else (s, none)) = _
      rw [if_pos hr, consumeTimingUpdates_eq h.coherent]
    obtain ⟨hh, hc, -⟩ := consume_spec h.coherent
    have ht : Mealy.turn step s .turn =
        ⟨s, .turn, none, { s with inner := s.inner.consumePtpClockUpdates }⟩ := by
      unfold Mealy.turn
      rw [ha]
    rw [ha, ht]
    refine Streamed.quiet h rfl hh rfl ?_ ?_ ?_
    · exact fun hn => (hc.same (Decidable.not_not.mp (fun hne => hn (.inl (.inl hne))))).1
    · rintro ((hne | ⟨_, hi⟩) | hi) i _ hs
      · dsimp only at hs
        rw [hc.changed hne] at hs
        exact firstSyncSent_of_reset hs
      · cases hi
      · cases hi
    · exact fun hn => (hc.same (Decidable.not_not.mp (fun hne => hn (.inl hne)))).2
  · have ha : s.step .turn = (s, none) := by
      show (if s.running then ({ s with inner := s.inner.consumeTimingUpdates }, none)
        else (s, none)) = _
      rw [if_neg hr]
    have ht : Mealy.turn step s .turn = ⟨s, .turn, none, s⟩ := by
      unfold Mealy.turn
      rw [ha]
    rw [ha, ht]
    refine Streamed.idle h rfl h.coherent rfl ?_ rfl rfl
    exact not_resets rfl (fun _ heq => StreamerEvent.noConfusion heq) StreamerEvent.noConfusion

theorem subscribe_streamed (latest : Option PtpClockState) :
    Streamed (turns ++ [Mealy.turn step s (.setPtpClockUpdates latest)])
      (s.step (.setPtpClockUpdates latest)).1 := by
  obtain ⟨hc, hf⟩ := s.inner.setPtpClockUpdates_spec latest
  have hw : NewGeneration (Mealy.turn step s (.setPtpClockUpdates latest)) := .inr ⟨latest, rfl⟩
  refine @Streamed.quiet κ turns (Mealy.turn step s (.setPtpClockUpdates latest)) h rfl
    hc rfl ?_ ?_ ?_
  · exact fun hn => absurd (.inl hw) hn
  · exact fun _ => hf
  · exact fun hn => absurd hw hn

theorem flush_streamed : Streamed (turns ++ [Mealy.turn step s .resetAfterFlush])
      (s.step .resetAfterFlush).1 := by
  refine @Streamed.quiet κ turns (Mealy.turn step s .resetAfterFlush) h rfl ?_ rfl ?_ ?_
    (fun _ => rfl)
  · exact ⟨h.coherent.ptp, h.coherent.subscribed, h.coherent.offset, h.coherent.clockId⟩
  · exact fun hn => absurd (.inr rfl) hn
  · exact fun _ i sndr hs => firstSyncSent_of_reset hs

/-- The setters that a subscription overrules, and the ones that are about
something else. -/
theorem setter_streamed
    (hb : ∀ latest, ev ≠ .setPtpClockUpdates latest) (hf : ev ≠ .resetAfterFlush)
    (htr : ev ≠ .turn) (hfr : ∀ input, ev ≠ .frame input) :
    Streamed (turns ++ [Mealy.turn step s ev]) (s.step ev).1 := by
  have hr : s.inner.ptpClockRx.isNone = false := by
    have := h.coherent.subscribed
    cases hh : s.inner.ptpClockRx with
    | none =>
      rw [hh] at this
      cases this
    | some => rfl
  have hi : ∀ inner : StreamerInner κ, s.step ev = ({ s with inner }, none) →
      inner.Coherent → inner.identity = s.inner.identity →
      inner.rtpSenders = s.inner.rtpSenders →
      inner.lastMasterAnchorNs = s.inner.lastMasterAnchorNs →
      Streamed (turns ++ [Mealy.turn step s ev]) (s.step ev).1 := by
    intro inner hst hc hd hn ha
    have ht : Mealy.turn step s ev = ⟨s, ev, none, { s with inner }⟩ := by
      unfold Mealy.turn
      rw [hst]
    rw [hst, ht]
    exact Streamed.idle h rfl hc rfl (not_resets hd hb hf) hn ha
  obtain ⟨hp, hs, ho, hcloId⟩ := h.coherent
  cases ev with
  | publishClock =>
    refine hi _ rfl ⟨hp, ?_, ho, hcloId⟩ rfl rfl rfl
    rw [isSome_map]
    exact hs
  | publishTiming => exact hi _ rfl ⟨hp, hs, ho, hcloId⟩ rfl rfl rfl
  | setPtpClockUpdates latest => exact absurd rfl (hb latest)
  | setPtpSyncMode clockId =>
    refine hi _ rfl ⟨rfl, hs, ho, ?_⟩ rfl rfl rfl
    show (if s.inner.ptpClockRx.isNone then clockId else s.inner.ptpMasterClockId) = _
    rw [hr]
    exact hcloId
  | setRenderDelayMs => exact hi _ rfl ⟨hp, hs, ho, hcloId⟩ rfl rfl rfl
  | setTimingOffset offset =>
    have hm : s.inner.setTimingOffset offset = s.inner := by
      unfold StreamerInner.setTimingOffset
      rw [hr]
      rfl
    refine hi s.inner ?_ ⟨hp, hs, ho, hcloId⟩ rfl rfl rfl
    show ({ s with inner := s.inner.setTimingOffset offset }, none) = _
    rw [hm]
  | setTimingUpdates latest unseen =>
    have hm : s.inner.setTimingUpdates latest unseen = s.inner := by
      unfold StreamerInner.setTimingUpdates
      rw [hr]
      rfl
    refine hi s.inner ?_ ⟨hp, hs, ho, hcloId⟩ rfl rfl rfl
    show ({ s with inner := s.inner.setTimingUpdates latest unseen }, none) = _
    rw [hm]
  | resetAfterFlush => exact absurd rfl hf
  | turn => exact absurd rfl htr
  | frame input => exact absurd rfl (hfr input)

end

/-- A frame is left alone, ends the loop, or is prepared for all targets. -/
theorem runFrame_cases (s : Streaming κ) (input : FrameInput) : s.runFrame input = (s, none) ∨
    (∃ sndrs, s.runFrame input =
      ({ s with inner := { s.inner.consumePtpClockUpdates with rtpSenders := sndrs }
                running := false }, none)) ∨
    ∃ plan sndrs frame noted, s.running = true ∧
      (plan = s.inner.consumePtpClockUpdates.framePlan input (!s.inner.firstPacketSent) ∨
        plan = { s.inner.consumePtpClockUpdates.framePlan input (!s.inner.firstPacketSent) with
          syncDue := false }) ∧
      prepareFrameForTargets s.inner.consumePtpClockUpdates.rtpSenders
        s.inner.consumePtpClockUpdates.targetPresentationDelaysNs plan
          = (sndrs, .ok frame.prepared) ∧
      (frame.masterAnchorNs = if s.inner.consumePtpClockUpdates.clockReady then
        some (masterTimeForAnchorNs input.localWallNs s.inner.consumePtpClockUpdates.clockOffset)
        else none) ∧
      noted = (if s.hasSenderThread || input.sent then
        { s.inner.consumePtpClockUpdates with rtpSenders := sndrs }.noteFrame input frame
        else { s.inner.consumePtpClockUpdates with rtpSenders := sndrs }) ∧
      s.runFrame input = ({ s with inner := noted, running := input.sent }, some frame) := by
  unfold runFrame
  split
  · exact .inl rfl
  · rename_i hg
    have hr : s.running = true := by
      cases hn : s.running with
      | true => rfl
      | false => exact absurd (.inl hn) hg
    split
    · rename_i after err heq
      obtain ⟨sndrs, hs⟩ := s.inner.prepareStreamFrame_fst input (!s.inner.firstPacketSent)
      rw [heq] at hs
      dsimp only at hs
      rw [hs]
      exact .inr (.inl ⟨sndrs, rfl⟩)
    · rename_i after frame heq
      obtain ⟨plan, sndrs, hp, hpr, rfl, ha⟩ := prepareStreamFrame_ok heq
      exact .inr (.inr ⟨plan, sndrs, frame, _, hr, hp, hpr, ha, rfl, rfl⟩)

theorem frame_stamped (h : Streamed turns s) (hn : s.running = true) {mark : Bool}
    (hb : t.before = s) (hin : t.input = .frame input)
    (ht : t.after.inner.ptpClockState = s.inner.consumePtpClockUpdates.ptpClockState)
    {plan : FramePlan} {frame : PreparedFrame} {sndrs : List (RtpSender κ)}
    (hpl : plan = s.inner.consumePtpClockUpdates.framePlan input mark ∨
      plan = { s.inner.consumePtpClockUpdates.framePlan input mark with syncDue := false })
    (hpr : prepareFrameForTargets s.inner.consumePtpClockUpdates.rtpSenders
      s.inner.consumePtpClockUpdates.targetPresentationDelaysNs plan = (sndrs, .ok frame))
    {i : Nat} {packet : Bytes} (hp : frame.syncPackets[i]? = some (some packet)) :
    Stamped turns t input i packet := by
  obtain ⟨hc, ho, hlt⟩ := consume_spec h.coherent
  obtain ⟨-, -, hrt, hld, hde⟩ := consume_frame s.inner
  have hpt : plan.usePtpSync = true := by rcases hpl with rfl | rfl <;> exact hc.ptp
  obtain ⟨-, hcn, hsr⟩ := prepare_serves hpt hpr
  have hi : i < s.inner.consumePtpClockUpdates.rtpSenders.length := by
    rw [← hcn]
    exact (List.getElem?_eq_some_iff.mp hp).1
  have hsd := getElem?_eq_getElem hi
  obtain ⟨_, dly, -, hy, he⟩ := hsr i _ hsd
  obtain ⟨hu, -⟩ := he.gives.mp ⟨packet, hp⟩
  obtain ⟨hby, hl⟩ := he.packet packet hp
  obtain ⟨rfl, hrd⟩ := plan_of_gives hpl hu
  rw [hc.clockReady_eq] at hrd
  obtain ⟨state, hm⟩ := isSome_iff_exists.mp hrd
  have hr := mark_consumed h hn hb hin (by rw [StreamerInner.identity, ht]; rfl) hsd
  have hf : s.inner.consumePtpClockUpdates.clockOffset = some state.offset := by
    rw [hc.offset, hm]
    rfl
  have hd : s.inner.consumePtpClockUpdates.ptpMasterClockId = state.masterClockId := by
    rw [hc.clockId, StreamerInner.identity, hm]
    rfl
  have htm : (s.inner.consumePtpClockUpdates.framePlan input mark).due dly
      = masterTimeForAnchorNs input.localWallNs (some state.offset)
        + s.inner.renderDelayNs + dly := by
    rw [← hf, ← hld]
    rfl
  have hx : (s.inner.consumePtpClockUpdates.framePlan input mark).nextRtpTimestamp
      = s.inner.nextRtpTimestamp input.rtpTimestamp := by
    unfold StreamerInner.nextRtpTimestamp
    rw [← hrt]
    rfl
  have hk : (s.inner.consumePtpClockUpdates.framePlan input mark).ptpMasterClockId
      = state.masterClockId := hd
  rw [htm, hx, hk] at hby
  rw [htm] at hl
  generalize s.inner.consumePtpClockUpdates.rtpSenders[i] = sender at hby hr
  have hh : t.before.inner.ptpClockRx = some (some state) := by rw [hb, hlt, hm]
  have hd' : t.before.inner.targetPresentationDelaysNs[i]? = some dly := by
    rw [hb, ← hde]
    exact hy
  refine ⟨state, dly, _, sender.syncFirstByte, sender.syncSequence, hh,
    ht.trans hm, hd', rfl, ?_, ?_, ?_⟩
  · rw [hb]
    exact hby
  · unfold RtpSender.syncFirstByte
    cases hs : sender.firstSyncSent with
    | true => exact .inl ⟨rfl, hr.mp hs⟩
    | false =>
      refine .inr ⟨rfl, fun hbt => ?_⟩
      rw [hr.mpr hbt] at hs
      cases hs
  · intro prev hv hsa
    have hi' : s.inner.consumePtpClockUpdates.identity = s.inner.identity := by
      have haf : t.after.inner.identity = s.inner.consumePtpClockUpdates.identity := by
        rw [StreamerInner.identity, ht]
        rfl
      have hkp := Decidable.not_not.mp ((newGeneration_frame_iff hin).not.mp hsa)
      rw [← haf, hkp, hb]
    have ha := h.anchor hn prev hv
    have hsomId : s.inner.identity = some state.masterClockId := by
      rw [← hi', StreamerInner.identity, hm]
      rfl
    rw [hsomId, map_some] at ha
    refine ⟨s.inner.lastMasterAnchorNs, ha, ?_⟩
    have hre : (s.inner.consumePtpClockUpdates.framePlan input mark).referenceMasterTimeNs
        = s.inner.lastMasterAnchorNs := (ho.same hi').2
    rw [hb, ← hre]
    exact hl

theorem frame_streamed (h : Streamed turns s) (input : FrameInput) :
    Streamed (turns ++ [Mealy.turn step s (.frame input)]) (s.step (.frame input)).1 := by
  obtain ⟨hc, _, _⟩ := consume_spec h.coherent
  have hst : s.step (.frame input) = s.runFrame input := rfl
  unfold Mealy.turn
  rw [hst]
  rcases runFrame_cases s input with hnn | ⟨sndrs, hf⟩ |
    ⟨plan, sndrs, frame, noted, hr, hl, hpr, hm, ht, hfr⟩
  · rw [hnn]
    refine Streamed.idle h rfl h.coherent rfl ?_ rfl rfl
    exact not_resets rfl (fun _ heq => StreamerEvent.noConfusion heq) StreamerEvent.noConfusion
  · rw [hf]
    refine ⟨⟨hc.ptp, hc.subscribed, hc.offset, hc.clockId⟩, ?_, ?_⟩
    · exact fun hr => Bool.noConfusion hr
    · exact fun hr => Bool.noConfusion hr
  · rw [hfr]
    have hpt : plan.usePtpSync = true := by rcases hl with rfl | rfl <;> exact hc.ptp
    obtain ⟨hlen, -, hsr⟩ := prepare_serves hpt hpr
    have hk : noted.Coherent ∧ noted.rtpSenders = sndrs ∧
        noted.identity = s.inner.consumePtpClockUpdates.identity := by
      rw [ht]
      split <;> exact ⟨⟨hc.ptp, hc.subscribed, hc.offset, hc.clockId⟩, rfl, rfl⟩
    obtain ⟨hnotCoh, hse, hd⟩ := hk
    refine ⟨hnotCoh, fun hs i sender' hs' => ?_, fun hs other hv => ?_⟩
    · dsimp only at hs'
      rw [hse] at hs'
      have hi : i < s.inner.consumePtpClockUpdates.rtpSenders.length := by
        rw [← hlen]
        exact (List.getElem?_eq_some_iff.mp hs').1
      have hn := getElem?_eq_getElem hi
      obtain ⟨_, _, ha, -, he⟩ := hsr i _ hn
      rw [hs'] at ha
      cases ha
      have hmr := @mark_consumed κ turns s h hr
        ⟨s, .frame input, some frame, { s with inner := noted, running := input.sent }⟩ input rfl
        rfl hd i _ hn
      unfold Synced
      rw [since_concat, he.mark, Bool.or_eq_true, hmr, Bool.and_eq_true, ← he.gives, or_comm]
      refine or_congr ?_ Iff.rfl
      constructor
      · rintro ⟨packet, hp⟩
        exact ⟨frame, packet, rfl, hp⟩
      · rintro ⟨_, packet, hg, hp⟩
        cases hg
        exact ⟨packet, hp⟩
    · have hsm : other = frame := by
        rcases since_concat.mp hv with ho | ⟨⟨ho, -⟩, -⟩
        · exact (Option.some.inj ho).symm
        · cases ho
      have hls : noted.lastMasterAnchorNs
          = frame.masterAnchorNs.getD s.inner.consumePtpClockUpdates.lastMasterAnchorNs := by
        have hgs : (s.hasSenderThread || input.sent) = true := by
          rw [show input.sent = true from hs, Bool.or_true]
        rw [ht, if_pos hgs]
        rfl
      rw [hsm, hd, hls, hm, hc.clockReady_eq, StreamerInner.identity]
      cases s.inner.consumePtpClockUpdates.ptpClockState <;> rfl

/-- One more event keeps the record of the turns. -/
theorem step_streamed (turns : List (StreamerTurn κ)) (s : Streaming κ) (ev : StreamerEvent)
    (h : Streamed turns s) :
    Streamed (turns ++ [Mealy.turn step s ev]) (s.step ev).1 := by
  cases ev with
  | setPtpClockUpdates latest => exact subscribe_streamed h latest
  | resetAfterFlush => exact flush_streamed h
  | turn => exact turn_streamed h
  | frame input => exact frame_streamed h input
  | publishClock state | publishTiming offset | setPtpSyncMode clockId | setRenderDelayMs delayMs
  | setTimingOffset offset | setTimingUpdates latest unseen =>
    exact setter_streamed h (fun _ heq => StreamerEvent.noConfusion heq)
      StreamerEvent.noConfusion StreamerEvent.noConfusion
      (fun _ heq => StreamerEvent.noConfusion heq)

variable (inner : StreamerInner κ) (hasSenderThread : Bool)

/-- The streamer with a new subscription. -/
def subscribed (latest : Option PtpClockState) : Streaming κ where
  inner := inner.setPtpClockUpdates latest
  hasSenderThread := hasSenderThread

/-- Every run after a subscription is on record. -/
theorem run_streamed (latest : Option PtpClockState) (evs : List StreamerEvent) :
    Streamed (Mealy.trace step (subscribed inner hasSenderThread latest) evs)
      (Mealy.run step (subscribed inner hasSenderThread latest) evs) := by
  obtain ⟨hc, hf⟩ := inner.setPtpClockUpdates_spec latest
  refine trace_induction ⟨hc, fun _ i sndr hs => ?_, fun _ frame hp => ?_⟩ step_streamed evs
  · rw [hf i sndr hs]
    exact iff_of_false Bool.false_ne_true (not_since_nil _ _)
  · exact absurd hp (not_since_nil _ _)

theorem frame_of_output {frame : PreparedStreamFrame}
    (h : (s.step ev).2 = some frame) : ∃ input, ev = .frame input := by
  cases ev with
  | frame input => exact ⟨input, rfl⟩
  | turn =>
    change (if s.running then ({ s with inner := s.inner.consumeTimingUpdates }, none)
      else (s, none) : Streaming κ × Option PreparedStreamFrame).2 = _ at h
    split at h <;> cases h
  | publishClock state | publishTiming offset | setPtpClockUpdates latest | setPtpSyncMode clockId
  | setRenderDelayMs delayMs | setTimingOffset offset | setTimingUpdates latest unseen
  | resetAfterFlush => cases h

/-- Every PT=87 packet is stamped from one clock generation: whatever is
published and set once there is a subscription, each sync packet of each frame
says what `Stamped` demands. -/
theorem sync_packets_stamped (inner : StreamerInner κ) (hasSenderThread : Bool)
    (latest : Option PtpClockState) (events : List StreamerEvent)
    {front back : List (StreamerTurn κ)} {t : StreamerTurn κ}
    (hturn : Mealy.trace step (subscribed inner hasSenderThread latest) events = front ++ t :: back)
    {frame : PreparedStreamFrame} (hframe : t.output = some frame) :
    ∃ input, t.input = .frame input ∧
      ∀ (i : Nat) (packet : Bytes), frame.prepared.syncPackets[i]? = some (some packet) →
        Stamped front t input i packet := by
  obtain ⟨xs, _, -, ht, rfl, -⟩ := trace_split hturn
  have hs := run_streamed inner hasSenderThread latest xs
  generalize Mealy.run step (subscribed inner hasSenderThread latest) xs = s at ht hs
  obtain ⟨input, hi⟩ : ∃ input, t.input = .frame input := by
    have ho : (s.step t.input).2 = some frame := by
      rw [ht] at hframe
      exact hframe
    exact frame_of_output ho
  refine ⟨input, hi, fun i packet hp => ?_⟩
  have hb : t.before = s := by rw [ht]; rfl
  have ha : t.after = (s.runFrame input).1 := by rw [ht, hi]; rfl
  have ho : (s.runFrame input).2 = some frame := by rw [← hframe, ht, hi]; rfl
  rcases runFrame_cases s input with hn | ⟨sndrs, hf⟩ | ⟨plan, sndrs, _, _, hr, hl, hpr, -, hno, hg⟩
  · rw [hn] at ho
    cases ho
  · rw [hf] at ho
    cases ho
  · rw [hg] at ha ho
    cases ho
    refine frame_stamped hs hr hb hi ?_ hl hpr hp
    rw [ha, hno]
    split <;> rfl

end Steps

/-- One target, and a clock that is a second behind. -/
def oneTarget : StreamerInner ScriptedCipher where
  streamType := 96
  sampleRate := 44100
  rtpSenders := [steadySender]
  targetPresentationDelaysNs := [0]

def behindByASecond : PtpClockState where
  masterClockId := 7
  offset := { offsetNs := 1000000000 }

def firstFrame : FrameInput where
  rtpTimestamp := 352
  payload := [1, 2, 3]
  localWallNs := 3000000000

theorem sync_packets_stamped_first : ∃ t frame packet,
    Mealy.trace step (subscribed oneTarget true (some behindByASecond))
      [.frame firstFrame] = [t] ∧ t.output = some frame ∧
    frame.prepared.syncPackets = [some packet] ∧
    packet = [0x90, 0xD7, 0, 0, 0, 0, 1, 96, 0, 0, 0, 2, 0, 0, 0, 0, 0, 0, 2, 192,
      0, 0, 0, 0, 0, 0, 0, 7] ∧
    ∃ input, t.input = .frame input ∧
      ∀ (i : Nat) (packet : Bytes), frame.prepared.syncPackets[i]? = some (some packet) →
        Stamped [] t input i packet :=
  ⟨_, _, _, rfl, rfl, rfl, by decide,
    sync_packets_stamped oneTarget true (some behindByASecond) [.frame firstFrame] rfl rfl⟩

end OpenAirCast.Audio
