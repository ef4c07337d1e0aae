/-
Audio.CadenceTheorems — how far apart sync packets are.

`Steady last` says of a streamer that sync packets go by the distance from
`last` alone. A frame emits exactly where that is a second or more, or where
`last` is 0 (`Steady.frame`); the streamer cannot tell a sync at 0 from none.
Over frames at a constant step this gives the position of the last sync
after each (`run_steady`), and from it which frames are right
(`sync_cadence_iff`).
-/
import OpenAirCast.Audio.StreamerTheorems

namespace OpenAirCast.Audio

open Timing List StreamerInner Mealy

variable {κ : Type}

namespace StreamerInner

variable {inner : StreamerInner κ}

/-- What consuming a state of the same clock keeps. -/
theorem consume_sameClock (h : inner.consumePtpClockUpdates.identity = inner.identity) :
    inner.consumePtpClockUpdates.lastSyncRtp = inner.lastSyncRtp ∧
    inner.consumePtpClockUpdates.firstPacketSent = inner.firstPacketSent ∧
    inner.consumePtpClockUpdates.rtpSenders = inner.rtpSenders ∧
    inner.consumePtpClockUpdates.ptpClockState.isSome = inner.ptpClockState.isSome := by
  unfold consumePtpClockUpdates at h ⊢
  split at h
  · exact ⟨rfl, rfl, rfl, rfl⟩
  · rename_i latest _
    split at h
    · rename_i hc
      rw [if_pos hc]
      have hi : latest.map (·.masterClockId) = inner.identity := by
        rw [← h, identity, (installPtpClockState_spec inner latest).2.1]
      have hs : (inner.installPtpClockState latest).ptpClockState.isSome
          = inner.ptpClockState.isSome := by
        rw [(installPtpClockState_spec inner latest).2.1,
          ← Option.isSome_map (f := fun st : PtpClockState => st.masterClockId), hi,
          identity, Option.isSome_map]
      refine ⟨?_, ?_, ?_, hs⟩ <;>
      · unfold installPtpClockState
        rw [if_neg (fun hne => hne hi.symm)]
    · rename_i hs
      rw [if_neg hs]
      exact ⟨rfl, rfl, rfl, rfl⟩

theorem consume_ready (h : inner.consumePtpClockUpdates.identity = inner.identity) :
    inner.consumePtpClockUpdates.clockReady = inner.clockReady := by
  obtain ⟨hr, hp, -, -, -⟩ := consume_frame inner
  unfold clockReady
  rw [hr, hp, (consume_sameClock h).2.2.2]

theorem consume_targets (inner : StreamerInner κ) :
    inner.consumePtpClockUpdates.rtpSenders.length = inner.rtpSenders.length := by
  unfold consumePtpClockUpdates
  split
  · rfl
  · split
    · unfold installPtpClockState
      dsimp only
      split
      · exact length_map _
      · rfl
    · rfl

end StreamerInner

/-! ## One frame -/

section Frames

variable [PacketCipher κ]

/-- A prepared frame has not lost a target. -/
theorem FramePlan.prepare_targets {plan : FramePlan} {sndrs after : List (RtpSender κ)}
    {dlys : List Nat} {frame : PreparedFrame}
    (h : prepareFrameForTargets sndrs dlys plan = (after, .ok frame)) :
    after.length = sndrs.length := by
  rcases plan.outcomes sndrs dlys with
    hd | ⟨hs, hc⟩ | ⟨hs, front, s, back, rfl, hf, hl⟩
  · obtain ⟨err, hp⟩ := prepare_of_turnsDown hd
    rw [hp] at h
    cases h
  · obtain ⟨_, _, -, hp, -, -⟩ := prepare_ok hs hc
    rw [hp] at h
    cases h
    exact length_map _
  · obtain ⟨_, hp⟩ := prepare_failed hs hf hl
    rw [hp] at h
    cases h

namespace StreamerInner

/-- Some target has no presentation time in this frame. -/
def Rejects (inner : StreamerInner κ) (input : FrameInput) : Prop :=
  ∃ index source, (inner.consumePtpClockUpdates.prepareWith
    (inner.consumePtpClockUpdates.framePlan input (!inner.firstPacketSent))).2
      = .error (.presentationTime index source)

theorem withoutSync {res : Except PrepareFrameError PreparedFrame} {anchor : Option Nat}
    {frame : PreparedStreamFrame}
    (h : res.map (fun prepared => ⟨prepared, false, anchor⟩) = .ok frame) :
    frame.syncEmitted = false := by
  cases res with
  | error => cases h
  | ok =>
    cases h
    rfl

theorem prepareStreamFrame_emits {inner after : StreamerInner κ} {inp : FrameInput}
    {frame : PreparedStreamFrame}
    (h : inner.prepareStreamFrame inp (!inner.firstPacketSent) = (after, .ok frame)) :
    (∃ sndrs, after = { inner.consumePtpClockUpdates with rtpSenders := sndrs }) ∧
    after.rtpSenders.length = inner.rtpSenders.length ∧
    (frame.syncEmitted = true →
      inner.consumePtpClockUpdates.syncDue inp.rtpTimestamp (!inner.firstPacketSent) = true) ∧
    (¬ inner.Rejects inp → frame.syncEmitted
      = inner.consumePtpClockUpdates.syncDue inp.rtpTimestamp (!inner.firstPacketSent)) := by
  obtain ⟨plan, sndrs, hl, hp, ha, -⟩ := prepareStreamFrame_ok h
  have hlen : after.rtpSenders.length = inner.rtpSenders.length := by
    rw [ha]
    exact (FramePlan.prepare_targets hp).trans inner.consume_targets
  refine ⟨⟨sndrs, ha⟩, hlen, ?_⟩
  unfold prepareStreamFrame at h
  dsimp only at h
  split at h
  · cases h
    exact ⟨id, fun _ => rfl⟩
  · rename_i idx src heq
    obtain ⟨-, ho⟩ := Prod.mk.inj h
    have hr : inner.Rejects inp := ⟨idx, src, by rw [heq]⟩
    refine ⟨fun he => ?_, fun hn => absurd hr hn⟩
    rw [withoutSync ho] at he
    cases he
  · cases h

end StreamerInner

/-! ## Between two syncs -/

/-- What every streamer has of its settings. -/
structure Configured (rate : SampleRate) (s : Streaming κ) : Prop where
  sampleRate : s.inner.sampleRate = rate.asHz
  mode : s.inner.ptpClockRx.isSome = true → s.inner.usePtpSync = true

/-- Whether a sync packet is due is up to the distance from `last`. -/
structure Steady (last : BitVec 32) (s : Streaming κ) : Prop where
  ready : s.inner.clockReady = true
  marked : s.inner.firstPacketSent = true
  targets : s.inner.rtpSenders ≠ []
  last : s.inner.lastSyncRtp = last

variable {rate : SampleRate}

/-- No event changes the settings. -/
theorem configured_step (s : Streaming κ) (ev : StreamerEvent)
    (h : Configured rate s) : Configured rate (s.step ev).1 := by
  obtain ⟨hx, hp, hr, -, -⟩ := consume_frame s.inner
  have hc : s.inner.consumePtpClockUpdates.ptpClockRx.isSome = true →
      s.inner.consumePtpClockUpdates.usePtpSync = true := by
    rw [hx, hp]
    exact h.mode
  cases ev with
  | publishClock => exact ⟨h.sampleRate, by simpa [Streaming.step] using h.mode⟩
  | publishTiming => exact ⟨h.sampleRate, h.mode⟩
  | setPtpClockUpdates latest =>
    obtain ⟨hh, -⟩ := s.inner.setPtpClockUpdates_spec latest
    refine ⟨?_, fun _ => hh.ptp⟩
    exact (consume_frame _).2.2.1.trans h.sampleRate
  | setPtpSyncMode => exact ⟨h.sampleRate, fun _ => rfl⟩
  | setRenderDelayMs => exact ⟨h.sampleRate, h.mode⟩
  | setTimingOffset offset =>
    show Configured rate { s with inner := s.inner.setTimingOffset offset }
    unfold StreamerInner.setTimingOffset
    split <;> exact ⟨h.sampleRate, h.mode⟩
  | setTimingUpdates latest unseen =>
    show Configured rate { s with inner := s.inner.setTimingUpdates latest unseen }
    unfold StreamerInner.setTimingUpdates
    split <;> exact ⟨h.sampleRate, h.mode⟩
  | resetAfterFlush => exact ⟨h.sampleRate, h.mode⟩
  | turn =>
    unfold Streaming.step
    dsimp only
    split
    · unfold StreamerInner.consumeTimingUpdates
      dsimp only
      split <;> exact ⟨hr.trans h.sampleRate, hc⟩
    · exact h
  | frame inp =>
    show Configured rate (s.runFrame inp).1
    rcases runFrame_cases s inp with hn | ⟨sndrs, hf⟩ | ⟨_, sndrs, _, _, -, -, -, -, ht, hfr⟩
    · rw [hn]
      exact h
    · rw [hf]
      exact ⟨hr.trans h.sampleRate, hc⟩
    · rw [hfr, ht]
      split <;> exact ⟨hr.trans h.sampleRate, hc⟩

variable {s : Streaming κ}

omit [PacketCipher κ] in
theorem Steady.consumed {last : BitVec 32} (h : Steady last s)
    (hs : s.inner.consumePtpClockUpdates.identity = s.inner.identity) :
    Steady last { s with inner := s.inner.consumePtpClockUpdates } := by
  obtain ⟨hl, hm, ht, -⟩ := consume_sameClock hs
  refine ⟨(consume_ready hs).trans h.ready, hm.trans h.marked, ?_, hl.trans h.last⟩
  rw [ht]
  exact h.targets

theorem Steady.quiet {rate : SampleRate} {last : BitVec 32} {s : Streaming κ} {ev : StreamerEvent}
    (h : Steady last s) (hc : Configured rate s)
    (he : ¬ Resets (Mealy.turn Streaming.step s ev))
    (hf : ∀ inp, ev ≠ .frame inp) :
    Steady last (s.step ev).1 ∧ (s.step ev).1.running = s.running := by
  obtain ⟨hr, hm, ht, hl⟩ := h
  cases ev with
  | publishClock st =>
    refine ⟨⟨?_, hm, ht, hl⟩, rfl⟩
    rw [← hr]
    show (!s.inner.usePtpSync
      || ((s.inner.ptpClockRx.map (fun _ => st)).isNone || s.inner.ptpClockState.isSome)) = _
    rw [Option.isNone_map]
    rfl
  | publishTiming => exact ⟨⟨hr, hm, ht, hl⟩, rfl⟩
  | setPtpClockUpdates latest => exact absurd (.inl (.inr ⟨latest, rfl⟩)) he
  | setPtpSyncMode =>
    refine ⟨⟨?_, hm, ht, hl⟩, rfl⟩
    show (!true || (s.inner.ptpClockRx.isNone || s.inner.ptpClockState.isSome)) = true
    unfold StreamerInner.clockReady at hr
    cases hx : s.inner.ptpClockRx with
    | none => rfl
    | some =>
      rw [hc.mode (by rw [hx]; rfl), hx] at hr
      exact hr
  | setRenderDelayMs => exact ⟨⟨hr, hm, ht, hl⟩, rfl⟩
  | setTimingOffset offset =>
    refine ⟨?_, rfl⟩
    show Steady last { s with inner := s.inner.setTimingOffset offset }
    unfold StreamerInner.setTimingOffset
    split <;> exact ⟨hr, hm, ht, hl⟩
  | setTimingUpdates latest unseen =>
    refine ⟨?_, rfl⟩
    show Steady last { s with inner := s.inner.setTimingUpdates latest unseen }
    unfold StreamerInner.setTimingUpdates
    split <;> exact ⟨hr, hm, ht, hl⟩
  | resetAfterFlush => exact absurd (.inr rfl) he
  | turn =>
    by_cases hn : s.running = true
    · have hs : s.step .turn = ({ s with inner := s.inner.consumeTimingUpdates }, none) := if_pos hn
      have hi : s.inner.consumeTimingUpdates.identity = s.inner.identity := by
        refine Decidable.not_not.mp (fun hne => he (.inl (.inl ?_)))
        show (s.step .turn).1.inner.identity ≠ s.inner.identity
        rw [hs]
        exact hne
      rw [hs]
      refine ⟨?_, rfl⟩
      unfold StreamerInner.consumeTimingUpdates at hi ⊢
      dsimp only at hi ⊢
      split at hi
      · obtain ⟨hr', hm', ht', hl'⟩ := Steady.consumed (s := s) ⟨hr, hm, ht, hl⟩ hi
        exact ⟨hr', hm', ht', hl'⟩
      · exact Steady.consumed (s := s) ⟨hr, hm, ht, hl⟩ hi
    · have hs : s.step .turn = (s, none) := if_neg hn
      rw [hs]
      exact ⟨⟨hr, hm, ht, hl⟩, rfl⟩
  | frame inp => exact absurd rfl (hf inp)

section

variable {s : Streaming κ} {inp : FrameInput}

theorem runFrame_some {frame : PreparedStreamFrame} (h : (s.runFrame inp).2 = some frame) :
    ∃ after, s.inner.prepareStreamFrame inp (!s.inner.firstPacketSent) = (after, .ok frame) ∧
      s.inner.rtpSenders ≠ [] ∧
      s.runFrame inp =
        ({ s with inner := if s.hasSenderThread || inp.sent then after.noteFrame inp frame
                    else after
                  running := inp.sent }, some frame) := by
  unfold Streaming.runFrame at h ⊢
  split at h
  · cases h
  · rename_i hg
    rw [if_neg hg]
    split at h
    · cases h
    · rename_i after prepared hp
      cases h
      rw [hp]
      exact ⟨after, rfl, fun hn => hg (.inr hn), rfl⟩

/-- The loop goes on after a frame only when one came out. -/
theorem runFrame_goes (hr : (s.runFrame inp).1.running = true) (ht : s.inner.rtpSenders ≠ []) :
    ∃ frame, (s.runFrame inp).2 = some frame := by
  unfold Streaming.runFrame at hr ⊢
  split at hr
  · rename_i hstops
    rcases hstops with hs | hn
    · rw [hr] at hs
      cases hs
    · exact absurd hn ht
  · rename_i hg
    rw [if_neg hg]
    split at hr
    · cases hr
    · rename_i after frame hp
      exact ⟨frame, rfl⟩

/-- After a frame that was noted, sync packets go by the distance from it if
it emitted, and from where they did before if not. -/
theorem noted_steady {frame : PreparedStreamFrame}
    (hd : s.inner.consumePtpClockUpdates.clockReady = true)
    (ho : (s.runFrame inp).2 = some frame) (hr : (s.runFrame inp).1.running = true) :
    Steady (if frame.syncEmitted then inp.rtpTimestamp
      else s.inner.consumePtpClockUpdates.lastSyncRtp) (s.runFrame inp).1 := by
  obtain ⟨_, hp, ht, hf⟩ := runFrame_some ho
  obtain ⟨⟨sndrs, rfl⟩, hlen, -, -⟩ := prepareStreamFrame_emits hp
  rw [hf] at hr ⊢
  have hs : inp.sent = true := hr
  rw [hs, Bool.or_true, if_pos rfl]
  refine ⟨hd, rfl, fun hn => ?_, rfl⟩
  have hnil : sndrs = [] := hn
  rw [hnil] at hlen
  exact ht (length_eq_zero_iff.mp hlen.symm)

theorem Steady.frame {rate : SampleRate} {last : BitVec 32}
    {frame : PreparedStreamFrame} (h : Steady last s) (hc : Configured rate s)
    (hs : ¬ Resets (Mealy.turn Streaming.step s (.frame inp)))
    (hj : ¬ s.inner.Rejects inp) (ho : (s.runFrame inp).2 = some frame) :
    (frame.syncEmitted = true ↔ last = 0 ∨ rate.asHz.toNat ≤ (inp.rtpTimestamp - last).toNat) ∧
    ((s.runFrame inp).1.running = true →
      Steady (if frame.syncEmitted then inp.rtpTimestamp else last) (s.runFrame inp).1) := by
  obtain ⟨_, hp, _, hf⟩ := runFrame_some ho
  obtain ⟨⟨_, ha⟩, -, -, he⟩ := prepareStreamFrame_emits hp
  have hm : s.inner.consumePtpClockUpdates.identity = s.inner.identity := by
    refine Decidable.not_not.mp (fun hne => hs (.inl (.inl ?_)))
    show (s.runFrame inp).1.inner.identity ≠ s.inner.identity
    rw [hf, ha]
    split <;> exact hne
  obtain ⟨hr, _, -, hl⟩ := h.consumed hm
  have ht : s.inner.consumePtpClockUpdates.sampleRate = rate.asHz :=
    (consume_frame s.inner).2.2.1.trans hc.sampleRate
  constructor
  · rw [he hj, StreamerInner.syncDue, hr, hl, ht, h.marked]
    simp
  · intro hu
    have hn := noted_steady hr ho hu
    rw [hl] at hn
    exact hn

end

/-! ## Frames at a constant step -/

/-- How many frames there were. -/
def frames (turns : List (StreamerTurn κ)) : Nat :=
  turns.countP (fun u => match u.input with | .frame _ => true | _ => false)

/-- The frames are one step apart, the first of them one step after `t`. -/
def Advances (t : BitVec 32) (step : Nat) (turns : List (StreamerTurn κ)) : Prop :=
  ∀ front u back input, turns = front ++ u :: back → u.input = .frame input →
    input.rtpTimestamp = t + BitVec.ofNat 32 ((frames front + 1) * step)

/-- No flush, no change of the clock, and no presentation time is rejected. -/
def Undisturbed (u : StreamerTurn κ) : Prop :=
  ¬ Resets u ∧ ∀ input, u.input = .frame input → ¬ u.before.inner.Rejects input

/-- Where the last sync is after `n` frames that follow one at `t`. -/
def lastSync (t : BitVec 32) (step n : Nat) : BitVec 32 :=
  if t = 0 ∧ 0 < n then BitVec.ofNat 32 step else t

theorem asHz_le (rate : SampleRate) : rate.asHz.toNat ≤ 48000 := by
  cases rate <;> decide

section Arithmetic

variable {rate : SampleRate} {t : BitVec 32} {step n : Nat}

theorem distance_eq (hs : step < rate.asHz.toNat) (hn : n * step < rate.asHz.toNat) :
    (t + BitVec.ofNat 32 ((n + 1) * step) - t).toNat = (n + 1) * step := by
  have hr := asHz_le rate
  have hx : (n + 1) * step = n * step + step := Nat.succ_mul n step
  rw [BitVec.add_comm, BitVec.add_sub_cancel, BitVec.toNat_ofNat]
  omega

/-- When the sync that started this was at 0, the next frame has emitted
another. -/
theorem due_iff (hpos : 0 < step) (hs : step < rate.asHz.toNat) (hn : n * step < rate.asHz.toNat) :
    (lastSync t step n = 0 ∨ rate.asHz.toNat
        ≤ (t + BitVec.ofNat 32 ((n + 1) * step) - lastSync t step n).toNat) ↔
      (t ≠ 0 ∧ rate.asHz.toNat ≤ (n + 1) * step) ∨ (t = 0 ∧ n = 0) := by
  have hr := asHz_le rate
  unfold lastSync
  by_cases hz : t = 0
  · subst hz
    by_cases hf : n = 0
    · subst hf
      simp
    · have hm : 0 < n := Nat.pos_of_ne_zero hf
      have hl : ((0 : BitVec 32) + BitVec.ofNat 32 ((n + 1) * step) - BitVec.ofNat 32 step).toNat
          = n * step := by
        have hx : (n + 1) * step = n * step + step := Nat.succ_mul n step
        rw [hx, show (0 : BitVec 32) = 0#32 from rfl, BitVec.zero_add, BitVec.ofNat_add,
          BitVec.add_sub_cancel, BitVec.toNat_ofNat]
        omega
      have hstep0 : ¬ BitVec.ofNat 32 step = 0 := by
        intro h
        have := congrArg BitVec.toNat h
        rw [BitVec.toNat_ofNat] at this
        simp at this
        omega
      rw [if_pos ⟨rfl, hm⟩, hl]
      simp only [hstep0, false_or, ne_eq, not_true_eq_false, false_and, true_and, hf,
        or_false, iff_false]
      omega
  · have ho : ¬ t = 0#32 := hz
    rw [if_neg (fun h => hz h.1), distance_eq hs hn]
    simp [ho]

theorem lastSync_succ {emitted : Bool} (hn : (n + 1) * step < rate.asHz.toNat)
    (he : emitted = true ↔ (t ≠ 0 ∧ rate.asHz.toNat ≤ (n + 1) * step) ∨ (t = 0 ∧ n = 0)) :
    (if emitted then t + BitVec.ofNat 32 ((n + 1) * step) else lastSync t step n)
      = lastSync t step (n + 1) := by
  have hl : ¬ rate.asHz.toNat ≤ (n + 1) * step := Nat.not_le.mpr hn
  simp only [hl, and_false, false_or] at he
  unfold lastSync
  by_cases hz : t = 0 ∧ n = 0
  · rw [if_pos (he.mpr hz), if_pos ⟨hz.1, Nat.succ_pos n⟩, hz.1, hz.2]
    simp
  · rw [if_neg (fun h => hz (he.mp h))]
    by_cases ht : t = 0
    · rw [if_pos ⟨ht, Nat.pos_of_ne_zero (fun h => hz ⟨ht, h⟩)⟩, if_pos ⟨ht, Nat.succ_pos n⟩]
    · rw [if_neg (fun h => ht h.1), if_neg (fun h => ht h.1)]

/-- Which frames emit as they should. -/
theorem right_iff {emitted : Prop} (ht : step < rate.asHz.toNat)
    (h : emitted ↔ (t ≠ 0 ∧ rate.asHz.toNat ≤ (n + 1) * step) ∨ (t = 0 ∧ n = 0)) :
    (emitted ↔ rate.asHz.toNat ≤ (n + 1) * step) ↔
      t ≠ 0 ∨ (0 < n ∧ (n + 1) * step < rate.asHz.toNat) := by
  rw [h]
  by_cases hz : t = 0
  · by_cases hf : n = 0
    · subst hf
      simp only [hz, ne_eq, not_true_eq_false, false_and, and_self, or_true, true_iff,
        Nat.lt_irrefl, or_self, iff_false, Nat.not_le]
      omega
    · have hs : 0 < n := Nat.pos_of_ne_zero hf
      simp only [hz, hf, hs, ne_eq, not_true_eq_false, false_and, and_false, or_self,
        false_iff, Nat.not_le, true_and, false_or]
  · simp only [hz, ne_eq, not_false_eq_true, true_and, false_and, or_false, true_or]

end Arithmetic

variable {turns : List (StreamerTurn κ)} {u : StreamerTurn κ}

section

omit [PacketCipher κ]

theorem Advances.front {t : BitVec 32} {step : Nat} (h : Advances t step (turns ++ [u])) :
    Advances t step turns := by
  intro front v back inp hs hi
  exact h front v (back ++ [u]) inp (by simp [hs]) hi

theorem Advances.last {t : BitVec 32} {step : Nat} {inp : FrameInput}
    (h : Advances t step (turns ++ [u]))
    (hi : u.input = .frame inp) :
    inp.rtpTimestamp = t + BitVec.ofNat 32 ((frames turns + 1) * step) :=
  h turns u [] inp rfl hi

@[simp] theorem frames_concat (turns : List (StreamerTurn κ)) (u : StreamerTurn κ) :
    frames (turns ++ [u]) = frames turns + frames [u] := countP_append

end

variable {ev : StreamerEvent}

/-- A loop that ended does not go on. -/
theorem running_of_step (h : (s.step ev).1.running = true) : s.running = true := by
  cases ev with
  | frame inp =>
    change (s.runFrame inp).1.running = true at h
    rcases runFrame_cases s inp with hn | ⟨sndrs, hf⟩ | ⟨_, sndrs, _, _, hr, -, -, -, -, -⟩
    · rw [hn] at h
      exact h
    · rw [hf] at h
      cases h
    · exact hr
  | turn =>
    unfold Streaming.step at h
    dsimp only at h
    split at h <;> exact h
  | publishClock state | publishTiming offset | setPtpClockUpdates latest | setPtpSyncMode clockId
  | setRenderDelayMs delayMs | setTimingOffset offset | setTimingUpdates latest unseen
  | resetAfterFlush => exact h

theorem frame_emits_iff {t : BitVec 32} {step n : Nat} (hpos : 0 < step)
    (hs : step < rate.asHz.toNat) (hn : n * step < rate.asHz.toNat)
    {inp : FrameInput} {frame : PreparedStreamFrame} (hc : Configured rate s)
    (ht : Steady (lastSync t step n) s)
    (hu : Undisturbed (Mealy.turn Streaming.step s (.frame inp)))
    (hr : inp.rtpTimestamp = t + BitVec.ofNat 32 ((n + 1) * step))
    (ho : (s.runFrame inp).2 = some frame) :
    (frame.syncEmitted = true ↔ (t ≠ 0 ∧ rate.asHz.toNat ≤ (n + 1) * step) ∨ (t = 0 ∧ n = 0)) := by
  obtain ⟨he, -⟩ := ht.frame hc hu.1 (hu.2 inp rfl) ho
  rw [he, hr]
  exact due_iff hpos hs hn

/-- A frame of the advance moves the last sync as `lastSync` says. -/
theorem step_steady {t : BitVec 32} {step n : Nat} (hpos : 0 < step) (hs : step < rate.asHz.toNat)
    (hc : Configured rate s) (ht : Steady (lastSync t step n) s)
    (hu : Undisturbed (Mealy.turn Streaming.step s ev))
    (hr : ∀ inp, ev = .frame inp → inp.rtpTimestamp = t + BitVec.ofNat 32 ((n + 1) * step))
    (hw : (n + frames [Mealy.turn Streaming.step s ev]) * step < rate.asHz.toNat)
    (hru : (s.step ev).1.running = true) :
    Steady (lastSync t step (n + frames [Mealy.turn Streaming.step s ev])) (s.step ev).1 := by
  cases ev with
  | frame inp =>
    have hx : (n + 1) * step < rate.asHz.toNat := hw
    have hn : n * step < rate.asHz.toNat :=
      Nat.lt_of_le_of_lt (Nat.mul_le_mul_right step (Nat.le_succ n)) hx
    obtain ⟨frame, ho⟩ := runFrame_goes hru ht.targets
    have ha := (ht.frame hc hu.1 (hu.2 inp rfl) ho).2 hru
    have he := frame_emits_iff hpos hs hn hc ht hu (hr inp rfl) ho
    rw [hr inp rfl, lastSync_succ hx he] at ha
    exact ha
  | publishClock state | publishTiming offset | setPtpClockUpdates latest | setPtpSyncMode clockId
  | setRenderDelayMs delayMs | setTimingOffset offset | setTimingUpdates latest unseen
  | resetAfterFlush | turn => exact (ht.quiet hc hu.1 (fun _ => StreamerEvent.noConfusion)).1

/-- So do the frames of a run within a second. -/
theorem run_steady {t : BitVec 32} {step : Nat} (hpos : 0 < step)
    (hs : step < rate.asHz.toNat) (hc : Configured rate s)
    (ht : s.running = true → Steady t s) (back : List StreamerEvent)
    (ha : Advances t step (Mealy.trace Streaming.step s back))
    (hn : ∀ u ∈ Mealy.trace Streaming.step s back, Undisturbed u)
    (hw : frames (Mealy.trace Streaming.step s back) * step < rate.asHz.toNat)
    (hr : (Mealy.run Streaming.step s back).running = true) :
    Steady (lastSync t step (frames (Mealy.trace Streaming.step s back)))
      (Mealy.run Streaming.step s back) := by
  induction back using List.reverseRecOn with
  | nil =>
    have hl : lastSync t step (frames ([] : List (StreamerTurn κ))) = t :=
      if_neg (fun h => absurd h.2 (Nat.lt_irrefl 0))
    show Steady (lastSync t step (frames ([] : List (StreamerTurn κ)))) s
    rw [hl]
    exact ht hr
  | append_singleton xs ev ih =>
    have hcn : Configured rate (Mealy.run Streaming.step s xs) :=
      run_invariant (fun s ev => configured_step s ev) hc xs
    rw [trace_concat] at ha hn hw ⊢
    rw [run_concat] at hr ⊢
    rw [frames_concat] at hw ⊢
    have he : frames (Mealy.trace Streaming.step s xs) * step < rate.asHz.toNat :=
      Nat.lt_of_le_of_lt (Nat.mul_le_mul_right step (Nat.le_add_right _ _)) hw
    have hb := ih ha.front (fun u hu => hn u (mem_append_left _ hu)) he (running_of_step hr)
    refine step_steady hpos hs hcn hb ?_ ?_ hw hr
    · exact hn _ (mem_append_right _ mem_cons_self)
    · rintro _ rfl
      exact ha.last rfl

theorem synced_steady {inp : FrameInput} {frame : PreparedStreamFrame}
    (ho : (s.step (.frame inp)).2 = some frame) (he : frame.syncEmitted = true)
    (hr : (s.step (.frame inp)).1.running = true) :
    Steady inp.rtpTimestamp (s.step (.frame inp)).1 := by
  obtain ⟨_, hp, -, -⟩ := runFrame_some ho
  obtain ⟨-, -, hd, -⟩ := prepareStreamFrame_emits hp
  have hrd : s.inner.consumePtpClockUpdates.clockReady = true := (Bool.and_eq_true_iff.mp (hd he)).1
  have hn := noted_steady hrd ho hr
  rw [he, if_pos rfl] at hn
  exact hn

/-- Sync packets keep their cadence: after a frame that emitted one, the
frames that follow at a constant step emit none before a second has passed,
and the first at or after it does. This holds of every frame when the first
emitted at a position other than 0; after a sync at 0 it holds of those that
are neither the next nor the first at or after a second. -/
theorem sync_cadence_iff (streamType : UInt8) (rate : SampleRate) (senders : List (RtpSender κ))
    (delays : List Nat) (hasSenderThread : Bool) (start back : List StreamerEvent)
    (input later : FrameInput) (frame next : PreparedStreamFrame) (step : Nat)
    (before after : List (StreamerTurn κ)) (u : StreamerTurn κ)
    (hpos : 0 < step) (hstep : step < rate.asHz.toNat)
    (hout : ((Mealy.run Streaming.step (.new streamType rate senders delays hasSenderThread)
      start).step (.frame input)).2 = some frame)
    (hemitted : frame.syncEmitted = true)
    (hturns : Mealy.trace Streaming.step ((Mealy.run Streaming.step
      (.new streamType rate senders delays hasSenderThread) start).step (.frame input)).1 back
        = before ++ u :: after)
    (hadv : Advances input.rtpTimestamp step (before ++ u :: after))
    (hund : ∀ v ∈ before ++ u :: after, Undisturbed v)
    (hlater : u.input = .frame later) (hnext : u.output = some next)
    (hwindow : frames before * step < rate.asHz.toNat) :
    (next.syncEmitted = true ↔ rate.asHz.toNat ≤ (frames before + 1) * step) ↔
      input.rtpTimestamp ≠ 0 ∨
        (0 < frames before ∧ (frames before + 1) * step < rate.asHz.toNat) := by
  obtain ⟨xs, _, -, hu, rfl, -⟩ := trace_split hturns
  have hc : Configured rate (.new streamType rate senders delays hasSenderThread) :=
    ⟨rfl, fun h => by cases h⟩
  have hs : Configured rate (Mealy.run Streaming.step
      (.new streamType rate senders delays hasSenderThread) start) :=
    run_invariant (fun s ev => configured_step s ev) hc start
  generalize Mealy.run Streaming.step (.new streamType rate senders delays hasSenderThread) start
    = s at hout hturns hu hadv hund hwindow hs ⊢
  have ha := configured_step s (.frame input) hs
  have hn : Configured rate (Mealy.run Streaming.step (s.step (.frame input)).1 xs) :=
    run_invariant (fun s ev => configured_step s ev) ha xs
  have hu' : Undisturbed (Mealy.turn Streaming.step
      (Mealy.run Streaming.step (s.step (.frame input)).1 xs) (.frame later)) := by
    have h := hund u (mem_append_right _ mem_cons_self)
    rw [hu, hlater] at h
    exact h
  have hg : ((Mealy.run Streaming.step (s.step (.frame input)).1 xs).runFrame later).2
      = some next := by
    rw [hu, hlater] at hnext
    exact hnext
  have hr : (Mealy.run Streaming.step (s.step (.frame input)).1 xs).running = true := by
    rcases runFrame_cases (Mealy.run Streaming.step (s.step (.frame input)).1 xs) later with
      hnn | ⟨senders, hf⟩ | ⟨plan, senders, prepared, noted, hru, -⟩
    · rw [hnn] at hg
      cases hg
    · rw [hf] at hg
      cases hg
    · exact hru
  have ht := run_steady hpos hstep ha (synced_steady hout hemitted) xs
    (fun front v back input hp => hadv front v (back ++ u :: after) input (by simp [hp]))
    (fun v hv => hund v (mem_append_left _ hv)) hwindow hr
  have hrt := hadv _ u after later rfl hlater
  have he := frame_emits_iff hpos hstep hwindow hn ht hu' hrt hg
  generalize frames (Mealy.trace Streaming.step (s.step (.frame input)).1 xs) = n at he ⊢
  exact right_iff hstep he

end Frames

/-- A streamer with one target. -/
def fresh : Streaming ScriptedCipher := .new 96 .hz44100 [steadySender] [0] true

def frameAt (rtpTimestamp : BitVec 32) (localWallNs : Nat) : FrameInput where
  rtpTimestamp := rtpTimestamp
  payload := [1, 2, 3]
  localWallNs := localWallNs

theorem undisturbed_frame {s : Streaming ScriptedCipher} {inp : FrameInput}
    (hi : (s.runFrame inp).1.inner.identity = s.inner.identity)
    (ho : (s.inner.consumePtpClockUpdates.prepareWith
      (s.inner.consumePtpClockUpdates.framePlan inp (!s.inner.firstPacketSent))).2.isOk = true) :
    Undisturbed (Mealy.turn Streaming.step s (.frame inp)) := by
  refine ⟨not_resets hi (fun _ => StreamerEvent.noConfusion) StreamerEvent.noConfusion, ?_⟩
  rintro _ ht ⟨idx, src, he⟩
  cases ht
  have hf : Except.isOk (.error (.presentationTime idx src) :
      Except PrepareFrameError PreparedFrame) = true := he ▸ ho
  cases hf

theorem sync_cadence_iff_third : ∃ frame next : PreparedStreamFrame,
    Mealy.outputs Streaming.step fresh [.frame (frameAt 352 3000000000),
      .frame (frameAt 704 3008000000)] = [some frame, some next] ∧
    frame.syncEmitted = true ∧
    ((next.syncEmitted = true ↔ 44100 ≤ (0 + 1) * 352) ↔
      (frameAt 352 3000000000).rtpTimestamp ≠ 0 ∨ (0 < 0 ∧ (0 + 1) * 352 < 44100)) := by
  refine ⟨_, _, rfl, by decide, ?_⟩
  refine sync_cadence_iff 96 .hz44100 [steadySender] [0] true [] [.frame (frameAt 704 3008000000)]
    (frameAt 352 3000000000) (frameAt 704 3008000000) _ _ 352 [] [] _ (by decide) (by decide) rfl
    (by decide) rfl ?_ ?_ rfl rfl (by decide)
  · intro front u back inp hs hi
    cases front with
    | nil =>
      obtain ⟨rfl, -⟩ := List.cons.inj hs
      cases hi
      decide
    | cons => simp at hs
  · intro v hv
    rw [nil_append, mem_singleton] at hv
    rw [hv]
    exact undisturbed_frame (by decide) (by decide)

/-- The encoder starts at 0, so the second frame of every stream emits a
sync again. -/
theorem second_frame_syncs_again :
    (Mealy.outputs Streaming.step fresh [.frame (frameAt 0 3000000000),
      .frame (frameAt 352 3008000000), .frame (frameAt 704 3016000000)]).map
        (fun frame => frame.map (·.syncEmitted)) = [some true, some true, some false] ∧
    ¬ (SampleRate.asHz .hz44100 ≤ (352 : BitVec 32) - 0) := by
  decide

end OpenAirCast.Audio
