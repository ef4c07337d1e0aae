/-
Timing.SignTheorems — the sign of a clock offset.

The clock that starts an exchange is the master's with PTP and the local one
with NTP. The formula is the same, so it yields local minus master with the
one and master minus local with the other.
-/
import OpenAirCast.Timing.Measurement
import OpenAirCast.Timing.NtpTheorems

namespace OpenAirCast.Timing

/-- Sent at `t1` and received at `t2`, answered at `t3` and received at `t4`,
with the same delay both ways. The clock that answers is ahead of the one
that starts. -/
structure Exchange (aheadNs : Int) (delayNs t1 t2 t3 t4 : Nat) : Prop where
  there : (t2 : Int) = t1 + aheadNs + delayNs
  back : (t4 : Int) = t3 - aheadNs + delayNs

/-- Equal up to the rounding of the wire format. -/
def Agrees (offsetNs aheadNs : Int) : Prop := (offsetNs - aheadNs).natAbs ≤ 1

instance (offsetNs aheadNs : Int) : Decidable (Agrees offsetNs aheadNs) :=
  inferInstanceAs (Decidable (_ ≤ _))

/-! ## PTP -/

variable {d : Int} {delay : Nat}

theorem Exchange.sum {t1 t2 t3 t4 : Nat} (h : Exchange d delay t1 t2 t3 t4) :
    (((t2 : Int) - t1) + (t3 - t4)).tdiv 2 = d := by
  obtain ⟨hthere, hb⟩ := h
  have htwice : ((t2 : Int) - t1) + (t3 - t4) = d * 2 := by omega
  rw [htwice, Int.mul_tdiv_cancel _ (by decide)]

theorem roundTripOffset_of_exchange {t1 t2 t3 t4 : PtpTimestamp} (hf : FitsI64 d)
    (h : Exchange d delay t1.toNanos t2.toNanos t3.toNanos t4.toNanos) :
    (roundTripOffset t1 t2 t3 t4).offsetNs = d := by
  unfold roundTripOffset
  simp only [h.sum]
  exact (asI64_eq_iff d).mpr hf

variable {measurement : TimingMeasurement} {elapsed : Nat}

theorem ptpMeasurement_offset {t1 t2 t3 t4 : Nat}
    (h : ptpMeasurement elapsed t1 t2 t3 t4 = some measurement) :
    measurement.offsetLocalMinusMasterNs = (((t2 : Int) - t1) + (t3 - t4)).tdiv 2 := by
  unfold ptpMeasurement at h
  dsimp only at h
  split at h
  · cases h
    rfl
  · cases h

theorem calculateOffset_measurement {t1 t2 t3 t4 : PtpTimestamp}
    (h : Exchange d delay t1.toNanos t2.toNanos t3.toNanos t4.toNanos)
    (hm : (calculateOffset elapsed t1 t2 t3 t4).2 = some measurement) :
    measurement.offsetLocalMinusMasterNs = d := by
  unfold calculateOffset at hm
  dsimp only at hm
  split at hm
  · rw [ptpMeasurement_offset hm, h.sum]
  · cases hm

/-- With its offset every local time becomes the master's. -/
theorem localToMasterNs_exact {localNs masterNs : Nat} (h : (masterNs : Int) = localNs - d)
    (hm : masterNs ≤ U64_MAX) : localToMasterNs localNs d = some masterNs := by
  unfold localToMasterNs
  dsimp only
  rw [← h, if_neg (by omega), Int.toNat_natCast]

/-! ## NTP -/

/-- What the wire loses of a time. -/
def wireLoss (unixNs : Nat) : Int := (unixNs : Int) - ntpToUnix (unixToNtp unixNs)

/-- What it adds to twice the offset. -/
def wireError (t1 t2 t3 t4 : Nat) : Int := wireLoss t1 - wireLoss t2 - wireLoss t3 + wireLoss t4

/-- The error is four times the difference of the clocks, up to rounding: it
makes up for the sign. -/
def MakesUp (d error : Int) : Prop :=
  -3 ≤ error - 4 * d ∧ error - 4 * d ≤ 3 ∧ (2 ≤ d → -2 ≤ error - 4 * d) ∧
    (d ≤ -2 → error - 4 * d ≤ 2)

theorem agrees_iff (error : Int) : Agrees ((error - 2 * d).tdiv 2) d ↔ MakesUp d error := by
  unfold Agrees MakesUp
  rcases Int.le_total 0 (error - 2 * d) with hpos | hn
  · rw [Int.tdiv_eq_ediv_of_nonneg hpos]
    omega
  · rw [← Int.neg_neg (error - 2 * d), Int.neg_tdiv, Int.tdiv_eq_ediv_of_nonneg (by omega)]
    omega

theorem ntpSync_offset (elapsed : Nat) (seq : BitVec 16) {t1 t2 t3 t4 : Nat}
    (h : Exchange (-d) delay t1 t2 t3 t4) :
    (ntpSync elapsed (unixToNtp t1) (exchange seq t1 t2 t3) (unixToNtp t4)).1.offsetNs
      = (wireError t1 t2 t3 t4 - 2 * d).tdiv 2 := by
  obtain ⟨hthere, hb⟩ := h
  unfold ntpSync
  dsimp only
  rw [clockOffset_eq]
  unfold wireError wireLoss exchange
  congr 1
  dsimp only
  omega

theorem ntpSync_measurement {seq : BitVec 16} {t1 t2 t3 t4 : Nat}
    (h : Exchange (-d) delay t1 t2 t3 t4)
    (hm : (ntpSync elapsed (unixToNtp t1) (exchange seq t1 t2 t3) (unixToNtp t4)).2
      = some measurement) :
    measurement.offsetLocalMinusMasterNs = (wireError t1 t2 t3 t4 - 2 * d).tdiv 2 := by
  obtain ⟨hthere, hb⟩ := h
  rw [ptpMeasurement_offset hm]
  unfold wireError wireLoss exchange
  congr 1
  dsimp only
  omega

/-- The wire carries a time of the era but for a nanosecond. -/
theorem wireLoss_bounds {unixNs : Nat} (h : unixNs < NTP_ERA_END_NS) :
    0 ≤ wireLoss unixNs ∧ wireLoss unixNs ≤ 1 := by
  have hs := (survives_iff unixNs).mpr h
  unfold Survives at hs
  unfold wireLoss
  omega

/-- Within the era it is the difference itself that has to vanish. -/
theorem makesUp_iff {t1 t2 t3 t4 : Nat} (he : ∀ t ∈ [t1, t2, t3, t4], t < NTP_ERA_END_NS) :
    MakesUp d (wireError t1 t2 t3 t4) ↔
      d = 0 ∨ d = 1 ∧ 1 ≤ wireError t1 t2 t3 t4 ∨ d = -1 ∧ wireError t1 t2 t3 t4 ≤ -1 := by
  obtain ⟨_, _⟩ := wireLoss_bounds (he t1 (by simp))
  obtain ⟨_, _⟩ := wireLoss_bounds (he t2 (by simp))
  obtain ⟨_, _⟩ := wireLoss_bounds (he t3 (by simp))
  obtain ⟨_, _⟩ := wireLoss_bounds (he t4 (by simp))
  unfold MakesUp wireError
  omega

/-! ## Every producer -/

/-- The tracker yields local minus master, of a Follow_Up alone with the
delay on top, and so does the client. The offset of an NTP exchange agrees
with it exactly when the wire makes up for the sign. -/
theorem offset_sign_iff (d : Int) (delay : Nat) :
    (∀ (tracker : PtpMeasurementTracker) (header : PtpHeader) (packet : Bytes)
      (state : PtpClockState), (tracker.observeFollowUp header packet).2 = some state →
      ∃ pending t1, tracker.pendingSync = some pending ∧
        PtpTimestamp.parse (slice packet 34 44) = .ok t1 ∧
        ((pending.receivedAt.toNanos : Int) = t1.toNanos + d + delay →
          FitsI64 (d + delay) → state.offset.offsetNs = d + delay)) ∧
    (∀ (tracker : PtpMeasurementTracker) (header : PtpHeader) (packet : Bytes)
      (state : PtpClockState), (tracker.observeDelayResponse header packet).2 = some state →
      ∃ pending t4, tracker.pendingDelay = some pending ∧
        PtpTimestamp.parse (slice packet 34 44) = .ok t4 ∧
        (FitsI64 d →
          Exchange d delay pending.sync.masterSentAt.toNanos pending.sync.localReceivedAt.toNanos
            pending.localSentAt.toNanos t4.toNanos → state.offset.offsetNs = d)) ∧
    (∀ (elapsed : Nat) (t1 t2 t3 t4 : PtpTimestamp), FitsI64 d →
      Exchange d delay t1.toNanos t2.toNanos t3.toNanos t4.toNanos →
        (calculateOffset elapsed t1 t2 t3 t4).1.offsetNs = d ∧
        ∀ measurement ∈ (calculateOffset elapsed t1 t2 t3 t4).2,
          measurement.offsetLocalMinusMasterNs = d) ∧
    (∀ (elapsed : Nat) (seq : BitVec 16) (t1 t2 t3 t4 : Nat), Exchange (-d) delay t1 t2 t3 t4 →
        let synced := ntpSync elapsed (unixToNtp t1) (exchange seq t1 t2 t3) (unixToNtp t4)
        (Agrees synced.1.offsetNs d ↔ MakesUp d (wireError t1 t2 t3 t4)) ∧
        (∀ measurement ∈ synced.2, Agrees measurement.offsetLocalMinusMasterNs d ↔
          MakesUp d (wireError t1 t2 t3 t4)) ∧
        ((∀ t ∈ [t1, t2, t3, t4], t < NTP_ERA_END_NS) → (MakesUp d (wireError t1 t2 t3 t4) ↔
            d = 0 ∨ d = 1 ∧ 1 ≤ wireError t1 t2 t3 t4 ∨ d = -1 ∧ wireError t1 t2 t3 t4 ≤ -1))) ∧
    ∀ (localNs masterNs : Nat), (masterNs : Int) = localNs - d → masterNs ≤ U64_MAX →
      localToMasterNs localNs d = some masterNs := by
  refine ⟨fun tracker header packet state hp => ?_, fun tracker header packet state hp => ?_,
    fun elapsed t1 t2 t3 t4 hf h => ?_, fun elapsed seq t1 t2 t3 t4 h => ?_,
    fun localNs masterNs => localToMasterNs_exact⟩
  · rcases @PtpMeasurementTracker.observeFollowUp_cases tracker header packet with
      hn | ⟨clock, pending, t1, -, he, -, -, ht1, hs⟩
    · rw [hn] at hp
      cases hp
    · rw [hs] at hp
      cases hp
      refine ⟨pending, t1, he, ht1, fun hthere hf => ?_⟩
      have ho : (pending.receivedAt.toNanos : Int) - t1.toNanos = d + delay := by omega
      unfold oneWayOffset
      rw [ho]
      exact (asI64_eq_iff _).mpr hf
  · rcases @PtpMeasurementTracker.observeDelayResponse_cases tracker header packet with
      hn | ⟨clock, pending, t4, -, he, -, -, -, ht4, hs⟩
    · rw [hn] at hp
      cases hp
    · rw [hs] at hp
      cases hp
      exact ⟨pending, t4, he, ht4, fun hf h => roundTripOffset_of_exchange hf h⟩
  · exact ⟨roundTripOffset_of_exchange hf h, fun _ => calculateOffset_measurement h⟩
  · refine ⟨?_, fun measurement hm => ?_, makesUp_iff⟩
    · rw [ntpSync_offset elapsed seq h, agrees_iff]
    · rw [ntpSync_measurement h hm, agrees_iff]

/-- The local clock is a second ahead. The offset says that it is a second
behind, and the local time becomes the master's of two seconds later. -/
theorem ntp_offset_is_negated :
    Exchange (-1000000000) 0 3000000000 2000000000 2000000000 3000000000 ∧
    let synced := ntpSync 0 (unixToNtp 3000000000)
      (exchange 0 3000000000 2000000000 2000000000) (unixToNtp 3000000000)
    synced.1.offsetNs = -1000000000 ∧ ¬ Agrees synced.1.offsetNs 1000000000 ∧
    synced.2.map (·.offsetLocalMinusMasterNs) = some (-1000000000) ∧
    localToMasterNs 3000000000 synced.1.offsetNs = some 4000000000 :=
  ⟨⟨by decide, by decide⟩, by decide, by decide, by decide, by decide⟩

end OpenAirCast.Timing
