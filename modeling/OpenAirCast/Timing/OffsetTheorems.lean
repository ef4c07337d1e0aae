/-
Timing.OffsetTheorems — when a published clock offset is exact.

The tracker computes with unbounded integers and narrows at the end, so a
published value is the exact one where that fits (`asI64_eq_iff`,
`asU64_eq_iff`), and another one elsewhere. The conversion of a local time
checks its range, so it is right for the offset it is given
(`localToMasterNs_some`).
-/
import OpenAirCast.Timing.PtpTheorems
import Mathlib.Algebra.Group.Int.Defs
import Mathlib.Data.BitVec

namespace OpenAirCast.Timing

open PtpMeasurementTracker

/-! ## Narrowing -/

/-- The range of an `i64`. -/
def FitsI64 (x : Int) : Prop := -2 ^ 63 ≤ x ∧ x < 2 ^ 63

instance (x : Int) : Decidable (FitsI64 x) := inferInstanceAs (Decidable (_ ∧ _))

theorem asI64_eq_iff (x : Int) : asI64 x = x ↔ FitsI64 x := by
  unfold asI64 FitsI64
  rw [BitVec.toInt_ofInt]
  constructor
  · intro h
    have hl := Int.le_bmod (x := x) (m := 2 ^ 64) (by decide)
    have hh := Int.bmod_lt (x := x) (m := 2 ^ 64) (by decide)
    omega
  · rintro ⟨_, _⟩
    exact Int.bmod_eq_of_le (by omega) (by omega)

theorem asU64_eq_iff (n : Nat) : asU64 n = n ↔ n < 2 ^ 64 := by
  unfold asU64
  exact ⟨fun h => h ▸ Nat.mod_lt n (by decide), Nat.mod_eq_of_lt⟩

theorem localToMasterNs_some {localNs masterNs : Nat} {offsetNs : Int}
    (h : localToMasterNs localNs offsetNs = some masterNs) :
    (masterNs : Int) = localNs - offsetNs := by
  simp only [localToMasterNs] at h
  split at h
  · cases h
  · rename_i hr
    rw [← Option.some.inj h]
    omega

/-! ## Exact offsets -/

/-- The offset says these values, and a local time is converted with them or
not at all. -/
structure ClockOffset.Exact (offset : ClockOffset) (exactNs : Int) (exactErrorNs exactRttNs : Nat) :
    Prop where
  offsetNs : offset.offsetNs = exactNs
  errorNs : offset.errorNs = exactErrorNs
  rttNs : offset.rttNs = exactRttNs
  converts : ∀ localNs masterNs, localToMasterNs localNs offset.offsetNs = some masterNs →
    (masterNs : Int) = localNs - exactNs

/-- Local minus master, one way. -/
def oneWayNs (t1 t2 : PtpTimestamp) : Int := (t2.toNanos : Int) - t1.toNanos

/-- Half the sum of the two ways. -/
def roundTripNs (t1 t2 t3 t4 : PtpTimestamp) : Int :=
  (((t2.toNanos : Int) - t1.toNanos) + (t3.toNanos - t4.toNanos)).tdiv 2

/-- Half their difference. -/
def pathDelayNs (t1 t2 t3 t4 : PtpTimestamp) : Int :=
  (((t2.toNanos : Int) - t1.toNanos) - (t3.toNanos - t4.toNanos)).tdiv 2

theorem oneWayOffset_exact_iff (t1 t2 : PtpTimestamp) :
    (oneWayOffset t1 t2).Exact (oneWayNs t1 t2) UNMEASURED_PATH_DELAY_NS 0 ↔
      FitsI64 (oneWayNs t1 t2) := by
  rw [← asI64_eq_iff]
  constructor
  · exact fun h => h.offsetNs
  · intro hf
    have ho : (oneWayOffset t1 t2).offsetNs = oneWayNs t1 t2 := hf
    refine ⟨ho, rfl, rfl, fun localNs masterNs h => ?_⟩
    rw [ho] at h
    exact localToMasterNs_some h

theorem roundTripOffset_exact_iff (t1 t2 t3 t4 : PtpTimestamp) :
    (roundTripOffset t1 t2 t3 t4).Exact (roundTripNs t1 t2 t3 t4)
        ((pathDelayNs t1 t2 t3 t4).natAbs / 2) (pathDelayNs t1 t2 t3 t4).natAbs ↔
      FitsI64 (roundTripNs t1 t2 t3 t4) ∧ (pathDelayNs t1 t2 t3 t4).natAbs < 2 ^ 64 := by
  rw [← asI64_eq_iff, ← asU64_eq_iff]
  constructor
  · exact fun h => ⟨h.offsetNs, h.rttNs⟩
  · rintro ⟨hf, hd⟩
    have ho : (roundTripOffset t1 t2 t3 t4).offsetNs = roundTripNs t1 t2 t3 t4 := hf
    refine ⟨ho, ?_, hd, fun localNs masterNs h => ?_⟩
    · -- half of what fits, fits
      have hlt := (asU64_eq_iff _).mp hd
      exact (asU64_eq_iff _).mpr (Nat.lt_of_le_of_lt (Nat.div_le_self _ 2) hlt)
    · rw [ho] at h
      exact localToMasterNs_some h

/-- What the tracker publishes of a Follow_Up or a Delay_Resp is exact
exactly when the offset is one of 64 bits, signed, and the path delay one of
64 bits, unsigned. -/
theorem published_offsets_exact_iff (tracker : PtpMeasurementTracker) (header : PtpHeader)
    (packet : Bytes) (state : PtpClockState) :
    ((tracker.observeFollowUp header packet).2 = some state →
      ∃ pending t1, tracker.pendingSync = some pending ∧
        PtpTimestamp.parse (slice packet 34 44) = .ok t1 ∧
        let t2 := pending.receivedAt
        (state.offset.Exact (oneWayNs t1 t2) UNMEASURED_PATH_DELAY_NS 0 ↔
          FitsI64 (oneWayNs t1 t2))) ∧
    ((tracker.observeDelayResponse header packet).2 = some state →
      ∃ pending t4, tracker.pendingDelay = some pending ∧
        PtpTimestamp.parse (slice packet 34 44) = .ok t4 ∧
        let t1 := pending.sync.masterSentAt
        let t2 := pending.sync.localReceivedAt
        let t3 := pending.localSentAt
        (state.offset.Exact (roundTripNs t1 t2 t3 t4) ((pathDelayNs t1 t2 t3 t4).natAbs / 2)
            (pathDelayNs t1 t2 t3 t4).natAbs ↔
          FitsI64 (roundTripNs t1 t2 t3 t4) ∧ (pathDelayNs t1 t2 t3 t4).natAbs < 2 ^ 64)) := by
  constructor
  · intro hp
    rcases @observeFollowUp_cases tracker header packet with
      hn | ⟨clock, pending, t1, -, he, -, -, ht1, hs⟩
    · rw [hn] at hp
      cases hp
    · rw [hs] at hp
      cases hp
      exact ⟨pending, t1, he, ht1, oneWayOffset_exact_iff t1 pending.receivedAt⟩
  · intro hp
    rcases @observeDelayResponse_cases tracker header packet with
      hn | ⟨clock, pending, t4, -, he, -, -, -, ht4, hs⟩
    · rw [hn] at hp
      cases hp
    · rw [hs] at hp
      cases hp
      exact ⟨pending, t4, he, ht4, roundTripOffset_exact_iff _ _ _ t4⟩

/-- The Sync arrives in second 5, and by the clock of the master it was sent
in second 2 ^ 34. -/
def farAhead : List BmcaEvent :=
  [ arrives .general {} (messageHead 0x0B 0 ++ List.replicate 26 0 ++ [9]),
    arrives .event { seconds := 5 } (messageHead 0x00 3),
    arrives .general { seconds := 6 } (messageHead 0x08 3 ++ [0, 4, 0, 0, 0, 0, 0, 0, 0, 0]) ]

/-- The clock is behind by 17 * 10 ^ 18 ns, and published as ahead. A local
time that has no time of the master is converted to one. -/
theorem far_ahead_wraps : ∃ front t offset,
    Mealy.trace BmcaFlow.step (.start relay 1) farAhead = front ++ [t] ∧
    t.output.published = [some { masterClockId := 9, offset := offset }] ∧
    oneWayNs { seconds := 2 ^ 34 } { seconds := 5 } = -17179869179000000000 ∧
    offset.offsetNs = 1266874894709551616 ∧
    localToMasterNs 2000000000000000000 (-17179869179000000000) = none ∧
    localToMasterNs 2000000000000000000 offset.offsetNs = some 733125105290448384 ∧
    ¬ offset.Exact (oneWayNs { seconds := 2 ^ 34 } { seconds := 5 })
      UNMEASURED_PATH_DELAY_NS 0 := by
  have ho : (oneWayOffset { seconds := 2 ^ 34 } { seconds := 5 }).offsetNs
      = 1266874894709551616 := by decide
  have he : oneWayNs { seconds := 2 ^ 34 } { seconds := 5 } = -17179869179000000000 := by decide
  refine ⟨[_, _], _, oneWayOffset { seconds := 2 ^ 34 } { seconds := 5 }, rfl, ?_, he,
    ho, by decide, ?_, fun h => ?_⟩
  · decide
  · rw [ho]
    decide
  · have heq := h.offsetNs
    rw [ho, he] at heq
    cases heq

end OpenAirCast.Timing
