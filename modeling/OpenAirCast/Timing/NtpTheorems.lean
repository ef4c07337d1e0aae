/-
Timing.NtpTheorems — what a wall time is after its encoding.

The 32 bits for the seconds end the era in 2036 (`NTP_ERA_END_NS`). Below
that the two roundings lose at most one nanosecond; from there on the seconds
start over and the time is lost. A decoded time is below the end of the era
whatever the 64 bits are, so no difference of two of them leaves an `i64`.
-/
import OpenAirCast.Timing.Ntp
import OpenAirCast.Timing.OffsetTheorems

namespace OpenAirCast.Timing

/-- The first time whose seconds since 1900 do not fit into 32 bits. -/
def NTP_ERA_END_NS : Nat := (2 ^ 32 - NTP_EPOCH_OFFSET) * NS_PER_SECOND

/-- What is read back is the time or the nanosecond before it. -/
def Survives (unixNs : Nat) : Prop :=
  ntpToUnix (unixToNtp unixNs) = unixNs ∨ ntpToUnix (unixToNtp unixNs) + 1 = unixNs

/-! ## One timestamp -/

section

variable (unixNs : Nat)

theorem unixToNtp_toNat : (unixToNtp unixNs).toNat
    = (unixNs / NS_PER_SECOND + NTP_EPOCH_OFFSET) % 2 ^ 32 * 2 ^ 32 + binaryFraction unixNs := by
  have hf := binaryFraction_lt unixNs
  unfold unixToNtp
  rw [BitVec.toNat_ofNat]
  omega

/-- Rounding down twice loses a nanosecond or nothing. -/
theorem readFraction :
    binaryFraction unixNs * NS_PER_SECOND / 2 ^ 32 ≤ unixNs % NS_PER_SECOND ∧
      unixNs % NS_PER_SECOND ≤ binaryFraction unixNs * NS_PER_SECOND / 2 ^ 32 + 1 := by
  unfold binaryFraction NS_PER_SECOND
  omega

theorem ntpToUnix_unixToNtp : ntpToUnix (unixToNtp unixNs)
    = ((unixNs / NS_PER_SECOND + NTP_EPOCH_OFFSET) % 2 ^ 32 - NTP_EPOCH_OFFSET) * NS_PER_SECOND
      + binaryFraction unixNs * NS_PER_SECOND / 2 ^ 32 := by
  have hfract := binaryFraction_lt unixNs
  unfold ntpToUnix
  rw [unixToNtp_toNat]
  have hs : ((unixNs / NS_PER_SECOND + NTP_EPOCH_OFFSET) % 2 ^ 32 * 2 ^ 32
      + binaryFraction unixNs) / 2 ^ 32 = (unixNs / NS_PER_SECOND + NTP_EPOCH_OFFSET) % 2 ^ 32 := by
    omega
  have hf : ((unixNs / NS_PER_SECOND + NTP_EPOCH_OFFSET) % 2 ^ 32 * 2 ^ 32
      + binaryFraction unixNs) % 2 ^ 32 = binaryFraction unixNs := by
    omega
  simp only [hs, hf]

/-- Seconds of the era are not reduced, and later ones are below it. -/
theorem secondsOf : unixNs < NTP_ERA_END_NS
        ∧ (unixNs / NS_PER_SECOND + NTP_EPOCH_OFFSET) % 2 ^ 32
          = unixNs / NS_PER_SECOND + NTP_EPOCH_OFFSET
      ∨ NTP_ERA_END_NS ≤ unixNs
        ∧ (unixNs / NS_PER_SECOND + NTP_EPOCH_OFFSET) % 2 ^ 32 - NTP_EPOCH_OFFSET
          < unixNs / NS_PER_SECOND := by
  simp only [NTP_ERA_END_NS, NS_PER_SECOND, NTP_EPOCH_OFFSET]
  omega

theorem survives_iff : Survives unixNs ↔ unixNs < NTP_ERA_END_NS := by
  obtain ⟨_, _⟩ := readFraction unixNs
  have hp := Nat.div_add_mod unixNs NS_PER_SECOND
  unfold Survives
  rw [ntpToUnix_unixToNtp]
  rcases secondsOf unixNs with ⟨he, hs⟩ | ⟨he, hs⟩
  · rw [hs, Nat.add_sub_cancel, Nat.mul_comm]
    omega
  · have hl := Nat.mul_le_mul_right NS_PER_SECOND (Nat.succ_le_of_lt hs)
    have hf : unixNs % NS_PER_SECOND < NS_PER_SECOND := Nat.mod_lt _ (by decide)
    rw [Nat.mul_comm NS_PER_SECOND] at hp
    rw [Nat.succ_mul] at hl
    have hc : 2 ≤ NS_PER_SECOND := by decide
    omega

end

theorem unixToNtp_mono {x y : Nat} (hle : x ≤ y) (he : y < NTP_ERA_END_NS) :
    unixToNtp x ≤ unixToNtp y := by
  have hc := Nat.div_le_div_right (c := NS_PER_SECOND) hle
  have hx := binaryFraction_lt x
  rw [BitVec.le_def, unixToNtp_toNat, unixToNtp_toNat]
  rcases secondsOf x with ⟨-, hsx⟩ | ⟨_, -⟩
  · rcases secondsOf y with ⟨-, hy⟩ | ⟨_, -⟩
    · rw [hsx, hy]
      rcases Nat.lt_or_ge (x / NS_PER_SECOND) (y / NS_PER_SECOND) with _ | hge
      · omega
      · have hf : binaryFraction x ≤ binaryFraction y := by
          have hm : x % NS_PER_SECOND ≤ y % NS_PER_SECOND := by
            have hs := Nat.div_add_mod x NS_PER_SECOND
            have hs' := Nat.div_add_mod y NS_PER_SECOND
            rw [le_antisymm hc hge] at hs
            omega
          exact Nat.div_le_div_right (Nat.mul_le_mul_right _ hm)
        omega
    · omega
  · omega

/-! ## An exchange -/

theorem ntpToUnix_lt (ntp : BitVec 64) : ntpToUnix ntp < NTP_ERA_END_NS := by
  have hlt := ntp.isLt
  unfold ntpToUnix NTP_ERA_END_NS
  simp only [NS_PER_SECOND, NTP_EPOCH_OFFSET]
  omega

theorem asI64_ntpToUnix (ntp : BitVec 64) : asI64 (ntpToUnix ntp) = ntpToUnix ntp := by
  have hlt := ntpToUnix_lt ntp
  rw [asI64_eq_iff]
  simp only [FitsI64, NTP_ERA_END_NS, NS_PER_SECOND, NTP_EPOCH_OFFSET] at *
  omega

theorem asI64_of_bounds {x : Int} (hl : -2 ^ 63 ≤ x) (hh : x < 2 ^ 63) : asI64 x = x :=
  (asI64_eq_iff x).mpr ⟨hl, hh⟩

theorem asI64_sub (x y : BitVec 64) :
    asI64 ((ntpToUnix x : Int) - ntpToUnix y) = ntpToUnix x - ntpToUnix y := by
  have hx := ntpToUnix_lt x
  have hy := ntpToUnix_lt y
  simp only [NTP_ERA_END_NS, NS_PER_SECOND, NTP_EPOCH_OFFSET] at hx hy
  exact asI64_of_bounds (by omega) (by omega)

variable (resp : NtpResponse) (localRecvTime : BitVec 64)

theorem roundTripTime_eq :
    resp.roundTripTime localRecvTime
      = ((ntpToUnix localRecvTime : Int) - ntpToUnix resp.referenceTime)
        - (ntpToUnix resp.sendTime - ntpToUnix resp.receiveTime) := by
  have h1 := ntpToUnix_lt resp.referenceTime
  have h2 := ntpToUnix_lt resp.receiveTime
  have h3 := ntpToUnix_lt resp.sendTime
  have h4 := ntpToUnix_lt localRecvTime
  simp only [NTP_ERA_END_NS, NS_PER_SECOND, NTP_EPOCH_OFFSET] at h1 h2 h3 h4
  simp only [NtpResponse.roundTripTime, asI64_ntpToUnix]
  rw [asI64_sub, asI64_sub, asI64_of_bounds (by omega) (by omega)]

theorem clockOffset_eq :
    resp.clockOffset localRecvTime
      = (((ntpToUnix resp.receiveTime : Int) - ntpToUnix resp.referenceTime)
        + (ntpToUnix resp.sendTime - ntpToUnix localRecvTime)).tdiv 2 := by
  have h1 := ntpToUnix_lt resp.referenceTime
  have h2 := ntpToUnix_lt resp.receiveTime
  have h3 := ntpToUnix_lt resp.sendTime
  have h4 := ntpToUnix_lt localRecvTime
  simp only [NTP_ERA_END_NS, NS_PER_SECOND, NTP_EPOCH_OFFSET] at h1 h2 h3 h4
  simp only [NtpResponse.clockOffset, asI64_ntpToUnix]
  rw [asI64_sub, asI64_sub, asI64_of_bounds (by omega) (by omega)]

/-- The round trip is off by at most 2 ns, and so is the offset; that one is
compared at twice its value, where the exact one is an integer. -/
structure ExchangeHolds (t1 t2 t3 t4 : Nat) (response : NtpResponse) : Prop where
  roundTrip : (response.roundTripTime (unixToNtp t4) - (((t4 : Int) - t1) - (t3 - t2))).natAbs ≤ 2
  offset : (2 * response.clockOffset (unixToNtp t4) - (((t2 : Int) - t1) + (t3 - t4))).natAbs ≤ 4

/-- The answer to a request, all of it encoded times. -/
def exchange (sequence : BitVec 16) (t1 t2 t3 : Nat) : NtpResponse :=
  ⟨sequence, unixToNtp t1, unixToNtp t2, unixToNtp t3⟩

theorem two_mul_tdiv (x : Int) : x - 1 ≤ 2 * x.tdiv 2 ∧ 2 * x.tdiv 2 ≤ x + 1 := by
  rw [Int.tdiv_eq_ediv]
  split <;> grind

theorem exchangeHolds {seq : BitVec 16} {t1 t2 t3 t4 : Nat} (h1 : Survives t1)
    (h2 : Survives t2) (h3 : Survives t3) (h4 : Survives t4) :
    ExchangeHolds t1 t2 t3 t4 (exchange seq t1 t2 t3) := by
  unfold Survives at h1 h2 h3 h4
  constructor
  · rw [roundTripTime_eq]
    simp only [exchange]
    omega
  · rw [clockOffset_eq]
    simp only [exchange]
    have hh := two_mul_tdiv (((ntpToUnix (unixToNtp t2) : Int) - ntpToUnix (unixToNtp t1))
      + (ntpToUnix (unixToNtp t3) - ntpToUnix (unixToNtp t4)))
    omega

/-- A time of the first era is read back up to a nanosecond, and no later
one; encodings of the era are in the order of the times, and an exchange
within it is measured to 2 ns. -/
theorem wall_time_survives_ntp : (∀ unixNs, Survives unixNs ↔ unixNs < NTP_ERA_END_NS) ∧
    (∀ x y, x ≤ y → y < NTP_ERA_END_NS → unixToNtp x ≤ unixToNtp y) ∧
    (∀ sequence t1 t2 t3 t4, (∀ t ∈ [t1, t2, t3, t4], t < NTP_ERA_END_NS) →
      ExchangeHolds t1 t2 t3 t4 (exchange sequence t1 t2 t3)) := by
  refine ⟨survives_iff, fun _ _ => unixToNtp_mono, fun sequence t1 t2 t3 t4 he => ?_⟩
  have hs : ∀ t ∈ [t1, t2, t3, t4], Survives t := fun t ht => (survives_iff t).mpr (he t ht)
  exact exchangeHolds (hs t1 (by simp)) (hs t2 (by simp)) (hs t3 (by simp)) (hs t4 (by simp))

theorem wall_time_survives_ntp_2009 :
    unixToNtp 1234567890123456789 ≤ unixToNtp 1234567890123456790 ∧
    ExchangeHolds 0 1500000000 1500000001 1000000001 (exchange 7 0 1500000000 1500000001) :=
  ⟨wall_time_survives_ntp.2.1 _ _ (by decide) (by decide),
    wall_time_survives_ntp.2.2 7 _ _ _ _ (by decide)⟩

/-- The first second of 2036 that does not fit is read back as 1970, and its
encoding is below those before it. A remote that crossed the end of the era
seems 66 years behind. -/
theorem era_end_is_lost : NTP_ERA_END_NS = 2085978496000000000 ∧ NTP_ERA_END_NS < 2 ^ 63 ∧
    ntpToUnix (unixToNtp NTP_ERA_END_NS) = 0 ∧ ¬ Survives NTP_ERA_END_NS ∧
    ¬ unixToNtp (NTP_ERA_END_NS - 1) ≤ unixToNtp NTP_ERA_END_NS ∧
    ¬ ExchangeHolds (NTP_ERA_END_NS - 1) NTP_ERA_END_NS NTP_ERA_END_NS (NTP_ERA_END_NS - 1)
      (exchange 0 (NTP_ERA_END_NS - 1) NTP_ERA_END_NS NTP_ERA_END_NS) := by
  refine ⟨by decide, by decide, by decide, ?_, by decide, fun h => ?_⟩
  · rw [survives_iff]
    exact lt_irrefl _
  · exact absurd h.offset (by decide)

end OpenAirCast.Timing
