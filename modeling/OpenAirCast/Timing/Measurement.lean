/-
Timing.Measurement — what a completed exchange yields, from
`airplay-timing/diagnostics.rs`, `ntp.rs` and `ptp.rs`: the measurement that
is recorded, `NtpTimingClient::sync` and `PtpClient::calculate_offset`.

The recorder stamps the sequence, which is 0 before.
-/
import OpenAirCast.Timing.Ntp
import Mathlib.Algebra.Group.Int.Defs

namespace OpenAirCast.Timing

structure TimingMeasurement where
  measurementSequence : Nat := 0
  observedElapsedNs : Nat
  offsetLocalMinusMasterNs : Int
  meanPathDelayNs : Nat

/-- `none` where the offset does not fit or a subtraction underflows. -/
def ptpMeasurement (observedElapsedNs t1MasterTxNs t2LocalRxNs t3LocalTxNs t4MasterRxNs : Nat) :
    Option TimingMeasurement :=
  let rxLeg := (t2LocalRxNs : Int) - t1MasterTxNs
  let txLeg := (t3LocalTxNs : Int) - t4MasterRxNs
  let offset := (rxLeg + txLeg).tdiv 2
  let uplink := t4MasterRxNs - t1MasterTxNs
  let downlink := t3LocalTxNs - t2LocalRxNs
  if (-2 ^ 63 ≤ offset ∧ offset < 2 ^ 63) ∧ t1MasterTxNs ≤ t4MasterRxNs
      ∧ t2LocalRxNs ≤ t3LocalTxNs ∧ downlink ≤ uplink then
    some
      { observedElapsedNs := observedElapsedNs
        offsetLocalMinusMasterNs := offset
        meanPathDelayNs := (uplink - downlink) / 2 }
  else none

variable (elapsedNs : Nat)

/-- The offset that an NTP exchange yields, and the measurement. -/
def ntpSync (requestReferenceTime : BitVec 64) (response : NtpResponse)
    (recvTime : BitVec 64) : ClockOffset × Option TimingMeasurement :=
  let rttNs := response.roundTripTime recvTime
  ({ offsetNs := response.clockOffset recvTime
     errorNs := rttNs.natAbs / 2
     rttNs := rttNs.natAbs },
   ptpMeasurement elapsedNs (ntpToUnix requestReferenceTime) (ntpToUnix response.receiveTime)
    (ntpToUnix response.sendTime) (ntpToUnix recvTime))

/-- The same of a PTP exchange. A time that does not fit into a `u64` is not
recorded. -/
def calculateOffset (t1 t2 t3 t4 : PtpTimestamp) :
    ClockOffset × Option TimingMeasurement :=
  (roundTripOffset t1 t2 t3 t4,
    if t1.toNanos < 2 ^ 64 ∧ t2.toNanos < 2 ^ 64 ∧ t3.toNanos < 2 ^ 64 ∧ t4.toNanos < 2 ^ 64 then
      ptpMeasurement elapsedNs t1.toNanos t2.toNanos t3.toNanos t4.toNanos
    else none)

end OpenAirCast.Timing
