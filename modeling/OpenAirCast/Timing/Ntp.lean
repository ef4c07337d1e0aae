/-
Timing.Ntp — wire timestamps read back, and the exchange of the
NTP timing protocol, from `airplay-timing/clock.rs` and `ntp.rs`.

An `i64` operation wraps, as it does in a release build.
-/
import OpenAirCast.Timing.Ptp

namespace OpenAirCast.Timing

/-- Seconds before 1970 saturate, and the fraction is rounded down. -/
def ntpToUnix (ntp : BitVec 64) : Nat :=
  let ntpSecs := ntp.toNat / 2 ^ 32
  let ntpFrac := ntp.toNat % 2 ^ 32
  (ntpSecs - NTP_EPOCH_OFFSET) * NS_PER_SECOND + ntpFrac * NS_PER_SECOND / 2 ^ 32

structure NtpResponse where
  sequence : BitVec 16
  /-- Echoed from the request. -/
  referenceTime : BitVec 64
  receiveTime : BitVec 64
  sendTime : BitVec 64

namespace NtpResponse

variable (response : NtpResponse) (localRecvTime : BitVec 64)

/-- `(t4 - t1) - (t3 - t2)`. -/
def roundTripTime : Int :=
  let t1 := asI64 (ntpToUnix response.referenceTime)
  let t2 := asI64 (ntpToUnix response.receiveTime)
  let t3 := asI64 (ntpToUnix response.sendTime)
  let t4 := asI64 (ntpToUnix localRecvTime)
  asI64 (asI64 (t4 - t1) - asI64 (t3 - t2))

/-- `((t2 - t1) + (t3 - t4)) / 2`; positive when the remote is ahead. -/
def clockOffset : Int :=
  let t1 := asI64 (ntpToUnix response.referenceTime)
  let t2 := asI64 (ntpToUnix response.receiveTime)
  let t3 := asI64 (ntpToUnix response.sendTime)
  let t4 := asI64 (ntpToUnix localRecvTime)
  (asI64 (asI64 (t2 - t1) + asI64 (t3 - t4))).tdiv 2

end NtpResponse

end OpenAirCast.Timing
