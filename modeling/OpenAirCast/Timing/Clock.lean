/-
Timing.Clock — clock offsets and wire timestamps, from
`airplay-timing/clock.rs` and `diagnostics.rs`.

Nanosecond counters are `Nat`; where the source checks that a result fits
into 64 bits, so does the model.
-/
import OpenAirCast.Lib.Bytes

namespace OpenAirCast.Timing

def U64_MAX : Nat := 18446744073709551615

def NS_PER_SECOND : Nat := 1000000000

/-- Seconds from 1900 to 1970. -/
def NTP_EPOCH_OFFSET : Nat := 2208988800

/-- Measured as local minus master. -/
structure ClockOffset where
  offsetNs : Int := 0
  errorNs : Nat := 0
  rttNs : Nat := 0
  deriving DecidableEq

/-- A master clock with the offset measured against it. -/
structure PtpClockState where
  masterClockId : BitVec 64
  offset : ClockOffset
  deriving DecidableEq

variable (ns : Nat)

/-- The binary fraction of a second, rounded down. -/
def binaryFraction : Nat := (ns % NS_PER_SECOND) * 2 ^ 32 / NS_PER_SECOND

/-- Seconds since 1900 in the upper half, where the shift drops what does
not fit, and the binary fraction in the lower. -/
def unixToNtp (unixNs : Nat) : BitVec 64 :=
  BitVec.ofNat 64 ((unixNs / NS_PER_SECOND + NTP_EPOCH_OFFSET) * 2 ^ 32 + binaryFraction unixNs)

/-- `master = local - offset`; `none` where that leaves 64 bits. -/
def localToMasterNs (localNs : Nat) (offsetLocalMinusMasterNs : Int) : Option Nat :=
  let master := (localNs : Int) - offsetLocalMinusMasterNs
  if master < 0 ∨ (U64_MAX : Int) < master then none else some master.toNat

/-! ## Reading a timestamp -/

/-- Nanoseconds of a binary fraction, rounded up. -/
def nsOfFraction (fraction : Nat) : Nat :=
  (fraction * NS_PER_SECOND + (2 ^ 32 - 1)) / 2 ^ 32

/-- A binary fraction of 32 bits tells nanoseconds apart. -/
theorem nsOfFraction_binaryFraction : nsOfFraction (binaryFraction ns) = ns % NS_PER_SECOND := by
  unfold nsOfFraction binaryFraction NS_PER_SECOND
  omega

theorem binaryFraction_lt : binaryFraction ns < 2 ^ 32 := by
  unfold binaryFraction NS_PER_SECOND
  omega

end OpenAirCast.Timing
