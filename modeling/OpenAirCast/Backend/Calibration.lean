/-
Backend.Calibration — relative presentation delays, from
`calibration.rs` and `presentation_delays_for` of `backend/transport.rs`.

A profile holds the signed delays the user asked for. `normalizeCalibration`
shifts those of the active receivers so that the smallest becomes zero.
The arithmetic runs in a wider type and is narrowed to 64 bits at the end,
so the requested values are 64-bit words here and the shifted ones `Int`.
-/
import OpenAirCast.Backend.Model
import OpenAirCast.Lib.SortedMap
import Mathlib.Algebra.Group.Int.Defs

namespace OpenAirCast.Backend

structure CalibrationProfile where
  /-- The receiver the delays are judged against. -/
  referenceReceiver : Option ReceiverId := none
  /-- Requested delay per receiver in nanoseconds; absent means zero. -/
  requestedRelativeDelayNs : SortedMap ReceiverId Int64 := .empty
  deriving DecidableEq

structure EffectiveCalibration where
  minimumRequestedNs : Int64
  effectiveDelayNs : SortedMap ReceiverId UInt64

inductive CalibrationError where
  | emptySelection
  | referenceNotInSelection
  | arithmeticOverflow

inductive CalibrationCommand where
  | applyCalibrationProfile (expectedDesiredRevision : Nat) (profile : CalibrationProfile)
  | resetCalibration (expectedDesiredRevision : Nat)
  | runCalibrationClickTest

variable (profile : CalibrationProfile) (receiver : ReceiverId)

def requestedDelayNs : Int64 :=
  (profile.requestedRelativeDelayNs.get receiver).getD 0

/-- The delays of the receivers, each shifted by the minimum. -/
def shiftDelays (profile : CalibrationProfile) (minimum : Int64) :
    List ReceiverId → Except CalibrationError (SortedMap ReceiverId UInt64)
  | [] => .ok .empty
  | receiver :: rest =>
    let shifted := (requestedDelayNs profile receiver).toInt - minimum.toInt
    if 0 ≤ shifted ∧ shifted < 2 ^ 64 then
      (shiftDelays profile minimum rest).map (·.insert receiver (UInt64.ofNat shifted.toNat))
    else .error .arithmeticOverflow

def normalizeCalibration (active : Finset ReceiverId) (profile : CalibrationProfile) :
    Except CalibrationError EffectiveCalibration :=
  if active = ∅ then .error .emptySelection
  else if profile.referenceReceiver.any (fun reference => decide (reference ∉ active)) then
    .error .referenceNotInSelection
  else
    let minimum := (((sortedIds active).map (requestedDelayNs profile)).min?).getD 0
    (shiftDelays profile minimum (sortedIds active)).map (⟨minimum, ·⟩)

/-! ## By device -/

/-- `ReceiverId::from`: the same six octets. -/
def receiverOf (device : DeviceId) : ReceiverId := ⟨device.octets⟩

/-- `DeviceId::from`: the same six octets. -/
def deviceOf : DeviceId := ⟨receiver.octets⟩

/-- Every entry under its device. -/
def byDevice : List (ReceiverId × UInt64) → SortedMap DeviceId UInt64
  | [] => .empty
  | entry :: rest => (byDevice rest).insert (deviceOf entry.1) entry.2

def effectiveDelaysByDevice (effective : EffectiveCalibration) : SortedMap DeviceId UInt64 :=
  byDevice effective.effectiveDelayNs.entries

/-- For exactly the receivers that connected. A reference receiver that did
not is dropped. -/
def presentationDelaysFor (connected : List DeviceId) (calibration : CalibrationProfile) :
    Except CalibrationError (SortedMap DeviceId UInt64) :=
  let active := (connected.map receiverOf).toFinset
  let anchored := { calibration with
    referenceReceiver :=
      calibration.referenceReceiver.filter (fun reference => decide (reference ∈ active)) }
  (normalizeCalibration active anchored).map effectiveDelaysByDevice

end OpenAirCast.Backend
