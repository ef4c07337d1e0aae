/-
Audio.Frame — one shared frame for every target of a group,
from `prepare_frame_for_targets` in `airplay-audio/streamer.rs`.

All presentation times are computed first; then every sender builds its
sync packet, and then every sender its audio packet. The last loop stops at
the first cipher that fails, with the senders as they are then.
-/
import OpenAirCast.Audio.Rtp
import OpenAirCast.Lib.Fallible

namespace OpenAirCast.Audio

inductive PresentationTimeError where
  | overflow
  | notInFuture
  deriving DecidableEq

inductive PrepareFrameError where
  | targetCountMismatch (targets delays : Nat)
  | presentationTime (index : Nat) (source : PresentationTimeError)
  | packet (source : AudioError)
  deriving DecidableEq

/-- `u64::checked_add`. -/
def checkedAdd (a b : Nat) : Option Nat := if a + b ≤ Timing.U64_MAX then some (a + b) else none

/-- Anchor, render lead and calibration delay, strictly after a master time
that has passed. -/
def checkedPresentationTimeNs
    (commonMasterTimeNs globalRenderLeadNs effectiveDelayNs nowMasterTimeNs : Nat) :
    Except PresentationTimeError Nat :=
  match (checkedAdd commonMasterTimeNs globalRenderLeadNs).bind (checkedAdd · effectiveDelayNs) with
  | none => .error .overflow
  | some presentation =>
    if presentation ≤ nowMasterTimeNs then .error .notInFuture else .ok presentation

/-- What one encoded frame contributes to every target. -/
structure FramePlan where
  payloadType : UInt8
  rtpTimestamp : BitVec 32
  /-- Announced as next in PT=87 packets. -/
  nextRtpTimestamp : BitVec 32
  payload : Bytes
  marker : Bool
  syncDue : Bool
  usePtpSync : Bool
  ptpMasterClockId : BitVec 64
  commonMasterTimeNs : Nat
  globalRenderLeadNs : Nat
  /-- A master time already known to have passed. -/
  referenceMasterTimeNs : Nat

/-- One frame serialized for every target, in target order. -/
structure PreparedFrame where
  wirePackets : List Bytes
  syncPackets : List (Option Bytes)
  deriving DecidableEq

namespace FramePlan

/-- A target's presentation time. -/
def presentation (plan : FramePlan) (delayNs : Nat) : Except PresentationTimeError Nat :=
  checkedPresentationTimeNs plan.commonMasterTimeNs plan.globalRenderLeadNs delayNs
    plan.referenceMasterTimeNs

/-- The presentation times from target `index` on, up to the first that
cannot be. -/
def presentationTimes (plan : FramePlan) (index : Nat) :
    List Nat → Except PrepareFrameError (List Nat)
  | [] => .ok []
  | delayNs :: rest =>
    match plan.presentation delayNs with
    | .error source => .error (.presentationTime index source)
    | .ok time => (plan.presentationTimes (index + 1) rest).map (time :: ·)

variable {κ : Type}

/-- A target's own sync packet for its presentation time. -/
def syncFor (plan : FramePlan) (sender : RtpSender κ) (presentationNs : Nat) :
    RtpSender κ × Option Bytes :=
  if plan.usePtpSync then
    sender.preparePtpSync plan.rtpTimestamp presentationNs plan.nextRtpTimestamp
      plan.ptpMasterClockId
  else sender.prepareSync plan.rtpTimestamp (Timing.unixToNtp presentationNs)

/-- A sync packet for every sender that owes one. -/
def syncAll (plan : FramePlan) (senders : List (RtpSender κ)) (times : List Nat) :
    List (RtpSender κ × Option Bytes) :=
  if plan.syncDue then List.zipWith plan.syncFor senders times
  else senders.map (fun sender => (sender, none))

variable [PacketCipher κ]

def audioFor (plan : FramePlan) (sender : RtpSender κ) : RtpSender κ × Except AudioError Bytes :=
  sender.prepareAudio plan.payloadType plan.rtpTimestamp plan.payload plan.marker

end FramePlan

/-- The senders afterwards, with the frame or the reason there is none. -/
def prepareFrameForTargets {κ : Type} [PacketCipher κ] (senders : List (RtpSender κ))
    (presentationDelaysNs : List Nat) (plan : FramePlan) :
    List (RtpSender κ) × Except PrepareFrameError PreparedFrame :=
  if senders.length ≠ presentationDelaysNs.length then
    (senders, .error (.targetCountMismatch senders.length presentationDelaysNs.length))
  else
    let times := if plan.syncDue then plan.presentationTimes 0 presentationDelaysNs else .ok []
    match times with
    | .error error => (senders, .error error)
    | .ok times =>
      let synced := plan.syncAll senders times
      match inPlace plan.audioFor (synced.map (·.1)) with
      | (senders, .error error) => (senders, .error (.packet error))
      | (senders, .ok wirePackets) =>
        (senders, .ok { wirePackets, syncPackets := synced.map (·.2) })

end OpenAirCast.Audio
