/-
Timing.PtpTlv — what may follow the body of a PTP message, from
`airplay-timing/ptp.rs`: three kinds of TLV, and `parse_tlvs`.

A field that is an array of bytes is a number, big end first.
-/
import OpenAirCast.Timing.Ptp

namespace OpenAirCast.Timing

/-- `TlvType::OrganizationExtension`. -/
def ORGANIZATION_EXTENSION : BitVec 16 := 0x0003

structure TlvHeader where
  tlvType : BitVec 16
  length : BitVec 16

def TlvHeader.serialize (header : TlvHeader) : Bytes :=
  toBeBytes 2 header.tlvType.toNat ++ toBeBytes 2 header.length.toNat

structure FollowUpInformationTlv where
  organizationId : BitVec 24
  organizationSubtype : BitVec 24
  cumulativeScaledRateOffset : Int32
  gmTimeBaseIndicator : BitVec 16
  lastGmPhaseChange : BitVec 96
  scaledLastGmFreqChange : Int32

def FollowUpInformationTlv.serialize (tlv : FollowUpInformationTlv) : Bytes :=
  { tlvType := ORGANIZATION_EXTENSION, length := 28 : TlvHeader }.serialize
    ++ toBeBytes 3 tlv.organizationId.toNat
    ++ toBeBytes 3 tlv.organizationSubtype.toNat
    ++ toBeBytes 4 tlv.cumulativeScaledRateOffset.toBitVec.toNat
    ++ toBeBytes 2 tlv.gmTimeBaseIndicator.toNat
    ++ toBeBytes 12 tlv.lastGmPhaseChange.toNat
    ++ toBeBytes 4 tlv.scaledLastGmFreqChange.toBitVec.toNat

structure MessageIntervalRequestTlv where
  organizationId : BitVec 24
  organizationSubtype : BitVec 24
  linkDelayInterval : Int8
  timeSyncInterval : Int8
  announceInterval : Int8
  flags : UInt8

def MessageIntervalRequestTlv.serialize (tlv : MessageIntervalRequestTlv) : Bytes :=
  { tlvType := ORGANIZATION_EXTENSION, length := 10 : TlvHeader }.serialize
    ++ toBeBytes 3 tlv.organizationId.toNat
    ++ toBeBytes 3 tlv.organizationSubtype.toNat
    ++ [tlv.linkDelayInterval.toUInt8, tlv.timeSyncInterval.toUInt8, tlv.announceInterval.toUInt8,
      tlv.flags]

structure AppleTlv where
  organizationId : BitVec 24
  organizationSubtype : BitVec 24
  payload : Bytes

/-- A length of more than 16 bits is cut off. -/
def AppleTlv.serialize (tlv : AppleTlv) : Bytes :=
  { tlvType := ORGANIZATION_EXTENSION
    length := BitVec.ofNat 16 (6 + tlv.payload.length) : TlvHeader }.serialize
    ++ toBeBytes 3 tlv.organizationId.toNat
    ++ toBeBytes 3 tlv.organizationSubtype.toNat
    ++ tlv.payload

/-! ## Parsing -/

/-- Type, length and content. -/
abbrev ParsedTlv := BitVec 16 × BitVec 16 × Bytes

variable (data : Bytes)

/-- `u16::from_be_bytes([data[i], data[i + 1]])`; out of range the source
panics. -/
def readU16 (i : Nat) : Option (BitVec 16) := do
  return BitVec.ofNat 16 (fromBeBytes [← data[i]?, ← data[i + 1]?])

/-- `data[i..j]`, likewise. -/
def readSlice (i j : Nat) : Option Bytes :=
  if i ≤ j ∧ j ≤ data.length then some (slice data i j) else none

/-- The loop of `parse_tlvs`, from an offset on. -/
def parseTlvsFrom (data : Bytes) (offset : Nat) : Option (List ParsedTlv) :=
  if offset + 4 ≤ data.length then
    match readU16 data offset, readU16 data (offset + 2) with
    | some tlvType, some length =>
      if data.length < offset + 4 + length.toNat then some []
      else
        match readSlice data (offset + 4) (offset + 4 + length.toNat) with
        | some tlvData =>
          (parseTlvsFrom data (offset + 4 + length.toNat)).map ((tlvType, length, tlvData) :: ·)
        | none => none
    | _, _ => none
  else some []
termination_by data.length - offset

def parseTlvs : Option (List ParsedTlv) := parseTlvsFrom data 0

end OpenAirCast.Timing
