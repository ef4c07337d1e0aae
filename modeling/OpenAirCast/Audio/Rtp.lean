/-
Audio.Rtp — RTP packets and the sender of one target, from
`airplay-audio/rtp.rs`.

A `RtpSender` numbers, encrypts and remembers the audio packets of one
receiver and builds its sync packets. The packet cipher is a type of its
own with `encryptPayload`, which returns the cipher as it is afterwards, so
a cipher may keep state and may fail on any call. What a socket says to a
datagram is an argument of the operation that sends it. The transport
counters are left out: nothing but diagnostics reads them.
-/
import Mathlib.Logic.Function.Basic
import OpenAirCast.Lib.Net
import OpenAirCast.Timing.Clock

namespace OpenAirCast.Audio

/-! ## Packets -/

namespace PayloadTypes

def RETRANSMIT_REQUEST : UInt8 := 85
def RETRANSMIT_RESPONSE : UInt8 := 86

end PayloadTypes

/-- Why an operation of the sender fails. -/
inductive AudioError where
  | crypto
  | encoding (message : String)
  | io
  deriving DecidableEq

def socketNotBound : AudioError := .encoding "Socket not bound"

/-- `u16::to_be_bytes` and its siblings. -/
def beBytes {w : Nat} (x : BitVec w) : Bytes := toBeBytes (w / 8) x.toNat

/-- The word that big-endian bytes say. -/
def fromBe (w : Nat) (bytes : Bytes) : BitVec w := BitVec.ofNat w (fromBeBytes bytes)

structure RtpHeader where
  version : UInt8 := 2
  padding : Bool := false
  extension : Bool := false
  csrcCount : UInt8 := 0
  marker : Bool := false
  payloadType : UInt8
  sequence : BitVec 16
  timestamp : BitVec 32
  ssrc : BitVec 32

namespace RtpHeader

/-- Byte 0: version, padding, extension, CSRC count. -/
def firstByte (header : RtpHeader) : UInt8 :=
  (header.version <<< 6) ||| (header.padding.toUInt8 <<< 5) ||| (header.extension.toUInt8 <<< 4)
    ||| (header.csrcCount &&& 0x0F)

/-- Byte 1: marker, payload type. -/
def secondByte (header : RtpHeader) : UInt8 :=
  (header.marker.toUInt8 <<< 7) ||| (header.payloadType &&& 0x7F)

/-- The 12 bytes of a header. -/
def serialize (header : RtpHeader) : Bytes :=
  [header.firstByte, header.secondByte] ++ beBytes header.sequence ++ beBytes header.timestamp
    ++ beBytes header.ssrc

def parse (data : Bytes) : Option RtpHeader :=
  if data.length < 12 then none
  else some {
    version := ((data.getD 0 0) >>> 6) &&& 0x03
    padding := ((data.getD 0 0) >>> 5) &&& 0x01 != 0
    extension := ((data.getD 0 0) >>> 4) &&& 0x01 != 0
    csrcCount := (data.getD 0 0) &&& 0x0F
    marker := ((data.getD 1 0) >>> 7) &&& 0x01 != 0
    payloadType := (data.getD 1 0) &&& 0x7F
    sequence := fromBe 16 ((data.drop 2).take 2)
    timestamp := fromBe 32 ((data.drop 4).take 4)
    ssrc := fromBe 32 ((data.drop 8).take 4) }

end RtpHeader

structure RetransmitRequest where
  firstSequence : BitVec 16
  count : BitVec 16

/-- The `i`-th sequence number asked for. -/
def RetransmitRequest.slot (request : RetransmitRequest) (i : Nat) : BitVec 16 :=
  request.firstSequence + BitVec.ofNat 16 i

/-- Fails on short data and on another payload type. -/
def RetransmitRequest.parse (data : Bytes) : Option RetransmitRequest :=
  if data.length < 12 then none
  else if (data.getD 1 0) &&& 0x7F ≠ PayloadTypes.RETRANSMIT_REQUEST then none
  else some ⟨fromBe 16 ((data.drop 8).take 2), fromBe 16 ((data.drop 10).take 2)⟩

/-- The sequence number of a stored packet is read off its bytes. -/
def storedSequence (packet : Bytes) : Option (BitVec 16) :=
  if 4 ≤ packet.length then some (fromBe 16 ((packet.drop 2).take 2)) else none

/-- A retransmit header with the packet's own sequence bytes, and the
packet. -/
def buildRetransmitResponse (originalPacket : Bytes) : Bytes :=
  [0x80, 0x80 ||| PayloadTypes.RETRANSMIT_RESPONSE]
    ++ (if 4 ≤ originalPacket.length then (originalPacket.drop 2).take 2 else [0, 0])
    ++ originalPacket

/-! ## Ciphers -/

structure EncryptedPayload where
  data : Bytes
  tag : Option Bytes := none
  nonce : Option Bytes := none

/-- `PacketCipher`; the cipher after the call comes with the result. -/
class PacketCipher (κ : Type) where
  encryptPayload : κ → (payload : Bytes) → (timestamp ssrc : BitVec 32) →
    (sequence : BitVec 16) → κ × Except AudioError EncryptedPayload

/-! ## The sender -/

def PACKET_HISTORY_SIZE : Nat := 512

/-- Place of a sequence number in the ring. -/
def historySlot (sequence : BitVec 16) : Fin PACKET_HISTORY_SIZE :=
  ⟨sequence.toNat % PACKET_HISTORY_SIZE, Nat.mod_lt _ (by decide)⟩

structure RtpSender (κ : Type) where
  socket : Option UdpSocket := none
  dest : SocketAddr
  /-- Separate destination for control and sync packets. -/
  controlDest : Option SocketAddr := none
  controlSocket : Option UdpSocket := none
  sequence : BitVec 16 := 0
  ssrc : BitVec 32
  cipher : Option κ := none
  syncSequence : BitVec 16 := 0
  /-- Whether the first sync packet, the one with the extension bit, has
  been built. -/
  firstSyncSent : Bool := false
  packetHistory : Fin PACKET_HISTORY_SIZE → Option Bytes := fun _ => none

/-- What became of the slots of a request. -/
structure RetransmitOutcome where
  requestedSlots : BitVec 16 := 0
  acceptedLocal : Nat := 0
  historyMisses : Nat := 0
  sendFailures : Nat := 0

/-- `saturating_add(1)` of a `u16`. -/
def bump (n : Nat) : Nat := if n < 65535 then n + 1 else n

namespace RtpSender

variable {κ : Type}

def new (dest : SocketAddr) (ssrc : BitVec 32) : RtpSender κ := { dest, ssrc }

def resetSyncState (s : RtpSender κ) : RtpSender κ := { s with firstSyncSent := false }

/-- Where control packets go. -/
def controlTarget (s : RtpSender κ) : SocketAddr := s.controlDest.getD s.dest

/-- Which socket control packets leave through. -/
def controlVia (s : RtpSender κ) : Option UdpSocket := s.controlSocket.or s.socket

/-- A packet takes the next sequence number and its place in the ring. -/
def store (s : RtpSender κ) (packet : Bytes) : RtpSender κ :=
  { s with
    packetHistory := Function.update s.packetHistory (historySlot s.sequence) (some packet)
    sequence := s.sequence + 1 }

/-- The header of the next audio packet. -/
def nextHeader (s : RtpSender κ) (payloadType : UInt8) (timestamp : BitVec 32) (marker : Bool) :
    RtpHeader :=
  { payloadType, sequence := s.sequence, timestamp, ssrc := s.ssrc, marker }

variable [PacketCipher κ]

/-- Payload and trailer: tag first, then nonce. -/
def sealPayload (s : RtpSender κ) (timestamp : BitVec 32) (payload : Bytes) :
    RtpSender κ × Except AudioError Bytes :=
  match s.cipher with
  | none => (s, .ok payload)
  | some cipher =>
    match PacketCipher.encryptPayload cipher payload timestamp s.ssrc s.sequence with
    | (cipher, .error error) => ({ s with cipher := some cipher }, .error error)
    | (cipher, .ok encrypted) =>
      ({ s with cipher := some cipher },
        .ok (encrypted.data ++ encrypted.tag.getD [] ++ encrypted.nonce.getD []))

/-- Encrypts if a cipher is set, and stores the packet. -/
def serializeAudio (s : RtpSender κ) (payloadType : UInt8) (timestamp : BitVec 32)
    (payload : Bytes) (marker : Bool) : RtpSender κ × Except AudioError Bytes :=
  match s.sealPayload timestamp payload with
  | (s, .error error) => (s, .error error)
  | (s, .ok body) =>
    let serialized := (s.nextHeader payloadType timestamp marker).serialize ++ body
    (s.store serialized, .ok serialized)

def prepareAudio (s : RtpSender κ) (payloadType : UInt8) (timestamp : BitVec 32)
    (payload : Bytes) (marker : Bool) : RtpSender κ × Except AudioError Bytes :=
  s.serializeAudio payloadType timestamp payload marker

/-- `network` is what the socket says. -/
def sendAudio (s : RtpSender κ) (payloadType : UInt8) (timestamp : BitVec 32)
    (payload : Bytes) (marker : Bool) (network : Except AudioError Nat) :
    RtpSender κ × List Datagram × Except AudioError Unit :=
  match s.serializeAudio payloadType timestamp payload marker with
  | (s, .error error) => (s, [], .error error)
  | (s, .ok serialized) =>
    match s.socket with
    | none => (s, [], .error socketNotBound)
    | some socket => (s, [⟨socket, s.dest, serialized⟩], network.map (fun _ => ()))

omit [PacketCipher κ]

/-! ### Sync packets -/

/-- The first byte of a sync packet, which the first one marks. -/
def syncFirstByte (s : RtpSender κ) : UInt8 := if s.firstSyncSent then 0x80 else 0x90

/-- A sync packet has been built. -/
def noteSync (s : RtpSender κ) : RtpSender κ :=
  { s with firstSyncSent := true, syncSequence := s.syncSequence + 1 }

/-- A PT=84 packet; none where the control port is 0. -/
def prepareSync (s : RtpSender κ) (rtpTimestamp : BitVec 32) (ntpTimestamp : BitVec 64) :
    RtpSender κ × Option Bytes :=
  if s.controlTarget.port = 0 then (s, none)
  else
    (s.noteSync, some ([s.syncFirstByte, 0xd4] ++ beBytes s.syncSequence ++ beBytes rtpTimestamp
      ++ beBytes ntpTimestamp ++ beBytes rtpTimestamp))

/-- Seconds and the binary fraction of one. -/
def ptpSeconds (ns : Nat) : BitVec 32 := BitVec.ofNat 32 (ns / Timing.NS_PER_SECOND)

def ptpFraction (ns : Nat) : BitVec 32 := BitVec.ofNat 32 (Timing.binaryFraction ns)

/-- A PT=87 packet; none where the control port is 0. -/
def preparePtpSync (s : RtpSender κ) (currentRtpTs : BitVec 32) (ptpClockNs : Nat)
    (nextRtpTs : BitVec 32) (masterClockId : BitVec 64) : RtpSender κ × Option Bytes :=
  if s.controlTarget.port = 0 then (s, none)
  else
    (s.noteSync, some ([s.syncFirstByte, 0xD7] ++ beBytes s.syncSequence ++ beBytes currentRtpTs
      ++ beBytes (ptpSeconds ptpClockNs) ++ beBytes (ptpFraction ptpClockNs)
      ++ beBytes nextRtpTs ++ beBytes masterClockId))

/-! ### Prepared packets -/

def sendPreparedAudio (s : RtpSender κ) (wire : Bytes) (network : Except AudioError Nat) :
    List Datagram × Except AudioError Unit :=
  match s.socket with
  | none => ([], .error socketNotBound)
  | some socket => ([⟨socket, s.dest, wire⟩], network.map (fun _ => ()))

/-- Socket and destination are each chosen on their own. -/
def sendPreparedSync (s : RtpSender κ) (wire : Bytes) (network : Except AudioError Nat) :
    List Datagram × Except AudioError Unit :=
  match s.controlVia with
  | none => ([], .error socketNotBound)
  | some socket => ([⟨socket, s.controlTarget, wire⟩], network.map (fun _ => ()))

/-- Data socket and destination for the sender thread. `try_clone` gives
another handle of the same socket. -/
def cloneDataSocket (s : RtpSender κ) : Option (UdpSocket × SocketAddr) :=
  s.socket.map (fun socket => (socket, s.dest))

/-- Control socket and destination, only as a pair. -/
def cloneControlSocket (s : RtpSender κ) : Option (UdpSocket × SocketAddr) :=
  match s.controlSocket, s.controlDest with
  | some socket, some dest => some (socket, dest)
  | _, _ => none

/-! ### Retransmission -/

/-- The packet a requested slot is answered with: the ring's, if it is the
one asked for. -/
def lookup (s : RtpSender κ) (sequence : BitVec 16) : Option Bytes :=
  (s.packetHistory (historySlot sequence)).filter (fun original =>
    storedSequence original == some sequence)

/-- One slot of a request; `network` is what the socket says. -/
def retransmitSlot (s : RtpSender κ) (sequence : BitVec 16) (network : Except AudioError Nat)
    (sofar : List Datagram × RetransmitOutcome) : List Datagram × RetransmitOutcome :=
  match s.lookup sequence with
  | none => (sofar.1, { sofar.2 with historyMisses := bump sofar.2.historyMisses })
  | some original =>
    match s.controlVia with
    | none => (sofar.1, { sofar.2 with sendFailures := bump sofar.2.sendFailures })
    | some socket =>
      (sofar.1 ++ [⟨socket, s.controlTarget, buildRetransmitResponse original⟩], match network with
        | .ok 0 => sofar.2
        | .ok _ => { sofar.2 with acceptedLocal := bump sofar.2.acceptedLocal }
        | .error _ => { sofar.2 with sendFailures := bump sofar.2.sendFailures })

/-- Every requested slot in turn; `network` says what the socket answers for
each. -/
def handleRetransmit (s : RtpSender κ) (request : RetransmitRequest)
    (network : Nat → Except AudioError Nat) : List Datagram × RetransmitOutcome :=
  (List.range request.count.toNat).foldl
    (fun sofar i => s.retransmitSlot (request.slot i) (network i) sofar)
    ([], { requestedSlots := request.count })

end RtpSender

end OpenAirCast.Audio
