/-
Timing.Ptp — following a PTP master, from
`airplay-timing/ptp.rs`: the messages, `PtpMeasurementTracker` and the
receiving half of `run_bmca_yield_flow_state`.

Two sockets deliver packets, and the tracker puts those together that
belong to one measurement of one announced clock. An event is what one turn
of the loop waits for: the deadline of the negotiation, or a packet.

Translation notes.

* An identity of 10 bytes is a `BitVec 80`, big end first.
* A packet is what `recv_from` has put into the buffer, with the time that
  `PtpTimestamp::now` gives while it is worked on. No turn asks for it twice.
* A watch channel shows what was published last; here the turns list what
  they publish.
* What is sent during the negotiation does not touch the tracker.
-/
import OpenAirCast.Crypto.Tlv
import OpenAirCast.Lib.Net
import OpenAirCast.Timing.Clock

namespace OpenAirCast.Timing

open Crypto (ParseError)

/-- `UNMEASURED_PATH_DELAY_NS`. -/
def UNMEASURED_PATH_DELAY_NS : Nat := 500000

/-- `packet[i..j]`. -/
def slice (packet : Bytes) (i j : Nat) : Bytes := (packet.take j).drop i

/-- `packet[i..j]` as a big-endian number. -/
def word (width : Nat) (packet : Bytes) (i j : Nat) : BitVec width :=
  BitVec.ofNat width (fromBeBytes (slice packet i j))

/-! ## Messages -/

inductive PtpMessageType where
  | sync | delayReq | followUp | delayResp | announce | signaling
  deriving DecidableEq

namespace PtpMessageType

def toByte : PtpMessageType → UInt8
  | sync => 0x00
  | delayReq => 0x01
  | followUp => 0x08
  | delayResp => 0x09
  | announce => 0x0B
  | signaling => 0x0C

def fromByte (b : UInt8) : Option PtpMessageType :=
  match b &&& 0x0F with
  | 0x00 => some sync
  | 0x01 => some delayReq
  | 0x08 => some followUp
  | 0x09 => some delayResp
  | 0x0B => some announce
  | 0x0C => some signaling
  | _ => none

end PtpMessageType

structure PtpTimestamp where
  seconds : BitVec 64 := 0
  nanoseconds : BitVec 32 := 0

namespace PtpTimestamp

variable (ts : PtpTimestamp)

def toNanos : Nat :=
  ts.seconds.toNat * 1000000000 + ts.nanoseconds.toNat

/-- Of the seconds, the lower 48 bits. -/
def serialize : Bytes :=
  toBeBytes 6 ts.seconds.toNat ++ toBeBytes 4 ts.nanoseconds.toNat

def parse (data : Bytes) : Except ParseError PtpTimestamp :=
  if data.length < 10 then .error (.invalidFormat "PTP timestamp too short")
  else .ok { seconds := word 64 data 0 6, nanoseconds := word 32 data 6 10 }

end PtpTimestamp

structure PtpHeader where
  messageType : PtpMessageType
  version : UInt8 := 2
  messageLength : BitVec 16 := 44
  domainNumber : UInt8 := 0
  flags : BitVec 16 := 0
  correctionField : Int64 := 0
  sourcePortIdentity : BitVec 80 := 0
  sequenceId : BitVec 16
  controlField : UInt8
  logMessageInterval : Int8 := 0

namespace PtpHeader

def new (messageType : PtpMessageType) (sequenceId : BitVec 16) : PtpHeader where
  messageType := messageType
  sequenceId := sequenceId
  controlField :=
    match messageType with
    | .sync => 0
    | .delayReq => 1
    | .followUp => 2
    | .delayResp => 3
    | .announce => 5
    | .signaling => 5

def serialize (header : PtpHeader) : Bytes :=
  [header.messageType.toByte, header.version] ++ toBeBytes 2 header.messageLength.toNat
    ++ [header.domainNumber, 0]
    ++ toBeBytes 2 header.flags.toNat
    ++ toBeBytes 8 header.correctionField.toBitVec.toNat
    ++ [0, 0, 0, 0]
    ++ toBeBytes 10 header.sourcePortIdentity.toNat
    ++ toBeBytes 2 header.sequenceId.toNat
    ++ [header.controlField, header.logMessageInterval.toUInt8]

def unknownMessageType (b : UInt8) : ParseError :=
  .invalidFormat ("Unknown PTP message type: " ++ toString (b &&& 0x0F).toNat)

def parse (data : Bytes) : Except ParseError PtpHeader :=
  if data.length < 34 then .error (.invalidFormat "PTP header too short")
  else
    match PtpMessageType.fromByte (data.getD 0 0) with
    | none => .error (unknownMessageType (data.getD 0 0))
    | some messageType =>
      .ok { messageType := messageType
            version := data.getD 1 0 &&& 0x0F
            messageLength := word 16 data 2 4
            domainNumber := data.getD 4 0
            flags := word 16 data 6 8
            correctionField := Int64.ofBitVec (word 64 data 8 16)
            sourcePortIdentity := word 80 data 20 30
            sequenceId := word 16 data 30 32
            controlField := data.getD 32 0
            logMessageInterval := (data.getD 33 0).toInt8 }

/-- `source_port_identity[..8]`. -/
def sourceClockIdentity (header : PtpHeader) : BitVec 64 :=
  header.sourcePortIdentity.extractLsb' 16 64

end PtpHeader

/-! ## Offsets -/

/-- `as i64`. -/
def asI64 (x : Int) : Int := (BitVec.ofInt 64 x).toInt

/-- `as u64`. -/
def asU64 (n : Nat) : Nat := n % 2 ^ 64

/-- From the time the master sent a Sync and the time it arrived. -/
def oneWayOffset (t1 t2 : PtpTimestamp) : ClockOffset where
  offsetNs := asI64 ((t2.toNanos : Int) - t1.toNanos)
  errorNs := UNMEASURED_PATH_DELAY_NS
  rttNs := 0

/-- With the times a Delay_Req was sent and arrived at the master. -/
def roundTripOffset (t1 t2 t3 t4 : PtpTimestamp) : ClockOffset :=
  let there := (t2.toNanos : Int) - t1.toNanos
  let back := (t3.toNanos : Int) - t4.toNanos
  let delay := (there - back).tdiv 2
  { offsetNs := asI64 ((there + back).tdiv 2)
    errorNs := asU64 (delay.natAbs / 2)
    rttNs := asU64 delay.natAbs }

/-! ## The tracker -/

inductive TrackerPublication where
  | unchanged | invalidate

structure AnnouncedClock where
  grandmasterId : BitVec 64
  relayPortIdentity : BitVec 80
  generation : BitVec 64

structure PendingSync where
  sequenceId : BitVec 16
  relayPortIdentity : BitVec 80
  generation : BitVec 64
  receivedAt : PtpTimestamp

structure CompletedSync where
  generation : BitVec 64
  masterSentAt : PtpTimestamp
  localReceivedAt : PtpTimestamp

structure PendingDelay where
  sequenceId : BitVec 16
  requestingPortIdentity : BitVec 80
  generation : BitVec 64
  localSentAt : PtpTimestamp
  sync : CompletedSync

structure PtpMeasurementTracker where
  localPortIdentity : BitVec 80
  announced : Option AnnouncedClock := none
  pendingSync : Option PendingSync := none
  completedSync : Option CompletedSync := none
  pendingDelay : Option PendingDelay := none
  nextGeneration : BitVec 64 := 1

namespace PtpMeasurementTracker

variable (tracker : PtpMeasurementTracker) (grandmasterId : BitVec 64)
  (relayPortIdentity : BitVec 80)

/-- The clock is the announced one. -/
def announcedIs : Bool :=
  match tracker.announced with
  | some current =>
    current.grandmasterId == grandmasterId && current.relayPortIdentity == relayPortIdentity
  | none => false

/-- A new generation. What was measured in the old one is dropped. -/
def renew : PtpMeasurementTracker :=
  let next := tracker.nextGeneration + 1
  { tracker with
    nextGeneration := if next = 0 then 1 else next
    announced := some
      { grandmasterId := grandmasterId
        relayPortIdentity := relayPortIdentity
        generation := tracker.nextGeneration }
    pendingSync := none
    completedSync := none
    pendingDelay := none }

def observeAnnounce (header : PtpHeader) (packet : Bytes) :
    PtpMeasurementTracker × TrackerPublication :=
  if header.messageType ≠ .announce ∨ packet.length < 61 then (tracker, .unchanged)
  else
    let grandmasterId := word 64 packet 53 61
    if grandmasterId = 0 ∨ header.sourceClockIdentity = 0 then (tracker, .unchanged)
    else if tracker.announcedIs grandmasterId header.sourcePortIdentity then
      (tracker, .unchanged)
    else
      (tracker.renew grandmasterId header.sourcePortIdentity,
        if tracker.announced.isSome then .invalidate else .unchanged)

def observeSync (header : PtpHeader) (packet : Bytes)
    (receivedAt : PtpTimestamp) : PtpMeasurementTracker :=
  if header.messageType ≠ .sync ∨ packet.length < 34 then tracker
  else
    match tracker.announced with
    | none => tracker
    | some announced =>
      if header.sourcePortIdentity ≠ announced.relayPortIdentity then tracker
      else
        { tracker with
          pendingSync := some
            { sequenceId := header.sequenceId
              relayPortIdentity := header.sourcePortIdentity
              generation := announced.generation
              receivedAt := receivedAt } }

def observeFollowUp (header : PtpHeader) (packet : Bytes) :
    PtpMeasurementTracker × Option PtpClockState :=
  if header.messageType ≠ .followUp ∨ packet.length < 44 then (tracker, none)
  else
    match tracker.announced, tracker.pendingSync with
    | some announced, some pending =>
      if header.sequenceId ≠ pending.sequenceId
          ∨ header.sourcePortIdentity ≠ pending.relayPortIdentity
          ∨ header.sourcePortIdentity ≠ announced.relayPortIdentity
          ∨ pending.generation ≠ announced.generation then (tracker, none)
      else
        match PtpTimestamp.parse (slice packet 34 44) with
        | .error _ => (tracker, none)
        | .ok masterSentAt =>
          ({ tracker with
             pendingSync := none
             completedSync := some
               { generation := announced.generation
                 masterSentAt := masterSentAt
                 localReceivedAt := pending.receivedAt } },
           some
             { masterClockId := announced.grandmasterId
               offset := oneWayOffset masterSentAt pending.receivedAt })
    | _, _ => (tracker, none)

def recordDelayRequest (sequenceId : BitVec 16)
    (requestingPortIdentity : BitVec 80) (localSentAt : PtpTimestamp) : PtpMeasurementTracker :=
  match tracker.announced, tracker.completedSync with
  | some announced, some sync =>
    if requestingPortIdentity ≠ tracker.localPortIdentity
        ∨ sync.generation ≠ announced.generation then tracker
    else
      { tracker with
        pendingDelay := some
          { sequenceId := sequenceId
            requestingPortIdentity := requestingPortIdentity
            generation := announced.generation
            localSentAt := localSentAt
            sync := sync } }
  | _, _ => tracker

def observeDelayResponse (header : PtpHeader)
    (packet : Bytes) : PtpMeasurementTracker × Option PtpClockState :=
  if header.messageType ≠ .delayResp ∨ packet.length < 54 then (tracker, none)
  else
    match tracker.announced, tracker.pendingDelay with
    | some announced, some pending =>
      if header.sequenceId ≠ pending.sequenceId
          ∨ header.sourcePortIdentity ≠ announced.relayPortIdentity
          ∨ word 80 packet 44 54 ≠ pending.requestingPortIdentity
          ∨ pending.generation ≠ announced.generation
          ∨ pending.sync.generation ≠ announced.generation then (tracker, none)
      else
        match PtpTimestamp.parse (slice packet 34 44) with
        | .error _ => (tracker, none)
        | .ok masterReceivedAt =>
          ({ tracker with pendingDelay := none },
           some
             { masterClockId := announced.grandmasterId
               offset := roundTripOffset pending.sync.masterSentAt
                 pending.sync.localReceivedAt pending.localSentAt masterReceivedAt })
    | _, _ => (tracker, none)

end PtpMeasurementTracker

/-! ## The loop -/

inductive PtpPort where
  | event | general
  deriving DecidableEq

structure PtpPacket where
  port : PtpPort
  src : IpAddr
  bytes : Bytes
  now : PtpTimestamp

inductive BmcaEvent where
  /-- `bmca_deadline`. -/
  | deadline
  | packet (packet : PtpPacket)

/-- What a turn publishes, and the packets it sends. -/
structure BmcaOutput where
  published : List (Option PtpClockState) := []
  sent : List Bytes := []

structure BmcaFlow where
  masterIp : IpAddr
  localPortIdentity : BitVec 80
  tracker : PtpMeasurementTracker
  /-- Waiting for the first Announce. -/
  listening : Bool := true
  delayReqSeq : BitVec 16 := 0

/-- The packet of a Delay_Req. -/
def delayRequest (sequenceId : BitVec 16) (localPortIdentity : BitVec 80)
    (sentAt : PtpTimestamp) : Bytes :=
  { PtpHeader.new .delayReq sequenceId with sourcePortIdentity := localPortIdentity }.serialize
    ++ sentAt.serialize

namespace BmcaFlow

/-- The identity of the clock, and port 1. -/
def start (masterIp : IpAddr) (clockIdentity : BitVec 64) : BmcaFlow where
  masterIp := masterIp
  localPortIdentity := clockIdentity ++ 1#16
  tracker := { localPortIdentity := clockIdentity ++ 1#16 }

variable (flow : BmcaFlow) (packet : PtpPacket)

/-- Until a clock is announced. -/
def listen (header : PtpHeader) : BmcaFlow × BmcaOutput :=
  match packet.port with
  | .event => (flow, {})
  | .general =>
    if header.messageType = .announce ∧ 61 ≤ packet.bytes.length then
      let tracker := (flow.tracker.observeAnnounce header packet.bytes).1
      ({ flow with tracker := tracker, listening := tracker.announced.isNone }, {})
    else (flow, {})

def onAnnounce (header : PtpHeader) : BmcaFlow × BmcaOutput :=
  match flow.tracker.observeAnnounce header packet.bytes with
  | (tracker, .invalidate) => ({ flow with tracker := tracker }, { published := [none] })
  | (tracker, .unchanged) => ({ flow with tracker := tracker }, {})

def onDelayResponse (header : PtpHeader) : BmcaFlow × BmcaOutput :=
  match flow.tracker.observeDelayResponse header packet.bytes with
  | (tracker, some state) => ({ flow with tracker := tracker }, { published := [some state] })
  | (tracker, none) => ({ flow with tracker := tracker }, {})

/-- A Delay_Req goes out after each published state. -/
def onFollowUp (header : PtpHeader) : BmcaFlow × BmcaOutput :=
  match flow.tracker.observeFollowUp header packet.bytes with
  | (tracker, some state) =>
    let delayReqSeq := flow.delayReqSeq + 1
    ({ flow with
       delayReqSeq := delayReqSeq
       tracker := tracker.recordDelayRequest delayReqSeq flow.localPortIdentity packet.now },
     { published := [some state]
       sent := [delayRequest delayReqSeq flow.localPortIdentity packet.now] })
  | (tracker, none) => ({ flow with tracker := tracker }, {})

/-- The slave loop. -/
def follow (header : PtpHeader) : BmcaFlow × BmcaOutput :=
  match packet.port, header.messageType with
  | .event, .sync =>
    ({ flow with tracker := flow.tracker.observeSync header packet.bytes packet.now }, {})
  | .event, .delayResp => flow.onDelayResponse packet header
  | .event, _ => (flow, {})
  | .general, .announce => flow.onAnnounce packet header
  | .general, .delayResp => flow.onDelayResponse packet header
  | .general, .followUp => flow.onFollowUp packet header
  | .general, _ => (flow, {})

def step (flow : BmcaFlow) : BmcaEvent → BmcaFlow × BmcaOutput
  | .deadline => ({ flow with listening := false }, {})
  | .packet packet =>
    if packet.src ≠ flow.masterIp then (flow, {})
    else
      match PtpHeader.parse packet.bytes with
      | .error _ => (flow, {})
      | .ok header =>
        if flow.listening then flow.listen packet header else flow.follow packet header

end BmcaFlow

end OpenAirCast.Timing
