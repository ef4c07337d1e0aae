/-
Client.Group — connecting a group of receivers, from
`airplay-client/group.rs` and `connect_group_best_effort` of `client.rs`.

Every device gets a link of its own; one of them becomes the primary, the
others join its clock. What fails on the way is torn down alone and reported.

Translation notes.

* A link carries what the calls on it answer. No call is made twice on one
  link, and a device is asked for a link once for each timing protocol, so a
  link is known by its device and protocol.
* Establishments run side by side. `completed` is the order in which they
  end, with the places in the input; a stable sort puts the results back.
* Where the source expects a slot to be filled, the empty slot ends the round.
* Left out are worker ledgers, the log of timing protocols, diagnostics,
  events, the stored group and the render delay of a lone survivor.
-/
import OpenAirCast.Backend.Session
import OpenAirCast.Lib.Net
import Mathlib.Data.List.MinMax

namespace OpenAirCast.Client

open Backend (SetupPhase)

/-! ## Devices -/

structure Version where
  major : Nat
  minor : Nat
  patch : Nat

/-- The derived order. -/
def Version.le (a b : Version) : Bool :=
  a.major < b.major ||
    (a.major == b.major && (a.minor < b.minor || (a.minor == b.minor && a.patch ≤ b.patch)))

def MIN_PTP_VERSION : Version := ⟨366, 0, 0⟩

/-- Bit 41. -/
def SUPPORTS_PTP : BitVec 64 := 0x20000000000

structure Device where
  id : DeviceId
  addresses : List IpAddr
  features : BitVec 64
  sourceVersion : Version

def Device.supportsPtp (device : Device) : Bool :=
  (device.features &&& SUPPORTS_PTP) != 0 && MIN_PTP_VERSION.le device.sourceVersion

/-! ## Errors -/

inductive DiscoveryError where
  | resolution (message : String)
  | noDevicesFound

inductive Error where
  | discovery (error : DiscoveryError)
  | setupFailed (message : String)
  | pairing (message : String)
  | crypto (message : String)
  | mfiRequired
  | other (message : String)

/-- `SetupPhase::is_retryable`. -/
def isRetryable : SetupPhase → Bool
  | .connect | .primaryTiming | .setPeers | .startAudio => true
  | .pair | .rtspSetup | .buildSender => false

structure MemberFailure where
  receiver : DeviceId
  phase : SetupPhase
  retryable : Bool
  source : Error

def memberFailure (receiver : DeviceId) (phase : SetupPhase) (source : Error) : MemberFailure where
  receiver := receiver
  phase := phase
  retryable := isRetryable phase
  source := source

def classifyConnectFailure (receiver : DeviceId) (source : Error) : MemberFailure :=
  match source with
  | .pairing _ | .crypto _ | .mfiRequired => memberFailure receiver .pair source
  | .discovery _ | .setupFailed _ | .other _ => memberFailure receiver .connect source

/-! ## Links -/

inductive TimingProtocol where
  | ptp | ntp
  deriving DecidableEq

/-- What the calls on a connection answer. `τ` is a clock to follow. -/
structure Connection (τ : Type) where
  localAddr : Option IpAddr := none
  setupStream : Except Error Unit
  ptpClockRx : Option τ
  /-- With the render delay. -/
  joinGroupTiming : τ → Nat → Except Error Unit
  sendSetpeers : List IpAddr → Except Error Unit

structure GroupMemberLink (τ : Type) where
  device : Device
  protocol : TimingProtocol
  conn : Connection τ

abbrev LinkKey := DeviceId × TimingProtocol

variable {τ : Type}

def GroupMemberLink.key (link : GroupMemberLink τ) : LinkKey := (link.device.id, link.protocol)

/-- `Connection::connect_auto`. -/
abbrev ConnectAuto (τ : Type) := Device → TimingProtocol → Except Error (Connection τ)

def connectMember (connectAuto : ConnectAuto τ) (device : Device) (protocol : TimingProtocol) :
    Except MemberFailure (GroupMemberLink τ) :=
  match connectAuto device protocol with
  | .ok conn => .ok { device := device, protocol := protocol, conn := conn }
  | .error source => .error (classifyConnectFailure device.id source)

/-! ## The primary -/

/-- The first device that has an id of one before it. -/
def findDuplicateFrom (before : List Device) : List Device → Option DeviceId
  | [] => none
  | device :: rest =>
    if before.any (fun other => other.id == device.id) then some device.id
    else findDuplicateFrom (before ++ [device]) rest

def findDuplicateMember (devices : List Device) : Option DeviceId := findDuplicateFrom [] devices

def choosePrimary (healthyMembers : List Device) (preferred : Option DeviceId) : Option Device :=
  let ptpCapable := healthyMembers.filter Device.supportsPtp
  (preferred.bind (fun id => ptpCapable.find? (fun device => device.id == id))).or
    (ptpCapable.argmin (·.id))

structure EstablishedMember (τ : Type) where
  device : Device
  healthy : Bool := true
  link : Option (GroupMemberLink τ)

/-- The first IPv4 address of each, and our own. -/
def buildPeerAddresses (members : List Device) (own : Option IpAddr) : List IpAddr :=
  let isIpv4 : IpAddr → Bool
    | .v4 _ => true
    | .v6 _ => false
  let peers := members.filterMap (fun device => device.addresses.find? isIpv4)
  match own with
  | some own => if peers.contains own then peers else peers ++ [own]
  | none => peers

def runPrimaryCritical (link : GroupMemberLink τ) (peerAddresses : List IpAddr) :
    Except (SetupPhase × Error) τ :=
  match link.conn.setupStream with
  | .error source => .error (.rtspSetup, source)
  | .ok _ =>
    match link.conn.ptpClockRx with
    | none => .error (.primaryTiming, .setupFailed "group primary has no PTP timing identity")
    | some timing =>
      match link.conn.sendSetpeers peerAddresses with
      | .error source => .error (.setPeers, source)
      | .ok _ => .ok timing

/-! ## The attempt -/

structure GroupConnectReport where
  primary : Option DeviceId := none
  connected : List DeviceId := []
  failures : List MemberFailure

/-- The locals of `connect_group_best_effort`. With them the links that were
returned by the factory, and those that were torn down. -/
structure Attempt (τ : Type) where
  members : List (Option (EstablishedMember τ))
  failures : List MemberFailure
  preferred : Option DeviceId
  peerAddresses : List IpAddr := []
  primaryAttemptLog : List DeviceId := []
  established : List LinkKey
  tornDown : List LinkKey := []

abbrev Completed (τ : Type) := Nat × Device × Except MemberFailure (GroupMemberLink τ)

/-- The order of the input. -/
def Completed.before (a b : Completed τ) : Prop := a.1 ≤ b.1

instance : DecidableRel (@Completed.before τ) := fun a b => inferInstanceAs (Decidable (a.1 ≤ b.1))

instance : Std.Total (@Completed.before τ) := ⟨fun a b => Nat.le_total a.1 b.1⟩

instance : IsTrans (Completed τ) Completed.before := ⟨fun _ _ _ => Nat.le_trans⟩

/-- The results as they come in, and then in input order. -/
def establishAll (connectAuto : ConnectAuto τ) (completed : List (Device × Nat)) :
    List (Completed τ) :=
  let results := completed.map (fun entry =>
    (entry.2, entry.1, connectMember connectAuto entry.1 .ptp))
  results.insertionSort Completed.before

namespace Attempt

variable (attempt : Attempt τ)

/-- One result, after those before it. -/
def collect (completed : Completed τ) : Attempt τ :=
  match completed.2.2 with
  | .ok link =>
    { attempt with
      members := attempt.members ++ [some { device := completed.2.1, link := some link }]
      established := attempt.established ++ [link.key] }
  | .error failure =>
    { attempt with
      members := attempt.members ++ [none]
      failures := attempt.failures ++ [failure] }

variable (connectAuto : ConnectAuto τ) (preferred : Option DeviceId)
  (completed : List (Device × Nat))

def establish : Attempt τ :=
  (establishAll connectAuto completed).foldl collect
    { members := [], failures := [], preferred := preferred, established := [] }

def slotLink (slot : Option (EstablishedMember τ)) : Option (GroupMemberLink τ) :=
  slot.bind (·.link)

/-- Still healthy, and with a link. -/
def candidates : List Device :=
  attempt.members.filterMap (fun slot =>
    match slot with
    | some member => if member.healthy && member.link.isSome then some member.device else none
    | none => none)

/-- With a link. -/
def linked : List Device :=
  attempt.members.filterMap (fun slot =>
    match slot with
    | some member => if member.link.isSome then some member.device else none
    | none => none)

/-- The slot is that of the device. -/
def isSlotOf (id : DeviceId) : Option (EstablishedMember τ) → Bool
  | some member => member.device.id == id
  | none => false

def position (id : DeviceId) : Nat :=
  attempt.members.findIdx (isSlotOf id)

def memberAt (index : Nat) : Option (EstablishedMember τ) :=
  attempt.members[index]?.join

def linkAt (index : Nat) : Option (GroupMemberLink τ) :=
  slotLink (attempt.memberAt index)

/-- Where a member is the primary, and its clock. -/
abbrev Elected (τ : Type) := Nat × τ

/-- One member is tried as the primary, and torn down if it fails. -/
def tryPrimary (device : Device) : Attempt τ × Option (Elected τ) :=
  let index := attempt.position device.id
  match attempt.linkAt index with
  | none => (attempt, none)
  | some link =>
    let peerAddresses := buildPeerAddresses attempt.linked link.conn.localAddr
    let attempt := { attempt with
      primaryAttemptLog := attempt.primaryAttemptLog ++ [device.id]
      peerAddresses := peerAddresses }
    match runPrimaryCritical link peerAddresses with
    | .ok timing => (attempt, some (index, timing))
    | .error (phase, source) =>
      ({ attempt with
         failures := attempt.failures ++ [memberFailure device.id phase source]
         members := attempt.members.set index
           (some { device := device, healthy := false, link := none })
         tornDown := attempt.tornDown ++ [link.key]
         preferred := none },
       none)

def electPrimary : Nat → Attempt τ → Attempt τ × Option (Elected τ)
  | 0, attempt => (attempt, none)
  | rounds + 1, attempt =>
    match choosePrimary attempt.candidates attempt.preferred with
    | none => (attempt, none)
    | some device =>
      match attempt.tryPrimary device with
      | (attempt, some elected) => (attempt, some elected)
      | (attempt, none) => electPrimary rounds attempt

/-- The members in order, and up to two rounds. -/
def elect : Attempt τ × Option (Elected τ) :=
  electPrimary 2 (establish connectAuto preferred completed)

/-- Nobody is left. -/
def tearDownAll : Attempt τ :=
  { attempt with tornDown := attempt.tornDown ++ (attempt.members.filterMap slotLink).map (·.key) }

def joinMember (link : GroupMemberLink τ) (timing : τ) (renderDelayMs : Nat)
    (peerAddresses : List IpAddr) : Except (SetupPhase × Error) Unit :=
  match link.conn.joinGroupTiming timing renderDelayMs with
  | .error source => .error (.rtspSetup, source)
  | .ok _ =>
    match link.conn.sendSetpeers peerAddresses with
    | .error source => .error (.setPeers, source)
    | .ok _ => .ok ()

variable (elected : Elected τ) (renderDelayMs : Nat)

/-- One slot, with the survivors so far. -/
def joinSlot (state : Attempt τ × List Nat)
    (entry : Option (EstablishedMember τ) × Nat) : Attempt τ × List Nat :=
  let (attempt, survivors) := state
  if entry.2 = elected.1 then (attempt, survivors)
  else
    match slotLink entry.1 with
    | none => (attempt, survivors)
    | some link =>
      match joinMember link elected.2 renderDelayMs attempt.peerAddresses with
      | .error (phase, source) =>
        ({ attempt with
           failures := attempt.failures ++ [memberFailure link.device.id phase source]
           tornDown := attempt.tornDown ++ [link.key] },
         survivors)
      | .ok _ => (attempt, survivors ++ [entry.2])

def joinSecondaries : Attempt τ × List Nat :=
  attempt.members.zipIdx.foldl (joinSlot elected renderDelayMs) (attempt, [])

end Attempt

/-! ## The client -/

structure AirPlayClient (τ : Type) where
  connection : Option (GroupMemberLink τ) := none
  groupConnections : List (GroupMemberLink τ) := []
  renderDelayMs : Nat := 0

/-- What a call returns and leaves behind. -/
structure Outcome (τ : Type) where
  report : Except Error GroupConnectReport
  client : AirPlayClient τ
  primaryAttemptLog : List DeviceId := []
  established : List LinkKey := []
  tornDown : List LinkKey := []

namespace AirPlayClient

variable (client : AirPlayClient τ)

/-- Stored links. -/
def stored : List (GroupMemberLink τ) :=
  client.connection.toList ++ client.groupConnections

/-- `disconnected` is what the main connection answers. -/
def disconnect (disconnected : Except Error Unit) : AirPlayClient τ × Except Error Unit :=
  let client := { client with groupConnections := [] }
  match client.connection, disconnected with
  | some _, .error error => (client, .error error)
  | some _, .ok _ | none, _ => ({ client with connection := none }, .ok ())

def finish (attempt : Attempt τ) (report : GroupConnectReport) : Outcome τ where
  report := .ok report
  client := client
  primaryAttemptLog := attempt.primaryAttemptLog
  established := attempt.established
  tornDown := attempt.tornDown

variable (connectAuto : ConnectAuto τ)

def finishSingleSurvivorSession
    (attempt : Attempt τ) (survivor : EstablishedMember τ) : Outcome τ :=
  let attempt := { attempt with
    tornDown := attempt.tornDown ++ (survivor.link.map (·.key)).toList }
  match connectMember connectAuto survivor.device .ntp with
  | .error failure => client.finish attempt { failures := attempt.failures ++ [failure] }
  | .ok link =>
    let attempt := { attempt with established := attempt.established ++ [link.key] }
    match link.conn.setupStream with
    | .ok _ =>
      let client := { client with connection := some link, groupConnections := [] }
      client.finish attempt
        { primary := some survivor.device.id
          connected := [survivor.device.id]
          failures := attempt.failures }
    | .error source =>
      let attempt := { attempt with tornDown := attempt.tornDown ++ [link.key] }
      client.finish attempt
        { failures := attempt.failures ++ [memberFailure link.device.id .rtspSetup source] }

/-- Primary as main connection, the rest as group. -/
def storeSession (attempt : Attempt τ) (primary : EstablishedMember τ)
    (survivors : List Nat) : Outcome τ :=
  let connections := survivors.filterMap attempt.linkAt
  let members := survivors.filterMap attempt.memberAt
  let client := { client with connection := primary.link, groupConnections := connections }
  client.finish attempt
    { primary := some primary.device.id
      connected := primary.device.id :: members.map (·.device.id)
      failures := attempt.failures }

def connectMembers
    (preferredPrimary : Option DeviceId) (completed : List (Device × Nat)) : Outcome τ :=
  match Attempt.elect connectAuto preferredPrimary completed with
  | (attempt, none) => client.finish attempt.tearDownAll { failures := attempt.failures }
  | (attempt, some elected) =>
    let (attempt, survivors) := attempt.joinSecondaries elected client.renderDelayMs
    match attempt.memberAt elected.1 with
    | none => client.finish attempt { failures := attempt.failures }
    | some primary =>
      if survivors.isEmpty then client.finishSingleSurvivorSession connectAuto attempt primary
      else client.storeSession attempt primary survivors

/-- `disconnected` ends the session before, `cookie` is what the encoder
says to its magic cookie. -/
def connectGroupBestEffort (devices : List Device) (preferredPrimary : Option DeviceId)
    (completed : List (Device × Nat)) (disconnected cookie : Except Error Unit) : Outcome τ :=
  if devices.isEmpty then
    { report := .error (.discovery .noDevicesFound), client := client }
  else
    match findDuplicateMember devices with
    | some duplicate =>
      { report := .error (.discovery
          (.resolution ("duplicate group member " ++ Backend.displayId duplicate)))
        client := client }
    | none =>
      match client.disconnect disconnected with
      | (client, .error error) => { report := .error error, client := client }
      | (client, .ok _) =>
        match cookie with
        | .error error => { report := .error error, client := client }
        | .ok _ => client.connectMembers connectAuto preferredPrimary completed

end AirPlayClient

end OpenAirCast.Client
