/-
Discovery.ServiceIndex — the bookkeeping of advertised
services, from `ServiceIndex` in `airplay-discovery/browser.rs`, with
`merge_device_info` of `parser.rs`.

A receiver announces itself under two mDNS service types. Every service
instance, a `ServiceKey`, maps to the receiver it was last resolved for;
every receiver has a row with one slot for each type. The two hash maps are
functions to `Option`: an absent key is `none`, and nothing here depends on
the order of a map.
-/
import OpenAirCast.App.State
import OpenAirCast.Lib.Net

namespace OpenAirCast.Discovery

/-! ## Devices -/

structure Version where
  major : BitVec 32 := 0
  minor : BitVec 32 := 0
  patch : BitVec 32 := 0
  deriving DecidableEq

abbrev Uuid := BitVec 128

/-- A resolved service record. -/
structure Device where
  id : DeviceId
  name : String := ""
  model : String := ""
  manufacturer : Option String := none
  serialNumber : Option String := none
  addresses : List IpAddr := []
  port : BitVec 16 := 0
  features : BitVec 64 := 0
  requiredSenderFeatures : Option (BitVec 64) := none
  publicKey : Option (List UInt8) := none
  sourceVersion : Version := {}
  firmwareVersion : Option String := none
  osVersion : Option String := none
  protocolVersion : Option String := none
  requiresPassword : Bool := false
  statusFlags : BitVec 64 := 0
  accessControl : Option UInt8 := none
  pairingIdentity : Option String := none
  systemPairingIdentity : Option String := none
  bluetoothAddress : Option String := none
  homekitHomeId : Option String := none
  groupId : Option Uuid := none
  isGroupLeader : Bool := false
  groupPublicName : Option String := none
  groupContainsDiscoverableLeader : Bool := false
  homeGroupId : Option String := none
  householdId : Option String := none
  parentGroupId : Option Uuid := none
  parentGroupContainsDiscoverableLeader : Bool := false
  tightSyncId : Option Uuid := none
  raopPort : Option (BitVec 16) := none
  raopEncryptionTypes : Option (List UInt8) := none
  raopCodecs : Option (List UInt8) := none
  raopTransport : Option String := none
  raopMetadataTypes : Option (List UInt8) := none
  raopDigestAuth : Bool := false
  vodkaVersion : Option String := none

/-- `TxtRecordParser::merge_device_info`: the AirPlay record with the gaps
filled from the RAOP record. -/
def mergeDeviceInfo (airplay raop : Device) : Device :=
  { airplay with
    addresses := raop.addresses.foldl (fun addresses addr =>
      if addr ∈ addresses then addresses else addresses ++ [addr]) airplay.addresses
    model := if airplay.model = "" then raop.model else airplay.model
    -- an empty mask must not erase what the RAOP record states
    features := if airplay.features ≠ 0 then airplay.features else raop.features
    publicKey := airplay.publicKey.or raop.publicKey
    sourceVersion :=
      if airplay.sourceVersion = {} then raop.sourceVersion else airplay.sourceVersion
    firmwareVersion := airplay.firmwareVersion.or raop.firmwareVersion
    osVersion := airplay.osVersion.or raop.osVersion
    requiresPassword := airplay.requiresPassword || raop.requiresPassword
    statusFlags := if airplay.statusFlags ≠ 0 then airplay.statusFlags else raop.statusFlags
    raopPort := raop.raopPort
    raopEncryptionTypes := raop.raopEncryptionTypes
    raopCodecs := raop.raopCodecs
    raopTransport := raop.raopTransport
    raopMetadataTypes := raop.raopMetadataTypes
    raopDigestAuth := raop.raopDigestAuth
    vodkaVersion := raop.vodkaVersion }

inductive BrowseEvent where
  | added (device : Device)
  | updated (device : Device)
  | removed (id : DeviceId)

/-! ## The index -/

inductive ServiceKind where
  | airplay
  | raop
  deriving DecidableEq

structure ServiceKey where
  kind : ServiceKind
  fullname : String
  deriving DecidableEq

/-- Latest resolved record per service type for one receiver. -/
structure ReceiverServices where
  airplay : Option Device := none
  raop : Option Device := none

namespace ReceiverServices

variable (services : ReceiverServices)

/-- What `slot_mut` points to. -/
def slot : ServiceKind → Option Device
  | .airplay => services.airplay
  | .raop => services.raop

/-- `*services.slot_mut(kind) = record`. -/
def setSlot (kind : ServiceKind) (record : Option Device) :
    ReceiverServices :=
  match kind with
  | .airplay => { services with airplay := record }
  | .raop => { services with raop := record }

def isEmpty : Bool :=
  services.airplay.isNone && services.raop.isNone

/-- The user-visible device. -/
def merged : Option Device :=
  match services.airplay, services.raop with
  | some airplay, some raop => some (mergeDeviceInfo airplay raop)
  | some airplay, none => some airplay
  | none, some raop => some raop
  | none, none => none

end ReceiverServices

structure ServiceIndex where
  serviceToReceiver : ServiceKey → Option DeviceId := fun _ => none
  resolvers : DeviceId → Option ReceiverServices := fun _ => none

namespace ServiceIndex

variable (index : ServiceIndex) (key : ServiceKey)

/-- The receiver a service instance currently maps to. -/
def resolve : Option DeviceId :=
  index.serviceToReceiver key

/-- Whether any record exists for the receiver. -/
def contains (id : DeviceId) : Bool := (index.resolvers id).isSome

/-- Whether the receiver still has an AirPlay record. -/
def isCastable (id : DeviceId) : Bool :=
  (index.resolvers id).any (fun services => services.airplay.isSome)

def device (id : DeviceId) : Option Device :=
  (index.resolvers id).bind ReceiverServices.merged

variable (receiver : DeviceId)

def setRow (row : Option ReceiverServices) :
    ServiceIndex :=
  { index with resolvers := fun id => if id = receiver then row else index.resolvers id }

def setReceiver (receiver : Option DeviceId) :
    ServiceIndex :=
  { index with
    serviceToReceiver := fun other =>
      if other = key then receiver else index.serviceToReceiver other }

/-- The slot is cleared by kind, and an empty row goes. -/
def clearServiceSlot (key : ServiceKey) :
    ServiceIndex :=
  match index.resolvers receiver with
  | none => index
  | some services =>
    let services := services.setSlot key.kind none
    index.setRow receiver (if services.isEmpty then none else some services)

/-- The key maps to its new receiver; a fullname that belonged to another
one leaves the stale row. -/
def remap : ServiceIndex :=
  let remapped := index.setReceiver key (some receiver)
  match index.resolve key with
  | some previous =>
    if previous ≠ receiver then remapped.clearServiceSlot previous key else remapped
  | none => remapped

/-- The slot is filled, in a new row if there is none. -/
def fill (device : Device) : ServiceIndex :=
  index.setRow device.id
    (some (((index.resolvers device.id).getD {}).setSlot key.kind (some device)))

/-- `Added` when the receiver first becomes known; `none` is the
`unreachable!` of a row that was just filled. -/
def upsert (device : Device) : ServiceIndex × Option BrowseEvent :=
  let remapped := index.remap key device.id
  let after := remapped.fill key device
  (after, (after.device device.id).map (if remapped.contains device.id then .updated else .added))

def remove : ServiceIndex × Option DeviceId :=
  match index.resolve key with
  | none => (index, none)
  | some receiver => ((index.setReceiver key none).clearServiceSlot receiver key, some receiver)

/-- Clearing RAOP updates while AirPlay remains; clearing AirPlay always
removes. -/
def removalEvent : ServiceIndex × Option BrowseEvent :=
  match index.resolve key with
  | none => (index, none)
  | some receiver =>
    let after := (index.remove key).1
    match key.kind with
    | .airplay => (after, some (.removed receiver))
    | .raop => (after, (after.device receiver).map .updated)

end ServiceIndex

/-! ## Runs -/

/-- What the browser hears. -/
inductive ServiceEvent where
  | resolved (key : ServiceKey) (device : Device)
  | removed (key : ServiceKey)

/-- The index with every resolution so far, newest first. -/
structure Browsed where
  index : ServiceIndex := {}
  resolutions : List (ServiceKey × Device) := []

namespace Browsed

def step (s : Browsed) : ServiceEvent → Browsed × Option BrowseEvent
  | .resolved key device =>
    let (index, event) := s.index.upsert key device
    (⟨index, (key, device) :: s.resolutions⟩, event)
  | .removed key =>
    let (index, event) := s.index.removalEvent key
    ({ s with index }, event)

/-- The record most recently resolved under a key of this kind that still
maps to the receiver. -/
def newest (s : Browsed) (receiver : DeviceId) (kind : ServiceKind) : Option Device :=
  (s.resolutions.find? (fun resolution =>
    decide (resolution.1.kind = kind ∧ s.index.resolve resolution.1 = some receiver))).map (·.2)

end Browsed

end OpenAirCast.Discovery
