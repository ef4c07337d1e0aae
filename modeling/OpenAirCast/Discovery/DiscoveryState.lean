/-
Discovery.DiscoveryState — the inventory of the discovery
supervisor, from `backend/discovery.rs`, with `supports_airplay2` and
`socket_addr` of `airplay-core/device.rs`.

The supervisor tags every browse event with its generation and folds it
into the inventory. `Followed` runs the service index and that fold side by
side.

Translation notes.

* The `BTreeMap` of receivers is a function to `Option`; its order only
  matters for the rows of the display.
* The child token is left out, and so are the error and the deadline of a
  failure, which the fold does not read.
-/
import OpenAirCast.Backend.Published
import OpenAirCast.Discovery.ServiceIndex

namespace OpenAirCast

def IpAddr.isIpv4 : IpAddr → Bool
  | .v4 _ => true
  | .v6 _ => false

namespace Discovery

/-! ## Castable devices -/

/-- The derived order: major, then minor, then patch. -/
def Version.atLeast (version least : Version) : Bool :=
  decide (least.major < version.major ∨ least.major = version.major ∧
    (least.minor < version.minor ∨ least.minor = version.minor ∧ least.patch ≤ version.patch))

def MIN_AIRPLAY2_VERSION : Version := ⟨354, 54, 6⟩

def SUPPORTS_BUFFERED_AUDIO : BitVec 64 := 1#64 <<< 40

namespace Device

variable (device : Device)

def supportsAirplay2 : Bool :=
  decide (device.features &&& SUPPORTS_BUFFERED_AUDIO ≠ 0) &&
    device.sourceVersion.atLeast MIN_AIRPLAY2_VERSION

/-- The first IPv4 address, else the first address. -/
def socketAddr : Option SocketAddr :=
  match device.addresses.find? IpAddr.isIpv4 with
  | some addr => some ⟨addr, device.port⟩
  | none => device.addresses.head?.map (fun addr => ⟨addr, device.port⟩)

/-- `is_castable`. -/
def isCastable : Bool :=
  device.supportsAirplay2 && device.socketAddr.any (fun addr => addr.ip.isIpv4)

end Device

/-! ## The inventory -/

structure KnownReceiver where
  name : String
  model : String
  castable : Bool
  available : Bool

inductive DiscoveryUpdate where
  | started (generation : Nat)
  | receiver (generation : Nat) (event : BrowseEvent)
  | failed (generation : Nat)

structure DiscoveryState where
  generation : Nat := 0
  phase : Backend.FullDiscoveryPhase := .stopped
  receivers : DeviceId → Option KnownReceiver := fun _ => none

namespace DiscoveryState

def atGeneration (generation : Nat) : DiscoveryState := { generation }

variable (state : DiscoveryState) (id : DeviceId)

def setReceiver (known : Option KnownReceiver) :
    DiscoveryState :=
  { state with receivers := fun other => if other = id then known else state.receivers other }

/-- The row of a sighting. -/
def sighted (device : Device) : KnownReceiver :=
  { name := device.name, model := device.model, castable := device.isCastable, available := true }

def applyEvent (generation : Nat) (event : BrowseEvent) : DiscoveryState × Bool :=
  if generation < state.generation then (state, false)
  else
    match event with
    | .added device | .updated device => (state.setReceiver device.id (some (sighted device)), true)
    | .removed id =>
      match state.receivers id with
      | some known => (state.setReceiver id (some { known with available := false }), true)
      | none => (state, true)

/-- The flag is false for an update of an older generation. -/
def applyUpdate : DiscoveryUpdate → DiscoveryState × Bool
  | .started generation =>
    if generation < state.generation then (state, false)
    else ({ state with generation, phase := .running }, true)
  | .receiver generation event =>
    if generation < state.generation then (state, false)
    else state.applyEvent generation event
  | .failed generation => (state, decide (state.generation ≤ generation))

/-- Every record stays, and is unknown. -/
def markAllUnknown : DiscoveryState :=
  { state with
    receivers := fun id => (state.receivers id).map fun known => { known with available := false } }

def clearInventory : DiscoveryState :=
  { state with receivers := fun _ => none }

def noteRetrying (attempt : Nat) (retryAt : Backend.Instant) :
    DiscoveryState :=
  { state with phase := .retrying attempt retryAt }

def noteStopped : DiscoveryState := { state with phase := .stopped }

/-- The lifecycle a row is shown with. -/
def lifecycle (known : KnownReceiver) : Backend.Lifecycle :=
  if known.available && known.castable then .discovered else .unavailable

/-- Available and castable. -/
def offers : Bool :=
  (state.receivers id).any (fun known => lifecycle known == .discovered)

end DiscoveryState

/-! ## Following a browser -/

/-- The index of a browse and the inventory that follows its events. -/
structure Followed where
  index : ServiceIndex := {}
  state : DiscoveryState := {}

namespace Followed

def browse (index : ServiceIndex) : ServiceEvent → ServiceIndex × Option BrowseEvent
  | .resolved key device => index.upsert key device
  | .removed key => index.removalEvent key

def follow (generation : Nat) (state : DiscoveryState) : Option BrowseEvent → DiscoveryState
  | some event => (state.applyUpdate (.receiver generation event)).1
  | none => state

/-- One service event of the generation. -/
def step (generation : Nat) (f : Followed) (event : ServiceEvent) : Followed × Option BrowseEvent :=
  (⟨(browse f.index event).1, follow generation f.state (browse f.index event).2⟩,
    (browse f.index event).2)

end Followed

end Discovery

end OpenAirCast
