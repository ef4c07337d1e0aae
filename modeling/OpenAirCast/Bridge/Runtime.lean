/-
Bridge.Runtime — the shell, the bridge and the backend put
together, from `backend_bridge/runtime.rs`, `app_handle.rs` and the effect
executor of `app/mod.rs`.

Three threads run. The shell's actor takes an event, reduces it and hands
its effects to the executor one after the other; the bridge derives a pass
from the newest snapshot and delivers its outbox in order; the backend
works through its command queue and publishes. A `Move` is one thing one
of them does between two points where another can come in, and `step` is a
total function: a move that is not enabled changes nothing.

The backend stays open, so its queue answers Busy or nothing. Leaving is
not modelled: `QuitRequested` is no move here. `projected` is not part of
the program. It keeps what the last pass looked at.
-/
import OpenAirCast.App.Reducer
import OpenAirCast.Bridge.Commands

namespace OpenAirCast.Bridge

open OpenAirCast.Backend

/-- Where the bridge's loop stands, with the snapshot of its pass. -/
inductive Stage where
  | resting
  /-- The newest snapshot has been taken out of the watch channel. -/
  | looked (snapshot : DeviceSnapshot)
  /-- Projected; the listening target comes next. -/
  | targeting (snapshot : DeviceSnapshot) (produced : List ControllerEvent)
  | grouping (snapshot : DeviceSnapshot)
  | settingVolume (snapshot : DeviceSnapshot)
  | listening (snapshot : DeviceSnapshot)

structure Runtime where
  shell : AppState
  /-- The shell's event channel, oldest first. -/
  queue : List AppEvent := []
  /-- Effects of the last event the executor has not reached. -/
  effects : List AppEffect := []
  /-- Writes the port owes for the effect under way. -/
  writes : List EchoWrite := []
  echo : GenerationEcho := {}
  /-- The next command id. -/
  nextId : Nat := 1
  /-- The endpoint directory's table. -/
  endpoints : EndpointTable := {}
  projection : Projection := {}
  outbox : List ControllerEvent := []
  stage : Stage := .resting
  actor : Actor := {}
  projected : Option (DeviceSnapshot × GenerationsSeen) := none

namespace Runtime

inductive Move where
  /-- The user, or another service, raises an event. -/
  | raise (event : AppEvent)
  /-- The actor takes the next event. -/
  | turn
  /-- The executor takes the next effect. `refused` is what the service it
  goes to answers, `room` whether the event channel takes feedback. -/
  | execute (refused room : Bool)
  /-- The port makes its next write. -/
  | write
  | look
  | project
  | target
  | group
  | volume
  | listen
  /-- The bridge delivers the next event of its outbox. -/
  | flush
  /-- The backend reports a discovery notice. -/
  | notice
  | diagnostics (reading : DiagnosticsReading)
  | liveDiagnostics (reading : LiveDiagnosticsReading)
  | backend (move : Actor.Move)

/-- Controller events reach the shell through the outbox and the executor
alone, and nobody quits. -/
def raisable : AppEvent → Bool
  | .controller _ | .quitRequested => false
  | _ => true

/-! ## The shell -/

def turn [Lowercase] (s : Runtime) : Runtime :=
  match s.effects, s.writes, s.queue with
  | [], [], event :: rest =>
    let (shell, transition) := reduce s.shell event
    { s with shell, queue := rest, effects := transition.effects }
  | _, _, _ => s

/-- The feedback of `ServiceExecutor::execute`. A Busy device queue is only
logged, and so is any hotkey error but a closed service. -/
def feedback (effect : AppEffect) (reply : Option PortReply) (refused : Bool) : List AppEvent :=
  match effect, reply with
  | .playListeningTone generation, some reply =>
    match reply.result with
    | .ok _ => []
    | .error _ => [.controller (.sessionFailed generation LISTENING_TONE_FAILED_SUMMARY)]
  | .persistPreferences generation _, _ =>
    if refused then [.preferences (.persistFailed generation)] else []
  | .reconfigureHotkey _ _, _ =>
    if refused then [.controller (.channelClosed "the shortcut service stopped")] else []
  | _, _ => []

variable (s : Runtime)

/-- What the port makes of an effect that goes to the device. -/
def reply (refused : Bool) (effect : AppEffect) : Option PortReply :=
  (effectToCommand effect).map (BackendPort.trySend s.endpoints s.echo
    (if refused then some .busy else none) s.nextId)

def execute (refused room : Bool) : Runtime :=
  match s.writes, s.effects with
  | [], effect :: rest =>
    let reply := s.reply refused effect
    let sent := (reply.map (·.sent)).getD []
    { s with
      effects := rest
      actor := { s.actor with queue := s.actor.queue ++ sent }
      nextId := s.nextId + sent.length
      writes := (reply.map (·.writes)).getD []
      queue := s.queue ++ if room then feedback effect reply refused else [] }
  | _, _ => s

def write : Runtime :=
  match s.writes with
  | [] => s
  | write :: rest => { s with echo := s.echo.write write, writes := rest }

/-! ## The bridge -/

def look : Runtime :=
  match s.stage, s.outbox with
  | .resting, [] => { s with stage := .looked s.actor.published }
  | _, _ => s

def project : Runtime :=
  match s.stage with
  | .looked snapshot =>
    let seen := s.echo.sample
    let (projection, produced) := s.projection.project snapshot seen
    { s with
      projection
      outbox := s.outbox ++ produced
      stage := .targeting snapshot produced
      projected := some (snapshot, seen) }
  | _ => s

/-- The listening target and the endpoint table are published before the
events that mention them can be delivered. -/
def target : Runtime :=
  match s.stage with
  | .targeting snapshot produced =>
    { s with
      echo := s.echo.observeListeningTarget snapshot produced
      endpoints := s.projection.endpoints
      stage := .grouping snapshot }
  | _ => s

/-- The port keeps the group slot locked from its look at the slot until
it has filled it. -/
def groupLocked : Bool :=
  s.writes.any (fun write => match write with
    | .holdGroup _ => true
    | _ => false)

def listeningLocked : Bool :=
  s.writes.any (fun write => match write with
    | .holdListening _ => true
    | _ => false)

def group : Runtime :=
  match s.stage with
  | .grouping snapshot =>
    if s.groupLocked then s
    else
      let (echo, events) := s.echo.groupEvents s.actor.channels snapshot false
      { s with echo, outbox := s.outbox ++ events, stage := .settingVolume snapshot }
  | _ => s

def volume : Runtime :=
  match s.stage with
  | .settingVolume snapshot =>
    let (echo, events) := s.echo.volumeEvents s.actor.channels snapshot false
    { s with echo, outbox := s.outbox ++ events, stage := .listening snapshot }
  | _ => s

def listen : Runtime :=
  match s.stage with
  | .listening snapshot =>
    if s.listeningLocked then s
    else
      let (echo, events) := s.echo.listeningEvents s.actor.channels snapshot false
      { s with echo, outbox := s.outbox ++ events, stage := .resting }
  | _ => s

def flush : Runtime :=
  match s.stage, s.outbox with
  | .resting, event :: rest => { s with queue := s.queue ++ [.controller event], outbox := rest }
  | _, _ => s

/-- An event the bridge adds between two passes. -/
def append (event : ControllerEvent) : Runtime :=
  match s.stage with
  | .resting => { s with outbox := s.outbox ++ [event] }
  | _ => s

/-! ## One move -/

def step [Lowercase] (s : Runtime) : Move → Runtime
  | .raise event => if raisable event then { s with queue := s.queue ++ [event] } else s
  | .turn => s.turn
  | .execute refused room => s.execute refused room
  | .write => s.write
  | .look => s.look
  | .project => s.project
  | .target => s.target
  | .group => s.group
  | .volume => s.volume
  | .listen => s.listen
  | .flush => s.flush
  | .notice => s.append (.discoveryFailed s.echo.discovery DISCOVERY_FAILED_SUMMARY)
  | .diagnostics reading => s.append (.diagnosticsUpdated reading)
  | .liveDiagnostics reading => s.append (.liveDiagnosticsUpdated reading)
  | .backend move => { s with actor := s.actor.step move }

/-- The program as it starts: a shell fresh from its settings, and a
stopped backend that has published its first snapshot and may owe an
automatic start. -/
def start (shell : AppState) (autoConnect : Bool) (first : DeviceSnapshot) : Runtime where
  shell := shell
  actor := {
    published := first
    autoConnectArmed := autoConnect }

/-- Nothing is on its way: no effect and no write is owed, channel and
outbox are empty, the backend is idle, and the last pass has looked at its
newest snapshot under the newest recorded request. -/
def Settled : Prop :=
  s.effects = [] ∧ s.writes = [] ∧ s.queue = [] ∧ s.outbox = [] ∧ s.stage = .resting ∧
    s.projected = some (s.actor.published, s.echo.sample) ∧ s.actor.isIdle = true

end Runtime

end OpenAirCast.Bridge
