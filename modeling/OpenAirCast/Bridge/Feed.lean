/-
Bridge.Feed — the shell and the bridge over a backend that may
do anything, from `backend_bridge/runtime.rs` and `app/mod.rs`.

`Runtime` has a backend that stays open and works its queue off. Here the
backend is only what the bridge can see of it: it answers, drops or forgets
receipts in any order, publishes any snapshot, refuses any command as Busy
or Closed, and its feed closes at some point. The shell may be told to
quit, the bridge reports the closure and ends.

The parts that do not look at the closure are those of `Runtime`. A shell
whose event channel is gone reduces nothing any more and is not modelled.
`taken` and `emitted` are not part of the program. They keep what the
reducer was given and what it asked for.
-/
import OpenAirCast.Bridge.Runtime
import OpenAirCast.Lib.Mealy

namespace OpenAirCast.Bridge

open OpenAirCast.Backend

def CONTROLLER_STOPPED_SUMMARY : String := "the audio controller stopped"

structure Feed extends Runtime where
  /-- The backend has dropped its side of the watch channel. -/
  closed : Bool := false
  /-- `state_closed`: the bridge has noticed. -/
  stateClosed : Bool := false
  /-- `closure_reported`. -/
  closureReported : Bool := false
  /-- The bridge's loop has ended. -/
  ended : Bool := false
  /-- Every event the reducer has taken, oldest first. -/
  taken : List AppEvent := []
  /-- Every effect it has asked for, oldest first. -/
  emitted : List AppEffect := []

namespace Feed

inductive Move where
  /-- The user, or another service, raises an event. -/
  | raise (event : AppEvent)
  | turn
  /-- The executor takes the next effect. `refusal` is what the command
  queue answers, `refused` what any other service does, `room` whether the
  event channel takes feedback. -/
  | execute (refusal : Option ControllerSendError) (refused room : Bool)
  | write
  | look
  | project
  | target
  | group
  | volume
  | listen
  | flush
  | notice
  | diagnostics (reading : DiagnosticsReading)
  | liveDiagnostics (reading : LiveDiagnosticsReading)
  /-- A receipt is answered, or dropped. -/
  | answer (receipt : ReceiptId) (value : Oneshot)
  | publish (next : DeviceSnapshot)
  | close
  /-- The bridge's `changed()` fails. -/
  | hear
  /-- The bridge leaves its loop. -/
  | finish

/-! ## The shell -/

/-- Controller events come through the outbox and the executor alone. -/
def raisable : AppEvent → Bool
  | .controller _ => false
  | _ => true

def turn [Lowercase] (s : Feed) : Feed :=
  match s.effects, s.writes, s.queue with
  | [], [], event :: _ =>
    { s with
      toRuntime := s.toRuntime.turn
      taken := s.taken ++ [event]
      emitted := s.emitted ++ (reduce s.shell event).2.effects }
  | _, _, _ => s

variable (s : Feed) (refusal : Option ControllerSendError) (effect : AppEffect)

def reply : Option PortReply :=
  (effectToCommand effect).map (BackendPort.trySend s.endpoints s.echo refusal s.nextId)

/-- `report_channel_loss`, for a device command the port found closed. -/
def channelLoss (reply : Option PortReply) : List AppEvent :=
  match reply.map PortReply.result with
  | some (.error .closed) => [.controller (.channelClosed CONTROLLER_STOPPED_SUMMARY)]
  | _ => []

/-- The feedback of `ServiceExecutor::execute`. A tone that fails is
reported as such and nothing else. -/
def feedback (reply : Option PortReply) (refused : Bool) : List AppEvent :=
  match effect with
  | .playListeningTone _ => Runtime.feedback effect reply refused
  | _ => Runtime.feedback effect reply refused ++ channelLoss reply

def execute (refused room : Bool) : Feed :=
  match s.writes, s.effects with
  | [], effect :: rest =>
    let reply := s.reply refusal effect
    let sent := (reply.map (·.sent)).getD []
    { s with
      effects := rest
      actor := { s.actor with queue := s.actor.queue ++ sent }
      nextId := s.nextId + sent.length
      writes := (reply.map (·.writes)).getD []
      queue := s.queue ++ if room then feedback effect reply refused else [] }
  | _, _ => s

/-! ## The bridge -/

def look : Feed :=
  if s.ended then s else { s with toRuntime := s.toRuntime.look }

def group : Feed :=
  match s.stage with
  | .grouping snapshot =>
    if s.groupLocked then s
    else
      let (echo, events) := s.echo.groupEvents s.actor.channels snapshot s.stateClosed
      { s with echo, outbox := s.outbox ++ events, stage := .settingVolume snapshot }
  | _ => s

def volume : Feed :=
  match s.stage with
  | .settingVolume snapshot =>
    let (echo, events) := s.echo.volumeEvents s.actor.channels snapshot s.stateClosed
    { s with echo, outbox := s.outbox ++ events, stage := .listening snapshot }
  | _ => s

/-- The report of the closure, once. -/
def closure : List ControllerEvent :=
  if s.stateClosed && !s.closureReported then [.channelClosed CONTROLLER_STOPPED_SUMMARY]
  else []

/-- The last part of a pass, with the report of the closure behind it. -/
def listen : Feed :=
  match s.stage with
  | .listening snapshot =>
    if s.listeningLocked then s
    else
      let (echo, events) := s.echo.listeningEvents s.actor.channels snapshot s.stateClosed
      { s with
        echo
        outbox := s.outbox ++ events ++ s.closure
        closureReported := s.closureReported || s.stateClosed
        stage := .resting }
  | _ => s

/-- An event the bridge adds between two passes. -/
def append (event : ControllerEvent) : Feed :=
  if s.ended then s else { s with toRuntime := s.toRuntime.append event }

/-- The closure is noticed between two passes. -/
def hear : Feed :=
  match s.stage with
  | .resting => { s with stateClosed := s.stateClosed || s.closed }
  | _ => s

/-- The loop ends once the closure has been reported and delivered. -/
def finish : Feed :=
  match s.stage, s.outbox with
  | .resting, [] => { s with ended := s.ended || s.closureReported }
  | _, _ => s

/-! ## The backend -/

/-- A one-shot channel is written, or dropped, once. -/
def answer (receipt : ReceiptId) (value : Oneshot) : Feed :=
  if s.actor.channels receipt = .empty then
    { s with actor := s.actor.setChannel receipt value }
  else s

def publish (next : DeviceSnapshot) : Feed :=
  if s.closed then s else { s with actor := { s.actor with published := next } }

/-! ## One move -/

def step [Lowercase] (s : Feed) : Move → Feed
  | .raise event => if raisable event then { s with queue := s.queue ++ [event] } else s
  | .turn => s.turn
  | .execute refusal refused room => s.execute refusal refused room
  | .write => { s with toRuntime := s.toRuntime.write }
  | .look => s.look
  | .project => { s with toRuntime := s.toRuntime.project }
  | .target => { s with toRuntime := s.toRuntime.target }
  | .group => s.group
  | .volume => s.volume
  | .listen => s.listen
  | .flush => { s with toRuntime := s.toRuntime.flush }
  | .notice => s.append (.discoveryFailed s.echo.discovery DISCOVERY_FAILED_SUMMARY)
  | .diagnostics reading => s.append (.diagnosticsUpdated reading)
  | .liveDiagnostics reading => s.append (.liveDiagnosticsUpdated reading)
  | .answer receipt value => s.answer receipt value
  | .publish next => s.publish next
  | .close => { s with closed := true }
  | .hear => s.hear
  | .finish => s.finish

/-- The program as it starts. -/
def start (shell : AppState) (first : DeviceSnapshot) : Feed where
  toRuntime := .start shell false first

/-- The program after the moves. -/
def run [Lowercase] (s : Feed) (moves : List Move) : Feed := Mealy.run (Mealy.silent step) s moves

end Feed

end OpenAirCast.Bridge
