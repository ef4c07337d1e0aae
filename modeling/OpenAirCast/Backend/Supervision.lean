/-
Backend.Supervision — the controller and the session supervisor
over their two queues, from `backend/controller.rs` and
`backend/session.rs`.

What the controller hands to the supervisor during one pass of its loop
arrives in order: a remembered volume at once, a request if the bounded
queue has room. `ignore_send_error` drops the answer, so a refused request
is gone and the controller goes on as if it had been taken. The updates the
other way are the supervisor's `updates`, oldest first; the controller
takes them one by one, as one of its events.

Translation notes.

* A pass of the controller is one step, and so is a turn of the
  supervisor. Requests sent while a turn runs wait for the next one, so a
  turn of any duration is the turn followed by the sends.
* `push_update` drops an update whose queue is full. When the controller
  took the others decides which one that is, so `lose` may strike any.
* `asked` is what the last `request_reconcile` wanted, sent or not.
* Neither task is cancelled; a controller that has finished takes nothing.
-/
import OpenAirCast.Backend.ControllerLoop

namespace OpenAirCast.Backend

structure Supervised where
  controller : Controller
  supervisor : Supervisor := {}
  /-- The parameters of the last `request_reconcile`. -/
  asked : Option ReconcileParams := none

namespace Supervised

/-- What one emission does to the supervisor. -/
def feed (s : Supervisor) : Emission → Supervisor
  | .remember receiver volume => s.rememberVolume receiver volume
  | .request request => (s.trySend request).1
  | _ => s

/-- The reconcile an emission asks for. -/
def reconcileOf : Emission → Option ReconcileParams
  | .request (.reconcile params) => some params
  | _ => none

variable [Lowercase]

variable (s : Supervised)

/-- One pass of the controller. -/
def react (input : Ports × Controller.Event) : Supervised :=
  let result := s.controller.step input
  { controller := result.1
    supervisor := result.2.foldl feed s.supervisor
    asked := (result.2.filterMap reconcileOf).getLast?.or s.asked }

/-- The controller takes the oldest update. -/
def deliver (ports : Ports) : Supervised :=
  if s.controller.finished ∨ s.controller.crashed then s
  else
    match s.supervisor.updates with
    | [] => s
    | update :: rest =>
      { s with supervisor := { s.supervisor with updates := rest } }.react (ports, .session update)

inductive Move where
  /-- Anything the controller waits for besides the session. -/
  | event (ports : Ports) (event : Controller.Event)
  | deliver (ports : Ports)
  /-- An update found its queue full. -/
  | lose (position : Nat)
  /-- The start task ends. -/
  | complete (result : StartResult)
  | adopt
  | turn (readings : List Reading)
  | probe (reading : Reading)
  | activationRequest
  | activated (succeeded : Bool) (reading : Reading)

/-- What the supervisor does by itself. -/
def Move.ofSupervisor : Move → Option Supervisor.Move
  | .complete result => some (.complete result)
  | .adopt => some .adopt
  | .turn readings => some (.turn readings)
  | .probe reading => some (.probe reading)
  | .activationRequest => some .activationRequest
  | .activated succeeded reading => some (.activated succeeded reading)
  | .event _ _ | .deliver _ | .lose _ => none

def step (s : Supervised) (move : Move) : Supervised :=
  match move with
  | .event _ (.session _) => s -- updates come through the queue
  | .event ports event => s.react (ports, event)
  | .deliver ports => s.deliver ports
  | .lose position =>
    { s with supervisor := { s.supervisor with
      updates := s.supervisor.updates.eraseIdx position } }
  | move =>
    match move.ofSupervisor with
    | some turn => { s with supervisor := s.supervisor.step turn }
    | none => s

/-- A launch: the supervisor waits, nothing has been asked. -/
def start (loaded : LoadedState) (calibration : CalibrationProfile) (now : Instant) :
    Supervised where
  controller := Controller.start loaded calibration now

/-- The two after the moves. -/
def run (s : Supervised) (moves : List Move) : Supervised := Mealy.run (Mealy.silent step) s moves

/-- Every step of the run meets the condition. -/
def Along (cond : Supervised → Move → Prop) (s : Supervised) (moves : List Move) : Prop :=
  Mealy.Along (Mealy.silent step) cond s moves

end Supervised

end OpenAirCast.Backend
