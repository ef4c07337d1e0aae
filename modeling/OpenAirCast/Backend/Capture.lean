/-
Backend.Capture — the capture supervisor and its control
channel, from `run_supervisor`, `climb_ladder` and `request_control` in
`backend/capture.rs`.

The supervisor opens one worker after the other, each under a capture
generation and a cancellation token of its own. It stands still only where
it awaits something (`CapturePhase`), and an event is what happens between
two such points; what others do (a control, a new preference, a worker that
reports or ends, an update taken off the queue) is an event too. Which of
several finished branches a `select!` takes is so left open.

Translation notes.

* A watch channel is the value sent last, and whether it has been read.
* A worker that gives up its readiness handshake has left `run`: the
  sender goes with it. So one that never became ready is seen as ended.
* `Ok(Err(..))` and a lost outcome are taken alike.
* Left out are the PCM bridge but for its `FrameDrop`, diagnostics, the input
  meter, the decoder generation (always 1), and how long the ladder waits.
-/
import OpenAirCast.Backend.ControllerLoop

namespace OpenAirCast.Backend

namespace Capture

def SUPERVISOR_CAPACITY : Nat := 256

/-- The control channel. -/
structure ControlWatch where
  value : Option CaptureControl := none
  unread : Bool := false

/-- The readiness handshake of a worker. -/
inductive Readiness where
  | pending
  | ready (endpoint : AudioEndpoint)
  | failed
  deriving DecidableEq

/-- How `run` came to its end. -/
inductive WorkerEnd where
  | clean
  | failed

structure CaptureWorker where
  generation : Nat
  openedWith : AudioEndpointPreference
  readiness : Readiness := .pending
  outcome : Option WorkerEnd := none
  /-- Its token. -/
  cancelled : Bool := false

namespace CaptureWorker

variable (worker : CaptureWorker)

def cancel : CaptureWorker := { worker with cancelled := true }

/-- Nobody has told it to stop, and it has not stopped. -/
def uncancelled : Bool := !worker.cancelled && worker.outcome.isNone

variable (generation : Nat)

/-- The worker sends its endpoint; it does so once. -/
def report (endpoint : AudioEndpoint) :
    CaptureWorker :=
  if worker.generation = generation ∧ worker.readiness = .pending ∧ worker.outcome = none then
    { worker with readiness := .ready endpoint }
  else worker

/-- `run` returns. What has not been reported by then never is. -/
def finish (outcome : WorkerEnd) : CaptureWorker :=
  if worker.generation = generation ∧ worker.outcome = none then
    { worker with
      outcome := some outcome
      readiness := if worker.readiness = .pending then .failed else worker.readiness }
  else worker

end CaptureWorker

/-- Where `run_supervisor` awaits. -/
inductive CapturePhase where
  /-- Spawned, and not polled yet. -/
  | spawned
  /-- `source.open`. -/
  | opening
  /-- The readiness of the worker. -/
  | handshake
  /-- The end of a ready worker. -/
  | capturing
  /-- The ladder delay. -/
  | recovering
  /-- `yield_now`, after the queue was full. -/
  | yielding
  /-- Parked for a suspend. -/
  | parked
  /-- Past the loop, joining the workers. -/
  | joining
  | ended
  deriving DecidableEq

namespace CapturePhase

/-- Supervision is over. -/
def isOver : CapturePhase → Bool
  | .joining | .ended => true
  | _ => false

end CapturePhase

/-- What `try_send` answers. -/
inductive Flow where
  | sent
  | overloaded
  | closed
  deriving DecidableEq

/-- An update with the generation it names. -/
structure Tagged where
  generation : Nat
  update : Controller.CaptureUpdate

/-- The supervisor with its channels, the state it shares and its workers. -/
structure Supervisor where
  phase : CapturePhase := .spawned
  control : ControlWatch := {}
  updates : List Tagged := []
  /-- The receive half of the queue is still there. -/
  updatesOpen : Bool := true
  captureGeneration : Nat := 0
  preference : AudioEndpointPreference
  state : AudioSourceState := .unavailable
  capturedEndpoint : Option AudioEndpoint := none
  /-- What this generation opens its worker with. -/
  openedWith : AudioEndpointPreference := .systemDefault
  /-- The worker of this generation. -/
  worker : Option CaptureWorker := none
  /-- Those of earlier generations. -/
  past : List CaptureWorker := []

inductive ControlAction where
  | restart
  | suspend
  | stop

/-- A resume with no suspend outstanding reopens the same endpoint. -/
def actionOf : Option CaptureControl → ControlAction
  | some .requestEndpointChange => .restart
  | some .suspend => .suspend
  | some .resume => .restart
  | some .stop => .stop
  | none => .stop

namespace Supervisor

variable (s : Supervisor)

/-- All workers there have been. -/
def workers : List CaptureWorker := s.past ++ s.worker.toList

/-! ## Around the supervisor -/

/-- `request_control`: the newest value wins. -/
def requestControl (control : CaptureControl) : Supervisor :=
  { s with control := ⟨some control, true⟩ }

def setPreference (preference : AudioEndpointPreference) : Supervisor :=
  { s with preference }

def mapWorkers (f : CaptureWorker → CaptureWorker) : Supervisor :=
  { s with worker := s.worker.map f, past := s.past.map f }

/-- The owner of the queue takes the oldest update. -/
def takeUpdate : Supervisor := { s with updates := s.updates.tail }

/-- The receive half is dropped, with what is in the queue. -/
def dropUpdates : Supervisor := { s with updates := [], updatesOpen := false }

variable (update : Controller.CaptureUpdate)

def trySend : Supervisor × Flow :=
  if s.updatesOpen = false then (s, .closed)
  else if s.updates.length < SUPERVISOR_CAPACITY then
    ({ s with updates := s.updates ++ [⟨s.captureGeneration, update⟩] }, .sent)
  else (s, .overloaded)

/-! ## The loop -/

/-- `child.cancel()`. -/
def cancelChild : Supervisor :=
  { s with worker := s.worker.map CaptureWorker.cancel }

/-- A full queue cancels this generation. -/
def pushUpdate : Supervisor × Flow :=
  match s.trySend update with
  | (s, .overloaded) => (s.cancelChild, .overloaded)
  | r => r

/-- `root.cancel()` and what follows the loop, up to the joins. -/
def teardown : Supervisor :=
  { s.mapWorkers CaptureWorker.cancel with phase := .joining }

/-- The outer loop from its top, when no suspend is requested. -/
def beginGeneration : Supervisor × List Flow :=
  let s := { s with
    captureGeneration := s.captureGeneration + 1
    past := s.workers
    worker := none }
  match s.pushUpdate .started with
  | (s, .sent) => ({ s with phase := .opening, openedWith := s.preference }, [.sent])
  | (s, .overloaded) => ({ s with phase := .yielding }, [.overloaded])
  | (s, .closed) => (s.teardown, [.closed])

/-- The outer loop from its top, when one is. -/
def park : Supervisor × List Flow :=
  let r := { s with state := .unavailable, capturedEndpoint := none }.trySend .suspended
  ({ r.1 with phase := .parked }, [r.2])

/-- `climb_ladder`, up to its delay. -/
def climbLadder : Supervisor × List Flow :=
  let s := { s with state := .recovering, capturedEndpoint := none }
  match s.pushUpdate .recovering with
  | (s, .sent) => ({ s with phase := .recovering }, [.sent])
  | (s, .overloaded) =>
    let r := s.cancelChild.beginGeneration
    (r.1, .overloaded :: r.2)
  | (s, .closed) => (s.teardown, [.closed])

def obey : ControlAction → Supervisor × List Flow
  | .restart => s.cancelChild.beginGeneration
  | .suspend => s.cancelChild.park
  | .stop => (s.teardown, [])

/-- The park reads a control. A suspended machine has no endpoint to swap
to. -/
def parkedControl : Option CaptureControl → Supervisor × List Flow
  | some .resume => s.beginGeneration
  | some .requestEndpointChange | some .suspend => (s, [])
  | some .stop | none => (s.teardown, [])

/-- `borrow_and_update`. -/
def readControl : Supervisor :=
  { s with control := { s.control with unread := false } }

/-- `next_control` wins where the supervisor waits for it. -/
def takeControl : Supervisor × List Flow :=
  if s.control.unread = false then (s, [])
  else
    match s.phase with
    | .opening | .handshake | .capturing | .recovering =>
      s.readControl.obey (actionOf s.control.value)
    | .parked => s.readControl.parkedControl s.control.value
    | .spawned | .yielding | .joining | .ended => (s, [])

/-- The first poll reads whatever has been requested. -/
def poll : Supervisor × List Flow :=
  if s.phase = .spawned then s.readControl.beginGeneration else (s, [])

/-- `source.open` is done. -/
def opened (ok : Bool) : Supervisor × List Flow :=
  if s.phase = .opening then
    if ok then
      ({ s with
          phase := .handshake
          worker := some ⟨s.captureGeneration, s.openedWith, .pending, none, false⟩ }, [])
    else s.climbLadder
  else (s, [])

/-- The worker reported. -/
def becomeReady (endpoint : AudioEndpoint) : Supervisor × List Flow :=
  let s := { s with state := .capturing, capturedEndpoint := some endpoint }
  match s.pushUpdate (.ready endpoint) with
  | (s, .sent) => ({ s with phase := .capturing }, [.sent])
  | (s, .overloaded) => ({ s.cancelChild with phase := .yielding }, [.overloaded])
  | (s, .closed) => (s.teardown, [.closed])

/-- The handshake is done, if it is. -/
def seeReadiness : Supervisor × List Flow :=
  if s.phase = .handshake then
    match s.worker.map CaptureWorker.readiness with
    | some (.ready endpoint) => s.becomeReady endpoint
    | some .failed => s.climbLadder
    | _ => (s, [])
  else (s, [])

/-- `pending_endpoint_change`: the value may have been read already. -/
def pendingEndpointChange : Bool :=
  s.control.value = some .requestEndpointChange

/-- The worker has ended, if it has. -/
def seeOutcome : Supervisor × List Flow :=
  if s.phase = .capturing then
    match s.worker.bind CaptureWorker.outcome with
    | some .clean => if s.pendingEndpointChange then s.obey .restart else s.climbLadder
    | some .failed => s.climbLadder
    | none => (s, [])
  else (s, [])

/-- The ladder delay is over, or the yield. -/
def goOn (phase : CapturePhase) : Supervisor × List Flow :=
  if s.phase = phase then s.beginGeneration else (s, [])

/-- The bridge and all workers have returned. -/
def joined : Supervisor × List Flow :=
  if s.phase = .joining ∧ s.workers.all (·.outcome.isSome) then
    let r := s.trySend .stopped
    ({ r.1 with phase := .ended }, [r.2])
  else (s, [])

end Supervisor

/-! ## Runs -/

inductive SupervisorEvent where
  | poll
  | opened (ok : Bool)
  | seeReadiness
  | seeOutcome
  | elapsed
  | yielded
  | takeControl
  | joined
  | requestControl (control : CaptureControl)
  | setPreference (preference : AudioEndpointPreference)
  | report (generation : Nat) (endpoint : AudioEndpoint)
  | finish (generation : Nat) (outcome : WorkerEnd)
  | frameDrop (dropped : Nat)
  | takeUpdate
  | dropUpdates

namespace Supervisor

def step (s : Supervisor) : SupervisorEvent → Supervisor × List Flow
  | .poll => s.poll
  | .opened ok => s.opened ok
  | .seeReadiness => s.seeReadiness
  | .seeOutcome => s.seeOutcome
  | .elapsed => s.goOn .recovering
  | .yielded => s.goOn .yielding
  | .takeControl => s.takeControl
  | .joined => s.joined
  | .requestControl control => (s.requestControl control, [])
  | .setPreference preference => (s.setPreference preference, [])
  | .report generation endpoint => (s.mapWorkers (·.report generation endpoint), [])
  | .finish generation outcome => (s.mapWorkers (·.finish generation outcome), [])
  | .frameDrop dropped =>
    let r := s.trySend (.frameDrop dropped)
    (r.1, [r.2])
  | .takeUpdate => (s.takeUpdate, [])
  | .dropUpdates => (s.dropUpdates, [])

end Supervisor

end Capture

end OpenAirCast.Backend
