/-
Discovery.Supervisor — the task that keeps a browse running, from
`run_supervisor` in `backend/discovery.rs`, with `discovery_delay` of
`backend/recovery.rs`.

The task starts one browse generation after the other. It waits for a browse,
for the next event of it, for a backoff or for the network to settle, and at
each of these but the first for a control edge as well. A step is one event
that it was waiting for, with all that it does until it waits again, or
something that happens meanwhile: time passes, a control is requested, the
owner of the updates takes one.

Translation notes.

* Where `select!` has two branches that are ready, either may be next.
* A sleep ends at its deadline or later.
* Between reading a control and what it does to the inventory nothing is
  awaited, so both are one step.
* The watch keeps the newest value and whether the task has seen it. Once the
  handle is gone, every wait for a change returns at once.
* The child token is left out, and so is the cell that publishes the generation.
  The wall clock is the monotonic one.
-/
import OpenAirCast.Backend.Capture
import OpenAirCast.Diagnostics.Snapshot
import OpenAirCast.Discovery.DiscoveryState

namespace OpenAirCast

/-- The delay of the ladder for the attempt, scaled by a hash of the
generation. -/
def Backend.RetryPolicy.discoveryDelay (policy : RetryPolicy) (generation attempt : Nat) : Nat :=
  let base := policy.base.getD (min attempt (policy.base.length - 1)) 0
  let hash := [0, 8, 16, 24, 32, 40, 48, 56].foldl
    (fun value shift => (value * JITTER_HASH_PRIME + (generation >>> shift) % 256) % 2 ^ 64) attempt
  scaleWithHash base hash policy.jitterPercent

namespace Discovery

open Backend (Instant seconds RetryPolicy U64_MAX saturatingSucc)
open Backend.Capture (SUPERVISOR_CAPACITY)
open Diagnostics (DiagnosticPayload)

/-- Two seconds. -/
def NETWORK_SETTLE : Nat := seconds 2

inductive DiscoveryControl where
  | restartAfterNetworkChange
  | shutdown
  deriving DecidableEq

/-- What the task waits for. -/
inductive Waiting where
  /-- Its first turn. -/
  | spawned
  /-- `source.browse`. -/
  | browse
  /-- An event of the browse, or a control. -/
  | stream
  /-- The end of the backoff, or a control. -/
  | backoff (deadline : Instant)
  /-- The end of the settle period, or a control. -/
  | settle (deadline : Instant)
  /-- Its next turn, after the queue of updates was full. -/
  | yielded
  | stopped
  deriving DecidableEq

structure DiscoverySupervisor where
  policy : RetryPolicy := {}
  now : Instant
  waiting : Waiting := .spawned
  generation : Nat := 0
  failures : Nat := 0
  preserveUnknown : Bool := false
  /-- What the handle shows. -/
  shared : DiscoveryState := {}
  control : Option DiscoveryControl := none
  controlSeen : Bool := true
  controlClosed : Bool := false
  updates : List DiscoveryUpdate := []
  updatesClosed : Bool := false
  diagnostics : List DiagnosticPayload := []

/-- What a browse yields next. -/
inductive BrowseItem where
  | event (event : BrowseEvent)
  | failed
  | ended

inductive SupervisorEvent where
  | tick (duration : Nat)
  /-- `request_control`. -/
  | request (control : DiscoveryControl)
  /-- The handle is gone. -/
  | dropControl
  /-- The owner of the updates takes one. -/
  | receive
  | dropUpdates
  /-- The task gets its first turn, or the next one after it yielded. -/
  | resume
  /-- `source.browse` returns a stream, or fails. -/
  | browsed (ok : Bool)
  | item (item : BrowseItem)
  /-- A control edge is read. -/
  | control
  /-- The sleep is over. -/
  | timer

/-- What a step has done. -/
structure Observed where
  /-- The value a control edge had. -/
  read : Option DiscoveryControl := none
  /-- The generation that was started. -/
  started : Option Nat := none
  published : List DiscoveryUpdate := []

inductive Flow where
  | sent | overloaded | closed

/-- The diagnostic of an event of the browse. -/
def BrowseEvent.payload : BrowseEvent → DiagnosticPayload
  | .added device | .updated device => .discoveryReceiver device.id true
  | .removed id => .discoveryReceiver id false

namespace DiscoverySupervisor

variable (s : DiscoverySupervisor)

def emit (payload : DiagnosticPayload) : DiscoverySupervisor :=
  { s with diagnostics := s.diagnostics ++ [payload] }

def pushUpdate (update : DiscoveryUpdate) : DiscoverySupervisor × Flow :=
  if s.updatesClosed then (s, .closed)
  else if s.updates.length < SUPERVISOR_CAPACITY then
    ({ s with updates := s.updates ++ [update] }, .sent)
  else (s.emit (.queueWatermark SUPERVISOR_CAPACITY SUPERVISOR_CAPACITY), .overloaded)

/-- What comes after the loop. -/
def stop : DiscoverySupervisor :=
  { s.emit (.discoveryGeneration s.generation .stopped) with
    waiting := .stopped
    shared := s.shared.noteStopped }

/-- The state a new generation starts with. -/
def renewed : DiscoverySupervisor :=
  let generation := saturatingSucc U64_MAX s.generation
  let shared := (s.shared.applyUpdate (.started generation)).1
  { s with
    generation
    preserveUnknown := false
    shared := if s.preserveUnknown then shared.markAllUnknown else shared.clearInventory }

/-- The head of the loop, up to the browse. -/
def startGeneration : DiscoverySupervisor × Observed :=
  let generation := s.renewed.generation
  match s.renewed.pushUpdate (.started generation) with
  | (s, .sent) =>
    ({ s.emit (.discoveryGeneration generation .running) with waiting := .browse },
      { started := some generation, published := [.started generation] })
  | (s, .overloaded) => ({ s with waiting := .yielded }, { started := some generation })
  | (s, .closed) => (s.stop, { started := some generation })

/-- `schedule_failure`, up to the sleep. -/
def scheduleFailure : DiscoverySupervisor × Observed :=
  let retryAt := s.now + s.policy.discoveryDelay s.generation s.failures
  let s := { s with shared := s.shared.noteRetrying s.failures retryAt }
  match s.pushUpdate (.failed s.generation) with
  | (s, .sent) =>
    ({ s.emit (.retry none s.failures retryAt) with
       failures := (s.failures + 1) % 2 ^ 32
       waiting := .backoff retryAt },
      { published := [.failed s.generation] })
  | (s, .overloaded) => ({ s with waiting := .yielded }, {})
  | (s, .closed) => (s.stop, {})

/-- An event of the browse that is accepted. -/
def relay (event : BrowseEvent) : DiscoverySupervisor × Observed :=
  let s := s.emit event.payload
  match s.pushUpdate (.receiver s.generation event) with
  | (s, .sent) => (s, { published := [.receiver s.generation event] })
  | (s, .overloaded) => ({ s with waiting := .yielded }, {})
  | (s, .closed) => (s.stop, {})

def onItem : BrowseItem → DiscoverySupervisor × Observed
  | .event event =>
    match s.shared.applyUpdate (.receiver s.generation event) with
    | (_, false) => (s, {})
    | (shared, true) => { s with shared }.relay event
  | .failed | .ended => s.scheduleFailure

/-- The network changed: what is known becomes unknown, and the settle period
begins. -/
def networkChanged : DiscoverySupervisor :=
  { s with
    shared := s.shared.markAllUnknown
    failures := 0
    preserveUnknown := true
    waiting := .settle (s.now + NETWORK_SETTLE) }

/-- `next_control` returns. -/
def controlReady : Bool := s.controlClosed || !s.controlSeen

/-- `on_control`, and the arms of `settle`. -/
def onControl : DiscoverySupervisor × Observed :=
  let s := { s with controlSeen := true }
  match s.waiting, s.control with
  | .stream, some .restartAfterNetworkChange | .backoff _, some .restartAfterNetworkChange =>
    (s.networkChanged, { read := s.control })
  | .settle _, some .restartAfterNetworkChange =>
    (s.startGeneration.1, { s.startGeneration.2 with read := s.control })
  | .stream, _ | .backoff _, _ | .settle _, _ => (s.stop, { read := s.control })
  | _, _ => (s, {})

/-- The task is at a `select!` that waits for a control. -/
def interruptible : Bool :=
  match s.waiting with
  | .stream | .backoff _ | .settle _ => true
  | .spawned | .browse | .yielded | .stopped => false

def step (s : DiscoverySupervisor) : SupervisorEvent → DiscoverySupervisor × Observed
  | .tick duration => ({ s with now := s.now + duration }, {})
  | .request control =>
    if s.controlClosed then (s, {})
    else ({ s with control := some control, controlSeen := false }, {})
  | .dropControl => ({ s with controlClosed := true }, {})
  | .receive => ({ s with updates := s.updates.tail }, {})
  | .dropUpdates => ({ s with updatesClosed := true }, {})
  | .resume =>
    match s.waiting with
    | .spawned => { s with controlSeen := true }.startGeneration
    | .yielded => s.startGeneration
    | _ => (s, {})
  | .browsed ok =>
    if s.waiting = .browse then
      if ok then ({ s with waiting := .stream }, {}) else s.scheduleFailure
    else (s, {})
  | .item item => if s.waiting = .stream then s.onItem item else (s, {})
  | .control => if s.interruptible ∧ s.controlReady then s.onControl else (s, {})
  | .timer =>
    match s.waiting with
    | .backoff deadline | .settle deadline =>
      if deadline ≤ s.now then s.startGeneration else (s, {})
    | _ => (s, {})

def start (policy : RetryPolicy) (now : Instant) : DiscoverySupervisor := { policy, now }

end DiscoverySupervisor

end Discovery

end OpenAirCast
