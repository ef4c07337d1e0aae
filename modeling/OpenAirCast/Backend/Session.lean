/-
Backend.Session — the session supervisor, from
`backend/session.rs`.

One task owns the transport. It takes requests off a bounded queue, starts
a generation in a task of its own, adopts what that task hands back and
reports lifecycle edges to the controller. `Supervisor` is everything the
loop keeps between two waits, with the two queues at its ends; `calls` is
what it has done to transports. A `Move` is one turn of the loop, or one
thing another task does between two turns. A turn drains the request queue
before anything else, so a request that arrives while it runs waits for
the next turn: however long it takes, a turn is one step here.

Translation notes.

* The transport is the adapter behind `SessionTransport`. What it answers
  during a turn enters as a `Reading`; its primary and members are fixed
  when it is built.
* `biased` picks the first arm that is ready when it looks. Another arm can
  become ready right after, so the moves may come in any order.
* Losing every request producer ends the loop as cancellation does, and is
  the same move.
* Left out are the diagnostics port, the probe timer's deadlines and what a
  start task is given besides its parameters.
-/
import OpenAirCast.Backend.Calibration
import OpenAirCast.Lib.Mealy

namespace OpenAirCast.Backend

/-! ## Values -/

/-- `airplay_core::Device`, as far as the backend reads it. -/
structure Device where
  id : ReceiverId
  name : String
  model : String
  supportsAirplay2 : Bool
  /-- `socket_addr` is an IPv4 address. -/
  ipv4 : Bool
  deriving DecidableEq

structure LatencyConfig where
  senderBufferMs : Nat
  renderDelayMs : Nat
  deriving DecidableEq

inductive SetupPhase where
  | connect
  | pair
  | primaryTiming
  | rtspSetup
  | setPeers
  | buildSender
  | startAudio
  deriving DecidableEq

/-- The `Debug` text of a phase. -/
def SetupPhase.text : SetupPhase → String
  | .connect => "Connect"
  | .pair => "Pair"
  | .primaryTiming => "PrimaryTiming"
  | .rtspSetup => "RtspSetup"
  | .setPeers => "SetPeers"
  | .buildSender => "BuildSender"
  | .startAudio => "StartAudio"

structure MemberFailure where
  receiver : ReceiverId
  phase : SetupPhase
  /-- Whether a later attempt may succeed. -/
  retryable : Bool
  deriving DecidableEq

inductive RestartReason where
  | membershipChange
  | savedGroupActivated
  | secondaryRejoin
  | failedTargetRemoved
  | primaryReplaced
  | receiverAddressChanged
  | localInterfaceChanged
  | timingModeTransition
  | streamFormatChanged
  | latencyPresetChanged
  | systemResume
  | deadRtspRecovered
  | calibrationChanged
  deriving DecidableEq

structure ReconcileParams where
  generation : Nat
  /-- Complete newest desired membership as resolved devices. -/
  desired : List Device
  preferredPrimary : Option ReceiverId := none
  latency : LatencyConfig
  calibration : CalibrationProfile := {}
  /-- The app wants no session; an empty set alone does not say so. -/
  teardownOnly : Bool
  deriving DecidableEq

inductive SessionRequest where
  | reconcile (params : ReconcileParams)
  | setVolume (receiver : ReceiverId) (volume : F32)
  | probe
  | networkChanged
  | suspend
  | resume
  deriving DecidableEq

inductive SessionUpdate where
  | starting (generation : Nat)
  | active (generation : Nat) (primary : ReceiverId) (members : Finset ReceiverId)
      (partialFailures : List MemberFailure)
  | memberControlFailed (generation : Nat) (receiver : ReceiverId) (error : String)
  | memberFailed (generation : Nat) (receiver : ReceiverId) (primary : Bool) (error : String)
  | recovering (generation : Nat) (reason : RestartReason) (attempt : Nat)
  | stopped (generation : Nat)
  deriving DecidableEq

/-- Fixed capacity of the request queue. -/
def SESSION_REQUEST_CAPACITY : Nat := 256

/-- Consecutive timeouts before a member fails. -/
def TIMEOUT_STREAK_TO_FAIL : Nat := 2

/-- `u64::wrapping_add(1)`. -/
def wrappingSucc (generation : Nat) : Nat := (generation + 1) % 2 ^ 64

/-! ## Effective volumes -/

/-- `EffectiveVolumeState`: the newest effective level of each receiver. -/
structure EffectiveVolumes where
  version : Nat := 0
  values : SortedMap ReceiverId F32 := .empty

namespace EffectiveVolumes

variable (state : EffectiveVolumes) (receiver : ReceiverId)

def set (volume : F32) : EffectiveVolumes :=
  let volume := volume.clamp F32.zero F32.one
  { version :=
      if state.values.get receiver == some volume then state.version
      else wrappingSucc state.version
    values := state.values.insert receiver volume }

def get : F32 :=
  (state.values.get receiver).getD F32.one

end EffectiveVolumes

/-! ## Transports -/

/-- A live transport; `serial` tells the ones the factory built apart. -/
structure Transport where
  serial : Nat
  primary : Option ReceiverId
  members : Finset ReceiverId
  failures : List MemberFailure
  deriving DecidableEq

/-- What the supervisor does to a transport. -/
inductive TransportCall where
  | activate (serial : Nat)
  | setMemberVolume (serial : Nat) (receiver : ReceiverId) (volume : F32)
  | probeMembers (serial : Nat)
  | stop (serial : Nat)

/-- What a start task hands back. -/
inductive StartResult where
  | prepared (primary : Option ReceiverId) (members : Finset ReceiverId)
      (failures : List MemberFailure)
  | failed
  /-- The task ended without sending its outcome. -/
  | lost

inductive StartOutcome where
  | running
  | prepared (transport : Transport)
  | failed
  | lost
  deriving DecidableEq

structure StartAttempt where
  generation : Nat
  outcome : StartOutcome := .running
  deriving DecidableEq

inductive ProbeAnswer where
  | healthy
  | timedOut
  | failed (failure : MemberFailure)
  deriving DecidableEq

/-- What a transport answers while one request is handled. -/
structure Reading where
  /-- The error of a volume set. -/
  refused : Option MemberFailure := none
  /-- Receivers of the queued `TargetSendFailed` events, up to a lag. -/
  sendFailures : List ReceiverId := []
  probes : List (ReceiverId × ProbeAnswer) := []

/-- Per-generation health bookkeeping. -/
structure HealthState where
  /-- Consecutive timeouts. -/
  streak : SortedMap ReceiverId Nat := .empty
  /-- Receivers reported failed in this generation. -/
  failed : Finset ReceiverId := ∅
  /-- Receivers whose next timeout fails them at once. -/
  urgent : Finset ReceiverId := ∅

/-! ## The supervisor -/

/-- Where the loop waits. -/
inductive Stage where
  | waiting
  /-- `pending_step`: an activation was interrupted by this request. -/
  | replaying (request : SessionRequest)
  /-- In `activate_prepared`. -/
  | activating (generation : Nat) (transport : Transport)
  | ended
  deriving DecidableEq

structure Supervisor where
  /-- The gate's highest accepted generation. -/
  accepted : Nat := 0
  inFlight : Option StartAttempt := none
  active : Option Transport := none
  retained : Option ReconcileParams := none
  health : HealthState := {}
  volumes : EffectiveVolumes := {}
  stage : Stage := .waiting
  /-- The request queue, oldest first. -/
  requests : List SessionRequest := []
  /-- The updates published, oldest first. -/
  updates : List SessionUpdate := []
  calls : List TransportCall := []
  /-- How many transports the factory has built. -/
  built : Nat := 0

namespace Supervisor

variable (s : Supervisor)

/-- `push_update`; the update queue is taken to have room. -/
def pushUpdate (update : SessionUpdate) : Supervisor :=
  { s with updates := s.updates ++ [update] }

def call (call : TransportCall) : Supervisor :=
  { s with calls := s.calls ++ [call] }

/-- `stop_bounded`. -/
def stopBounded (transport : Transport) : Supervisor :=
  s.call (.stop transport.serial)

/-- `SessionSupervisorHandle::remember_volume`. -/
def rememberVolume (receiver : ReceiverId) (volume : F32) : Supervisor :=
  { s with volumes := s.volumes.set receiver volume }

/-- `SessionSupervisorHandle::try_send`, with whether the queue had room. -/
def trySend (request : SessionRequest) : Supervisor × Bool :=
  let s := match request with
    | .setVolume receiver volume => s.rememberVolume receiver volume
    | _ => s
  if s.requests.length < SESSION_REQUEST_CAPACITY then
    ({ s with requests := s.requests ++ [request] }, true)
  else (s, false)

/-- Drop the start under way and stop the live transport. -/
def supersede : Supervisor :=
  match s.active with
  | some transport => { s with inFlight := none, active := none }.stopBounded transport
  | none => { s with inFlight := none }

/-- What a generation that has nothing to connect reports. -/
def idleUpdate (params : ReconcileParams) : SessionUpdate :=
  if params.teardownOnly then .stopped params.generation
  else .recovering params.generation .deadRtspRecovered 0

def startGeneration (params : ReconcileParams) : Supervisor :=
  if params.generation ≤ s.accepted then s -- stale
  else
    let s := { s with accepted := params.generation }.supersede
    let s := { s with health := {}, retained := some params }
    if params.desired = [] then s.pushUpdate (idleUpdate params)
    else
      { s.pushUpdate (.starting params.generation) with
        inFlight := some { generation := params.generation } }

def rebuildForCause (reason : RestartReason) : Supervisor :=
  match s.retained with
  | none => s
  | some params =>
    (s.pushUpdate (.recovering s.accepted reason 0)).startGeneration
      { params with generation := wrappingSucc params.generation }

/-! ### Probing -/

/-- `drain_runtime_events`. -/
def drainRuntimeEvents (reading : Reading) : Supervisor :=
  { s with
    health := { s.health with
      urgent := s.health.urgent ∪ (reading.sendFailures.take SESSION_REQUEST_CAPACITY).toFinset } }

def memberFailedError (failure : MemberFailure) : String :=
  "receiver rejected " ++ failure.phase.text ++ " request"

def controlFailedError (failure : MemberFailure) : String :=
  "receiver refused a " ++ failure.phase.text ++ " control request; it keeps streaming"

/-- The failure one answer amounts to, with the streak it leaves. -/
def judge (streak : SortedMap ReceiverId Nat) (urgent : Finset ReceiverId)
    (receiver : ReceiverId) : ProbeAnswer → SortedMap ReceiverId Nat × Option String
  | .healthy => (streak.erase receiver, none)
  | .timedOut =>
    let count := (streak.get receiver).getD 0 + 1
    (streak.insert receiver count, if TIMEOUT_STREAK_TO_FAIL ≤ count ∨ receiver ∈ urgent then
        some "the receiver stopped answering health probes"
      else none)
  | .failed failure => (streak, some (memberFailedError failure))

/-- One member's answer in a probe cycle. -/
def probeMember (urgent : Finset ReceiverId) (primary : Option ReceiverId) (s : Supervisor)
    (result : ReceiverId × ProbeAnswer) : Supervisor :=
  if result.1 ∈ s.health.failed then s
  else
    match judge s.health.streak urgent result.1 result.2 with
    | (streak, none) => { s with health := { s.health with streak } }
    | (streak, some error) =>
      { s with
        health := { s.health with
          streak := streak.erase result.1
          failed := insert result.1 s.health.failed }
      }.pushUpdate (.memberFailed s.accepted result.1 (decide (primary = some result.1)) error)

def runProbeCycle (reading : Reading) : Supervisor :=
  match s.active with
  | none => s
  | some transport =>
    let s := s.drainRuntimeEvents reading
    let urgent := s.health.urgent
    let s := { s with health := { s.health with urgent := ∅ } }
    reading.probes.foldl (probeMember urgent transport.primary)
      (s.call (.probeMembers transport.serial))

/-! ### Requests -/

def setMemberVolume (receiver : ReceiverId) (reading : Reading) : Supervisor :=
  match s.active with
  | none => s
  | some transport =>
    if receiver ∈ transport.members then
      let s := s.call (.setMemberVolume transport.serial receiver (s.volumes.get receiver))
      match reading.refused with
      | none => s
      | some failure =>
        s.pushUpdate (.memberControlFailed s.accepted receiver (controlFailedError failure))
    else s

def suspend : Supervisor :=
  let hadSession := s.inFlight.isSome || s.active.isSome
  let s := { s.supersede with health := {} }
  if hadSession then s.pushUpdate (.stopped s.accepted) else s

def applyInlineRequest (request : SessionRequest) (reading : Reading) :
    Supervisor :=
  match request with
  | .reconcile _ => s -- the newest one is dispatched separately
  | .setVolume receiver _ => s.setMemberVolume receiver reading
  | .probe => s.runProbeCycle reading
  | .networkChanged => s.rebuildForCause .localInterfaceChanged
  | .suspend => s.suspend
  | .resume => s.rebuildForCause .systemResume

variable (pending : List SessionRequest)

/-- The requests other than reconciles in arrival order, and the reconcile
of the greatest generation. -/
def coalesce : List SessionRequest × Option ReconcileParams :=
  pending.foldl (fun (inline, newest) request =>
    match request with
    | .reconcile params =>
      (inline, if newest.all (fun current => decide (current.generation < params.generation))
        then some params else newest)
    | other => (inline ++ [other], newest)) ([], none)

/-- The requests one after the other, each with what the transport answers. -/
def applyInline (s : Supervisor) : List SessionRequest → List Reading → Supervisor
  | [], _ => s
  | request :: rest, readings =>
    (s.applyInlineRequest request (readings.headD {})).applyInline rest readings.tail

variable (readings : List Reading)

/-- `SupervisorStep::Request`, after the queue was drained. -/
def handle :
    Supervisor :=
  let s := s.applyInline (coalesce pending).1 readings
  match (coalesce pending).2 with
  | some params => s.startGeneration params
  | none => s

/-! ### Adoption -/

def recover (generation : Nat) : Supervisor :=
  s.pushUpdate (.recovering generation .deadRtspRecovered 0)

/-- `SupervisorStep::Adopt`. -/
def adopt : Supervisor :=
  match s.inFlight with
  | none => s
  | some attempt =>
    let idle := { s with inFlight := none }
    match attempt.outcome with
    | .running => s
    | .prepared transport =>
      if attempt.generation = s.accepted then
        { idle.call (.activate transport.serial) with
          stage := .activating attempt.generation transport }
      else idle.stopBounded transport
    | .failed => if attempt.generation = s.accepted then idle.recover attempt.generation else idle
    | .lost => idle

/-- `activate_prepared` takes the next request: volume changes, probes and
stale reconciles are dropped, anything else interrupts the activation. -/
def activationRequest : Supervisor :=
  match s.stage, s.requests with
  | .activating generation transport, request :: rest =>
    let interrupted := { s.stopBounded transport with
      requests := rest
      stage := .replaying request }
    match request with
    | .setVolume _ _ | .probe => { s with requests := rest }
    | .reconcile params =>
      if params.generation ≤ generation then { s with requests := rest } else interrupted
    | .networkChanged | .suspend | .resume => interrupted
  | _, _ => s

/-- `activate` returned, or its deadline passed. -/
def activated (succeeded : Bool) (reading : Reading) : Supervisor :=
  match s.stage with
  | .activating generation transport =>
    let s := { s with stage := .waiting }
    match succeeded, transport.primary with
    | true, some primary =>
      { (s.pushUpdate (.active generation primary transport.members transport.failures)
        ).drainRuntimeEvents reading with
        active := some { transport with failures := [] } }
    | _, _ => (s.stopBounded transport).recover generation
  | _ => s

/-- Cancellation, and the bounded final teardown. -/
def cancel : Supervisor :=
  match s.stage with
  | .ended => s
  | .activating _ transport => { (s.stopBounded transport).supersede with stage := .ended }
  | .waiting | .replaying _ => { s.supersede with stage := .ended }

/-! ### Moves -/

/-- The start task ends. -/
def complete (result : StartResult) : Supervisor :=
  match s.inFlight with
  | none => s
  | some attempt =>
    if attempt.outcome = .running then
      match result with
      | .prepared primary members failures =>
        { s with
          inFlight := some { attempt with
            outcome := .prepared ⟨s.built, primary, members, failures⟩ }
          built := s.built + 1 }
      | .failed => { s with inFlight := some { attempt with outcome := .failed } }
      | .lost => { s with inFlight := some { attempt with outcome := .lost } }
    else s

/-- One turn over the queued requests, or over an interrupting one and
those behind it. -/
def turn : Supervisor :=
  match s.stage with
  | .replaying request =>
    { s with stage := .waiting, requests := [] }.handle (request :: s.requests) readings
  | .waiting =>
    match s.requests with
    | [] => s
    | pending => { s with requests := [] }.handle pending readings
  | .activating _ _ | .ended => s

inductive Move where
  | send (request : SessionRequest)
  | remember (receiver : ReceiverId) (volume : F32)
  | complete (result : StartResult)
  | adopt
  | turn (readings : List Reading)
  | probe (reading : Reading)
  | activationRequest
  | activated (succeeded : Bool) (reading : Reading)
  | cancel

def step (s : Supervisor) : Move → Supervisor
  | .send request => (s.trySend request).1
  | .remember receiver volume => s.rememberVolume receiver volume
  | .complete result => s.complete result
  | .adopt => if s.stage = .waiting then s.adopt else s
  | .turn readings => s.turn readings
  | .probe reading => if s.stage = .waiting then s.runProbeCycle reading else s
  | .activationRequest => s.activationRequest
  | .activated succeeded reading => s.activated succeeded reading
  | .cancel => s.cancel

/-- The supervisor after the moves. -/
def run (s : Supervisor) (moves : List Move) : Supervisor := Mealy.run (Mealy.silent step) s moves

/-- Every step of the run meets the condition. -/
def Along (cond : Supervisor → Move → Prop) (s : Supervisor) (moves : List Move) : Prop :=
  Mealy.Along (Mealy.silent step) cond s moves

end Supervisor

end OpenAirCast.Backend
