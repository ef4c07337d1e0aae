/-
Backend.Activation — the volume barrier of a starting session,
from `start_with_volumes` and `AirPlayGroupTransport::activate` in
`backend/transport.rs`.

Before audio is released every connected receiver is set to its effective
level. Both functions make up to three passes: capture the levels, set
every member, and look whether the levels have moved meanwhile. The first
does it before audio is prepared, the second at the adoption of the
transport, and there the look and the release are one critical section.

Other threads store levels all along. A `Move` is one thing that happens,
theirs or the task's; one that does not apply changes nothing.

Translation notes.

* A `set_member_volume` under its timeout is one move, made when it ends.
  What another thread stores meanwhile comes before it or after it.
* `activate` is called once for a transport; what fails or is dropped is
  torn down.
* `accepted` is what the receivers have taken, `changes` how often the
  version has moved since the levels were captured. Nothing reads them.
-/
import OpenAirCast.Backend.Session

namespace OpenAirCast.Backend

def INITIAL_VOLUME_MAX_PASSES : Nat := 3

namespace EffectiveVolumes

/-- Whether a stored level differs from the one before it, by `!=`. -/
def moves (state : EffectiveVolumes) (receiver : ReceiverId) (volume : F32) : Bool :=
  !(state.values.get receiver == some (volume.clamp F32.zero F32.one))

def isCurrent (state snapshot : EffectiveVolumes) : Bool := state.version == snapshot.version

end EffectiveVolumes

/-- The two functions with a volume loop. -/
inductive Barrier where
  | startWithVolumes
  | activate

/-- What became of one `set_member_volume`. -/
inductive WriteOutcome where
  | accepted
  | rejected
  | timedOut
  deriving DecidableEq

/-- Where the task is. -/
inductive ActivationStage where
  /-- At the top of a pass; so many were in vain. -/
  | capturing (barrier : Barrier) (pass : Nat)
  /-- Inside a pass, with the receivers still to be set. -/
  | writing (barrier : Barrier) (pass : Nat) (snapshot : EffectiveVolumes) (rest : List ReceiverId)
  /-- The levels were stable; audio is being prepared. -/
  | preparing
  /-- The transport waits to be adopted. -/
  | prepared
  /-- `activate` has returned `Ok`. -/
  | adopted
  /-- An error, or the task was dropped. -/
  | refused

structure Activation where
  connected : List ReceiverId
  volumes : EffectiveVolumes := {}
  stage : ActivationStage := .capturing .startWithVolumes 0
  /-- The sender of the release signal is still there. -/
  release : Bool := false
  /-- The release signal has been sent. -/
  released : Bool := false
  /-- The level each receiver was last set to. -/
  accepted : SortedMap ReceiverId F32 := .empty
  changes : Nat := 0

namespace Activation

inductive Move where
  /-- Another thread's `EffectiveVolumeState::set`. -/
  | set (receiver : ReceiverId) (volume : F32)
  | capture
  | write (outcome : WriteOutcome)
  /-- The look at the end of a pass, with whether the audio task still
  waits for the signal. -/
  | look (waiting : Bool)
  | prepare (succeeds : Bool)
  | activate
  | drop

variable (s : Activation)

/-- The receivers a pass sets, in order. -/
def targets : Barrier → List ReceiverId
  | .startWithVolumes => s.connected
  | .activate => sortedIds s.connected.toFinset

variable (barrier : Barrier) (pass : Nat)

/-- The pass was in vain. -/
def again : Activation :=
  if pass + 1 < INITIAL_VOLUME_MAX_PASSES then
    { s with stage := .capturing barrier (pass + 1) }
  else { s with stage := .refused }

variable (snapshot : EffectiveVolumes) (waiting : Bool)

/-- `release_if_current`, with its answer. -/
def releaseIfCurrent : Activation × Bool :=
  if s.volumes.isCurrent snapshot then
    ({ s with release := false, released := s.released || (s.release && waiting) },
      s.release && waiting)
  else (s, false)

/-- The end of a pass. -/
def look : Activation :=
  match barrier with
  | .startWithVolumes =>
    if s.volumes.isCurrent snapshot then { s with stage := .preparing } else s.again barrier pass
  | .activate =>
    let result := s.releaseIfCurrent snapshot waiting
    if result.2 then { result.1 with stage := .adopted } else result.1.again barrier pass

def step (s : Activation) : Move → Activation
  | .set receiver volume =>
    { s with
      volumes := s.volumes.set receiver volume
      changes := s.changes + if s.volumes.moves receiver volume then 1 else 0 }
  | .capture =>
    match s.stage with
    | .capturing barrier pass =>
      { s with
        stage := .writing barrier pass s.volumes (s.targets barrier)
        changes := 0 }
    | _ => s
  | .write outcome =>
    match s.stage with
    | .writing barrier pass snapshot (receiver :: rest) =>
      if outcome = .accepted then
        { s with
          stage := .writing barrier pass snapshot rest
          accepted := s.accepted.insert receiver (snapshot.get receiver) }
      else { s with stage := .refused }
    | _ => s
  | .look waiting =>
    match s.stage with
    | .writing barrier pass snapshot [] => s.look barrier pass snapshot waiting
    | _ => s
  | .prepare succeeds =>
    match s.stage with
    | .preparing =>
      if succeeds then { s with stage := .prepared, release := true }
      else { s with stage := .refused }
    | _ => s
  | .activate =>
    match s.stage with
    | .prepared =>
      if s.release then { s with stage := .capturing .activate 0 }
      else { s with stage := .adopted }
    | _ => s
  | .drop =>
    match s.stage with
    | .adopted => s
    | _ => { s with stage := .refused }

/-- The task right after the receivers connected. -/
def connect (connected : List ReceiverId) (volumes : EffectiveVolumes) : Activation :=
  { connected, volumes }

def run (s : Activation) (moves : List Move) : Activation := moves.foldl step s

end Activation

end OpenAirCast.Backend
