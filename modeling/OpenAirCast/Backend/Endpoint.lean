/-
Backend.Endpoint — the audio endpoint between the actor and the
capture supervisor, from `process_batch`, `apply_capture_update` and
`run_supervisor`.

An endpoint command commits the document, stores the preference with the
supervisor and requests the change. The last two take the supervisor's lock
one after the other (`handing`), and the supervisor may run in between. The
actor does nothing else meanwhile. The updates come back through the queue.

Translation notes.

* The restored preference is stored before the supervisor is polled.
* Suspends, resumes and the stop are one control each.
-/
import OpenAirCast.Backend.Capture

namespace OpenAirCast.Backend.Capture

/-- What the actor hands the supervisor. -/
inductive Handover where
  | preference (preference : AudioEndpointPreference)
  | control (control : CaptureControl)

def handoverOf : Emission → Option Handover
  | .capturePreference preference => some (.preference preference)
  | .captureControl control => some (.control control)
  | _ => none

/-- What the actor has handed out between the two states. -/
def handedOut (before after : Controller) : List Handover :=
  (after.out.drop before.out.length).filterMap handoverOf

structure CaptureSystem where
  actor : Controller
  supervisor : Supervisor
  /-- What the command under way has still to hand over. -/
  handing : List Handover := []

inductive SystemEvent where
  /-- `SetAudioEndpoint`, up to its first lock. -/
  | setAudioEndpoint (ports : Ports) (id : Nat) (preference : AudioEndpointPreference)
  | handOver
  | requestControl (control : CaptureControl)
  | applyUpdate
  /-- The supervisor and its workers. -/
  | supervisor (event : SupervisorEvent)

/-- What the actor does not do to the supervisor. -/
def SupervisorEvent.isOwn : SupervisorEvent → Bool
  | .requestControl _ | .setPreference _ | .takeUpdate | .dropUpdates => false
  | _ => true

namespace CaptureSystem

variable [Lowercase]

variable (t : CaptureSystem)

def setAudioEndpoint (ports : Ports) (id : Nat)
    (preference : AudioEndpointPreference) : CaptureSystem :=
  let actor := (Controller.Batch.setAudioEndpoint { actor := t.actor } ports id preference).actor
  { t with actor, handing := handedOut t.actor actor }

def handOver : CaptureSystem :=
  match t.handing with
  | [] => t
  | .preference preference :: rest =>
    { t with supervisor := t.supervisor.setPreference preference, handing := rest }
  | .control control :: rest =>
    { t with supervisor := t.supervisor.requestControl control, handing := rest }

def applyUpdate : CaptureSystem :=
  match t.supervisor.updates with
  | [] => t
  | tagged :: _ =>
    { t with
      actor := t.actor.applyCaptureUpdate tagged.update
      supervisor := t.supervisor.takeUpdate }

/-- With a command under way, the actor has no other turn. -/
def step (t : CaptureSystem) : SystemEvent → CaptureSystem × List Flow
  | .handOver => (t.handOver, [])
  | .setAudioEndpoint ports id preference =>
    (if t.handing = [] then t.setAudioEndpoint ports id preference else t, [])
  | .requestControl control =>
    (if t.handing = [] then { t with supervisor := t.supervisor.requestControl control } else t, [])
  | .applyUpdate => (if t.handing = [] then t.applyUpdate else t, [])
  | .supervisor event =>
    if event.isOwn then
      let r := t.supervisor.step event
      ({ t with supervisor := r.1 }, r.2)
    else (t, [])

/-- A launch: the supervisor has the restored preference. -/
def start (loaded : LoadedState) (calibration : CalibrationProfile) (now : Instant) :
    CaptureSystem where
  actor := Controller.start loaded calibration now
  supervisor := { preference := loaded.state.audioEndpoint }

end CaptureSystem

end OpenAirCast.Backend.Capture
