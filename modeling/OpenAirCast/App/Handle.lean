/-
App.Handle — how a published revision and a queued window
effect reach the window, from `app_handle.rs` and `ui/mod.rs`.

Three kinds of threads share the snapshot slot, the effect queue, the wake
gate and the waker registry. The actor stores a snapshot, any thread queues
an effect, and both then call `schedule_frame`: a compare-exchange of the
gate, and for the winner a copy of the registered callbacks that it calls
one by one. The window drains the queue at the start of a frame and loads
the snapshot afterwards. A `Move` is one atomic access; the mutex of the
queue is held from the gate's reset to the end of the drain, and a push
waits for it.

`request_repaint` is the one callback there is. It asks for a frame that
begins later; a frame may also begin unasked, from an input event of the
system. The snapshot and the effects are opaque here, and each step says in
a `Mark` what it did to them.
-/
import OpenAirCast.Lib.Mealy

namespace OpenAirCast.Handle

/-- Where a thread stands in `publish` or `UiEffectSender::send`. -/
inductive Phase where
  | idle
  /-- Stored or pushed; the compare-exchange comes next. -/
  | scheduling
  /-- The gate was won; the registry has not been read. -/
  | won
  /-- The copied callbacks still to be called. -/
  | waking (callbacks : List Nat)
deriving DecidableEq

/-- Where the window stands in its frame. -/
inductive Frame where
  /-- The window has not been built. -/
  | absent
  | resting
  | begun
  /-- `drain_ui_effects` holds the queue lock and has reset the gate. -/
  | rearmed
  /-- Drained; `loaded` once the snapshot was read in this frame. -/
  | drained (loaded : Bool)
deriving DecidableEq

/-- The actor's thread, and the other threads that hold a sender. -/
inductive Thread where
  | actor
  | sender (n : Nat)
deriving DecidableEq

/-- What a step did to the snapshot slot, the queue or the gate. -/
inductive Mark (σ ε : Type) where
  | stored (snapshot : σ)
  | pushed (effect : ε)
  | won
  | rearmed
  | drained (effects : List ε)
  | loaded (snapshot : σ)
deriving DecidableEq

structure AppHandle (σ ε : Type) where
  snapshot : σ
  queue : List ε := []
  /-- `wake_gate`. -/
  gate : Bool := false
  /-- The registered callbacks by id, and the id the next one gets. -/
  callbacks : List Nat := []
  nextId : Nat := 1
  threads : Thread → Phase := fun _ => .idle
  frame : Frame := .absent
  /-- A frame was asked for and has not begun. -/
  requested : Bool := false

inductive Move (σ ε : Type) where
  /-- `publish` stores a snapshot. -/
  | store (snapshot : σ)
  /-- `UiEffectSender::send` pushes an effect. -/
  | push (thread : Thread) (effect : ε)
  /-- `schedule_frame`: the compare-exchange. -/
  | exchange (thread : Thread)
  /-- `invoke_all` copies the callbacks. -/
  | collect (thread : Thread)
  /-- `invoke_all` calls the next callback, or returns after the last. -/
  | call (thread : Thread)
  /-- `ControlCenterApp::new` installs the waker. -/
  | install
  | beginFrame
  /-- `drain_ui_effects` takes the lock and resets the gate. -/
  | rearm
  /-- `drain_ui_effects` takes the queue and releases the lock. -/
  | drain
  | load
  | endFrame

variable {σ ε : Type}

/-- Before the actor runs: the slot holds the initial snapshot. -/
def start (initial : σ) : AppHandle σ ε := { snapshot := initial }

namespace AppHandle

/-- The queue's mutex is free. -/
def unlocked (h : AppHandle σ ε) : Bool := h.frame != .rearmed

def goTo (h : AppHandle σ ε) (thread : Thread) (phase : Phase) : AppHandle σ ε :=
  { h with threads := Function.update h.threads thread phase }

def store (h : AppHandle σ ε) (snapshot : σ) : AppHandle σ ε × Option (Mark σ ε) :=
  if h.threads .actor = .idle then
    ({ h with snapshot := snapshot }.goTo .actor .scheduling, some (.stored snapshot))
  else (h, none)

def push (h : AppHandle σ ε) (thread : Thread) (effect : ε) : AppHandle σ ε × Option (Mark σ ε) :=
  if h.threads thread = .idle ∧ h.unlocked then
    ({ h with queue := h.queue ++ [effect] }.goTo thread .scheduling, some (.pushed effect))
  else (h, none)

def exchange (h : AppHandle σ ε) (thread : Thread) : AppHandle σ ε × Option (Mark σ ε) :=
  if h.threads thread = .scheduling then
    if h.gate then (h.goTo thread .idle, none)
    else ({ h with gate := true }.goTo thread .won, some .won)
  else (h, none)

def collect (h : AppHandle σ ε) (thread : Thread) : AppHandle σ ε :=
  if h.threads thread = .won then h.goTo thread (.waking h.callbacks) else h

def call (h : AppHandle σ ε) (thread : Thread) : AppHandle σ ε :=
  match h.threads thread with
  | .waking (_ :: rest) => { h with requested := true }.goTo thread (.waking rest)
  | .waking [] => h.goTo thread .idle
  | _ => h

/-- The window toolkit runs a first frame after it built the window. -/
def install (h : AppHandle σ ε) : AppHandle σ ε :=
  if h.frame = .absent then
    { h with
      callbacks := h.callbacks ++ [h.nextId]
      nextId := h.nextId + 1
      frame := .resting
      requested := true }
  else h

def beginFrame (h : AppHandle σ ε) : AppHandle σ ε :=
  if h.frame = .resting then { h with frame := .begun, requested := false } else h

def rearm (h : AppHandle σ ε) : AppHandle σ ε × Option (Mark σ ε) :=
  if h.frame = .begun then ({ h with frame := .rearmed, gate := false }, some .rearmed)
  else (h, none)

def drain (h : AppHandle σ ε) : AppHandle σ ε × Option (Mark σ ε) :=
  if h.frame = .rearmed then
    ({ h with frame := .drained false, queue := [] }, some (.drained h.queue))
  else (h, none)

/-- `handle_close_request`, `sync_tray` and `ui` each load the slot. -/
def load (h : AppHandle σ ε) : AppHandle σ ε × Option (Mark σ ε) :=
  match h.frame with
  | .drained _ => ({ h with frame := .drained true }, some (.loaded h.snapshot))
  | _ => (h, none)

def endFrame (h : AppHandle σ ε) : AppHandle σ ε :=
  if h.frame = .drained true then { h with frame := .resting } else h

end AppHandle

/-- One atomic step. A move that is not enabled changes nothing. -/
def step (h : AppHandle σ ε) : Move σ ε → AppHandle σ ε × Option (Mark σ ε)
  | .store snapshot => h.store snapshot
  | .push thread effect => h.push thread effect
  | .exchange thread => h.exchange thread
  | .collect thread => (h.collect thread, none)
  | .call thread => (h.call thread, none)
  | .install => (h.install, none)
  | .beginFrame => (h.beginFrame, none)
  | .rearm => h.rearm
  | .drain => h.drain
  | .load => h.load
  | .endFrame => (h.endFrame, none)

/-- The marks of a run, first to last. -/
def marks (h : AppHandle σ ε) (moves : List (Move σ ε)) : List (Mark σ ε) :=
  (Mealy.outputs step h moves).filterMap id

/-- The effects pushed, in the order of the queue. -/
def pushed (marks : List (Mark σ ε)) : List ε :=
  marks.filterMap fun | .pushed effect => some effect | _ => none

/-- The effects handed to the window, in the order it got them. -/
def delivered (marks : List (Mark σ ε)) : List ε :=
  marks.flatMap fun | .drained effects => effects | _ => []

/-- The newest snapshot in the slot. -/
def newest (initial : σ) (marks : List (Mark σ ε)) : σ :=
  marks.foldl (fun held mark => match mark with | .stored snapshot => snapshot | _ => held) initial

/-- The snapshot the window loaded last. -/
def lastLoaded (marks : List (Mark σ ε)) : Option σ :=
  marks.foldl (fun held mark => match mark with | .loaded snapshot => some snapshot | _ => held)
    none

def Mark.isWon : Mark σ ε → Bool
  | .won => true
  | _ => false

def Mark.isRearmed : Mark σ ε → Bool
  | .rearmed => true
  | _ => false

/-- No publication, send or frame is in progress and no frame is
outstanding. Before the window is built its first frame still is. -/
structure AppHandle.Quiet (h : AppHandle σ ε) : Prop where
  threads : ∀ thread, h.threads thread = .idle
  resting : h.frame = .resting
  unrequested : h.requested = false

end OpenAirCast.Handle
