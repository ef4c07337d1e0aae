/-
Audio.Playback — pausing and resuming a running stream, from
`pause`, `resume` and `run_streamer` in `airplay-audio/streamer.rs`.

Three parties share the streamer's state and the channel to the sender
thread: the caller, the loop of `run_streamer` and the thread. The loop
reads the state in one critical section, works in a second and sends its
frame outside of both, so calls may come between any two of these. What the
second section finds in the buffer is part of its event.
-/
import OpenAirCast.Audio.Sender

namespace OpenAirCast.Audio

inductive StreamerState where
  | idle
  | buffering
  | streaming
  | paused
  | stopped
  | error
  deriving DecidableEq

/-- Where the loop of `run_streamer` stands. -/
inductive LoopPhase where
  | top
  /-- Past the check of the state. -/
  | checked
  /-- In the blocking send of a frame. -/
  | sending (frame : PreparedFrame)
  | done

/-- What the loop gets from the buffer. -/
inductive Popped where
  | frame (frame : PreparedFrame)
  | empty
  /-- An error ends the loop; the state is only set where the lock is free. -/
  | failed (recorded : Bool)
  deriving DecidableEq

structure BufferView where
  /-- More than 10% full. -/
  refilled : Bool
  /-- Decoders at their end and nothing left. -/
  exhausted : Bool
  popped : Popped
  deriving DecidableEq

structure Playback where
  state : StreamerState := .streaming
  queue : List SenderMessage := []
  thread : SenderThread := {}
  phase : LoopPhase := .top

inductive PlaybackEvent where
  | pause
  | resume
  /-- The loop reads the state. -/
  | check
  /-- The loop's second critical section, when the decoding that opens it
  fails. -/
  | decodeFailed (recorded : Bool)
  /-- The second critical section. -/
  | work (view : BufferView)
  /-- The channel takes the frame, or is still full. -/
  | send
  /-- The sender thread takes a message. -/
  | receive
  deriving DecidableEq

/-- What happens on the channel. -/
inductive ChannelOp where
  | queued (message : SenderMessage)
  | dropped (message : SenderMessage)
  | taken (message : SenderMessage)

namespace Playback

variable (p : Playback)

/-- The channel takes a message: it is not full, and the thread still holds
its other end. -/
def hasRoom : Bool :=
  p.queue.length < CHANNEL_CAPACITY && p.thread.mode != .exited

/-- `try_send`: without room the message is dropped. -/
def offer (message : SenderMessage) : Playback × Option ChannelOp :=
  if p.hasRoom then ({ p with queue := p.queue ++ [message] }, some (.queued message))
  else (p, some (.dropped message))

def pause : Playback × Option ChannelOp :=
  if p.state = .streaming then
    let r := p.offer .pause
    ({ r.1 with state := .paused }, r.2)
  else (p, none)

def resume : Playback × Option ChannelOp :=
  if p.state = .paused then
    let r := p.offer .resume
    ({ r.1 with state := .streaming }, r.2)
  else (p, none)

/-- The loop is over and tells the thread to stop. -/
def finish : Playback × Option ChannelOp :=
  let r := p.offer .stop
  ({ r.1 with phase := .done }, r.2)

def check : Playback × Option ChannelOp :=
  match p.state with
  | .stopped | .error => p.finish
  | .paused => (p, none)
  | _ => ({ p with phase := .checked }, none)

/-- The loop's turn with what it pops. -/
def pop : Popped → Playback × Option ChannelOp
  | .frame frame => ({ p with phase := .sending frame }, none)
  | .empty => ({ p with state := .buffering, phase := .top }, none)
  | .failed recorded =>
    ({ p with state := if recorded then .error else p.state, phase := .done }, none)

/-- A buffering stream goes on once it is refilled; at the end of the
decoders it stops. -/
def work (p : Playback) (view : BufferView) : Playback × Option ChannelOp :=
  if p.state = .buffering then
    if view.refilled then { p with state := .streaming }.pop view.popped
    else if view.exhausted then { p with state := .stopped }.finish
    else ({ p with phase := .top }, none)
  else p.pop view.popped

/-- The blocking send of the frame. -/
def send (frame : PreparedFrame) : Playback × Option ChannelOp :=
  if p.thread.mode = .exited then ({ p with phase := .done }, none)
  else if p.hasRoom then
    ({ p with queue := p.queue ++ [.packet frame], phase := .top }, some (.queued (.packet frame)))
  else (p, none)

/-- The sender thread takes the next message, if there is one. -/
def receive (burstSize : Nat) : Playback × Option ChannelOp :=
  match p.queue with
  | [] => (p, none)
  | message :: rest =>
    ({ p with queue := rest, thread := (p.thread.receive burstSize message).1 },
      some (.taken message))

/-- Only one of the loop's events is ever the next. -/
def step (burstSize : Nat) (p : Playback) (event : PlaybackEvent) : Playback × Option ChannelOp :=
  match event, p.phase with
  | .pause, _ => p.pause
  | .resume, _ => p.resume
  | .check, .top => p.check
  -- nothing is refilled or popped, also while buffering
  | .decodeFailed recorded, .checked => p.pop (.failed recorded)
  | .work view, .checked => p.work view
  | .send, .sending frame => p.send frame
  | .receive, _ => p.receive burstSize
  | _, _ => (p, none)

end Playback

end OpenAirCast.Audio
