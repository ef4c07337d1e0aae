/-
Diagnostics.SessionEnd — the registry's worker with the client of
its session, up to the session's end and after.

`WorkerState.publish` takes what `drain_events` answers as an argument. Here
the answers come from a `ClientFeed` whose connections record all the while.
A publication of a session of this client calls `drain_events` until it
answers nothing, at most sixteen times, and then goes on as `publish` with
these batches and with the counters the client has by then. `EndedSession`
keeps what there was when a command took a session of the client away.

Translation notes.

* One client is followed, by its handle. Sessions of other clients come and
  go; what those answer is an argument.
* The worker pushes the events batch by batch, here all of them when the last
  call has returned. Nobody else pushes.
* The counters of the client change as one, between two steps of others.
-/
import OpenAirCast.Diagnostics.ClientSource
import OpenAirCast.Diagnostics.TransitionTheorems

namespace OpenAirCast.Diagnostics

open Backend WorkerState

/-- A publication in the calls of `drain_events`. -/
structure Publication where
  asked : Asked
  batches : List (List ClientDiagnosticEvent) := []

/-- A session of the client as it was when its end was applied. -/
structure EndedSession where
  recorded : List ClientDiagnosticEvent
  evicted : List ClientDiagnosticEvent
  /-- The counters each time they were shown, the last time at the end. -/
  shown : List DefiniteBaseline
  /-- What the publications of the session pushed. -/
  pushed : List DiagnosticEventDraft

structure ClientRun where
  worker : WorkerState
  feed : ClientFeed
  publication : Option Publication := none
  /-- What the sinks have evicted; like all that follows, nobody reads it. -/
  evicted : List ClientDiagnosticEvent := []
  /-- The events of this client that were pushed. -/
  handed : List ClientDiagnosticEvent := []
  /-- Of the session of this client: the counters as its publications read
  them, and what these pushed. -/
  shown : List DefiniteBaseline := []
  pushed : List DiagnosticEventDraft := []
  /-- Sessions that are over, before and after the next publication. -/
  ending : List EndedSession := []
  ended : List EndedSession := []

inductive ClientMove where
  /-- The connection of an entry records. -/
  | record (index elapsedNs : Nat) (deviceId : Option DeviceId) (kind : ClientDiagnosticKind)
  /-- The counters change. -/
  | play (audio : Option AudioDiagnosticsSnapshot)
  | command (asked : Asked) (command : Command)
  | ingest (asked : Asked) (event : FeedEvent)
  | publish (asked : Asked)
  /-- The publication goes on. -/
  | advance

/-- The client events among the drafts. -/
def clientEvents (drafts : List DiagnosticEventDraft) : List ClientDiagnosticEvent :=
  drafts.filterMap fun draft =>
    match draft.payload with
    | .client event => some event
    | _ => none

namespace ClientFeed

/-- What the next `record` makes the sink of the entry evict. -/
def evictedBy (t : ClientFeed) (index : Nat) : List ClientDiagnosticEvent :=
  (t.source.buffered index).take
    ((t.source.buffered index).length + 1 - EventSink.EVENT_RING_CAPACITY)

end ClientFeed

namespace ClientRun

variable (handle : Nat)

variable (t : ClientRun)

/-- The active session is one of this client. -/
def IsOwn : Prop := ∃ registration ∈ t.worker.active, registration.source = handle

instance (t : ClientRun) : Decidable (t.IsOwn handle) :=
  inferInstanceAs (Decidable (∃ registration ∈ t.worker.active, registration.source = handle))

/-- The command takes the session of this client away. -/
def Ends : Command → Prop
  | .register _ => t.IsOwn handle
  | .finish sessionId _ =>
    ∃ registration ∈ t.worker.active,
      registration.source = handle ∧ registration.sessionId = sessionId

instance (t : ClientRun) : ∀ command, Decidable (t.Ends handle command)
  | .register _ => inferInstanceAs (Decidable (t.IsOwn handle))
  | .finish sessionId _ =>
    inferInstanceAs (Decidable (∃ registration ∈ t.worker.active,
      registration.source = handle ∧ registration.sessionId = sessionId))

variable (asked : Asked)

/-- The client answers with its own snapshot. -/
def asking : Asked :=
  { asked with
    snapshot := fun source =>
      if source = handle then t.feed.source.snapshot else asked.snapshot source }

def counters : Option DefiniteBaseline := t.feed.source.audio.map baselineOf

def atEnd : EndedSession where
  recorded := t.feed.recorded
  evicted := t.evicted
  shown := t.shown ++ t.counters.toList
  pushed := t.pushed

def record (t : ClientRun) (index elapsedNs : Nat) (deviceId : Option DeviceId)
    (kind : ClientDiagnosticKind) : ClientRun :=
  { t with
    feed := t.feed.record index elapsedNs deviceId kind
    evicted := t.evicted ++ t.feed.evictedBy index }

def play (audio : Option AudioDiagnosticsSnapshot) : ClientRun :=
  { t with feed := { t.feed with source := { t.feed.source with audio } } }

def command (command : Command) : ClientRun :=
  let worker := t.worker.applyCommand (t.asking handle asked) command
  let ending := if t.Ends handle command then t.ending ++ [t.atEnd] else t.ending
  match command with
  | .register _ => { t with worker, ending, shown := [], pushed := [] }
  | .finish _ _ => { t with worker, ending }

/-- A publication from the snapshot on. -/
def conclude [PublicMessage] (t : ClientRun) (asked : Asked) :
    ClientRun × List DiagnosticEventDraft :=
  let r := t.worker.step (.publish (t.asking handle asked))
  let told :=
    { t with worker := r.1, publication := none, ending := [], ended := t.ended ++ t.ending }
  if t.IsOwn handle then
    ({ told with
      handed := t.handed ++ clientEvents r.2
      shown := t.shown ++ t.counters.toList
      pushed := t.pushed ++ r.2 }, r.2)
  else (told, r.2)

/-- `drain_events(512)` is called. -/
def call (publication : Publication) : ClientRun :=
  { t with feed := t.feed.begin 512, publication := some publication }

def publish [PublicMessage] (t : ClientRun) (asked : Asked) :
    ClientRun × List DiagnosticEventDraft :=
  if t.IsOwn handle then (t.call { asked }, []) else t.conclude handle asked

/-- The call goes on, or it has returned a batch. -/
def advance [PublicMessage] (t : ClientRun) (publication : Publication) :
    ClientRun × List DiagnosticEventDraft :=
  match t.feed.drain with
  | some _ => ({ t with feed := t.feed.advance }, [])
  | none =>
    let batch := t.feed.returned.getLastD []
    let batches := publication.batches ++ [batch]
    if batch = [] ∨ batches.length = 16 then
      t.conclude handle { publication.asked with batches }
    else (t.call { publication with batches }, [])

/-- The worker does nothing else while it publishes. -/
def step [PublicMessage] (t : ClientRun) : ClientMove → ClientRun × List DiagnosticEventDraft
  | .record index elapsedNs deviceId kind => (t.record index elapsedNs deviceId kind, [])
  | .play audio => (t.play audio, [])
  | .advance =>
    match t.publication with
    | none => (t, [])
    | some publication => t.advance handle publication
  | .command asked command =>
    if t.publication.isSome then (t, []) else (t.command handle asked command, [])
  | .ingest asked event =>
    if t.publication.isSome then (t, [])
    else
      let r := t.worker.step (.ingest asked event)
      ({ t with worker := r.1 }, r.2)
  | .publish asked => if t.publication.isSome then (t, []) else t.publish handle asked

/-- The registry has started, and the client has recorded nothing. -/
def start (asked : Asked) (devices : List DeviceId) (audio : Option AudioDiagnosticsSnapshot) :
    ClientRun :=
  { worker := .start asked, feed := .start devices audio }

end ClientRun

end OpenAirCast.Diagnostics
