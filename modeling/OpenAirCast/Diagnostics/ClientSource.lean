/-
Diagnostics.ClientSource — where a client's diagnostics come
from, from `diagnostics.rs` of `airplay-client`.

A connection writes into its `EntryShared`, whose `EventSink` keeps the last
events. `ClientDiagnosticsSource` reads all entries: `snapshot` joins each
with the audio of the client, and `drainEvents` hands out the events.
`ClientFeed` is a source while connections record and one drain after the
other goes over the sinks: `take` empties one of them, after the last one the
pooled events are sorted and split, and `putBack` restores what is left of
one sink.

Translation notes.

* What a streamer's audio source answers is part of the state; one answer
  serves a whole snapshot.
* The ring keeps an event with its `seq`, which the event also has.
* `record` stamps and stores in one step; the stamp is an argument.
* A sort by key is an insertion sort. Rust's is not stable, so keys that are
  equal may come in another order.
* The setter of the sender index is not modelled, nor are the states of a
  connection.
-/
import OpenAirCast.Diagnostics.Client
import OpenAirCast.Diagnostics.Snapshot

namespace OpenAirCast.Diagnostics

open Backend

/-! ## The event ring of a connection -/

structure EventSink where
  ring : List ClientDiagnosticEvent := []
  nextSeq : Nat := 0
  overflowDroppedTotal : Nat := 0

namespace EventSink

def EVENT_RING_CAPACITY : Nat := 256

/-- Pops the front until there is room for one more, and counts. -/
def makeRoom : List ClientDiagnosticEvent → Nat → List ClientDiagnosticEvent × Nat
  | [], dropped => ([], dropped)
  | event :: rest, dropped =>
    if EVENT_RING_CAPACITY ≤ (event :: rest).length then makeRoom rest (dropped + 1)
    else (event :: rest, dropped)

variable (sink : EventSink)

/-- The event the next `record` stores. -/
def stamped (elapsedNs : Nat) (deviceId : Option DeviceId)
    (kind : ClientDiagnosticKind) : ClientDiagnosticEvent :=
  ⟨elapsedNs, sink.nextSeq, deviceId, kind⟩

def record (sink : EventSink) (elapsedNs : Nat) (deviceId : Option DeviceId)
    (kind : ClientDiagnosticKind) : EventSink :=
  let room := makeRoom sink.ring sink.overflowDroppedTotal
  { ring := room.1 ++ [sink.stamped elapsedNs deviceId kind]
    nextSeq := sink.nextSeq + 1
    overflowDroppedTotal := room.2 }

/-- What `take_all` leaves. -/
def taken : EventSink := { sink with ring := [] }

def restore (items : List ClientDiagnosticEvent) : EventSink :=
  { sink with ring := sink.ring ++ items }

end EventSink

/-! ## Entries and rows -/

structure EntryShared where
  deviceId : DeviceId
  /-- `sender_target_index` where `has_target_index` is set. -/
  senderTargetIndex : Option Nat := none
  timingRole : ClientTimingRole := .single
  feedback : FeedbackSnapshot := {}
  lastError : Option ClientDiagnosticError := none
  /-- What the connection's own streamer says, if it owns one. -/
  streamerAudio : Option AudioDiagnosticsSnapshot := none
  sink : EventSink := {}

namespace EntryShared

variable (entry : EntryShared) (joinedTargets : Option (List TargetTransportSnapshot))

def transportSnapshot : TargetTransportSnapshot :=
  let index := entry.senderTargetIndex.getD 0
  match entry.streamerAudio with
  | some audio => (audio.targets[index]?).getD {}
  | none =>
    match joinedTargets with
    | some targets => (targets[index]?).getD {}
    | none => {}

def snapshot : ConnectionDiagnosticsSnapshot where
  deviceId := entry.deviceId
  senderTargetIndex := entry.senderTargetIndex
  timingRole := entry.timingRole
  timing := {}
  transport := entry.transportSnapshot joinedTargets
  retransmit := {}
  feedback := entry.feedback
  lastError := entry.lastError

end EntryShared

structure ClientDiagnosticsSource where
  entries : List EntryShared := []
  audio : Option AudioDiagnosticsSnapshot := none
  clientEventsDroppedTotal : Nat := 0

namespace ClientDiagnosticsSource

def fromParts (entries : List EntryShared) (audio : Option AudioDiagnosticsSnapshot) :
    ClientDiagnosticsSource :=
  { entries, audio }

variable (source : ClientDiagnosticsSource)

def snapshot : ClientDiagnosticsSnapshot where
  audio := source.audio
  connections := (source.entries.map (·.snapshot (source.audio.map (·.targets)))).insertionSort
    (fun a b => a.deviceId ≤ b.deviceId)
  clientEventsDroppedTotal := source.clientEventsDroppedTotal

/-- A change of one entry's sink. -/
def updateSink (index : Nat) (f : EventSink → EventSink) :
    ClientDiagnosticsSource :=
  { source with
    entries := source.entries.modify index (fun entry => { entry with sink := f entry.sink }) }

/-- What is in the sink of an entry. -/
def buffered (index : Nat) : List ClientDiagnosticEvent :=
  (source.entries[index]?.map (·.sink.ring)).getD []

end ClientDiagnosticsSource

/-! ## A drain among the connections -/

/-- A pooled event, with the index of its entry. -/
structure Pooled where
  index : Nat
  event : ClientDiagnosticEvent

/-- The sort key. -/
def Pooled.le (a b : Pooled) : Prop :=
  a.event.elapsedNs < b.event.elapsedNs ∨
    (a.event.elapsedNs = b.event.elapsedNs ∧ a.event.seq ≤ b.event.seq)

instance (a b : Pooled) : Decidable (a.le b) :=
  inferInstanceAs (Decidable (_ ∨ _))

/-- Where a running `drain_events` stands. -/
inductive Drain where
  | taking (limit index : Nat) (pooled : List Pooled)
  | restoring (drained : List ClientDiagnosticEvent) (remainder : List Pooled) (index : Nat)

structure ClientFeed where
  source : ClientDiagnosticsSource
  drain : Option Drain := none
  /-- The batches `drain_events` returned; like what was recorded, nobody reads it. -/
  returned : List (List ClientDiagnosticEvent) := []
  recorded : List ClientDiagnosticEvent := []

inductive ClientFeedStep where
  /-- The connection of an entry records. -/
  | record (index elapsedNs : Nat) (deviceId : Option DeviceId) (kind : ClientDiagnosticKind)
  /-- `drain_events` is called. -/
  | drain (limit : Nat)
  /-- The drain goes on with its next sink. -/
  | advance

namespace ClientFeed

def record (t : ClientFeed) (index elapsedNs : Nat) (deviceId : Option DeviceId)
    (kind : ClientDiagnosticKind) : ClientFeed :=
  match t.source.entries[index]? with
  | none => t
  | some entry =>
    { t with
      source := t.source.updateSink index (·.record elapsedNs deviceId kind)
      recorded := t.recorded ++ [entry.sink.stamped elapsedNs deviceId kind] }

variable (t : ClientFeed)

/-- One drain at a time. -/
def begin (limit : Nat) : ClientFeed :=
  match t.drain with
  | some _ => t
  | none =>
    if t.source.entries.isEmpty ∨ limit = 0 then { t with returned := t.returned ++ [[]] }
    else { t with drain := some (.taking limit 0 []) }

/-- `take_all` of one sink; after the last one the pool is sorted and split. -/
def take (limit index : Nat) (pooled : List Pooled) : ClientFeed :=
  let pooled := pooled ++ (t.source.buffered index).map (⟨index, ·⟩)
  let source := t.source.updateSink index EventSink.taken
  if index + 1 < t.source.entries.length then
    { t with source, drain := some (.taking limit (index + 1) pooled) }
  else
    let sorted := pooled.insertionSort Pooled.le
    { t with
      source
      drain := some (.restoring ((sorted.take limit).map (·.event)) (sorted.drop limit) 0) }

/-- `restore` of one sink; after the last one the drain returns. -/
def putBack (drained : List ClientDiagnosticEvent) (remainder : List Pooled)
    (index : Nat) : ClientFeed :=
  let items := (remainder.filter (·.index = index)).map (·.event)
  let source := t.source.updateSink index (·.restore items)
  if index + 1 < t.source.entries.length then
    { t with source, drain := some (.restoring drained remainder (index + 1)) }
  else { t with source, drain := none, returned := t.returned ++ [drained] }

def advance : ClientFeed :=
  match t.drain with
  | none => t
  | some (.taking limit index pooled) => t.take limit index pooled
  | some (.restoring drained remainder index) => t.putBack drained remainder index

def step (t : ClientFeed) : ClientFeedStep → ClientFeed
  | .record index elapsedNs deviceId kind => t.record index elapsedNs deviceId kind
  | .drain limit => t.begin limit
  | .advance => t.advance

abbrev machine : ClientFeed → ClientFeedStep → ClientFeed × Unit := Mealy.silent step

/-- `EntryShared::new` for each device, and nothing recorded yet. -/
def start (devices : List DeviceId) (audio : Option AudioDiagnosticsSnapshot) : ClientFeed :=
  { source := .fromParts (devices.map ({ deviceId := · })) audio }

end ClientFeed

end OpenAirCast.Diagnostics
