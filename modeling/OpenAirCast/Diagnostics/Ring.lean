/-
Diagnostics.Ring — the bounded event ring, from
`diagnostics/ring.rs`.

`push` numbers an event and drops the oldest beyond the capacity;
`eventsSince` reads a page of events after a cursor. `Reader.step` is one
reader beside the producers: it passes each page's `nextCursor` to its next
read.
-/
import OpenAirCast.Diagnostics.Snapshot

namespace OpenAirCast.Diagnostics

/-- The draft with the cursor the ring gave it. -/
def DiagnosticEventDraft.event (draft : DiagnosticEventDraft) (cursor : Nat) : DiagnosticEvent where
  cursor := cursor
  occurredAtUtc := draft.occurredAtUtc
  processElapsedNs := draft.processElapsedNs
  receiverSession := draft.receiverSession
  severity := draft.severity
  component := draft.component
  code := draft.code
  publicMessage := draft.publicMessage
  payload := draft.payload

structure DiagnosticsRing where
  entries : List DiagnosticEvent := []
  nextCursor : Nat := 1
  overwrittenTotal : Nat := 0

namespace DiagnosticsRing

/-- `u64::wrapping_add(1)`. -/
def wrappingSucc (n : Nat) : Nat := (n + 1) % 2 ^ 64

/-- `u64::wrapping_sub(1)`. -/
def wrappingPred (n : Nat) : Nat := (n + (2 ^ 64 - 1)) % 2 ^ 64

/-- Pops the oldest entries beyond the capacity, and counts them. -/
def evict : List DiagnosticEvent → Nat → List DiagnosticEvent × Nat
  | [], overwritten => ([], overwritten)
  | event :: rest, overwritten =>
    if EVENT_RING_CAPACITY < rest.length + 1 then evict rest (overwritten + 1)
    else (event :: rest, overwritten)

variable (ring : DiagnosticsRing)

def push (draft : DiagnosticEventDraft) : DiagnosticsRing × Nat :=
  let kept := evict (ring.entries ++ [draft.event ring.nextCursor]) ring.overwrittenTotal
  (⟨kept.1, wrappingSucc ring.nextCursor, kept.2⟩, ring.nextCursor)

/-- The read loop: what it collected so far and where it stands. -/
def collect (cursor limit : Nat) :
    List DiagnosticEvent → List DiagnosticEvent → Nat → List DiagnosticEvent × Nat
  | [], events, nextCursor => (events, nextCursor)
  | event :: rest, events, nextCursor =>
    if event.cursor ≤ cursor then collect cursor limit rest events nextCursor
    else if events.length = limit then (events, nextCursor)
    else collect cursor limit rest (events ++ [event]) event.cursor

def clampLimit (limit : Nat) : Nat := max 1 (min limit MAX_EVENT_READ_LIMIT)

def oldestAvailable : Nat :=
  match ring.entries with
  | front :: _ => front.cursor
  | [] => ring.nextCursor

def newestAssigned : Nat := wrappingPred ring.nextCursor

def eventsSince (cursor limit : Nat) : EventBatch :=
  let page := collect cursor (clampLimit limit) ring.entries [] (min ring.newestAssigned cursor)
  { events := page.1
    nextCursor := page.2
    oldestAvailableCursor := ring.oldestAvailable
    gap :=
      if cursor < ring.oldestAvailable ∧ 0 < ring.overwrittenTotal then
        some ⟨cursor, ring.oldestAvailable, ring.oldestAvailable - cursor⟩
      else none }

/-- Everything that is retained, and how much is not. -/
def exportBatch : List DiagnosticEvent × Option EventGap :=
  (ring.entries,
    if 0 < ring.overwrittenTotal then some ⟨0, ring.oldestAvailable, ring.overwrittenTotal⟩
    else none)

/-- The ring after the pushes. -/
def filled (drafts : List DiagnosticEventDraft) : DiagnosticsRing :=
  drafts.foldl (fun ring draft => (ring.push draft).1) {}

end DiagnosticsRing

/-! ## One reader beside the producers -/

structure Reader where
  ring : DiagnosticsRing := {}
  /-- What the next read passes. -/
  cursor : Nat

inductive Move where
  | push (draft : DiagnosticEventDraft)
  | read (limit : Nat)

def Reader.step (reader : Reader) : Move → Reader × Option EventBatch
  | .push draft => ({ reader with ring := (reader.ring.push draft).1 }, none)
  | .read limit =>
    let batch := reader.ring.eventsSince reader.cursor limit
    ({ reader with cursor := batch.nextCursor }, some batch)

/-- The events of the batches, first to last. -/
def Reader.delivered (reader : Reader) (moves : List Move) : List DiagnosticEvent :=
  (Mealy.outputs Reader.step reader moves).flatMap (fun output =>
    match output with
    | some batch => batch.events
    | none => [])

/-- The gaps the batches report, first to last. -/
def Reader.gaps (reader : Reader) (moves : List Move) : List EventGap :=
  (Mealy.outputs Reader.step reader moves).filterMap (fun output => output.bind (·.gap))

def Move.draft : Move → Option DiagnosticEventDraft
  | .push draft => some draft
  | .read _ => none

def Move.isRead : Move → Bool
  | .push _ => false
  | .read _ => true

variable (moves : List Move)

/-- What was pushed, first to last. -/
def pushed : List DiagnosticEventDraft := moves.filterMap Move.draft

/-- How many of the moves are reads. -/
def reads : Nat := moves.countP Move.isRead

end OpenAirCast.Diagnostics
