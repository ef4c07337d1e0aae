/-
Diagnostics.Record — what the registry's worker pushes into the
ring, operation by operation.

The ring forgets what it overwrites, and a claim about everything that was
recorded needs more. `ingestDrafts` and `publishDrafts` list what
`ingestBackendEvent` and `publish` push, and `run_ring` says that the ring is
what these lists leave of it. `WorkerStep` cuts a turn of the worker into its
operations; every step of `RegistrySystem` is a run of them (`step_worker`), and
what the worker was told and what is on its way is what the tracker sent
(`Told`).
-/
import OpenAirCast.Diagnostics.RegistryTheorems
import OpenAirCast.Diagnostics.RingTheorems
import OpenAirCast.Diagnostics.TrackerTheorems

namespace OpenAirCast.Diagnostics

open Backend DiagnosticsRing List RegistrySystem Mealy
open DiagnosticsSessionTracker (tracked sent tracked_concat sent_concat)

/-- The ring after one push after the other. -/
def DiagnosticsRing.pushAll (ring : DiagnosticsRing) (drafts : List DiagnosticEventDraft) :
    DiagnosticsRing :=
  drafts.foldl (fun ring draft => (ring.push draft).1) ring

/-- What the turns of a machine pushed, first to last. -/
def recordedIn {σ ι : Type} (turns : List (Turn σ ι (List DiagnosticEventDraft))) :
    List DiagnosticEventDraft :=
  turns.flatMap (·.output)

theorem DiagnosticsRing.pushAll_append (ring : DiagnosticsRing)
    (front back : List DiagnosticEventDraft) :
    ring.pushAll (front ++ back) = (ring.pushAll front).pushAll back :=
  foldl_append

theorem Window.pushAll {ring : DiagnosticsRing} : ∀ {drafts : List DiagnosticEventDraft}
    (_ : Window ring drafts) (more : List DiagnosticEventDraft),
    (drafts ++ more).length < 2 ^ 64 → Window (ring.pushAll more) (drafts ++ more)
  | drafts, h, [], _ => by rwa [append_nil]
  | drafts, h, draft :: rest, hf => by
      rw [append_cons] at hf ⊢
      refine Window.pushAll (h.push draft ?_) rest hf
      simp only [length_append, length_singleton] at hf
      omega

/-- A machine whose steps push what they put out leaves the ring that its runs push. -/
theorem run_pushAll {σ ι : Type} {step : σ → ι → σ × List DiagnosticEventDraft}
    {ring : σ → DiagnosticsRing}
    (hs : ∀ s i, ring (step s i).1 = (ring s).pushAll (step s i).2) :
    ∀ (ins : List ι) (s : σ),
      ring (run step s ins) = (ring s).pushAll (recordedIn (trace step s ins))
  | [], _ => rfl
  | i :: rest, s => by
      have hr := run_pushAll hs rest (step s i).1
      rw [hs, ← pushAll_append] at hr
      exact hr

namespace WorkerState

/-! ## What is pushed -/

variable (asked : Asked)

/-- The transition that records an increase. -/
def Increase.draft (increase : Increase) : DiagnosticEventDraft where
  occurredAtUtc := asked.nowUtc
  processElapsedNs := asked.elapsedNs
  receiverSession := none
  severity := .warning
  component := increase.component
  code := increase.code
  publicMessage := increase.kind.text ++ " total advanced"
  payload := .definiteCounterTransition increase.kind increase.previous increase.now

/-- Those of the counters that increased. -/
def grown (found : List Increase) : List Increase :=
  found.filter (fun increase => decide (increase.previous < increase.now))

theorem grown_cons_pos {increase : Increase} (h : increase.previous < increase.now)
    (rest : List Increase) : grown (increase :: rest) = increase :: grown rest :=
  filter_cons_of_pos (decide_eq_true h)

theorem grown_cons_neg {increase : Increase} (h : ¬ increase.previous < increase.now)
    (rest : List Increase) : grown (increase :: rest) = grown rest :=
  filter_cons_of_neg (by simpa using h)

variable (w : WorkerState)

/-- What a payload makes of the drops that the backend reported. -/
def reportedDrops : DiagnosticPayload → List Increase
  | .pcmDrop dropped =>
    [⟨w.pcmDropAccumulator, saturatingAdd w.pcmDropAccumulator dropped, .captureDrops, .capture,
      .captureQueueFull⟩]
  | _ => []

/-- The counters of the client, before and now. -/
def observedCounters (client : ClientDiagnosticsSnapshot) : List Increase :=
  match client.audio, w.definiteBaseline with
  | some audio, some baseline => increases baseline (baselineOf audio)
  | _, _ => []

/-- An event of the feed as it is recorded. -/
def feedDraft [PublicMessage] (w : WorkerState) (event : FeedEvent) : DiagnosticEventDraft where
  occurredAtUtc := event.wallTime
  processElapsedNs := event.monotonicNs
  receiverSession := event.receiver.bind w.sessionKeyFor
  severity := mapBackendSeverity event.severity
  component := backendComponentFor event.category event.receiver.isSome
  code := backendCodeFor event.payload
  publicMessage := PublicMessage.backend event.payload
  payload := match event.payload with
    | .calibrationState state => .calibrationState state
    | other => .backend other

def ingestDrafts [PublicMessage] (w : WorkerState) (asked : Asked) (event : FeedEvent) :
    List DiagnosticEventDraft :=
  (if w.active.isSome then (grown (w.reportedDrops event.payload)).map (Increase.draft asked)
    else []) ++ [(w.notePayload asked event.payload).feedDraft event]

/-- The client's events that a publication reads. -/
def clientDrafts (asked : Asked) : List DiagnosticEventDraft :=
  (drained asked).map fun event => clientDraft asked event (event.deviceId.bind w.deviceKey)

def publishDrafts (asked : Asked) : List DiagnosticEventDraft :=
  match w.active with
  | some registration =>
    w.clientDrafts asked ++
      (grown (w.observedCounters (asked.snapshot registration.source))).map (Increase.draft asked)
  | none => []

variable {w : WorkerState}

/-! ## The ring is what the drafts leave of it -/

variable (w)

theorem notePcmDrop_ring (asked : Asked) (dropped : Nat) :
    (w.notePcmDrop asked dropped).ring = w.ring.pushAll (if w.active.isSome then
        (grown (w.reportedDrops (.pcmDrop dropped))).map (Increase.draft asked) else []) := by
  unfold notePcmDrop
  dsimp only
  by_cases ha : w.active.isSome = true
  · by_cases hm : w.pcmDropAccumulator < saturatingAdd w.pcmDropAccumulator dropped
    · have hg := @grown_cons_pos ⟨w.pcmDropAccumulator,
        saturatingAdd w.pcmDropAccumulator dropped, .captureDrops, .capture, .captureQueueFull⟩
        hm []
      rw [if_pos ⟨ha, hm⟩, if_pos ha]
      unfold reportedDrops
      dsimp only
      rw [hg]
      rfl
    · have hg := @grown_cons_neg ⟨w.pcmDropAccumulator,
        saturatingAdd w.pcmDropAccumulator dropped, .captureDrops, .capture, .captureQueueFull⟩
        hm []
      rw [if_neg (fun h => hm h.2), if_pos ha]
      unfold reportedDrops
      dsimp only
      rw [hg]
      rfl
  · rw [if_neg (fun h => ha h.1), if_neg ha]
    rfl

theorem notePayload_ring (asked : Asked) (pay : DiagnosticPayload) :
    (w.notePayload asked pay).ring = w.ring.pushAll
      (if w.active.isSome then (grown (w.reportedDrops pay)).map (Increase.draft asked)
        else []) := by
  by_cases hd : ∃ dropped, pay = .pcmDrop dropped
  · obtain ⟨dropped, rfl⟩ := hd
    exact notePcmDrop_ring w asked dropped
  · have hn : w.reportedDrops pay = [] := by
      unfold reportedDrops
      split
      · exact absurd ⟨_, rfl⟩ hd
      · rfl
    rw [hn]
    have hs : (w.notePayload asked pay).ring = w.ring := by
      unfold notePayload
      split
      · rfl
      · exact absurd ⟨_, rfl⟩ hd
      · split <;> rfl
      · rfl
      · rfl
    rw [hs]
    split <;> rfl

theorem ingest_ring [PublicMessage] (asked : Asked) (ev : FeedEvent) :
    (w.ingestBackendEvent asked ev).ring = w.ring.pushAll (w.ingestDrafts asked ev) := by
  have hn := notePayload_ring w asked ev.payload
  unfold ingestDrafts
  rw [pushAll_append, ← hn]
  rfl

variable {w}

theorem noteClientEvents_ring (asked : Asked) : ∀ (evs : List ClientDiagnosticEvent)
    (w : WorkerState), (evs.foldl (noteClientEvent asked) w).ring = w.ring.pushAll
      (evs.map fun ev => clientDraft asked ev (ev.deviceId.bind w.deviceKey))
  | [], w => rfl
  | ev :: rest, w => by
      obtain ⟨ring, hn⟩ := noteClientEvent_eq asked w ev
      have hr : (noteClientEvent asked w ev).ring =
          (w.ring.push (clientDraft asked ev (ev.deviceId.bind w.deviceKey))).1 := by
        unfold noteClientEvent
        dsimp only
        split <;> rfl
      have hk : (noteClientEvent asked w ev).deviceKey = w.deviceKey := by
        rw [hn]
        rfl
      rw [foldl_cons, noteClientEvents_ring asked rest, hr, hk]
      rfl

theorem drainClientEvents_ring (asked : Asked) : ∀ (n : Nat)
    (batches : List (List ClientDiagnosticEvent)) (w : WorkerState),
    (drainClientEvents asked n batches w).ring = w.ring.pushAll
      (((batches.take n).takeWhile (fun batch => !batch.isEmpty)).flatten.map
        fun ev => clientDraft asked ev (ev.deviceId.bind w.deviceKey))
  | 0, batches, w => by simp [drainClientEvents, DiagnosticsRing.pushAll]
  | n + 1, [], w => by simp [drainClientEvents, DiagnosticsRing.pushAll]
  | n + 1, [] :: rest, w => by simp [drainClientEvents, DiagnosticsRing.pushAll]
  | n + 1, (ev :: events) :: rest, w => by
      obtain ⟨_, hn⟩ := noteClientEvents_eq asked (ev :: events) w
      have hk : ((ev :: events).foldl (noteClientEvent asked) w).deviceKey = w.deviceKey := by
        rw [hn]
        rfl
      rw [drainClientEvents, drainClientEvents_ring asked n rest, hk,
        noteClientEvents_ring asked (ev :: events) w, ← pushAll_append,
        ← map_append]
      · simp
      · simp

theorem noteIncreases_ring (asked : Asked) : ∀ (found : List Increase) (w : WorkerState),
    w.active.isSome = true → (found.foldl (noteIncrease asked) w).ring =
      w.ring.pushAll ((grown found).map (Increase.draft asked))
  | [], w, _ => rfl
  | increase :: rest, w, ha => by
      have hk : (noteIncrease asked w increase).active.isSome = true := by
        unfold noteIncrease
        split <;> exact ha
      rw [foldl_cons, noteIncreases_ring asked rest _ hk]
      unfold noteIncrease
      by_cases hm : increase.previous < increase.now
      · rw [if_pos ⟨hm, ha⟩, grown_cons_pos hm]
        rfl
      · rw [if_neg (fun h => hm h.1), grown_cons_neg hm]

variable (w)

theorem observeDefiniteCounters_ring (asked : Asked)
    (cli : ClientDiagnosticsSnapshot) (ha : w.active.isSome = true) :
    (w.observeDefiniteCounters asked cli).ring =
      w.ring.pushAll ((grown (w.observedCounters cli)).map (Increase.draft asked)) := by
  unfold observeDefiniteCounters observedCounters
  cases cli.audio with
  | none => rfl
  | some =>
    dsimp only
    cases w.definiteBaseline with
    | none => rfl
    | some => exact noteIncreases_ring asked _ w ha

theorem publish_ring (asked : Asked) :
    (w.publish asked).ring = w.ring.pushAll (w.publishDrafts asked) := by
  cases ha : w.active with
  | none =>
    unfold publish publishDrafts
    rw [ha]
    dsimp only
    split <;> rfl
  | some reg =>
    have hs : (w.publish asked).ring = (w.observeClient asked reg.source).ring := by
      unfold publish
      rw [ha]
      rfl
    obtain ⟨ring, hd⟩ := drainClientEvents_eq asked 16 asked.batches w
    have hm : (drainClientEvents asked 16 asked.batches w).active = w.active := by rw [hd]
    have hb : (drainClientEvents asked 16 asked.batches w).definiteBaseline =
        w.definiteBaseline := by rw [hd]
    have ho : (w.observeClient asked reg.source).ring =
        ((drainClientEvents asked 16 asked.batches w).observeDefiniteCounters asked
          (asked.snapshot reg.source)).ring := by
      unfold observeClient
      dsimp only
      split <;> rfl
    unfold publishDrafts
    rw [hs, ho, observeDefiniteCounters_ring _ asked _ (by rw [hm, ha]; rfl),
      drainClientEvents_ring, ha]
    dsimp only
    rw [pushAll_append]
    unfold observedCounters
    rw [hb]
    rfl

end WorkerState

/-! ## Runs of the worker -/

/-- One operation of the worker. -/
inductive WorkerStep where
  | command (asked : Asked) (command : Command)
  | ingest (asked : Asked) (event : FeedEvent)
  | publish (asked : Asked)

namespace WorkerState

/-- The operation, and what it pushes. -/
def step [PublicMessage] (w : WorkerState) : WorkerStep → WorkerState × List DiagnosticEventDraft
  | .command asked command => (w.applyCommand asked command, [])
  | .ingest asked event => (w.ingestBackendEvent asked event, w.ingestDrafts asked event)
  | .publish asked => (w.publish asked, w.publishDrafts asked)

/-- All that a run pushes, first to last. -/
def recorded [PublicMessage] (w : WorkerState) (steps : List WorkerStep) :
    List DiagnosticEventDraft :=
  (outputs step w steps).flatten

theorem applyCommand_ring (w : WorkerState) (asked : Asked) (cmd : Command) :
    (w.applyCommand asked cmd).ring = w.ring := by
  unfold applyCommand
  split
  · rfl
  · split
    · split <;> rfl
    · rfl

/-- The ring takes all that a step of the worker pushes. -/
theorem step_ring [PublicMessage] (w : WorkerState) (move : WorkerStep) :
    (w.step move).1.ring = w.ring.pushAll (w.step move).2 := by
  cases move with
  | command asked command => exact applyCommand_ring w asked command
  | ingest asked event => exact ingest_ring w asked event
  | publish asked => exact publish_ring w asked

theorem run_ring [PublicMessage] (steps : List WorkerStep) (w : WorkerState) :
    (run step w steps).ring = w.ring.pushAll (w.recorded steps) :=
  run_pushAll step_ring steps w

end WorkerState

/-! ## The worker in its system -/

theorem applyAll_worker [PublicMessage] (asked : Asked) : ∀ (cmds : List Sent)
    (t : RegistrySystem), (cmds.foldl (apply asked) t).worker =
      run WorkerState.step t.worker (cmds.map fun sent => .command asked sent.command)
  | [], _ => rfl
  | sent :: rest, t => by
      rw [foldl_cons, applyAll_worker asked rest]
      have hf : (apply asked t sent).worker = t.worker.applyCommand asked sent.command := by
        unfold apply
        dsimp only
        split <;> rfl
      rw [hf]
      rfl

/-- The commands among the operations. -/
def commandsIn (steps : List WorkerStep) : List Command :=
  steps.filterMap fun
    | .command _ command => some command
    | _ => none

/-- Commands that take turns leave the worker with the session that is open,
whatever it does between them. -/
theorem run_active [PublicMessage] : ∀ (steps : List WorkerStep) (w : WorkerState)
    {left : Option SessionId},
    opened (w.active.map (·.sessionId)) (commandsIn steps) = some left →
      (run WorkerState.step w steps).active.map (·.sessionId) = left
  | [], _, _, h => Option.some.inj h
  | .ingest asked ev :: rest, w, left, h => by
      refine run_active rest _ ?_
      show opened ((w.ingestBackendEvent asked ev).active.map _) _ = _
      rw [ingest_active]
      exact h
  | .publish asked :: rest, w, left, h => by
      refine run_active rest _ ?_
      show opened ((w.publish asked).active.map _) _ = _
      rw [publish_active]
      exact h
  | .command asked (.register reg) :: rest, w, left, h => by
      refine run_active rest _ ?_
      cases ha : w.active with
      | none => simpa [commandsIn, opened, ha, WorkerState.applyCommand, WorkerState.step] using h
      | some => simp [commandsIn, opened, ha] at h
  | .command asked (.finish sid rsn) :: rest, w, left, h => by
      refine run_active rest _ ?_
      cases ha : w.active with
      | none => simp [commandsIn, opened, ha] at h
      | some reg =>
        simp only [commandsIn, filterMap_cons, opened, ha, Option.map_some] at h
        split at h
        · rename_i hi
          simpa [commandsIn, WorkerState.applyCommand, WorkerState.step, ha, hi] using h
        · cases h

theorem commandsIn_commands (asked : Asked) (cmds : List Sent) :
    commandsIn (cmds.map fun sent => .command asked sent.command) = cmds.map (·.command) := by
  unfold commandsIn
  rw [filterMap_map]
  exact congrFun filterMap_eq_map cmds

/-- The states that were handed to the tracker. -/
def handed (events : List RegistryEvent) : List Value :=
  events.filterMap fun
    | .reconcile state fresh => some ⟨state, fresh⟩
    | _ => none

variable (t : RegistrySystem)

/-- What the tracker sends for an event. -/
def ordered : RegistryEvent → List Sent
  | .reconcile state fresh => (t.tracker.step ⟨state, fresh⟩).2
  | _ => []

variable (ev : RegistryEvent)

/-- The worker runs through operations, with the commands that are no longer
on their way among them. -/
theorem step_worker [PublicMessage] :
    ∃ steps, (t.step ev).worker = run WorkerState.step t.worker steps ∧
      commandsIn steps ++ (t.step ev).commands.map (·.command) =
        (t.commands ++ ordered t ev).map (·.command) := by
  cases ev with
  | emit =>
    refine ⟨[], ?_⟩
    unfold step emit
    dsimp only
    split <;> exact ⟨rfl, by simp [commandsIn, ordered]⟩
  | reconcile => exact ⟨[], rfl, rfl⟩
  | drain asked =>
    unfold step
    dsimp only
    split
    · have hc := applyAll_worker asked t.commands t
      by_cases hn : t.commands.isEmpty = true
      · refine ⟨t.commands.map fun sent => .command asked sent.command, ?_, ?_⟩
        · rw [← hc]
          unfold drain
          dsimp only
          rw [if_pos hn]
        · simp [commandsIn_commands, ordered, drain]
      · refine ⟨(t.commands.map fun sent => .command asked sent.command) ++ [.publish asked],
          ?_, ?_⟩
        · rw [run_append, ← hc]
          unfold drain
          dsimp only
          rw [if_neg hn]
          rfl
        · have hp := commandsIn_commands asked t.commands
          unfold commandsIn at hp ⊢
          simp [filterMap_append, hp, ordered, drain]
    · exact ⟨[], rfl, by simp [commandsIn, ordered]⟩
  | wake => exact ⟨[], rfl, by simp [commandsIn, ordered, step]⟩
  | receive asked =>
    unfold step
    dsimp only
    split
    · exact ⟨[], rfl, by simp [commandsIn, ordered]⟩
    · unfold receive
      dsimp only
      split
      · exact ⟨[.ingest asked (queueLag asked t.lagged), .publish asked], rfl,
          by simp [commandsIn, ordered, publish]⟩
      · split
        · exact ⟨[], rfl, by simp [commandsIn, ordered]⟩
        · rename_i ev rest hf
          exact ⟨[.ingest asked ev, .publish asked], rfl, by simp [commandsIn, ordered, publish]⟩

theorem applyAll_tracker (asked : Asked) : ∀ (cmds : List Sent) (t : RegistrySystem),
    (cmds.foldl (apply asked) t).tracker = t.tracker
  | [], _ => rfl
  | sent :: rest, t => by
      rw [foldl_cons, applyAll_tracker asked rest]
      unfold apply
      dsimp only
      split <;> rfl

/-- Only a reconcile moves the tracker. -/
theorem step_tracker [PublicMessage] : (t.step ev).tracker = match ev with
      | .reconcile state fresh => (t.tracker.step ⟨state, fresh⟩).1
      | _ => t.tracker := by
  unfold step
  cases ev with
  | emit =>
    unfold emit
    dsimp only
    split <;> rfl
  | reconcile => rfl
  | drain asked =>
    have ht := applyAll_tracker asked t.commands t
    unfold drain
    dsimp only
    split
    · split <;> exact ht
    · rfl
  | wake => rfl
  | receive =>
    unfold receive
    dsimp only
    split
    · rfl
    · split
      · rfl
      · split <;> rfl

/-- What the worker was told, with what is on its way, is what the tracker sent. -/
structure Told [PublicMessage] (asked : Asked) (values : List Value) (t : RegistrySystem)
    (steps : List WorkerStep) : Prop where
  worker : t.worker = run WorkerState.step (.start asked) steps
  tracker : t.tracker = tracked values
  commands : commandsIn steps ++ t.commands.map (·.command) = (sent values).map (·.command)

/-- Each event hands the worker what the tracker sent. -/
theorem Told.step [PublicMessage] {asked : Asked} {values : List Value} {t : RegistrySystem}
    {steps : List WorkerStep} (h : Told asked values t steps) (ev : RegistryEvent) :
    ∃ more, Told asked (values ++ handed [ev]) (t.step ev) (steps ++ more) := by
  obtain ⟨more, hw, hc⟩ := step_worker t ev
  have ho : (tracked (values ++ handed [ev])) = (t.step ev).tracker ∧
      sent (values ++ handed [ev]) = sent values ++ ordered t ev := by
    rw [step_tracker]
    cases ev with
    | reconcile state fresh =>
      show tracked (values ++ [_]) = _ ∧ sent (values ++ [_]) = _
      rw [tracked_concat, sent_concat, ← h.tracker]
      exact ⟨rfl, rfl⟩
    | _ => simp [handed, ordered, h.tracker]
  refine ⟨more, ?_, ho.1.symm, ?_⟩
  · rw [hw, h.worker, run_append]
  · rw [ho.2, map_append, ← h.commands, append_assoc, ← map_append, ← hc, ← append_assoc]
    simp [commandsIn, filterMap_append]

/-- In every run, the worker has gone through operations whose commands,
with those on their way, are what the tracker sent; so once nothing is on its
way, its session is the one the tracker remembers. Its ring holds the last of
what these operations recorded, numbered without a hole. -/
theorem registry_follows [PublicMessage] (asked : Asked) (events : List RegistryEvent) :
    let t := run (silent step) (.start asked) events
    ∃ steps, t.worker = run WorkerState.step (.start asked) steps ∧
      commandsIn steps ++ t.commands.map (·.command) = (sent (handed events)).map (·.command) ∧
      (t.commands = [] → t.worker.active.map (·.sessionId) = t.tracker.active.map (·.2)) ∧
      ((WorkerState.recorded (.start asked) steps).length < 2 ^ 64 →
        Window t.worker.ring (WorkerState.recorded (.start asked) steps)) := by
  intro t
  obtain ⟨steps, h⟩ : ∃ steps, Told asked (handed events)
      (run (silent step) (.start asked) events) steps := by
    induction events using reverseRecOn with
    | nil => exact ⟨[], rfl, rfl, rfl⟩
    | append_singleton events ev ih =>
      obtain ⟨steps, ih⟩ := ih
      obtain ⟨more, hm⟩ := ih.step ev
      refine ⟨steps ++ more, ?_⟩
      rw [run_concat, handed, filterMap_append]
      exact hm
  have hs : (WorkerState.start asked).active = none := publish_active _ asked
  refine ⟨steps, h.worker, h.commands, fun hn => ?_, fun hf => ?_⟩
  · have hc := h.commands
    rw [hn, map_nil, append_nil] at hc
    rw [h.worker, h.tracker]
    refine run_active steps _ ?_
    rw [hs, hc]
    exact (DiagnosticsSessionTracker.tracking _).turns
  · have hr : (WorkerState.start asked).ring = {} := WorkerState.publish_ring _ asked
    have hw := Window.empty.pushAll (WorkerState.recorded (.start asked) steps) hf
    rwa [h.worker, WorkerState.run_ring, hr]

end OpenAirCast.Diagnostics
