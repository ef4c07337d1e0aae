/-
Diagnostics.RegistryTheorems — whose events a session's
diagnostics show.

A registration clears what the worker knows, and from then on every event of
the feed counts for the new session: the worker does not look at the
generation an event was emitted under. `Reflects` says what the worker knows
in terms of a list of events and of what the client answered. The events of
a session's own generation are that list as long as the worker takes no
event for a session that is not its own, before the registration or after
(`Attributed`).
-/
import OpenAirCast.Diagnostics.Registry

namespace OpenAirCast.Diagnostics

open Backend List FeedEvent

/-! ## What events say of a session -/

namespace FeedEvent

def phaseSaid (event : FeedEvent) : Option FullPhase :=
  match event.payload with
  | .sessionTransition phase _ => some phase
  | _ => none

def lifecycleSaid (receiver : ReceiverId) (event : FeedEvent) : Option Lifecycle :=
  match event.payload with
  | .receiverTransition changed destination => if changed = receiver then some destination else none
  | _ => none

def losesFrames (event : FeedEvent) : Bool :=
  match event.payload with
  | .pcmDrop dropped => decide (0 < dropped)
  | _ => false

/-- It says something of a session with these members. -/
def concerns (members : SortedMap ReceiverId DeviceId) (event : FeedEvent) : Bool :=
  match event.payload with
  | .sessionTransition _ _ => true
  | .receiverTransition changed _ => (members.get changed).isSome
  | .pcmDrop dropped => decide (0 < dropped)
  | _ => false

variable {members : SortedMap ReceiverId DeviceId} {event : FeedEvent}

theorem phaseSaid_of_not_concerns (h : event.concerns members = false) :
    event.phaseSaid = none := by
  unfold concerns at h
  unfold phaseSaid
  split at h <;> simp_all

theorem lifecycleSaid_of_not_concerns (h : event.concerns members = false) {recv : ReceiverId}
    (hm : (members.get recv).isSome = true) : event.lifecycleSaid recv = none := by
  unfold concerns at h
  unfold lifecycleSaid
  cases hp : event.payload with
  | receiverTransition =>
    rw [hp] at h
    refine if_neg (fun heq => ?_)
    rw [heq] at h
    simp [hm] at h
  | _ => rfl

theorem losesFrames_of_not_concerns (h : event.concerns members = false) :
    event.losesFrames = false := by
  unfold concerns at h
  unfold losesFrames
  split at h <;> simp_all

end FeedEvent

/-- The events that were emitted under a generation. -/
def under (generation : Nat) (events : List FeedEvent) : List FeedEvent :=
  events.filter (fun event => decide (event.sessionGeneration = generation))

def lastPhase (events : List FeedEvent) : Option FullPhase :=
  (events.filterMap FeedEvent.phaseSaid).getLast?

def lastLifecycle (receiver : ReceiverId) (events : List FeedEvent) : Option Lifecycle :=
  (events.filterMap (FeedEvent.lifecycleSaid receiver)).getLast?

theorem getLast?_filterMap_concat {α β : Type} (f : α → Option β) (l : List α) (a : α) :
    ((l ++ [a]).filterMap f).getLast? = (f a).or (l.filterMap f).getLast? := by
  rw [filterMap_append]
  cases h : f a <;> simp [h]

theorem lastPhase_concat (events : List FeedEvent) (event : FeedEvent) :
    lastPhase (events ++ [event]) = event.phaseSaid.or (lastPhase events) :=
  getLast?_filterMap_concat _ _ _

theorem lastLifecycle_concat (recv : ReceiverId) (events : List FeedEvent)
    (event : FeedEvent) : lastLifecycle recv (events ++ [event]) =
      (event.lifecycleSaid recv).or (lastLifecycle recv events) :=
  getLast?_filterMap_concat _ _ _

theorem under_concat (gen : Nat) (events : List FeedEvent) (event : FeedEvent) :
    under gen (events ++ [event]) = under gen events ++
      if event.sessionGeneration = gen then [event] else [] := by
  unfold under
  rw [filter_append]
  split <;> simp_all

/-! ## What the client says -/

/-- The events the sixteen reads give. -/
def drained (asked : Asked) : List ClientDiagnosticEvent :=
  ((asked.batches.take 16).takeWhile (fun batch => !batch.isEmpty)).flatten

def ClientDiagnosticEvent.warns (event : ClientDiagnosticEvent) : Bool :=
  decide (event.kind = .runtimeWarning)

def countersSeen (source : Nat) (watched : List Asked) : List DefiniteBaseline :=
  watched.filterMap (fun asked => (asked.snapshot source).audio.map WorkerState.baselineOf)

def grewBetween (before now : DefiniteBaseline) : Bool :=
  (WorkerState.increases before now).any (fun increase => decide (increase.previous < increase.now))

theorem countersSeen_concat (src : Nat) (watched : List Asked) (asked : Asked) :
    (countersSeen src (watched ++ [asked])).getLast? =
      ((asked.snapshot src).audio.map WorkerState.baselineOf).or
        (countersSeen src watched).getLast? :=
  getLast?_filterMap_concat _ _ _

/-- Some counter grew from one reading to the next. -/
def grew (seen : List DefiniteBaseline) : Bool :=
  (seen.zip seen.tail).any (fun pair => grewBetween pair.1 pair.2)

theorem grew_concat (now : DefiniteBaseline) : ∀ seen : List DefiniteBaseline,
    grew (seen ++ [now]) = (grew seen || seen.getLast?.any (grewBetween · now))
  | [] => rfl
  | [last] => by simp [grew]
  | first :: second :: rest => by
      have ih := grew_concat now (second :: rest)
      simp only [grew, cons_append, tail_cons, zip_cons_cons, any_cons] at ih ⊢
      rw [ih, getLast?_cons_cons, Bool.or_assoc]

/-- The client reports a definite problem. -/
def clientAttention (source : Nat) (watched : List Asked) : Bool :=
  watched.any (fun asked => (drained asked).any (·.warns)) || grew (countersSeen source watched)

theorem clientAttention_concat (src : Nat) (watched : List Asked) (asked : Asked) :
    clientAttention src (watched ++ [asked]) = (clientAttention src watched ||
      (drained asked).any (·.warns) ||
        ((asked.snapshot src).audio.map WorkerState.baselineOf).any (fun now =>
          (countersSeen src watched).getLast?.any (grewBetween · now))) := by
  unfold clientAttention countersSeen
  rw [any_append, filterMap_append]
  cases ha : (asked.snapshot src).audio with
  | none => simp [ha, Bool.or_right_comm]
  | some =>
    simp only [ha, filterMap_cons, filterMap_nil, Option.map_some, any_cons,
      any_nil, Bool.or_false, Option.any_some, grew_concat]
    ac_rfl

/-- A connection's feedback has failed. -/
def clientFeedback (source : Nat) (watched : List Asked) : Bool :=
  watched.any (fun asked => (asked.snapshot source).connections.any WorkerState.feedbackFailed)

/-- The badge, by the events of a session and what its client said. -/
def healthOf (members : List ReceiverId) (events : List FeedEvent) (source : Nat)
    (watched : List Asked) : Health :=
  if members.any (fun receiver => (lastLifecycle receiver events).any (·.isFailed))
      || (lastPhase events).any (·.isFailed) then .error
  else if (lastPhase events).any (·.isDegraded)
      || (events.any (·.losesFrames) || clientAttention source watched)
      || clientFeedback source watched then .attention
  else .running

/-! ## What a step of the worker changes -/

namespace WorkerState

variable (asked : Asked)

variable (w : WorkerState)

theorem noteClientEvent_eq (event : ClientDiagnosticEvent) : ∃ ring, noteClientEvent asked w event =
      { w with ring, attentionDefinite := w.attentionDefinite || event.warns } := by
  have hn : (if event.kind = .runtimeWarning then { w with attentionDefinite := true } else w) =
      { w with attentionDefinite := w.attentionDefinite || event.warns } := by
    unfold ClientDiagnosticEvent.warns
    split <;> simp_all
  unfold noteClientEvent
  dsimp only
  rw [hn]
  exact ⟨_, rfl⟩

theorem noteClientEvents_eq (asked : Asked) : ∀ (events : List ClientDiagnosticEvent)
    (w : WorkerState), ∃ ring, events.foldl (noteClientEvent asked) w =
      { w with ring, attentionDefinite := w.attentionDefinite || events.any (·.warns) }
  | [], w => ⟨w.ring, by simp⟩
  | event :: rest, w => by
      obtain ⟨_, hf⟩ := noteClientEvent_eq asked w event
      obtain ⟨ring', hr⟩ := noteClientEvents_eq asked rest (noteClientEvent asked w event)
      refine ⟨ring', ?_⟩
      rw [foldl_cons, hr, hf]
      simp [Bool.or_assoc]

theorem drainClientEvents_eq (asked : Asked) : ∀ (n : Nat)
    (batches : List (List ClientDiagnosticEvent)) (w : WorkerState),
    ∃ ring, drainClientEvents asked n batches w = { w with
      ring
      attentionDefinite := w.attentionDefinite ||
        ((batches.take n).takeWhile (fun batch => !batch.isEmpty)).flatten.any (·.warns) }
  | 0, batches, w => ⟨w.ring, by simp [drainClientEvents]⟩
  | n + 1, [], w => ⟨w.ring, by simp [drainClientEvents]⟩
  | n + 1, [] :: rest, w => ⟨w.ring, by simp [drainClientEvents]⟩
  | n + 1, (event :: events) :: rest, w => by
      obtain ⟨_, hf⟩ := noteClientEvents_eq asked (event :: events) w
      obtain ⟨ring', hr⟩ := drainClientEvents_eq asked n rest
        ((event :: events).foldl (noteClientEvent asked) w)
      refine ⟨ring', ?_⟩
      rw [drainClientEvents, hr, hf]
      · simp [Bool.or_assoc]
      · simp

theorem noteIncreases_eq (asked : Asked) : ∀ (found : List Increase) (w : WorkerState),
    w.active.isSome = true → ∃ ring, found.foldl (noteIncrease asked) w = { w with
      ring
      attentionDefinite := w.attentionDefinite ||
        found.any (fun increase => decide (increase.previous < increase.now)) }
  | [], w, _ => ⟨w.ring, by simp⟩
  | increase :: rest, w, ha => by
      rw [foldl_cons]
      by_cases hm : increase.previous < increase.now
      · obtain ⟨ring, hr⟩ := noteIncreases_eq asked rest (noteIncrease asked w increase) (by
          unfold noteIncrease
          rw [if_pos ⟨hm, ha⟩]
          exact ha)
        refine ⟨ring, ?_⟩
        rw [hr, noteIncrease, if_pos ⟨hm, ha⟩]
        simp [recordDefiniteTransition, push, hm]
      · have hs : noteIncrease asked w increase = w := if_neg (fun h => hm h.1)
        obtain ⟨ring, hr⟩ := noteIncreases_eq asked rest w ha
        refine ⟨ring, ?_⟩
        rw [hs, hr]
        simp [hm]

theorem observeDefiniteCounters_eq (asked : Asked)
    (cli : ClientDiagnosticsSnapshot) (ha : w.active.isSome = true) :
    ∃ ring, w.observeDefiniteCounters asked cli = { w with
      ring
      attentionDefinite := w.attentionDefinite || (cli.audio.map baselineOf).any (fun now =>
        w.definiteBaseline.any (grewBetween · now))
      definiteBaseline := (cli.audio.map baselineOf).or w.definiteBaseline } := by
  unfold observeDefiniteCounters
  cases hd : cli.audio with
  | none => exact ⟨w.ring, by simp⟩
  | some audio =>
    dsimp only
    cases hb : w.definiteBaseline with
    | none => exact ⟨w.ring, by simp⟩
    | some baseline =>
      obtain ⟨ring, hg⟩ := noteIncreases_eq asked (increases baseline (baselineOf audio)) w ha
      refine ⟨ring, ?_⟩
      dsimp only
      rw [hg]
      simp [grewBetween]

theorem observeClient_eq (asked : Asked) (src : Nat) (ha : w.active.isSome = true) :
    ∃ ring, w.observeClient asked src = { w with
      ring
      attentionDefinite := w.attentionDefinite || (drained asked).any (·.warns) ||
        ((asked.snapshot src).audio.map baselineOf).any (fun now =>
          w.definiteBaseline.any (grewBetween · now))
      definiteBaseline := ((asked.snapshot src).audio.map baselineOf).or w.definiteBaseline
      feedbackAttention := w.feedbackAttention ||
        (asked.snapshot src).connections.any feedbackFailed } := by
  unfold observeClient
  obtain ⟨ring, hr⟩ := drainClientEvents_eq asked 16 asked.batches w
  rw [hr]
  dsimp only
  generalize hd : ({ w with
    ring
    attentionDefinite := w.attentionDefinite ||
      ((asked.batches.take 16).takeWhile (fun batch => !batch.isEmpty)).flatten.any (·.warns) } :
        WorkerState) = fed
  obtain ⟨ring', hc⟩ := observeDefiniteCounters_eq fed asked (asked.snapshot src) (by
    rw [← hd]
    exact ha)
  refine ⟨ring', ?_⟩
  rw [hc, ← hd]
  split
  · rename_i hf
    simp [hf, drained]
  · rename_i hf
    simp [hf, drained]

theorem ingestBackendEvent_eq [PublicMessage] (asked : Asked) (event : FeedEvent) :
    ∃ ring, w.ingestBackendEvent asked event = { w.notePayload asked event.payload with ring } :=
  ⟨_, rfl⟩

end WorkerState

/-! ## What the worker knows -/

open WorkerState

/-- The worker knows of the active session what these events say, and what
its client said when it was asked. -/
structure Reflects (w : WorkerState) (registration : SessionRegistration)
    (events : List FeedEvent) (watched : List Asked) : Prop where
  active : w.active = some registration
  phase : w.phase = lastPhase events
  members : ∀ receiver, (registration.members.get receiver).isSome = true →
    w.lifecycle.get receiver = lastLifecycle receiver events
  others : ∀ receiver, (registration.members.get receiver).isSome = false →
    w.lifecycle.get receiver = none
  attention : w.attentionDefinite =
    (events.any (·.losesFrames) || clientAttention registration.source watched)
  feedback : w.feedbackAttention = clientFeedback registration.source watched
  accumulator : 0 < w.pcmDropAccumulator → events.any (·.losesFrames) = true
  baseline : w.definiteBaseline = (countersSeen registration.source watched).getLast?

/-- What is published of it. -/
structure Shown (w : WorkerState) (registration : SessionRegistration) : Prop where
  session : ∃ session, w.current.session = some session ∧
    session.sessionId = registration.sessionId ∧ session.phase = w.phase
  receivers : w.current.receivers.map (fun row => (row.key.receiverId, row.lifecycle)) =
    registration.members.keys.map (fun receiver =>
      (receiver, (w.lifecycle.get receiver).getD .discovered))
  health : w.current.health = w.computeHealth

variable {w : WorkerState} {registration : SessionRegistration} {events : List FeedEvent}
  {watched : List Asked}

/-- A registration starts from nothing. -/
theorem reflects_register (w : WorkerState) (asked : Asked) (registration : SessionRegistration)
    (hn : ∀ event ∈ events, event.concerns registration.members = false) :
    Reflects (w.applyCommand asked (.register registration)) registration events [] := by
  have hp : lastPhase events = none := by
    have hall : events.filterMap FeedEvent.phaseSaid = [] :=
      filterMap_eq_nil_iff.mpr (fun event he => phaseSaid_of_not_concerns (hn event he))
    simp [lastPhase, hall]
  have hl : events.any (·.losesFrames) = false :=
    any_eq_false.mpr (fun event he => by simp [losesFrames_of_not_concerns (hn event he)])
  refine ⟨rfl, hp.symm, fun recv hm => ?_, fun _ _ => rfl, ?_, rfl, ?_, rfl⟩
  · have hall : events.filterMap (FeedEvent.lifecycleSaid recv) = [] :=
      filterMap_eq_nil_iff.mpr (fun event he => lifecycleSaid_of_not_concerns (hn event he) hm)
    show none = lastLifecycle recv events
    simp [lastLifecycle, hall]
  · rw [hl]
    rfl
  · intro hpos
    exact absurd hpos (Nat.lt_irrefl 0)

section

variable (h : Reflects w registration events watched)
include h

theorem Reflects.advance (event : FeedEvent) {w' : WorkerState} (ha : w'.active = w.active)
    (hp : w'.phase = event.phaseSaid.or w.phase)
    (hb : ∀ recv, (registration.members.get recv).isSome = true →
      w'.lifecycle.get recv = (event.lifecycleSaid recv).or (w.lifecycle.get recv))
    (hh : ∀ recv, (registration.members.get recv).isSome = false →
      w'.lifecycle.get recv = w.lifecycle.get recv)
    (ht : w'.attentionDefinite = (w.attentionDefinite || event.losesFrames))
    (hf : w'.feedbackAttention = w.feedbackAttention)
    (hc : 0 < w'.pcmDropAccumulator → 0 < w.pcmDropAccumulator ∨ event.losesFrames = true)
    (hs : w'.definiteBaseline = w.definiteBaseline) :
    Reflects w' registration (events ++ [event]) watched := by
  refine ⟨ha.trans h.active, ?_, fun recv hm => ?_, fun recv ho => ?_, ?_,
    hf.trans h.feedback, fun hpos => ?_, hs.trans h.baseline⟩
  · rw [hp, h.phase, lastPhase_concat]
  · rw [hb recv hm, h.members recv hm, lastLifecycle_concat]
  · exact (hh recv ho).trans (h.others recv ho)
  · rw [ht, h.attention, any_append, any_cons, any_nil, Bool.or_false, Bool.or_right_comm]
  · rw [any_append, Bool.or_eq_true]
    exact (hc hpos).imp h.accumulator (fun hl => by simp [hl])

variable (asked : Asked) {event : FeedEvent}

theorem notePcmDrop_reflects {dropped : Nat} (hp : event.payload = .pcmDrop dropped)
    (ring : DiagnosticsRing) :
    Reflects { w.notePcmDrop asked dropped with ring } registration (events ++ [event])
      watched := by
  have hh : event.phaseSaid = none := by simp [FeedEvent.phaseSaid, hp]
  have hf : ∀ recv, event.lifecycleSaid recv = none := by simp [FeedEvent.lifecycleSaid, hp]
  have hl : event.losesFrames = decide (0 < dropped) := by simp [FeedEvent.losesFrames, hp]
  unfold notePcmDrop
  dsimp only
  by_cases hm : w.pcmDropAccumulator < saturatingAdd w.pcmDropAccumulator dropped
  · have hd : 0 < dropped := by
      unfold saturatingAdd at hm
      omega
    rw [if_pos ⟨by simp [h.active], hm⟩]
    refine h.advance event rfl ?_ (fun recv _ => ?_) (fun _ _ => rfl) ?_ rfl (fun _ => ?_) rfl
    · rw [hh]
      rfl
    · rw [hf]
      rfl
    · simp [hl, hd]
    · exact .inr (by simp [hl, hd])
  · -- nothing was dropped, or the count is at its end and drops are known
    rw [if_neg (fun hb => hm hb.2)]
    have hk : 0 < dropped → w.attentionDefinite = true := by
      intro hd
      have hpos : 0 < w.pcmDropAccumulator := by
        unfold saturatingAdd U64_MAX at hm
        omega
      rw [h.attention, h.accumulator hpos, Bool.true_or]
    refine h.advance event rfl ?_ (fun recv _ => ?_) (fun _ _ => rfl) ?_ rfl (fun hs => ?_) rfl
    · rw [hh]
      rfl
    · rw [hf]
      rfl
    · by_cases hd : 0 < dropped
      · simp [hl, hd, hk hd]
      · simp [hl, hd]
    · have hs : 0 < saturatingAdd w.pcmDropAccumulator dropped := hs
      rw [hl, decide_eq_true_eq]
      unfold saturatingAdd at hs
      omega

theorem Reflects.ingest [PublicMessage] (event : FeedEvent) :
    Reflects (w.ingestBackendEvent asked event) registration (events ++ [event]) watched := by
  obtain ⟨ring, hi⟩ := ingestBackendEvent_eq w asked event
  rw [hi]
  have hpl : event.phaseSaid = none → (∀ recv, event.lifecycleSaid recv = none) →
      event.losesFrames = false → ∀ w' : WorkerState, w'.active = w.active → w'.phase = w.phase →
        w'.lifecycle = w.lifecycle → w'.attentionDefinite = w.attentionDefinite →
          w'.feedbackAttention = w.feedbackAttention →
            w'.pcmDropAccumulator = w.pcmDropAccumulator →
              w'.definiteBaseline = w.definiteBaseline →
                Reflects w' registration (events ++ [event]) watched := by
    intro hh hf hl w' ha hp' hl' hat hd hc hb
    refine h.advance event ha ?_ (fun recv _ => ?_) (fun recv _ => ?_) ?_ hd
      (fun hpos => .inl ?_) hb
    · rw [hh, hp']
      rfl
    · rw [hf, hl']
      rfl
    · rw [hl']
    · rw [hl, hat, Bool.or_false]
    · rw [← hc]
      exact hpos
  cases hp : event.payload with
  | pcmDrop => exact notePcmDrop_reflects h asked hp ring
  | sessionTransition phase =>
    have hl : event.losesFrames = false := by simp [FeedEvent.losesFrames, hp]
    have hs : event.phaseSaid = some phase := by simp [FeedEvent.phaseSaid, hp]
    refine h.advance event rfl ?_ (fun recv _ => ?_) (fun _ _ => rfl) ?_ rfl .inl rfl
    · rw [hs]
      rfl
    · simp [FeedEvent.lifecycleSaid, hp, notePayload]
    · simp [hl, notePayload]
  | receiverTransition chg destination =>
    have hl : event.losesFrames = false := by simp [FeedEvent.losesFrames, hp]
    have hh : event.phaseSaid = none := by simp [FeedEvent.phaseSaid, hp]
    have hs : ∀ recv, event.lifecycleSaid recv = if chg = recv then some destination else none := by
      simp [FeedEvent.lifecycleSaid, hp]
    have hm : w.isActiveMember chg = (registration.members.get chg).isSome := by
      simp [isActiveMember, h.active]
    simp only [notePayload, hm]
    split
    · refine h.advance event rfl ?_ (fun recv _ => ?_) (fun recv ho => ?_) ?_ rfl .inl rfl
      · rw [hh]
        rfl
      · rw [hs]
        by_cases hr : recv = chg
        · simp [hr]
        · have hne : chg ≠ recv := fun heq => hr heq.symm
          simp [hr, hne]
      · rename_i hin
        have hne : recv ≠ chg := by
          intro heq
          rw [heq, hin] at ho
          cases ho
        simp [hne]
      · simp [hl]
    · rename_i ht
      refine h.advance event rfl ?_ (fun recv hin => ?_) (fun recv ho => rfl) ?_ rfl .inl rfl
      · rw [hh]
        rfl
      · have hne : chg ≠ recv := by
          intro heq
          rw [heq] at ht
          exact ht hin
        simp [hs, hne]
      · simp [hl]
  | _ =>
    exact hpl (by simp [FeedEvent.phaseSaid, hp])
      (by simp [FeedEvent.lifecycleSaid, hp]) (by simp [FeedEvent.losesFrames, hp]) _
      rfl rfl rfl rfl rfl rfl rfl

/-- An event that does not concern the session changes nothing that is known
of it. -/
theorem Reflects.skip [PublicMessage] (ho : event.concerns registration.members = false) :
    Reflects (w.ingestBackendEvent asked event) registration events watched := by
  have hn := h.ingest asked event
  have hl := losesFrames_of_not_concerns ho
  have ha : (events ++ [event]).any (·.losesFrames) = events.any (·.losesFrames) := by simp [hl]
  refine ⟨hn.active, ?_, fun recv hm => ?_, hn.others, ?_, hn.feedback, ?_, hn.baseline⟩
  · rw [hn.phase, lastPhase_concat, phaseSaid_of_not_concerns ho, Option.none_or]
  · rw [hn.members recv hm, lastLifecycle_concat,
      lifecycleSaid_of_not_concerns ho hm, Option.none_or]
  · rw [hn.attention, ha]
  · rw [← ha]
    exact hn.accumulator

end

/-! ## Publication -/

theorem Reflects.publish (h : Reflects w registration events watched) (asked : Asked) :
    Reflects (w.publish asked) registration events (watched ++ [asked]) ∧
      Shown (w.publish asked) registration := by
  obtain ⟨_, ho⟩ := observeClient_eq w asked registration.source (by simp [h.active])
  unfold WorkerState.publish
  rw [h.active]
  dsimp only
  rw [ho]
  refine ⟨⟨h.active, h.phase, h.members, h.others, ?_, ?_, h.accumulator, ?_⟩, ?_⟩
  · show (w.attentionDefinite || _ || _) = _
    rw [h.attention, h.baseline, clientAttention_concat]
    simp only [Bool.or_assoc]
  · show (w.feedbackAttention || _) = _
    rw [h.feedback]
    simp [clientFeedback]
  · show Option.or _ w.definiteBaseline = _
    rw [h.baseline, countersSeen_concat]
  · refine ⟨⟨_, rfl, rfl, rfl⟩, ?_, rfl⟩
    simp [store, buildReceiverRows, SortedMap.keys]

theorem Reflects.computeHealth (h : Reflects w registration events watched) :
    w.computeHealth = healthOf registration.members.keys events registration.source watched := by
  have hf : w.lifecycle.entries.any (fun entry => entry.2.isFailed) =
      registration.members.keys.any (fun recv =>
        (lastLifecycle recv events).any (·.isFailed)) := by
    rw [Bool.eq_iff_iff, any_eq_true, any_eq_true]
    constructor
    · rintro ⟨⟨recv, lifecycle⟩, he, hisFai⟩
      have hg := SortedMap.mem_entries.mp he
      cases hm : (registration.members.get recv).isSome with
      | false =>
        rw [h.others recv hm] at hg
        cases hg
      | true =>
        refine ⟨recv, SortedMap.mem_keys.mpr hm, ?_⟩
        rw [← h.members recv hm, hg]
        exact hisFai
    · rintro ⟨recv, hk, hisFai⟩
      rw [← h.members recv (SortedMap.mem_keys.mp hk)] at hisFai
      cases hg : w.lifecycle.get recv with
      | none =>
        rw [hg] at hisFai
        cases hisFai
      | some lifecycle =>
        rw [hg] at hisFai
        exact ⟨(recv, lifecycle), SortedMap.mem_entries.mpr hg, hisFai⟩
  unfold WorkerState.computeHealth healthOf
  rw [if_neg (by simp [h.active]), hf, h.phase, h.attention, h.feedback]

/-! ## The worker with its channels -/

namespace RegistrySystem

/-- The worker takes an event only for the session it was emitted in, and a
session is registered before any of its events is taken. The feed loses
nothing. -/
def Attributed (t : RegistrySystem) : RegistryEvent → Prop
  | .emit _ => t.feed.length < DIAGNOSTIC_CAPACITY
  | .drain _ => t.atTop = true → ∀ sent ∈ t.commands, ∀ registration ∈ sent.registered,
      ∀ event ∈ t.received, event.concerns registration.members = true →
        event.sessionGeneration ≠ sent.generation
  | .receive _ => t.atTop = false → ∀ event ∈ t.feed.head?, ∀ registration ∈ t.worker.active,
      event.concerns registration.members = true → t.generation = some event.sessionGeneration
  | .reconcile _ _ | .wake => True

instance (t : RegistrySystem) : ∀ event, Decidable (t.Attributed event)
  | .emit _ => inferInstanceAs (Decidable (_ < _))
  | .drain _ => inferInstanceAs (Decidable (_ → ∀ sent ∈ t.commands, _))
  | .receive _ => inferInstanceAs (Decidable (_ → ∀ event ∈ t.feed.head?, _))
  | .reconcile _ _ | .wake => inferInstanceAs (Decidable True)

/-- The active session is known by the events of its generation. -/
structure Own (t : RegistrySystem) : Prop where
  lagged : t.lagged = 0
  emitted : t.emitted = t.received ++ t.feed
  reflects : ∀ registration, t.worker.active = some registration →
    ∃ generation, t.generation = some generation ∧
      Reflects t.worker registration (under generation t.received) t.watched

/-- The active session is published. -/
def IsShown (t : RegistrySystem) : Prop :=
  ∀ registration, t.worker.active = some registration → Shown t.worker registration

variable {t : RegistrySystem}

theorem apply_received (asked : Asked) (t : RegistrySystem) (sent : Sent) :
    (apply asked t sent).received = t.received := by
  unfold apply
  dsimp only
  split <;> rfl

/-- A session that goes on is not the one that was finished. -/
theorem finish_kept {asked : Asked} {sid : SessionId}
    {rsn : SessionStopReason} {act : SessionRegistration}
    (ha : (w.applyCommand asked (.finish sid rsn)).active = some act) :
    w.applyCommand asked (.finish sid rsn) = w := by
  simp only [applyCommand] at ha ⊢
  cases hr : w.active with
  | none => rfl
  | some registration =>
    rw [hr] at ha
    by_cases hs : registration.sessionId = sid
    · simp [hs] at ha
    · exact if_neg hs

theorem apply_own (h : t.Own) (asked : Asked) (sent : Sent)
    (hf : ∀ registration ∈ sent.registered, ∀ event ∈ t.received,
      event.concerns registration.members = true → event.sessionGeneration ≠ sent.generation) :
    (apply asked t sent).Own := by
  obtain ⟨gen, cmd⟩ := sent
  cases cmd with
  | register registration =>
    refine ⟨h.lagged, h.emitted, fun act ha => ⟨gen, rfl, ?_⟩⟩
    have hs : registration = act := Option.some.inj ha
    rw [← hs]
    refine reflects_register t.worker asked registration (fun event he => ?_)
    obtain ⟨hr, hg⟩ := mem_filter.mp he
    by_contra hc
    exact hf registration rfl event hr (by simpa using hc) (by simpa using hg)
  | finish sid rsn =>
    refine ⟨h.lagged, h.emitted, fun act ha => ?_⟩
    have ha : (t.worker.applyCommand asked (.finish sid rsn)).active = some act := ha
    have hk := finish_kept ha
    rw [hk] at ha
    obtain ⟨own, ho, hre⟩ := h.reflects act ha
    refine ⟨own, ?_, ?_⟩
    · show (if (t.worker.applyCommand asked (.finish sid rsn)).active.isSome then
        t.generation else none) = some own
      rw [hk, ha]
      exact ho
    · show Reflects (t.worker.applyCommand asked (.finish sid rsn)) _ _ _
      rw [hk]
      exact hre

theorem applyAll_own (asked : Asked) : ∀ (cmds : List Sent) {t : RegistrySystem}, t.Own →
    (∀ sent ∈ cmds, ∀ registration ∈ sent.registered, ∀ event ∈ t.received,
      event.concerns registration.members = true → event.sessionGeneration ≠ sent.generation) →
    (cmds.foldl (apply asked) t).Own
  | [], _, h, _ => h
  | sent :: rest, t, h, hf => by
      refine applyAll_own asked rest (apply_own h asked sent (hf sent mem_cons_self)) ?_
      intro later hl
      rw [apply_received]
      exact hf later (mem_cons_of_mem _ hl)

theorem publish_active (w : WorkerState) (asked : Asked) : (w.publish asked).active = w.active := by
  unfold WorkerState.publish
  cases ha : w.active with
  | some registration =>
    obtain ⟨_, ho⟩ := observeClient_eq w asked registration.source (by simp [ha])
    dsimp only
    rw [ho]
    exact ha
  | none =>
    dsimp only
    split <;> exact ha

theorem publish_own (h : t.Own) (asked : Asked) :
    (t.publish asked).Own ∧ (t.publish asked).IsShown := by
  have ha : ∀ registration, (t.publish asked).worker.active = some registration →
      t.worker.active = some registration := by
    intro registration hr
    rw [← hr]
    exact (publish_active t.worker asked).symm
  refine ⟨⟨h.lagged, h.emitted, fun registration hr => ?_⟩, fun registration hr => ?_⟩
  · obtain ⟨gen, hg, hf⟩ := h.reflects registration (ha registration hr)
    exact ⟨gen, hg, (hf.publish asked).1⟩
  · obtain ⟨gen, _, hf⟩ := h.reflects registration (ha registration hr)
    exact (hf.publish asked).2

theorem drain_own (h : t.Own) (hs : t.IsShown) (asked : Asked)
    (hf : ∀ sent ∈ t.commands, ∀ registration ∈ sent.registered, ∀ event ∈ t.received,
      event.concerns registration.members = true → event.sessionGeneration ≠ sent.generation) :
    (t.drain asked).Own ∧ (t.drain asked).IsShown := by
  have ha := applyAll_own asked t.commands h hf
  unfold drain
  dsimp only
  cases hc : t.commands with
  | nil => exact ⟨⟨h.lagged, h.emitted, h.reflects⟩, hs⟩
  | cons =>
    rw [hc] at ha
    obtain ⟨ho, hn⟩ := publish_own ha asked
    exact ⟨⟨ho.lagged, ho.emitted, ho.reflects⟩, hn⟩

theorem ingest_active [PublicMessage] (w : WorkerState) (asked : Asked) (event : FeedEvent) :
    (w.ingestBackendEvent asked event).active = w.active := by
  obtain ⟨_, hi⟩ := ingestBackendEvent_eq w asked event
  rw [hi]
  cases event.payload with
  | pcmDrop dropped =>
    show (w.notePcmDrop asked dropped).active = w.active
    unfold notePcmDrop
    dsimp only
    split <;> rfl
  | receiverTransition =>
    show (if _ then _ else _ : WorkerState).active = w.active
    split <;> rfl
  | _ => rfl

theorem receive_own [PublicMessage] (h : t.Own) (hh : t.IsShown) (asked : Asked)
    (ho : ∀ event ∈ t.feed.head?, ∀ registration ∈ t.worker.active,
      event.concerns registration.members = true → t.generation = some event.sessionGeneration) :
    (t.receive asked).Own ∧ (t.receive asked).IsShown := by
  unfold receive
  rw [if_neg (by rw [h.lagged]; exact Nat.lt_irrefl 0)]
  cases hf : t.feed with
  | nil => exact ⟨h, hh⟩
  | cons event rest =>
    have ht : Own { t with
        worker := t.worker.ingestBackendEvent asked event
        feed := rest
        atTop := true
        received := t.received ++ [event] } := by
      refine ⟨h.lagged, ?_, fun registration he => ?_⟩
      · show t.emitted = t.received ++ [event] ++ rest
        rw [h.emitted, hf, append_assoc, singleton_append]
      · have ha : t.worker.active = some registration :=
          (ingest_active t.worker asked event).symm.trans he
        obtain ⟨gen, hg, hr⟩ := h.reflects registration ha
        refine ⟨gen, hg, ?_⟩
        dsimp only
        rw [under_concat]
        by_cases hm : event.sessionGeneration = gen
        · rw [if_pos hm]
          exact hr.ingest asked event
        · rw [if_neg hm, append_nil]
          refine hr.skip asked ?_
          by_contra hc
          have hs := ho event (by rw [hf]; rfl) registration ha (by simpa using hc)
          rw [hg] at hs
          exact hm (Option.some.inj hs).symm
    exact publish_own ht asked

/-- An attributed event stays with its session. -/
theorem step_own [PublicMessage] (h : t.Own) (hs : t.IsShown) (event : RegistryEvent)
    (ha : t.Attributed event) : (t.step event).Own ∧ (t.step event).IsShown := by
  cases event with
  | emit =>
    have hr : t.feed.length < DIAGNOSTIC_CAPACITY := ha
    simp only [step, emit, if_pos hr]
    refine ⟨⟨h.lagged, ?_, h.reflects⟩, hs⟩
    rw [h.emitted, append_assoc]
  | reconcile => exact ⟨⟨h.lagged, h.emitted, h.reflects⟩, hs⟩
  | drain asked =>
    simp only [step]
    split
    · rename_i ht
      exact drain_own h hs asked (ha ht)
    · exact ⟨h, hs⟩
  | wake => exact ⟨⟨h.lagged, h.emitted, h.reflects⟩, hs⟩
  | receive asked =>
    simp only [step]
    split
    · exact ⟨h, hs⟩
    · rename_i hw
      exact receive_own h hs asked (ha (by simpa using hw))

/-- What the diagnostics of a session are to show: its own events. -/
structure ShowsOwn (t : RegistrySystem) (registration : SessionRegistration) (generation : Nat) :
    Prop where
  session : ∃ session, t.worker.current.session = some session ∧
    session.sessionId = registration.sessionId ∧
      session.phase = lastPhase (under generation t.emitted)
  receivers : t.worker.current.receivers.map (fun row => (row.key.receiverId, row.lifecycle)) =
    registration.members.keys.map (fun receiver =>
      (receiver, (lastLifecycle receiver (under generation t.emitted)).getD .discovered))
  health : t.worker.current.health = healthOf registration.members.keys
    (under generation t.emitted) registration.source t.watched

theorem Own.showsOwn (h : t.Own) (hs : t.IsShown)
    (ha : t.worker.active = some registration) (har : t.feed = []) :
    ∃ gen, t.generation = some gen ∧ t.ShowsOwn registration gen := by
  obtain ⟨gen, hg, hr⟩ := h.reflects registration ha
  have hn := hs registration ha
  have he : t.emitted = t.received := by rw [h.emitted, har, append_nil]
  refine ⟨gen, hg, ?_, ?_, ?_⟩
  · obtain ⟨sess, hse, hi, hp⟩ := hn.session
    exact ⟨sess, hse, hi, by rw [hp, hr.phase, he]⟩
  · rw [hn.receivers, he]
    refine map_congr_left (fun recv hk => ?_)
    rw [hr.members recv (SortedMap.mem_keys.mp hk)]
  · rw [hn.health, hr.computeHealth, he]

/-- In every run whose events are attributed, a session's diagnostics show
its own events once all events have been received. -/
theorem diagnostics_show_their_session [PublicMessage] (asked : Asked) (events : List RegistryEvent)
    (hattributed : Mealy.Along (Mealy.silent step) Attributed (start asked) events) :
    let t := Mealy.run (Mealy.silent step) (start asked) events
    ∀ registration, t.worker.active = some registration → t.feed = [] →
      ∃ gen, t.generation = some gen ∧ t.ShowsOwn registration gen := by
  have ht : (start asked).Own ∧ (start asked).IsShown := by
    have hn : (start asked).worker.active = none := publish_active _ asked
    refine ⟨⟨rfl, rfl, fun registration ha => ?_⟩, fun registration ha => ?_⟩ <;>
      (rw [hn] at ha; cases ha)
  have hs : ∀ (t : RegistrySystem) (event : RegistryEvent), t.Attributed event → t.Own ∧ t.IsShown →
        (Mealy.silent step t event).1.Own ∧ (Mealy.silent step t event).1.IsShown :=
    fun t event hc h => step_own h.1 h.2 event hc
  have hr := Mealy.along_invariant hs events hattributed ht
  exact fun registration ha har => hr.1.showsOwn hr.2 ha har

/-! ### Two sessions -/

/-- The texts of two payloads. -/
abbrev messages : PublicMessage where
  backend
    | .sessionTransition (.streaming generation) members =>
      "session entered Streaming \x7b generation: " ++ toString generation ++ " \x7d with "
        ++ toString members ++ " active receivers"
    | .sessionTransition (.degraded generation) members =>
      "session entered Degraded \x7b generation: " ++ toString generation ++ " \x7d with "
        ++ toString members ++ " active receivers"
    | _ => ""

variable (generation : Nat)

/-- The phase of a session, under its generation. -/
def phaseEvent (phase : FullPhase) : FeedEvent where
  monotonicNs := 0
  wallTime := 0
  sessionGeneration := generation
  discoveryGeneration := 1
  captureGeneration := 1
  receiver := none
  severity := .info
  category := .session
  payload := .sessionTransition phase 1

def activeState : SessionDiagnosticsState :=
  .active generation 0 none (SortedMap.empty.insert ⟨1⟩ ⟨1⟩) generation

/-- Two sessions in turn; each phase arrives while its session is
registered. -/
def inTurn : List RegistryEvent :=
  [.reconcile (activeState 1) ⟨1⟩, .drain {}, .emit (phaseEvent 1 (.degraded 1)), .receive {},
    .reconcile (activeState 2) ⟨2⟩, .wake, .drain {}, .emit (phaseEvent 2 (.streaming 2)),
    .receive {}]

/-- The second session shows its own phase. -/
theorem diagnostics_show_their_session_inTurn :
    (Mealy.run (Mealy.silent (@step messages)) (start {}) inTurn).ShowsOwn
      ⟨⟨2⟩, 0, none, SortedMap.empty.insert ⟨1⟩ ⟨1⟩, 2⟩ 2 := by
  obtain ⟨generation, hg, hs⟩ := @diagnostics_show_their_session messages {} inTurn
    (by decide) ⟨⟨2⟩, 0, none, SortedMap.empty.insert ⟨1⟩ ⟨1⟩, 2⟩ rfl (by decide)
  obtain rfl : 2 = generation := Option.some.inj hg
  exact hs

/-- The last event of a session arrives after the next one is registered. -/
def lateEvent : List RegistryEvent :=
  [.reconcile (activeState 1) ⟨1⟩, .drain {}, .emit (phaseEvent 1 (.degraded 1)),
    .reconcile (activeState 2) ⟨2⟩, .wake, .drain {}, .receive {}]

/-- A late event of the session before marks the new one. -/
theorem late_event_marks_new_session :
    ∃ t, t = Mealy.run (Mealy.silent (@step messages)) (start {}) lateEvent ∧
      t.feed = [] ∧ t.commands.isEmpty = true ∧ t.generation = some 2 ∧
      lastPhase (under 2 t.emitted) = none ∧
      t.worker.current.session.map (·.sessionId) = some ⟨2⟩ ∧
      t.worker.current.session.map (·.phase) = some (some (.degraded 1)) ∧
      healthOf [⟨1⟩] (under 2 t.emitted) 2 t.watched = .running ∧
      t.worker.current.health = .attention :=
  ⟨_, rfl, by decide⟩

end RegistrySystem

end OpenAirCast.Diagnostics
