/-
Bridge.RuntimeTheorems — what one move of the composed system
can do, and the bookkeeping every run keeps.

`PortMove` lists what the port makes of an effect, `Stepped` what a move
makes of the system; the invariants are case analyses of the two. `due` is
the echo as it will stand once the port has made its writes: a request
counts as recorded from the moment it was sent. Two invariants live here.
`Slot` says that a group effect always finds the group slot free, so that
no generation goes unrecorded; `Ordered` says that generations are
recorded and answered in the order they are given out.
-/
import OpenAirCast.App.TurnTheorems
import OpenAirCast.Backend.CommandTheorems
import OpenAirCast.Bridge.ProjectionTheorems
import OpenAirCast.Bridge.Runtime

namespace OpenAirCast.Bridge

open OpenAirCast.Backend List BackendPort CommandEnvelope EchoWrite GroupCore

/-! ## What the port makes of an effect -/

/-- The commands that ask for one run intent, at the end of what is
sent. -/
structure Asks (sent : List CommandEnvelope) (intent : RunIntent) : Prop where
  last : ∃ before envelope, sent = before ++ [envelope] ∧ envelope.intent = some intent
  unconfirmed : sent.filterMap (·.confirmation) = []

/-- How a session request fares: refused, or sent with its edge. -/
inductive SessionRequest : List CommandEnvelope → SessionEdge → Prop
  | refused : SessionRequest [] .rejected
  | start {sent : List CommandEnvelope} (h : Asks sent .running) : SessionRequest sent .start
  | stop {sent : List CommandEnvelope} (h : Asks sent .stopped) : SessionRequest sent .stop

/-- How a group command fares. -/
inductive GroupRequest (next : Nat) (command : GroupCommand) :
    List CommandEnvelope → Except GroupFailure (Nat × CommandReceipt) → Prop
  | refused (failure : GroupFailure) : GroupRequest next command [] (.error failure)
  | admitted (envelope : CommandEnvelope) (hr : envelope.confirmation = some next)
      (hi : envelope.intent = none) (hs : envelope.startsGroup = command.isStart) :
      GroupRequest next command [envelope] (.ok (next, { receiver := next }))

inductive PortMove (echo : GenerationEcho) (next : Nat) (effect : AppEffect) :
    List CommandEnvelope → List EchoWrite → Prop
  /-- Nothing about the session or the group slot. -/
  | aside {sent : List CommandEnvelope} {writes : List EchoWrite}
      (hg : effect.sessionGeneration = none) (hr : effect.isGroup = false)
      (hs : ∀ e ∈ sent, e.isPlain = true)
      (he : sent.filterMap (·.confirmation) = [] ∨
        sent.filterMap (·.confirmation) = [next] ∧ 0 < sent.length)
      (hw : ∀ w ∈ writes, w.isAside = true)
      (ht : ∀ pending, .holdListening pending ∈ writes →
        effect.toneGeneration = some pending.generation) :
      PortMove echo next effect sent writes
  | session {sent : List CommandEnvelope} (generation : GenerationId) (edge : SessionEdge)
      (hg : effect.sessionGeneration = some generation)
      (hr : effect.isGroup = false) (he : SessionRequest sent edge) :
      PortMove echo next effect sent [.recordSession generation edge]
  | group {sent : List CommandEnvelope} (pending : GroupPending) (command : GroupCommand)
      (he : effect = .group pending.request pending.generation command)
      (hf : echo.group = none)
      (hr : GroupRequest next command sent pending.admission) :
      PortMove echo next effect sent ((pending.generation.map (fun generation =>
            .recordSession generation (admissionEdge pending.admission))).toList
          ++ [.holdGroup pending])
  /-- The group slot is taken. -/
  | busy (hg : effect.isGroup = true) (hs : echo.group ≠ none) : PortMove echo next effect [] []

variable (echo : GenerationEcho)

theorem portMove_send (next : Nat) {effect : AppEffect}
    (refu : Option ControllerSendError) {cmd : BackendCommand}
    (hg : effect.sessionGeneration = none) (hr : effect.isGroup = false)
    (hp : isPlain ⟨next, cmd, none⟩ = true) :
    PortMove echo next effect (send refu next cmd).sent (send refu next cmd).writes := by
  refine .aside hg hr ?_ (.inl ?_) (by simp [send]) (by simp [send])
  · cases refu <;> simp [send, hp]
  · cases refu <;> simp [send]

theorem portMove_group (next : Nat)
    (refusal : Option ControllerSendError) (request : Nat) (generation : Option GenerationId)
    (command : GroupCommand) :
    PortMove echo next (.group request generation command)
      (group echo refusal next request generation command).sent
      (group echo refusal next request generation command).writes := by
  unfold group
  split
  · rename_i hs
    exact .busy rfl (by simpa [Option.isSome_iff_ne_none] using hs)
  · rename_i hs
    refine .group { request, generation, admission := _ } command rfl (by simpa using hs) ?_
    cases ht : translateGroup command with
    | error failure => exact .refused failure
    | ok =>
      cases refusal with
      | some => exact .refused _
      | none =>
        refine .admitted _ rfl ?_ ?_
        · cases command <;> simp only [translateGroup] at ht
          · split at ht <;> cases ht
            rfl
          all_goals cases ht; rfl
        · cases command <;> simp only [translateGroup] at ht
          · split at ht <;> cases ht
            rfl
          all_goals cases ht; rfl

theorem portMove_playListeningTone (next : Nat)
    (refu : Option ControllerSendError) (gen : GenerationId) :
    PortMove echo next (.playListeningTone gen) (playListeningTone echo refu next gen).sent
      (playListeningTone echo refu next gen).writes := by
  unfold playListeningTone
  split
  · exact .aside rfl rfl (by simp) (.inl rfl) (by simp) (by simp)
  · split
    · refine .aside rfl rfl (by simp [isPlain, intent,
        startsGroup]) (.inr ⟨rfl, Nat.one_pos⟩) (by simp [isAside]) ?_
      intro pend hmem
      obtain rfl : pend = _ := by simpa using hmem
      rfl
    · refine .aside rfl rfl (by simp) (.inl rfl) (by simp [isAside]) ?_
      intro pend hmem
      obtain rfl : pend = _ := by simpa using hmem
      rfl

namespace Runtime

variable {echo other : GenerationEcho} {effect : AppEffect}

variable (s : Runtime)

theorem reply_portMove (refused : Bool) (effect : AppEffect) :
    PortMove s.echo s.nextId effect (((s.reply refused effect).map (·.sent)).getD [])
      (((s.reply refused effect).map (·.writes)).getD []) := by
  have hq : effect.sessionGeneration = none → effect.isGroup = false →
      PortMove s.echo s.nextId effect [] [] := fun hg hr =>
    .aside hg hr (by simp) (.inl rfl) (by simp) (by simp)
  cases effect with
  | playListeningTone => exact portMove_playListeningTone ..
  | group => exact portMove_group ..
  | startSession gen =>
    refine .session gen _ rfl rfl ?_
    cases refused with
    | true => exact .refused
    | false => exact .start ⟨⟨[_, _], _, rfl, rfl⟩, rfl⟩
  | stopSession gen =>
    refine .session gen _ rfl rfl ?_
    cases refused with
    | true => exact .refused
    | false => exact .stop ⟨⟨[], _, rfl, rfl⟩, rfl⟩
  | discover gen =>
    have hd : PortMove s.echo s.nextId (.discover gen) [] [.recordDiscovery gen] :=
      .aside rfl rfl (by simp) (.inl rfl) (by simp [isAside]) (by simp)
    cases refused <;> exact hd
  | applyVolume =>
    cases refused with
    | true =>
      exact .aside rfl rfl (by simp [reply, effectToCommand, trySend, applyVolume]) (.inl rfl)
        (by simp [reply, effectToCommand, trySend, applyVolume, isAside])
        (by simp [reply, effectToCommand, trySend, applyVolume])
    | false =>
      exact .aside rfl rfl (by simp [reply, effectToCommand, trySend, applyVolume, isPlain, intent,
        startsGroup]) (.inr ⟨rfl, Nat.one_pos⟩)
        (by simp [reply, effectToCommand, trySend, applyVolume, isAside])
        (by simp [reply, effectToCommand, trySend, applyVolume])
  | applyMute => exact portMove_send _ _ _ rfl rfl rfl
  | applyReceiverLevel => exact portMove_send _ _ _ rfl rfl rfl
  | applyLatency => exact portMove_send _ _ _ rfl rfl rfl
  | applyAudioEndpoint req =>
    cases req with
    | systemDefault => exact portMove_send _ _ _ rfl rfl rfl
    | endpoint =>
      simp only [reply, effectToCommand, Option.map_some, Option.getD_some, trySend]
      split
      · exact portMove_send _ _ _ rfl rfl rfl
      · exact hq rfl rfl
  | _ => exact hq rfl rfl

/-! ## What a move makes of the system -/

/-- An event that neither answers a session nor ends a group operation. -/
def isNeutral (event : AppEvent) : Bool :=
  event.sessionStamp.isNone && match event with
    | .controller (.groupOperationFinished _ _) => false
    | _ => true

/-- What an effect can feed back: its own tone's failure, or something
neutral. -/
inductive Feedback (effect : AppEffect) (event : AppEvent) : Prop
  | tone (generation : GenerationId) (summary : String)
      (he : effect.toneGeneration = some generation)
      (hv : event = .controller (.sessionFailed generation summary))
  | neutral (he : isNeutral event = true)

/-- `Feedback` covers whatever an effect returns. -/
theorem feedback_cases (effect : AppEffect) (reply : Option PortReply) (refused : Bool) :
    ∀ ev ∈ feedback effect reply refused, Feedback effect ev := by
  intro ev hmem
  unfold feedback at hmem
  split at hmem
  · rename_i gen reply
    split at hmem
    · simp at hmem
    · exact .tone gen _ rfl (mem_singleton.mp hmem)
  · split at hmem
    · exact .neutral (by rw [mem_singleton.mp hmem]; rfl)
    · simp at hmem
  · split at hmem
    · exact .neutral (by rw [mem_singleton.mp hmem]; rfl)
    · simp at hmem
  · simp at hmem

/-- The shell has taken an event. -/
abbrev afterTurn [Lowercase] (s : Runtime) (event : AppEvent) (rest : List AppEvent) : Runtime :=
  { s with
    shell := (reduce s.shell event).1
    queue := rest
    effects := (reduce s.shell event).2.effects }

/-- The port has executed an effect. -/
abbrev afterEffect (rest : List AppEffect) (sent : List CommandEnvelope)
    (writes : List EchoWrite) (fed : List AppEvent) : Runtime :=
  { s with
    effects := rest
    actor := s.actor.enqueue sent
    nextId := s.nextId + sent.length
    writes
    queue := s.queue ++ fed }

/-- The bridge has looked at the group slot. -/
abbrev afterGroup (snapshot : DeviceSnapshot) : Runtime :=
  { s with
    echo := (s.echo.groupEvents s.actor.channels snapshot false).1
    outbox := s.outbox ++ (s.echo.groupEvents s.actor.channels snapshot false).2
    stage := .settingVolume snapshot }

inductive Stepped [Lowercase] (s : Runtime) : Move → Runtime → Prop
  | same (move : Move) : Stepped s move s
  | raised (event : AppEvent) (hn : isNeutral event = true) :
      Stepped s (.raise event) { s with queue := s.queue ++ [event] }
  | turned (event : AppEvent) (rest : List AppEvent) (he : s.effects = [])
      (hw : s.writes = []) (hq : s.queue = event :: rest) :
      Stepped s .turn (s.afterTurn event rest)
  | executed (refused room : Bool) (effect : AppEffect) (rest : List AppEffect)
      (sent : List CommandEnvelope) (writes : List EchoWrite) (fed : List AppEvent)
      (hw : s.writes = []) (he : s.effects = effect :: rest)
      (hp : PortMove s.echo s.nextId effect sent writes)
      (hf : ∀ event ∈ fed, Feedback effect event) :
      Stepped s (.execute refused room) (s.afterEffect rest sent writes fed)
  | wrote (write : EchoWrite) (rest : List EchoWrite) (hw : s.writes = write :: rest) :
      Stepped s .write { s with echo := s.echo.write write, writes := rest }
  | looked (hs : s.stage = .resting) : Stepped s .look { s with stage := .looked s.actor.published }
  | projected (snapshot : DeviceSnapshot) (hs : s.stage = .looked snapshot) : Stepped s .project
        { s with
          projection := (s.projection.project snapshot s.echo.sample).1
          outbox := s.outbox ++ (s.projection.project snapshot s.echo.sample).2
          stage := .targeting snapshot (s.projection.project snapshot s.echo.sample).2
          projected := some (snapshot, s.echo.sample) }
  | targeted (snapshot : DeviceSnapshot) (produced : List ControllerEvent)
      (hs : s.stage = .targeting snapshot produced) :
      Stepped s .target { s with
          echo := s.echo.observeListeningTarget snapshot produced
          endpoints := s.projection.endpoints
          stage := .grouping snapshot }
  | grouped (snapshot : DeviceSnapshot) (hs : s.stage = .grouping snapshot)
      (ho : s.groupLocked = false) :
      Stepped s .group (s.afterGroup snapshot)
  | volumed (snapshot : DeviceSnapshot) (hs : s.stage = .settingVolume snapshot) : Stepped s .volume
        { s with
          echo := (s.echo.volumeEvents s.actor.channels snapshot false).1
          outbox := s.outbox ++ (s.echo.volumeEvents s.actor.channels snapshot false).2
          stage := .listening snapshot }
  | listened (snapshot : DeviceSnapshot) (hs : s.stage = .listening snapshot)
      (ho : s.listeningLocked = false) :
      Stepped s .listen { s with
          echo := (s.echo.listeningEvents s.actor.channels snapshot false).1
          outbox := s.outbox ++ (s.echo.listeningEvents s.actor.channels snapshot false).2
          stage := .resting }
  | flushed (event : ControllerEvent) (rest : List ControllerEvent)
      (ho : s.outbox = event :: rest) :
      Stepped s .flush { s with queue := s.queue ++ [.controller event], outbox := rest }
  | appended (move : Move) (event : ControllerEvent) (hn : isNeutral (.controller event) = true) :
      Stepped s move { s with outbox := s.outbox ++ [event] }
  | worked (move : Actor.Move) : Stepped s (.backend move) { s with actor := s.actor.step move }

theorem append_stepped [Lowercase] (move : Move) {ev : ControllerEvent}
    (hn : isNeutral (.controller ev) = true) : Stepped s move (s.append ev) := by
  unfold append
  split
  · exact .appended move ev hn
  · exact .same move

theorem raisable_neutral {ev : AppEvent} (h : raisable ev = true) : isNeutral ev = true := by
  cases ev <;> first | rfl | cases h

/-- `Stepped` covers every move. -/
theorem step_stepped [Lowercase] (move : Move) : Stepped s move (s.step move) := by
  cases move with
  | raise ev =>
    simp only [step]
    split
    · rename_i h
      exact .raised ev (raisable_neutral h)
    · exact .same _
  | turn =>
    simp only [step, turn]
    split
    · rename_i ev rest he hw hq
      exact .turned ev rest he hw hq
    · exact .same _
  | execute refused room =>
    simp only [step, execute]
    split
    · rename_i effect rest hw he
      refine .executed refused room effect rest _ _ _ hw he (s.reply_portMove refused effect) ?_
      intro ev hmem
      split at hmem
      · exact feedback_cases _ _ _ ev hmem
      · simp at hmem
    · exact .same _
  | write =>
    simp only [step, write]
    split
    · exact .same _
    · rename_i write rest hw
      exact .wrote write rest hw
  | look =>
    simp only [step, look]
    split
    · rename_i hs _
      exact .looked hs
    · exact .same _
  | project =>
    simp only [step, project]
    split
    · rename_i snap hs
      exact .projected snap hs
    · exact .same _
  | target =>
    simp only [step, target]
    split
    · rename_i snap produced hs
      exact .targeted snap produced hs
    · exact .same _
  | group =>
    simp only [step, group]
    split
    · rename_i snap hs
      split
      · exact .same _
      · rename_i hop
        exact .grouped snap hs (by simpa using hop)
    · exact .same _
  | volume =>
    simp only [step, volume]
    split
    · rename_i snap hs
      exact .volumed snap hs
    · exact .same _
  | listen =>
    simp only [step, listen]
    split
    · rename_i snap hs
      split
      · exact .same _
      · rename_i hop
        exact .listened snap hs (by simpa using hop)
    · exact .same _
  | flush =>
    simp only [step, flush]
    split
    · rename_i ev rest _ ho
      exact .flushed ev rest ho
    · exact .same _
  | notice => exact append_stepped s _ rfl
  | diagnostics => exact append_stepped s _ rfl
  | liveDiagnostics => exact append_stepped s _ rfl
  | backend move => exact .worked move

/-! ## The echo once the writes are made -/

/-- The echo as it stands once the port has made the writes it owes. -/
def due : GenerationEcho := s.writes.foldl GenerationEcho.write s.echo

theorem due_of_no_writes {s : Runtime} (h : s.writes = []) : s.due = s.echo := by
  rw [due, h]
  rfl

section

variable (wrs : List EchoWrite)

/-- A write to one field keeps what agrees on the others. -/
theorem foldl_write_session (h : echo.session = other.session) :
    (wrs.foldl GenerationEcho.write echo).session
      = (wrs.foldl GenerationEcho.write other).session := by
  induction wrs generalizing echo other with
  | nil => exact h
  | cons w _ ih =>
    refine ih ?_
    cases w <;> first | exact h | rfl

theorem foldl_write_group (h : echo.group = other.group) :
    (wrs.foldl GenerationEcho.write echo).group = (wrs.foldl GenerationEcho.write other).group := by
  induction wrs generalizing echo other with
  | nil => exact h
  | cons w _ ih =>
    refine ih ?_
    cases w <;> first | exact h | rfl

theorem foldl_write_listening (h : echo.listeningPending = other.listeningPending) :
    (wrs.foldl GenerationEcho.write echo).listeningPending
      = (wrs.foldl GenerationEcho.write other).listeningPending := by
  induction wrs generalizing echo other with
  | nil => exact h
  | cons w _ ih =>
    refine ih ?_
    cases w <;> first | exact h | rfl

/-- Writes that record no request keep the session, any other list
decides it. -/
theorem foldl_write_session_cases : ((∀ gen edge, .recordSession gen edge ∉ wrs) ∧
        ∀ echo : GenerationEcho, (wrs.foldl GenerationEcho.write echo).session = echo.session) ∨
      (∃ gen edge, .recordSession gen edge ∈ wrs) ∧ ∃ recorded, ∀ echo : GenerationEcho,
          (wrs.foldl GenerationEcho.write echo).session = recorded := by
  induction wrs with
  | nil => exact .inl ⟨by simp, fun _ => rfl⟩
  | cons w _ ih =>
    rcases ih with ⟨hn, ih⟩ | ⟨⟨gen, edge, hmem⟩, recorded, ih⟩
    · cases w with
      | recordSession gen edge =>
        exact .inr ⟨⟨gen, edge, mem_cons_self⟩, (gen, edge), fun echo => ih _⟩
      | recordDiscovery _ | holdGroup _ | holdVolume _ | holdListening _ =>
        exact .inl ⟨by simpa using hn, fun echo => ih _⟩
    · exact .inr ⟨⟨gen, edge, mem_cons_of_mem _ hmem⟩, recorded, fun echo => ih _⟩

end

/-- An unlocked slot is not written to. -/
theorem due_group_of_open {s : Runtime} (h : s.groupLocked = false) (echo : GenerationEcho) :
    (s.writes.foldl GenerationEcho.write echo).group = echo.group := by
  unfold groupLocked at h
  generalize s.writes = writes at h
  induction writes generalizing echo with
  | nil => rfl
  | cons w _ ih =>
    simp only [any_cons, Bool.or_eq_false_iff] at h
    refine (ih _ h.2).trans ?_
    cases w with
    | holdGroup => exact absurd h.1 (by simp)
    | recordDiscovery _ | recordSession _ _ | holdVolume _ | holdListening _ => rfl

theorem due_listening_of_open {s : Runtime} (h : s.listeningLocked = false)
    (echo : GenerationEcho) :
    (s.writes.foldl GenerationEcho.write echo).listeningPending = echo.listeningPending := by
  unfold listeningLocked at h
  generalize s.writes = writes at h
  induction writes generalizing echo with
  | nil => rfl
  | cons w _ ih =>
    simp only [any_cons, Bool.or_eq_false_iff] at h
    refine (ih _ h.2).trans ?_
    cases w with
    | holdListening => exact absurd h.1 (by simp)
    | recordDiscovery _ | recordSession _ _ | holdVolume _ | holdGroup _ => rfl

/-! ## What the bridge makes of the echo -/

theorem observeListeningTarget_listening (echo : GenerationEcho) (snap : DeviceSnapshot)
    (evs : List ControllerEvent) :
    (echo.observeListeningTarget snap evs).listeningPending = echo.listeningPending := by
  unfold GenerationEcho.observeListeningTarget
  split
  · rfl
  · split <;> rfl

theorem volumeEvents_result (echo : GenerationEcho) (chans : ReceiptId → Oneshot)
    (snap : DeviceSnapshot) (closed : Bool) :
    (∃ volume, (echo.volumeEvents chans snap closed).1 = { echo with volume }) ∧
      ∀ ev ∈ (echo.volumeEvents chans snap closed).2, isNeutral (.controller ev) = true := by
  unfold GenerationEcho.volumeEvents
  split
  · exact ⟨⟨_, rfl⟩, by simp⟩
  · simp only
    split
    · exact ⟨⟨_, rfl⟩, by simp⟩
    · refine ⟨⟨none, rfl⟩, ?_⟩
      intro ev hmem
      rw [mem_singleton.mp hmem]
      rfl

/-- A look at the tone's receipt fails the generation it was played
for. -/
theorem listeningEvents_result (echo : GenerationEcho) (chans : ReceiptId → Oneshot)
    (snap : DeviceSnapshot) (closed : Bool) :
    (∃ listeningPending, (echo.listeningEvents chans snap closed).1
        = { echo with listeningPending } ∧
      ∀ pend, listeningPending = some pend → ∃ old, echo.listeningPending = some old ∧
        old.generation = pend.generation) ∧
      ∀ ev ∈ (echo.listeningEvents chans snap closed).2, ∃ old, echo.listeningPending = some old ∧
          ev = .sessionFailed old.generation LISTENING_TONE_FAILED_SUMMARY := by
  unfold GenerationEcho.listeningEvents
  split
  · rename_i hn
    exact ⟨⟨none, by rw [← hn], by simp⟩, by simp⟩
  · rename_i req hr
    simp only
    split
    · refine ⟨⟨_, rfl, ?_⟩, by simp⟩
      intro pend hp
      obtain rfl := Option.some.inj hp
      exact ⟨req, hr, rfl⟩
    · refine ⟨⟨none, rfl, by simp⟩, ?_⟩
      intro ev hmem
      split at hmem
      · exact ⟨req, hr, mem_singleton.mp hmem⟩
      · simp at hmem

/-- The end of a group operation, or of the controller. -/
@[simp] def isConclusive : ControllerEvent → Bool
  | .groupOperationFinished .. | .channelClosed _ => true
  | _ => false

/-- No snapshot says one of them. -/
def Finishless (events : List ControllerEvent) : Prop :=
  ∀ event ∈ events, isConclusive event = false

theorem finishless_append {a b : List ControllerEvent} (ha : Finishless a)
    (hb : Finishless b) : Finishless (a ++ b) := fun event hmem =>
  (mem_append.mp hmem).elim (ha event) (hb event)

theorem finishless_ite {α : Type} {a b : α} {evs : List ControllerEvent} {c : Prop}
    [Decidable c] (h : Finishless evs) :
    Finishless (if c then (a, []) else (b, evs)).2 := by
  split
  · simp [Finishless]
  · exact h

theorem project_finishless (p : Projection) (snap : DeviceSnapshot)
    (seen : GenerationsSeen) : Finishless (p.project snap seen).2 := by
  have hd : ∀ p : Projection, Finishless (p.projectDiscovery snap seen).2 := by
    intro p
    unfold Projection.projectDiscovery
    split
    · simp [Finishless]
    · rename_i echo _
      refine finishless_ite ?_
      cases echo <;> simp [Finishless, DiscoveryEcho.event]
  have hs : ∀ p : Projection, Finishless (p.projectSession snap seen).2 := by
    intro p
    unfold Projection.projectSession
    split
    · simp [Finishless]
    · rename_i echo _
      split
      · cases echo <;> simp [Finishless, SessionEcho.event]
      · simp [Finishless]
  have ha : ∀ p : Projection, Finishless (p.projectAudio snap).2 := by
    intro p
    unfold Projection.projectAudio
    simp only
    split <;> simp [Finishless]
  refine finishless_append (finishless_append (finishless_append (finishless_append
    (finishless_append (finishless_append (finishless_append (finishless_append ?_ ?_) ?_)
      (hd _)) (hs _)) ?_) ?_) ?_) (ha _)
  all_goals exact finishless_ite (by simp [Finishless])

/-! ## The group slot -/

/-- The events on their way to the shell, in the order it will take
them. -/
def inFlight : List AppEvent := s.queue ++ s.outbox.map .controller

/-- An event that ends a group operation is on its way. -/
def Finishing (request : Nat) (status : GroupOperationStatus) : Prop :=
  .controller (.groupOperationFinished request status) ∈ s.inFlight

/-- The shell waits for the operation, or for nothing any more. -/
structure Pends (s : Runtime) (request : Nat) : Prop where
  known : request ≤ s.shell.nextGroupRequest
  waits : s.shell.controllerClosed = true ∨
    (∃ operation, s.shell.groupOperation = some operation ∧ operation.request = request ∧
      operation.status = .pending) ∧ ∀ status, ¬ s.Finishing request status

theorem Pends.frame {s s' : Runtime} {req : Nat} (h : s.Pends req)
    (hg : s'.shell.groups = s.shell.groups)
    (hf : ∀ stat, s'.Finishing req stat → s.Finishing req stat) :
    s'.Pends req where
  known := h.known.trans (congrArg nextRequest hg).ge
  waits := by
    have hc : s'.shell.controllerClosed = s.shell.controllerClosed := congrArg closed hg
    have hop : s'.shell.groupOperation = s.shell.groupOperation := congrArg operation hg
    rw [hc, hop]
    refine h.waits.imp_right (And.imp_right ?_)
    exact fun hn stat hi => hn stat (hf stat hi)

/-- One operation at a time: the group effect stands first among the
effects and finds the slot free, and the shell waits for what the slot
holds. -/
structure Slot (s : Runtime) : Prop where
  single : Groupless s.effects.tail
  asked : ∀ request generation command rest, s.effects = .group request generation command :: rest →
      s.due.group = none ∧ (generation.isSome = true → command.isStart = true) ∧ s.Pends request
  held : ∀ pending, s.due.group = some pending → s.Pends pending.request
  finished : ∀ request status, s.Finishing request status → request ≤ s.shell.nextGroupRequest

theorem groupless_head {req : Nat} {gen : Option GenerationId}
    {cmd : GroupCommand} {rest : List AppEffect}
    (h : Groupless (.group req gen cmd :: rest)) : False := by
  simp [Groupless, AppEffect.isGroup] at h

theorem groupless_tail {effs : List AppEffect} (h : Groupless effs) : Groupless effs.tail := by
  cases effs with
  | nil => exact h
  | cons =>
    simp only [Groupless, all_cons, Bool.and_eq_true] at h
    exact h.2

namespace Slot

variable {s s' : Runtime}

theorem frame (h : s.Slot) (hs : s'.shell = s.shell) (he : s'.effects = s.effects)
    (hg : ∀ pend, s'.due.group = some pend →
      ∃ old, s.due.group = some old ∧ old.request = pend.request)
    (hf : ∀ req stat, s'.Finishing req stat → s.Finishing req stat) :
    s'.Slot := by
  have hpn : ∀ req, s.Pends req → s'.Pends req := fun req hp => hp.frame (by rw [hs]) (hf req)
  constructor
  · rw [he]
    exact h.single
  · rw [he]
    intro req gen cmd rest heq
    obtain ⟨hr, ht, hp⟩ := h.asked req gen cmd rest heq
    refine ⟨Option.eq_none_iff_forall_ne_some.mpr ?_, ht, hpn req hp⟩
    intro pend hn
    obtain ⟨old, hold, -⟩ := hg pend hn
    rw [hr] at hold
    cases hold
  · intro pend hn
    obtain ⟨old, hold, hq⟩ := hg pend hn
    exact hq ▸ hpn _ (h.held old hold)
  · rw [hs]
    exact fun req stat hi => h.finished req stat (hf req stat hi)

/-- Nothing that ends an operation joins the line. -/
theorem finishing_of_joined (fed : List AppEvent) (produced : List ControllerEvent)
    {req : Nat} {stat : GroupOperationStatus}
    (hq : s'.queue = s.queue ++ fed) (ho : s'.outbox = s.outbox ++ produced)
    (hf : ∀ ev ∈ fed, ev ≠ .controller (.groupOperationFinished req stat))
    (hp : .groupOperationFinished req stat ∉ produced)
    (h : s'.Finishing req stat) : s.Finishing req stat := by
  simp only [Finishing, inFlight, hq, ho, map_append, mem_append, mem_map] at h ⊢
  rcases h with (h | h) | (h | ⟨_, hmem, heq⟩)
  · exact .inl h
  · exact absurd rfl (hf _ h)
  · exact .inr h
  · rw [AppEvent.controller.injEq] at heq
    exact absurd (heq ▸ hmem) hp

variable {ev : AppEvent}

theorem ne_finished_of_neutral (h : isNeutral ev = true) (req : Nat) (stat : GroupOperationStatus) :
    ev ≠ .controller (.groupOperationFinished req stat) := by
  rintro rfl
  simp [isNeutral] at h

theorem unasked (h : s.Slot) (hf : Groupless s'.effects) (hg : s'.due.group = s.due.group)
    (hn : s.shell.nextGroupRequest ≤ s'.shell.nextGroupRequest)
    (hfn : ∀ req stat, s'.Finishing req stat → s.Finishing req stat)
    (hw : ∀ pend, s.due.group = some pend → s.Pends pend.request →
      s'.Pends pend.request) : s'.Slot := by
  constructor
  · exact groupless_tail hf
  · intro req gen cmd rest heq
    exact (groupless_head (heq ▸ hf)).elim
  · intro pend hh
    rw [hg] at hh
    exact hw pend hh (h.held pend hh)
  · intro req stat hi
    exact (h.finished req stat (hfn req stat hi)).trans hn

theorem turned [Lowercase] (h : s.Slot) {rest : List AppEvent} (hq : s.queue = ev :: rest) :
    Slot (s.afterTurn ev rest) := by
  set s' : Runtime := s.afterTurn ev rest with hs'
  have hd : s'.due = s.due := rfl
  have hfn : ∀ req stat, s'.Finishing req stat → s.Finishing req stat := by
    intro req stat hi
    simp only [Finishing, inFlight, hq, cons_append]
    exact mem_cons_of_mem _ hi
  have hm := reduce_groupMove s.shell ev
  change GroupMove s.shell ev s'.shell s'.effects at hm
  cases hm with
  | kept hg hf =>
    refine h.unasked hf rfl (congrArg nextRequest hg).ge hfn ?_
    exact fun pend _ hp => hp.frame hg (hfn _)
  | asked gen cmd others hr ho hge _ hg hf hrs =>
    -- the slot holds nothing, for the shell waits for nothing
    have hnn : s.due.group = none := by
      cases hh : s.due.group with
      | none => rfl
      | some pend =>
        rcases (h.held pend hh).waits with hc | ⟨⟨op, hop, -, hs⟩, -⟩
        · simp [ho] at hc
        · simp [HardwareCheck.groupPending, hop, hs] at hr
    have hn : s'.shell.nextGroupRequest = s.shell.nextGroupRequest + 1 := congrArg nextRequest hg
    have hor := congrArg operation hg
    have hpn : s'.Pends (s.shell.nextGroupRequest + 1) := by
      refine ⟨hn.ge, .inr ⟨⟨_, hor, rfl, rfl⟩, ?_⟩⟩
      intro stat hi
      have := h.finished _ stat (hfn _ stat hi)
      omega
    constructor
    · rw [hf]
      exact hrs
    · intro req generation' command' rest' heq
      rw [hf] at heq
      obtain ⟨⟨rfl, rfl, rfl⟩, rfl⟩ : ((s.shell.nextGroupRequest + 1 = req) ∧
          gen = generation' ∧ cmd = command') ∧ others = rest' := by simpa using heq
      exact ⟨hd ▸ hnn, hge, hpn⟩
    · intro pend hh
      rw [hd, hnn] at hh
      cases hh
    · intro req stat hi
      have := h.finished req stat (hfn req stat hi)
      omega
  | finished _ stat oper hv he hg hf =>
    have hn := (congrArg nextRequest hg).ge
    refine h.unasked hf rfl hn hfn ?_
    intro pend hh hp
    refine ⟨hp.known.trans hn, .inl ?_⟩
    rcases hp.waits with hsh | ⟨⟨op, hop, hre, -⟩, hnn⟩
    · exact (congrArg closed hg).trans hsh
    · -- the event would have been on its way while the slot was held
      obtain rfl : oper = op := Option.some.inj (he.1.symm.trans hop)
      refine absurd ?_ (hnn stat)
      rw [← hre, he.2.1, Finishing, inFlight, hq, ← hv]
      exact mem_cons_self
  | discarded hr hg hf =>
    have hn := (congrArg nextRequest hg).ge
    refine h.unasked hf rfl hn hfn ?_
    intro pend hh hp
    refine ⟨hp.known.trans hn, .inl ?_⟩
    rcases hp.waits with hsh | ⟨⟨op, hop, -, hs⟩, -⟩
    · exact (congrArg closed hg).trans hsh
    · simp [HardwareCheck.groupPending, hop, hs] at hr
  | shut hc _ hn hf =>
    refine h.unasked hf rfl hn hfn ?_
    exact fun pend _ hp => ⟨hp.known.trans hn, .inl hc⟩

theorem executed (h : s.Slot) {rest : List AppEffect}
    {sent : List CommandEnvelope} {wrs : List EchoWrite} {fed : List AppEvent}
    (hw : s.writes = []) (heff : s.effects = effect :: rest)
    (hpr : PortMove s.echo s.nextId effect sent wrs)
    (hfe : ∀ ev ∈ fed, Feedback effect ev) :
    Slot (s.afterEffect rest sent wrs fed) := by
  set s' : Runtime := s.afterEffect rest sent wrs fed with hs'
  have hd : s.due = s.echo := due_of_no_writes hw
  have hf : ∀ req stat, s'.Finishing req stat → s.Finishing req stat := by
    intro req stat
    refine finishing_of_joined fed [] rfl (by simp [hs']) ?_ (by simp)
    intro ev hmem
    cases hfe ev hmem with
    | tone _ _ _ hv => simp [hv]
    | neutral hn => exact ne_finished_of_neutral hn req stat
  have hr : Groupless rest := by
    have := h.single
    rwa [heff] at this
  have hk : s'.due.group = s.due.group → s'.Slot := fun hg =>
    h.unasked hr hg le_rfl hf fun pend _ hp => hp.frame rfl (hf _)
  cases hpr with
  | aside _ _ _ _ haside => exact hk ((writes_aside haside s.echo).2.trans (by rw [hd]))
  | session => exact hk (by rw [hd]; rfl)
  | busy => exact hk (by rw [hd]; rfl)
  | group pend cmd he =>
    have hh : s'.due.group = some pend := by
      simp only [due, hs']
      cases pend.generation <;> rfl
    constructor
    · exact groupless_tail hr
    · intro req gen cmd rest heq
      have hhd : Groupless s'.effects := hr
      exact (groupless_head (heq ▸ hhd)).elim
    · intro other ho
      obtain rfl : pend = other := Option.some.inj (hh.symm.trans ho)
      rw [he] at heff
      exact (h.asked _ _ _ _ heff).2.2.frame rfl (hf _)
    · exact fun req stat hi => h.finished req stat (hf req stat hi)

theorem grouped (h : s.Slot) {snap : DeviceSnapshot} (hop : s.groupLocked = false) :
    Slot (s.afterGroup snap) := by
  unfold afterGroup
  have hl := groupEvents_look s.echo s.actor.channels snap false
  generalize s.echo.groupEvents s.actor.channels snap false = result at hl
  have hd : ∀ echo : GenerationEcho,
      (s.writes.foldl GenerationEcho.write echo).group = echo.group := due_group_of_open hop
  cases hl with
  | free =>
    refine h.frame rfl rfl (fun pend hp => ⟨pend, hp, rfl⟩) ?_
    intro req stat
    exact finishing_of_joined [] [] (by simp) rfl (by simp) (by simp)
  | waits pend _ _ hg =>
    refine h.frame rfl rfl ?_ fun req stat => ?_
    · intro other ho
      rw [due, hd] at ho
      obtain rfl := Option.some.inj ho
      exact ⟨pend, (hd s.echo).trans hg, rfl⟩
    · exact finishing_of_joined [] [] (by simp) rfl (by simp) (by simp)
  | ends pend _ _ hg =>
    have hh : s.due.group = some pend := (hd s.echo).trans hg
    have hk := (h.held pend hh).known
    constructor
    · exact h.single
    · intro req gen cmd rest heq
      have hr := (h.asked req gen cmd rest heq).1
      rw [hh] at hr
      cases hr
    · intro other ho
      rw [due, hd] at ho
      cases ho
    · intro req status' hf
      simp only [Finishing, inFlight, GenerationEcho.resolveGroup, map_append,
        mem_append, map_cons, map_nil, mem_singleton,
        AppEvent.controller.injEq, ControllerEvent.groupOperationFinished.injEq] at hf
      rcases hf with hf | hf | hf
      · exact h.finished req status' (mem_append_left _ hf)
      · exact h.finished req status' (mem_append_right _ hf)
      · rw [hf.1]
        exact hk

/-- No move starts a second group operation. -/
theorem step [Lowercase] (h : s.Slot) {move : Move} (ht : Stepped s move s') : s'.Slot := by
  have hs : ∀ {t : Runtime}, t.due.group = s.due.group → ∀ pend,
      t.due.group = some pend → ∃ old, s.due.group = some old ∧
        old.request = pend.request := fun heq pend hp => ⟨pend, heq ▸ hp, rfl⟩
  cases ht with
  | same => exact h
  | raised ev hn =>
    refine h.frame rfl rfl (hs rfl) ?_
    intro req stat
    refine finishing_of_joined [ev] [] rfl (by simp) ?_ (by simp)
    simpa using ne_finished_of_neutral hn req stat
  | turned _ _ _ _ hq => exact h.turned hq
  | executed _ _ _ _ _ _ _ hw hef hr hd => exact h.executed hw hef hr hd
  | wrote _ _ hw =>
    refine h.frame rfl rfl (hs ?_) fun req stat hf => hf
    simp only [due, hw, foldl_cons]
  | looked => exact h.frame rfl rfl (hs rfl) fun req stat hf => hf
  | projected =>
    refine h.frame rfl rfl (hs rfl) ?_
    intro req stat
    exact finishing_of_joined [] _ (by simp) rfl (by simp)
      (fun hmem => by cases project_finishless _ _ _ _ hmem)
  | targeted =>
    refine h.frame rfl rfl (hs ?_) fun req stat hf => hf
    exact foldl_write_group _ (observeListeningTarget_session _ _ _).2
  | grouped _ _ hop => exact h.grouped hop
  | volumed snap =>
    obtain ⟨⟨_, he⟩, hv⟩ := volumeEvents_result s.echo s.actor.channels snap false
    refine h.frame rfl rfl (hs (foldl_write_group _ (by rw [he]))) ?_
    intro req stat
    refine finishing_of_joined [] _ (by simp) rfl (by simp) ?_
    exact fun hmem => ne_finished_of_neutral (hv _ hmem) req stat rfl
  | listened snap =>
    obtain ⟨⟨_, he, -⟩, hv⟩ := listeningEvents_result s.echo s.actor.channels snap false
    refine h.frame rfl rfl (hs (foldl_write_group _ (by rw [he]))) ?_
    intro req stat
    refine finishing_of_joined [] _ (by simp) rfl (by simp) ?_
    intro hmem
    obtain ⟨_, -, heq⟩ := hv _ hmem
    cases heq
  | flushed _ _ ho =>
    refine h.frame rfl rfl (hs rfl) ?_
    intro req stat hf
    simpa [Finishing, inFlight, ho] using hf
  | appended _ ev hn =>
    refine h.frame rfl rfl (hs rfl) ?_
    intro req stat
    refine finishing_of_joined [] [ev] (by simp) rfl (by simp) ?_
    intro hmem
    rw [mem_singleton] at hmem
    exact ne_finished_of_neutral hn req stat (by rw [hmem])
  | worked => exact h.frame rfl rfl (hs rfl) fun req stat hf => hf

end Slot

/-! ## The order of generations -/

/-- Generations are recorded one after the other as they are given out,
and answered no sooner. -/
structure Ordered [Lowercase] (s : Runtime) : Prop where
  reachable : Reachable s.shell
  allocated : Allocates s.due.session.1 s.shell.generations.session (sessionGenerations s.effects)
  recorded : ∀ generation edge, .recordSession generation edge ∈ s.writes →
    s.due.session = (generation, edge)
  /-- The slot is filled under the lock its group start was recorded in. -/
  locked : ∀ before generation after,
    s.writes = before ++ .recordSession generation .pendingGroupStart :: after →
      ∃ pending, .holdGroup pending ∈ after
  behind : s.echo.session.1 ≤ s.due.session.1
  answered : ∀ generation echo, s.projection.session = some (generation, echo) →
    generation ≤ s.echo.session.1
  untouched : s.due.session.2 = .untouched → s.due.session.1 = 0

/-- What a look at the group slot does to the newest recorded request:
nothing, or it settles the edge of the group start that it is. -/
inductive Settling (s : Runtime) (snapshot : DeviceSnapshot) (echo : GenerationEcho)
    (settled : GenerationId × SessionEdge) : Prop
  | kept (h : settled = s.due.session)
      (hs : ∀ pending, s.echo.group = some pending → echo.group = none →
        pending.generation = some s.due.session.1 →
        ∃ generation edge, .recordSession generation edge ∈ s.writes)
  | settled (pending : GroupPending) (status : GroupOperationStatus)
      (receipt : Option CommandReceipt) (hg : s.echo.group = some pending)
      (he : GroupEnd s.actor.channels snapshot false pending status receipt)
      (hn : pending.generation = some s.due.session.1)
      (hf : echo.group = none)
      (h : settled = (s.due.session.1, GenerationEcho.groupEdge status receipt snapshot.revision))

theorem groupEvents_generation (echo : GenerationEcho) (chans : ReceiptId → Oneshot)
    (snap : DeviceSnapshot) :
    (echo.groupEvents chans snap false).1.session.1 = echo.session.1 := by
  have hl := groupEvents_look echo chans snap false
  generalize echo.groupEvents chans snap false = result at hl ⊢
  cases hl with
  | free => rfl
  | waits => rfl
  | ends => rw [resolveGroup_session]

theorem grouped_settling (snap : DeviceSnapshot) :
    Settling s snap (s.echo.groupEvents s.actor.channels snap false).1
      (s.writes.foldl GenerationEcho.write
        (s.echo.groupEvents s.actor.channels snap false).1).session := by
  have hl := groupEvents_look s.echo s.actor.channels snap false
  generalize s.echo.groupEvents s.actor.channels snap false = result at hl
  rcases foldl_write_session_cases s.writes with ⟨-, hk⟩ | ⟨hs, recorded, hr⟩
  · have hd : s.due.session = s.echo.session := hk s.echo
    rw [hk]
    cases hl with
    | free hg => exact .kept hd.symm (by simp [hg])
    | waits => exact .kept hd.symm (by simp)
    | ends pend stat rcpt hg he =>
      rw [resolveGroup_session]
      split
      · rename_i hn
        exact .settled pend stat rcpt hg he (hd ▸ hn) rfl (by rw [hd])
      · rename_i hn
        refine .kept hd.symm ?_
        intro other ho _ ha
        obtain rfl : pend = other := Option.some.inj (hg.symm.trans ho)
        exact absurd (hd ▸ ha) hn
  · exact .kept ((hr _).trans (hr s.echo).symm) fun _ _ _ _ => hs

theorem groupEdge_ne_untouched (stat : GroupOperationStatus)
    (rcpt : Option CommandReceipt) (rev : Nat) :
    GenerationEcho.groupEdge stat rcpt rev ≠ .untouched
      ∧ GenerationEcho.groupEdge stat rcpt rev ≠ .stop
      ∧ GenerationEcho.groupEdge stat rcpt rev ≠ .start := by
  unfold GenerationEcho.groupEdge
  split
  · simp
  · split <;> simp

theorem allocates_head {pre after g : Nat} {rest : List Nat}
    (h : Allocates pre after (g :: rest)) : pre < g ∧ Allocates g after rest := by
  have hlt : pre < after := by
    by_contra hle
    have heq := h.eq
    rw [Nat.sub_eq_zero_of_le (Nat.not_lt.mp hle)] at heq
    simp at heq
  have heq := h.eq
  have hs : after - pre = (after - (pre + 1)) + 1 := by omega
  rw [hs, range'_succ, List.cons.injEq] at heq
  obtain ⟨rfl, hr⟩ := heq
  exact ⟨Nat.lt_succ_self pre, ⟨hlt, hr⟩⟩

theorem allocates_nil {pre after : Nat} (h : Allocates pre after []) : pre = after := by
  have hz := congrArg List.length h.eq
  simp only [length_nil, length_range'] at hz
  exact le_antisymm h.le (Nat.sub_eq_zero_iff_le.mp hz.symm)

/-- What the writes of an effect record. -/
inductive Recorded (echo : GenerationEcho) (effect : AppEffect) (writes : List EchoWrite) : Prop
  | none (hg : effect.sessionGeneration = none)
      (hn : ∀ generation edge, .recordSession generation edge ∉ writes)
      (hs : (writes.foldl GenerationEcho.write echo).session = echo.session)
  | one (generation : GenerationId) (edge : SessionEdge)
      (hg : effect.sessionGeneration = some generation)
      (ho : ∀ generation' edge', .recordSession generation' edge' ∈ writes →
        (generation', edge') = (generation, edge))
      (hs : (writes.foldl GenerationEcho.write echo).session = (generation, edge))
      (he : edge ≠ .untouched)

variable {sent : List CommandEnvelope} {next : Nat}

/-- An effect records the generation it carries, a group effect as long
as it finds the slot free. -/
theorem recorded_of_portMove {wrs : List EchoWrite} (hp : PortMove echo next effect sent wrs)
    (hf : effect.isGroup = true → echo.group = none) : Recorded echo effect wrs := by
  cases hp with
  | aside hg _ _ _ haside =>
    refine .none hg ?_ (writes_aside haside echo).1
    intro gen edge hmem
    simpa [isAside] using haside _ hmem
  | session gen edge hg _ hr =>
    refine .one gen edge hg (by simp) rfl ?_
    cases hr <;> simp
  | group pend _ he _ hr =>
    obtain ⟨_, gen, admission⟩ := pend
    subst he
    cases gen with
    | none => exact .none rfl (by simp) rfl
    | some gen =>
      refine .one gen (admissionEdge admission) rfl (by simp) rfl ?_
      cases hr <;> simp [admissionEdge]
  | busy hgr hs => exact absurd (hf hgr) hs

theorem locked_of_portMove {wrs : List EchoWrite}
    (hp : PortMove echo next effect sent wrs) (pre : List EchoWrite)
    (gen : GenerationId) (after : List EchoWrite)
    (h : wrs = pre ++ .recordSession gen .pendingGroupStart :: after) :
    ∃ pend, .holdGroup pend ∈ after := by
  cases hp with
  | aside _ _ _ _ haside =>
    have := haside (.recordSession gen .pendingGroupStart) (by rw [h]; simp)
    simp [isAside] at this
  | session g edge _ _ hr =>
    have hmem : .recordSession gen .pendingGroupStart ∈ [recordSession g edge] := by rw [h]; simp
    obtain ⟨-, rfl⟩ : gen = g ∧ .pendingGroupStart = edge := by simpa using hmem
    cases hr
  | group pend =>
    -- the record is the first of the two writes
    refine ⟨pend, ?_⟩
    obtain ⟨req, generation', admission⟩ := pend
    cases generation' with
    | none =>
      have hmem : recordSession gen .pendingGroupStart
          ∈ pre ++ .recordSession gen .pendingGroupStart :: after := by simp
      rw [← h] at hmem
      simp at hmem
    | some g =>
      cases pre with
      | nil =>
        obtain ⟨-, rfl⟩ := List.cons.inj h
        exact mem_singleton.mpr rfl
      | cons _ pre =>
        have hmem : recordSession gen .pendingGroupStart
            ∈ pre ++ .recordSession gen .pendingGroupStart :: after := by simp
        have hs : [holdGroup ⟨req, some g, admission⟩]
            = pre ++ .recordSession gen .pendingGroupStart :: after :=
          (List.cons.inj h).2
        rw [← hs] at hmem
        simp at hmem
  | busy => simp at h

theorem Slot.free_of_group {s : Runtime} (h : s.Slot)
    {rest : List AppEffect} (hw : s.writes = []) (he : s.effects = effect :: rest)
    (hg : effect.isGroup = true) : s.echo.group = none := by
  cases effect with
  | group req gen cmd =>
    rw [← due_of_no_writes hw]
    exact (h.asked req gen cmd rest he).1
  | _ => simp [AppEffect.isGroup] at hg

namespace Ordered

variable [Lowercase] {s s' : Runtime}

section

variable (h : s.Ordered)
include h

theorem frame (hs : s'.shell = s.shell) (hf : s'.effects = s.effects)
    (hw : s'.writes = s.writes) (he : s'.echo.session = s.echo.session)
    (hd : s'.due.session = s.due.session)
    (hp : ∀ gen echo, s'.projection.session = some (gen, echo) →
      s.projection.session = some (gen, echo) ∨ gen = s.echo.session.1) :
    s'.Ordered where
  reachable := hs ▸ h.reachable
  allocated := by
    rw [hd, hs, hf]
    exact h.allocated
  recorded := by
    rw [hw, hd]
    exact h.recorded
  locked := by
    rw [hw]
    exact h.locked
  behind := by
    rw [he, hd]
    exact h.behind
  answered := by
    intro gen echo hse
    rw [he]
    rcases hp gen echo hse with hold | rfl
    · exact h.answered gen echo hold
    · exact le_rfl
  untouched := by
    rw [hd]
    exact h.untouched

theorem turned {ev : AppEvent} {rest : List AppEvent} (he : s.effects = []) :
    Ordered (s.afterTurn ev rest) := by
  have hn := allocates_nil (he ▸ h.allocated)
  refine ⟨h.reachable.step ev, ?_, h.recorded, h.locked, h.behind, h.answered, h.untouched⟩
  show Allocates s.due.session.1 _ _
  rw [hn]
  exact reduce_allocates h.reachable ev

theorem executed (hl : s.Slot) {rest : List AppEffect} {wrs : List EchoWrite} {fed : List AppEvent}
    (hw : s.writes = []) (hef : s.effects = effect :: rest)
    (hp : PortMove s.echo s.nextId effect sent wrs) :
    Ordered (s.afterEffect rest sent wrs fed) := by
  have hd : s.due = s.echo := due_of_no_writes hw
  have ha := h.allocated
  rw [hef, hd, sessionGenerations, filterMap_cons] at ha
  have hu := h.untouched
  rw [hd] at hu
  set echo := wrs.foldl GenerationEcho.write s.echo with hc
  have hf : Allocates echo.session.1 s.shell.generations.session (sessionGenerations rest) ∧
      s.echo.session.1 ≤ echo.session.1 ∧
      (echo.session.2 = .untouched → echo.session.1 = 0) ∧
      ∀ gen edge, .recordSession gen edge ∈ wrs → echo.session = (gen, edge) := by
    cases recorded_of_portMove hp (hl.free_of_group hw hef) with
    | none hg hn hs =>
      rw [hg] at ha
      rw [hs]
      exact ⟨ha, le_rfl, hu, fun gen edge hmem => absurd hmem (hn gen edge)⟩
    | one _ _ hg ho hs he =>
      rw [hg] at ha
      obtain ⟨hlt, hr⟩ := allocates_head ha
      rw [hs]
      refine ⟨hr, hlt.le, fun heq => absurd heq he, ?_⟩
      exact fun generation' edge' hmem => (ho generation' edge' hmem).symm
  exact ⟨h.reachable, hf.1, hf.2.2.2, locked_of_portMove hp, hf.2.1, h.answered, hf.2.2.1⟩

theorem wrote {write : EchoWrite} {rest : List EchoWrite} (hr : s.writes = write :: rest) :
    Ordered { s with echo := s.echo.write write, writes := rest } := by
  have hd : (rest.foldl GenerationEcho.write (s.echo.write write)) = s.due := by
    rw [due, hr, foldl_cons]
  have hmem : ∀ w ∈ rest, w ∈ s.writes := fun w hw => hr ▸ mem_cons_of_mem _ hw
  have hb : s.echo.session.1 ≤ (s.echo.write write).session.1 ∧
      (s.echo.write write).session.1 ≤ s.due.session.1 := by
    cases write with
    | recordSession gen edge =>
      have hc := h.recorded gen edge (hr ▸ mem_cons_self)
      have hh := h.behind
      rw [hc] at hh ⊢
      exact ⟨hh, le_rfl⟩
    | recordDiscovery _ | holdGroup _ | holdVolume _ | holdListening _ => exact ⟨le_rfl, h.behind⟩
  refine ⟨h.reachable, ?_, ?_, ?_, ?_, ?_, ?_⟩
  · show Allocates (rest.foldl GenerationEcho.write (s.echo.write write)).session.1 _ _
    rw [hd]
    exact h.allocated
  · show ∀ gen edge, _ → (rest.foldl _ (s.echo.write write)).session = _
    rw [hd]
    exact fun gen edge hin => h.recorded gen edge (hmem _ hin)
  · intro pre gen after heq
    change rest = _ at heq
    exact h.locked (write :: pre) gen after (by rw [hr, heq, cons_append])
  · show _ ≤ (rest.foldl GenerationEcho.write (s.echo.write write)).session.1
    rw [hd]
    exact hb.2
  · exact fun gen echo hs => (h.answered gen echo hs).trans hb.1
  · show (rest.foldl GenerationEcho.write (s.echo.write write)).session.2 = _ →
      (rest.foldl GenerationEcho.write (s.echo.write write)).session.1 = 0
    rw [hd]
    exact h.untouched

theorem grouped (snap : DeviceSnapshot) : Ordered (s.afterGroup snap) := by
  have hg := groupEvents_generation s.echo s.actor.channels snap
  have hs := grouped_settling s snap
  have hc := foldl_write_session_cases s.writes
  set echo := (s.echo.groupEvents s.actor.channels snap false).1 with hec
  have hf : (s.writes.foldl GenerationEcho.write echo).session.1 = s.due.session.1 := by
    cases hs with
    | kept heq => rw [heq]
    | settled _ _ _ _ _ _ _ heq => rw [heq]
  refine ⟨h.reachable, ?_, ?_, h.locked, ?_, ?_, ?_⟩
  · show Allocates (s.writes.foldl GenerationEcho.write echo).session.1 _ _
    rw [hf]
    exact h.allocated
  · intro gen edge hmem
    rcases hc with ⟨hn, -⟩ | ⟨-, recorded, hr⟩
    · exact absurd hmem (hn gen edge)
    · exact (hr echo).trans ((hr s.echo).symm.trans (h.recorded gen edge hmem))
  · show echo.session.1 ≤ (s.writes.foldl GenerationEcho.write echo).session.1
    rw [hf, hg]
    exact h.behind
  · intro gen ans he
    rw [hg]
    exact h.answered gen ans he
  · show (s.writes.foldl GenerationEcho.write echo).session.2 = _ →
      (s.writes.foldl GenerationEcho.write echo).session.1 = 0
    cases hs with
    | kept heq =>
      rw [heq]
      exact h.untouched
    | settled _ stat rcpt _ _ _ _ heq =>
      rw [heq]
      exact fun hu => absurd hu (groupEdge_ne_untouched stat rcpt snap.revision).1

end

/-- Every move keeps the generations in order. -/
theorem step (h : s.Ordered) (hl : s.Slot) {move : Move} (ht : Stepped s move s') : s'.Ordered := by
  cases ht with
  | same => exact h
  | raised => exact h.frame rfl rfl rfl rfl rfl fun _ _ => .inl
  | turned _ _ hf => exact h.turned hf
  | executed _ _ _ _ _ _ _ hw hf hp => exact h.executed hl hw hf hp
  | wrote _ _ hw => exact h.wrote hw
  | looked => exact h.frame rfl rfl rfl rfl rfl fun _ _ => .inl
  | projected snap =>
    refine h.frame rfl rfl rfl rfl rfl ?_
    intro gen echo hs
    cases Projection.project_session s.projection snap s.echo.sample with
    | published _ _ _ hb =>
      rw [hb, Option.some.injEq, Prod.mk.injEq] at hs
      exact .inr hs.1.symm
    | withheld _ hk => exact .inl (hk ▸ hs)
  | targeted snap produced =>
    have he := (observeListeningTarget_session s.echo snap produced).1
    exact h.frame rfl rfl rfl he (foldl_write_session _ he) fun _ _ => .inl
  | grouped snap => exact h.grouped snap
  | volumed snap =>
    obtain ⟨⟨_, he⟩, -⟩ := volumeEvents_result s.echo s.actor.channels snap false
    have hs := congrArg GenerationEcho.session he
    exact h.frame rfl rfl rfl hs (foldl_write_session _ hs) fun _ _ => .inl
  | listened snap =>
    obtain ⟨⟨_, he, -⟩, -⟩ := listeningEvents_result s.echo s.actor.channels snap false
    have hs := congrArg GenerationEcho.session he
    exact h.frame rfl rfl rfl hs (foldl_write_session _ hs) fun _ _ => .inl
  | flushed => exact h.frame rfl rfl rfl rfl rfl fun _ _ => .inl
  | appended => exact h.frame rfl rfl rfl rfl rfl fun _ _ => .inl
  | worked => exact h.frame rfl rfl rfl rfl rfl fun _ _ => .inl

end Ordered

end Runtime

end OpenAirCast.Bridge
