/-
Bridge.ProjectionTheorems — which session answers the bridge
publishes, and under which generation.

`project_session` says what one projection does with the session: the
eight other stages neither touch it nor emit a session event. `Link` is
the bridge line as the shell's requests, the projection passes and the
receipts meet it, in any order. `LinkHistory` is what a run has left in
the line, and the last section reads off it how the first answer under a
generation relates to the request that generation was recorded with.
-/
import OpenAirCast.App.ReducerTheorems
import OpenAirCast.Bridge.Commands

namespace OpenAirCast.Bridge

open OpenAirCast.Backend List Projection BackendPort

/-! ## Session events -/

/-- The generation a session event is stamped with. -/
def stampOf (event : ControllerEvent) : Option GenerationId :=
  (AppEvent.controller event).sessionStamp

def sessionEvents (events : List ControllerEvent) : List ControllerEvent :=
  events.filter (fun event => (stampOf event).isSome)

theorem sessionEvents_append (a b : List ControllerEvent) :
    sessionEvents (a ++ b) = sessionEvents a ++ sessionEvents b := filter_append ..

@[simp] theorem stampOf_event (gen : GenerationId) (echo : SessionEcho) :
    stampOf (echo.event gen) = some gen := by
  cases echo <;> rfl

theorem mem_sessionEvents {evs : List ControllerEvent} {ev : ControllerEvent}
    {g : GenerationId} (hmem : ev ∈ evs) (hs : stampOf ev = some g) :
    ev ∈ sessionEvents evs :=
  mem_filter.mpr ⟨hmem, by rw [hs]; rfl⟩

/-! ## One projection -/

namespace Projection

/-- A stage that leaves the session alone. -/
def Sessionless (p : Projection) (result : Projection × List ControllerEvent) : Prop :=
  result.1.session = p.session ∧ sessionEvents result.2 = []

theorem sessionless_ite {p q : Projection} {evs : List ControllerEvent} {c : Prop}
    [Decidable c] (hq : q.session = p.session) (he : sessionEvents evs = []) :
    Sessionless p (if c then (p, []) else (q, evs)) := by
  split
  · exact ⟨rfl, rfl⟩
  · exact ⟨hq, he⟩

section

variable (p : Projection) (snap : DeviceSnapshot)

theorem projectVolume_sessionless : Sessionless p (p.projectVolume snap) := sessionless_ite rfl rfl

theorem projectDesired_sessionless :
    Sessionless p (p.projectDesired snap) := sessionless_ite rfl rfl

theorem projectGroups_sessionless : Sessionless p (p.projectGroups snap) := sessionless_ite rfl rfl

theorem projectDiscovery_sessionless
    (seen : GenerationsSeen) : Sessionless p (p.projectDiscovery snap seen) := by
  unfold projectDiscovery
  split
  · exact ⟨rfl, rfl⟩
  · rename_i echo _
    refine sessionless_ite rfl ?_
    cases echo <;> rfl

theorem projectMute_sessionless : Sessionless p (p.projectMute snap) := sessionless_ite rfl rfl

theorem projectLevels_sessionless : Sessionless p (p.projectLevels snap) := sessionless_ite rfl rfl

theorem projectLatency_sessionless :
    Sessionless p (p.projectLatency snap) := sessionless_ite rfl rfl

theorem projectAudio_sessionless : Sessionless p (p.projectAudio snap) := by
  unfold projectAudio
  simp only
  split
  · exact ⟨rfl, rfl⟩
  · exact ⟨rfl, rfl⟩

end

/-- What a projection does with the session. -/
inductive SessionResult (p : Projection) (snapshot : DeviceSnapshot) (seen : GenerationsSeen)
    (result : Projection × List ControllerEvent) : Prop
  | published (echo : SessionEcho) (he : sessionEcho snapshot.session = some echo)
      (hr : publishes p.session snapshot.session.phase seen echo = true)
      (hs : result.1.session = some (seen.session, echo))
      (hv : sessionEvents result.2 = [echo.event seen.session])
  | withheld (hr : ∀ echo, sessionEcho snapshot.session = some echo →
        publishes p.session snapshot.session.phase seen echo = false)
      (hs : result.1.session = p.session)
      (he : sessionEvents result.2 = [])

theorem projectSession_result (p : Projection) (snap : DeviceSnapshot)
    (seen : GenerationsSeen) : SessionResult p snap seen (p.projectSession snap seen) := by
  unfold projectSession
  cases he : sessionEcho snap.session with
  | none => exact .withheld (by simp [he]) rfl rfl
  | some echo =>
    simp only
    split
    · rename_i hr
      exact .published echo he hr rfl (by cases echo <;> rfl)
    · rename_i hr
      refine .withheld ?_ rfl rfl
      intro other ho
      obtain rfl : echo = other := Option.some.inj (he.symm.trans ho)
      simpa using hr

theorem project_session (p : Projection) (snap : DeviceSnapshot) (seen : GenerationsSeen) :
    SessionResult p snap seen (p.project snap seen) := by
  set p₁ := (p.projectVolume snap).1 with hp₁
  set p₂ := (p₁.projectDesired snap).1 with hp₂
  set p₃ := (p₂.projectGroups snap).1 with hp₃
  set p₄ := (p₃.projectDiscovery snap seen).1 with hp₄
  set p₅ := (p₄.projectSession snap seen).1 with hp₅
  set p₆ := (p₅.projectMute snap).1 with hp₆
  set p₇ := (p₆.projectLevels snap).1 with hp₇
  set p₈ := (p₇.projectLatency snap).1 with hp₈
  have h₁ := projectVolume_sessionless p snap
  have h₂ := projectDesired_sessionless p₁ snap
  have h₃ := projectGroups_sessionless p₂ snap
  have h₄ := projectDiscovery_sessionless p₃ snap seen
  have h₆ := projectMute_sessionless p₅ snap
  have h₇ := projectLevels_sessionless p₆ snap
  have h₈ := projectLatency_sessionless p₇ snap
  have h₉ := projectAudio_sessionless p₈ snap
  have hb : p₄.session = p.session := h₄.1.trans (h₃.1.trans (h₂.1.trans h₁.1))
  have ha : (p₈.projectAudio snap).1.session = p₅.session :=
    h₉.1.trans (h₈.1.trans (h₇.1.trans h₆.1))
  have hv : sessionEvents ((p.projectVolume snap).2 ++ (p₁.projectDesired snap).2
        ++ (p₂.projectGroups snap).2 ++ (p₃.projectDiscovery snap seen).2
        ++ (p₄.projectSession snap seen).2 ++ (p₅.projectMute snap).2
        ++ (p₆.projectLevels snap).2 ++ (p₇.projectLatency snap).2
        ++ (p₈.projectAudio snap).2)
      = sessionEvents (p₄.projectSession snap seen).2 := by
    simp only [sessionEvents_append, h₁.2, h₂.2, h₃.2, h₄.2, h₆.2, h₇.2, h₈.2, h₉.2,
      nil_append, append_nil]
  cases projectSession_result p₄ snap seen with
  | published echo hc hr he hs => exact .published echo hc (hb ▸ hr) (ha.trans he) (hv.trans hs)
  | withheld hr he hs => exact .withheld (hb ▸ hr) (ha.trans (he.trans hb)) (hv.trans hs)

/-- What a published answer was allowed by. -/
inductive Allowed (last : Option (GenerationId × SessionEcho)) (phase : SessionPhase)
    (seen : GenerationsSeen) (echo : SessionEcho) : Prop
  /-- The generation has been answered before. -/
  | again (previous : SessionEcho) (hl : last = some (seen.session, previous))
  /-- The backend already stands where the edge asked it to stand. -/
  | answers (ha : seen.sessionEdge.answeredBy echo = true)
  /-- The first answer of a run in which nothing was asked. -/
  | unasked (he : seen.sessionEdge = .untouched) (hl : last = none)
  /-- A confirmed group start has reached its attempt. -/
  | reached (floor generation : Nat) (he : seen.sessionEdge = .confirmedGroupStart floor)
      (hp : phase.generation = some generation) (hf : floor ≤ generation)

variable {last : Option (GenerationId × SessionEcho)} {seen : GenerationsSeen} {echo : SessionEcho}
  {ph : SessionPhase}

theorem allowed_of_publishes (h : publishes last ph seen echo = true) :
    seen.sessionEdge ≠ .pendingGroupStart ∧ Allowed last ph seen echo := by
  by_cases hl : ∃ prev, last = some (seen.session, prev)
  · obtain ⟨prev, hr⟩ := hl
    refine ⟨?_, .again prev hr⟩
    intro he
    simp [publishes, he] at h
  · -- a first answer: the rule of the edge decides
    have hne : ∀ g e, last = some (g, e) → g ≠ seen.session := by
      rintro g e hge rfl
      exact hl ⟨e, hge⟩
    unfold publishes at h
    split at h
    · rename_i floor he
      refine ⟨by simp [he], ?_⟩
      simp only [Bool.and_eq_true] at h
      cases hp : ph.generation with
      | none =>
        simp only [hp, Option.elim_none, Option.any_eq_true, decide_eq_true_eq] at h
        obtain ⟨⟨⟨g, e⟩, hge, hg⟩, -⟩ := h
        exact absurd hg (hne g e hge)
      | some gen =>
        simp only [hp, Option.elim_some, decide_eq_true_eq] at h
        exact .reached floor gen he hp h.1
    · exact absurd h (by simp)
    · rename_i hc hn
      refine ⟨fun he => hn he, ?_⟩
      rcases last with _ | ⟨g, e⟩
      · by_cases he : seen.sessionEdge = .untouched
        · exact .unasked he rfl
        · simp only [ne_eq, he, not_false_eq_true, if_true] at h
          exact .answers h
      · simp only [ne_eq, hne g e rfl, not_false_eq_true, if_true] at h
        exact .answers h

/-- Why an answer was held back. -/
inductive Withheld (last : Option (GenerationId × SessionEcho)) (phase : SessionPhase)
    (seen : GenerationsSeen) (echo : SessionEcho) : Prop
  /-- It has been published already. -/
  | known (hl : last = some (seen.session, echo))
  /-- A group start has not been confirmed yet. -/
  | unconfirmed (he : seen.sessionEdge = .pendingGroupStart)
  /-- A confirmed group start has not reached its attempt. -/
  | early (floor : Nat) (he : seen.sessionEdge = .confirmedGroupStart floor)
      (hp : ∀ generation, phase.generation = some generation → generation < floor)
  /-- The edge waits for another answer. -/
  | unanswered (ha : seen.sessionEdge.answeredBy echo = false)
      (hl : ∀ previous, last ≠ some (seen.session, previous))
      (hs : seen.sessionEdge = .untouched → last ≠ none)
      (he : ∀ floor, seen.sessionEdge ≠ .confirmedGroupStart floor)

theorem withheld_of_publishes
    (h : publishes last ph seen echo = false) : Withheld last ph seen echo := by
  by_cases hk : last = some (seen.session, echo)
  · exact .known hk
  · unfold publishes at h
    split at h
    · rename_i floor he
      refine .early floor he ?_
      intro gen hp
      simpa [hp, hk] using h
    · rename_i he
      exact .unconfirmed he
    · rename_i hc hn
      rcases last with _ | ⟨g, e⟩
      · by_cases he : seen.sessionEdge = .untouched
        · simp [he] at h
        · simp only [ne_eq, he, not_false_eq_true, if_true] at h
          exact .unanswered h (by simp) (fun hu => absurd hu he) hc
      · by_cases hg : g = seen.session
        · have hs : e = echo := by simpa [hg] using h
          exact absurd (by rw [hg, hs]) hk
        · simp only [ne_eq, hg, not_false_eq_true, if_true] at h
          refine .unanswered h ?_ (by simp) hc
          intro prev hr
          exact hg (congrArg Prod.fst (Option.some.inj hr))

end Projection

/-! ## What the port writes -/

/-- A write that concerns neither the session nor the group slot. -/
def EchoWrite.isAside : EchoWrite → Bool
  | .recordDiscovery _ | .holdVolume _ | .holdListening _ => true
  | .recordSession .. | .holdGroup _ => false

/-- The writes a command can lead to. -/
inductive PortWrites (echo : GenerationEcho) (command : DeviceCommand) : List EchoWrite → Prop
  | aside {writes : List EchoWrite} (ha : ∀ w ∈ writes, w.isAside = true) :
      PortWrites echo command writes
  | session (generation : GenerationId) (edge : SessionEdge)
      (hc : command.sessionGeneration = some generation)
      (he : edge = .start ∨ edge = .stop ∨ edge = .rejected) :
      PortWrites echo command [.recordSession generation edge]
  | group (pending : GroupPending) (hf : echo.group = none)
      (hc : command.sessionGeneration = pending.generation) :
      PortWrites echo command ((pending.generation.map (fun generation =>
            .recordSession generation (admissionEdge pending.admission))).toList
          ++ [.holdGroup pending])

theorem requestEdge_cases (refu : Option ControllerSendError) (edge : SessionEdge) :
    requestEdge refu edge = edge ∨ requestEdge refu edge = .rejected := by
  unfold requestEdge
  split
  · exact .inr rfl
  · exact .inl rfl

variable (echo : GenerationEcho)

theorem playListeningTone_writes (refu : Option ControllerSendError) (id : Nat) (gen : GenerationId)
    (cmd : DeviceCommand) :
    PortWrites echo cmd (playListeningTone echo refu id gen).writes := by
  refine .aside ?_
  unfold playListeningTone
  split
  · simp
  · split <;> simp [EchoWrite.isAside]

theorem group_writes (refusal : Option ControllerSendError) (id : Nat)
    (request : Nat) (generation : Option GenerationId) (command : GroupCommand) :
    PortWrites echo (.group request generation command)
      (group echo refusal id request generation command).writes := by
  unfold group
  split
  · exact .aside (by simp)
  · rename_i hf
    exact .group { request, generation, admission := _ } (by simpa using hf) rfl

theorem trySend_writes (endps : EndpointTable) (echo : GenerationEcho)
    (refu : Option ControllerSendError) (id : Nat) (cmd : DeviceCommand) :
    PortWrites echo cmd (trySend endps echo refu id cmd).writes := by
  cases cmd with
  | group => exact group_writes ..
  | applyReceiverLevel => exact .aside (by simp [trySend, send])
  | discover =>
    refine .aside ?_
    simp only [trySend]
    split <;> simp [EchoWrite.isAside]
  | startSession gen =>
    refine .session gen _ rfl ?_
    exact (requestEdge_cases refu .start).imp_right .inr
  | stopSession gen =>
    refine .session gen _ rfl ?_
    exact .inr (requestEdge_cases refu .stop)
  | playListeningTone => exact playListeningTone_writes ..
  | applyVolume => exact .aside (by simp [trySend, applyVolume, EchoWrite.isAside])
  | applyMute => exact .aside (by simp [trySend, send])
  | applyLatency => exact .aside (by simp [trySend, send])
  | applyAudioEndpoint req =>
    refine .aside ?_
    cases req with
    | systemDefault => simp [trySend, send]
    | endpoint =>
      simp only [trySend]
      split <;> simp [send]
  | shutdown => exact .aside (by simp [trySend, send])

/-- Writes aside keep the session and the group slot. -/
theorem write_aside {write : EchoWrite} (h : write.isAside = true) :
    (echo.write write).session = echo.session ∧ (echo.write write).group = echo.group := by
  cases write with
  | recordDiscovery => exact ⟨rfl, rfl⟩
  | recordSession => simp [EchoWrite.isAside] at h
  | holdGroup => simp [EchoWrite.isAside] at h
  | holdVolume => exact ⟨rfl, rfl⟩
  | holdListening => exact ⟨rfl, rfl⟩

theorem writes_aside {wrs : List EchoWrite} (haside : ∀ w ∈ wrs, w.isAside = true)
    (echo : GenerationEcho) :
    (wrs.foldl GenerationEcho.write echo).session = echo.session
      ∧ (wrs.foldl GenerationEcho.write echo).group = echo.group := by
  induction wrs generalizing echo with
  | nil => exact ⟨rfl, rfl⟩
  | cons w _ ih =>
    have hw := write_aside echo (haside w mem_cons_self)
    have hr := ih (fun v hv => haside v (mem_cons_of_mem _ hv)) (echo.write w)
    exact ⟨hr.1.trans hw.1, hr.2.trans hw.2⟩

/-! ## What the bridge makes of the echo -/

theorem observeListeningTarget_session (snap : DeviceSnapshot) (evs : List ControllerEvent) :
    (echo.observeListeningTarget snap evs).session = echo.session
      ∧ (echo.observeListeningTarget snap evs).group = echo.group := by
  unfold GenerationEcho.observeListeningTarget
  split
  · exact ⟨rfl, rfl⟩
  · split <;> exact ⟨rfl, rfl⟩

/-- Resolving the slot touches the session edge of its own generation
only. -/
theorem resolveGroup_session (pend : GroupPending)
    (stat : GroupOperationStatus) (rcpt : Option CommandReceipt) (rev : Nat) :
    (echo.resolveGroup pend stat rcpt rev).1.session
      = (echo.session.1, if pend.generation = some echo.session.1
          then GenerationEcho.groupEdge stat rcpt rev else echo.session.2) := by
  unfold GenerationEcho.resolveGroup
  split
  · rfl
  · rfl

/-- Why a group operation ends. -/
inductive GroupEnd (channels : ReceiptId → Oneshot) (snapshot : DeviceSnapshot) (closed : Bool)
    (pending : GroupPending) : GroupOperationStatus → Option CommandReceipt → Prop
  | refused (failure : GroupFailure) (ha : pending.admission = .error failure) :
      GroupEnd channels snapshot closed pending (.failed failure) none
  | polled (id : Nat) (receipt : CommandReceipt) (status : GroupOperationStatus)
      (ha : pending.admission = .ok (id, receipt))
      (hs : GenerationEcho.groupStatus closed
        (receipt.poll (channels receipt.receiver) snapshot.revision).2 = some status) :
      GroupEnd channels snapshot closed pending status
        (some (receipt.poll (channels receipt.receiver) snapshot.revision).1)

/-- What a look at the group slot does. -/
inductive GroupLook (echo : GenerationEcho) (channels : ReceiptId → Oneshot)
    (snapshot : DeviceSnapshot) (closed : Bool) : GenerationEcho × List ControllerEvent → Prop
  | free (hg : echo.group = none) : GroupLook echo channels snapshot closed (echo, [])
  | waits (pending : GroupPending) (id : Nat) (receipt : CommandReceipt)
      (hg : echo.group = some pending) (ha : pending.admission = .ok (id, receipt))
      (hp : (receipt.poll (channels receipt.receiver) snapshot.revision).2 = .pending) :
      GroupLook echo channels snapshot closed
        ({ echo with group := some { pending with admission := .ok (id,
            (receipt.poll (channels receipt.receiver) snapshot.revision).1) } }, [])
  | ends (pending : GroupPending) (status : GroupOperationStatus)
      (receipt : Option CommandReceipt) (hg : echo.group = some pending)
      (he : GroupEnd channels snapshot closed pending status receipt) :
      GroupLook echo channels snapshot closed
        (echo.resolveGroup pending status receipt snapshot.revision)

theorem pending_of_groupStatus {closed : Bool} {st : ReceiptState}
    (h : GenerationEcho.groupStatus closed st = none) : st = .pending := by
  unfold GenerationEcho.groupStatus at h
  split at h <;> first | rfl | cases h

theorem groupEvents_look (chans : ReceiptId → Oneshot) (snap : DeviceSnapshot) (closed : Bool) :
    GroupLook echo chans snap closed (echo.groupEvents chans snap closed) := by
  unfold GenerationEcho.groupEvents
  cases hg : echo.group with
  | none => exact .free hg
  | some pend =>
    simp only
    cases ha : pend.admission with
    | error fail => exact .ends pend _ none hg (.refused fail ha)
    | ok admitted =>
      obtain ⟨id, rcpt⟩ := admitted
      simp only
      cases hs : GenerationEcho.groupStatus closed
          (rcpt.poll (chans rcpt.receiver) snap.revision).2 with
      | some stat => exact .ends pend stat _ hg (.polled id rcpt stat ha hs)
      | none => exact .waits pend id rcpt hg ha (pending_of_groupStatus hs)

/-- A look at the group slot answers no session. -/
theorem groupEvents_stampless (chans : ReceiptId → Oneshot)
    (snap : DeviceSnapshot) (closed : Bool) (g : GenerationId) :
    ∀ ev ∈ (echo.groupEvents chans snap closed).2, stampOf ev ≠ some g := by
  have hl := groupEvents_look echo chans snap closed
  generalize echo.groupEvents chans snap closed = result at hl ⊢
  cases hl with
  | free => simp
  | waits => simp
  | ends =>
    intro ev hmem
    rw [mem_singleton.mp hmem]
    simp [stampOf, AppEvent.sessionStamp]

/-! ## The bridge line -/

/-- What the two threads share, and what the bridge last published. -/
structure Link where
  echo : GenerationEcho := {}
  projection : Projection := {}

namespace Link

variable {turns : List Turn} {g : GenerationId}

inductive Input where
  /-- The shell sends one command. -/
  | request (endpoints : EndpointTable) (refusal : Option ControllerSendError) (id : Nat)
      (command : DeviceCommand)
  /-- The bridge projects a snapshot under what it samples. -/
  | pass (snapshot : DeviceSnapshot)
  /-- The bridge looks at the group slot's receipt. -/
  | resolve (channels : ReceiptId → Oneshot) (snapshot : DeviceSnapshot) (closed : Bool)

def step (s : Link) : Input → Link × List ControllerEvent
  | .request endpoints refusal id command =>
    let reply := trySend endpoints s.echo refusal id command
    ({ s with echo := reply.writes.foldl GenerationEcho.write s.echo }, [])
  | .pass snapshot =>
    let (projection, events) := s.projection.project snapshot s.echo.sample
    ({ projection, echo := s.echo.observeListeningTarget snapshot events }, events)
  | .resolve channels snapshot closed =>
    let (echo, events) := s.echo.groupEvents channels snapshot closed
    ({ s with echo }, events)

/-- Session requests come under strictly increasing generations. -/
def Ordered (s : Link) : Input → Prop
  | .request _ _ _ command => ∀ g, command.sessionGeneration = some g → s.echo.session.1 < g
  | _ => True

abbrev Turn := Mealy.Turn Link Input (List ControllerEvent)

/-- The turn records a generation with an edge. -/
def Records (t : Turn) (g : GenerationId) (edge : SessionEdge) : Prop :=
  ∃ endpoints refusal id command, t.input = .request endpoints refusal id command ∧
    .recordSession g edge ∈ (trySend endpoints t.before.echo refusal id command).writes

/-- The turn publishes a session event under a generation. -/
def PublishesUnder (t : Turn) (g : GenerationId) : Prop :=
  ∃ event ∈ t.output, stampOf event = some g

/-- The turn settles the receipt of the group start that was recorded
under `g`: its status, and the floor that came with it. -/
def Settles (t : Turn) (g : GenerationId) (status : GroupOperationStatus)
    (floor : Option Nat) : Prop :=
  ∃ channels snapshot closed pending id receipt,
    t.input = .resolve channels snapshot closed ∧ t.before.echo.group = some pending ∧
    pending.generation = some g ∧ pending.admission = .ok (id, receipt) ∧
    let (polled, state) := receipt.poll (channels receipt.receiver) snapshot.revision
    GenerationEcho.groupStatus closed state = some status ∧
      floor = polled.sessionGenerationFloor snapshot.revision

/-! ## What a run has left in the line -/

/-- How the edge a generation was recorded with stands now. Only a settled
group start changes its edge. -/
inductive Stands (turns : List Turn) (g : GenerationId) (edge : SessionEdge) : SessionEdge → Prop
  | kept : Stands turns g edge edge
  | confirmed (floor : Nat) (he : edge = .pendingGroupStart)
      (hs : ∃ u ∈ turns, Settles u g .succeeded (some floor)) :
      Stands turns g edge (.confirmedGroupStart floor)
  | failed (he : edge = .pendingGroupStart)
      (hs : ∃ u ∈ turns, ∃ failure floor, Settles u g (.failed failure) floor) :
      Stands turns g edge .rejected

variable {edge now : SessionEdge}

theorem Stands.mono {more : List Turn}
    (h : Stands turns g edge now) : Stands (turns ++ more) g edge now := by
  cases h with
  | kept => exact .kept
  | confirmed floor he hs =>
    obtain ⟨u, hu, ht⟩ := hs
    exact .confirmed floor he ⟨u, mem_append_left _ hu, ht⟩
  | failed he hs =>
    obtain ⟨u, hu, ht⟩ := hs
    exact .failed he ⟨u, mem_append_left _ hu, ht⟩

/-- What the turns so far say about echo and projection. -/
structure History (turns : List Turn) (s : Link) : Prop where
  stamped : ∀ t ∈ turns, ∀ g, PublishesUnder t g → g ≤ s.echo.session.1
  recorded : ∀ t ∈ turns, ∀ g edge, Records t g edge → g ≤ s.echo.session.1
  stands : ∀ t ∈ turns, ∀ edge, Records t s.echo.session.1 edge →
    Stands turns s.echo.session.1 edge s.echo.session.2
  answered : ∀ g echo, s.projection.session = some (g, echo) → ∃ t ∈ turns, PublishesUnder t g
  slot : ∀ pending g, s.echo.group = some pending → pending.generation = some g →
    g ≤ s.echo.session.1 ∧
      (g = s.echo.session.1 → s.echo.session.2 = admissionEdge pending.admission)

theorem History.init : History [] {} where
  stamped := by simp
  recorded := by simp
  stands := by simp
  answered := by simp
  slot := by simp

variable {ev : ControllerEvent}

/-- A session event of a pass carries the sampled generation. -/
theorem stamp_of_pass (s : Link) (snap : DeviceSnapshot) (hmem : ev ∈ (s.step (.pass snap)).2)
    (hs : stampOf ev = some g) :
    g = s.echo.session.1 ∧ ∃ echo, ev = echo.event g ∧ sessionEcho snap.session = some echo ∧
      (s.step (.pass snap)).1.projection.session = some (g, echo) ∧
      Projection.publishes s.projection.session snap.session.phase s.echo.sample echo = true := by
  have hin := mem_sessionEvents hmem hs
  cases project_session s.projection snap s.echo.sample with
  | withheld _ _ he =>
    change ev ∈ sessionEvents (s.projection.project snap s.echo.sample).2 at hin
    rw [he] at hin
    simp at hin
  | published echo hc hr hse he =>
    change ev ∈ sessionEvents (s.projection.project snap s.echo.sample).2 at hin
    rw [he, mem_singleton] at hin
    subst hin
    obtain rfl : s.echo.session.1 = g := by simpa [GenerationEcho.sample] using hs
    exact ⟨rfl, echo, rfl, hc, hse, hr⟩

theorem records_turn {s : Link} {endps : EndpointTable}
    {refu : Option ControllerSendError} {id : Nat} {cmd : DeviceCommand}
    {g : GenerationId} {edge : SessionEdge}
    (h : Records (Mealy.turn step s (.request endps refu id cmd)) g edge) :
    .recordSession g edge ∈ (trySend endps s.echo refu id cmd).writes := by
  obtain ⟨_, _, _, _, hi, hmem⟩ := h
  cases hi
  exact hmem

section

variable {s s' : Link} {t : Turn} (h : History turns s)
include h

/-- A turn that keeps the recorded generation keeps the history, with the
edge wherever it stands now. -/
theorem History.carried (hg : s'.echo.session.1 = s.echo.session.1)
    (hb : ∀ g, PublishesUnder t g → g = s.echo.session.1)
    (hn : ∀ g edge, ¬ Records t g edge)
    (hs : ∀ edge, Stands turns s.echo.session.1 edge s.echo.session.2 →
      Stands (turns ++ [t]) s.echo.session.1 edge s'.echo.session.2)
    (ha : ∀ g echo, s'.projection.session = some (g, echo) →
      s.projection.session = some (g, echo) ∨ PublishesUnder t g)
    (hl : ∀ pend g, s'.echo.group = some pend → pend.generation = some g →
      g ≤ s.echo.session.1 ∧ (g = s.echo.session.1 →
        s'.echo.session.2 = admissionEdge pend.admission)) :
    History (turns ++ [t]) s' := by
  constructor
  · rw [hg]
    intro u hu g hp
    rcases mem_append.mp hu with hu | hu
    · exact h.stamped u hu g hp
    · rw [mem_singleton] at hu
      exact (hb g (hu ▸ hp)).le
  · rw [hg]
    intro u hu g edge hr
    rcases mem_append.mp hu with hu | hu
    · exact h.recorded u hu g edge hr
    · rw [mem_singleton] at hu
      exact absurd (hu ▸ hr) (hn g edge)
  · rw [hg]
    intro u hu edge hr
    rcases mem_append.mp hu with hu | hu
    · exact hs edge (h.stands u hu edge hr)
    · rw [mem_singleton] at hu
      exact absurd (hu ▸ hr) (hn _ edge)
  · intro g echo he
    rcases ha g echo he with hold | hw
    · obtain ⟨u, hu, hp⟩ := h.answered g echo hold
      exact ⟨u, mem_append_left _ hu, hp⟩
    · exact ⟨t, mem_append_right _ (mem_singleton.mpr rfl), hw⟩
  · rw [hg]
    exact hl

theorem History.kept (hs : s'.echo.session = s.echo.session)
    (hp : ∀ g, PublishesUnder t g → g = s.echo.session.1)
    (hn : ∀ g edge, ¬ Records t g edge)
    (ha : ∀ g echo, s'.projection.session = some (g, echo) →
      s.projection.session = some (g, echo) ∨ PublishesUnder t g)
    (hl : ∀ pend g, s'.echo.group = some pend → pend.generation = some g →
      ∃ old, s.echo.group = some old ∧ old.generation = some g ∧
        admissionEdge old.admission = admissionEdge pend.admission) :
    History (turns ++ [t]) s' := by
  refine h.carried (by rw [hs]) hp hn ?_ ha ?_
  · intro edge ht
    rw [hs]
    exact ht.mono
  · rw [hs]
    intro pend g hg he
    obtain ⟨old, hold, ho, hd⟩ := hl pend g hg he
    rw [← hd]
    exact h.slot old g hold ho

/-- A request under a new generation outdates everything recorded
before. -/
theorem History.raised (hlt : s.echo.session.1 < g)
    (hs : s'.echo.session = (g, edge)) (hpr : s'.projection = s.projection)
    (hq : ∀ g', ¬ PublishesUnder t g')
    (ho : ∀ g' edge', Records t g' edge' → g' = g ∧ edge' = edge)
    (hl : ∀ pend g', s'.echo.group = some pend → pend.generation = some g' →
      s.echo.group = some pend ∨ g' = g ∧ edge = admissionEdge pend.admission) :
    History (turns ++ [t]) s' := by
  constructor
  · rw [hs]
    intro u hu g' hp
    rcases mem_append.mp hu with hu | hu
    · exact (h.stamped u hu g' hp).trans hlt.le
    · rw [mem_singleton] at hu
      exact absurd (hu ▸ hp) (hq g')
  · rw [hs]
    intro u hu g' edge' hr
    rcases mem_append.mp hu with hu | hu
    · exact (h.recorded u hu g' edge' hr).trans hlt.le
    · rw [mem_singleton] at hu
      exact (ho g' edge' (hu ▸ hr)).1.le
  · rw [hs]
    intro u hu edge' hr
    rcases mem_append.mp hu with hu | hu
    · exact absurd (h.recorded u hu g edge' hr) (Nat.not_le.mpr hlt)
    · rw [mem_singleton] at hu
      rw [(ho g edge' (hu ▸ hr)).2]
      exact .kept
  · intro g' echo he
    obtain ⟨u, hu, hp⟩ := h.answered g' echo (hpr ▸ he)
    exact ⟨u, mem_append_left _ hu, hp⟩
  · rw [hs]
    intro pend g' hgr hg
    rcases hl pend g' hgr hg with hold | ⟨heq, hd⟩
    · have hb : g' < g := (h.slot pend g' hold hg).1.trans_lt hlt
      exact ⟨hb.le, fun heq => absurd heq hb.ne⟩
    · exact ⟨heq.le, fun _ => hd⟩

end

theorem History.request {s : Link} (h : History turns s)
    (endps : EndpointTable) (refu : Option ControllerSendError) (id : Nat)
    (cmd : DeviceCommand)
    (hd : s.Ordered (.request endps refu id cmd)) :
    History (turns ++ [Mealy.turn step s (.request endps refu id cmd)])
      (s.step (.request endps refu id cmd)).1 := by
  have hq : ∀ g, ¬ PublishesUnder (Mealy.turn step s (.request endps refu id cmd)) g := by
    rintro g ⟨_, hmem, -⟩
    simp [Mealy.turn, step] at hmem
  have hc := fun g edge => @records_turn s endps refu id cmd g edge
  have hw := trySend_writes endps s.echo refu id cmd
  have he : (s.step (.request endps refu id cmd)).1.echo
      = (trySend endps s.echo refu id cmd).writes.foldl GenerationEcho.write s.echo := rfl
  have hpr : (s.step (.request endps refu id cmd)).1.projection = s.projection := rfl
  generalize (s.step (.request endps refu id cmd)).1 = s' at he hpr ⊢
  generalize Mealy.turn step s (.request endps refu id cmd) = t at hq hc ⊢
  generalize (trySend endps s.echo refu id cmd).writes = writes at hc hw he
  have ha : ∀ g echo, s'.projection.session = some (g, echo) →
      s.projection.session = some (g, echo) ∨ PublishesUnder t g :=
    fun g echo hse => .inl (hpr ▸ hse)
  cases hw with
  | aside haside =>
    have hf := writes_aside haside s.echo
    rw [← he] at hf
    refine h.kept hf.1 (fun g hb => absurd hb (hq g)) ?_ ha ?_
    · intro g edge hr
      simpa [EchoWrite.isAside] using haside _ (hc g edge hr)
    · intro pend g hp hg
      exact ⟨pend, hf.2 ▸ hp, hg, rfl⟩
  | session g _ hm =>
    refine h.raised (hd g hm) (by rw [he]; rfl) hpr hq ?_ ?_
    · intro g' edge' hr
      simpa using hc g' edge' hr
    · intro pend g' hp _
      rw [he] at hp
      exact .inl hp
  | group pend _ hm =>
    have hp : s'.echo.group = some pend := by
      rw [he]
      cases pend.generation <;> rfl
    cases hg : pend.generation with
    | none =>
      refine h.kept (by rw [he, hg]; rfl) (fun g hb => absurd hb (hq g)) ?_ ha ?_
      · intro g edge hr
        simpa [hg] using hc g edge hr
      · intro other g ho hs
        obtain rfl : pend = other := Option.some.inj (hp.symm.trans ho)
        simp [hg] at hs
    | some g =>
      refine h.raised (hd g (hm.trans hg)) (by rw [he, hg]; rfl) hpr hq ?_ ?_
      · intro g' edge' hr
        simpa [hg] using hc g' edge' hr
      · intro other g' ho hs
        obtain rfl : pend = other := Option.some.inj (hp.symm.trans ho)
        rw [hg, Option.some.injEq] at hs
        exact .inr ⟨hs.symm, rfl⟩

theorem History.pass {s : Link} (h : History turns s) (snap : DeviceSnapshot) :
    History (turns ++ [Mealy.turn step s (.pass snap)]) (s.step (.pass snap)).1 := by
  have ht := observeListeningTarget_session s.echo snap (s.projection.project snap s.echo.sample).2
  refine h.kept ht.1 ?_ ?_ ?_ ?_
  · rintro g ⟨ev, hmem, hs⟩
    exact (stamp_of_pass s snap hmem hs).1
  · rintro g _ ⟨_, _, _, _, hi, -⟩
    cases hi
  · intro g echo hc
    cases project_session s.projection snap s.echo.sample with
    | withheld _ he => exact .inl (he ▸ hc)
    | published ans _ _ he hv =>
      refine .inr ⟨ans.event g, ?_, stampOf_event g ans⟩
      have hs : (s.echo.session.1, ans) = (g, echo) := Option.some.inj (he.symm.trans hc)
      have hmem : ans.event s.echo.session.1 ∈ sessionEvents
          (s.projection.project snap s.echo.sample).2 := by
        rw [hv]
        exact mem_singleton.mpr rfl
      rw [← (Prod.mk.inj hs).1]
      exact (mem_filter.mp hmem).1
  · intro pend g hg hn
    exact ⟨pend, ht.2 ▸ hg, hn, rfl⟩

/-- The edge the receipt of a recorded group start leaves. -/
theorem stands_of_settles {t : Turn}
    {stat : GroupOperationStatus} {closed : Bool} {st : ReceiptState}
    {rcpt : CommandReceipt} {rev : Nat}
    (hs : GenerationEcho.groupStatus closed st = some stat)
    (ht : Settles t g stat (rcpt.sessionGenerationFloor rev)) :
    Stands (turns ++ [t]) g .pendingGroupStart (GenerationEcho.groupEdge stat (some rcpt) rev) := by
  have hmem : t ∈ turns ++ [t] := mem_append_right _ (mem_singleton.mpr rfl)
  cases stat with
  | pending =>
    cases st with
    | pending => cases closed <;> simp [GenerationEcho.groupStatus] at hs
    | completed err => cases err <;> simp [GenerationEcho.groupStatus] at hs
    | lost => simp [GenerationEcho.groupStatus] at hs
  | failed fail => exact .failed rfl ⟨t, hmem, fail, _, ht⟩
  | succeeded =>
    simp only [GenerationEcho.groupEdge, Option.bind_some]
    cases hf : rcpt.sessionGenerationFloor rev with
    | none => exact .kept
    | some floor =>
      rw [hf] at ht
      exact .confirmed floor rfl ⟨t, hmem, ht⟩

theorem resolve_quiet (s : Link) (chans : ReceiptId → Oneshot) (snap : DeviceSnapshot)
    (closed : Bool) :
    (∀ g, ¬ PublishesUnder (Mealy.turn step s (.resolve chans snap closed)) g) ∧
      ∀ g edge, ¬ Records (Mealy.turn step s (.resolve chans snap closed)) g edge := by
  constructor
  · rintro g ⟨ev, hmem, hs⟩
    exact groupEvents_stampless s.echo chans snap closed g ev hmem hs
  · rintro g _ ⟨_, _, _, _, hi, -⟩
    cases hi

theorem History.resolve {s : Link} (h : History turns s)
    (chans : ReceiptId → Oneshot) (snap : DeviceSnapshot) (closed : Bool) :
    History (turns ++ [Mealy.turn step s (.resolve chans snap closed)])
      (s.step (.resolve chans snap closed)).1 := by
  obtain ⟨hq, hnn⟩ := resolve_quiet s chans snap closed
  have hb : ∀ g, PublishesUnder (Mealy.turn step s (.resolve chans snap closed)) g →
      g = s.echo.session.1 := fun g hu => absurd hu (hq g)
  have hl := groupEvents_look s.echo chans snap closed
  have hsp : (s.step (.resolve chans snap closed)).1
      = { s with echo := (s.echo.groupEvents chans snap closed).1 } := rfl
  rw [hsp]
  generalize s.echo.groupEvents chans snap closed = result at hl
  cases hl with
  | free =>
    exact h.kept rfl hb hnn (fun _ _ => .inl) fun pend g hp hg => ⟨pend, hp, hg, rfl⟩
  | waits pend _ _ hr ha =>
    refine h.kept rfl hb hnn (fun _ _ => .inl) ?_
    intro other g ho hn
    obtain rfl := Option.some.inj ho
    exact ⟨pend, hr, hn, by rw [ha]; rfl⟩
  | ends pend stat rcpt hr hen =>
    have he := resolveGroup_session s.echo pend stat rcpt snap.revision
    refine h.carried (by rw [he]) hb hnn ?_ (fun _ _ => .inl)
      (by simp [GenerationEcho.resolveGroup])
    intro edge hs
    rw [he]
    by_cases hn : pend.generation = some s.echo.session.1
    · -- the slot belongs to the newest request: its edge is settled
      have hd := (h.slot pend _ hr hn).2 rfl
      rw [if_pos hn]
      cases hen with
      | refused _ ha =>
        rw [hd, ha] at hs
        exact hs.mono
      | polled id rcpt _ ha ht =>
        rw [hd, ha] at hs
        cases hs with
        | kept =>
          exact stands_of_settles ht ⟨chans, snap, closed, pend, id, rcpt, rfl, hr, hn, ha, ht, rfl⟩
    · rw [if_neg hn]
      exact hs.mono

/-- One more input keeps the history. -/
theorem History.step {turns : List Turn} {s : Link} (h : History turns s) (inp : Input)
    (ho : s.Ordered inp) :
    History (turns ++ [Mealy.turn Link.step s inp]) (Link.step s inp).1 := by
  cases inp with
  | request endps refu id cmd => exact h.request endps refu id cmd ho
  | pass snap => exact h.pass snap
  | resolve chans snap closed => exact h.resolve chans snap closed

/-! ## The first answer under a generation -/

/-- How the first answer under a generation relates to the request. -/
def InKind (earlier : List Turn) (t : Turn) (g : GenerationId) (event : ControllerEvent) :
    SessionEdge → Prop
  | .stop => event = .sessionStopped g
  | .start => (∃ ids, event = .sessionStarted g ids) ∨ (∃ ids, event = .sessionDegraded g ids) ∨
      ∃ summary, event = .sessionFailed g summary
  | .pendingGroupStart =>
    (∃ u ∈ earlier, ∃ failure floor, Settles u g (.failed failure) floor) ∨
    ∃ u ∈ earlier, ∃ floor, Settles u g .succeeded (some floor) ∧
      ∃ snapshot generation, t.input = .pass snapshot ∧
        snapshot.session.phase.generation = some generation ∧ floor ≤ generation
  | _ => True

/-- The first answer comes in the kind of the edge that stands, and that
edge comes from the recorded one. -/
theorem inKind_of_stands {s : Link} (h : History turns s)
    {snap : DeviceSnapshot} (hmem : ev ∈ (s.step (.pass snap)).2)
    (hm : stampOf ev = some g) (hfs : ∀ u ∈ turns, ¬ PublishesUnder u g)
    (hs : Stands turns g edge s.echo.session.2) :
    InKind turns (Mealy.turn step s (.pass snap)) g ev edge := by
  obtain ⟨rfl, echo, rfl, _, -, hr⟩ := stamp_of_pass s snap hmem hm
  obtain ⟨hc, hl⟩ := allowed_of_publishes hr
  have hn : ∀ prev, s.projection.session ≠ some (s.echo.session.1, prev) := by
    intro prev hpr
    obtain ⟨u, hu, hb⟩ := h.answered _ _ hpr
    exact hfs u hu hb
  have hd : s.echo.sample.sessionEdge = s.echo.session.2 := rfl
  cases hl with
  | again prev hls => exact absurd hls (hn prev)
  | answers ha =>
    rw [hd] at ha
    generalize s.echo.session.2 = now at hs ha hc
    cases hs with
    | kept =>
      cases edge <;> cases echo <;> simp_all [InKind, SessionEdge.answeredBy, SessionEcho.event]
    | confirmed => simp [SessionEdge.answeredBy] at ha
    | failed hp ht =>
      subst hp
      exact .inl ht
  | unasked hun =>
    rw [← hd, hun] at hs
    cases hs
    trivial
  | reached floor gen hf hh ho =>
    rw [← hd, hf] at hs
    cases hs with
    | kept => trivial
    | confirmed _ hp ht =>
      subst hp
      obtain ⟨u, hu, he⟩ := ht
      exact .inr ⟨u, hu, floor, he, snap, gen, rfl, hh, ho⟩

/-- Every first answer of a run so far came in the kind of its request. -/
def AnswersInKind (turns : List Turn) : Prop :=
  ∀ earlier t later g event, turns = earlier ++ t :: later → event ∈ t.output →
    stampOf event = some g → (∀ u ∈ earlier, ¬ PublishesUnder u g) →
    ∀ r ∈ turns, ∀ edge, Records r g edge → InKind earlier t g event edge

/-- No input is answered first in another kind. -/
theorem AnswersInKind.step {turns : List Turn} {s : Link} (h : History turns s)
    (hk : AnswersInKind turns) (inp : Input) (ho : s.Ordered inp) :
    AnswersInKind (turns ++ [Mealy.turn Link.step s inp]) := by
  intro earlier t later g ev hl hmem hs hf r hr edge hc
  rcases (Mealy.concat_eq_append_cons hl).symm with ⟨rest, rfl, ht⟩ | ⟨rfl, rfl, rfl⟩
  · -- an old answer: no later request can be recorded under its generation
    rcases mem_append.mp hr with hr | hr
    · exact hk earlier t rest g ev ht hmem hs hf r hr edge hc
    · rw [mem_singleton] at hr
      subst hr
      have hle := h.stamped t (by rw [ht]; simp) g ⟨ev, hmem, hs⟩
      cases inp with
      | pass => obtain ⟨_, _, _, _, hi, -⟩ := hc; cases hi
      | resolve => obtain ⟨_, _, _, _, hi, -⟩ := hc; cases hi
      | request endps refu id cmd =>
        have hw := trySend_writes endps s.echo refu id cmd
        have hrc := records_turn hc
        have hn : cmd.sessionGeneration = some g := by
          generalize (trySend endps s.echo refu id cmd).writes = writes at hw hrc
          cases hw with
          | aside haside => simpa [EchoWrite.isAside] using haside _ hrc
          | session g' edge' hm =>
            obtain ⟨rfl, -⟩ : g = g' ∧ edge = edge' := by simpa using hrc
            exact hm
          | group pend _ hm =>
            cases hp : pend.generation with
            | none => simp [hp] at hrc
            | some g' =>
              obtain ⟨rfl, -⟩ : g = g' ∧ edge = _ := by simpa [hp] using hrc
              exact hm.trans hp
        exact absurd (ho g hn) (Nat.not_lt.mpr hle)
  · cases inp with
    | request => simp [Mealy.turn, Link.step] at hmem
    | resolve chans snap closed =>
      exact absurd ⟨ev, hmem, hs⟩ ((resolve_quiet s chans snap closed).1 g)
    | pass snap =>
      rcases mem_append.mp hr with hr | hr
      · have hg := (stamp_of_pass s snap hmem hs).1
        exact inKind_of_stands h hmem hs hf (hg ▸ h.stands r hr edge (hg ▸ hc))
      · rw [mem_singleton] at hr
        subst hr
        obtain ⟨_, _, _, _, hi, -⟩ := hc
        cases hi

end Link

/-- A press is never answered by its opposite. In every run whose session
requests come under increasing generations, the first session event under
a stopped generation is a stop, under a started one a start, a degraded
start or a failure, and under a group start it comes only after the
receipt was settled: by a failure, or with a floor the answering phase has
reached. -/
theorem first_answer_in_kind (inputs : List Link.Input)
    (h : Mealy.Along Link.step Link.Ordered {} inputs) :
    Link.AnswersInKind (Mealy.trace Link.step {} inputs) := by
  have hn : (∀ t ∈ Mealy.trace Link.step {} inputs, t.before.Ordered t.input) →
      Link.History (Mealy.trace Link.step {} inputs) (Mealy.run Link.step {} inputs) ∧
        Link.AnswersInKind (Mealy.trace Link.step {} inputs) := by
    refine Mealy.trace_induction (P := fun turns s =>
      (∀ t ∈ turns, t.before.Ordered t.input) →
        Link.History turns s ∧ Link.AnswersInKind turns) ?_ ?_ inputs
    · exact fun _ => ⟨Link.History.init, by simp [Link.AnswersInKind]⟩
    · intro turns s inp ih ho
      obtain ⟨hh, hk⟩ := ih fun t ht => ho t (mem_append_left _ ht)
      have hi : s.Ordered inp :=
        ho (Mealy.turn Link.step s inp) (mem_append_right _ (mem_singleton.mpr rfl))
      exact ⟨hh.step inp hi, hk.step hh inp hi⟩
  exact (hn ((Mealy.along_iff_forall_turn inputs).mp h)).2

namespace Sample

/-- A saved group is started from idle, under generation 1. -/
def startGroup : Link.Input := .request {} none 7 (.group 1 (some 1) (.apply ⟨0⟩ true))

def streaming (generation : Nat) : DeviceSnapshot :=
  { revision := 3
    runIntent := .running
    session := { phase := .streaming generation, active := {⟨1⟩} } }

/-- The start is confirmed with floor 5 while attempt 4 still streams. -/
def confirmedStart : List Link.Input :=
  [startGroup, .resolve (fun _ => .sent ⟨1, none, some 5⟩) { revision := 1 } false,
    .pass (streaming 4)]

/-- The backend goes away before it answers the start. -/
def lostStart : List Link.Input := [startGroup, .resolve (fun _ => .closed) {} true]

theorem startGroup_ordered {ins : List Link.Input} (h : ∀ inp ∈ ins, ∀ s, Link.Ordered s inp) :
    Mealy.Along Link.step Link.Ordered {} (startGroup :: ins) := by
  refine ⟨?_, (Mealy.along_iff_forall_start ins).mpr ?_⟩
  · intro g hg
    obtain rfl : 1 = g := Option.some.inj hg
    exact Nat.zero_lt_one
  · intro pre i hp
    exact h i (hp.subset (by simp)) _

end Sample

theorem first_answer_after_floor : Link.InKind (Mealy.trace Link.step {} Sample.confirmedStart)
      (Mealy.turn Link.step (Mealy.run Link.step {} Sample.confirmedStart)
        (.pass (Sample.streaming 5)))
      1 (.sessionStarted 1 [⟨1⟩]) .pendingGroupStart := by
  have ha : Mealy.Along Link.step Link.Ordered {}
      (Sample.confirmedStart ++ [.pass (Sample.streaming 5)]) :=
    Sample.startGroup_ordered (by simp [Link.Ordered])
  have ht := Mealy.trace_concat Link.step {} Sample.confirmedStart (.pass (Sample.streaming 5))
  refine first_answer_in_kind _ ha _ _ [] 1 _ ht ?_ rfl ?_ _
    mem_cons_self .pendingGroupStart ⟨_, _, _, _, rfl, mem_cons_self⟩
  · exact mem_cons_self
  · -- attempt 4 is below the floor, so nothing was published before
    have hs : (Mealy.trace Link.step {} Sample.confirmedStart).all (fun u =>
        u.output.all (fun ev => stampOf ev ≠ some 1)) = true := by decide
    rintro u hu ⟨ev, he, hst⟩
    have := all_eq_true.mp (all_eq_true.mp hs u hu) ev he
    simp [hst] at this

/-- The turn finds the group start's receipt confirmed, whatever its
outcome. -/
def Link.Confirms (t : Link.Turn) (g : GenerationId) : Prop :=
  ∃ channels snapshot closed pending id receipt error,
    t.input = .resolve channels snapshot closed ∧ t.before.echo.group = some pending ∧
    pending.generation = some g ∧ pending.admission = .ok (id, receipt) ∧
    (receipt.poll (channels receipt.receiver) snapshot.revision).2 = .completed error

/-- A group start whose receipt is lost is answered without ever being
confirmed. -/
theorem lost_start_answered_unconfirmed : ¬ ∀ inputs, Mealy.Along Link.step Link.Ordered {} inputs →
      ∀ earlier t later g, Mealy.trace Link.step {} inputs = earlier ++ t :: later →
        Link.PublishesUnder t g → (∃ r ∈ earlier, Link.Records r g .pendingGroupStart) →
        ∃ u ∈ earlier, Link.Confirms u g := by
  intro hc
  have ha : Mealy.Along Link.step Link.Ordered {} (Sample.lostStart ++ [.pass {}]) :=
    Sample.startGroup_ordered (by simp [Link.Ordered])
  have ht := Mealy.trace_concat Link.step {} Sample.lostStart (.pass {})
  obtain ⟨u, hu, hn⟩ := hc _ ha _ _ [] 1 ht
    ⟨.sessionStopped 1, .tail _ (.tail _ (.tail _ (.head _))), rfl⟩
    ⟨_, mem_cons_self, _, _, _, _, rfl, mem_cons_self⟩
  obtain ⟨_, _, _, _, _, _, _, hi, hg, _, hd, hp⟩ := hn
  rcases mem_cons.mp hu with rfl | hu
  · cases hi
  · obtain rfl := mem_singleton.mp hu
    cases hi
    cases hg
    cases hd
    simp [CommandReceipt.poll] at hp

end OpenAirCast.Bridge
