/-
Client.PlaybackTheorems — when stop is no dead end, and when the
reported playback state is what the speakers get.

SETUP is refused from every state but `Paired`, and only once it was sent and
the timing server replaced (`setup_refused`); a stop leaves the session where
it was, so the second start of a connection meets that refusal. Pause and
resume move the connection's streamer before the request that may fail, and
never the group's (`pause_moves`, `resume_moves`).
-/
import OpenAirCast.Client.Playback

namespace OpenAirCast.Client.Playback

open Option RtspSession

open OpenAirCast.Audio (StreamerState)

namespace Connection

variable {c : Connection}

/-- Every request is answered by a well-formed 200, every socket is bound,
the receiver's clock is heard and the streamer starts. -/
structure Good (a : StartAnswers) : Prop where
  timing : a.timingPort.isSome = true
  phase1 : ∃ ports, a.phase1 = some (some ports)
  address : a.hasAddress = true
  control : a.controlPort.isSome = true
  phase2 : ∃ ports, a.phase2 = some (some ports)
  clock : a.clock = true
  binds : a.senderBinds = true
  starts : a.starts = true

/-- SETUP ends before its first reply. -/
def StopsEarly (c : Connection) (a : SetupAnswers) : Prop :=
  c.startTiming a = none ∨ a.phase1 = none

theorem startTiming_keeps {a : SetupAnswers} {d : Connection} (h : c.startTiming a = some d) :
    ∃ timingServer, d = { c with timingServer } := by
  unfold startTiming at h
  split at h
  · obtain ⟨_, -, rfl⟩ := map_eq_some_iff.mp h
    exact ⟨_, rfl⟩
  · cases h
    exact ⟨_, rfl⟩

/-! ## SETUP -/

theorem setup_refused (a : SetupAnswers) (h : c.session.state ≠ .paired) :
    (c.setup a).1.session = c.session ∧ (c.StopsEarly a ∧ (c.setup a).2 = .error .other ∨
        ¬ c.StopsEarly a ∧ (c.setup a).2 = .error (.sessionState c.session.state) ∧
          (c.setup a).1.sent = c.sent ++ [.setup]) := by
  unfold setup StopsEarly
  cases hd : c.startTiming a with
  | none => exact ⟨rfl, .inl ⟨.inl rfl, rfl⟩⟩
  | some d =>
    obtain ⟨_, rfl⟩ := startTiming_keeps hd
    cases hp : a.phase1 with
    | none => exact ⟨rfl, .inl ⟨.inr rfl, rfl⟩⟩
    | some response =>
      simp [required, request, processSetupPhase1Response, refuseIf, h, exit, attempt]

variable (a : StartAnswers)

/-- From `Paired` the session's state is no reason to fail. -/
theorem setup_paired (h : c.session.state = .paired) : let r := c.setup a.toSetupAnswers
    (∀ st, r.2 ≠ .error (.sessionState st)) ∧
      (r.2 = .ok () → r.1.session.state = .ready) ∧ (Good a → r.2 = .ok ()) := by
  simp only [setup]
  cases hd : c.startTiming a.toSetupAnswers with
  | none =>
    refine ⟨by simp [required, exit], by simp [required, exit], fun hg => ?_⟩
    obtain ⟨port, hr⟩ := isSome_iff_exists.mp hg.timing
    unfold startTiming at hd
    split at hd <;> simp [hr] at hd
  | some d =>
    obtain ⟨_, rfl⟩ := startTiming_keeps hd
    -- each reply decides how far it goes
    rcases hp : a.phase1 with _ | _ | ports <;> rcases hq : a.phase2 with _ | _ | ports' <;>
      cases hk : a.controlPort <;> cases ha : a.hasAddress <;> cases hc : a.clock <;>
      refine ⟨?_, ?_, fun hg => ?_⟩ <;>
      first
        | (cases hg; simp_all)
        | skip
    all_goals simp [required, request, processSetupPhase1Response,
        processSetupPhase2Response, buildSetupPhase2, refuseIf, h, exit,
        attempt]
    all_goals split <;> simp

/-- The streamer and the reported state are as before. -/
def Keeps (c d : Connection) : Prop :=
  d.streamer = c.streamer ∧ d.playbackState = c.playbackState

theorem setup_keeps (c : Connection) (a : SetupAnswers) : c.Keeps (c.setup a).1 := by
  unfold setup
  cases hd : c.startTiming a with
  | none => exact ⟨rfl, rfl⟩
  | some d =>
    obtain ⟨_, rfl⟩ := startTiming_keeps hd
    simp only [required, attempt, refuseIf, exit]
    repeat' split
    all_goals exact ⟨rfl, rfl⟩

/-! ## The starts -/

/-- What a start from `Paired` or `Ready` comes to. -/
structure Begun (c : Connection) (a : StartAnswers) (streamer : StreamerState)
    (r : Connection.Result) : Prop where
  admitted : ∀ state, r.2 ≠ .error (.sessionState state)
  good : Good a → r.2 = .ok ()
  plays : r.2 = .ok () → r.1.streamer = some streamer ∧ r.1.playbackState = .playing
  fails : ∀ error, r.2 = .error error → c.Keeps r.1

variable (streamer : StreamerState)

theorem startWith_ready
    (h : c.session.state = .ready) : c.Begun a streamer (c.startWith a streamer) := by
  obtain ⟨ports, hports⟩ := isSome_iff_exists.mp (c.session.known (by rw [h]; rfl))
  simp only [startWith, h, ne_eq, not_true_eq_false, if_false, attempt, required, hports]
  by_cases hrefused : a.hasAddress = false ∨ a.senderBinds = false
  · refine ⟨?_, fun hg => ?_, ?_, fun _ _ => ?_⟩ <;> simp [refuseIf, hrefused, exit, Keeps]
    simp [hg.address, hg.binds] at hrefused
  · by_cases hstarts : a.starts = false
    · refine ⟨?_, fun hg => ?_, ?_, fun _ _ => ?_⟩ <;>
        simp [refuseIf, hrefused, hstarts, exit, request, Keeps]
      simp [hg.starts] at hstarts
    · constructor <;> simp [refuseIf, hrefused, hstarts, request, startPlaying, h]

theorem startWith_of_setup {a : StartAnswers}
    (h : c.session.state ≠ .ready) (ho : (c.setup a.toSetupAnswers).2 = .ok ())
    (hready : (c.setup a.toSetupAnswers).1.session.state = .ready) :
    c.startWith a streamer = (c.setup a.toSetupAnswers).1.startWith a streamer := by
  simp [startWith, h, ho, hready]

theorem startWith_of_error {a : StartAnswers} {err : CallError}
    (h : c.session.state ≠ .ready) (he : (c.setup a.toSetupAnswers).2 = .error err) :
    c.startWith a streamer = ((c.setup a.toSetupAnswers).1, .error err) := by
  simp [startWith, h, he, attempt, exit]

theorem startWith_begun (h : c.session.state = .paired ∨ c.session.state = .ready) :
    c.Begun a streamer (c.startWith a streamer) := by
  rcases h with h | h
  · have hne : c.session.state ≠ .ready := by simp [h]
    obtain ⟨hadmitted, hready, hd⟩ := setup_paired a h
    have hkeeps := setup_keeps c a.toSetupAnswers
    cases hr : (c.setup a.toSetupAnswers).2 with
    | ok =>
      rw [startWith_of_setup streamer hne hr (hready hr)]
      have hb := startWith_ready a streamer (hready hr)
      refine ⟨hb.admitted, hb.good, hb.plays, fun error he => ?_⟩
      have hl := hb.fails error he
      exact ⟨hl.1.trans hkeeps.1, hl.2.trans hkeeps.2⟩
    | error error =>
      rw [startWith_of_error streamer hne hr]
      refine ⟨fun state heq => ?_, fun hg => ?_, fun ho => (nomatch ho), fun _ _ => hkeeps⟩
      · exact hadmitted state (hr.trans heq)
      · rw [hd hg] at hr
        cases hr
  · exact startWith_ready a streamer h

/-- From any other state the start fails in SETUP. -/
theorem startWith_refused (h : ¬ (c.session.state = .paired ∨ c.session.state = .ready)) :
    let r := c.startWith a streamer
    (∃ err, r.2 = .error err) ∧ r.1.session = c.session ∧ c.Keeps r.1 ∧
      (c.StopsEarly a.toSetupAnswers ∧ r.2 = .error .other ∨
        ¬ c.StopsEarly a.toSetupAnswers ∧ r.2 = .error (.sessionState c.session.state) ∧
          r.1.sent = c.sent ++ [.setup]) := by
  intro r
  have hkeeps := setup_keeps c a.toSetupAnswers
  obtain ⟨hs, hn⟩ := setup_refused a.toSetupAnswers (fun hp => h (.inl hp))
  obtain ⟨err, he⟩ : ∃ err, (c.setup a.toSetupAnswers).2 = .error err := by
    rcases hn with ⟨-, he⟩ | ⟨-, he, -⟩ <;> exact ⟨_, he⟩
  have hr : r = ((c.setup a.toSetupAnswers).1, .error err) :=
    startWith_of_error streamer (fun hp => h (.inr hp)) he
  rw [hr]
  refine ⟨⟨err, rfl⟩, hs, hkeeps, ?_⟩
  rwa [he] at hn

/-! ## Stop is no dead end -/

/-- The answers of a start, if the call is one. -/
def Call.answers : Call → Option StartAnswers
  | .startStreaming a _ | .startStreamingLive a => some a
  | _ => none

abbrev Turn := Mealy.Turn Connection Call (Except CallError Unit)

/-- After calls that all returned `Ok` and a stop, a start on good answers
returns `Ok`; and a start the session's state refuses sends no SETUP and
replaces neither the timing server nor the ports. -/
structure NoDeadEnd (earlier : List Turn) (t : Turn) (a : StartAnswers) : Prop where
  restarts : (∀ u ∈ earlier, u.output = .ok ()) → (∃ u ∈ earlier, u.input = .stop) → Good a →
    t.output = .ok ()
  harmless : ∀ state, t.output = .error (.sessionState state) →
    t.after.sent.count .setup = t.before.sent.count .setup ∧
      t.after.timingServer = t.before.timingServer ∧
      t.after.session.ports = t.before.session.ports

theorem startWith_noDeadEnd_iff (c : Connection) (earlier : List Turn) (call : Call)
    (a : StartAnswers) (streamer : StreamerState) (hs : c.step call = c.startWith a streamer) :
    NoDeadEnd earlier (Mealy.turn step c call) a ↔
      (c.session.state = .paired ∨ c.session.state = .ready) ∨ c.StopsEarly a.toSetupAnswers := by
  have ho : (Mealy.turn step c call).output = (c.startWith a streamer).2 := by
    rw [← hs]
    rfl
  have ha : (Mealy.turn step c call).after = (c.startWith a streamer).1 := by
    rw [← hs]
    rfl
  by_cases h : c.session.state = .paired ∨ c.session.state = .ready
  · have hb := startWith_begun a streamer h
    refine ⟨fun _ => .inl h, fun _ => ⟨fun _ _ hg => ?_, fun st he => ?_⟩⟩
    · rw [ho, hb.good hg]
    · rw [ho] at he
      exact absurd he (hb.admitted st)
  · obtain ⟨-, -, -, hn⟩ := startWith_refused a streamer h
    rcases hn with ⟨hearly, he⟩ | ⟨hl, he, hsn⟩
    · refine ⟨fun _ => .inr hearly, fun _ => ⟨fun _ _ hg => ?_, fun st he' => ?_⟩⟩
      · obtain ⟨port, hp⟩ := isSome_iff_exists.mp hg.timing
        obtain ⟨_, hh⟩ := hg.phase1
        rcases hearly with htiming | hnn
        · unfold startTiming at htiming
          split at htiming <;> simp [hp] at htiming
        · simp [hh] at hnn
      · rw [ho, he] at he'
        cases he'
    · refine ⟨fun hno => ?_, fun hr => (hr.elim h hl).elim⟩
      -- SETUP was sent before the refusal
      have hcount := (hno.harmless _ (ho.trans he)).1
      rw [ha, hsn] at hcount
      simp [Mealy.turn] at hcount

/-- In every run of calls on a connection, a start keeps both promises if
and only if the session is `Paired` or `Ready` when it is made, or SETUP ends
before its first reply. -/
theorem restart_after_stop_iff (c : Connection) (calls : List Call) (earlier later : List Turn)
    (t : Turn) (a : StartAnswers) (hrun : Mealy.trace step c calls = earlier ++ t :: later)
    (hstart : t.input.answers = some a) :
    NoDeadEnd earlier t a ↔ (t.before.session.state = .paired ∨ t.before.session.state = .ready) ∨
        t.before.StopsEarly a.toSetupAnswers := by
  obtain ⟨front, _, -, ht, -, -⟩ := Mealy.trace_split hrun
  generalize Mealy.run step c front = s at ht
  generalize t.input = call at ht hstart
  subst ht
  cases call with
  | startStreaming b primed =>
    cases hstart
    exact startWith_noDeadEnd_iff s earlier _ a _ rfl
  | startStreamingLive b =>
    cases hstart
    exact startWith_noDeadEnd_iff s earlier _ a _ rfl
  | _ => cases hstart

namespace Sample

def paired : Connection where
  session := { state := .paired, ports := none, known := fun h => nomatch h }
  timingProtocol := .ntp

/-- Answers on which everything succeeds. -/
def good : StartAnswers where
  timingPort := some 6002
  phase1 := some (some (7001, 7002))
  hasAddress := true
  controlPort := some 6003
  phase2 := some (some (7003, 7004))
  clock := true
  senderBinds := true
  starts := true

def restarted : List Call := [.startStreamingLive good, .stop, .startStreamingLive good]

end Sample

/-- A stop before anything was set up leaves the session `Paired`. -/
theorem restart_after_stop_unused : NoDeadEnd (Mealy.trace step Sample.paired [.stop])
      (Mealy.turn step (Mealy.run step Sample.paired [.stop]) (.startStreamingLive Sample.good))
      Sample.good :=
  (restart_after_stop_iff Sample.paired [.stop, .startStreamingLive Sample.good] _ [] _ Sample.good
    rfl rfl).mpr (.inl (.inl rfl))

/-- The second start meets a session that is still `Playing`. -/
theorem stop_is_dead_end :
    ¬ ∀ (c : Connection) (calls : List Call) (earlier later : List Turn) (t : Turn)
      (a : StartAnswers), Mealy.trace step c calls = earlier ++ t :: later →
      t.input.answers = some a → NoDeadEnd earlier t a := by
  intro h
  have hn := h Sample.paired Sample.restarted
    (Mealy.trace step Sample.paired (Sample.restarted.take 2)) [] _ Sample.good rfl rfl
  have hg : Good Sample.good := ⟨rfl, ⟨_, rfl⟩, rfl, rfl, ⟨_, rfl⟩, rfl, rfl, rfl⟩
  have ho := hn.restarts ?_ ⟨_, List.mem_cons_of_mem _ List.mem_cons_self, rfl⟩ hg
  · cases ho
  · intro u hu
    rcases List.mem_cons.mp hu with rfl | hu
    · rfl
    · rw [List.mem_singleton.mp hu]
      rfl

/-! ## Pause and resume -/

/-- What pausing or resuming the session comes to: the streamer has moved
before the request is sent, the records only once it is answered. -/
inductive Moves (c : Connection) (allowed : Prop) (state : SessionState)
    (playback : PlaybackState) (move : StreamerState → StreamerState) (r : Result) : Prop
  | done (h : allowed) (ho : r.2 = .ok ()) (hs : r.1.session.state = state)
      (hp : r.1.playbackState = playback)
      (ht : r.1.streamer = c.streamer.map move)
  | failed (h : ¬ allowed) (error : CallError) (he : r.2 = .error error)
      (hs : r.1.session = c.session) (hp : r.1.playbackState = c.playbackState)
      (ht : r.1.streamer = c.streamer.map move)

theorem pause_moves (c : Connection) (answered : Bool) :
    c.Moves (c.session.state = .playing ∧ answered = true) .paused .paused pauseStreamer
      (c.pause answered) := by
  cases answered with
  | false => exact .failed (by simp) _ rfl rfl rfl rfl
  | true =>
    by_cases h : c.session.state = .playing
    · apply Moves.done ⟨h, rfl⟩ <;> simp [pause, request, refuseIf, RtspSession.pause, h, attempt]
    · apply Moves.failed (by simp [h]) (.sessionState c.session.state) <;>
        simp [pause, request, refuseIf, RtspSession.pause, h, attempt, exit]

theorem resume_moves (c : Connection) (answered : Bool) :
    c.Moves ((c.session.state = .ready ∨ c.session.state = .paused) ∧ answered = true) .playing
      .playing resumeStreamer (c.resume answered) := by
  cases answered with
  | false => exact .failed (by simp) _ rfl rfl rfl rfl
  | true =>
    by_cases h : c.session.state = .ready ∨ c.session.state = .paused
    · have hn : ¬ (c.session.state ≠ .ready ∧ c.session.state ≠ .paused) := by tauto
      apply Moves.done ⟨h, rfl⟩ <;> simp [resume, request, refuseIf, startPlaying, hn, attempt]
    · have hy : c.session.state ≠ .ready ∧ c.session.state ≠ .paused := by tauto
      apply Moves.failed (by simp [h]) (.sessionState c.session.state) <;>
        simp [resume, request, refuseIf, startPlaying, hy, attempt, exit]

end Connection

namespace AirPlayClient

variable {c : AirPlayClient}

abbrev Turn := Mealy.Turn AirPlayClient Call (Except CallError Unit)

/-- The streamer that carries the audio. -/
def carrier (c : AirPlayClient) : Option StreamerState :=
  c.groupStreamer.or c.connection.streamer

def Sounding (state : StreamerState) : Prop :=
  state ≠ .paused ∧ state ≠ .stopped ∧ state ≠ .error

/-- What is reported is what the carrier does. -/
structure Shows (c : AirPlayClient) : Prop where
  paused : c.playbackState = .paused ↔ c.carrier = some .paused
  playing : c.playbackState = .playing ↔ ∃ state, c.carrier = some state ∧ Sounding state

/-- Nothing that is reported has changed. -/
structure Unmoved (before after : AirPlayClient) : Prop where
  playbackState : after.playbackState = before.playbackState
  session : after.connection.session.state = before.connection.session.state
  carrier : after.carrier = before.carrier

/-- Success shows, and a refused pause or resume moves nothing. -/
def Faithful (t : Turn) : Prop :=
  match t.input with
  | .drift .. => True
  | .pause _ | .resume _ =>
    (t.output = .ok () → Shows t.after) ∧
      ∀ error, t.output = .error error → Unmoved t.before t.after
  | _ => t.output = .ok () → Shows t.after

/-- The connection's own streamer carries the audio, in the given state. -/
def Own (c : AirPlayClient) (state : StreamerState) : Prop :=
  c.groupStreamer = none ∧ c.connection.streamer = some state

/-- A pause or resume that succeeds moves the carrier, and one that fails
finds nothing to move. -/
def Matched (c : AirPlayClient) : Call → Prop
  | .pause answered =>
    if c.connection.session.state = .playing ∧ answered = true then
      c.Own .streaming ∨ c.Own .paused
    else ¬ c.Own .streaming
  | .resume answered =>
    if (c.connection.session.state = .ready ∨ c.connection.session.state = .paused) ∧
        answered = true then
      c.groupStreamer ≠ none ∨ c.Own .buffering ∨ c.Own .streaming ∨ c.Own .paused
    else ¬ c.Own .paused
  | _ => True

/-- The states a streamer that was started can be in. -/
def Started (state : StreamerState) : Prop := state ≠ .idle ∧ state ≠ .error

/-- The group's streamer always runs, and its state is only ever `Paused`
together with the session's. -/
structure Coherent (c : AirPlayClient) : Prop where
  group : ∀ state, c.groupStreamer = some state → state = .buffering ∨ state = .streaming
  own : ∀ state, c.connection.streamer = some state → Started state
  reported : ∀ state, c.groupPlaybackState = some state →
    state = .playing ∨ state = .paused ∧ c.connection.session.state = .paused

theorem shows_paused (h : c.playbackState = .paused) : c.Shows ↔ c.carrier = some .paused := by
  refine ⟨fun hs => hs.paused.mp h, fun hc => ⟨by simp [h, hc], ?_⟩⟩
  simp [h, hc, Sounding]

theorem shows_playing (h : c.playbackState = .playing) :
    c.Shows ↔ ∃ st, c.carrier = some st ∧ Sounding st := by
  refine ⟨fun hs => hs.playing.mp h, fun hc => ⟨?_, by simp [h, hc]⟩⟩
  obtain ⟨st, hstate, hsound⟩ := hc
  simp [h, hstate, hsound.1]

variable {r : Connection.Result} (group : Option PlaybackState)

theorem after_ok (h : r.2 = .ok ()) :
    c.after r group = ({ c with connection := r.1, groupPlaybackState := group }, .ok ()) := by
  simp [after, h]

theorem after_error {err : CallError}
    (h : r.2 = .error err) : c.after r group = ({ c with connection := r.1 }, .error err) := by
  simp [after, h]

theorem Coherent.sounds (h : c.Coherent)
    (ho : ∃ st, c.connection.streamer = some st ∧ Sounding st) :
    ∃ st, c.carrier = some st ∧ Sounding st := by
  cases hg : c.groupStreamer with
  | none => simpa [carrier, hg] using ho
  | some st =>
    refine ⟨st, by simp [carrier, hg], ?_⟩
    rcases h.group st hg with rfl | rfl <;> simp [Sounding]

/-- A start keeps the client coherent, and one that succeeds shows. -/
theorem start_step (h : c.Coherent) (a : StartAnswers) (streamer : StreamerState)
    (ht : streamer = .buffering ∨ streamer = .streaming) :
    let r := c.after (c.connection.startWith a streamer) c.groupPlaybackState
    r.1.Coherent ∧ (r.2 = .ok () → r.1.Shows) := by
  by_cases hstate : c.connection.session.state = .paired ∨ c.connection.session.state = .ready
  · have hb := Connection.startWith_begun a streamer hstate
    have hreported : ∀ state, c.groupPlaybackState = some state → state = .playing := by
      intro state hg
      rcases h.reported state hg with hp | ⟨-, hp⟩
      · exact hp
      · simp [hp] at hstate
    cases hr : (c.connection.startWith a streamer).2 with
    | ok =>
      obtain ⟨hw, hplays⟩ := hb.plays hr
      rw [after_ok _ hr]
      have hc : Coherent { c with connection := (c.connection.startWith a streamer).1 } := by
        refine ⟨h.group, fun state hs => ?_, fun state hg => .inl (hreported state hg)⟩
        obtain rfl : streamer = state := Option.some.inj (hw.symm.trans hs)
        rcases ht with rfl | rfl <;> simp [Started]
      refine ⟨hc, fun _ => (shows_playing ?_).mpr (hc.sounds ⟨streamer, hw, ?_⟩)⟩
      · cases hg : c.groupPlaybackState with
        | none => simpa [playbackState, hg] using hplays
        | some state => simp [playbackState, hreported state hg]
      · rcases ht with rfl | rfl <;> simp [Sounding]
    | error error =>
      rw [after_error _ hr]
      refine ⟨⟨h.group, fun state hs => ?_, fun state hg => .inl (hreported state hg)⟩,
        fun ho => (nomatch ho)⟩
      exact h.own state ((hb.fails error hr).1 ▸ hs)
  · obtain ⟨⟨_, hr⟩, he, hkeeps, -⟩ := Connection.startWith_refused a streamer hstate
    rw [after_error _ hr]
    refine ⟨⟨h.group, fun state hs => h.own state (hkeeps.1 ▸ hs), fun state hg => ?_⟩,
      fun ho => (nomatch ho)⟩
    rw [he]
    exact h.reported state hg

variable {move : StreamerState → StreamerState} {playback : PlaybackState} {st : SessionState}
  {allowed : Prop}

theorem moved_coherent (h : c.Coherent) (hm : c.connection.Moves allowed st playback move r)
    (hv : ∀ old, Started old → Started (move old))
    (hplayback : playback = .playing ∨ playback = .paused ∧ st = .paused) :
    (c.after r (c.groupPlaybackState.map fun _ => playback)).1.Coherent := by
  have ho : ∀ st, c.connection.streamer.map move = some st → Started st := by
    intro st hs
    obtain ⟨old, hold, rfl⟩ := map_eq_some_iff.mp hs
    exact hv old (h.own old hold)
  cases hm with
  | done _ hk hstate _ ht =>
    rw [after_ok _ hk]
    refine ⟨h.group, fun st hs => ho st (ht ▸ hs), fun st hs => ?_⟩
    obtain ⟨-, -, rfl⟩ := map_eq_some_iff.mp hs
    exact hplayback.imp_right fun hp => ⟨hp.1, hstate.trans hp.2⟩
  | failed _ err he hse _ ht =>
    rw [after_error _ he]
    refine ⟨h.group, fun st hs => ho st (ht ▸ hs), fun st hs => ?_⟩
    rw [hse]
    exact h.reported st hs

/-- Whether such a call is faithful: what a success reports has to be what
the carrier then does, and a failure must not have moved it. -/
theorem moved_faithful_iff [Decidable allowed]
    (hm : c.connection.Moves allowed st playback move r) (turn : Turn)
    (houtput : turn.output = (c.after r (c.groupPlaybackState.map fun _ => playback)).2)
    (hafter : turn.after = (c.after r (c.groupPlaybackState.map fun _ => playback)).1)
    (hbefore : turn.before = c)
    (hinput : Faithful turn ↔ (turn.output = .ok () → Shows turn.after) ∧
      ∀ err, turn.output = .error err → Unmoved turn.before turn.after)
    {moved still : Prop}
    (hmoved : ∀ d : AirPlayClient, d.playbackState = playback →
      d.carrier = c.groupStreamer.or (c.connection.streamer.map move) → (d.Shows ↔ moved))
    (hstill : c.groupStreamer.or (c.connection.streamer.map move) = c.carrier ↔ still) :
    Faithful turn ↔ if allowed then moved else still := by
  rw [hinput, houtput, hafter, hbefore]
  cases hm with
  | done h ho _ hplayback hs =>
    rw [if_pos h, after_ok _ ho]
    have hshows := hmoved { c with
        connection := r.1, groupPlaybackState := c.groupPlaybackState.map fun _ => playback }
      (by cases hg : c.groupPlaybackState <;> simp [playbackState, hplayback])
      (by simp [carrier, hs])
    refine ⟨fun hf => hshows.mp (hf.1 rfl), fun hv => ⟨fun _ => hshows.mpr hv, ?_⟩⟩
    exact fun err he => (nomatch he)
  | failed h err he hse hplayback hs =>
    rw [if_neg h, after_error _ he, ← hstill]
    have hcarrier : { c with connection := r.1 }.carrier
        = c.groupStreamer.or (c.connection.streamer.map move) := by simp [carrier, hs]
    constructor
    · exact fun hf => hcarrier.symm.trans (hf.2 err rfl).carrier
    · refine fun hsm => ⟨fun ho => (nomatch ho), fun _ _ => ⟨?_, ?_, hcarrier.trans hsm⟩⟩
      · simp [playbackState, hplayback]
      · simp [hse]

theorem pause_faithful_iff (h : c.Coherent) (answered : Bool) :
    Faithful (Mealy.turn step c (.pause answered)) ↔ c.Matched (.pause answered) := by
  refine moved_faithful_iff (c.connection.pause_moves answered) _ rfl rfl rfl Iff.rfl ?_ ?_
  · intro d hd hcarrier
    rw [shows_paused hd, hcarrier]
    cases hg : c.groupStreamer with
    | none =>
      cases hs : c.connection.streamer with
      | none => simp [Own, hs]
      | some st => cases st <;> simp [Own, hg, hs, pauseStreamer]
    | some st => rcases h.group st hg with rfl | rfl <;> simp [Own, hg]
  · cases hg : c.groupStreamer with
    | none =>
      cases hs : c.connection.streamer with
      | none => simp [carrier, Own, hg, hs]
      | some st => cases st <;> simp [carrier, Own, hg, hs, pauseStreamer]
    | some st => simp [carrier, Own, hg]

theorem resume_faithful_iff (h : c.Coherent) (answered : Bool) :
    Faithful (Mealy.turn step c (.resume answered)) ↔ c.Matched (.resume answered) := by
  refine moved_faithful_iff (c.connection.resume_moves answered) _ rfl rfl rfl Iff.rfl ?_ ?_
  · intro d hd hcarrier
    rw [shows_playing hd, hcarrier]
    cases hg : c.groupStreamer with
    | none =>
      cases hs : c.connection.streamer with
      | none => simp [Own, hs]
      | some st =>
        have hstarted := h.own st hs
        cases st <;> simp_all [Own, resumeStreamer, Sounding, Started]
    | some st => rcases h.group st hg with rfl | rfl <;> simp [Sounding]
  · cases hg : c.groupStreamer with
    | none =>
      cases hs : c.connection.streamer with
      | none => simp [carrier, Own, hg, hs]
      | some st => cases st <;> simp [carrier, Own, hg, hs, resumeStreamer]
    | some st => simp [carrier, Own, hg]

variable (old : StreamerState)

theorem pauseStreamer_started (h : Started old) : Started (pauseStreamer old) := by
  cases old <;> simp_all [Started, pauseStreamer]

theorem resumeStreamer_started (h : Started old) : Started (resumeStreamer old) := by
  cases old <;> simp_all [Started, resumeStreamer]

theorem drifted_started (aimed : StreamerState) {old : StreamerState} (h : Started old) :
    Started (drifted old aimed) := by
  unfold drifted
  split
  · rename_i haimed
    rcases haimed with ⟨-, rfl | rfl⟩ | ⟨-, rfl⟩ <;> simp [Started]
  · exact h

/-- The same for a group start. -/
theorem startGroup_step (h : c.Coherent) (ready primed : Bool) :
    (c.startGroup ready primed).1.Coherent ∧
      ((c.startGroup ready primed).2 = .ok () → (c.startGroup ready primed).1.Shows) := by
  unfold startGroup
  simp only [refuseIf]
  split
  · exact ⟨⟨fun st hs => (by cases hs), h.own, h.reported⟩, fun ho => (by cases ho)⟩
  · have hc : Coherent { c with
        connection := c.connection.request .flush
        groupStreamer := some (if primed then .streaming else .buffering)
        groupPlaybackState := some .playing } := by
      refine ⟨fun st hs => ?_, h.own, fun st hs => .inl (Option.some.inj hs).symm⟩
      obtain rfl := Option.some.inj hs
      cases primed <;> simp
    refine ⟨hc, fun _ => (shows_playing rfl).mpr ⟨_, rfl, ?_⟩⟩
    cases primed <;> simp [Sounding]

/-- A call is faithful exactly if it is matched. -/
theorem step_spec (h : c.Coherent) (call : Call) :
    (c.step call).1.Coherent ∧ (Faithful (Mealy.turn step c call) ↔ c.Matched call) := by
  cases call with
  | startStreaming a primed =>
    have hstart := start_step h a (if primed then .streaming else .buffering)
      (by cases primed <;> simp)
    exact ⟨hstart.1, fun _ => trivial, fun _ => hstart.2⟩
  | startStreamingLiveGated a gated =>
    have hstart := start_step h a (if gated then .buffering else .streaming)
      (by cases gated <;> simp)
    exact ⟨hstart.1, fun _ => trivial, fun _ => hstart.2⟩
  | startGroup ready primed =>
    exact ⟨(startGroup_step h ready primed).1, fun _ => trivial,
      fun _ => (startGroup_step h ready primed).2⟩
  | pause answered =>
    exact ⟨moved_coherent h (c.connection.pause_moves answered) pauseStreamer_started
      (.inr ⟨rfl, rfl⟩), pause_faithful_iff h answered⟩
  | resume answered =>
    exact ⟨moved_coherent h (c.connection.resume_moves answered) resumeStreamer_started (.inl rfl),
      resume_faithful_iff h answered⟩
  | stop =>
    refine ⟨⟨fun st hs => (nomatch hs), fun st hs => ?_, fun st hs => (nomatch hs)⟩,
      fun _ => trivial, fun _ _ => ?_⟩
    · obtain ⟨-, -, rfl⟩ := map_eq_some_iff.mp hs
      simp [Started]
    · cases hs : c.connection.streamer <;> refine ⟨?_, ?_⟩ <;>
        simp [Mealy.turn, step, stop, Connection.stop, after, playbackState, carrier, hs, Sounding]
  | drift own group =>
    refine ⟨⟨fun st hs => ?_, fun st hs => ?_, h.reported⟩, fun _ => trivial, fun _ => trivial⟩
    · obtain ⟨old, hold, rfl⟩ := map_eq_some_iff.mp hs
      rcases h.group old hold with rfl | rfl <;> cases group <;> simp [drifted]
    · obtain ⟨old, hold, rfl⟩ := map_eq_some_iff.mp hs
      exact drifted_started own (h.own old hold)

/-- Over every run of a connected client that has not played yet, a call is
faithful if and only if it is matched. -/
theorem reported_state_iff (session : RtspSession) (timingProtocol : TimingProtocol)
    (ptpMaster : Bool) (calls : List Call) :
    ∀ t ∈ Mealy.trace step { connection := { session, timingProtocol, ptpMaster } } calls,
      Faithful t ↔ t.before.Matched t.input :=
  Mealy.forall_turn (fun _ call h => (step_spec h call).1)
    (fun _ call h => (step_spec h call).2) calls
    ⟨fun _ hs => (nomatch hs), fun _ hs => (nomatch hs), fun _ hs => (nomatch hs)⟩

/-- A stream that is paused and goes on. -/
def Sample.resumed : List Call :=
  [.startStreamingLiveGated Connection.Sample.good false, .pause true, .resume true]

/-- Both moves reach the streamer that carries the audio. -/
theorem reported_state_iff_resumed :
    (Mealy.run step { connection := Connection.Sample.paired } Sample.resumed).Shows ∧
      ∀ t ∈ Mealy.trace step { connection := Connection.Sample.paired } Sample.resumed,
        Faithful t := by
  refine ⟨(shows_playing rfl).mpr ⟨_, rfl, by decide, by decide, by decide⟩, fun t ht => ?_⟩
  refine (reported_state_iff _ _ _ _ t ht).mpr ?_
  rcases List.mem_cons.mp ht with rfl | ht
  · trivial
  · rcases List.mem_cons.mp ht with rfl | ht
    · exact .inl ⟨rfl, rfl⟩
    · rw [List.mem_singleton.mp ht]
      exact .inr (.inr (.inr ⟨rfl, rfl⟩))

/-- A FLUSH that gets no reply leaves a streamer that is paused and a client
that reports `Playing`. -/
theorem failed_pause_silences :
    ¬ ∀ (session : RtspSession) (timingProtocol : TimingProtocol) (ptpMaster : Bool)
      (calls : List Call),
      ∀ t ∈ Mealy.trace step { connection := { session, timingProtocol, ptpMaster } } calls,
        Faithful t := by
  intro h
  have hmem := @Mealy.turn_mem_trace _ _ _ step { connection := Connection.Sample.paired }
    [.startStreamingLiveGated Connection.Sample.good false] [] (.pause false)
  have hf := h _ _ _ _ _ hmem
  have hcarrier := (hf.2 .other rfl).carrier
  cases hcarrier

end AirPlayClient

end OpenAirCast.Client.Playback
