/-
Bridge.SettleTheorems — the window settles on the backend's
real session.

`Receipts` says that a group start's receipt is looked at by the first
pass whose revision allows it. `Leads` says that the backend's run intent
follows the newest recorded edge, so an answer the edge does not admit
cannot be the backend's last word. With a delivered answer this settles
the window.

`Leads` has an exception, `strandsStart`: a group start over a running
session carries no generation, and when the newest edge is an unanswered
Stop, the session runs on under an edge that only a stop answers.
-/
import OpenAirCast.Bridge.DeliveryTheorems

namespace OpenAirCast.Bridge

open OpenAirCast.Backend List Actor Option Sample CommandReceipt BackendPort

namespace Stage

/-- The snapshot of the pass under way. -/
def snapshot : Stage → Option DeviceSnapshot
  | .resting => none
  | .looked snapshot | .targeting snapshot _ | .grouping snapshot | .settingVolume snapshot
  | .listening snapshot => some snapshot

/-- The pass has projected its snapshot and not yet looked at the group
slot. -/
def isBetween : Stage → Bool
  | .targeting _ _ | .grouping _ => true
  | .resting | .looked _ | .settingVolume _ | .listening _ => false

end Stage

namespace Runtime

/-! ## Receipts -/

/-- The group slot holds a receipt, or is about to. -/
def Holds (s : Runtime) (receipt : CommandReceipt) : Prop :=
  ∃ pending id, s.due.group = some pending ∧ pending.admission = .ok (id, receipt)

/-- The bridge looks at what the backend has published, and no answer to
the held receipt is missed: outside a pass, the last projected revision is
older than the one the answer names. -/
structure Receipts (s : Runtime) : Prop where
  sound : s.actor.Sound s.nextId
  seen : ∀ snapshot seen, s.projected = some (snapshot, seen) → s.actor.Taken snapshot
  staged : ∀ snapshot, s.stage.snapshot = some snapshot → s.actor.Taken snapshot
  passing : s.stage.isBetween = true → ∀ snapshot, s.stage.snapshot = some snapshot →
    ∃ seen, s.projected = some (snapshot, seen)
  observed : ∀ receipt confirmation, s.Holds receipt → receipt.confirmed = some confirmation →
    s.actor.channels receipt.receiver = .sent confirmation
  overdue : s.stage.isBetween = false → ∀ receipt confirmation snapshot seen, s.Holds receipt →
    s.actor.channels receipt.receiver = .sent confirmation →
    s.projected = some (snapshot, seen) → snapshot.revision < confirmation.revision

theorem poll_receiver (rcpt : CommandReceipt) (channel : Oneshot) (rev : Nat) :
    (rcpt.poll channel rev).1.receiver = rcpt.receiver := by
  unfold poll
  split
  · rfl
  · split <;> rfl

theorem poll_observed {rcpt : CommandReceipt} {channel : Oneshot} (rev : Nat)
    (ho : ∀ conf, rcpt.confirmed = some conf → channel = .sent conf) :
    ∀ conf, (rcpt.poll channel rev).1.confirmed = some conf → channel = .sent conf := by
  intro conf h
  unfold poll at h
  split at h
  · exact ho conf h
  · rename_i hn
    split at h
    · exact ho conf h
    · exact ho conf h
    · rw [Option.some.inj h]

theorem poll_sent {rcpt : CommandReceipt} {conf : CommandConfirmation} (rev : Nat)
    (ho : ∀ c, rcpt.confirmed = some c → Oneshot.sent conf = .sent c) :
    rcpt.poll (.sent conf) rev = ({ rcpt with confirmed := some conf }, settle conf rev) := by
  unfold poll
  split
  · rename_i c hc
    obtain rfl : conf = c := Oneshot.sent.inj (ho c hc)
    rw [← hc]
  · rfl

namespace Receipts

variable {s s' : Runtime}

variable {writes : List EchoWrite} {effect : AppEffect}

theorem frame (h : s.Receipts) (ha : s'.actor = s.actor) (hn : s'.nextId = s.nextId)
    (hp : s'.projected = s.projected) (hs : s'.stage = s.stage)
    (hl : ∀ rcpt, s'.Holds rcpt → s.Holds rcpt) : s'.Receipts where
  sound := ha ▸ hn ▸ h.sound
  seen := by
    rw [hp, ha]
    exact h.seen
  staged := by
    rw [hs, ha]
    exact h.staged
  passing := by
    rw [hs, hp]
    exact h.passing
  observed := by
    rw [ha]
    exact fun rcpt c hh => h.observed rcpt c (hl rcpt hh)
  overdue := by
    rw [hs, ha, hp]
    exact fun ho rcpt c snap seen hh => h.overdue ho rcpt c snap seen (hl rcpt hh)

theorem restaged (h : s.Receipts) (stage : Stage) (echo : GenerationEcho)
    (outbox : List ControllerEvent) (hb : s.stage.isBetween = false)
    (ha : stage.isBetween = false)
    (hs : ∀ snap, stage.snapshot = some snap → s.actor.Taken snap)
    (hg : echo.group = s.echo.group) :
    Receipts { s with echo, outbox, stage } := by
  have hl : ∀ rcpt, Holds { s with echo, outbox, stage } rcpt → s.Holds rcpt := by
    rintro rcpt ⟨pend, id, hp, hd⟩
    exact ⟨pend, id, (foldl_write_group s.writes hg) ▸ hp, hd⟩
  refine ⟨h.sound, h.seen, hs, ?_, ?_, ?_⟩
  · exact fun ht => absurd ht (by simp [ha])
  · exact fun rcpt c hh => h.observed rcpt c (hl rcpt hh)
  · exact fun _ rcpt c snap seen hh => h.overdue hb rcpt c snap seen (hl rcpt hh)

variable {sent : List CommandEnvelope} {echo : GenerationEcho} {next : Nat}

/-- What the port sends is soundly admitted. -/
theorem sound_enqueue {actor : Actor}
    (hs : actor.Sound next) (hp : PortMove echo next effect sent writes) :
    (actor.enqueue sent).Sound (next + sent.length) := by
  refine hs.enqueue ?_
  cases hp with
  | aside _ _ _ hc => exact hc
  | session _ _ _ _ hr =>
    left
    cases hr with
    | refused => rfl
    | start ha => exact ha.unconfirmed
    | stop ha => exact ha.unconfirmed
  | group pend _ _ _ hr =>
    generalize pend.admission = admission at hr
    cases hr with
    | refused => exact .inl rfl
    | admitted _ hc => exact .inr ⟨by simp [hc], Nat.one_pos⟩
  | busy => exact .inl rfl

/-- A receipt the port starts to hold is new. -/
theorem holds_of_portMove (hp : PortMove echo next effect sent writes) {pend : GroupPending}
    (h : (writes.foldl GenerationEcho.write echo).group = some pend) :
    echo.group = some pend ∨
      ∀ id rcpt, pend.admission = .ok (id, rcpt) → rcpt = { receiver := next } := by
  cases hp with
  | aside _ _ _ _ haside => exact .inl ((writes_aside haside echo).2 ▸ h)
  | session => exact .inl h
  | group other _ _ _ hr =>
    right
    intro id rcpt ha
    have hh : some other = some pend := by
      rw [← h]
      cases other.generation <;> rfl
    obtain rfl := Option.some.inj hh
    rw [ha] at hr
    cases hr
    rfl
  | busy => exact .inl h

theorem executed (h : s.Receipts) {rest : List AppEffect} {fed : List AppEvent}
    (hw : s.writes = []) (hp : PortMove s.echo s.nextId effect sent writes) :
    Receipts (s.afterEffect rest sent writes fed) := by
  set s' : Runtime := s.afterEffect rest sent writes fed with hs'
  have hl : ∀ rcpt, s'.Holds rcpt → s.Holds rcpt ∨ rcpt = { receiver := s.nextId } := by
    rintro rcpt ⟨pend, id, hn, ha⟩
    rcases holds_of_portMove hp hn with hold | he
    · exact .inl ⟨pend, id, by rw [due_of_no_writes hw]; exact hold, ha⟩
    · exact .inr (he id rcpt ha)
  have hf := h.sound.fresh s.nextId le_rfl
  refine ⟨sound_enqueue h.sound hp, h.seen, h.staged, h.passing, ?_, ?_⟩
  · intro rcpt c hh hc
    rcases hl rcpt hh with hold | rfl
    · exact h.observed rcpt c hold hc
    · cases hc
  · intro ho rcpt c snap seen hh hs
    rcases hl rcpt hh with hold | rfl
    · exact h.overdue ho rcpt c snap seen hold hs
    · change s.actor.channels s.nextId = _ at hs
      rw [hf] at hs
      cases hs

theorem grouped (h : s.Receipts) {snap : DeviceSnapshot}
    (ht : s.stage = .grouping snap) (hop : s.groupLocked = false) :
    Receipts (s.afterGroup snap) := by
  unfold afterGroup
  have hk := groupEvents_look s.echo s.actor.channels snap false
  generalize s.echo.groupEvents s.actor.channels snap false = result at hk
  have hd : ∀ echo : GenerationEcho,
      (s.writes.foldl GenerationEcho.write echo).group = echo.group := due_group_of_open hop
  have hs : ∀ other, (Stage.settingVolume snap).snapshot = some other → s.actor.Taken other := by
    intro other ho
    exact h.staged other (by rw [ht]; exact ho)
  obtain ⟨seen, hr⟩ := h.passing (by rw [ht]; rfl) snap (by rw [ht]; rfl)
  have he : ∀ {echo : GenerationEcho} {outbox : List ControllerEvent}, echo.group = none →
      Receipts { s with echo, outbox, stage := .settingVolume snap } := by
    intro echo outbox hnn
    have hl : ∀ rcpt, ¬ Holds { s with echo, outbox, stage := .settingVolume snap } rcpt := by
      rintro rcpt ⟨pend, id, hp, -⟩
      rw [due, hd, hnn] at hp
      cases hp
    exact ⟨h.sound, h.seen, hs, by simp [Stage.isBetween], fun rcpt c hh => absurd hh (hl rcpt),
      fun _ rcpt c snap seen hh => absurd hh (hl rcpt)⟩
  cases hk with
  | free hg => exact he hg
  | ends => exact he rfl
  | waits pend id rcpt hg hm hp =>
    have hb : ∀ c, rcpt.confirmed = some c → s.actor.channels rcpt.receiver = .sent c := fun c hc =>
      h.observed rcpt c ⟨pend, id, (hd s.echo).trans hg, hm⟩ hc
    -- the slot holds the polled receipt now
    have hl : ∀ polled, Holds { s with
          echo := { s.echo with group := some { pend with admission := .ok (id,
            (rcpt.poll (s.actor.channels rcpt.receiver) snap.revision).1) } }
          outbox := s.outbox ++ []
          stage := .settingVolume snap } polled →
        polled = (rcpt.poll (s.actor.channels rcpt.receiver) snap.revision).1 := by
      rintro polled ⟨_, _, ho, ha⟩
      rw [due, hd] at ho
      obtain rfl := Option.some.inj ho
      obtain ⟨-, rfl⟩ := Prod.mk.inj (Except.ok.inj ha)
      rfl
    refine ⟨h.sound, h.seen, hs, by simp [Stage.isBetween], ?_, ?_⟩
    · intro polled c hh hn
      rw [hl polled hh] at hn ⊢
      rw [poll_receiver]
      exact poll_observed snap.revision hb c hn
    · intro _ polled c snapshot' seen' hh hsn hp'
      rw [hl polled hh, poll_receiver] at hsn
      obtain ⟨rfl, -⟩ := Prod.mk.inj (Option.some.inj (hr.symm.trans hp'))
      rw [hsn] at hp hb
      rw [poll_sent snap.revision hb, settle] at hp
      by_contra hle
      rw [if_neg hle] at hp
      cases hp

theorem worked (h : s.Receipts) (move : Actor.Move) :
    Receipts { s with actor := s.actor.step move } := by
  refine ⟨h.sound.step move, ?_, ?_, h.passing, ?_, ?_⟩
  · exact fun snap seen hp => (h.seen snap seen hp).step move
  · exact fun snap ht => (h.staged snap ht).step move
  · exact fun rcpt c hh hc => h.sound.sent_step move (h.observed rcpt c hh hc)
  · intro ho rcpt c snap seen hh hs hp
    cases channelMove_step h.sound.distinct move rcpt.receiver with
    | same hm => exact h.overdue ho rcpt c snap seen hh (hm ▸ hs) hp
    | dropped _ _ hl => rw [hl] at hs; cases hs
    | answered c' _ _ hs' =>
      obtain rfl : c' = c := Oneshot.sent.inj (hs'.symm.trans hs)
      have := (h.seen snap seen hp).le
      omega

/-- No move misses the answer to the held receipt. -/
theorem step [Lowercase] (h : s.Receipts) {move : Move} (hs : Stepped s move s') :
    s'.Receipts := by
  have hm : ∀ {t : Runtime}, t.due.group = s.due.group → ∀ rcpt, t.Holds rcpt → s.Holds rcpt := by
    rintro t heq rcpt ⟨pend, id, hp, ha⟩
    exact ⟨pend, id, heq ▸ hp, ha⟩
  cases hs with
  | same => exact h
  | raised => exact h.frame rfl rfl rfl rfl (hm rfl)
  | turned => exact h.frame rfl rfl rfl rfl (hm rfl)
  | executed _ _ _ _ _ _ _ hw _ hr => exact h.executed hw hr
  | wrote _ _ hw => exact h.frame rfl rfl rfl rfl (hm (by simp only [due, hw, foldl_cons]))
  | looked ht =>
    refine h.restaged _ s.echo s.outbox (by rw [ht]; rfl) rfl ?_ rfl
    intro snap hn
    exact .inl (Option.some.inj hn).symm
  | projected snap ht =>
    have hk := h.staged snap (by rw [ht]; rfl)
    refine ⟨h.sound, ?_, ?_, ?_, h.observed, by simp [Stage.isBetween]⟩
    · intro other seen hj
      obtain ⟨rfl, -⟩ := Prod.mk.inj (Option.some.inj hj)
      exact hk
    · intro other hn
      rw [← Option.some.inj hn]
      exact hk
    · intro _ other hn
      obtain rfl := Option.some.inj hn
      exact ⟨_, rfl⟩
  | targeted snap produced ht =>
    have hg := (observeListeningTarget_session s.echo snap produced).2
    refine ⟨h.sound, h.seen, ?_, ?_, ?_, by simp [Stage.isBetween]⟩
    · intro other hn
      exact h.staged other (by rw [ht]; exact hn)
    · intro _ other hn
      exact h.passing (by rw [ht]; rfl) other (by rw [ht]; exact hn)
    · intro rcpt c hh
      refine h.observed rcpt c (hm ?_ rcpt hh)
      exact foldl_write_group s.writes hg
  | grouped _ ht hop => exact h.grouped ht hop
  | volumed snap ht =>
    obtain ⟨⟨_, he⟩, -⟩ := volumeEvents_result s.echo s.actor.channels snap false
    refine h.restaged _ _ _ (by rw [ht]; rfl) rfl ?_ (by rw [he])
    exact fun other hn => h.staged other (by rw [ht]; exact hn)
  | listened snap ht =>
    obtain ⟨⟨_, he, -⟩, -⟩ := listeningEvents_result s.echo s.actor.channels snap false
    exact h.restaged _ _ _ (by rw [ht]; rfl) rfl (by simp [Stage.snapshot]) (by rw [he])
  | flushed => exact h.frame rfl rfl rfl rfl (hm rfl)
  | appended => exact h.frame rfl rfl rfl rfl (hm rfl)
  | worked move => exact h.worked move

end Receipts

/-! ## The run intent and the newest edge -/

/-- A pass has published an answer to the newest recorded request. -/
def Answered (s : Runtime) : Prop :=
  ∃ echo, s.projection.session = some (s.due.session.1, echo)

/-- The shell takes a group start over a session it believes to be
running, while the newest edge is a Stop that no pass has answered. -/
def strandsStart (s : Runtime) : Move → Bool
  | .turn =>
    s.effects.isEmpty && s.writes.isEmpty && (match s.queue with
        | .groupRequested (.apply _ true) :: _ => true
        | _ => false)
      && !s.shell.controllerClosed && !HardwareCheck.groupPending s.shell
      && decide (s.shell.hardwareCheck.phase ≠ .stopPending) && s.shell.stream.isRunning
      && decide (s.echo.session.2 = .stop)
      && !s.projection.session.any (fun published => published.1 = s.echo.session.1)
  | _ => false

/-- The backend's run intent follows the newest edge. -/
structure Leads (s : Runtime) : Prop where
  stop : s.due.session.2 = .stop → s.Answered ∨ s.actor.endsStopped = true
  start : s.due.session.2 = .start → s.actor.endsRunning = true
  confirmed : ∀ floor, s.due.session.2 = .confirmedGroupStart floor →
    s.actor.endsRunning = true ∧ ∃ receipt confirmation,
      s.actor.channels receipt = .sent confirmation ∧
        confirmation.sessionGenerationFloor = some floor
  unconfirmed : s.due.session.2 = .pendingGroupStart → ∃ pending id receipt,
    s.due.group = some pending ∧ pending.generation = some s.due.session.1 ∧
      pending.admission = .ok (id, receipt) ∧ s.actor.Tracked receipt.receiver
  /-- The slot belongs to the request it was recorded with. -/
  held : ∀ pending generation, s.due.group = some pending →
    pending.generation = some generation → generation ≤ s.due.session.1 ∧
      (generation = s.due.session.1 → s.due.session.2 = admissionEdge pending.admission)
  unstranded : ∀ request command rest, s.effects = .group request none command :: rest →
    command.isStart = true → s.due.session.2 = .stop → s.Answered

namespace Leads

variable {s s' : Runtime}

variable {sent : List CommandEnvelope} {generation : GenerationId}

theorem regrouped (h : s.Leads) (hs : s'.due.session = s.due.session)
    (ha : s'.actor = s.actor) (hf : s'.effects = s.effects)
    (hn : s.Answered → s'.Answered)
    (hu : s.due.session.2 = .pendingGroupStart → ∃ pend id rcpt,
      s'.due.group = some pend ∧ pend.generation = some s.due.session.1 ∧
        pend.admission = .ok (id, rcpt) ∧ s.actor.Tracked rcpt.receiver)
    (hh : ∀ pend, s'.due.group = some pend → ∃ old, s.due.group = some old ∧
      old.generation = pend.generation ∧ admissionEdge old.admission
        = admissionEdge pend.admission) : s'.Leads where
  stop := by
    rw [hs, ha]
    exact fun he => (h.stop he).imp_left hn
  start := by
    rw [hs, ha]
    exact h.start
  confirmed := by
    rw [hs, ha]
    exact h.confirmed
  unconfirmed := by
    rw [hs, ha]
    exact hu
  held := by
    rw [hs]
    intro pend generation hg hge
    obtain ⟨old, hold, hm, he⟩ := hh pend hg
    rw [← he]
    exact h.held old generation hold (hm.trans hge)
  unstranded := by
    rw [hs, hf]
    intro request cmd rest heq ht he
    exact hn (h.unstranded request cmd rest heq ht he)

theorem frame (h : s.Leads) (hs : s'.due.session = s.due.session)
    (hg : s'.due.group = s.due.group) (ha : s'.actor = s.actor)
    (he : s'.effects = s.effects) (hn : s.Answered → s'.Answered) : s'.Leads := by
  refine h.regrouped hs ha he hn ?_ ?_
  · rw [hg]
    exact h.unconfirmed
  · rw [hg]
    exact fun pend hp => ⟨pend, hp, rfl, rfl⟩

/-- An answer to the newest request stands while the request and the
projection do. -/
theorem answered_of_eq (hs : s'.due.session = s.due.session)
    (hp : s'.projection = s.projection) : s.Answered → s'.Answered := by
  rintro ⟨echo, ha⟩
  exact ⟨echo, by rw [hp, hs]; exact ha⟩

variable {cmd : GroupCommand}

theorem isStart_apply (h : cmd.isStart = true) :
    ∃ id, cmd = .apply id true := by
  unfold GroupCommand.isStart at h
  split at h
  · rename_i id start
    subst h
    exact ⟨id, rfl⟩
  · exact absurd h (by simp)

theorem turned [Lowercase] (h : s.Leads) {ev : AppEvent} {rest : List AppEvent}
    (hef : s.effects = []) (hw : s.writes = []) (hq : s.queue = ev :: rest)
    (hc : s.strandsStart .turn = false) :
    Leads (s.afterTurn ev rest) := by
  refine ⟨h.stop, h.start, h.confirmed, h.unconfirmed, h.held, ?_⟩
  intro request cmd others ha hs he
  change (reduce s.shell ev).2.effects = _ at ha
  have hop : ¬ (s.shell.hardwareCheck.phase = .stopPending ∧ startsPlayback ev = true) := by
    cases reduce_move s.shell ev with
    | refused _ _ heq => rw [heq] at ha; cases ha
    | reacted hop => exact hop
  cases reduce_groupMove s.shell ev with
  | kept _ hf => exact (groupless_head (ha ▸ hf)).elim
  | finished _ _ _ _ _ _ hf => exact (groupless_head (ha ▸ hf)).elim
  | discarded _ _ hf => exact (groupless_head (ha ▸ hf)).elim
  | shut _ _ _ hf => exact (groupless_head (ha ▸ hf)).elim
  | asked generation command' _ hr hl _ hn _ hf =>
    rw [hf] at ha
    obtain ⟨⟨-, rfl, rfl⟩, -⟩ : (_ = request ∧ generation = none ∧ command' = cmd) ∧ _ := by
      simpa using ha
    obtain ⟨rfl, ht⟩ := hn rfl hs
    obtain ⟨_, rfl⟩ := isStart_apply hs
    -- the condition leaves only an answered Stop
    by_contra hu
    have hd : s.due = s.echo := due_of_no_writes hw
    change s.due.session.2 = _ at he
    rw [hd] at he
    have hp : s.shell.hardwareCheck.phase ≠ .stopPending := fun hp => hop ⟨hp, rfl⟩
    have hnn : s.projection.session.any (fun published =>
        published.1 = s.echo.session.1) = false := by
      cases hse : s.projection.session with
      | none => rfl
      | some published =>
        simp only [any_some, decide_eq_false_iff_not]
        intro hm
        refine hu ⟨published.2, hse.trans ?_⟩
        show some published = some (s.due.session.1, published.2)
        rw [hd, ← hm]
    simp [strandsStart, hef, hw, hq, hl, hr, hp, ht, he, hnn] at hc

theorem enqueued (h : s.Leads) (hs : s'.due.session = s.due.session)
    (hp : s'.projection = s.projection) (ha : s'.actor = s.actor.enqueue sent)
    (hf : Groupless s'.effects) (hint : ∀ e ∈ sent, e.intent = none)
    (ht : s.due.session.2 = .stop → s.Answered ∨ ∀ e ∈ sent, e.isPlain = true)
    (hl : s'.due.group = s.due.group ∨ s.due.group = none ∧
      ∀ pend, s'.due.group = some pend → pend.generation = none) : s'.Leads := by
  have han : s.Answered → s'.Answered := answered_of_eq hs hp
  have hr : s.actor.endsRunning = true → s'.actor.endsRunning = true := by
    rw [ha, endsRunning_enqueue_plain s.actor hint]
    exact id
  constructor
  · rw [hs]
    intro he
    rcases ht he with hd | hpl
    · exact .inl (han hd)
    · rw [ha, endsStopped_enqueue_plain s.actor hpl]
      exact (h.stop he).imp_left han
  · rw [hs]
    exact fun he => hr (h.start he)
  · rw [hs]
    intro floor he
    obtain ⟨hrn, rcpt, conf, hsn, ho⟩ := h.confirmed floor he
    exact ⟨hr hrn, rcpt, conf, by rw [ha]; exact hsn, ho⟩
  · rw [hs]
    intro he
    obtain ⟨pend, id, rcpt, hg, hn, hm, htr⟩ := h.unconfirmed he
    rcases hl with hl | ⟨hnn, -⟩
    · exact ⟨pend, id, rcpt, hl.trans hg, hn, hm, by rw [ha]; exact htr.enqueue hint⟩
    · rw [hnn] at hg
      cases hg
  · rw [hs]
    intro pend generation hg hn
    rcases hl with hl | ⟨-, hnn⟩
    · exact h.held pend generation (hl ▸ hg) hn
    · rw [hnn pend hg] at hn
      cases hn
  · intro request cmd rest heq
    exact (groupless_head (heq ▸ hf)).elim

variable {edge : SessionEdge}

theorem requested (h : s.Leads) (hlt : s.due.session.1 < generation)
    (hs : s'.due.session = (generation, edge)) (hg : s'.due.group = s.due.group)
    (hc : s'.actor = s.actor.enqueue sent) (he : Groupless s'.effects)
    (hr : SessionRequest sent edge) : s'.Leads := by
  have hh : ∀ pend other, s'.due.group = some pend →
      pend.generation = some other → other ≤ s'.due.session.1 ∧ (other = s'.due.session.1 →
          s'.due.session.2 = admissionEdge pend.admission) := by
    intro pend other hp hge
    have hle := (h.held pend other (hg ▸ hp) hge).1.trans_lt hlt
    rw [hs]
    exact ⟨hle.le, fun heq => absurd heq hle.ne⟩
  have hn : ∀ request cmd rest, s'.effects = .group request none cmd :: rest →
      cmd.isStart = true → s'.due.session.2 = .stop → s'.Answered :=
    fun request cmd rest heq => (groupless_head (heq ▸ he)).elim
  cases hr with
  | refused => exact ⟨by simp [hs], by simp [hs], by simp [hs], by simp [hs], hh, hn⟩
  | start ha =>
    obtain ⟨pre, env, rfl, hint⟩ := ha.last
    refine ⟨by simp [hs], ?_, by simp [hs], by simp [hs], hh, hn⟩
    intro _
    rw [hc]
    exact endsRunning_enqueue_start s.actor pre hint
  | stop ha =>
    obtain ⟨pre, _, rfl, hint⟩ := ha.last
    refine ⟨fun _ => .inr ?_, by simp [hs], by simp [hs], by simp [hs], hh, hn⟩
    rw [hc]
    exact endsStopped_enqueue_stop s.actor pre hint

theorem groupRequested {next : Nat} {pend : GroupPending} (hs : s'.due.session
      = (generation, admissionEdge pend.admission))
    (hg : s'.due.group = some pend) (hn : pend.generation = some generation)
    (ha : s'.actor = s.actor.enqueue sent) (he : Groupless s'.effects)
    (hsa : cmd.isStart = true)
    (hr : GroupRequest next cmd sent pend.admission) : s'.Leads := by
  have hh : ∀ other generation', s'.due.group = some other →
      other.generation = some generation' → generation' ≤ s'.due.session.1 ∧
        (generation' = s'.due.session.1 → s'.due.session.2 = admissionEdge other.admission) := by
    intro other generation' ho hm
    obtain rfl : pend = other := Option.some.inj (hg.symm.trans ho)
    obtain rfl : generation = generation' := Option.some.inj (hn.symm.trans hm)
    rw [hs]
    exact ⟨le_rfl, fun _ => rfl⟩
  have hnn : ∀ request cmd rest, s'.effects = .group request none cmd :: rest →
      cmd.isStart = true → s'.due.session.2 = .stop → s'.Answered :=
    fun request cmd rest heq => (groupless_head (heq ▸ he)).elim
  generalize hd : pend.admission = admission at hr hs
  cases hr with
  | refused =>
    simp only [admissionEdge] at hs
    exact ⟨by simp [hs], by simp [hs], by simp [hs], by simp [hs], hh, hnn⟩
  | admitted _ hc _ ht =>
    simp only [admissionEdge] at hs
    refine ⟨by simp [hs], by simp [hs], by simp [hs], fun _ => ?_, hh, hnn⟩
    refine ⟨pend, next, { receiver := next }, hg, ?_, hd, ?_⟩
    · rw [hs]
      exact hn
    · rw [ha]
      exact Actor.Tracked.admitted s.actor hc (ht.trans hsa)

theorem executed [Lowercase] (h : s.Leads) (hs : s.Slot) (ho : s.Ordered)
    {effect : AppEffect} {rest : List AppEffect}
    {writes : List EchoWrite} {fed : List AppEvent}
    (hw : s.writes = []) (heff : s.effects = effect :: rest)
    (hp : PortMove s.echo s.nextId effect sent writes) :
    Leads (s.afterEffect rest sent writes fed) := by
  have hd : s.due = s.echo := due_of_no_writes hw
  have hrs : Groupless rest := by
    have := hs.single
    rwa [heff] at this
  have hx : ∀ generation, effect.sessionGeneration = some generation →
      s.due.session.1 < generation := by
    intro generation hg
    have ha := ho.allocated
    rw [heff, sessionGenerations, filterMap_cons, hg] at ha
    exact (allocates_head ha).1
  have hl : ∀ {e : CommandEnvelope}, e.isPlain = true → e.intent = none := by
    intro e he
    simp only [CommandEnvelope.isPlain, Bool.and_eq_true, isNone_iff_eq_none] at he
    exact he.1
  cases hp with
  | aside _ _ hn _ haside =>
    have hk := writes_aside haside s.echo
    refine h.enqueued ?_ rfl rfl hrs (fun e he => hl (hn e he)) (fun _ => .inr hn) (.inl ?_)
    · rw [hd]
      exact hk.1
    · rw [hd]
      exact hk.2
  | session generation _ hg _ hr =>
    exact h.requested (hx generation hg) rfl (by rw [hd]; rfl) rfl hrs hr
  | busy hgr hb => exact absurd (hs.free_of_group hw heff hgr) hb
  | group pend cmd hf hfr hr =>
    obtain ⟨request, generation, _⟩ := pend
    subst hf
    obtain ⟨-, hsa, -⟩ := hs.asked request generation cmd rest heff
    cases generation with
    | some => exact groupRequested (s := s) rfl rfl rfl rfl hrs (hsa rfl) hr
    | none =>
      have hslott : s.due.group = none := by
        rw [hd]
        exact hfr
      refine h.enqueued (by rw [hd]; rfl) rfl rfl hrs ?_ ?_ (.inr ⟨hslott, fun pend hpe => ?_⟩)
      · cases hr with
        | refused => simp
        | admitted _ _ hint => simpa using hint
      · intro hed
        cases ht : cmd.isStart with
        | true => exact .inl (h.unstranded request cmd rest heff ht hed)
        | false =>
          right
          cases hr with
          | refused => simp
          | admitted _ _ hint hm => simp [CommandEnvelope.isPlain, hint, hm, ht]
      · obtain rfl := Option.some.inj hpe
        rfl

/-- An unlocked slot under an unconfirmed start belongs to what the bridge
sees recorded. -/
theorem recorded_of_unconfirmed [Lowercase] (ho : s.Ordered)
    (hop : s.groupLocked = false) (he : s.due.session.2 = .pendingGroupStart) :
    ∀ generation edge, .recordSession generation edge ∉ s.writes := by
  intro generation edge hmem
  have hr := ho.recorded generation edge hmem
  rw [hr] at he
  subst he
  obtain ⟨pre, after, hs⟩ := append_of_mem hmem
  obtain ⟨pend, hh⟩ := ho.locked pre generation after hs
  have hl : s.groupLocked = true := by
    refine any_eq_true.mpr ⟨.holdGroup pend, ?_, rfl⟩
    rw [hs]
    exact mem_append_right _ (mem_cons_of_mem _ hh)
  rw [hl] at hop
  cases hop

variable {snap : DeviceSnapshot}

/-- How a tracked start ends: refused by the backend, or confirmed with a
floor while the intent runs. -/
theorem groupEdge_of_tracked {actor : Actor} {next : Nat}
    {rcpt : CommandReceipt} {stat : GroupOperationStatus} (hn : actor.Sound next)
    (htr : actor.Tracked rcpt.receiver)
    (ho : ∀ c, rcpt.confirmed = some c → actor.channels rcpt.receiver = .sent c)
    (ht : GenerationEcho.groupStatus false
      (rcpt.poll (actor.channels rcpt.receiver) snap.revision).2 = some stat) :
    GenerationEcho.groupEdge stat (some (rcpt.poll (actor.channels rcpt.receiver) snap.revision).1)
        snap.revision = .rejected ∨
      ∃ floor conf, GenerationEcho.groupEdge stat
          (some (rcpt.poll (actor.channels rcpt.receiver) snap.revision).1)
          snap.revision = .confirmedGroupStart floor ∧ actor.Runs ∧
        actor.channels rcpt.receiver = .sent conf ∧
        conf.sessionGenerationFloor = some floor := by
  rcases htr.channel hn with he | ⟨conf, hs, ha⟩
  · -- a silent channel leaves the operation pending
    have hnn : rcpt.confirmed = none := by
      cases hc : rcpt.confirmed with
      | none => rfl
      | some c => rw [ho c hc] at he; cases he
    simp [he, poll, hnn, GenerationEcho.groupStatus] at ht
  · rw [hs] at ho ht ⊢
    rw [poll_sent snap.revision ho] at ht ⊢
    unfold settle at ht
    split at ht
    · simp [GenerationEcho.groupStatus] at ht
    · rename_i hrc
      cases hr : conf.error with
      | some =>
        rw [hr] at ht
        obtain rfl := Option.some.inj ht
        exact .inl rfl
      | none =>
        rw [hr] at ht
        obtain rfl := Option.some.inj ht
        obtain ⟨hf, hrn⟩ := ha hr
        obtain ⟨floor, hf⟩ := isSome_iff_exists.mp hf
        refine .inr ⟨floor, conf, ?_, hrn, rfl, hf⟩
        have hle : conf.revision ≤ snap.revision := Nat.not_lt.mp hrc
        simp [GenerationEcho.groupEdge, sessionGenerationFloor, Option.filter, hle, hf]

/-- A settled start: refused, or confirmed while the intent runs. -/
theorem settled (rcpt : ReceiptId)
    (hs : s'.due.session = (generation, edge)) (hg : s'.due.group = none)
    (he : edge = .rejected ∨ ∃ floor conf, edge = .confirmedGroupStart floor ∧
      s'.actor.Runs ∧ s'.actor.channels rcpt = .sent conf ∧
      conf.sessionGenerationFloor = some floor) : s'.Leads := by
  have hh : ∀ pend generation, s'.due.group = some pend →
      pend.generation = some generation → generation ≤ s'.due.session.1 ∧
        (generation = s'.due.session.1 → s'.due.session.2 = admissionEdge pend.admission) := by
    simp [hg]
  rcases he with rfl | ⟨_, conf, rfl, hr, hn, hf⟩
  · exact ⟨by simp [hs], by simp [hs], by simp [hs], by simp [hs], hh, by simp [hs]⟩
  · refine ⟨by simp [hs], by simp [hs], ?_, by simp [hs], hh, by simp [hs]⟩
    intro floor' heq
    rw [hs] at heq
    obtain rfl := SessionEdge.confirmedGroupStart.inj heq
    exact ⟨hr.endsRunning, rcpt, conf, hn, hf⟩

theorem grouped [Lowercase] (h : s.Leads) (hor : s.Ordered) (hre : s.Receipts)
    (hop : s.groupLocked = false) :
    Leads (s.afterGroup snap) := by
  unfold afterGroup
  have hl := groupEvents_look s.echo s.actor.channels snap false
  have hse := grouped_settling s snap
  generalize s.echo.groupEvents s.actor.channels snap false = result at hl hse ⊢
  have hu : ∀ echo : GenerationEcho,
      (s.writes.foldl GenerationEcho.write echo).group = echo.group := due_group_of_open hop
  have hs : s.due.group = s.echo.group := hu s.echo
  cases hse with
  | settled pend stat rcpt hg hen hn hfe he =>
    have hf : (s.writes.foldl GenerationEcho.write result.1).group = none := (hu _).trans hfe
    cases hen with
    | refused => exact settled 0 he hf (.inl rfl)
    | polled id rcpt _ hd hsts =>
      -- the slot was admitted under the newest request, so the start is tracked
      have hp : s.due.session.2 = .pendingGroupStart := by
        have := (h.held pend _ (hs.trans hg) hn).2 rfl
        rwa [hd] at this
      obtain ⟨other, _, _, ho, -, ha, ht⟩ := h.unconfirmed hp
      obtain rfl : pend = other := Option.some.inj ((hs.trans hg).symm.trans ho)
      obtain ⟨rfl, rfl⟩ := Prod.mk.inj (Except.ok.inj (hd.symm.trans ha))
      have hh : s.Holds rcpt := ⟨pend, id, hs.trans hg, hd⟩
      exact settled rcpt.receiver he hf (groupEdge_of_tracked hre.sound ht
        (fun c hc => hre.observed rcpt c hh hc) hsts)
  | kept hss hst =>
    refine h.regrouped hss rfl rfl (answered_of_eq hss rfl) ?_ ?_
    · intro he
      obtain ⟨pend, id, _, hg, hn, hd, ht⟩ := h.unconfirmed he
      rw [hs] at hg
      cases hl with
      | free hf => rw [hf] at hg; cases hg
      | waits other _ _ ho ha =>
        obtain rfl : pend = other := Option.some.inj (hg.symm.trans ho)
        obtain ⟨rfl, rfl⟩ := Prod.mk.inj (Except.ok.inj (hd.symm.trans ha))
        refine ⟨_, id, _, hu _, hn, rfl, ?_⟩
        rw [poll_receiver]
        exact ht
      | ends other _ _ ho =>
        -- a resolved slot of the newest request would have settled its edge
        obtain ⟨generation, edge, hmem⟩ := hst pend hg rfl hn
        exact absurd hmem (recorded_of_unconfirmed hor hop he generation edge)
    · intro pend hp
      have hr : result.1.group = some pend := (hu _).symm.trans hp
      cases hl with
      | free hf => rw [hf] at hr; cases hr
      | ends => cases hr
      | waits other _ _ ho ha =>
        obtain rfl := Option.some.inj hr
        exact ⟨other, hs.trans ho, rfl, by rw [ha]; rfl⟩

theorem aside (h : s.Leads) (hw : s'.writes = s.writes)
    (he : s'.echo.session = s.echo.session ∧ s'.echo.group = s.echo.group)
    (hp : s'.projection = s.projection) (ha : s'.actor = s.actor)
    (hf : s'.effects = s.effects) : s'.Leads := by
  have hs : s'.due.session = s.due.session := by
    rw [due, hw]
    exact foldl_write_session s.writes he.1
  have hg : s'.due.group = s.due.group := by
    rw [due, hw]
    exact foldl_write_group s.writes he.2
  exact h.frame hs hg ha hf (answered_of_eq hs hp)

/-- Unless a start is stranded, the intent keeps following. -/
theorem step [Lowercase] (h : s.Leads) (hl : s.Slot) (ho : s.Ordered)
    (hr : s.Receipts) {move : Move} (hn : s.strandsStart move = false)
    (ht : Stepped s move s') : s'.Leads := by
  cases ht with
  | same => exact h
  | raised => exact h.frame rfl rfl rfl rfl id
  | turned _ _ hf hw hq => exact h.turned hf hw hq hn
  | executed _ _ _ _ _ _ _ hw hf hp => exact h.executed hl ho hw hf hp
  | wrote write rest hw =>
    have hd : due { s with echo := s.echo.write write, writes := rest } = s.due := by
      simp only [due, hw, foldl_cons]
    exact h.frame (by rw [hd]) (by rw [hd]) rfl rfl (answered_of_eq (by rw [hd]) rfl)
  | looked => exact h.frame rfl rfl rfl rfl id
  | projected snap =>
    refine h.frame rfl rfl rfl rfl ?_
    rintro ⟨echo, hc⟩
    -- an answer to the newest request is only replaced by another one
    cases Projection.project_session s.projection snap s.echo.sample with
    | withheld _ hs => exact ⟨echo, hs.trans hc⟩
    | published ans _ _ hs =>
      refine ⟨ans, hs.trans ?_⟩
      have hg : s.echo.session.1 = s.due.session.1 := le_antisymm ho.behind (ho.answered _ echo hc)
      show some (s.echo.session.1, ans) = some (s.due.session.1, ans)
      rw [hg]
  | targeted snap produced =>
    exact h.aside rfl (observeListeningTarget_session s.echo snap produced) rfl rfl rfl
  | grouped _ _ hop => exact h.grouped ho hr hop
  | volumed snap =>
    obtain ⟨⟨_, hc⟩, -⟩ := volumeEvents_result s.echo s.actor.channels snap false
    exact h.aside rfl ⟨by rw [hc], by rw [hc]⟩ rfl rfl rfl
  | listened snap =>
    obtain ⟨⟨pend, hc, -⟩, -⟩ := listeningEvents_result s.echo s.actor.channels snap false
    exact h.aside rfl ⟨by rw [hc], by rw [hc]⟩ rfl rfl rfl
  | flushed => exact h.frame rfl rfl rfl rfl id
  | appended => exact h.frame rfl rfl rfl rfl id
  | worked move =>
    refine ⟨?_, ?_, ?_, ?_, h.held, h.unstranded⟩
    · exact fun he => (h.stop he).imp_right fun hsp => endsStopped_step hsp move
    · exact fun he => endsRunning_step (h.start he) move
    · intro floor he
      obtain ⟨hrn, rcpt, conf, hsn, hfl⟩ := h.confirmed floor he
      exact ⟨endsRunning_step hrn move, rcpt, conf, hr.sound.sent_step move hsn, hfl⟩
    · intro he
      obtain ⟨pend, id, rcpt, hgr, hg, ha, htr⟩ := h.unconfirmed he
      exact ⟨pend, id, rcpt, hgr, hg, ha, htr.step hr.sound move⟩

end Leads

/-! ## Whole runs -/

/-- The composed system as a machine; its moves answer nothing. -/
def machine [Lowercase] (s : Runtime) (move : Move) : Runtime × Unit := (s.step move, ())

/-- All that holds between two moves. -/
structure Inv [Lowercase] (s : Runtime) : Prop where
  slot : s.Slot
  ordered : s.Ordered
  tones : s.Tones
  shown : s.Shown
  withholds : s.Withholds
  receipts : s.Receipts
  leads : s.Leads

theorem receipts_start (shell : AppState) (autoConnect : Bool) (first : DeviceSnapshot) :
    (start shell autoConnect first).Receipts where
  sound := ⟨nodup_nil, by simp [Actor.outstanding, start], by simp [Actor.outstanding, start],
    fun _ _ => rfl, by simp [start]⟩
  seen := by simp [start]
  staged := by simp [start, Stage.snapshot]
  passing := by simp [start, Stage.snapshot]
  observed := by
    rintro _ _ ⟨_, _, hp, -⟩
    cases hp
  overdue := by simp [start]

theorem inv_start [Lowercase] (files : PreferencesRepository) (loc : ResolvedLocale)
    (autoConnect : Bool) (first : DeviceSnapshot) :
    (start (initialState files.load loc) autoConnect first).Inv where
  slot :=
    { single := rfl
      asked := by simp [start]
      held := by simp [start, due]
      finished := by simp [start, Finishing, inFlight] }
  ordered :=
    { reachable := .init files loc
      allocated := .none 0
      recorded := by simp [start]
      locked := by simp [start]
      behind := le_rfl
      answered := by simp [start]
      untouched := fun _ => rfl }
  tones := ⟨by simp [toneGenerations, start], by simp [start, due]⟩
  shown := by simp [Shown, start]
  withholds := by simp [Withholds, start]
  receipts := receipts_start _ autoConnect first
  leads :=
    { stop := by simp [start, due]
      start := by simp [start, due]
      confirmed := by simp [start, due]
      unconfirmed := by simp [start, due]
      held := by simp [start, due]
      unstranded := by simp [start] }

/-- A move that strands no start keeps it all. -/
theorem Inv.step [Lowercase] {s : Runtime} (h : s.Inv) (move : Move)
    (hc : s.strandsStart move = false) : (s.step move).Inv := by
  have hs := step_stepped s move
  exact
    { slot := h.slot.step hs
      ordered := h.ordered.step h.slot hs
      tones := h.tones.step h.ordered hs
      shown := h.shown.step h.ordered h.tones hs
      withholds := h.withholds.step hs
      receipts := h.receipts.step hs
      leads := h.leads.step h.slot h.ordered h.receipts hc hs }

/-! ## The settled window -/

/-- The window shows the backend's session. -/
structure Agrees (s : Runtime) : Prop where
  streaming : ∀ attempt, s.actor.published.session.phase = .streaming attempt →
    (∃ generation, s.shell.stream = .streaming generation) ∧
      s.shell.activeReceivers = s.actor.published.session.active
  degraded : ∀ attempt, s.actor.published.session.phase = .degraded attempt →
    (∃ generation, s.shell.stream = .degraded generation) ∧
      s.shell.activeReceivers = s.actor.published.session.active
  stopped : s.actor.published.session.phase = .stopped →
    s.actor.published.runIntent = .stopped → s.shell.stream.isStoppedOrFailed = true

namespace Inv

variable [Lowercase] {s : Runtime}

/-- A settled shell has recorded every generation it gave out. -/
theorem generation_of_settled (h : s.Inv) (hs : s.Settled) :
    s.echo.session.1 = s.shell.generations.session := by
  obtain ⟨he, hw, -⟩ := hs
  have ha := h.ordered.allocated
  rw [he, due_of_no_writes hw] at ha
  exact allocates_nil ha

/-- In a settled system what was published last is shown. -/
theorem view_of_settled (h : s.Inv) (hs : s.Settled) {ans : SessionEcho}
    (hk : s.projection.session = some (s.echo.session.1, ans)) :
    (ans.event s.shell.generations.session).view = some s.shell.view := by
  have hg := h.generation_of_settled hs
  obtain ⟨-, -, hq, ho, -⟩ := hs
  have hf : s.inFlight = [] := by simp [inFlight, hq, ho]
  rw [hg] at hk
  cases h.shown ans hk with
  | failing _ _ hmem => simp [hf] at hmem
  | coming _ hl => simp [current, hf] at hl
  | shown _ hv => exact hv

/-- No group start is left unconfirmed: its receipt is told by a revision
the last pass has seen. -/
theorem confirmed_of_settled (h : s.Inv) (hs : s.Settled) :
    s.echo.session.2 ≠ .pendingGroupStart := by
  obtain ⟨-, hw, -, -, ht, hp, hi⟩ := hs
  intro he
  rw [← due_of_no_writes hw] at he
  obtain ⟨pend, id, rcpt, hg, -, ha, hr⟩ := h.leads.unconfirmed he
  obtain ⟨conf, hn, _⟩ := hr.idle h.receipts.sound hi
  have hlt := h.receipts.overdue (by rw [ht]; rfl) rcpt conf _ _ ⟨pend, id, hg, ha⟩ hn hp
  omega

/-- Why a settled bridge may not have published the backend's answer: its
edge waits for another one, and the run intent with it. -/
inductive Unpublished (s : Runtime) (echo : SessionEcho) : Prop
  | start (ha : SessionEdge.start.answeredBy echo = false) (hr : s.actor.endsRunning = true)
  | stop (ha : SessionEdge.stop.answeredBy echo = false) (hs : s.actor.endsStopped = true)
  | early (floor : Nat) (receipt : ReceiptId) (confirmation : CommandConfirmation)
      (hs : s.actor.channels receipt = .sent confirmation)
      (hf : confirmation.sessionGenerationFloor = some floor)
      (hp : ∀ attempt, s.actor.published.session.phase.generation = some attempt → attempt < floor)
      (hr : s.actor.endsRunning = true)

variable {echo : SessionEcho}

theorem published_or_unpublished (h : s.Inv) (ht : s.Settled)
    (hc : sessionEcho s.actor.published.session = some echo) :
    s.projection.session = some (s.echo.session.1, echo) ∨ Unpublished s echo := by
  have hp := h.confirmed_of_settled ht
  obtain ⟨-, hw, -, -, -, hj, -⟩ := ht
  have hd : s.due = s.echo := due_of_no_writes hw
  have hld := h.leads
  have hu := h.ordered.untouched
  rw [hd] at hu
  cases h.withholds _ _ echo hj hc with
  | known hl => exact .inl hl
  | unconfirmed he => exact absurd he hp
  | early floor he hh =>
    obtain ⟨hrn, rcpt, conf, hsn, hf⟩ := hld.confirmed floor (by rw [hd]; exact he)
    exact .inr (.early floor rcpt conf hsn hf hh hrn)
  | unanswered ha hl hk he =>
    right
    change s.echo.session.2.answeredBy echo = false at ha
    change ∀ prev, s.projection.session ≠ some (s.echo.session.1, prev) at hl
    cases hn : s.echo.session.2 with
    | untouched =>
      -- nothing was ever recorded, so whatever was published is an answer
      cases hs : s.projection.session with
      | none => exact absurd hs (hk hn)
      | some published =>
        have hle := h.ordered.answered published.1 published.2 hs
        have hz := hu hn
        have hm : published.1 = s.echo.session.1 :=
          le_antisymm hle (by rw [hz]; exact Nat.zero_le _)
        exact absurd (by rw [hs, ← hm]) (hl published.2)
    | start =>
      rw [hn] at ha
      exact .start ha (hld.start (by rw [hd]; exact hn))
    | stop =>
      rw [hn] at ha
      rcases hld.stop (by rw [hd]; exact hn) with ⟨prev, hr⟩ | hst
      · rw [hd] at hr
        exact absurd hr (hl prev)
      · exact .stop ha hst
    | rejected => simp [hn, SessionEdge.answeredBy] at ha
    | pendingGroupStart => exact absurd hn hp
    | confirmedGroupStart floor => exact absurd hn (he floor)

/-- A running session is published. -/
theorem published_of_running (h : s.Inv) (ht : s.Settled) (hr : s.actor.Rests)
    {att : Nat}
    (hp : s.actor.published.session.phase = .streaming att ∨
      s.actor.published.session.phase = .degraded att)
    (he : sessionEcho s.actor.published.session = some echo)
    (ha : SessionEdge.start.answeredBy echo = true) :
    s.projection.session = some (s.echo.session.1, echo) := by
  have hi := ht.2.2.2.2.2.2
  rcases h.published_or_unpublished ht he with hk | hu
  · exact hk
  · cases hu with
    | start hn => simp [ha] at hn
    | stop _ hs =>
      have hstopp := hr.stopped (runIntent_of_endsStopped hs hi)
      rcases hp with hp | hp <;> simp [hstopp] at hp
    | early floor rcpt conf hsn hf hl =>
      have hc := hr.reached rcpt conf floor att hsn hf hp
      have hg : s.actor.published.session.phase.generation = some att := by
        rcases hp with hp | hp <;> rw [hp] <;> rfl
      exact absurd (hl att hg) (Nat.not_lt.mpr hc)

/-- A stopped session is published. -/
theorem published_of_stopped (h : s.Inv) (hs : s.Settled)
    (hp : s.actor.published.session.phase = .stopped)
    (hint : s.actor.published.runIntent = .stopped) :
    s.projection.session = some (s.echo.session.1, .stopped) := by
  have hi := hs.2.2.2.2.2.2
  have he : sessionEcho s.actor.published.session = some .stopped := by simp [sessionEcho, hp]
  have hn : s.actor.endsRunning = true → False := by
    intro hr
    have := runIntent_of_endsRunning hr hi
    rw [hint] at this
    cases this
  rcases h.published_or_unpublished hs he with hk | hu
  · exact hk
  · cases hu with
    | start _ hr => exact (hn hr).elim
    | stop ha => simp [SessionEdge.answeredBy] at ha
    | early _ _ _ _ _ _ hr => exact (hn hr).elim

theorem agrees (h : s.Inv) (hs : s.Settled) (hr : s.actor.Rests) : s.Agrees := by
  have hi : ∀ ids : Finset DeviceId, (sortedIds ids).toFinset = ids := by
    intro ids
    ext id
    simp
  constructor
  · intro att hp
    have hk := h.published_of_running hs hr (.inl hp) (by rw [sessionEcho, hp]) rfl
    have hv := h.view_of_settled hs hk
    obtain ⟨ht, ha⟩ := Prod.mk.inj (Option.some.inj hv)
    exact ⟨⟨_, ht.symm⟩, ha.symm.trans (hi _)⟩
  · intro att hp
    have hk := h.published_of_running hs hr (.inr hp) (by rw [sessionEcho, hp]) rfl
    have hv := h.view_of_settled hs hk
    obtain ⟨ht, ha⟩ := Prod.mk.inj (Option.some.inj hv)
    exact ⟨⟨_, ht.symm⟩, ha.symm.trans (hi _)⟩
  · intro hp hint
    have hk := h.published_of_stopped hs hp hint
    have hv := h.view_of_settled hs hk
    obtain ⟨ht, -⟩ := Prod.mk.inj (Option.some.inj hv)
    rw [← ht]
    rfl

end Inv

/-- No run misses an answer. -/
theorem receipts_run [Lowercase] (shell : AppState) (autoConnect : Bool)
    (first : DeviceSnapshot) (moves : List Move) :
    (Mealy.run machine (start shell autoConnect first) moves).Receipts := by
  have hs : ∀ (s : Runtime) (move : Move), s.Receipts → (machine s move).1.Receipts :=
    fun s move h => h.step (step_stepped s move)
  exact Mealy.run_invariant hs (receipts_start shell autoConnect first) moves

end Runtime

/-- The window settles on the backend's session, in every run in which no
group start is stranded on an unanswered Stop: whenever nothing is on its
way, Streaming and Degraded are shown as such with the backend's active
set, and a session that is meant to be stopped is shown stopped. -/
theorem window_settles_unless_stranded [Lowercase] (files : PreferencesRepository)
    (locale : ResolvedLocale) (autoConnect : Bool) (first : DeviceSnapshot)
    (moves : List Runtime.Move)
    (hunstranded : Mealy.Along Runtime.machine (fun s move => s.strandsStart move = false)
      (.start (initialState files.load locale) autoConnect first) moves)
    (hsettled : (Mealy.run Runtime.machine
      (.start (initialState files.load locale) autoConnect first) moves).Settled)
    (hrests : (Mealy.run Runtime.machine
      (.start (initialState files.load locale) autoConnect first) moves).actor.Rests) :
    (Mealy.run Runtime.machine
      (.start (initialState files.load locale) autoConnect first) moves).Agrees := by
  have hs : ∀ (s : Runtime) (move : Runtime.Move), s.strandsStart move = false → s.Inv →
      (Runtime.machine s move).1.Inv := fun s move hc h => h.step move hc
  have hi := Mealy.along_invariant hs moves hunstranded
    (Runtime.inv_start files locale autoConnect first)
  exact hi.agrees hsettled hrests

namespace Sample

/-- A stopped backend that has found the kitchen receiver and keeps a
group of it. -/
def found : DeviceSnapshot :=
  { discovery := .running
    receivers := [⟨⟨1⟩, "Kitchen", "AudioAccessory5,1", .discovered⟩]
    savedGroups := [⟨⟨7⟩, "Party", [⟨⟨1⟩, "Kitchen", .DEFAULT_MASTER⟩]⟩] }

/-- The kitchen receiver plays. -/
def playing : DeviceSnapshot :=
  { found with
    runIntent := .running
    session := { phase := .streaming 1, active := {⟨1⟩} } }

def reached (moves : List Runtime.Move) : Runtime :=
  letI := asciiLowercase
  Mealy.run Runtime.machine (.start OpenAirCast.Sample.fresh false found) moves

def press (event : AppEvent) : List Runtime.Move := [.raise event, .turn]

/-- The executor sends an effect and makes its writes. -/
def send (writes : Nat) : List Runtime.Move :=
  .execute false true :: List.replicate writes .write

/-- A pass, and the delivery of the events it led to. -/
def passes (events : Nat) : List Runtime.Move :=
  [.look, .project, .target, .group, .volume, .listen] ++ List.replicate events .flush
    ++ List.replicate events .turn

/-- The backend works through its queue, answers the group start and
plays. -/
def plays (commands : Nat) (receipt : ReceiptId) : List Runtime.Move :=
  List.replicate commands (.backend (.take none))
    ++ [.backend (.answer receipt 1), .backend (.publish playing)]

/-- A saved group is started from idle. -/
def groupStart : List Runtime.Move :=
  passes 9 ++ press (.groupRequested (.apply ⟨7⟩ true)) ++ send 2 ++ plays 1 1
    ++ passes 1 ++ passes 1

/-- An Apply before the first reading keeps that reading out. So the next
Apply starts and the one after it, with nothing staged, stops without the
window leaving Starting. The group start that follows carries no
generation. -/
def strandedStart : List Runtime.Move :=
  press .applyStagedReceivers ++ passes 9 ++ press (.toggleStagedReceiver ⟨1⟩)
    ++ press .applyStagedReceivers ++ press .startRequested ++ send 1
    ++ press (.toggleStagedReceiver ⟨1⟩) ++ press .applyStagedReceivers ++ send 1
    ++ press (.groupRequested (.apply ⟨7⟩ true)) ++ send 1 ++ plays 5 5 ++ passes 1

/-- What `Settled` asks of a run on fixed data. -/
def isSettled (s : Runtime) : Bool :=
  s.effects.isEmpty && s.writes.isEmpty && s.queue.isEmpty && s.outbox.isEmpty
    && (match s.stage with
      | .resting => true
      | _ => false)
    && decide (s.projected.map (fun seen => (seen.1.revision, seen.2))
      = some (s.actor.published.revision, s.echo.sample))
    && s.actor.isIdle

/-- No receipt below `next` holds a floor above the attempt. -/
def floorsReached (s : Runtime) (attempt : Nat) : Bool :=
  (List.range s.nextId).all (fun receipt => match s.actor.channels receipt with
    | .sent confirmation => confirmation.sessionGenerationFloor.all (fun floor => floor ≤ attempt)
    | _ => true)

variable (moves : List Runtime.Move)

theorem settled_of_isSettled (h : isSettled (reached moves) = true) : (reached moves).Settled := by
  let _ := asciiLowercase
  have hr : (reached moves).Receipts :=
    Runtime.receipts_run OpenAirCast.Sample.fresh false found moves
  generalize reached moves = s at h hr
  simp only [isSettled, Bool.and_eq_true, List.isEmpty_iff, decide_eq_true_eq,
    map_eq_some_iff, Prod.mk.injEq] at h
  obtain ⟨⟨⟨⟨⟨⟨he, hw⟩, hq⟩, ho⟩, hs⟩, ⟨snap, seen⟩, hp, hv, hn⟩, hi⟩ := h
  refine ⟨he, hw, hq, ho, ?_, ?_, hi⟩
  · split at hs
    · assumption
    · cases hs
  · -- the newest revision is the newest snapshot
    rcases hr.seen snap seen hp with hm | hlt
    · rw [hp, hm]
      exact congrArg (fun seen => some (s.actor.published, seen)) hn
    · exact absurd hv hlt.ne

theorem rests_of_floorsReached (hint : (reached moves).actor.published.runIntent = .running)
    (hp : (reached moves).actor.published.session.phase = .streaming 1)
    (h : floorsReached (reached moves) 1 = true) : (reached moves).actor.Rests := by
  let _ := asciiLowercase
  have hr : (reached moves).Receipts :=
    Runtime.receipts_run OpenAirCast.Sample.fresh false found moves
  generalize reached moves = s at hint hp h hr
  refine ⟨by simp [hint], ?_⟩
  intro rcpt conf floor att hs hf ha
  obtain rfl : 1 = att := by simpa [hp] using ha
  have hb : rcpt < s.nextId := by
    by_contra hle
    rw [hr.sound.fresh rcpt (Nat.not_lt.mp hle)] at hs
    cases hs
  have := all_eq_true.mp h rcpt (mem_range.mpr hb)
  simpa [hs, hf] using this

end Sample

/-- A group started from idle ends up on screen. -/
theorem window_settles_after_group_start :
    (Sample.reached Sample.groupStart).shell.stream = .streaming 1 ∧
      (Sample.reached Sample.groupStart).Agrees := by
  let _ := asciiLowercase
  refine ⟨by decide, ?_⟩
  refine window_settles_unless_stranded ⟨none, none⟩ .english false Sample.found
    Sample.groupStart (by decide) ?_ ?_
  · exact settled_of_isSettled _ (by decide +kernel)
  · exact rests_of_floorsReached _ (by decide) (by decide) (by decide)

/-- The backend plays and the window stays at Starting. -/
theorem group_start_stranded_on_unanswered_stop :
    letI := asciiLowercase
    ¬ ∀ (files : PreferencesRepository) (loc : ResolvedLocale) (autoConnect : Bool)
      (first : DeviceSnapshot) (moves : List Runtime.Move),
      let s := Mealy.run Runtime.machine
        (.start (initialState files.load loc) autoConnect first) moves
      s.Settled → s.actor.Rests → s.Agrees := by
  let _ := asciiLowercase
  intro hc
  have hp : (Sample.reached Sample.strandedStart).actor.published.session.phase
      = .streaming 1 := by decide
  have ht : (Sample.reached Sample.strandedStart).shell.stream = .starting 1 := by decide
  have ha : (Sample.reached Sample.strandedStart).Agrees := by
    refine hc ⟨none, none⟩ .english false Sample.found Sample.strandedStart ?_ ?_
    · exact settled_of_isSettled _ (by decide +kernel)
    · exact rests_of_floorsReached _ (by decide) hp (by decide)
  obtain ⟨⟨_, hs⟩, -⟩ := ha.streaming 1 hp
  cases hs

end OpenAirCast.Bridge
