/-
Bridge.FeedTheorems — every group operation gets exactly one
outcome, whatever the backend does.

`Ported` lists what the port can write, `Fed` what a move can make of the
system. A request the reducer has asked for is in one of four places: among
the effects that have not been executed, in the group slot, on its way back
as an outcome, or answered. `Accounts` says that no move loses a request or
puts it in two places, and that the shell waits exactly for what is under
way.
-/
import OpenAirCast.App.ReadingTheorems
import OpenAirCast.Bridge.Feed
import OpenAirCast.Bridge.RuntimeTheorems

namespace OpenAirCast

open List HardwareCheck

/-- The request of a group effect. -/
def AppEffect.groupRequest : AppEffect → Option Nat
  | .group request _ _ => some request
  | _ => none

/-- The request an event ends. -/
def AppEvent.finishes : AppEvent → Option Nat
  | .controller (.groupOperationFinished request _) => some request
  | _ => none

namespace Bridge

open OpenAirCast.Backend

/-! ## What the port writes -/

/-- A write that fills neither the group slot nor the volume slot. -/
def EchoWrite.isApart : EchoWrite → Bool
  | .holdGroup _ | .holdVolume _ => false
  | _ => true

/-- The writes an effect can lead to. -/
inductive Ported (echo : GenerationEcho) (effect : AppEffect) : List EchoWrite → Prop
  | apart {writes : List EchoWrite} (hg : effect.groupRequest = none)
      (hv : effect.volumeGeneration = none) (hw : ∀ w ∈ writes, w.isApart = true) :
      Ported echo effect writes
  | volume (pending : VolumePending) (hv : effect.volumeGeneration = some pending.generation)
      (hg : effect.groupRequest = none) :
      Ported echo effect [.holdVolume pending]
  | group (pending : GroupPending) (hg : effect.groupRequest = some pending.request)
      (hv : effect.volumeGeneration = none) (before : List EchoWrite)
      (hb : ∀ w ∈ before, w.isApart = true) :
      Ported echo effect (before ++ [.holdGroup pending])
  /-- The group slot is taken. -/
  | busy (hg : effect.groupRequest ≠ none) (hs : echo.group ≠ none) : Ported echo effect []

theorem ported_group (echo : GenerationEcho) (refusal : Option ControllerSendError) (id : Nat)
    (request : Nat) (generation : Option GenerationId) (command : GroupCommand) :
    Ported echo (.group request generation command)
      (BackendPort.group echo refusal id request generation command).writes := by
  unfold BackendPort.group
  split
  · rename_i hs
    exact .busy (by simp [AppEffect.groupRequest]) (by simpa [Option.isSome_iff_ne_none] using hs)
  · refine .group { request, generation, admission := _ } rfl rfl _ ?_
    cases generation <;> simp [EchoWrite.isApart]

namespace Feed

variable (s : Feed)

theorem reply_ported (refu : Option ControllerSendError) (eff : AppEffect) :
    Ported s.echo eff (((s.reply refu eff).map (·.writes)).getD []) := by
  have hs : ∀ {eff : AppEffect} (cmd : BackendCommand), eff.groupRequest = none →
      eff.volumeGeneration = none →
      Ported s.echo eff (BackendPort.send refu s.nextId cmd).writes :=
    fun cmd hg hv => .apart hg hv (by simp [BackendPort.send])
  cases eff with
  | group => exact ported_group ..
  | applyVolume _ vol => exact .volume _ rfl rfl
  | playListeningTone =>
    refine .apart rfl rfl ?_
    simp only [reply, effectToCommand, Option.map_some, Option.getD_some, BackendPort.trySend,
      BackendPort.playListeningTone]
    split
    · simp
    · split <;> simp [EchoWrite.isApart]
  | discover =>
    refine .apart rfl rfl ?_
    simp only [reply, effectToCommand, Option.map_some, Option.getD_some, BackendPort.trySend]
    split <;> simp [EchoWrite.isApart]
  | startSession => exact .apart rfl rfl (by simp [reply, effectToCommand,
      BackendPort.trySend, BackendPort.startSession, EchoWrite.isApart])
  | stopSession => exact .apart rfl rfl (by simp [reply, effectToCommand,
      BackendPort.trySend, BackendPort.stopSession, EchoWrite.isApart])
  | applyMute => exact hs _ rfl rfl
  | applyReceiverLevel => exact hs _ rfl rfl
  | applyLatency => exact hs _ rfl rfl
  | applyAudioEndpoint request =>
    cases request with
    | systemDefault => exact hs _ rfl rfl
    | endpoint =>
      simp only [reply, effectToCommand, Option.map_some, Option.getD_some, BackendPort.trySend]
      split
      · exact hs _ rfl rfl
      · exact .apart rfl rfl (by simp)
  | persistPreferences => exact .apart rfl rfl (by simp [reply, effectToCommand])
  | reconfigureHotkey => exact .apart rfl rfl (by simp [reply, effectToCommand])
  | showMainWindow => exact .apart rfl rfl (by simp [reply, effectToCommand])
  | hideMainWindow => exact .apart rfl rfl (by simp [reply, effectToCommand])
  | beginShutdown => exact .apart rfl rfl (by simp [reply, effectToCommand])

/-! ## What a move makes of the system -/

/-- An event that reports neither an outcome nor a volume. -/
def IsAside (event : AppEvent) : Prop := event.finishes = none ∧ event.volume = none

theorem runtimeFeedback_aside (eff : AppEffect) (reply : Option PortReply)
    (refused : Bool) : ∀ event ∈ Runtime.feedback eff reply refused, IsAside event := by
  intro event hmem
  unfold Runtime.feedback at hmem
  split at hmem
  · split at hmem
    · simp at hmem
    · rw [mem_singleton.mp hmem]
      exact ⟨rfl, rfl⟩
  · split at hmem
    · rw [mem_singleton.mp hmem]
      exact ⟨rfl, rfl⟩
    · simp at hmem
  · split at hmem
    · rw [mem_singleton.mp hmem]
      exact ⟨rfl, rfl⟩
    · simp at hmem
  · simp at hmem

theorem feedback_aside (eff : AppEffect) (reply : Option PortReply) (refused : Bool) :
    ∀ event ∈ feedback eff reply refused, IsAside event := by
  have hl : ∀ event ∈ channelLoss reply, IsAside event := by
    intro event hmem
    unfold channelLoss at hmem
    split at hmem
    · rw [mem_singleton.mp hmem]
      exact ⟨rfl, rfl⟩
    · simp at hmem
  intro event hmem
  unfold feedback at hmem
  split at hmem
  · exact runtimeFeedback_aside _ _ _ event hmem
  · rcases mem_append.mp hmem with hmem | hmem
    · exact runtimeFeedback_aside _ _ _ event hmem
    · exact hl event hmem

/-- The shell has taken an event. -/
abbrev afterTurn [Lowercase] (s : Feed) (event : AppEvent) (rest : List AppEvent) : Feed :=
  { s with
    shell := (reduce s.shell event).1
    queue := rest
    effects := (reduce s.shell event).2.effects
    taken := s.taken ++ [event]
    emitted := s.emitted ++ (reduce s.shell event).2.effects }

/-- The port has executed an effect. -/
abbrev afterEffect (rest : List AppEffect) (sent : List CommandEnvelope)
    (writes : List EchoWrite) (fed : List AppEvent) : Feed :=
  { s with
    effects := rest
    actor := { s.actor with queue := s.actor.queue ++ sent }
    nextId := s.nextId + sent.length
    writes
    queue := s.queue ++ fed }

variable (snapshot : DeviceSnapshot)

/-- The bridge has projected the snapshot. -/
abbrev afterProject : Feed :=
  { s with
    projection := (s.projection.project snapshot s.echo.sample).1
    outbox := s.outbox ++ (s.projection.project snapshot s.echo.sample).2
    stage := .targeting snapshot (s.projection.project snapshot s.echo.sample).2
    projected := some (snapshot, s.echo.sample) }

/-- The bridge has looked at the group slot. -/
abbrev afterGroup : Feed :=
  { s with
    echo := (s.echo.groupEvents s.actor.channels snapshot s.stateClosed).1
    outbox := s.outbox ++ (s.echo.groupEvents s.actor.channels snapshot s.stateClosed).2
    stage := .settingVolume snapshot }

/-- Everything a move can do. Moves of the backend, and those that only
move the bridge's flags, are `stirred`. -/
inductive Fed [Lowercase] (s : Feed) : Feed → Prop
  | same : Fed s s
  | raised (event : AppEvent) (ha : IsAside event) (hr : raisable event = true) :
      Fed s { s with queue := s.queue ++ [event] }
  | turned (event : AppEvent) (rest : List AppEvent) (he : s.effects = [])
      (hw : s.writes = []) (hq : s.queue = event :: rest) :
      Fed s (s.afterTurn event rest)
  | executed (effect : AppEffect) (rest : List AppEffect) (sent : List CommandEnvelope)
      (writes : List EchoWrite) (fed : List AppEvent) (hw : s.writes = [])
      (he : s.effects = effect :: rest) (hp : Ported s.echo effect writes)
      (hf : ∀ event ∈ fed, IsAside event) :
      Fed s (s.afterEffect rest sent writes fed)
  | wrote (write : EchoWrite) (rest : List EchoWrite) (hw : s.writes = write :: rest) :
      Fed s { s with echo := s.echo.write write, writes := rest }
  | looked (hs : s.stage = .resting) (he : s.ended = false) :
      Fed s { s with stage := .looked s.actor.published }
  | projected (snapshot : DeviceSnapshot) (hs : s.stage = .looked snapshot) :
      Fed s (s.afterProject snapshot)
  | targeted (snapshot : DeviceSnapshot) (produced : List ControllerEvent)
      (hs : s.stage = .targeting snapshot produced) :
      Fed s { s with
          echo := s.echo.observeListeningTarget snapshot produced
          endpoints := s.projection.endpoints
          stage := .grouping snapshot }
  | grouped (snapshot : DeviceSnapshot) (hs : s.stage = .grouping snapshot)
      (ho : s.groupLocked = false) :
      Fed s (s.afterGroup snapshot)
  | volumed (snapshot : DeviceSnapshot) (hs : s.stage = .settingVolume snapshot) : Fed s { s with
          echo := (s.echo.volumeEvents s.actor.channels snapshot s.stateClosed).1
          outbox := s.outbox ++ (s.echo.volumeEvents s.actor.channels snapshot s.stateClosed).2
          stage := .listening snapshot }
  | listened (snapshot : DeviceSnapshot) (hs : s.stage = .listening snapshot) : Fed s { s with
          echo := (s.echo.listeningEvents s.actor.channels snapshot s.stateClosed).1
          outbox := s.outbox
            ++ (s.echo.listeningEvents s.actor.channels snapshot s.stateClosed).2 ++ s.closure
          closureReported := s.closureReported || s.stateClosed
          stage := .resting }
  | flushed (event : ControllerEvent) (rest : List ControllerEvent)
      (ho : s.outbox = event :: rest) :
      Fed s { s with queue := s.queue ++ [.controller event], outbox := rest }
  | appended (event : ControllerEvent) (ha : IsAside (.controller event))
      (hs : s.stage = .resting) (he : s.ended = false) :
      Fed s { s with outbox := s.outbox ++ [event] }
  | stirred (actor : Actor) (closed stateClosed ended : Bool) (he : ended = true → s.ended = true ∨
        s.stage = .resting ∧ s.outbox = [] ∧ s.closureReported = true) :
      Fed s { s with actor, closed, stateClosed, ended }

theorem append_fed [Lowercase] {event : ControllerEvent}
    (haside : IsAside (.controller event)) : Fed s (s.append event) := by
  unfold append Runtime.append
  split
  · exact .same
  · rename_i he
    split
    · rename_i hs
      exact .appended event haside hs (by simpa using he)
    · exact .same

/-- `Fed` covers every move. -/
theorem step_fed [Lowercase] (move : Move) : Fed s (s.step move) := by
  cases move with
  | raise event =>
    simp only [step]
    split
    · rename_i h
      refine .raised event ?_ h
      cases event <;> first | exact ⟨rfl, rfl⟩ | cases h
    · exact .same
  | turn =>
    simp only [step, turn]
    split
    · rename_i event rest he hw hq
      have hr : s.toRuntime.turn = { s.toRuntime with
            shell := (reduce s.shell event).1
            queue := rest
            effects := (reduce s.shell event).2.effects } := by
        simp only [Runtime.turn, he, hw, hq]
      rw [hr]
      exact .turned event rest he hw hq
    · exact .same
  | execute refu refused room =>
    simp only [step, execute]
    split
    · rename_i eff rest hw he
      refine .executed eff rest _ _ _ hw he (s.reply_ported refu eff) ?_
      intro event hmem
      split at hmem
      · exact feedback_aside _ _ _ event hmem
      · simp at hmem
    · exact .same
  | write =>
    simp only [step, Runtime.write]
    split
    · exact .same
    · rename_i write rest hw
      exact .wrote write rest hw
  | look =>
    simp only [step, look, Runtime.look]
    split
    · exact .same
    · rename_i hn
      split
      · rename_i hs _
        exact .looked hs (by simpa using hn)
      · exact .same
  | project =>
    simp only [step, Runtime.project]
    split
    · rename_i snap hs
      exact .projected snap hs
    · exact .same
  | target =>
    simp only [step, Runtime.target]
    split
    · rename_i snap produced hs
      exact .targeted snap produced hs
    · exact .same
  | group =>
    simp only [step, group]
    split
    · rename_i snap hs
      split
      · exact .same
      · rename_i hop
        exact .grouped snap hs (by simpa using hop)
    · exact .same
  | volume =>
    simp only [step, volume]
    split
    · rename_i snap hs
      exact .volumed snap hs
    · exact .same
  | listen =>
    simp only [step, listen]
    split
    · rename_i snap hs
      split
      · exact .same
      · exact .listened snap hs
    · exact .same
  | flush =>
    simp only [step, Runtime.flush]
    split
    · rename_i event rest _ ho
      exact .flushed event rest ho
    · exact .same
  | notice => exact s.append_fed ⟨rfl, rfl⟩
  | diagnostics => exact s.append_fed ⟨rfl, rfl⟩
  | liveDiagnostics => exact s.append_fed ⟨rfl, rfl⟩
  | answer =>
    simp only [step, answer]
    split
    · exact .stirred _ _ _ _ .inl
    · exact .same
  | publish =>
    simp only [step, publish]
    split
    · exact .same
    · exact .stirred _ _ _ _ .inl
  | close => exact .stirred _ _ _ _ .inl
  | hear =>
    simp only [step, hear]
    split
    · exact .stirred _ _ _ _ .inl
    · exact .same
  | finish =>
    simp only [step, finish]
    split
    · rename_i hs ho
      refine .stirred _ _ _ _ ?_
      intro h
      rcases Bool.or_eq_true _ _ |>.mp h with h | h
      · exact .inl h
      · exact .inr ⟨hs, ho, h⟩
    · exact .same

/-! ## Where a request is -/

def requests (effects : List AppEffect) : List Nat := effects.filterMap AppEffect.groupRequest

def outcomes (events : List AppEvent) : List Nat := events.filterMap AppEvent.finishes

/-- Every request the reducer has sent, oldest first. -/
def asked : List Nat := requests s.emitted

def unexecuted : List Nat := requests s.effects

/-- The request in the group slot. The port keeps the slot locked from its
look at it until it has filled it, so what it is about to fill in counts. -/
def held : List Nat := (s.due.group.map (·.request)).toList

/-- The outcomes in the bridge's outbox and the shell's event channel. -/
def onItsWay : List Nat := outcomes s.inFlight

/-- The outcomes the reducer has taken, oldest first. -/
def answered : List Nat := outcomes s.taken

theorem requests_append (a b : List AppEffect) : requests (a ++ b) = requests a ++ requests b :=
  filterMap_append

theorem outcomes_append (a b : List AppEvent) : outcomes (a ++ b) = outcomes a ++ outcomes b :=
  filterMap_append

theorem outcomes_aside {evs : List AppEvent} (h : ∀ event ∈ evs, IsAside event) :
    outcomes evs = [] := filterMap_eq_nil_iff.mpr fun event hmem => (h event hmem).1

variable {effs : List AppEffect}

theorem requests_of_groupless (h : Groupless effs) : requests effs = [] := by
  refine filterMap_eq_nil_iff.mpr ?_
  intro eff hmem
  have ho := all_eq_true.mp h eff hmem
  cases eff <;> first | rfl | simp [AppEffect.isGroup] at ho

theorem groupless_of_requests (h : requests effs = []) : Groupless effs := by
  refine all_eq_true.mpr ?_
  intro eff hmem
  have hn := filterMap_eq_nil_iff.mp h eff hmem
  cases eff <;> first | rfl | cases hn

/-- What neither slot is filled by keeps both. -/
theorem writes_apart {wrs : List EchoWrite} (h : ∀ w ∈ wrs, w.isApart = true)
    (echo : GenerationEcho) :
    (wrs.foldl GenerationEcho.write echo).group = echo.group
      ∧ (wrs.foldl GenerationEcho.write echo).volume = echo.volume := by
  induction wrs generalizing echo with
  | nil => exact ⟨rfl, rfl⟩
  | cons w _ ih =>
    have hr := ih (fun v hv => h v (mem_cons_of_mem _ hv)) (echo.write w)
    have hw := h w mem_cons_self
    cases w with
    | recordDiscovery _ | recordSession _ _ | holdListening _ => exact hr
    | holdGroup => cases hw
    | holdVolume => cases hw

/-! ## One outcome each -/

/-- The shell waits for this request. -/
def Waits (request : Nat) : Prop :=
  ∃ operation, s.shell.groupOperation = some operation ∧ operation.request = request ∧
    operation.status = .pending

/-- Each request asked for is in one place, and the shell waits for the
one that is under way. -/
structure Accounts (s : Feed) : Prop where
  single : requests s.effects.tail = []
  free : s.unexecuted ≠ [] → s.held = []
  counted : ∀ request, s.asked.count request
    = s.unexecuted.count request + s.held.count request + s.onItsWay.count request
      + s.answered.count request
  once : s.asked.Nodup
  known : ∀ request ∈ s.asked, request ≤ s.shell.nextGroupRequest
  awaited : s.shell.controllerClosed = false → ∀ request ∈ s.unexecuted ++ s.held, s.Waits request
  underWay : ∀ request, s.Waits request → request ∈ s.unexecuted ++ s.held ++ s.onItsWay
  /-- No outcome leaves its operation pending. -/
  conclusive : ∀ request, .controller (.groupOperationFinished request .pending) ∉ s.inFlight
  shut : s.shell.controllerClosed = true → groupPending s.shell = false

theorem waits_pending {s : Feed} {request : Nat} (h : s.Waits request) :
    groupPending s.shell = true := by
  obtain ⟨_, hop, -, hs⟩ := h
  simp [groupPending, hop, hs]

/-- What taking `event` does to the places of requests. -/
structure Turned (s : Feed) (event : AppEvent) (s' : Feed) : Prop where
  idle : s.effects = []
  held : s'.held = s.held
  way : s.onItsWay = event.finishes.toList ++ s'.onItsWay
  answered : s'.answered = s.answered ++ event.finishes.toList
  asked : s'.asked = s.asked ++ requests s'.effects
  line : s.inFlight = event :: s'.inFlight
  finish : ∀ {operation : GroupOperation} {status : GroupOperationStatus},
    event = .controller (.groupOperationFinished operation.request status) →
    s.shell.groupOperation = some operation → operation.status = .pending →
    s'.shell.groupOperation = some { operation with status }

theorem turned_turn [Lowercase] {s : Feed} {event : AppEvent} {rest : List AppEvent}
    (he : s.effects = []) (hq : s.queue = event :: rest) :
    Turned s event (s.afterTurn event rest) := by
  have hs : outcomes [event] = event.finishes.toList := by
    simp only [outcomes, filterMap_cons, filterMap_nil]
    cases event.finishes <;> rfl
  have hl : s.inFlight = [event] ++ (rest ++ s.outbox.map .controller) := by
    rw [Runtime.inFlight, hq]
    rfl
  refine ⟨he, rfl, ?_, ?_, requests_append _ _, hl, ?_⟩
  · rw [onItsWay, hl, outcomes_append, hs]
    rfl
  · rw [answered, outcomes_append, hs]
    rfl
  · rintro _ stat rfl hop hst
    exact reduce_groupOperationFinished hop hst stat

namespace Turned

variable {s s' : Feed} {event : AppEvent} (h : Turned s event s')
include h

theorem unexecuted : s.unexecuted = [] := by
  rw [Feed.unexecuted, h.idle]
  rfl

theorem mem_inFlight : ∀ e ∈ s'.inFlight, e ∈ s.inFlight := by
  intro e he
  rw [h.line]
  exact mem_cons_of_mem _ he

end Turned

namespace Accounts

variable {s s' : Feed}

variable {request : Nat}

theorem frame (h : s.Accounts) (hs : s'.shell = s.shell) (he : s'.effects = s.effects)
    (hh : s'.held = s.held) (hy : s'.onItsWay = s.onItsWay) (hk : s'.taken = s.taken)
    (hm : s'.emitted = s.emitted)
    (hc : ∀ request, .controller (.groupOperationFinished request .pending)
      ∈ s'.inFlight → .controller (.groupOperationFinished request .pending) ∈ s.inFlight) :
    s'.Accounts := by
  have hu : s'.unexecuted = s.unexecuted := by rw [unexecuted, he, unexecuted]
  have ha : s'.asked = s.asked := by rw [asked, hm, asked]
  have hn : s'.answered = s.answered := by rw [answered, hk, answered]
  have hwt : ∀ request, s'.Waits request ↔ s.Waits request := fun request => by
    rw [Waits, hs, Waits]
  constructor
  · rw [he]
    exact h.single
  · rw [hu, hh]
    exact h.free
  · rw [ha, hu, hh, hy, hn]
    exact h.counted
  · rw [ha]
    exact h.once
  · rw [ha, hs]
    exact h.known
  · rw [hs, hu, hh]
    exact fun hop request hmem => (hwt request).mpr (h.awaited hop request hmem)
  · rw [hu, hh, hy]
    exact fun request hw => h.underWay request ((hwt request).mp hw)
  · exact fun request hmem => h.conclusive request (hc request hmem)
  · rw [hs]
    exact h.shut

theorem joined (h : s.Accounts) (fed : List AppEvent) (produced : List ControllerEvent)
    (hf : ∀ event ∈ fed, IsAside event)
    (hp : ∀ event ∈ produced, (AppEvent.controller event).finishes = none)
    (hs : s'.shell = s.shell) (he : s'.effects = s.effects)
    (hh : s'.held = s.held) (hq : s'.queue = s.queue ++ fed)
    (ho : s'.outbox = s.outbox ++ produced) (hk : s'.taken = s.taken)
    (hm : s'.emitted = s.emitted) : s'.Accounts := by
  refine h.frame hs he hh ?_ hk hm ?_
  · have hprodu : outcomes (produced.map .controller) = [] := by
      refine filterMap_eq_nil_iff.mpr ?_
      intro event hmem
      obtain ⟨produced, hin, rfl⟩ := mem_map.mp hmem
      exact hp produced hin
    simp only [onItsWay, Runtime.inFlight, hq, ho, map_append, outcomes_append,
      outcomes_aside hf, hprodu, append_nil]
  · intro request hmem
    simp only [Runtime.inFlight, hq, ho, map_append, mem_append, mem_map] at hmem ⊢
    rcases hmem with (hmem | hmem) | (hmem | ⟨event, hmem, heq⟩)
    · exact .inl hmem
    · exact absurd (hf _ hmem).1 (by simp [AppEvent.finishes])
    · exact .inr hmem
    · have hn := hp event hmem
      rw [heq] at hn
      cases hn

/-- A request that has no place yet is new. -/
theorem fresh (h : s.Accounts) (hn : s.shell.nextGroupRequest < request) : request ∉ s.asked := by
  intro hmem
  have := h.known request hmem
  omega

/-- A request is nowhere else while its outcome is on its way. -/
theorem alone (h : s.Accounts) (hw : request ∈ s.onItsWay) : request ∉ s.unexecuted ++ s.held := by
  intro hmem
  have hc := h.counted request
  have ho := nodup_iff_count_le_one.mp h.once request
  have hw := count_pos_iff.mpr hw
  rcases mem_append.mp hmem with hmem | hmem
  · have := count_pos_iff.mpr hmem
    omega
  · have := count_pos_iff.mpr hmem
    omega

theorem unasked (h : s.Accounts) (event : AppEvent) (he : s.effects = [])
    (hh : s'.held = s.held) (hw : s.onItsWay = event.finishes.toList ++ s'.onItsWay)
    (hs : s'.answered = s.answered ++ event.finishes.toList)
    (ha : s'.asked = s.asked) (hf : Groupless s'.effects)
    (hx : s.shell.nextGroupRequest ≤ s'.shell.nextGroupRequest)
    (haw : s'.shell.controllerClosed = false → ∀ request ∈ s.held, s'.Waits request)
    (hundWay : ∀ request, s'.Waits request → request ∈ s.held ++ s'.onItsWay)
    (hc : ∀ event ∈ s'.inFlight, event ∈ s.inFlight)
    (hsh : s'.shell.controllerClosed = true → groupPending s'.shell = false) : s'.Accounts := by
  have hn : s'.unexecuted = [] := requests_of_groupless hf
  have hi : s.unexecuted = [] := by rw [unexecuted, he]; rfl
  constructor
  · exact requests_of_groupless (Runtime.groupless_tail hf)
  · exact fun hm => absurd hn hm
  · intro request
    have hcn := h.counted request
    rw [ha, hn, hh, hs, count_append]
    rw [hi, hw, count_append] at hcn
    omega
  · rw [ha]
    exact h.once
  · rw [ha]
    exact fun request hmem => (h.known request hmem).trans hx
  · rw [hn, hh]
    exact haw
  · rw [hn, hh]
    exact hundWay
  · exact fun request hmem => h.conclusive request (hc _ hmem)
  · exact hsh

section Turns

variable {event : AppEvent} (h : s.Accounts) (ht : Turned s event s')
include h ht

theorem still (hw : s.Waits request) (hw' : s'.Waits request) :
    request ∈ s.held ++ s'.onItsWay := by
  have hp := h.underWay request hw
  rw [ht.unexecuted, nil_append, ht.way, mem_append, mem_append] at hp
  rcases hp with hin | hin | hin
  · exact mem_append_left _ hin
  · -- the event is its outcome, which ends the waiting
    obtain ⟨oper, hop, rfl, hs⟩ := hw
    obtain ⟨stat, he⟩ : ∃ stat,
        event = .controller (.groupOperationFinished oper.request stat) := by
      unfold AppEvent.finishes at hin
      split at hin
      · rename_i request stat
        obtain rfl : oper.request = request := by simpa using hin
        exact ⟨stat, rfl⟩
      · simp at hin
    have ha := ht.finish he hop hs
    obtain ⟨_, hop', -, hs'⟩ := hw'
    obtain rfl := Option.some.inj (ha.symm.trans hop')
    obtain rfl : stat = .pending := hs'
    refine absurd ?_ (h.conclusive oper.request)
    rw [ht.line, ← he]
    exact mem_cons_self
  · exact mem_append_right _ hin

theorem turned_unasked (hf : Groupless s'.effects)
    (hn : s.shell.nextGroupRequest ≤ s'.shell.nextGroupRequest)
    (ha : s'.shell.controllerClosed = false → ∀ request ∈ s.held, s'.Waits request)
    (hundWay : ∀ request, s'.Waits request → request ∈ s.held ++ s'.onItsWay)
    (hs : s'.shell.controllerClosed = true → groupPending s'.shell = false) : s'.Accounts := by
  have hk : s'.asked = s.asked := by rw [ht.asked, requests_of_groupless hf, append_nil]
  exact h.unasked event ht.idle ht.held ht.way ht.answered hk hf hn ha hundWay ht.mem_inFlight hs

/-- The event asks for a group operation. The shell waited for nothing, so the
slot holds nothing. -/
theorem turned_asked {generation : Option GenerationId} {command : GroupCommand}
    {others : List AppEffect} (hf : groupPending s.shell = false)
    (hn : s.shell.controllerClosed = false)
    (hg : s'.shell.groups =
      { operation := some
          { request := s.shell.nextGroupRequest + 1, command, status := .pending }
        nextRequest := s.shell.nextGroupRequest + 1
        closed := false })
    (hx : s'.effects = .group (s.shell.nextGroupRequest + 1) generation command :: others)
    (hs : Groupless others) : s'.Accounts := by
  have he : s.held = [] := by
    refine eq_nil_iff_forall_not_mem.mpr (fun request hin => ?_)
    have hw := h.awaited hn request (mem_append_right _ hin)
    rw [waits_pending hw] at hf
    cases hf
  have hr : requests s'.effects = [s.shell.nextGroupRequest + 1] := by
    rw [hx]
    exact congrArg (_ :: ·) (requests_of_groupless hs)
  have hnx : s'.shell.nextGroupRequest = s.shell.nextGroupRequest + 1 :=
    congrArg GroupCore.nextRequest hg
  have ho := congrArg GroupCore.operation hg
  have hne : s.shell.nextGroupRequest + 1 ∉ s.asked := h.fresh (Nat.lt_succ_self _)
  constructor
  · rw [hx]
    exact requests_of_groupless hs
  · intro _
    rw [ht.held]
    exact he
  · intro request
    have hc := h.counted request
    rw [ht.unexecuted, ht.way, count_append] at hc
    rw [ht.asked, unexecuted, hr, ht.held, ht.answered, count_append,
      count_append, hc]
    simp only [count_nil]
    omega
  · rw [ht.asked, hr]
    refine nodup_append.mpr ⟨h.once, nodup_singleton _, fun a ha b hb => ?_⟩
    rw [mem_singleton.mp hb]
    exact fun heq => hne (heq ▸ ha)
  · intro request hin
    rw [ht.asked, hr, mem_append, mem_singleton] at hin
    rcases hin with hin | rfl
    · have := h.known request hin
      omega
    · exact hnx.ge
  · intro _ request hin
    rw [unexecuted, hr, ht.held, he, append_nil, mem_singleton] at hin
    exact ⟨_, ho, hin.symm, rfl⟩
  · rintro request ⟨_, hop, hq, -⟩
    obtain rfl := Option.some.inj (ho.symm.trans hop)
    rw [unexecuted, hr, ← hq]
    simp
  · exact fun request hin => h.conclusive request (ht.mem_inFlight _ hin)
  · intro hh
    rw [show s'.shell.controllerClosed = false from congrArg GroupCore.closed hg] at hh
    cases hh

theorem turned_finished {status : GroupOperationStatus} {operation : GroupOperation}
    (he : event = .controller (.groupOperationFinished request status))
    (hp : s.shell.groupOperation = some operation ∧ operation.request = request ∧
      operation.status = .pending)
    (hg : s'.shell.groups = { s.shell.groups with operation := some { operation with status } })
    (hf : Groupless s'.effects) : s'.Accounts := by
  have hc : s'.shell.controllerClosed = s.shell.controllerClosed := congrArg GroupCore.closed hg
  have ho : s'.shell.groupOperation = some { operation with status } :=
    congrArg GroupCore.operation hg
  have hw : request ∈ s.onItsWay := by
    rw [ht.way, he]
    simp [AppEvent.finishes]
  have hd : status ≠ .pending := by
    rintro rfl
    refine h.conclusive request ?_
    rw [ht.line, ← he]
    exact mem_cons_self
  refine h.turned_unasked ht hf (congrArg GroupCore.nextRequest hg).ge ?_ ?_ ?_
  · -- what the slot holds is the request, and that is on its way
    intro hn other hin
    obtain ⟨operation', hop, hr, -⟩ := h.awaited (hc ▸ hn) other (mem_append_right _ hin)
    obtain rfl : operation = operation' := Option.some.inj (hp.1.symm.trans hop)
    rw [← hr, hp.2.1] at hin
    exact absurd (mem_append_right _ hin) (h.alone hw)
  · rintro _ ⟨_, hop, -, hs⟩
    obtain rfl := Option.some.inj (ho.symm.trans hop)
    exact absurd hs hd
  · intro _
    simp [groupPending, ho, hd]

end Turns

theorem turned [Lowercase] (h : s.Accounts) {event : AppEvent} {rest : List AppEvent}
    (he : s.effects = []) (hq : s.queue = event :: rest) :
    Accounts (s.afterTurn event rest) := by
  have ht := turned_turn he hq
  have hm := reduce_groupMove s.shell event
  generalize hs' : (s.afterTurn event rest) = s' at ht ⊢
  rw [show (reduce s.shell event).1 = s'.shell from hs' ▸ rfl,
    show (reduce s.shell event).2.effects = s'.effects from hs' ▸ rfl] at hm
  cases hm with
  | kept hg hf =>
    have hwt : ∀ request, s'.Waits request ↔ s.Waits request := fun request => by
      have hr : s'.shell.groupOperation = s.shell.groupOperation := congrArg GroupCore.operation hg
      rw [Waits, hr, Waits]
    have hc : s'.shell.controllerClosed = s.shell.controllerClosed := congrArg GroupCore.closed hg
    refine h.turned_unasked ht hf (congrArg GroupCore.nextRequest hg).ge ?_ ?_ ?_
    · intro ho request hin
      exact (hwt request).mpr (h.awaited (hc ▸ ho) request (mem_append_right _ hin))
    · exact fun request hw => h.still ht ((hwt request).mp hw) hw
    · rw [hc, groupPending_of_groups hg]
      exact h.shut
  | asked _ _ _ hfr ho _ _ hg hf hs => exact h.turned_asked ht hfr ho hg hf hs
  | finished _ _ _ hv hp hg hf => exact h.turned_finished ht hv hp hg hf
  | discarded hfr hg hf =>
    have hr : s'.shell.groupOperation = none := congrArg GroupCore.operation hg
    have hc : s'.shell.controllerClosed = s.shell.controllerClosed := congrArg GroupCore.closed hg
    refine h.turned_unasked ht hf (congrArg GroupCore.nextRequest hg).ge ?_ ?_ ?_
    · intro ho request hin
      have hw := h.awaited (hc ▸ ho) request (mem_append_right _ hin)
      rw [waits_pending hw] at hfr
      cases hfr
    · rintro request ⟨_, hop, -⟩
      rw [hr] at hop
      cases hop
    · intro _
      simp [groupPending, hr]
  | shut hc hl hn hf =>
    refine h.turned_unasked ht hf hn (by simp [hc]) ?_ (fun _ => hl)
    intro request hw
    rw [waits_pending hw] at hl
    cases hl

theorem executed (h : s.Accounts) {eff : AppEffect} {rest : List AppEffect}
    {sent : List CommandEnvelope} {wrs : List EchoWrite} {fed : List AppEvent}
    (hwr : s.writes = []) (hf : s.effects = eff :: rest)
    (hpr : Ported s.echo eff wrs) (hfe : ∀ event ∈ fed, IsAside event) :
    Accounts (s.afterEffect rest sent wrs fed) := by
  have hd : s.due = s.echo := Runtime.due_of_no_writes hwr
  have hr : requests rest = [] := by
    have := h.single
    rwa [hf] at this
  have hu : s.unexecuted = eff.groupRequest.toList := by
    rw [unexecuted, hf, requests, filterMap_cons, ← requests, hr]
    cases eff.groupRequest <;> rfl
  -- the effects left ask for nothing, and the slot has what the effect asked
  have hv : ∀ t : Feed, t.shell = s.shell → t.effects = rest → t.queue = s.queue ++ fed →
      t.outbox = s.outbox → t.taken = s.taken → t.emitted = s.emitted →
      t.held = eff.groupRequest.toList ++ s.held → t.Accounts := by
    intro t hs hx hq ho hk he hh
    have hn : t.unexecuted = [] := by rw [unexecuted, hx, hr]
    have hp : t.unexecuted ++ t.held = s.unexecuted ++ s.held := by rw [hn, hh, hu, nil_append]
    have hy : t.onItsWay = s.onItsWay := by
      simp only [onItsWay, Runtime.inFlight, hq, ho, outcomes_append,
        outcomes_aside hfe, append_nil]
    have ha : t.asked = s.asked := by rw [asked, he, asked]
    constructor
    · rw [hx]
      exact requests_of_groupless (Runtime.groupless_tail (groupless_of_requests hr))
    · exact fun hsm => absurd hn hsm
    · intro request
      have hc := h.counted request
      have hl := congrArg (List.count request) hp
      rw [count_append, count_append] at hl
      rw [ha, hy, answered, hk, ← answered]
      omega
    · rw [ha]
      exact h.once
    · rw [ha, hs]
      exact h.known
    · rw [hp, hs]
      intro hop request hin
      rw [Waits, hs]
      exact h.awaited hop request hin
    · rw [hp, hy]
      intro request hw
      rw [Waits, hs] at hw
      exact h.underWay request hw
    · intro request hin
      simp only [Runtime.inFlight, hq, ho, mem_append] at hin
      rcases hin with (hin | hin) | hin
      · exact h.conclusive request (mem_append_left _ hin)
      · exact absurd (hfe _ hin).1 (by simp [AppEvent.finishes])
      · exact h.conclusive request (mem_append_right _ hin)
    · rw [hs]
      exact h.shut
  refine hv _ rfl rfl rfl rfl rfl rfl ?_
  show ((wrs.foldl GenerationEcho.write s.echo).group.map _).toList = _
  rw [held, hd]
  cases hpr with
  | apart hg _ hap => rw [hg, (writes_apart hap s.echo).1]; rfl
  | volume _ _ hg => rw [hg]; rfl
  | group _ hg =>
    have hm : s.held = [] := h.free (by rw [hu, hg]; simp)
    rw [held, hd] at hm
    rw [hg, hm, foldl_append]
    rfl
  | busy hg hsl =>
    have hm : s.held = [] := h.free (by
      rw [hu]
      simpa [Option.toList_eq_nil_iff] using hg)
    rw [held, hd] at hm
    simp [Option.toList_eq_nil_iff] at hm
    exact absurd hm hsl

variable {snap : DeviceSnapshot}

theorem groupEnd_conclusive {chans : ReceiptId → Oneshot}
    {closed : Bool} {pend : GroupPending} {stat : GroupOperationStatus}
    {rcpt : Option CommandReceipt}
    (h : GroupEnd chans snap closed pend stat rcpt) : stat ≠ .pending := by
  cases h with
  | refused => simp
  | polled _ _ _ _ hs =>
    rintro rfl
    unfold GenerationEcho.groupStatus at hs
    split at hs
    · cases hs
    · cases hs
    · cases hs
    · split at hs <;> cases hs

theorem grouped (h : s.Accounts) (hop : s.groupLocked = false) : Accounts (s.afterGroup snap) := by
  unfold afterGroup
  have hl := groupEvents_look s.echo s.actor.channels snap s.stateClosed
  generalize s.echo.groupEvents s.actor.channels snap s.stateClosed = result at hl
  have hd : ∀ echo : GenerationEcho,
      (s.writes.foldl GenerationEcho.write echo).group = echo.group :=
    Runtime.due_group_of_open hop
  have hh : s.held = (s.echo.group.map (·.request)).toList := by rw [held, Runtime.due, hd]
  cases hl with
  | free => exact h.joined [] [] (by simp) (by simp) rfl rfl rfl (by simp) rfl rfl rfl
  | waits _ _ _ hg =>
    refine h.joined [] [] (by simp) (by simp) rfl rfl ?_ (by simp) rfl rfl rfl
    rw [held, Runtime.due, hd, hh, hg]
    rfl
  | ends pend stat rcpt hg he =>
    rw [hg] at hh
    set s' : Feed := { s with
      echo := (s.echo.resolveGroup pend stat rcpt snap.revision).1
      outbox := s.outbox ++ (s.echo.resolveGroup pend stat rcpt snap.revision).2
      stage := .settingVolume snap } with hs'
    have hf : s'.held = [] := by
      rw [held, Runtime.due, hd]
      rfl
    have hn : s'.inFlight
        = s.inFlight ++ [.controller (.groupOperationFinished pend.request stat)] := by
      simp [Runtime.inFlight, hs', GenerationEcho.resolveGroup]
    have hy : s'.onItsWay = s.onItsWay ++ s.held := by
      rw [onItsWay, hn, outcomes_append, hh]
      rfl
    constructor
    · exact h.single
    · exact fun _ => hf
    · intro request
      have hc := h.counted request
      rw [hf, hy, count_append, count_nil]
      show s.asked.count request = s.unexecuted.count request + 0 + _ + s.answered.count request
      omega
    · exact h.once
    · exact h.known
    · rw [hf, append_nil]
      exact fun hopene request hin => h.awaited hopene request (mem_append_left _ hin)
    · intro request hw
      have hp := h.underWay request hw
      rw [hf, hy]
      simp only [mem_append, not_mem_nil, or_false] at hp ⊢
      rcases hp with (hin | hin) | hin
      · exact .inl hin
      · exact .inr (.inr hin)
      · exact .inr (.inl hin)
    · intro request hin
      rw [hn, mem_append, mem_singleton, AppEvent.controller.injEq,
        ControllerEvent.groupOperationFinished.injEq] at hin
      rcases hin with hin | ⟨-, hin⟩
      · exact h.conclusive request hin
      · exact groupEnd_conclusive he hin.symm
    · exact h.shut

theorem project_finishes (p : Projection) (snap : DeviceSnapshot) (seen : GenerationsSeen) :
    ∀ event ∈ (p.project snap seen).2, (AppEvent.controller event).finishes = none := by
  intro event hmem
  have hf := Runtime.project_finishless p snap seen event hmem
  cases event with
  | groupOperationFinished => cases hf
  | _ => rfl

/-- No move loses a request or doubles one. -/
theorem step [Lowercase] (h : s.Accounts) (hs : Fed s s') : s'.Accounts := by
  cases hs with
  | same => exact h
  | raised event haside =>
    exact h.joined [event] [] (by simpa using haside) (by simp) rfl rfl rfl rfl (by simp) rfl rfl
  | turned _ _ he _ hq => exact h.turned he hq
  | executed _ _ _ _ _ hw he hp hf => exact h.executed hw he hp hf
  | wrote _ _ hw =>
    refine h.frame rfl rfl ?_ rfl rfl rfl fun request hin => hin
    simp only [held, Runtime.due, hw, foldl_cons]
  | looked => exact h.frame rfl rfl rfl rfl rfl rfl fun request hin => hin
  | projected =>
    exact h.joined [] _ (by simp) (project_finishes _ _ _) rfl rfl rfl (by simp) rfl rfl rfl
  | targeted snap produced =>
    refine h.frame rfl rfl ?_ rfl rfl rfl fun request hin => hin
    simp only [held, Runtime.due,
      Runtime.foldl_write_group _ (observeListeningTarget_session s.echo snap produced).2]
  | grouped _ _ hop => exact h.grouped hop
  | volumed snap =>
    obtain ⟨⟨_, hc⟩, hv⟩ := Runtime.volumeEvents_result s.echo s.actor.channels snap s.stateClosed
    refine h.joined [] _ (by simp) ?_ rfl rfl ?_ (by simp) rfl rfl rfl
    · intro event hmem
      have hn := hv event hmem
      cases event <;> first | rfl | simp [Runtime.isNeutral] at hn
    · simp only [held, Runtime.due]
      rw [Runtime.foldl_write_group s.writes (by rw [hc] :
        (s.echo.volumeEvents s.actor.channels snap s.stateClosed).1.group = s.echo.group)]
  | listened snap =>
    obtain ⟨⟨_, hc, -⟩, hv⟩ :=
      Runtime.listeningEvents_result s.echo s.actor.channels snap s.stateClosed
    refine h.joined [] _ (by simp) ?_ rfl rfl ?_ (by simp) (append_assoc ..) rfl rfl
    · intro event hmem
      rcases mem_append.mp hmem with hmem | hmem
      · obtain ⟨_, -, rfl⟩ := hv event hmem
        rfl
      · unfold closure at hmem
        split at hmem
        · rw [mem_singleton.mp hmem]
          rfl
        · simp at hmem
    · simp only [held, Runtime.due]
      rw [Runtime.foldl_write_group s.writes (by rw [hc] :
        (s.echo.listeningEvents s.actor.channels snap s.stateClosed).1.group = s.echo.group)]
  | flushed event rest ho =>
    have hl : s.inFlight = (s.queue ++ [.controller event]) ++ rest.map .controller := by
      simp [Runtime.inFlight, ho]
    refine h.frame rfl rfl rfl ?_ rfl rfl ?_
    · rw [onItsWay, onItsWay, hl]
      rfl
    · rw [hl]
      exact fun request hin => hin
  | appended event haside =>
    exact h.joined [] [event] (by simp) (by simpa using haside.1) rfl rfl rfl (by simp) rfl rfl rfl
  | stirred => exact h.frame rfl rfl rfl rfl rfl rfl fun request hin => hin

end Accounts

/-! ## The closure -/

/-- The closure is reported before the bridge ends, and a shell that has
heard of it refuses by itself. -/
structure Reported (s : Feed) : Prop where
  reported : s.closureReported = true →
    .controller (.channelClosed CONTROLLER_STOPPED_SUMMARY) ∈ s.taken ++ s.inFlight
  ended : s.ended = true → s.stage = .resting ∧ s.outbox = [] ∧ s.closureReported = true
  told : ∀ summary, .controller (.channelClosed summary) ∈ s.taken → s.shell.controllerClosed = true
  /-- Until then every request given out was sent. -/
  sent : s.shell.controllerClosed = false →
    ∀ request, 0 < request → request ≤ s.shell.nextGroupRequest → request ∈ s.asked

namespace Reported

variable {s s' : Feed}

theorem frame (h : s.Reported) (hs : s'.shell = s.shell) (hk : s'.taken = s.taken)
    (he : s'.emitted = s.emitted) (hl : ∀ event ∈ s.inFlight, event ∈ s'.inFlight)
    (hr : s'.closureReported = true → s.closureReported = true ∨
      .controller (.channelClosed CONTROLLER_STOPPED_SUMMARY) ∈ s'.inFlight)
    (hn : s'.ended = true →
      s'.stage = .resting ∧ s'.outbox = [] ∧ s'.closureReported = true) : s'.Reported := by
  constructor
  · intro hp
    rw [hk, mem_append]
    rcases hr hp with hold | hw
    · exact (mem_append.mp (h.reported hold)).imp_right (hl _)
    · exact .inr hw
  · exact hn
  · rw [hk, hs]
    exact h.told
  · rw [hs, asked, he]
    exact h.sent

theorem turned [Lowercase] (h : s.Reported) {event : AppEvent} {rest : List AppEvent}
    (hq : s.queue = event :: rest) :
    Reported (s.afterTurn event rest) := by
  constructor
  · intro hr
    have hin := h.reported hr
    rw [Runtime.inFlight, hq] at hin
    simpa [Runtime.inFlight] using hin
  · exact h.ended
  · intro summ hin
    rcases mem_append.mp hin with hin | hin
    · exact reduce_controllerClosed (.inl (h.told summ hin))
    · exact reduce_controllerClosed (.inr ⟨summ, (mem_singleton.mp hin).symm⟩)
  · intro hop request hpos hle
    have hb : s.shell.controllerClosed = false := by
      cases hc : s.shell.controllerClosed with
      | false => rfl
      | true =>
        have ha : (reduce s.shell event).1.controllerClosed = true :=
          reduce_controllerClosed (.inl hc)
        exact ha.symm.trans hop
    show request ∈ requests (s.emitted ++ (reduce s.shell event).2.effects)
    rw [requests_append, mem_append]
    have hold : request ≤ s.shell.nextGroupRequest → request ∈ requests s.emitted :=
      h.sent hb request hpos
    change request ≤ (reduce s.shell event).1.nextGroupRequest at hle
    cases reduce_groupMove s.shell event with
    | kept hg => exact .inl (hold (hle.trans (congrArg GroupCore.nextRequest hg).le))
    | asked _ _ _ _ _ _ _ hg hf =>
      have hn : (reduce s.shell event).1.nextGroupRequest = s.shell.nextGroupRequest + 1 :=
        congrArg GroupCore.nextRequest hg
      rcases Nat.lt_or_eq_of_le hle with _ | heq
      · exact .inl (hold (by omega))
      · rw [hf, heq, hn]
        exact .inr mem_cons_self
    | finished _ _ _ _ _ hg => exact .inl (hold (hle.trans (congrArg GroupCore.nextRequest hg).le))
    | discarded _ hg => exact .inl (hold (hle.trans (congrArg GroupCore.nextRequest hg).le))
    | shut hc => cases hc.symm.trans hop

/-- No move ends the bridge with a closure unreported. -/
theorem step [Lowercase] (h : s.Reported) (hs : Fed s s') : s'.Reported := by
  -- a bridge that has ended rests, so no move of a pass is its own
  have hr : ∀ {stage : Stage}, s.stage = stage → stage ≠ .resting → s.ended = false := by
    intro stage hg hp
    by_contra he
    have hrs := (h.ended (by simpa using he)).1
    exact hp (hg.symm.trans hrs)
  cases hs with
  | same => exact h
  | raised =>
    refine h.frame rfl rfl rfl ?_ .inl h.ended
    intro e hin
    simp only [Runtime.inFlight, mem_append] at hin ⊢
    exact hin.imp_left .inl
  | turned _ _ _ _ hq => exact h.turned hq
  | executed =>
    refine h.frame rfl rfl rfl ?_ .inl h.ended
    intro e hin
    simp only [Runtime.inFlight, mem_append] at hin ⊢
    exact hin.imp_left .inl
  | wrote => exact h.frame rfl rfl rfl (fun e hin => hin) .inl h.ended
  | looked _ he => exact h.frame rfl rfl rfl (fun e hin => hin) .inl (by simp [he])
  | projected _ hg =>
    refine h.frame rfl rfl rfl ?_ .inl (by simp [hr hg])
    intro e hin
    simp only [Runtime.inFlight, map_append, mem_append] at hin ⊢
    exact hin.imp_right .inl
  | targeted _ _ hg => exact h.frame rfl rfl rfl (fun e hin => hin) .inl (by simp [hr hg])
  | grouped _ hg =>
    refine h.frame rfl rfl rfl ?_ .inl (by simp [hr hg])
    intro e hin
    simp only [Runtime.inFlight, map_append, mem_append] at hin ⊢
    exact hin.imp_right .inl
  | volumed _ hg =>
    refine h.frame rfl rfl rfl ?_ .inl (by simp [hr hg])
    intro e hin
    simp only [Runtime.inFlight, map_append, mem_append] at hin ⊢
    exact hin.imp_right .inl
  | listened _ hg =>
    refine h.frame rfl rfl rfl ?_ ?_ (by simp [hr hg])
    · intro e hin
      simp only [Runtime.inFlight, map_append, mem_append] at hin ⊢
      exact hin.imp_right fun hin => .inl (.inl hin)
    · -- the closure is reported for the first time, or was before
      intro hre
      cases hold : s.closureReported with
      | true => exact .inl rfl
      | false =>
        have hc : s.stateClosed = true := by simpa [hold] using hre
        refine .inr ?_
        simp [Runtime.inFlight, closure, hold, hc]
  | flushed _ _ ho =>
    refine h.frame rfl rfl rfl ?_ .inl ?_
    · intro e hin
      simpa [Runtime.inFlight, ho] using hin
    · intro he
      have hm := (h.ended he).2.1
      rw [ho] at hm
      cases hm
  | appended _ _ _ he =>
    refine h.frame rfl rfl rfl ?_ .inl (by simp [he])
    intro e hin
    simp only [Runtime.inFlight, map_append, mem_append] at hin ⊢
    exact hin.imp_right .inl
  | stirred _ _ _ ended he =>
    refine h.frame rfl rfl rfl (fun e hin => hin) .inl ?_
    intro hn
    rcases he hn with hb | hb
    · exact h.ended hb
    · exact hb

end Reported

/-! ## Whole runs -/

section

variable (files : PreferencesRepository) (loc : ResolvedLocale) (first : DeviceSnapshot)

theorem accounts_start : (start (initialState files.load loc) first).Accounts where
  single := rfl
  free := fun _ => rfl
  counted := fun _ => rfl
  once := nodup_nil
  known := by simp [asked, requests, start]
  awaited := by simp [unexecuted, held, requests, start, Runtime.start, Runtime.due]
  underWay := by
    rintro _ ⟨_, hop, -⟩
    cases hop
  conclusive := by simp [Runtime.inFlight, start, Runtime.start]
  shut := fun _ => rfl

theorem reported_start : (start (initialState files.load loc) first).Reported where
  reported := by simp [start]
  ended := by simp [start]
  told := by simp [start]
  sent := by
    intro _ request hpos hle
    exact absurd (hpos.trans_le hle) (Nat.lt_irrefl 0)

/-- Both hold over every run from the launch. -/
theorem run_accounts [Lowercase] (moves : List Move) :
    (run (start (initialState files.load loc) first) moves).Accounts ∧
      (run (start (initialState files.load loc) first) moves).Reported := by
  have hs : ∀ (s : Feed) (move : Move), s.Accounts ∧ s.Reported →
      (Mealy.silent step s move).1.Accounts ∧ (Mealy.silent step s move).1.Reported :=
    fun s move h => ⟨h.1.step (s.step_fed move), h.2.step (s.step_fed move)⟩
  exact Mealy.run_invariant hs
    ⟨accounts_start files loc first, reported_start files loc first⟩ moves

end

/-- A look at the slot will end what it holds: the command was refused, its
receipt is answered by this snapshot or dropped, or the feed is closed. -/
def Resolvable : Prop :=
  s.stateClosed = true ∨ ∀ pending id receipt, s.echo.group = some pending →
    pending.admission = .ok (id, receipt) →
      (receipt.poll (s.actor.channels receipt.receiver) snapshot.revision).2 ≠ .pending

theorem held_of_resolvable [Lowercase] {s : Feed} {snap : DeviceSnapshot}
    (hsg : s.stage = .grouping snap) (hop : s.groupLocked = false)
    (hr : s.Resolvable snap) : (s.step .group).held = [] := by
  have hd := Runtime.due_group_of_open hop
    (s.echo.groupEvents s.actor.channels snap s.stateClosed).1
  have hs : (s.step .group).held = ((s.echo.groupEvents s.actor.channels snap
      s.stateClosed).1.group.map (·.request)).toList := by
    simp only [step, group, hsg, hop, held, Runtime.due]
    exact congrArg (fun slot => (Option.map _ slot).toList) hd
  rw [hs]
  cases hg : s.echo.group with
  | none => simp [GenerationEcho.groupEvents, hg]
  | some pend =>
    cases ha : pend.admission with
    | error => simp [GenerationEcho.groupEvents, hg, ha, GenerationEcho.resolveGroup]
    | ok admitted =>
      obtain ⟨id, rcpt⟩ := admitted
      have he : ∃ stat, GenerationEcho.groupStatus s.stateClosed
          (rcpt.poll (s.actor.channels rcpt.receiver) snap.revision).2 = some stat := by
        refine Option.ne_none_iff_exists'.mp ?_
        intro hn
        have hp := pending_of_groupStatus hn
        rcases hr with hc | hse
        · simp [hc, hp, GenerationEcho.groupStatus] at hn
        · exact hse pend id rcpt hg ha hp
      obtain ⟨_, hss⟩ := he
      simp [GenerationEcho.groupEvents, hg, ha, hss, GenerationEcho.resolveGroup]

/-- Whatever the backend answers, drops or closes and in whatever order the
threads run, no group command finds an earlier one in the slot; each
request sent is in exactly one place, of which an outcome taken is one; a
request the shell waits for is still under way; a look at a slot whose
receipt is settled, or whose feed is closed, ends what it holds; and a
bridge that has ended leaves nothing waiting. -/
theorem group_operation_concluded_once [Lowercase] (files : PreferencesRepository)
    (locale : ResolvedLocale) (first : DeviceSnapshot) (moves : List Move) :
    let s := run (start (initialState files.load locale) first) moves
    (∀ refu request gen cmd rest, s.writes = [] → s.effects = .group request gen cmd :: rest →
        (BackendPort.trySend s.endpoints s.echo refu s.nextId
          (.group request gen cmd)).result = .ok ()) ∧
    (s.asked.Nodup ∧ s.asked.Perm (s.unexecuted ++ s.held ++ s.onItsWay ++ s.answered)) ∧
    (∀ request, 0 < request → request ≤ s.shell.nextGroupRequest →
      request ∈ s.asked ∨ s.shell.controllerClosed = true) ∧
    (∀ request, s.Waits request → request ∈ s.unexecuted ++ s.held ++ s.onItsWay) ∧
    (∀ snap, s.stage = .grouping snap → s.groupLocked = false →
      s.Resolvable snap → (s.step .group).held = []) ∧
    (s.shell.controllerClosed = true → ∀ request, ¬ s.Waits request) ∧
    (s.ended = true → s.shell.controllerClosed = true ∨
      .controller (.channelClosed CONTROLLER_STOPPED_SUMMARY) ∈ s.queue) := by
  intro s
  obtain ⟨ha, hr⟩ := run_accounts files locale first moves
  refine ⟨?_, ⟨ha.once, ?_⟩, ?_, ha.underWay, ?_, ?_, ?_⟩
  · intro refu request gen cmd rest hwr he
    have hf : s.held = [] := by
      refine ha.free ?_
      show requests s.effects ≠ []
      rw [he]
      simp [requests, AppEffect.groupRequest]
    have hn : s.echo.group = none := by
      rw [held, Runtime.due_of_no_writes hwr] at hf
      simpa using hf
    simp [BackendPort.trySend, BackendPort.group, hn]
  · refine perm_iff_count.mpr ?_
    intro request
    simp only [count_append]
    exact ha.counted request
  · intro request hpos hle
    cases hc : s.shell.controllerClosed with
    | true => exact .inr rfl
    | false => exact .inl (hr.sent hc request hpos hle)
  · exact fun snap => held_of_resolvable
  · intro hc request hw
    have hp := waits_pending hw
    rw [ha.shut hc] at hp
    cases hp
  · intro hd
    obtain ⟨-, ho, hre⟩ := hr.ended hd
    rcases mem_append.mp (hr.reported hre) with hk | hl
    · exact .inl (hr.told _ hk)
    · refine .inr ?_
      rw [Runtime.inFlight, ho] at hl
      simpa using hl

end Feed

end Bridge

end OpenAirCast
