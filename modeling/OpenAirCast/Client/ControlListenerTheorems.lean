/-
Client.ControlListenerTheorems — whose history a retransmit
request is answered from.

`Serves` is what a listener should hear: only threads of the stored streamer
poll, every answer came from the stream that was playing when the request
arrived, and every request that waits will get such an answer. `Placed` says
that a socket belongs to one target for good. A step keeps `Serves` exactly
when it is `harmless` (`step_serves_iff`): threads never end, so nothing may
drop a streamer that has one.
-/
import OpenAirCast.Client.ControlListener

namespace OpenAirCast.Client.ControlClient

open Audio List Option

variable {κ : Type}

variable {socket : SocketId}

/-- Every request is answered for the stream it is due to. -/
structure Serves (c : ControlClient κ) : Prop where
  /-- No thread outlives its stream. -/
  listening : ∀ thread ∈ c.listeners, c.groupStreamer = some thread.streamer
  answered : ∀ answer ∈ c.answers, ∀ due, answer.due = some due → answer.by_ = due
  /-- Somebody polls the socket, and whoever does answers as it is due. -/
  waiting : ∀ socket, ∀ arrival ∈ c.queues socket, ∀ due, arrival.due = some due →
    (∃ thread ∈ c.listeners, (due.target, socket) ∈ thread.controlSockets) ∧
      ∀ thread ∈ c.listeners, ∀ index, (index, socket) ∈ thread.controlSockets →
        StreamTarget.mk thread.streamer index = due

/-- Sockets keep their targets, and a thread's streamer has been started. -/
structure Placed (c : ControlClient κ) : Prop where
  members : ∀ index conn socket, (index, conn) ∈ c.members → conn.controlSocket = some socket →
    socket.place = index
  sockets : ∀ thread ∈ c.listeners, ∀ index socket, (index, socket) ∈ thread.controlSockets →
    socket.place = index
  started : ∀ thread ∈ c.listeners, thread.streamer < c.streamers.length

/-- A step that leaves every stream with a thread in place, as a start whose
calibration map is refused does; and a request that is due arrives where a
thread polls. -/
def harmless (c : ControlClient κ) : ControlEvent κ → Prop
  | .start form _ _ _ => c.refusesMap form = true ∨ c.listeners = []
  | .stop | .disconnect _ | .connectGroup _ _ => c.listeners = []
  | .arrival socket data => ∀ due, c.dueOf socket data = some due →
      ∃ thread ∈ c.listeners, (due.target, socket) ∈ thread.controlSockets
  | .sent _ _ _ | .poll _ _ => True

/-! ## Places -/

variable {idx : Nat}

variable {c : ControlClient κ}

theorem mem_members {conn : BoundConnection κ} (h : (idx, conn) ∈ c.members) :
    (idx = 0 ∧ c.connection = some conn) ∨
      ∃ i, idx = i + 1 ∧ c.groupConnections[i]? = some conn := by
  rcases mem_append.mp h with hp | hm
  · left
    obtain ⟨same, hs, heq⟩ := mem_map.mp hp
    obtain ⟨rfl, rfl⟩ := Prod.mk.inj heq
    exact ⟨rfl, mem_toList.mp hs⟩
  · right
    obtain ⟨⟨_, i⟩, hz, heq⟩ := mem_map.mp hm
    obtain ⟨rfl, rfl⟩ := Prod.mk.inj heq
    exact ⟨i, rfl, mem_zipIdx_iff_getElem?.mp hz⟩

theorem mem_cloneControlSockets {clones : Nat → Bool}
    (h : (idx, socket) ∈ c.cloneControlSockets clones) :
    ∃ conn, (idx, conn) ∈ c.members ∧ conn.controlSocket = some socket := by
  obtain ⟨⟨_, conn⟩, hm, hc⟩ := mem_filterMap.mp h
  dsimp only at hc
  split at hc
  · obtain ⟨_, hs, heq⟩ := map_eq_some_iff.mp hc
    obtain ⟨rfl, rfl⟩ := Prod.mk.inj heq
    exact ⟨conn, hm, hs⟩
  · cases hc

theorem targetOf_place (h : c.Placed) {target : Nat}
    (ht : c.targetOf socket = some target) : socket.place = target := by
  obtain ⟨⟨idx, conn⟩, hf, rfl⟩ := map_eq_some_iff.mp ht
  have hs := find?_some hf
  exact h.members idx conn socket (mem_of_find?_eq_some hf) (by simpa using hs)

variable {due : StreamTarget}

theorem dueOf_some {data : Bytes} (h : c.dueOf socket data = some due) :
    c.groupStreamer = some due.streamer ∧ c.targetOf socket = some due.target := by
  unfold dueOf at h
  split at h
  · obtain ⟨_, hs, hm⟩ := bind_eq_some_iff.mp h
    obtain ⟨_, ht, rfl⟩ := map_eq_some_iff.mp hm
    exact ⟨hs, ht⟩
  · cases h

theorem fresh_placed (streamType : UInt8) (rate renderDelayMs : BitVec 32) :
    (fresh streamType rate renderDelayMs : ControlClient κ).Placed where
  members := by
    intro idx conn socket h
    simp [fresh, ControlClient.members] at h
  sockets := by simp [fresh]
  started := by simp [fresh]

theorem fresh_serves (streamType : UInt8) (rate renderDelayMs : BitVec 32) :
    (fresh streamType rate renderDelayMs : ControlClient κ).Serves where
  listening := by simp [fresh]
  answered := by simp [fresh]
  waiting := by simp [fresh]

theorem Placed.of_members {c' : ControlClient κ} (h : c.Placed) (hl : c'.listeners = c.listeners)
    (hs : c'.streamers.length = c.streamers.length)
    (hm : ∀ idx conn socket, (idx, conn) ∈ c'.members →
      conn.controlSocket = some socket → socket.place = idx) : c'.Placed where
  members := hm
  sockets := by
    rw [hl]
    exact h.sockets
  started := by
    rw [hl, hs]
    exact h.started

section

variable {c : ControlClient κ} (h : c.Placed)
include h

theorem spawn_placed (strm : Nat)
    (hs : strm < c.streamers.length) (clones : Nat → Bool) (spawned : Bool) :
    (c.spawnGroupControlListener strm clones spawned).Placed := by
  unfold spawnGroupControlListener
  dsimp only
  split
  · exact h
  · refine ⟨h.members, ?_, ?_⟩
    · intro thr ht idx socket hp
      rcases mem_append.mp ht with hold | hn
      · exact h.sockets thr hold idx socket hp
      · obtain rfl := mem_singleton.mp hn
        obtain ⟨conn, hm, hc⟩ := mem_cloneControlSockets hp
        exact h.members idx conn socket hm hc
    · intro thr ht
      rcases mem_append.mp ht with hold | hn
      · exact h.started thr hold
      · obtain rfl := mem_singleton.mp hn
        exact hs

theorem startGroup_placed (form : GroupStart)
    (started : Except StartError Unit) (clones : Nat → Bool) (spawned : Bool) :
    (c.startGroup form started clones spawned).Placed := by
  unfold startGroup
  split
  · exact h
  dsimp only
  split
  · exact ⟨h.members, h.sockets, h.started⟩
  · rename_i inner _
    have hg : ({ c with
        groupStreamer := none
        streamers := c.streamers ++ [inner.rtpSenders] } : ControlClient κ).Placed := by
      refine ⟨h.members, h.sockets, ?_⟩
      intro thr ht
      have hold := h.started thr ht
      simp only [length_append, length_singleton]
      omega
    have hs := spawn_placed hg c.streamers.length (by simp) clones spawned
    exact ⟨hs.members, hs.sockets, hs.started⟩

variable (closed : Bool)

theorem disconnect_placed : (c.disconnect closed).Placed := by
  refine h.of_members rfl rfl ?_
  intro idx conn socket hm hs
  rcases mem_members hm with ⟨_, hp⟩ | ⟨i, _, hc⟩
  · cases closed with
    | true => simp [disconnect] at hp
    | false =>
      simp only [disconnect, Bool.false_eq_true, if_false] at hp
      obtain ⟨_, _, rfl⟩ := map_eq_some_iff.mp hp
      cases hs
  · simp [disconnect] at hc

theorem setUp_placed (prim : StreamConnection κ)
    (mbrs : List (StreamConnection κ)) : (c.setUp prim mbrs).Placed := by
  refine h.of_members rfl rfl ?_
  intro idx conn socket hm hs
  rcases mem_members hm with ⟨rfl, hp⟩ | ⟨i, rfl, hc⟩
  · obtain rfl := Option.some.inj hp
    obtain rfl := Option.some.inj hs
    rfl
  · simp only [setUp, getElem?_map, getElem?_zipIdx, Option.map_map,
      Option.map_eq_some_iff, Function.comp_apply] at hc
    obtain ⟨_, _, rfl⟩ := hc
    obtain rfl := Option.some.inj hs
    simp

theorem connectGroup_placed (up : Option (StreamConnection κ × List (StreamConnection κ))) :
    (c.connectGroup closed up).Placed := by
  have hl := disconnect_placed h closed
  unfold connectGroup
  dsimp only
  split
  · split
    · exact hl
    · exact setUp_placed hl _ _
  · exact hl

theorem poll_placed (listener : Nat)
    (net : Nat → Except AudioError Nat) : (c.poll listener net).Placed := by
  unfold poll
  split
  · exact h
  · dsimp only
    split
    · exact ⟨h.members, h.sockets, h.started⟩
    · unfold receive
      split
      · exact ⟨h.members, h.sockets, h.started⟩
      · exact ⟨h.members, h.sockets, h.started⟩

/-- No event moves a socket to another target. -/
theorem step_placed (ev : ControlEvent κ) : (c.step ev).Placed := by
  cases ev with
  | start form started clones spawned => exact startGroup_placed h form started clones spawned
  | stop => exact ⟨h.members, h.sockets, h.started⟩
  | disconnect closed => exact disconnect_placed h closed
  | connectGroup closed up => exact connectGroup_placed h closed up
  | sent =>
    refine h.of_members rfl ?_ h.members
    simp [step]
  | arrival => exact ⟨h.members, h.sockets, h.started⟩
  | poll listener net => exact poll_placed h listener net

end

/-! ## Steps -/

/-- Nothing waits for an answer where nobody polls. -/
theorem Serves.idle (h : c.Serves) (hn : c.listeners = []) {arrival : Arrival}
    (ha : arrival ∈ c.queues socket) (hd : arrival.due = some due) : False := by
  obtain ⟨⟨thr, ht, _⟩, _⟩ := h.waiting socket arrival ha due hd
  rw [hn] at ht
  cases ht

/-- A stream that ends must not have a thread. -/
theorem ends_serves_iff {c' : ControlClient κ} (h : c.Serves)
    (hl : c'.listeners = c.listeners) (ht : c'.groupStreamer = none)
    (hq : c'.queues = c.queues) (ha : c'.answers = c.answers) :
    c'.Serves ↔ c.listeners = [] := by
  constructor
  · intro hr
    refine eq_nil_iff_forall_not_mem.mpr ?_
    intro thr hh
    have hs := hr.listening thr (hl ▸ hh)
    rw [ht] at hs
    cases hs
  · intro hn
    refine ⟨?_, ha ▸ h.answered, ?_⟩
    · rw [hl, hn]
      simp
    · rw [hq]
      intro socket arrival har due hd
      exact (h.idle hn har hd).elim

theorem spawn_listeners (c : ControlClient κ) (strm : Nat) (clones : Nat → Bool)
    (spawned : Bool) : ∃ new, (c.spawnGroupControlListener strm clones spawned).listeners =
      c.listeners ++ new ∧ ∀ thr ∈ new, thr.streamer = strm := by
  unfold spawnGroupControlListener
  dsimp only
  split
  · exact ⟨[], by simp⟩
  · exact ⟨[⟨strm, c.cloneControlSockets clones⟩], rfl, by simp⟩

theorem spawn_queues (c : ControlClient κ) (strm : Nat) (clones : Nat → Bool)
    (spawned : Bool) : (c.spawnGroupControlListener strm clones spawned).queues = c.queues ∧
      (c.spawnGroupControlListener strm clones spawned).answers = c.answers := by
  unfold spawnGroupControlListener
  dsimp only
  split
  · exact ⟨rfl, rfl⟩
  · exact ⟨rfl, rfl⟩

theorem startGroup_serves_iff (hp : c.Placed) (h : c.Serves)
    (form : GroupStart) (started : Except StartError Unit) (clones : Nat → Bool)
    (spawned : Bool) :
    (c.startGroup form started clones spawned).Serves ↔
      c.refusesMap form = true ∨ c.listeners = [] := by
  unfold startGroup
  split
  · rename_i hr
    exact iff_of_true h (.inl hr)
  rename_i hr
  rw [or_iff_right hr]
  dsimp only
  split
  · exact ends_serves_iff h rfl rfl rfl rfl
  · rename_i inner _
    let grown : ControlClient κ := { c with
      groupStreamer := none
      streamers := c.streamers ++ [inner.rtpSenders] }
    obtain ⟨new, hl, hw⟩ := grown.spawn_listeners c.streamers.length clones spawned
    obtain ⟨hq, ha⟩ := grown.spawn_queues c.streamers.length clones spawned
    constructor
    · -- the new streamer has a number of its own
      intro hs
      refine eq_nil_iff_forall_not_mem.mpr ?_
      intro thr ht
      have hmem : thr ∈
          (grown.spawnGroupControlListener c.streamers.length clones spawned).listeners := by
        rw [hl]
        exact mem_append_left _ ht
      have hst := Option.some.inj (hs.listening thr hmem)
      have hold := hp.started thr ht
      omega
    · intro hn
      refine ⟨?_, ?_, ?_⟩
      · intro thr ht
        have hmem : thr ∈ c.listeners ++ new := hl ▸ ht
        rw [hn, nil_append] at hmem
        exact congrArg some (hw thr hmem).symm
      · intro ans has
        exact h.answered ans (ha ▸ has)
      · intro socket arrival hr due hd
        have hmem : arrival ∈ c.queues socket := hq ▸ hr
        exact (h.idle hn hmem hd).elim

theorem arrive_serves_iff (hl : c.Placed) (h : c.Serves) (socket : SocketId) (data : Bytes) :
    (c.arrive socket data).Serves ↔ ∀ due, c.dueOf socket data = some due →
      ∃ thr ∈ c.listeners, (due.target, socket) ∈ thr.controlSockets := by
  constructor
  · intro hr due hd
    refine (hr.waiting socket ⟨data, c.dueOf socket data⟩ ?_ due hd).1
    simp [arrive]
  · intro hpo
    refine ⟨h.listening, h.answered, ?_⟩
    intro other arrival ha due hd
    by_cases ho : other = socket
    · subst ho
      simp only [arrive, Function.update_self, mem_append, mem_singleton] at ha
      rcases ha with hold | rfl
      · exact h.waiting other arrival hold due hd
      · refine ⟨hpo due hd, ?_⟩
        intro thr hh idx hp
        obtain ⟨hs, hta⟩ := dueOf_some hd
        have ht := h.listening thr hh
        have hc := hl.sockets thr hh idx other hp
        have hm := targetOf_place hl hta
        rw [hs] at ht
        obtain ⟨_, _⟩ := due
        simp only [Option.some.injEq] at ht
        simp only at hm
        rw [← ht, ← hc, hm]
    · simp only [arrive, Function.update_of_ne ho] at ha
      exact h.waiting other arrival ha due hd

/-- Whoever takes a datagram answers as it is due. -/
theorem receive_serves (h : c.Serves) {thr : ControlListener} (ht : thr ∈ c.listeners)
    (hp : (idx, socket) ∈ thr.controlSockets)
    (net : Nat → Except AudioError Nat) :
    (c.receive thr.streamer idx socket net).Serves := by
  unfold receive
  cases hq : c.queues socket with
  | nil => exact h
  | cons arrival =>
    have hf : arrival ∈ c.queues socket := by simp [hq]
    refine ⟨h.listening, ?_, ?_⟩
    · intro ans ha due hd
      rcases mem_append.mp ha with hold | hn
      · exact h.answered ans hold due hd
      · unfold ControlClient.answer at hn
        split at hn
        · cases hn
        · obtain rfl := mem_singleton.mp hn
          exact (h.waiting socket arrival hf due hd).2 thr ht idx hp
    · intro other waiting hw due hd
      refine h.waiting other waiting ?_ due hd
      by_cases ho : other = socket
      · subst ho
        simp only [Function.update_self] at hw
        simp [hq, hw]
      · simpa [Function.update_of_ne ho] using hw

theorem poll_serves (h : c.Serves) (listener : Nat)
    (net : Nat → Except AudioError Nat) : (c.poll listener net).Serves := by
  unfold poll
  split
  · exact h
  · rename_i thr hh
    dsimp only
    have ht : ∀ turns, ({ c with turns } : ControlClient κ).Serves := fun _ =>
      ⟨h.listening, h.answered, h.waiting⟩
    split
    · exact ht _
    · rename_i idx socket hp
      exact receive_serves (ht (Function.update c.turns listener (c.turns listener + 1)))
        (mem_of_getElem? hh)
        (mem_of_getElem? hp) net

/-- An event keeps the service exactly if it is harmless. -/
theorem step_serves_iff (hp : c.Placed) (h : c.Serves)
    (ev : ControlEvent κ) : (c.step ev).Serves ↔ c.harmless ev := by
  cases ev with
  | start form started clones spawned =>
    exact startGroup_serves_iff hp h form started clones spawned
  | stop => exact ends_serves_iff h rfl rfl rfl rfl
  | disconnect => exact ends_serves_iff h rfl rfl rfl rfl
  | connectGroup closed up =>
    have he : (c.connectGroup closed up).listeners = c.listeners ∧
        (c.connectGroup closed up).groupStreamer = none ∧
        (c.connectGroup closed up).queues = c.queues ∧
        (c.connectGroup closed up).answers = c.answers := by
      unfold connectGroup
      dsimp only
      split
      · split
        · exact ⟨rfl, rfl, rfl, rfl⟩
        · exact ⟨rfl, rfl, rfl, rfl⟩
      · exact ⟨rfl, rfl, rfl, rfl⟩
    exact ends_serves_iff h he.1 he.2.1 he.2.2.1 he.2.2.2
  | sent => exact iff_of_true ⟨h.listening, h.answered, h.waiting⟩ trivial
  | arrival socket data => exact arrive_serves_iff hp h socket data
  | poll listener net => exact iff_of_true (poll_serves h listener net) trivial

/-! ## Runs -/

/-- In every state of a run the requests are served by the stream that is
playing, and no thread outlives its stream, exactly when no stop, disconnect
or connect of the run, and no start whose calibration map is accepted, meets a
running thread and every request that is due comes in where one polls. -/
theorem requests_served_iff (streamType : UInt8) (sampleRate renderDelayMs : BitVec 32)
    (events : List (ControlEvent κ)) :
    (∀ before, before <+: events →
      ((fresh streamType sampleRate renderDelayMs : ControlClient κ).run before).Serves) ↔
    Mealy.Along (Mealy.silent step) harmless (fresh streamType sampleRate renderDelayMs)
      events := by
  have hp : ∀ (c : ControlClient κ) (ev : ControlEvent κ), c.Placed →
      (Mealy.silent step c ev).1.Placed := fun _ ev h => step_placed h ev
  have hs : ∀ (c : ControlClient κ) (ev : ControlEvent κ), c.Placed → c.Serves →
      ((Mealy.silent step c ev).1.Serves ↔ c.harmless ev) :=
    fun _ ev hp h => step_serves_iff hp h ev
  have hr := Mealy.forall_start_iff_along hp hs events
    (fresh_placed streamType sampleRate renderDelayMs)
    (fresh_serves streamType sampleRate renderDelayMs)
  simp only [Mealy.run_silent] at hr
  exact hr

/-- A receiver that can be streamed to. -/
def loneReceiver : StreamConnection Unit where
  id := ⟨1⟩
  buildRtpSender := .ok { dest := ⟨.v4 1, 6000⟩, ssrc := 0 }
  ptpClockRx := some none

/-- Two streams start one after the other; the second has sent packet 5, and
the receiver asks for it. -/
def restartedRun : List (ControlEvent Unit) :=
  let packet : Bytes := [0x80, 0x60, 0, 5]
  [.connectGroup true (some (loneReceiver, [])),
   .start .startLiveStreamingToGroup (.ok ()) (fun _ => true) true,
   .start .startLiveStreamingToGroup (.ok ()) (fun _ => true) true,
   .sent 1 0 { dest := ⟨.v4 1, 6000⟩, ssrc := 0, packetHistory := fun _ => some packet },
   .arrival ⟨0, 0⟩ [0x80, 0xD5, 0, 1, 0, 5, 0, 1],
   .poll 0 (fun _ => .ok 1)]

/-- The thread of the first stream answers, with a miss. -/
theorem first_stream_answers : let c := (fresh 96 44100 0).run restartedRun
    c.groupStreamer = some 1 ∧ c.listeners.map (·.streamer) = [0, 1] ∧
      c.answers.map (fun ans => (ans.due, ans.by_, ans.outcome.historyMisses)) =
        [(some ⟨1, 0⟩, ⟨0, 0⟩, 1)] ∧
      ¬ c.Serves := by
  intro c
  have hs : c.groupStreamer = some 1 := by decide
  have hl : c.listeners.map (·.streamer) = [0, 1] := by decide
  refine ⟨hs, hl, by decide, ?_⟩
  intro hr
  have hf : 0 ∈ c.listeners.map (·.streamer) := by simp [hl]
  obtain ⟨thr, ht, hz⟩ := mem_map.mp hf
  have hh := hr.listening thr ht
  rw [hs, hz] at hh
  cases hh

end OpenAirCast.Client.ControlClient
