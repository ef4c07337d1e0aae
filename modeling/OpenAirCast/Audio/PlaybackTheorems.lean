/-
Audio.PlaybackTheorems — when a resume reaches the sender
thread.

`eventual` is the mode the thread comes to once it has worked off its
queue. Only messages that enter the channel move it, so a stream that is
streaming stays heard unless a resume is dropped while a pause is in
effect, or the loop takes a paused stream through buffering back to
streaming, where nobody sends a resume (`step_keeps_iff`). The channel is
first in, first out (`Worked`), so the fate of a frame is decided by the
mode that the thread comes to before it.
-/
import OpenAirCast.Audio.Playback

namespace OpenAirCast.Audio

open List Mealy

/-- The mode of the thread after a message. -/
def SenderMode.after : SenderMode → SenderMessage → SenderMode
  | .exited, _ => .exited
  | _, .stop => .exited
  | _, .pause => .paused
  | _, .resume => .running
  | mode, .packet _ => mode

theorem SenderThread.receive_mode (t : SenderThread) (burst : Nat) (msg : SenderMessage) :
    (t.receive burst msg).1.mode = t.mode.after msg := by
  unfold SenderThread.receive SenderMode.after
  cases hm : t.mode <;> cases msg <;> try rfl
  all_goals try exact hm
  unfold SenderThread.takePacket
  dsimp only
  split
  · exact hm
  · exact hm

theorem SenderMode.after_packet (mode : SenderMode) (frm : PreparedFrame) :
    mode.after (.packet frm) = mode := by
  cases mode <;> rfl

theorem SenderMode.after_resume (mode : SenderMode) : mode.after .resume ≠ .paused := by
  cases mode <;> decide

namespace Playback

variable {p : Playback} {turns : List PlaybackTurn}

/-! ## Where the thread comes to -/

/-- The mode of the thread once it has worked off the queue. -/
def eventual (p : Playback) : SenderMode := p.queue.foldl SenderMode.after p.thread.mode

/-- A pause is in effect, or waits in the queue with no resume behind it. -/
def pausesLater (p : Playback) : Bool := p.eventual == .paused

theorem pausesLater_eq_false : p.pausesLater = false ↔ p.eventual ≠ .paused := beq_eq_false_iff_ne

/-- The claim of a resume: a streaming stream whose queue is empty is not
in the paused loop. -/
def Heard (p : Playback) : Prop := p.state = .streaming → p.queue = [] → p.thread.mode ≠ .paused

/-- A streaming stream is heard now and however far the queue is worked
off. -/
def StaysHeard (p : Playback) : Prop := p.state = .streaming → p.eventual ≠ .paused

theorem eventual_offer (p : Playback) (msg : SenderMessage) : (p.offer msg).1.eventual =
      if p.hasRoom then p.eventual.after msg else p.eventual := by
  unfold offer
  split
  · simp [eventual]
  · rfl

theorem state_offer (p : Playback) (msg : SenderMessage) : (p.offer msg).1.state = p.state := by
  unfold offer
  split <;> rfl

theorem eventual_send (p : Playback) (frm : PreparedFrame) :
    (p.send frm).1.eventual = p.eventual := by
  unfold send
  split
  · rfl
  · split
    · simp [eventual, SenderMode.after_packet]
    · rfl

theorem state_send (p : Playback) (frm : PreparedFrame) : (p.send frm).1.state = p.state := by
  unfold send
  split
  · rfl
  · split <;> rfl

theorem eventual_receive (p : Playback) (burst : Nat) :
    (p.receive burst).1.eventual = p.eventual := by
  unfold receive
  split
  · rfl
  · rename_i msg rest hq
    simp [eventual, hq, SenderThread.receive_mode]

theorem state_receive (p : Playback) (burst : Nat) : (p.receive burst).1.state = p.state := by
  unfold receive
  split <;> rfl

/-! ## Working off the queue -/

/-- The playback after the thread has taken `n` messages. -/
def drained (burstSize : Nat) (p : Playback) (n : Nat) : Playback :=
  run (step burstSize) p (List.replicate n .receive)

variable (burst : Nat)

theorem drained_succ (p : Playback) (n : Nat) :
    p.drained burst (n + 1) = ((p.receive burst).1).drained burst n := by
  unfold drained
  rw [replicate_succ, run]
  rfl

theorem eventual_drained (p : Playback) (n : Nat) :
    (p.drained burst n).eventual = p.eventual ∧ (p.drained burst n).state = p.state := by
  induction n generalizing p with
  | zero => exact ⟨rfl, rfl⟩
  | succ _ ih =>
    rw [drained_succ]
    obtain ⟨he, hs⟩ := ih (p.receive burst).1
    exact ⟨he.trans (p.eventual_receive burst), hs.trans (p.state_receive burst)⟩

theorem queue_drained (p : Playback) (n : Nat) : (p.drained burst n).queue = p.queue.drop n := by
  induction n generalizing p with
  | zero => rfl
  | succ n ih =>
    rw [drained_succ, ih]
    unfold receive
    split
    · rename_i hq
      simp [hq]
    · rename_i msg rest hq
      simp [hq]

/-- A stream stays heard exactly when it is heard however many messages the
thread takes. -/
theorem staysHeard_iff (p : Playback) : p.StaysHeard ↔ ∀ n, (p.drained burst n).Heard := by
  constructor
  · intro h n hs hq
    obtain ⟨he, hm⟩ := eventual_drained burst p n
    have hn := h (hm.symm.trans hs)
    rw [← he, eventual, hq] at hn
    exact hn
  · intro h hs
    obtain ⟨he, hm⟩ := eventual_drained burst p p.queue.length
    have hp : (p.drained burst p.queue.length).queue = [] := by rw [queue_drained, drop_length]
    have hl := h p.queue.length (hm.trans hs) hp
    rw [← he, eventual, hp]
    exact hl

/-! ## Steps -/

/-- The loop leaves the stream streaming. -/
def goesOn : Popped → Bool
  | .frame _ => true
  | .empty => false
  | .failed recorded => !recorded

/-- A resume is taken by the channel or not needed, and no paused stream
comes back out of buffering. -/
def KeepsHeard (p : Playback) : PlaybackEvent → Prop
  | .resume => p.state = .paused → p.hasRoom = true ∨ p.pausesLater = false
  | .work view => p.phase = .checked → p.state = .buffering → view.refilled = true →
      goesOn view.popped = true → p.pausesLater = false
  | _ => True

variable {p' : Playback}

theorem StaysHeard.of_eq (h : p.StaysHeard) (hs : p'.state = p.state)
    (he : p'.eventual = p.eventual) : p'.StaysHeard := by
  intro ht
  rw [he]
  exact h (hs.symm.trans ht)

theorem staysHeard_of_state (st : StreamerState) (hs : p.state = st)
    (h : st ≠ .streaming) : p.StaysHeard :=
  fun ht => absurd (hs.symm.trans ht) h

theorem resume_keeps_iff (h : p.StaysHeard) :
    p.resume.1.StaysHeard ↔ (p.state = .paused → p.hasRoom = true ∨ p.pausesLater = false) := by
  unfold resume
  split
  · rename_i hp
    have he : ({ (p.offer .resume).1 with state := .streaming } : Playback).eventual =
        (p.offer .resume).1.eventual := rfl
    unfold StaysHeard
    rw [he, eventual_offer, pausesLater_eq_false]
    by_cases hr : p.hasRoom = true
    · simp [hr, SenderMode.after_resume]
    · simp [hr, hp]
  · rename_i hn
    exact iff_of_true h (fun hp => absurd hp hn)

theorem pop_staysHeard (h : p.StaysHeard) (popped : Popped) : (p.pop popped).1.StaysHeard := by
  cases popped with
  | frame => exact h.of_eq rfl rfl
  | empty => exact staysHeard_of_state .buffering rfl (by decide)
  | failed recorded =>
    cases recorded with
    | false => exact h.of_eq rfl rfl
    | true => exact staysHeard_of_state .error rfl (by decide)

theorem refilled_keeps_iff (p : Playback) (popped : Popped) :
    (({ p with state := .streaming } : Playback).pop popped).1.StaysHeard ↔
      (goesOn popped = true → p.pausesLater = false) := by
  rw [pausesLater_eq_false]
  cases popped with
  | frame => exact ⟨fun h _ => h rfl, fun h _ => h rfl⟩
  | empty =>
    exact iff_of_true (staysHeard_of_state .buffering rfl (by decide)) (fun h => by cases h)
  | failed recorded =>
    cases recorded with
    | false => exact ⟨fun h _ => h rfl, fun h _ => h rfl⟩
    | true => exact iff_of_true (staysHeard_of_state .error rfl (by decide)) (fun h => by cases h)

theorem finish_state (p : Playback) : p.finish.1.state = p.state := p.state_offer .stop

theorem work_keeps_iff (h : p.StaysHeard) (view : BufferView) :
    (p.work view).1.StaysHeard ↔ (p.state = .buffering → view.refilled = true →
      goesOn view.popped = true → p.pausesLater = false) := by
  unfold work
  split
  · rename_i hb
    split
    · rename_i hr
      rw [refilled_keeps_iff]
      exact ⟨fun hg _ _ => hg, fun hg => hg hb hr⟩
    · rename_i hd
      refine iff_of_true ?_ (fun _ hr => absurd hr hd)
      split
      · exact staysHeard_of_state .stopped (finish_state _) (by decide)
      · exact h.of_eq rfl rfl
  · rename_i hn
    exact iff_of_true (pop_staysHeard h view.popped) (fun hb => absurd hb hn)

theorem pause_staysHeard (h : p.StaysHeard) : p.pause.1.StaysHeard := by
  unfold pause
  split
  · exact staysHeard_of_state .paused rfl (by decide)
  · exact h

theorem check_staysHeard (h : p.StaysHeard) : p.check.1.StaysHeard := by
  unfold check
  cases hs : p.state with
  | stopped | error => exact staysHeard_of_state _ (p.finish_state.trans hs) (by decide)
  | paused => exact h
  | idle | buffering | streaming => exact h.of_eq hs.symm rfl

/-- A step keeps a stream heard exactly under its condition. -/
theorem step_keeps_iff (h : p.StaysHeard) (ev : PlaybackEvent) :
    (step burst p ev).1.StaysHeard ↔ p.KeepsHeard ev := by
  cases ev with
  | pause => exact iff_of_true (pause_staysHeard h) trivial
  | resume => exact resume_keeps_iff h
  | check =>
    refine iff_of_true ?_ trivial
    unfold step
    cases p.phase with
    | top => exact check_staysHeard h
    | checked | sending | done => exact h
  | decodeFailed recorded =>
    refine iff_of_true ?_ trivial
    unfold step
    cases p.phase with
    | checked => exact pop_staysHeard h (.failed recorded)
    | top | sending | done => exact h
  | work view =>
    unfold step KeepsHeard
    cases hp : p.phase with
    | checked =>
      rw [work_keeps_iff h view]
      exact ⟨fun hk _ => hk, fun hk => hk rfl⟩
    | top | sending | done =>
      refine iff_of_true h (fun hc => ?_)
      cases hc
  | send =>
    refine iff_of_true ?_ trivial
    unfold step
    cases p.phase with
    | sending frm => exact h.of_eq (p.state_send frm) (p.eventual_send frm)
    | top | checked | done => exact h
  | receive =>
    exact iff_of_true (h.of_eq (p.state_receive burst) (p.eventual_receive burst)) trivial

/-! ## First in, first out -/

def putBy : Option ChannelOp → Option SenderMessage
  | some (.queued message) => some message
  | _ => none

def takenBy : Option ChannelOp → Option SenderMessage
  | some (.taken message) => some message
  | _ => none

/-- A turn does nothing to the channel, appends a message or takes the
first one. -/
inductive ChannelStep (p p' : Playback) : Option ChannelOp → Prop where
  | quiet {op : Option ChannelOp} (hp : putBy op = none) (ht : takenBy op = none)
      (hq : p'.queue = p.queue) (hm : p'.thread.mode = p.thread.mode) :
      ChannelStep p p' op
  | put (message : SenderMessage) (hq : p'.queue = p.queue ++ [message])
      (hm : p'.thread.mode = p.thread.mode) : ChannelStep p p' (some (.queued message))
  | take (message : SenderMessage) (hq : p.queue = message :: p'.queue)
      (hm : p'.thread.mode = p.thread.mode.after message) :
      ChannelStep p p' (some (.taken message))

theorem ChannelStep.silent (hq : p'.queue = p.queue)
    (ht : p'.thread = p.thread) : ChannelStep p p' none :=
  .quiet rfl rfl hq (congrArg SenderThread.mode ht)

theorem ChannelStep.offer (p : Playback) (msg : SenderMessage)
    (hq : p'.queue = (p.offer msg).1.queue)
    (ht : p'.thread = (p.offer msg).1.thread) :
    ChannelStep p p' (p.offer msg).2 := by
  unfold Playback.offer at hq ht ⊢
  split
  · rename_i hr
    rw [if_pos hr] at hq ht
    exact .put msg hq (congrArg SenderThread.mode ht)
  · rename_i hf
    rw [if_neg hf] at hq ht
    exact .quiet rfl rfl hq (congrArg SenderThread.mode ht)

/-- The state of the streamer is nothing to the channel. -/
theorem ChannelStep.of_state {op : Option ChannelOp} (state : StreamerState)
    (h : ChannelStep { p with state } p' op) : ChannelStep p p' op := by
  cases h with
  | quiet hp ht hq hm => exact .quiet hp ht hq hm
  | put msg hq hm => exact .put msg hq hm
  | take msg hq hm => exact .take msg hq hm

theorem pop_channel (p : Playback) (popped : Popped) :
    ChannelStep p (p.pop popped).1 (p.pop popped).2 := by
  cases popped <;> exact .silent rfl rfl

theorem finish_channel (p : Playback) : ChannelStep p p.finish.1 p.finish.2 :=
  .offer p .stop rfl rfl

/-- Every event puts one message, takes one, or neither. -/
theorem step_channel (p : Playback) (ev : PlaybackEvent) :
    ChannelStep p (step burst p ev).1 (step burst p ev).2 := by
  have hs : ChannelStep p p none := .silent rfl rfl
  cases ev with
  | pause =>
    show ChannelStep p p.pause.1 p.pause.2
    unfold pause
    split
    · exact .offer p .pause rfl rfl
    · exact hs
  | resume =>
    show ChannelStep p p.resume.1 p.resume.2
    unfold resume
    split
    · exact .offer p .resume rfl rfl
    · exact hs
  | check =>
    unfold step
    cases p.phase with
    | top =>
      show ChannelStep p p.check.1 p.check.2
      unfold check
      cases p.state with
      | stopped | error => exact finish_channel p
      | paused => exact hs
      | idle | buffering | streaming => exact .silent rfl rfl
    | checked | sending | done => exact hs
  | decodeFailed recorded =>
    unfold step
    cases p.phase with
    | checked => exact pop_channel p (.failed recorded)
    | top | sending | done => exact hs
  | work view =>
    unfold step
    cases p.phase with
    | checked =>
      show ChannelStep p (p.work view).1 (p.work view).2
      unfold work
      split
      · split
        · exact (pop_channel _ view.popped).of_state
        · split
          · exact (finish_channel _).of_state
          · exact .silent rfl rfl
      · exact pop_channel p view.popped
    | top | sending | done => exact hs
  | send =>
    unfold step
    cases p.phase with
    | sending frm =>
      show ChannelStep p (p.send frm).1 (p.send frm).2
      unfold send
      split
      · exact .silent rfl rfl
      · split
        · exact .put _ rfl rfl
        · exact hs
    | top | checked | done => exact hs
  | receive =>
    show ChannelStep p (p.receive burst).1 (p.receive burst).2
    unfold receive
    split
    · exact hs
    · rename_i msg rest hq
      exact .take msg hq (p.thread.receive_mode burst msg)

abbrev PlaybackTurn := Turn Playback PlaybackEvent (Option ChannelOp)

variable (turns)

/-- The messages the channel took, with the streamer's state at the time. -/
def puts : List (SenderMessage × StreamerState) :=
  turns.filterMap (fun t => (putBy t.output).map (fun message => (message, t.before.state)))

/-- The messages the thread took, with its mode at the time. A packet taken
while paused is thrown away. -/
def takes : List (SenderMessage × SenderMode) :=
  turns.filterMap (fun t => (takenBy t.output).map (fun message => (message, t.before.thread.mode)))

/-- The mode in which the `i`-th message is taken. -/
def modeAt (i : Nat) : SenderMode :=
  (((puts turns).map (·.1)).take i).foldl SenderMode.after .running

variable {turns}

/-- The channel hands the messages on in order, each is taken in the mode
the ones before it lead to, and no packet of a streaming stream comes up in
the paused loop. -/
structure Worked (turns : List PlaybackTurn) (p : Playback) : Prop where
  fifo : (takes turns).map (·.1) ++ p.queue = (puts turns).map (·.1)
  mode : p.thread.mode = ((takes turns).map (·.1)).foldl SenderMode.after .running
  fates : ∀ i message mode, (takes turns)[i]? = some (message, mode) → mode = modeAt turns i
  heard : ∀ i frame, (puts turns)[i]? = some (.packet frame, .streaming) → modeAt turns i ≠ .paused

theorem puts_concat (turns : List PlaybackTurn) (t : PlaybackTurn) : puts (turns ++ [t]) =
      puts turns ++ ((putBy t.output).map (fun msg => (msg, t.before.state))).toList := by
  unfold puts
  rw [filterMap_append]
  cases h : putBy t.output <;> simp [h]

theorem takes_concat (turns : List PlaybackTurn) (t : PlaybackTurn) :
    takes (turns ++ [t]) = takes turns ++
      ((takenBy t.output).map (fun msg => (msg, t.before.thread.mode))).toList := by
  unfold takes
  rw [filterMap_append]
  cases h : takenBy t.output <;> simp [h]

theorem modeAt_concat {t : PlaybackTurn} {i : Nat}
    (hi : i ≤ (puts turns).length) : modeAt (turns ++ [t]) i = modeAt turns i := by
  unfold modeAt
  rw [puts_concat, map_append, take_append_of_le_length (by rwa [length_map])]

theorem Worked.takes_le (h : Worked turns p) : (takes turns).length ≤ (puts turns).length := by
  have hlen := congrArg List.length h.fifo
  rw [length_append, length_map, length_map] at hlen
  omega

theorem Worked.modeAt_puts (h : Worked turns p) :
    modeAt turns (puts turns).length = p.eventual := by
  unfold modeAt eventual
  rw [take_of_length_le (by rw [length_map]), ← h.fifo, foldl_append, ← h.mode]

theorem Worked.modeAt_takes (h : Worked turns p) :
    modeAt turns (takes turns).length = p.thread.mode := by
  unfold modeAt
  rw [← h.fifo, take_append_of_le_length (by rw [length_map]),
    take_of_length_le (by rw [length_map]), h.mode]

theorem Worked.start (state : StreamerState) : Worked [] { state } := by
  refine ⟨rfl, rfl, fun i msg mode h => ?_, fun i frm h => ?_⟩
  · cases h
  · cases h

theorem Worked.turn (h : Worked turns p) (hh : p.StaysHeard) (burst : Nat) (ev : PlaybackEvent) :
    Worked (turns ++ [turn (step burst) p ev]) (step burst p ev).1 := by
  have hc := step_channel burst p ev
  generalize ht : Mealy.turn (step burst) p ev = t
  have hb : t.before = p := by rw [← ht]; rfl
  have ho : t.output = (step burst p ev).2 := by rw [← ht]; rfl
  generalize (step burst p ev).1 = p' at hc
  rw [← ho] at hc
  have hp := puts_concat turns t
  have hk := takes_concat turns t
  have holdFate : ∀ i msg mode, (takes turns)[i]? = some (msg, mode) →
      mode = modeAt (turns ++ [t]) i := by
    intro i msg mode hi
    have hlt := (List.getElem?_eq_some_iff.mp hi).1
    rw [modeAt_concat (Nat.le_trans (Nat.le_of_lt hlt) h.takes_le)]
    exact h.fates i msg mode hi
  have holdHeard : ∀ i frm, (puts turns)[i]? = some (.packet frm, .streaming) →
      modeAt (turns ++ [t]) i ≠ .paused := by
    intro i frm hi
    have hlt := (List.getElem?_eq_some_iff.mp hi).1
    rw [modeAt_concat (Nat.le_of_lt hlt)]
    exact h.heard i frm hi
  generalize hop : t.output = op at hc
  cases hc with
  | quiet hu htk hq hm =>
    rw [hop, hu, Option.map_none, Option.toList_none, append_nil] at hp
    rw [hop, htk, Option.map_none, Option.toList_none, append_nil] at hk
    refine ⟨?_, ?_, ?_, ?_⟩
    · rw [hp, hk, hq, h.fifo]
    · rw [hk, hm, h.mode]
    · rw [hk]
      exact holdFate
    · rw [hp]
      exact holdHeard
  | put msg hq hm =>
    rw [hop, hb] at hp
    rw [hop] at hk
    replace hp : puts (turns ++ [t]) = puts turns ++ [(msg, p.state)] := hp
    replace hk : takes (turns ++ [t]) = takes turns := hk.trans (append_nil _)
    refine ⟨?_, ?_, ?_, ?_⟩
    · rw [hp, hk, hq, map_append, ← h.fifo, append_assoc]
      rfl
    · rw [hk, hm, h.mode]
    · rw [hk]
      exact holdFate
    · rw [hp]
      intro i frm hi
      rcases Nat.lt_or_ge i (puts turns).length with hold | hn
      · rw [getElem?_append_left hold] at hi
        exact holdHeard i frm hi
      · have hl := (List.getElem?_eq_some_iff.mp hi).1
        rw [length_append, length_singleton] at hl
        obtain rfl : i = (puts turns).length := by omega
        rw [getElem?_concat_length, Option.some.injEq, Prod.mk.injEq] at hi
        rw [modeAt_concat le_rfl, h.modeAt_puts]
        exact hh hi.2
  | take msg hq hm =>
    rw [hop] at hp
    rw [hop, hb] at hk
    replace hp : puts (turns ++ [t]) = puts turns := hp.trans (append_nil _)
    replace hk : takes (turns ++ [t]) = takes turns ++ [(msg, p.thread.mode)] := hk
    refine ⟨?_, ?_, ?_, ?_⟩
    · rw [hp, hk, ← h.fifo, hq, map_append, append_assoc]
      rfl
    · rw [hk, hm, map_append, foldl_append, ← h.mode]
      rfl
    · rw [hk]
      intro i other mode hi
      rcases Nat.lt_or_ge i (takes turns).length with hold | _
      · rw [getElem?_append_left hold] at hi
        exact holdFate i other mode hi
      · have hl := (List.getElem?_eq_some_iff.mp hi).1
        rw [length_append, length_singleton] at hl
        obtain rfl : i = (takes turns).length := by omega
        rw [getElem?_concat_length, Option.some.injEq, Prod.mk.injEq] at hi
        rw [modeAt_concat h.takes_le, h.modeAt_takes]
        exact hi.2.symm
    · rw [hp]
      exact holdHeard

/-- However the calls, the loop and the thread interleave: the stream is
heard at every point, and stays so while the thread works off its queue,
exactly when every step meets `KeepsHeard`; and then no frame that enters
the channel of a streaming stream is thrown away. -/
theorem resume_reaches_thread_iff (burstSize : Nat) (state : StreamerState)
    (events : List PlaybackEvent) :
    let start : Playback := { state }
    ((∀ pre, pre <+: events → ∀ n, ((run (step burstSize) start pre).drained burstSize n).Heard) ↔
      Along (step burstSize) KeepsHeard start events) ∧
    (Along (step burstSize) KeepsHeard start events →
      ∀ (i : Nat) (frm : PreparedFrame) (taken : SenderMessage × SenderMode),
        (puts (trace (step burstSize) start events))[i]? = some (.packet frm, .streaming) →
        (takes (trace (step burstSize) start events))[i]? = some taken →
        taken.1 = .packet frm ∧ taken.2 ≠ .paused) := by
  intro start
  have ha : start.StaysHeard := by
    intro _ hps
    cases hps
  have hs : ∀ p ev, True → StaysHeard p → ((step burstSize p ev).1.StaysHeard ↔ p.KeepsHeard ev) :=
    fun p ev _ hp => step_keeps_iff burstSize hp ev
  have hi := @Mealy.forall_start_iff_along _ _ _ (step burstSize) (fun _ => True) StaysHeard
    KeepsHeard (fun _ _ _ => trivial) hs events start trivial ha
  have hd : (∀ pre, pre <+: events → (run (step burstSize) start pre).StaysHeard) ↔
      ∀ pre, pre <+: events → ∀ n, ((run (step burstSize) start pre).drained burstSize n).Heard :=
    forall₂_congr (fun pre _ => staysHeard_iff burstSize _)
  refine ⟨hd.symm.trans hi, fun hl => ?_⟩
  have hh := hi.mpr hl
  have hw := @Mealy.trace_induction_along _ _ _ (step burstSize) Worked
    (fun _ p _ => p.StaysHeard) start (Worked.start state)
    (fun turns p ev hp h => h.turn hp burstSize ev) events
    (fun pre ev hb => hh pre ((prefix_append _ _).trans hb))
  intro i frm taken ht hk
  obtain ⟨msg, mode⟩ := taken
  have hm := hw.fates i msg mode hk
  have hg : some msg = some (.packet frm) := by
    have htk : ((takes (trace (step burstSize) start events)).map (·.1))[i]? = some msg := by
      rw [getElem?_map, hk]
      rfl
    have hlt := (List.getElem?_eq_some_iff.mp htk).1
    have hpt : ((puts (trace (step burstSize) start events)).map (·.1))[i]? =
        some (.packet frm) := by
      rw [getElem?_map, ht]
      rfl
    rw [← hw.fifo, getElem?_append_left hlt, htk] at hpt
    exact hpt
  refine ⟨Option.some.inj hg, ?_⟩
  rw [hm]
  exact hw.heard i frm ht

/-! ### A resume behind a full channel -/

def emptyFrame : PreparedFrame := ⟨[], []⟩

/-- One round of the loop. -/
def oneFrame : List PlaybackEvent := [.check, .work ⟨true, false, .frame emptyFrame⟩, .send]

/-- Seven frames and a pause fill the channel; the resume is dropped. -/
def droppedResume : List PlaybackEvent :=
  (List.replicate 7 oneFrame).flatten ++ [.pause, .resume]

theorem resume_reaches_thread_iff_dropped : ¬ ∀ before, before <+: droppedResume →
      ∀ n, ((run (step 1) { state := .streaming } before).drained 1 n).Heard := by
  rw [(resume_reaches_thread_iff 1 .streaming droppedResume).1, along_iff_forall_start]
  intro h
  have hl := h (droppedResume.take 22) .resume ⟨[], by decide⟩ (by decide)
  exact absurd hl (by decide)

/-- The pause falls between the loop's check and its work, and the buffer is
empty: the stream comes back as if nobody had paused it. -/
def pausedWhileStarving : List PlaybackEvent :=
  [.check, .pause, .work ⟨false, false, .empty⟩, .check, .work ⟨true, false, .frame emptyFrame⟩,
    .receive]

/-- Both ways the stream is streaming, the channel is empty, and the thread
waits for a resume and throws away what comes. -/
theorem dropped_resume_silences_stream :
    let s := (run (step 1) { state := .streaming } droppedResume).drained 1 8
    let t := run (step 1) { state := .streaming } pausedWhileStarving
    (s.state = .streaming ∧ s.queue = [] ∧ s.thread.mode = .paused ∧
      (s.thread.receive 1 (.packet emptyFrame)).2 = []) ∧
    t.state = .streaming ∧ t.queue = [] ∧ t.thread.mode = .paused := by
  decide

end Playback

end OpenAirCast.Audio
