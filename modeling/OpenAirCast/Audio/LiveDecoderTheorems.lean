/-
Audio.LiveDecoderTheorems — what reaches the encoder of the PCM
that is captured.

`Tracked` is the invariant of every interleaving: the frames taken, those in
the queue and the one in the sender's hand are, in this order, among those
submitted, and the counters count the others (`step_tracked`). The loop of
`try_send_latest` runs once, because only the decoder touches the queue
between the eviction and the next try (`Tracked.room`), so a call returns
after at most four steps of its own (`call_returns`).

The samples are kept step by step as well, with one exception (`Keeps`): a
frame of no channels makes `decode_frame` divide by zero after it has taken
it off the queue. The counters of the sender look at the channels first.
-/
import OpenAirCast.Audio.LiveDecoder

namespace OpenAirCast.Audio.Live

open List Mealy

namespace Pair

variable {frame : LivePcmFrame} {rest : List LivePcmFrame} {collected : List Int16}

/-! ## Counting in 64 bits -/

theorem one_more {submitted full disconnected : UInt64} {n : Nat}
    (h : submitted = UInt64.ofNat n + full + disconnected) :
    submitted + 1 = UInt64.ofNat (n + 1) + full + disconnected := by
  rw [UInt64.ofNat_add, h]
  grind

/-- A frame that is nowhere any more, and a drop that counts it. -/
theorem one_dropped {submitted full disconnected full' disconnected' : UInt64} {n : Nat}
    (h : submitted = UInt64.ofNat (n + 1) + full + disconnected)
    (hd : full' + disconnected' = full + disconnected + 1) :
    submitted = UInt64.ofNat n + full' + disconnected' := by
  rw [UInt64.ofNat_add] at h
  rw [h]
  grind

/-! ## The invariant of all interleavings -/

/-- Every frame submitted is counted in one place. -/
structure Tracked (p : Pair) : Prop where
  inOrder : List.Sublist (p.history.taken ++ p.queue ++ p.sender.frame.toList) p.history.submitted
  counted : p.stats.submittedFrames =
    UInt64.ofNat (p.history.taken.length + p.queue.length + p.sender.frame.toList.length)
      + p.stats.fullQueueDrops + p.stats.disconnectedDrops
  capacity : 1 ≤ p.capacity
  bounded : p.queue.length ≤ p.capacity
  room : ∀ frame, p.sender = .resending frame → p.queue.length < p.capacity
  newest : (∀ frame, p.sender ≠ .resending frame) →
    p.history.delivered = (p.history.taken ++ p.queue).getLast?
  sized : ∀ r ∈ p.history.packets, r.2.samples.length = r.1.targetSamples
  emptied : ∀ call collected, p.decoder.phase = .collecting call collected →
    p.decoder.residualSamples = []
  submissions : p.stats.submittedFrames = UInt64.ofNat p.history.submitted.length

theorem createPair_tracked (rate : UInt32) {capacity : Nat} (h : 1 ≤ capacity) :
    Tracked (createPair rate capacity) where
  inOrder := nil_sublist _
  counted := rfl
  capacity := h
  bounded := Nat.zero_le _
  room := fun _ heq => by cases heq
  newest := fun _ => rfl
  sized := fun _ hmem => by cases hmem
  emptied := fun _ _ _ => rfl
  submissions := rfl

variable {p : Pair}

/-! ## The sender's steps -/

theorem submit_tracked (h : Tracked p) (kind : SendKind) (frame : LivePcmFrame) :
    Tracked (p.submit kind frame) := by
  unfold submit
  split
  · rename_i hi
    have hf : p.sender.frame = none := by rw [hi.1]; rfl
    have hinOrd := h.inOrder
    have hc := h.counted
    have hn := h.newest (fun frame heq => by rw [hi.1] at heq; cases heq)
    rw [hf] at hinOrd hc
    refine ⟨?_, ?_, h.capacity, h.bounded, fun _ heq => (by cases heq), fun _ => hn, h.sized,
      h.emptied, ?_⟩
    · simpa [SenderPhase.frame] using hinOrd.append (List.Sublist.refl [frame])
    · exact one_more hc
    · simp [CaptureQueueCounters.countSubmission, h.submissions, UInt64.ofNat_add]
  · exact h

theorem push_tracked (h : Tracked p) (hf : p.sender.frame = some frame)
    (hr : p.queue.length < p.capacity) : Tracked (p.push frame) := by
  have hinOrd := h.inOrder
  have hc := h.counted
  rw [hf] at hinOrd hc
  refine ⟨?_, ?_, h.capacity, ?_, fun _ heq => (by cases heq), fun _ => ?_, h.sized, h.emptied,
    h.submissions⟩
  · simpa [push, SenderPhase.frame] using hinOrd
  · simpa [push, SenderPhase.frame, Nat.add_assoc] using hc
  · simp only [push, length_append, length_cons, length_nil]
    omega
  · simp [push]

theorem moved_tracked (h : Tracked p) {sender : SenderPhase} (hf : sender.frame = p.sender.frame)
    (hr : ∀ frame, sender = .resending frame → p.queue.length < p.capacity)
    (hp : ∀ frame, p.sender ≠ .resending frame) : Tracked { p with sender } := by
  refine ⟨?_, ?_, h.capacity, h.bounded, hr, fun _ => h.newest hp, h.sized, h.emptied,
    h.submissions⟩
  · simpa only [hf] using h.inOrder
  · simpa only [hf] using h.counted

theorem dropped_tracked (h : Tracked p) {stats : CaptureQueueCounters}
    (hf : p.sender.frame = some frame) (hp : ∀ frame, p.sender ≠ .resending frame)
    (hs : stats.submittedFrames = p.stats.submittedFrames)
    (hd : stats.fullQueueDrops + stats.disconnectedDrops
      = p.stats.fullQueueDrops + p.stats.disconnectedDrops + 1) :
    Tracked { p with stats, sender := .idle } := by
  have hinOrd := h.inOrder
  have hc := h.counted
  rw [hf] at hinOrd hc
  refine ⟨?_, ?_, h.capacity, h.bounded, fun _ heq => (by cases heq), fun _ => h.newest hp,
    h.sized, h.emptied, hs.trans h.submissions⟩
  · have hw : List.Sublist (p.history.taken ++ p.queue ++ [])
        (p.history.taken ++ p.queue ++ [frame]) :=
      (List.Sublist.refl _).append (nil_sublist _)
    exact hw.trans hinOrd
  · dsimp only
    rw [hs]
    exact one_dropped hc hd

theorem evict_tracked (h : Tracked p) {oldest : LivePcmFrame}
    (hs : p.sender = .evicting frame) (hq : p.queue = oldest :: rest) :
    Tracked { p with
      queue := rest, stats := p.stats.countFullQueueDrop, sender := .resending frame } := by
  have hinOrd := h.inOrder
  have hc := h.counted
  have hb := h.bounded
  rw [hs] at hinOrd hc
  rw [hq] at hinOrd hc hb
  rw [length_cons] at hb
  refine ⟨?_, ?_, h.capacity, ?_, fun _ _ => ?_, fun hne => absurd rfl (hne frame), h.sized,
    h.emptied, h.submissions⟩
  · have hf : List.Sublist (p.history.taken ++ rest ++ [frame])
        (p.history.taken ++ oldest :: rest ++ [frame]) :=
      ((List.Sublist.refl _).append (sublist_cons_self oldest rest)).append (List.Sublist.refl _)
    exact hf.trans hinOrd
  · have hlen : p.history.taken.length + (oldest :: rest).length + 1
        = p.history.taken.length + rest.length + 1 + 1 := by
      rw [length_cons]
      omega
    exact one_dropped (hlen ▸ hc) (add_right_comm _ 1 _)
  · exact Nat.le_of_lt hb
  · exact hb

theorem senderStep_tracked (h : Tracked p) : Tracked p.senderStep.1 := by
  unfold senderStep
  split
  · exact h
  · rename_i kind frame hs
    have hf : p.sender.frame = some frame := by rw [hs]; rfl
    have hp : ∀ frame, p.sender ≠ .resending frame := by
      intro frame heq
      rw [hs] at heq
      cases heq
    split
    · exact dropped_tracked h hf hp rfl (UInt64.add_assoc _ _ 1).symm
    · exact moved_tracked h hf.symm (fun _ heq => (by cases heq)) hp
  · rename_i kind frame hs
    have hf : p.sender.frame = some frame := by rw [hs]; rfl
    have hp : ∀ frame, p.sender ≠ .resending frame := by
      intro frame heq
      rw [hs] at heq
      cases heq
    split
    · rename_i hr
      exact push_tracked h hf hr
    · split
      · exact dropped_tracked h hf hp rfl (add_right_comm _ 1 _)
      · exact moved_tracked h hf.symm (fun _ heq => (by cases heq)) hp
      · exact h
  · rename_i frame hs
    split
    · rename_i hq
      refine moved_tracked h (by rw [hs]; rfl) (fun _ _ => ?_) ?_
      · rw [hq]
        exact h.capacity
      · intro other heq
        rw [hs] at heq
        cases heq
    · rename_i oldest rest hq
      exact evict_tracked h hs hq
  · rename_i frame hs
    rw [if_pos (h.room frame hs)]
    exact push_tracked h (by rw [hs]; rfl) (h.room frame hs)

/-! ## The decoder's steps -/

variable {call : Call}

section

variable (h : Tracked p)
include h

theorem decoder_tracked {decoder : LiveAudioDecoder} {packets : List (Call × DecodedFrame)}
    (hs : ∀ r ∈ packets, r.2.samples.length = r.1.targetSamples)
    (he : ∀ call collected, decoder.phase = .collecting call collected →
      decoder.residualSamples = []) :
    Tracked { p with decoder, history := { p.history with packets } } :=
  ⟨h.inOrder, h.counted, h.capacity, h.bounded, h.room, h.newest, hs, he, h.submissions⟩

theorem packet_tracked
    (he : call.targetSamples ≤ collected.length) : Tracked (p.packet call collected).1 := by
  unfold packet
  split
  · exact decoder_tracked h h.sized (fun _ _ heq => (by cases heq))
  · refine decoder_tracked h ?_ (fun _ _ heq => (by cases heq))
    intro r hmem
    rcases mem_append.mp hmem with hmem | hmem
    · exact h.sized r hmem
    · rw [mem_singleton.mp hmem]
      exact length_take_of_le he

theorem collect_tracked (he : p.decoder.residualSamples = []) (call : Call)
    (collected : List Int16) : Tracked (p.collect call collected).1 := by
  unfold collect
  split
  · exact decoder_tracked h h.sized (fun _ _ _ => he)
  · rename_i hn
    exact packet_tracked h (Nat.le_of_not_lt hn)

theorem giveUp_tracked (collected : List Int16) : Tracked (p.giveUp collected).1 :=
  decoder_tracked h h.sized (fun _ _ heq => (by cases heq))

theorem decode_tracked (call : Call) : Tracked (p.decode call).1 := by
  unfold decode
  split
  · have hs : Tracked { p with decoder := { p.decoder with residualSamples := [] } } :=
      decoder_tracked h h.sized (fun _ _ _ => rfl)
    exact collect_tracked hs rfl call _
  · exact h

theorem taken_tracked (hq : p.queue = frame :: rest) : Tracked { p with
      queue := rest
      history := { p.history with taken := p.history.taken ++ [frame] } } := by
  have hs : p.history.taken ++ [frame] ++ rest = p.history.taken ++ p.queue := by
    rw [hq, append_assoc]
    rfl
  have hlen : (p.history.taken ++ [frame]).length + rest.length
      = p.history.taken.length + p.queue.length := by
    rw [← length_append, hs, length_append]
  have hh : rest.length ≤ p.queue.length := by
    rw [hq]
    exact Nat.le_succ _
  refine ⟨?_, ?_, h.capacity, Nat.le_trans hh h.bounded, ?_, ?_, h.sized, h.emptied, h.submissions⟩
  · dsimp only
    rw [hs]
    exact h.inOrder
  · dsimp only
    rw [hlen]
    exact h.counted
  · exact fun other heq => Nat.lt_of_le_of_lt hh (h.room other heq)
  · intro hp
    rw [hs]
    exact h.newest hp

theorem take_tracked (hq : p.queue = frame :: rest) (he : p.decoder.residualSamples = []) :
    Tracked (p.take call collected frame rest).1 := by
  have ht := taken_tracked h hq
  unfold take
  split
  · exact decoder_tracked ht ht.sized (fun _ _ heq => (by cases heq))
  · refine collect_tracked ?_ (by exact he) call _
    exact decoder_tracked ht ht.sized h.emptied

theorem receive_tracked : Tracked p.receive.1 := by
  unfold receive
  split
  · exact h
  · rename_i call collected hp
    split
    · exact giveUp_tracked h collected
    · split
      · rename_i frame rest hq
        exact take_tracked h hq (h.emptied call collected hp)
      · split
        · exact giveUp_tracked h collected
        · have he : Tracked { p with decoder := { p.decoder with eof := true } } :=
            decoder_tracked h h.sized h.emptied
          exact giveUp_tracked he collected

theorem timeout_tracked : Tracked p.timeout.1 := by
  unfold timeout
  split
  · exact h
  · exact giveUp_tracked h _

end

/-- No event of the pair loses track of a frame. -/
theorem step_tracked (p : Pair) (ev : Event) (h : Tracked p) : Tracked (p.step ev).1 := by
  cases ev with
  | submit kind frame => exact submit_tracked h kind frame
  | senderStep => exact senderStep_tracked h
  | decode call => exact decode_tracked h call
  | receive => exact receive_tracked h
  | timeout => exact timeout_tracked h
  | markEof =>
    unfold step
    dsimp only
    split
    · exact decoder_tracked h h.sized h.emptied
    · exact h
  | dropDecoder =>
    unfold step
    dsimp only
    split
    · exact ⟨h.inOrder, h.counted, h.capacity, h.bounded, h.room, h.newest, h.sized, h.emptied,
        h.submissions⟩
    · exact h
  | dropSender =>
    unfold step
    dsimp only
    split
    · exact ⟨h.inOrder, h.counted, h.capacity, h.bounded, h.room, h.newest, h.sized, h.emptied,
        h.submissions⟩
    · exact h

/-! ## Samples -/

/-- What the decoder has collected for the next packet. -/
def held (p : Pair) : List Int16 :=
  match p.decoder.phase with
  | .idle => p.decoder.residualSamples
  | .collecting _ collected => collected

/-- The samples of the packets and the ones held are those of the frames
taken. -/
def Conserved (p : Pair) : Prop :=
  p.history.packets.flatMap (·.2.samples) ++ p.held = p.history.taken.flatMap (·.samples)

/-- The event loses samples: the decoder receives a frame of no channels, and
has something in hand. -/
def loses (p : Pair) (event : Event) : Bool :=
  match event, p.decoder.phase, p.queue with
  | .receive, .collecting _ collected, frame :: _ =>
    !p.decoder.eof && frame.channels == 0 && collected ++ frame.samples != []
  | _, _, _ => false

def Keeps (p : Pair) (event : Event) : Prop := loses p event = false

instance decidableKeeps (p : Pair) (event : Event) : Decidable (Keeps p event) :=
  inferInstanceAs (Decidable (loses p event = false))

theorem packet_conserved (he : p.decoder.residualSamples = []) (call : Call)
    (collected : List Int16) :
    Conserved (p.packet call collected).1 ↔ p.history.packets.flatMap (·.2.samples) ++ collected
        = p.history.taken.flatMap (·.samples) := by
  unfold packet
  split
  · rename_i hn
    unfold Conserved held
    rw [he, hn]
  · unfold Conserved held
    simp only [flatMap_append, flatMap_cons, flatMap_nil, append_nil,
      append_assoc, take_append_drop]

theorem collect_conserved (he : p.decoder.residualSamples = []) (call : Call)
    (collected : List Int16) :
    Conserved (p.collect call collected).1 ↔ p.history.packets.flatMap (·.2.samples) ++ collected
        = p.history.taken.flatMap (·.samples) := by
  unfold collect
  split
  · rfl
  · exact packet_conserved he call collected

/-- Taking a frame keeps the samples unless it panics with some in hand. -/
theorem take_conserved (hp : p.decoder.phase = .collecting call collected)
    (he : p.decoder.residualSamples = []) (h : Conserved p) :
    Conserved (p.take call collected frame rest).1 ↔
      (frame.channels = 0 → collected ++ frame.samples = []) := by
  unfold Conserved held at h
  rw [hp] at h
  unfold take
  split
  · rename_i hz
    unfold Conserved held
    rw [he, append_nil, flatMap_append, ← h, append_assoc]
    simp [hz]
  · rename_i hc
    refine (collect_conserved (by exact he) call _).trans (iff_of_true ?_ (fun hz => absurd hz hc))
    rw [flatMap_append, ← h]
    simp

theorem conserved_congr {p' : Pair} (hp : p'.history.packets = p.history.packets)
    (ht : p'.history.taken = p.history.taken) (hh : p'.held = p.held) :
    Conserved p' ↔ Conserved p := by
  unfold Conserved
  rw [hp, ht, hh]

theorem giveUp_conserved {call : Call} {collected : List Int16}
    (hp : p.decoder.phase = .collecting call collected) :
    Conserved (p.giveUp collected).1 ↔ Conserved p := by
  refine conserved_congr rfl rfl ?_
  unfold held
  rw [hp]
  rfl

theorem submit_conserved (kind : SendKind) (frame : LivePcmFrame) :
    Conserved (p.submit kind frame) ↔ Conserved p := by
  unfold submit
  split <;> exact conserved_congr rfl rfl rfl

theorem senderStep_conserved : Conserved p.senderStep.1 ↔ Conserved p := by
  unfold senderStep
  split
  · rfl
  · split <;> exact conserved_congr rfl rfl rfl
  · split
    · exact conserved_congr rfl rfl rfl
    · split <;> exact conserved_congr rfl rfl rfl
  · split <;> exact conserved_congr rfl rfl rfl
  · split <;> exact conserved_congr rfl rfl rfl

theorem decode_conserved (call : Call) (h : Conserved p) : Conserved (p.decode call).1 := by
  unfold decode
  split
  · rename_i hi
    refine (collect_conserved (by rfl) call _).mpr ?_
    unfold Conserved held at h
    rw [hi.1] at h
    exact h
  · exact h

theorem receive_conserved (ht : Tracked p) (h : Conserved p) :
    Conserved p.receive.1 ↔ Keeps p .receive := by
  unfold receive Keeps loses
  cases hp : p.decoder.phase with
  | idle => exact iff_of_true h rfl
  | collecting call collected =>
    dsimp only
    cases hq : p.queue with
    | nil =>
      refine iff_of_true ?_ rfl
      split
      · exact (giveUp_conserved hp).mpr h
      · dsimp only
        split
        · exact (giveUp_conserved hp).mpr h
        · refine (@giveUp_conserved _ call collected ?_).mpr ?_
          · exact hp
          · exact (conserved_congr rfl rfl rfl).mpr h
    | cons frame rest =>
      split
      · rename_i he
        refine iff_of_true ((giveUp_conserved hp).mpr h) ?_
        rw [he]
        rfl
      · rename_i hn
        rw [take_conserved hp (ht.emptied call collected hp) h]
        have he : p.decoder.eof = false := by simpa using hn
        rw [he]
        simp

theorem timeout_conserved (h : Conserved p) : Conserved p.timeout.1 := by
  unfold timeout
  split
  · exact h
  · rename_i hp
    exact (giveUp_conserved hp).mpr h

/-- A step keeps the samples exactly if it does not lose any. -/
theorem step_conserved (p : Pair) (ev : Event) (ht : Tracked p) (h : Conserved p) :
    Conserved (p.step ev).1 ↔ Keeps p ev := by
  cases ev with
  | submit kind frame => exact iff_of_true ((submit_conserved kind frame).mpr h) rfl
  | senderStep => exact iff_of_true (senderStep_conserved.mpr h) rfl
  | decode call => exact iff_of_true (decode_conserved call h) rfl
  | receive => exact receive_conserved ht h
  | timeout => exact iff_of_true (timeout_conserved h) rfl
  | markEof =>
    refine iff_of_true ?_ rfl
    unfold step
    dsimp only
    split
    · exact (conserved_congr rfl rfl rfl).mpr h
    · exact h
  | dropDecoder =>
    refine iff_of_true ?_ rfl
    unfold step
    dsimp only
    split
    · exact (conserved_congr rfl rfl rfl).mpr h
    · exact h
  | dropSender =>
    refine iff_of_true ?_ rfl
    unfold step
    dsimp only
    split
    · exact (conserved_congr rfl rfl rfl).mpr h
    · exact h

/-! ## The calls of the sender -/

/-- How many steps of its own a call takes at most. -/
def remaining : SenderPhase → Nat
  | .idle => 0
  | .submitted _ _ => 4
  | .sending _ _ => 3
  | .evicting _ => 2
  | .resending _ => 1

/-- The call may block: it is one of `send`. -/
def blocks : SenderPhase → Prop
  | .submitted kind _ | .sending kind _ => kind = .send
  | _ => False

theorem senderStep_remaining (h : Tracked p) (hbs : p.sender ≠ .idle) (hb : ¬ blocks p.sender) :
    remaining p.senderStep.1.sender + 1 ≤ remaining p.sender ∧ ¬ blocks p.senderStep.1.sender := by
  unfold senderStep
  split
  · rename_i hi
    exact absurd hi hbs
  · rename_i kind frame hs
    rw [hs] at hb ⊢
    split
    · exact ⟨Nat.le_add_left 1 3, id⟩
    · exact ⟨Nat.le_refl 4, hb⟩
  · rename_i kind frame hs
    rw [hs] at hb ⊢
    split
    · exact ⟨Nat.le_add_left 1 2, id⟩
    · cases kind with
      | trySend => exact ⟨Nat.le_add_left 1 2, id⟩
      | trySendLatest => exact ⟨Nat.le_refl 3, id⟩
      | send => exact absurd rfl hb
  · rename_i frame hs
    rw [hs]
    split <;> exact ⟨Nat.le_refl 2, id⟩
  · rename_i frame hs
    rw [if_pos (h.room frame hs), hs]
    exact ⟨Nat.le_refl 1, id⟩

theorem packet_sender (call : Call) (collected : List Int16) :
    (p.packet call collected).1.sender = p.sender := by
  unfold packet
  split <;> rfl

theorem collect_sender (call : Call) (collected : List Int16) :
    (p.collect call collected).1.sender = p.sender := by
  unfold collect
  split
  · rfl
  · exact packet_sender call collected

theorem receive_sender : p.receive.1.sender = p.sender := by
  unfold receive
  split
  · rfl
  · split
    · rfl
    · split
      · unfold take
        split
        · rfl
        · exact collect_sender _ _
      · split <;> rfl

/-- Only the sender moves a call that is under way. -/
theorem step_sender (ev : Event) (he : ev ≠ .senderStep) (hb : p.sender ≠ .idle) :
    (p.step ev).1.sender = p.sender := by
  cases ev with
  | submit kind frame =>
    have hn : ¬ (p.sender = .idle ∧ p.senderAlive = true) := fun hi => hb hi.1
    show (p.submit kind frame).sender = p.sender
    rw [submit, if_neg hn]
  | senderStep => exact absurd rfl he
  | decode =>
    unfold step decode
    dsimp only
    split
    · exact collect_sender _ _
    · rfl
  | receive => exact receive_sender
  | timeout =>
    unfold step timeout
    dsimp only
    split <;> rfl
  | markEof =>
    unfold step
    dsimp only
    split <;> rfl
  | dropDecoder =>
    unfold step
    dsimp only
    split <;> rfl
  | dropSender =>
    unfold step
    dsimp only
    split <;> rfl

/-- A call that does not block is over once it has had its steps. -/
theorem call_returns : ∀ (evs : List Event) {p : Pair}, Tracked p → ¬ blocks p.sender →
    remaining p.sender ≤ evs.count .senderStep →
    ∃ pre, pre <+: evs ∧ (Mealy.run step p pre).sender = .idle := by
  intro evs
  induction evs with
  | nil =>
    intro p _ _ hs
    refine ⟨[], nil_prefix, ?_⟩
    have hn : remaining p.sender = 0 := Nat.le_zero.mp hs
    show p.sender = .idle
    cases hsn : p.sender with
    | idle => rfl
    | submitted kind frame | sending kind frame | evicting frame | resending frame =>
      rw [hsn] at hn
      cases hn
  | cons ev rest ih =>
    intro p h hb hs
    by_cases hi : p.sender = .idle
    · exact ⟨[], nil_prefix, hi⟩
    have hx := step_tracked p ev h
    by_cases he : ev = .senderStep
    · subst he
      obtain ⟨hl, hb'⟩ := senderStep_remaining h hi hb
      rw [count_cons_self] at hs
      obtain ⟨pre, hf, hd⟩ := ih hx hb' (by
        have : remaining (p.step .senderStep).1.sender + 1 ≤ rest.count .senderStep + 1 :=
          Nat.le_trans hl hs
        omega)
      exact ⟨.senderStep :: pre, cons_prefix_cons.mpr ⟨rfl, hf⟩, hd⟩
    · have hm := @step_sender p ev he hi
      rw [count_cons_of_ne he] at hs
      obtain ⟨pre, hf, hd⟩ := ih hx (hm ▸ hb) (hm ▸ hs)
      exact ⟨ev :: pre, cons_prefix_cons.mpr ⟨rfl, hf⟩, hd⟩

/-- A call of `try_send_latest` that does not find the decoder gone has put
its frame behind all others. -/
def Delivers (t : Mealy.Turn Pair Event Observed) : Prop :=
  ∀ outcome, t.output = .latest outcome → outcome ≠ .disconnected →
    ∃ frame, t.before.sender.frame = some frame ∧
      (t.after.history.taken ++ t.after.queue).getLast? = some frame

theorem push_last (frame : LivePcmFrame) :
    ((p.push frame).history.taken ++ (p.push frame).queue).getLast? = some frame := by
  unfold push
  rw [← append_assoc]
  simp

theorem senderStep_delivers {outc : LiveSendOutcome} (ho : p.senderStep.2 = .latest outc)
    (hs : outc ≠ .disconnected) :
    ∃ frame, p.sender.frame = some frame ∧
      (p.senderStep.1.history.taken ++ p.senderStep.1.queue).getLast? = some frame := by
  unfold senderStep at ho ⊢
  split at ho
  · cases ho
  · rename_i kind frame hn
    split at ho
    · cases kind <;> cases ho
      exact absurd rfl hs
    · cases ho
  · rename_i kind frame hn
    rw [hn]
    split at ho
    · rename_i hr
      rw [if_pos hr]
      exact ⟨frame, rfl, push_last frame⟩
    · cases kind <;> cases ho
  · split at ho <;> cases ho
  · rename_i frame hn
    rw [hn]
    split at ho
    · rename_i hr
      rw [if_pos hr]
      exact ⟨frame, rfl, push_last frame⟩
    · cases ho

theorem collect_output (call : Call) (collected : List Int16) (outc : LiveSendOutcome) :
    (p.collect call collected).2 ≠ .latest outc := by
  unfold collect packet
  split
  · exact Observed.noConfusion
  · split <;> exact Observed.noConfusion

/-- Unless the decoder is gone, a call ends with its frame queued last. -/
theorem step_delivers (p : Pair) (ev : Event) : Delivers (Mealy.turn step p ev) := by
  intro outc ho hs
  cases ev with
  | submit => cases ho
  | senderStep => exact senderStep_delivers ho hs
  | decode call =>
    change (p.decode call).2 = _ at ho
    unfold decode at ho
    split at ho
    · exact absurd ho (collect_output _ _ _)
    · cases ho
  | receive =>
    change p.receive.2 = _ at ho
    unfold receive at ho
    split at ho
    · cases ho
    · split at ho
      · cases ho
      · split at ho
        · unfold take at ho
          split at ho
          · cases ho
          · exact absurd ho (collect_output _ _ _)
        · split at ho <;> cases ho
  | timeout =>
    change p.timeout.2 = _ at ho
    unfold timeout at ho
    split at ho <;> cases ho
  | markEof | dropDecoder | dropSender =>
    change (step p _).2 = _ at ho
    unfold step at ho
    dsimp only at ho
    split at ho <;> cases ho

/-! ## The whole run -/

/-- What holds of a pair between the calls of the sender. -/
structure Accounted (p : Pair) : Prop where
  /-- A subsequence: in order, and none twice. -/
  inOrder : p.history.taken.Sublist p.history.submitted
  submissions : p.stats.submittedFrames = UInt64.ofNat p.history.submitted.length
  counted : p.sender = .idle → p.stats.submittedFrames =
    UInt64.ofNat (p.history.taken.length + p.queue.length)
      + p.stats.fullQueueDrops + p.stats.disconnectedDrops
  newest : p.sender = .idle → p.history.delivered = (p.history.taken ++ p.queue).getLast?
  sized : ∀ r ∈ p.history.packets, r.2.samples.length = r.1.targetSamples
  conserved : Conserved p

/-- Of what is accounted for, only the samples can be lost. -/
theorem accounted_iff_conserved (h : Tracked p) : Accounted p ↔ Conserved p := by
  refine ⟨Accounted.conserved, fun hn => ⟨?_, h.submissions, ?_, ?_, h.sized, hn⟩⟩
  · have hf : p.history.taken.Sublist (p.history.taken ++ p.queue ++ p.sender.frame.toList) := by
      rw [append_assoc]
      exact sublist_append_left _ _
    exact hf.trans h.inOrder
  · intro hi
    have hc := h.counted
    rw [hi] at hc
    exact hc
  · intro hi
    refine h.newest ?_
    intro frame heq
    rw [hi] at heq
    cases heq

theorem remaining_le (sndr : SenderPhase) : remaining sndr ≤ 4 := by
  cases sndr with
  | idle => exact Nat.zero_le 4
  | submitted => exact Nat.le_refl 4
  | sending => exact Nat.le_succ 3
  | evicting => exact Nat.le_add_left 2 2
  | resending => exact Nat.le_add_left 1 3

/-- In every interleaving, all frames and samples are accounted for exactly
as long as the decoder receives no frame of no channels that loses some; a
call of `try_send_latest` delivers its frame unless the decoder is gone; and
a call that does not block is over after four steps. -/
theorem pair_accounts (sampleRate : UInt32) (capacity : Nat) (hcapacity : 1 ≤ capacity)
    (events : List Event) :
    ((∀ before, before <+: events →
        Accounted (Mealy.run step (createPair sampleRate capacity) before)) ↔
      Mealy.Along step Keeps (createPair sampleRate capacity) events) ∧
    (∀ t ∈ Mealy.trace step (createPair sampleRate capacity) events, Delivers t) ∧
    ∀ before after, before ++ after = events →
      ¬ blocks (Mealy.run step (createPair sampleRate capacity) before).sender →
      4 ≤ after.count .senderStep →
      ∃ during, during <+: after ∧
        (Mealy.run step (createPair sampleRate capacity) (before ++ during)).sender = .idle := by
  have ht := createPair_tracked sampleRate hcapacity
  refine ⟨?_, ?_, ?_⟩
  · refine @forall_start_iff_along _ _ _ step Tracked Accounted Keeps step_tracked ?_ events
      _ ht ((accounted_iff_conserved ht).mpr rfl)
    intro p ev hr ha
    rw [accounted_iff_conserved (step_tracked p ev hr)]
    exact step_conserved p ev hr ha.conserved
  · intro t hmem
    obtain ⟨_, _, hp⟩ := append_of_mem hmem
    obtain ⟨_, _, -, hn, -, -⟩ := trace_split hp
    rw [hn]
    exact step_delivers _ _
  · intro before after _ hb hs
    have hc : Tracked (Mealy.run step (createPair sampleRate capacity) before) :=
      run_invariant step_tracked ht before
    obtain ⟨during, hu, hd⟩ := call_returns after hc hb (Nat.le_trans (remaining_le _) hs)
    rw [← run_append] at hd
    exact ⟨during, hu, hd⟩

/-- A queue of one frame, a stereo frame that takes the place of another, and
a packet of it. -/
theorem pair_accounts_replaced : Accounted (Mealy.run step (createPair 44100 1)
      [.submit .trySend ⟨[1, 2], 2, 44100⟩, .senderStep, .senderStep,
        .submit .trySendLatest ⟨[3, 4], 2, 44100⟩, .senderStep, .senderStep, .senderStep,
        .senderStep, .decode ⟨2, 1⟩, .receive]) :=
  (pair_accounts 44100 1 (by decide) _).1.mpr (by decide) _ prefix_rfl

/-- Two samples in a frame of no channels: the decoder takes it, panics, and
they are gone. -/
theorem zero_channels_lose_samples : Mealy.outputs step (createPair 44100 1)
        [.submit .trySend ⟨[1, 2], 0, 44100⟩, .senderStep, .senderStep, .decode ⟨2, 1⟩, .receive]
      = [.silent, .silent, .sent true, .silent, .panicked] ∧
    ∃ p, p = Mealy.run step (createPair 44100 1)
        [.submit .trySend ⟨[1, 2], 0, 44100⟩, .senderStep, .senderStep, .decode ⟨2, 1⟩, .receive] ∧
      p.decoder.phase = .idle ∧ p.decoder.residualSamples = [] ∧ p.history.packets = [] ∧
      p.history.taken.flatMap (·.samples) = [1, 2] :=
  ⟨by decide, _, rfl, rfl, rfl, rfl, rfl⟩

end Pair

end OpenAirCast.Audio.Live
