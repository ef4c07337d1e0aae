/-
Backend.PcmBridgeTheorems — dropped audio is counted, and when it
is counted truthfully.

What the bridge owes its listeners is in `Reported`: the total it published
last and the drops that are pending make up its own total, and outside a run
of evictions nothing is pending if the queue had room when the run ended.
That holds of every run. The total is the sender's as long as no eviction
finds the queue empty (`Unrobbed`): `replacedOldest` is counted as one drop
also when the decoder took the frames and nothing was evicted.
-/
import OpenAirCast.Backend.PcmBridge
import OpenAirCast.Audio.LiveDecoderTheorems

namespace OpenAirCast.Audio.Live.Pair

variable {p : Pair}

/-! ## The decoder leaves the sender's side alone -/

/-- The sender's call and its counters. -/
structure SameSender (p p' : Pair) : Prop where
  sender : p'.sender = p.sender
  stats : p'.stats = p.stats

theorem packet_same (call : Call) (coll : List Int16) : SameSender p (p.packet call coll).1 := by
  unfold packet
  split <;> exact ⟨rfl, rfl⟩

theorem collect_same (call : Call) (coll : List Int16) : SameSender p (p.collect call coll).1 := by
  unfold collect
  split
  · exact ⟨rfl, rfl⟩
  · exact packet_same call coll

theorem receive_same : SameSender p p.receive.1 := by
  unfold receive
  split
  · exact ⟨rfl, rfl⟩
  · split
    · exact ⟨rfl, rfl⟩
    · split
      · unfold take
        dsimp only
        split
        · exact ⟨rfl, rfl⟩
        · have hc := fun p' : Pair => @collect_same p'
          exact ⟨(hc _ _ _).sender, (hc _ _ _).stats⟩
      · split <;> exact ⟨rfl, rfl⟩

theorem decoderSide_same {ev : Event} (h : Backend.decoderSide ev = true) :
    SameSender p (p.step ev).1 := by
  cases ev with
  | submit | senderStep | dropSender => cases h
  | decode call =>
    show SameSender p (p.decode call).1
    unfold decode
    split
    · have hc := fun p' : Pair => @collect_same p'
      exact ⟨(hc _ _ _).sender, (hc _ _ _).stats⟩
    · exact ⟨rfl, rfl⟩
  | receive => exact receive_same
  | timeout =>
    show SameSender p p.timeout.1
    unfold timeout
    split <;> exact ⟨rfl, rfl⟩
  | markEof =>
    unfold step
    dsimp only
    split <;> exact ⟨rfl, rfl⟩
  | dropDecoder =>
    unfold step
    dsimp only
    split <;> exact ⟨rfl, rfl⟩

/-! ## The sender's count of the same call -/

/-- The eviction of the call under way, which the sender has counted and the
bridge has not. -/
def owed : SenderPhase → UInt64
  | .resending _ => 1
  | _ => 0

/-- What the bridge counts for what the call returns. -/
def replaced : Observed → UInt64
  | .latest .replacedOldest => 1
  | _ => 0

/-- The bridge has no other calls. -/
def LatestOnly (p : Pair) : Prop :=
  ∀ kind frame, p.sender = .submitted kind frame ∨ p.sender = .sending kind frame →
    kind = .trySendLatest

/-- The decoder has left a frame for the eviction. -/
def EvictsOne (p : Pair) : Prop := ∀ frame, p.sender = .evicting frame → p.queue ≠ []

instance decidableEvictsOne (p : Pair) : Decidable (EvictsOne p) :=
  match h : p.sender with
  | .evicting frame =>
    decidable_of_iff (p.queue ≠ []) ⟨fun hne _ _ => hne, fun hall => hall frame h⟩
  | .idle | .submitted _ _ | .sending _ _ | .resending _ =>
    isTrue fun _ heq => by rw [h] at heq; cases heq

theorem submit_latestOnly (h : LatestOnly p) (frm : LivePcmFrame) :
    LatestOnly (p.submit .trySendLatest frm) := by
  unfold submit
  split
  · rintro _ _ (heq | heq)
    · cases heq
      rfl
    · cases heq
  · exact h

theorem senderStep_latestOnly (h : LatestOnly p) : LatestOnly p.senderStep.1 := by
  unfold senderStep
  split
  · exact h
  · rename_i kind frm hs
    split
    · rintro kind' frame' (heq | heq) <;> cases heq
    · rintro kind' frame' (heq | heq)
      · cases heq
      · cases heq
        exact h kind frm (.inl hs)
  · rename_i kind frm hs
    cases h kind frm (.inr hs)
    split <;> rintro kind' frame' (heq | heq) <;> cases heq
  · split <;> rintro kind' frame' (heq | heq) <;> cases heq
  · split <;> rintro kind' frame' (heq | heq) <;> cases heq

/-- One operation of the sender keeps the two counts level. -/
theorem senderStep_owed (ht : Tracked p) (hl : LatestOnly p) (ho : EvictsOne p)
    {total : UInt64} (h : p.stats.fullQueueDrops = total + owed p.sender) :
    p.senderStep.1.stats.fullQueueDrops =
      total + replaced p.senderStep.2 + owed p.senderStep.1.sender := by
  unfold senderStep
  split
  · rename_i hs
    rw [h, hs]
    simp [owed, replaced]
  · rename_i kind frm hs
    rw [hs] at h
    cases hl kind frm (.inl hs)
    split
    · exact h.trans (by simp [owed, replaced, answer])
    · exact h.trans (by simp [owed, replaced])
  · rename_i kind frm hs
    rw [hs] at h
    cases hl kind frm (.inr hs)
    split
    · exact h.trans (by simp [owed, replaced, answer, push])
    · exact h.trans (by simp [owed, replaced])
  · rename_i frm hs
    rw [hs] at h
    split
    · rename_i hn
      exact absurd hn (ho frm hs)
    · show p.stats.fullQueueDrops + 1 = total + 0 + 1
      rw [h]
      simp [owed]
  · rename_i frm hs
    rw [hs] at h
    rw [if_pos (ht.room frm hs)]
    exact h.trans (by simp [owed, replaced, push])

end OpenAirCast.Audio.Live.Pair

namespace OpenAirCast.Backend.PcmBridge

open Audio

variable {b : PcmBridge}

/-! ## What is published -/

/-- The total that was published last; before the first one the listeners start
from zero. -/
def lastPublished (b : PcmBridge) : UInt64 := b.published.getLast?.getD 0

/-- A drop is published or pending. -/
structure Reported (b : PcmBridge) : Prop where
  pending : b.lastPublished + UInt64.ofNat b.pendingDrops = b.droppedTotal
  quiet : b.inEvictionRun = false → b.roomAtEnd = true → b.pendingDrops = 0

theorem flushDrops_pair (b : PcmBridge) : b.flushDrops.pair = b.pair := by
  unfold flushDrops
  split
  · rfl
  · split <;> rfl

theorem flushDrops_frame (b : PcmBridge) : b.flushDrops.droppedTotal = b.droppedTotal ∧
      b.flushDrops.inEvictionRun = b.inEvictionRun ∧ b.flushDrops.roomAtEnd = b.roomAtEnd := by
  unfold flushDrops
  split
  · exact ⟨rfl, rfl, rfl⟩
  · split <;> exact ⟨rfl, rfl, rfl⟩

theorem flushDrops_pending (h : b.lastPublished + UInt64.ofNat b.pendingDrops = b.droppedTotal) :
    b.flushDrops.lastPublished + UInt64.ofNat b.flushDrops.pendingDrops =
      b.flushDrops.droppedTotal := by
  unfold flushDrops
  split
  · exact h
  · split
    · simp [lastPublished]
    · exact h
    · exact h

/-- Nothing is pending after a flush that found room, or had nothing to do. -/
theorem flushDrops_pendingDrops (h : b.hasRoom = true ∨ b.pendingDrops = 0) :
    b.flushDrops.pendingDrops = 0 := by
  unfold flushDrops
  split
  · assumption
  · rename_i hp
    have hs : (b.supervisor.trySend b.frameDrop).2 = .sent := by
      rcases h with hr | hn
      · simpa [hasRoom] using hr
      · exact absurd hn hp
    split
    · rfl
    · rename_i hf
      rw [hf] at hs
      cases hs
    · rename_i hc
      rw [hc] at hs
      cases hs

theorem Reported.flush (h : Reported b) : Reported b.flushDrops := by
  obtain ⟨-, hr, hm⟩ := flushDrops_frame b
  refine ⟨flushDrops_pending h.pending, fun ho hq => ?_⟩
  rw [hr] at ho
  rw [hm] at hq
  exact flushDrops_pendingDrops (.inr (h.quiet ho hq))

theorem Reported.account (h : Reported b) (outc : Live.LiveSendOutcome) :
    Reported (b.account outc) := by
  cases outc with
  | enqueued =>
    unfold PcmBridge.account
    dsimp only
    split
    · refine ⟨?_, fun _ hm => ?_⟩
      · exact @flushDrops_pending { b with inEvictionRun := false } h.pending
      · exact @flushDrops_pendingDrops { b with inEvictionRun := false } (.inl hm)
    · exact h
  | replacedOldest =>
    have hn : b.lastPublished + UInt64.ofNat (b.pendingDrops + 1) = b.droppedTotal + 1 := by
      rw [← h.pending, UInt64.ofNat_add, UInt64.add_assoc]
      rfl
    unfold PcmBridge.account
    dsimp only
    split
    · rename_i hr
      exact ⟨hn, fun ho => by rw [hr] at ho; cases ho⟩
    · obtain ⟨-, hr, -⟩ := flushDrops_frame { b with
        droppedTotal := b.droppedTotal + 1
        pendingDrops := b.pendingDrops + 1
        inEvictionRun := true }
      refine ⟨flushDrops_pending hn, fun ho => ?_⟩
      rw [hr] at ho
      cases ho
  | disconnected =>
    have hf := h.flush
    exact ⟨hf.pending, hf.quiet⟩

/-- What was published and what is pending stay the total. -/
theorem Reported.step (h : Reported b) (ev : BridgeEvent) : Reported (b.step ev) := by
  cases ev with
  | forward =>
    unfold PcmBridge.step
    dsimp only
    split
    · exact h
    · exact ⟨h.pending, h.quiet⟩
  | sender =>
    unfold PcmBridge.step
    dsimp only
    split
    · exact @Reported.account { b with pair := b.pair.senderStep.1 } ⟨h.pending, h.quiet⟩ _
    · exact ⟨h.pending, h.quiet⟩
  | decoder =>
    unfold PcmBridge.step
    dsimp only
    split
    · exact ⟨h.pending, h.quiet⟩
    · exact h
  | supervisor =>
    unfold PcmBridge.step
    dsimp only
    split
    · exact ⟨h.pending, h.quiet⟩
    · exact h
  | finish =>
    unfold PcmBridge.step
    dsimp only
    split
    · exact ⟨h.flush.pending, h.flush.quiet⟩
    · exact h

/-- What is published is the total at that moment. -/
def Publishes (t : Mealy.Turn PcmBridge BridgeEvent Unit) : Prop :=
  t.after.published = t.before.published ∨
    t.after.published = t.before.published ++ [t.after.droppedTotal]

theorem flushDrops_publishes (b : PcmBridge) : b.flushDrops.published = b.published ∨
      b.flushDrops.published = b.published ++ [b.flushDrops.droppedTotal] := by
  unfold flushDrops
  split
  · exact .inl rfl
  · split
    · exact .inr rfl
    · exact .inl rfl
    · exact .inl rfl

theorem account_publishes (b : PcmBridge) (outc : Live.LiveSendOutcome) :
    (b.account outc).published = b.published ∨
      (b.account outc).published = b.published ++ [(b.account outc).droppedTotal] := by
  cases outc with
  | enqueued =>
    unfold account
    dsimp only
    split
    · exact flushDrops_publishes { b with inEvictionRun := false }
    · exact .inl rfl
  | replacedOldest =>
    unfold account
    dsimp only
    split
    · exact .inl rfl
    · exact flushDrops_publishes { b with
        droppedTotal := b.droppedTotal + 1
        pendingDrops := b.pendingDrops + 1
        inEvictionRun := true }
  | disconnected => exact flushDrops_publishes b

theorem turn_publishes (b : PcmBridge) (ev : BridgeEvent) :
    Publishes (Mealy.turn machine b ev) := by
  show (b.step ev).published = b.published ∨
    (b.step ev).published = b.published ++ [(b.step ev).droppedTotal]
  cases ev with
  | forward =>
    unfold step
    dsimp only
    split <;> exact .inl rfl
  | sender =>
    unfold step
    dsimp only
    split
    · exact account_publishes { b with pair := b.pair.senderStep.1 } _
    · exact .inl rfl
  | decoder ev | supervisor ev =>
    unfold step
    dsimp only
    split <;> exact .inl rfl
  | finish =>
    unfold step
    dsimp only
    split
    · exact flushDrops_publishes b
    · exact .inl rfl

/-! ## What is counted -/

/-- The step does not let the sender evict from a queue that the decoder has
emptied since the sender found it full. -/
def Unrobbed (b : PcmBridge) : BridgeEvent → Prop
  | .sender => b.pair.EvictsOne
  | _ => True

instance decidableUnrobbed (b : PcmBridge) : ∀ event, Decidable (Unrobbed b event)
  | .sender => inferInstanceAs (Decidable b.pair.EvictsOne)
  | .forward _ | .decoder _ | .supervisor _ | .finish => isTrue trivial

/-- The bridge counts what the sender has evicted. -/
structure Counting (b : PcmBridge) : Prop where
  tracked : b.pair.Tracked
  latest : b.pair.LatestOnly
  level : b.pair.stats.fullQueueDrops = b.droppedTotal + Live.Pair.owed b.pair.sender

theorem Counting.level_of_same (h : Counting b) {b' : PcmBridge}
    (hp : Live.Pair.SameSender b.pair b'.pair) (ht : b'.pair.Tracked)
    (ho : b'.droppedTotal = b.droppedTotal) : Counting b' where
  tracked := ht
  latest := fun kind frm hs => h.latest kind frm (by rwa [hp.sender] at hs)
  level := by rw [hp.stats, hp.sender, ho, h.level]

theorem account_pair (b : PcmBridge) (outc : Live.LiveSendOutcome) :
    (b.account outc).pair = b.pair := by
  cases outc with
  | enqueued =>
    unfold account
    dsimp only
    split
    · exact flushDrops_pair { b with inEvictionRun := false }
    · rfl
  | replacedOldest =>
    unfold account
    dsimp only
    split
    · rfl
    · exact flushDrops_pair { b with
        droppedTotal := b.droppedTotal + 1
        pendingDrops := b.pendingDrops + 1
        inEvictionRun := true }
  | disconnected => exact flushDrops_pair b

theorem account_droppedTotal (b : PcmBridge) (outc : Live.LiveSendOutcome) :
    (b.account outc).droppedTotal = b.droppedTotal + Live.Pair.replaced (.latest outc) := by
  cases outc with
  | enqueued =>
    rw [show Live.Pair.replaced (.latest .enqueued) = 0 from rfl, UInt64.add_zero]
    unfold account
    dsimp only
    split
    · exact (flushDrops_frame { b with inEvictionRun := false }).1
    · rfl
  | replacedOldest =>
    unfold account
    dsimp only
    split
    · rfl
    · exact (flushDrops_frame { b with
        droppedTotal := b.droppedTotal + 1
        pendingDrops := b.pendingDrops + 1
        inEvictionRun := true }).1
  | disconnected =>
    rw [show Live.Pair.replaced (.latest .disconnected) = 0 from rfl, UInt64.add_zero]
    exact (flushDrops_frame b).1

theorem Counting.sender (h : Counting b) (hn : b.pair.EvictsOne) : Counting (b.step .sender) := by
  have ht := Live.Pair.senderStep_tracked h.tracked
  have ha := Live.Pair.senderStep_latestOnly h.latest
  have hl := Live.Pair.senderStep_owed h.tracked h.latest hn h.level
  unfold PcmBridge.step
  dsimp only
  split
  · rename_i outc ho
    rw [ho] at hl
    refine ⟨?_, ?_, ?_⟩
    · rw [account_pair]
      exact ht
    · rw [account_pair]
      exact ha
    · rw [account_pair, account_droppedTotal]
      exact hl
  · rename_i ho
    have hnn : Live.Pair.replaced b.pair.senderStep.2 = 0 := by
      unfold Live.Pair.replaced
      split
      · rename_i heq
        exact absurd heq (ho _)
      · rfl
    rw [hnn, UInt64.add_zero] at hl
    exact ⟨ht, ha, hl⟩

/-- Each event counts an eviction once, unless robbed of it. -/
theorem Counting.step (b : PcmBridge) (ev : BridgeEvent) (he : Unrobbed b ev)
    (h : Counting b) : Counting (b.step ev) := by
  cases ev with
  | forward frm =>
    unfold PcmBridge.step
    dsimp only
    split
    · exact h
    · refine ⟨Live.Pair.submit_tracked h.tracked _ frm,
        Live.Pair.submit_latestOnly h.latest frm, ?_⟩
      have hl := h.level
      unfold Live.Pair.submit
      split
      · rename_i hi
        rw [hi.1] at hl
        exact hl
      · exact hl
  | sender => exact h.sender he
  | decoder ev =>
    unfold PcmBridge.step
    dsimp only
    split
    · rename_i hs
      exact h.level_of_same (Live.Pair.decoderSide_same hs)
        (Live.Pair.step_tracked b.pair ev h.tracked) rfl
    · exact h
  | supervisor =>
    unfold PcmBridge.step
    dsimp only
    split
    · exact h.level_of_same ⟨rfl, rfl⟩ h.tracked rfl
    · exact h
  | finish =>
    unfold PcmBridge.step
    dsimp only
    split
    · have hp : b.leave.pair = b.pair := flushDrops_pair b
      refine h.level_of_same ?_ ?_ (flushDrops_frame b).1
      · rw [hp]
        exact ⟨rfl, rfl⟩
      · rw [hp]
        exact h.tracked
    · exact h

variable (rate : UInt32)

theorem start_counting {capy : Nat} (h : 1 ≤ capy)
    (pref : AudioEndpointPreference) : Counting (start rate capy pref) where
  tracked := Live.Pair.createPair_tracked rate h
  latest := by rintro kind frm (heq | heq) <;> cases heq
  level := rfl

theorem start_reported (capy : Nat)
    (pref : AudioEndpointPreference) : Reported (start rate capy pref) where
  pending := rfl
  quiet := fun _ _ => rfl

theorem Reported.lastPublished_eq (h : Reported b) (ho : b.inEvictionRun = false)
    (hr : b.roomAtEnd = true) : b.lastPublished = b.droppedTotal := by
  have hp := h.pending
  rw [h.quiet ho hr] at hp
  simpa using hp

/-- Every drop that is published carries the total of that moment, and the
last one is the bridge's total when a run has ended with room in the queue. The
total is the sender's between two calls, if no eviction found the queue empty. -/
theorem drops_counted (sampleRate : UInt32) (capacity : Nat) (hcapacity : 1 ≤ capacity)
    (preference : AudioEndpointPreference) (events : List BridgeEvent) :
    (∀ t ∈ Mealy.trace machine (start sampleRate capacity preference) events, Publishes t) ∧
      (let b := Mealy.run machine (start sampleRate capacity preference) events
       (b.inEvictionRun = false → b.roomAtEnd = true → b.lastPublished = b.droppedTotal) ∧
         (Mealy.Along machine Unrobbed (start sampleRate capacity preference) events →
           b.pair.sender = .idle → b.droppedTotal = b.pair.stats.fullQueueDrops)) := by
  refine ⟨?_, ?_, fun ha hi => ?_⟩
  · exact @Mealy.forall_turn PcmBridge BridgeEvent Unit machine (fun _ => True) Publishes
      (fun _ _ h => h) (fun b ev _ => turn_publishes b ev) events _ trivial
  · have hr := @Mealy.run_invariant PcmBridge BridgeEvent Unit machine Reported
      (fun _ ev h => h.step ev) _ (start_reported sampleRate capacity preference) events
    exact hr.lastPublished_eq
  · have hc := Mealy.along_invariant Counting.step events ha
      (start_counting sampleRate hcapacity preference)
    have hl := hc.level
    rw [hi] at hl
    simpa [Live.Pair.owed] using hl.symm

def aFrame : Live.LivePcmFrame := ⟨[1, 2], 2, 44100⟩

/-- Two frames into a queue of one: the second call finds it full. -/
def fillUp : List BridgeEvent :=
  [.forward aFrame, .sender, .sender, .forward aFrame, .sender, .sender]

/-- The decoder takes what is in the queue. -/
def emptyIt : List BridgeEvent := [.decoder (.decode ⟨2, 1⟩), .decoder .receive]

/-- One frame is evicted, and the next finds room. -/
def evictAndRest : List BridgeEvent :=
  fillUp ++ [.sender, .sender] ++ emptyIt ++ [.forward aFrame, .sender, .sender]

theorem drops_counted_evicted :
    (Mealy.run machine (start 44100 1 .systemDefault) evictAndRest).lastPublished =
        (Mealy.run machine (start 44100 1 .systemDefault) evictAndRest).droppedTotal ∧
      (Mealy.run machine (start 44100 1 .systemDefault) evictAndRest).droppedTotal =
        (Mealy.run machine (start 44100 1 .systemDefault)
          evictAndRest).pair.stats.fullQueueDrops := by
  have hc : 1 ≤ 1 := by decide
  obtain ⟨-, hp, hn⟩ := drops_counted 44100 1 hc .systemDefault evictAndRest
  refine ⟨hp ?_ ?_, hn ?_ ?_⟩ <;> decide

/-- The decoder empties the queue before the eviction: one drop is counted and
published, and no frame was dropped. -/
theorem drop_of_nothing :
    let b := Mealy.run machine (start 44100 1 .systemDefault)
      (fillUp ++ emptyIt ++ [.sender, .sender])
    b.pair.sender = .idle ∧ b.droppedTotal = 1 ∧ b.lastPublished = 1 ∧
      b.pair.stats.fullQueueDrops = 0 := by
  decide

end OpenAirCast.Backend.PcmBridge
