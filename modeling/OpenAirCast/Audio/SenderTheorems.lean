/-
Audio.SenderTheorems — where the sender thread and the inline
loop send the same.

What either of them sends is cut into the part for each sender
(`forSender`): a sync packet and an audio packet of every frame. The audio
packets go the same way, the sync packets where `OneRoute` says so. Which
frames go out at all is a matter of the burst buffer (`transmitted_held`)
and of the paused loop (`heard_eq_iff`).
-/
import OpenAirCast.Audio.PlaybackTheorems

namespace OpenAirCast.Audio

open List Option

variable {frame : PreparedFrame} {target : SendTarget} {sent sent' : List Sent}
  {socket : UdpSocket} {i : Nat}

/-! ## The part for one sender -/

/-- What is sent for the sender at place `i`. -/
def forSender (i : Nat) (sent : List Sent) : List Sent := sent.filter (·.sender == i)

theorem forSender_append (i : Nat) (front back : List Sent) :
    forSender i (front ++ back) = forSender i front ++ forSender i back :=
  filter_append ..

theorem forSender_flatMap {α : Type} (i : Nat) (xs : List α) (f : α → List Sent) :
    forSender i (xs.flatMap f) = xs.flatMap (fun x => forSender i (f x)) :=
  filter_flatMap ..

theorem forSender_filterMap_zipIdx {α : Type} (give : α → Nat → Option Sent)
    (hp : ∀ x j sent, give x j = some sent → sent.sender = j) (i : Nat) (xs : List α) :
    ∀ n, forSender i ((xs.zipIdx n).filterMap (fun ent => give ent.1 ent.2)) =
      if n ≤ i then (xs[i - n]?.bind (give · i)).toList else [] := by
  induction xs with
  | nil =>
    intro n
    split <;> rfl
  | cons x rest ih =>
    intro n
    have hf : forSender i (give x n).toList = if n = i then (give x i).toList else [] := by
      cases hg : give x n with
      | none =>
        split
        · rename_i heq
          rw [← heq, hg]
          rfl
        · rfl
      | some sent =>
        have hs := hp x n sent hg
        split
        · rename_i heq
          rw [← heq, hg]
          simp [forSender, hs, heq]
        · rename_i hne
          simp [forSender, hs, hne]
    have hc : ((x :: rest).zipIdx n).filterMap (fun ent => give ent.1 ent.2) = (give x n).toList
          ++ (rest.zipIdx (n + 1)).filterMap (fun ent => give ent.1 ent.2) := by
      rw [zipIdx_cons]
      cases hg : give x n <;> simp [hg]
    rw [hc, forSender_append, hf, ih (n + 1)]
    rcases Nat.lt_trichotomy n i with _ | heq | _
    · rw [if_neg (by omega), if_pos (by omega), if_pos (by omega), nil_append]
      have hi : i - n = (i - (n + 1)) + 1 := by omega
      rw [hi, getElem?_cons_succ]
    · rw [if_pos heq, if_neg (by omega), if_pos (by omega), heq, Nat.sub_self]
      simp
    · rw [if_neg (by omega), if_neg (by omega), if_neg (by omega)]
      rfl

variable {sndrs : List (RtpSender κ)} {sender : RtpSender κ} {ent : RtpSender κ × Nat} {done : Unit}
  {ress : SendResults}

section Routes

variable {κ : Type}

theorem sendTarget_senderIndex
    (h : sendTarget sender i = some target) : target.senderIndex = i := by
  unfold sendTarget at h
  obtain ⟨r, -, rfl⟩ := map_eq_some_iff.mp h
  rfl

theorem sendSync_sender {sent : Sent}
    (h : target.sendSync frame = some sent) : sent.sender = target.senderIndex := by
  obtain ⟨_, -, rfl⟩ := map_eq_some_iff.mp h
  rfl

theorem sendAudio_sender {sent : Sent}
    (h : target.sendAudio frame = some sent) : sent.sender = target.senderIndex := by
  obtain ⟨_, -, rfl⟩ := map_eq_some_iff.mp h
  rfl

theorem forSender_transmit (sndrs : List (RtpSender κ)) (frame : PreparedFrame)
    {sender : RtpSender κ} (hn : sndrs[i]? = some sender) :
    forSender i (transmit (buildSendTargets sndrs) frame) =
      ((sendTarget sender i).bind (·.sendSync frame)).toList
        ++ ((sendTarget sender i).bind (·.sendAudio frame)).toList := by
  unfold transmit buildSendTargets
  rw [forSender_append, filterMap_filterMap, filterMap_filterMap,
    forSender_filterMap_zipIdx (fun s j => (sendTarget s j).bind (·.sendSync frame)),
    forSender_filterMap_zipIdx (fun s j => (sendTarget s j).bind (·.sendAudio frame)),
    if_pos (Nat.zero_le i), if_pos (Nat.zero_le i), Nat.sub_zero, hn]
  · rfl
  · intro s j sent h
    obtain ⟨target, ht, hs⟩ := bind_eq_some_iff.mp h
    exact (sendAudio_sender hs).trans (sendTarget_senderIndex ht)
  · intro s j sent h
    obtain ⟨_, ht, hs⟩ := bind_eq_some_iff.mp h
    exact (sendSync_sender hs).trans (sendTarget_senderIndex ht)

/-! ## The inline loop -/

def inlineSync (frame : PreparedFrame) (sender : RtpSender κ) (i : Nat) : Option Sent :=
  frame.syncPackets[i]?.join.bind (fun sync => sender.controlVia.map (fun socket =>
    ⟨i, socket, sender.controlTarget, sync⟩))

def inlineAudio (frame : PreparedFrame) (sender : RtpSender κ) (i : Nat) : Option Sent :=
  frame.wirePackets[i]?.bind (fun wire => sender.socket.map (fun socket =>
    ⟨i, socket, sender.dest, wire⟩))

theorem sendSyncInline_ok (h : sendSyncInline frame ress sent ent = (sent', .ok done)) :
    sent' = sent ++ (inlineSync frame ent.1 ent.2).toList := by
  unfold sendSyncInline at h
  unfold inlineSync
  cases hp : frame.syncPackets[ent.2]? with
  | none =>
    rw [hp] at h
    cases h
    simp
  | some packet =>
    rw [hp] at h
    cases packet with
    | none =>
      cases h
      simp
    | some =>
      unfold RtpSender.sendPreparedSync at h
      cases hv : ent.1.controlVia with
      | none =>
        rw [hv] at h
        cases h
      | some =>
        rw [hv] at h
        obtain ⟨rfl, -⟩ := Prod.mk.inj h
        rfl

theorem sendAudioInline_ok (h : sendAudioInline frame ress sent ent = (sent', .ok done)) :
    sent' = sent ++ (inlineAudio frame ent.1 ent.2).toList := by
  unfold sendAudioInline at h
  unfold inlineAudio
  cases hp : frame.wirePackets[ent.2]? with
  | none =>
    rw [hp] at h
    cases h
    simp
  | some =>
    rw [hp] at h
    unfold RtpSender.sendPreparedAudio at h
    cases hs : ent.1.socket with
    | none =>
      rw [hs] at h
      cases h
    | some =>
      rw [hs] at h
      obtain ⟨rfl, -⟩ := Prod.mk.inj h
      rfl

/-- What a frame makes the inline loop send. -/
def inlineFrame (senders : List (RtpSender κ)) (frame : PreparedFrame) : List Sent :=
  senders.zipIdx.filterMap (fun entry => inlineSync frame entry.1 entry.2)
    ++ senders.zipIdx.filterMap (fun entry => inlineAudio frame entry.1 entry.2)

theorem sendFrameInline_ok {frame : PreparedFrame × SendResults}
    (h : sendFrameInline sndrs sent frame = (sent', .ok done)) :
    sent' = sent ++ inlineFrame sndrs frame.1 := by
  unfold sendFrameInline at h
  split at h
  · cases h
  · rename_i synced dones hy
    split at h
    · cases h
    · rename_i last dones' ha
      cases h
      unfold inlineFrame
      rw [inOrder_collect (fun _ _ _ _ hs => sendAudioInline_ok hs) ha,
        inOrder_collect (fun _ _ _ _ hs => sendSyncInline_ok hs) hy,
        filterMap_eq_flatMap_toList, filterMap_eq_flatMap_toList, append_assoc]

/-- Without a failing send the inline loop sends every frame. -/
theorem sendInline_ok {frames : List (PreparedFrame × SendResults)} {dones : List Unit}
    (h : sendInline sndrs frames = (sent, .ok dones)) :
    sent = (frames.map (·.1)).flatMap (inlineFrame sndrs) := by
  rw [flatMap_map]
  exact inOrder_collect (fun _ _ _ _ hs => sendFrameInline_ok hs) h

theorem forSender_inlineFrame (sndrs : List (RtpSender κ)) (frame : PreparedFrame)
    {sender : RtpSender κ} (hn : sndrs[i]? = some sender) :
    forSender i (inlineFrame sndrs frame) =
      (inlineSync frame sender i).toList ++ (inlineAudio frame sender i).toList := by
  unfold inlineFrame
  rw [forSender_append, forSender_filterMap_zipIdx (inlineSync frame),
    forSender_filterMap_zipIdx (inlineAudio frame), if_pos (Nat.zero_le i),
    if_pos (Nat.zero_le i), Nat.sub_zero, hn]
  · rfl
  · intro s j sent h
    obtain ⟨_, -, hs⟩ := bind_eq_some_iff.mp h
    obtain ⟨socket, -, rfl⟩ := map_eq_some_iff.mp hs
    rfl
  · intro s j sent h
    obtain ⟨_, -, hs⟩ := bind_eq_some_iff.mp h
    obtain ⟨_, -, rfl⟩ := map_eq_some_iff.mp hs
    rfl

/-! ## Routes -/

/-- Socket and destination of the control channel come out the same taken
as a pair or each on its own: both are set, or what is set is that of the
data channel. -/
def OneRoute (sender : RtpSender κ) : Prop :=
  (sender.controlSocket = none ∨ sender.controlSocket = sender.socket ∨
    sender.controlDest.isSome = true) ∧
  (sender.controlDest = none ∨ sender.controlDest = some sender.dest ∨
    sender.controlSocket.isSome = true)

/-- The thread's route for a sync packet against that of the inline loop. -/
theorem oneRoute_iff (hs : sender.socket = some socket) : OneRoute sender ↔
      (sender.cloneControlSocket.map (·.1)).getD socket = sender.controlSocket.getD socket ∧
      (sender.cloneControlSocket.map (·.2)).getD sender.dest = sender.controlTarget := by
  unfold OneRoute RtpSender.cloneControlSocket RtpSender.controlTarget
  rw [hs]
  cases sender.controlSocket <;> cases sender.controlDest <;> simp [eq_comm]

theorem sendTarget_eq (hs : sender.socket = some socket) (i : Nat) : sendTarget sender i = some
      { dataSocket := socket, dataDest := sender.dest, senderIndex := i
        controlSocket := sender.cloneControlSocket.map (·.1)
        controlDest := sender.cloneControlSocket.map (·.2) } := by
  unfold sendTarget RtpSender.cloneDataSocket
  rw [hs]
  rfl

/-- For one sender and one frame: the audio packet goes the same way, and
the sync packet, if there is one, exactly on one route. -/
theorem frame_agrees_iff {sndrs : List (RtpSender κ)}
    {sender : RtpSender κ} (hsender : sndrs[i]? = some sender)
    (hsocket : sender.socket = some socket) :
    forSender i (transmit (buildSendTargets sndrs) frame) = forSender i (inlineFrame sndrs frame) ↔
      (∀ sync, frame.syncPackets[i]? = some (some sync) → OneRoute sender) := by
  rw [forSender_transmit sndrs frame hsender, forSender_inlineFrame sndrs frame hsender,
    sendTarget_eq hsocket, oneRoute_iff hsocket]
  have haudio : (({ dataSocket := socket, dataDest := sender.dest, senderIndex := i
                    controlSocket := sender.cloneControlSocket.map (·.1)
                    controlDest := sender.cloneControlSocket.map (·.2) } : SendTarget).sendAudio
      frame) = inlineAudio frame sender i := by
    unfold SendTarget.sendAudio SendTarget.packetFor inlineAudio
    rw [hsocket]
    cases frame.wirePackets[i]? <;> rfl
  rw [bind_some, bind_some, haudio, append_left_inj]
  have hv : sender.controlVia = some (sender.controlSocket.getD socket) := by
    unfold RtpSender.controlVia
    rw [hsocket]
    cases sender.controlSocket <;> rfl
  unfold SendTarget.sendSync SendTarget.packetFor inlineSync
  rw [hv]
  cases hpacket : frame.syncPackets[i]? with
  | none => simp
  | some packet =>
    cases packet with
    | none => simp
    | some => simp

end Routes

/-! ## Which frames go out -/

/-- The frames taken off the channel before a stop. -/
def framesTaken : List SenderMessage → List PreparedFrame
  | [] => []
  | .stop :: _ => []
  | .packet frame :: rest => frame :: framesTaken rest
  | .pause :: rest => framesTaken rest
  | .resume :: rest => framesTaken rest

/-- Those of them that the thread takes while it is running. -/
def framesHeard : SenderMode → List SenderMessage → List PreparedFrame
  | _, [] => []
  | .running, .packet frame :: rest => frame :: framesHeard .running rest
  | mode, message :: rest => framesHeard (mode.after message) rest

/-- No frame is taken in the paused loop. -/
def NeverWhilePaused (messages : List SenderMessage) : Prop :=
  ∀ before frame, before ++ [.packet frame] <+: messages → .stop ∉ before →
    before.foldl SenderMode.after .running ≠ .paused

variable (burstSize : Nat)

/-- A burst of this size has no frame left over after `n` of them: the first
goes out at once, the others in full bursts. -/
def NothingHeld (n : Nat) : Prop := n = 0 ∨ (n - 1) % max burstSize 1 = 0

variable (msgs : List SenderMessage)

theorem framesHeard_exited : framesHeard .exited msgs = [] := by
  induction msgs with
  | nil => rfl
  | cons msg _ ih => cases msg <;> exact ih

theorem receive_running_packet (t : SenderThread) (burst : Nat) (frame : PreparedFrame)
    (h : t.mode = .running) :
    t.receive burst (.packet frame) = t.takePacket burst frame := by
  unfold SenderThread.receive
  rw [h]

variable {msg : SenderMessage}

theorem receive_quiet (t : SenderThread) (burst : Nat)
    (h : t.mode = .running → ∀ frame, msg ≠ .packet frame) :
    (t.receive burst msg).2 = [] ∧ (t.receive burst msg).1.burstBuffer = t.burstBuffer ∧
      (t.receive burst msg).1.started = t.started := by
  unfold SenderThread.receive
  cases hm : t.mode <;> cases msg <;> try exact ⟨rfl, rfl, rfl⟩
  exact absurd rfl (h hm _)

theorem framesHeard_quiet {mode : SenderMode}
    (h : mode = .running → ∀ frame, msg ≠ .packet frame) (rest : List SenderMessage) :
    framesHeard mode (msg :: rest) = framesHeard (mode.after msg) rest := by
  cases mode <;> cases msg <;> try rfl
  exact absurd rfl (h rfl _)

/-- A message is a packet that a running thread takes, or none of its
frames. -/
theorem heard_or_quiet (mode : SenderMode) (msg : SenderMessage) :
    (mode = .running ∧ ∃ frame, msg = .packet frame) ∨
      (mode = .running → ∀ frame, msg ≠ .packet frame) := by
  by_cases h : mode = .running ∧ ∃ frame, msg = .packet frame
  · exact .inl h
  · exact .inr (fun hm frame hp => h ⟨hm, frame, hp⟩)

def threadStep (t : SenderThread) (message : SenderMessage) :
    SenderThread × List PreparedFrame := t.receive burstSize message

theorem takePacket_conserves (t : SenderThread) (burst : Nat) (frame : PreparedFrame) :
    (t.takePacket burst frame).2 ++ (t.takePacket burst frame).1.burstBuffer =
      t.burstBuffer ++ [frame] := by
  unfold SenderThread.takePacket
  dsimp only
  split
  · exact nil_append _
  · exact append_nil _

variable (burst : Nat)

/-- What is transmitted, and what is still held, are the frames heard. -/
theorem transmitted_held (msgs : List SenderMessage) : ∀ t : SenderThread,
      (Mealy.outputs (threadStep burst) t msgs).flatten
        ++ (Mealy.run (threadStep burst) t msgs).burstBuffer =
      t.burstBuffer ++ framesHeard t.mode msgs := by
  induction msgs with
  | nil => exact fun t => (append_nil _).symm
  | cons msg rest ih =>
    intro t
    have hr := ih (t.receive burst msg).1
    show ((t.receive burst msg).2
      ++ (Mealy.outputs (threadStep burst) (t.receive burst msg).1 rest).flatten)
      ++ (Mealy.run (threadStep burst) (t.receive burst msg).1 rest).burstBuffer = _
    rw [append_assoc, hr, t.receive_mode]
    rcases heard_or_quiet t.mode msg with ⟨hm, frame, rfl⟩ | hq
    · rw [receive_running_packet t burst frame hm, ← append_assoc,
        takePacket_conserves, hm, append_assoc]
      rfl
    · obtain ⟨ho, hb, -⟩ := receive_quiet t burst hq
      rw [ho, hb, framesHeard_quiet hq, nil_append]

/-- How many frames a thread holds after `n` more of them. -/
def heldAfter (t : SenderThread) (n : Nat) : Nat :=
  if t.started then (t.burstBuffer.length + n) % max burstSize 1
  else if n = 0 then 0 else (n - 1) % max burstSize 1

/-- Less than a burst is held, and nothing before the first frame. -/
def Bounded (t : SenderThread) : Prop :=
  t.burstBuffer.length < max burstSize 1 ∧ (t.started = false → t.burstBuffer = [])

theorem takePacket_bounded {t : SenderThread} {burst : Nat} (h : Bounded burst t)
    (frame : PreparedFrame) :
    Bounded burst (t.takePacket burst frame).1 ∧
      ∀ n, heldAfter burst (t.takePacket burst frame).1 n = heldAfter burst t (n + 1) := by
  have hpos : 0 < max burst 1 := by omega
  unfold SenderThread.takePacket
  dsimp only
  split
  · rename_i hh
    refine ⟨⟨hh.1, fun hn => ?_⟩, fun n => ?_⟩
    · rw [hh.2] at hn
      cases hn
    · simp only [heldAfter, hh.2, if_true, length_append, length_singleton]
      rw [Nat.add_right_comm, Nat.add_assoc]
  · rename_i hg
    refine ⟨⟨hpos, fun _ => rfl⟩, fun n => ?_⟩
    unfold heldAfter
    by_cases hs : t.started = true
    · have hf : t.burstBuffer.length + 1 = max burst 1 := by
        have hlt := h.1
        have hn : ¬ (t.burstBuffer ++ [frame]).length < max burst 1 := fun hsh => hg ⟨hsh, hs⟩
        rw [length_append, length_singleton] at hn
        omega
      rw [if_pos rfl, if_pos hs, Nat.add_comm n 1, ← Nat.add_assoc, hf,
        Nat.add_mod_left, length_nil, Nat.zero_add]
    · rw [if_pos rfl, if_neg hs, if_neg (Nat.succ_ne_zero n), length_nil,
        Nat.zero_add, Nat.add_sub_cancel]

theorem held_length (msgs : List SenderMessage) :
    ∀ t : SenderThread, Bounded burst t → (Mealy.run (threadStep burst) t msgs).burstBuffer.length =
        heldAfter burst t (framesHeard t.mode msgs).length := by
  induction msgs with
  | nil =>
    intro t h
    show t.burstBuffer.length = heldAfter burst t 0
    unfold heldAfter
    split
    · exact (Nat.mod_eq_of_lt h.1).symm
    · rename_i hn
      rw [h.2 (Bool.eq_false_iff.mpr hn)]
      rfl
  | cons msg rest ih =>
    intro t h
    show (Mealy.run (threadStep burst) (t.receive burst msg).1 rest).burstBuffer.length = _
    rcases heard_or_quiet t.mode msg with ⟨hm, frame, rfl⟩ | hq
    · obtain ⟨hb, hh⟩ := takePacket_bounded h frame
      rw [ih _ (by rwa [receive_running_packet t burst frame hm]), t.receive_mode,
        receive_running_packet t burst frame hm, hh, hm]
      rfl
    · obtain ⟨-, hf, hs⟩ := receive_quiet t burst hq
      have hb : Bounded burst (t.receive burst msg).1 := by
        unfold Bounded
        rw [hf, hs]
        exact h
      rw [ih _ hb, t.receive_mode, framesHeard_quiet hq]
      unfold heldAfter
      rw [hf, hs]

/-- The thread holds nothing in the end. -/
theorem held_eq_nil_iff (msgs : List SenderMessage) :
    (Mealy.run (threadStep burst) {} msgs).burstBuffer = [] ↔
      NothingHeld burst (framesHeard .running msgs).length := by
  have hlen := held_length burst msgs {}
    ⟨Nat.lt_of_lt_of_le Nat.zero_lt_one (Nat.le_max_right ..), fun _ => rfl⟩
  rw [← length_eq_zero_iff, hlen]
  unfold heldAfter NothingHeld
  simp only [Bool.false_eq_true, if_false]
  split
  · rename_i hz
    exact iff_of_true rfl (.inl hz)
  · rename_i hpos
    exact (or_iff_right hpos).symm

theorem framesHeard_sublist : ∀ mode, (framesHeard mode msgs).Sublist (framesTaken msgs) := by
  induction msgs with
  | nil => exact fun mode => by cases mode <;> exact .refl _
  | cons msg rest ih =>
    intro mode
    cases msg with
    | packet =>
      cases mode with
      | running => exact (ih .running).cons_cons _
      | paused => exact (ih .paused).cons _
      | exited => exact (ih .exited).cons _
    | pause => cases mode <;> exact ih _
    | resume => cases mode <;> exact ih _
    | stop => cases mode <;> exact (framesHeard_exited rest).symm ▸ nil_sublist _

/-- Every frame taken is heard exactly when none is taken in the paused
loop. -/
theorem framesHeard_eq_iff : ∀ mode, mode ≠ .exited → (framesHeard mode msgs = framesTaken msgs ↔
      ∀ pre frame, pre ++ [.packet frame] <+: msgs → .stop ∉ pre →
        pre.foldl SenderMode.after mode ≠ .paused) := by
  induction msgs with
  | nil =>
    intro mode _
    refine iff_of_true (by cases mode <;> rfl) (fun pre frame hp => ?_)
    simp at hp
  | cons msg rest ih =>
    intro mode hm
    -- A packet in front of a prefix, or the prefix that is this packet.
    have hs : (∀ pre frame, pre ++ [.packet frame] <+: msg :: rest →
          .stop ∉ pre → pre.foldl SenderMode.after mode ≠ .paused) ↔
        (∀ frame, msg = .packet frame → mode ≠ .paused) ∧
        (msg ≠ .stop → ∀ pre frame, pre ++ [.packet frame] <+: rest →
          .stop ∉ pre → pre.foldl SenderMode.after (mode.after msg) ≠ .paused) := by
      constructor
      · intro h
        refine ⟨fun frame heq => ?_, fun hst pre frame hp hn => ?_⟩
        · rw [heq] at h
          exact h [] frame ⟨rest, rfl⟩ not_mem_nil
        · refine h (msg :: pre) frame (cons_prefix_cons.mpr ⟨rfl, hp⟩) ?_
          rw [mem_cons, not_or]
          exact ⟨Ne.symm hst, hn⟩
      · rintro ⟨hf, hr⟩ pre frame hp hn
        cases pre with
        | nil =>
          obtain ⟨heq, -⟩ := cons_prefix_cons.mp hp
          exact hf frame heq.symm
        | cons _ pre =>
          obtain ⟨rfl, hb⟩ := cons_prefix_cons.mp hp
          rw [mem_cons, not_or] at hn
          exact hr (Ne.symm hn.1) pre frame hb hn.2
    rw [hs]
    cases msg with
    | stop =>
      refine iff_of_true ?_ ⟨fun frame h => (by cases h), fun h => absurd rfl h⟩
      cases mode <;> exact framesHeard_exited rest
    | packet frame =>
      have ha : mode.after (.packet frame) = mode := mode.after_packet frame
      rw [ha]
      cases mode with
      | exited => exact absurd rfl hm
      | running =>
        have hne : SenderMode.running ≠ .paused := by decide
        have hnotSto : SenderMessage.packet frame ≠ .stop := by simp
        show frame :: framesHeard .running rest = frame :: framesTaken rest ↔ _
        rw [List.cons.injEq, and_iff_right rfl, ih .running hm]
        exact ⟨fun h => ⟨fun _ _ => hne, fun _ => h⟩, fun h => h.2 hnotSto⟩
      | paused =>
        refine iff_of_false (fun heq => ?_) (fun h => h.1 frame rfl rfl)
        have hsh := (framesHeard_sublist rest .paused).length_le
        have hsm := congrArg List.length heq
        have hl : (framesTaken (.packet frame :: rest)).length =
            (framesTaken rest).length + 1 := rfl
        have hh : framesHeard .paused (.packet frame :: rest) = framesHeard .paused rest := rfl
        rw [hl, hh] at hsm
        omega
    | pause =>
      have ha : mode.after .pause ≠ .exited := by
        cases mode with
        | exited => exact absurd rfl hm
        | running | paused => decide
      have ht : framesTaken (.pause :: rest) = framesTaken rest := rfl
      rw [framesHeard_quiet (fun _ frame h => by cases h), ht, ih _ ha]
      exact ⟨fun h => ⟨fun frame heq => (by cases heq), fun _ => h⟩, fun h => h.2 (by simp)⟩
    | resume =>
      have ha : mode.after .resume ≠ .exited := by
        cases mode with
        | exited => exact absurd rfl hm
        | running | paused => decide
      have ht : framesTaken (.resume :: rest) = framesTaken rest := rfl
      rw [framesHeard_quiet (fun _ frame h => by cases h), ht, ih _ ha]
      exact ⟨fun h => ⟨fun frame heq => (by cases heq), fun _ => h⟩, fun h => h.2 (by simp)⟩

/-- The thread transmits nothing but frames it has taken. -/
theorem transmittedFrames_subset (msgs : List SenderMessage) :
    transmittedFrames burst msgs ⊆ framesTaken msgs := by
  have hc : (Mealy.outputs (threadStep burst) {} msgs).flatten
      ++ (Mealy.run (threadStep burst) {} msgs).burstBuffer =
      framesHeard .running msgs := transmitted_held burst msgs {}
  intro frame hf
  refine (framesHeard_sublist msgs .running).subset ?_
  rw [← hc]
  exact mem_append_left _ hf

/-- The thread transmits every frame it takes, once, exactly when its burst
buffer ends up empty and no frame is taken in the paused loop. -/
theorem transmittedFrames_eq_iff (msgs : List SenderMessage) :
    transmittedFrames burst msgs = framesTaken msgs ↔
      NothingHeld burst (framesTaken msgs).length ∧ NeverWhilePaused msgs := by
  have hc : (Mealy.outputs (threadStep burst) {} msgs).flatten
      ++ (Mealy.run (threadStep burst) {} msgs).burstBuffer =
      framesHeard .running msgs := transmitted_held burst msgs {}
  have hsh := (framesHeard_sublist msgs .running).length_le
  have hr := framesHeard_eq_iff msgs .running (by decide)
  have ht := congrArg List.length hc
  rw [length_append] at ht
  have hb : transmittedFrames burst msgs = framesTaken msgs ↔
      (Mealy.run (threadStep burst) {} msgs).burstBuffer = [] ∧
        framesHeard .running msgs = framesTaken msgs := by
    constructor
    · intro hall
      have he : (Mealy.run (threadStep burst) {} msgs).burstBuffer = [] := by
        have hlen : (Mealy.outputs (threadStep burst) {} msgs).flatten.length =
            (framesTaken msgs).length := congrArg List.length hall
        rw [← length_eq_zero_iff]
        omega
      rw [he, append_nil] at hc
      exact ⟨he, hc.symm.trans hall⟩
    · rintro ⟨he, hs⟩
      rw [he, append_nil, hs] at hc
      exact hc
  rw [hb, held_eq_nil_iff, hr]
  constructor
  · rintro ⟨hh, hn⟩
    rw [← hr.mpr hn]
    exact ⟨hh, hn⟩
  · rintro ⟨hh, hn⟩
    rw [← hr.mpr hn] at hh
    exact ⟨hh, hn⟩

/-! ## Thread and inline loop -/

section Agreement

variable {κ : Type}

/-- Every packet of a frame goes out of its own sender's sockets and to its
own sender's addresses. -/
def IsOwn (senders : List (RtpSender κ)) (frame : PreparedFrame) (sent : Sent) : Prop :=
  ∃ sender, senders[sent.sender]? = some sender ∧
    (sent.datagram.socket ∈ sender.socket ∨ sent.datagram.socket ∈ sender.controlSocket) ∧
    (sent.datagram.dest = sender.dest ∨ sent.datagram.dest ∈ sender.controlDest) ∧
    (frame.wirePackets[sent.sender]? = some sent.datagram.bytes ∨
      frame.syncPackets[sent.sender]? = some (some sent.datagram.bytes))

theorem mem_buildSendTargets (h : target ∈ buildSendTargets sndrs) :
    ∃ sender, sndrs[target.senderIndex]? = some sender ∧
      target.dataSocket ∈ sender.socket ∧ target.dataDest = sender.dest ∧
      target.controlSocket = sender.cloneControlSocket.map (·.1) ∧
      target.controlDest = sender.cloneControlSocket.map (·.2) := by
  obtain ⟨⟨sender, i⟩, he, ht⟩ := mem_filterMap.mp h
  have hn : sndrs[i]? = some sender := mem_zipIdx_iff_getElem?.mp he
  replace ht : sendTarget sender i = some target := ht
  cases hs : sender.socket with
  | none =>
    unfold sendTarget RtpSender.cloneDataSocket at ht
    rw [hs] at ht
    cases ht
  | some =>
    rw [sendTarget_eq hs] at ht
    cases ht
    exact ⟨sender, hn, hs, rfl, rfl, rfl⟩

theorem cloneControlSocket_eq {pair : UdpSocket × SocketAddr}
    (h : sender.cloneControlSocket = some pair) :
    sender.controlSocket = some pair.1 ∧ sender.controlDest = some pair.2 := by
  unfold RtpSender.cloneControlSocket at h
  split at h
  · rename_i socket dest hs hd
    cases h
    exact ⟨hs, hd⟩
  · cases h

theorem transmit_own {sent : Sent}
    (h : sent ∈ transmit (buildSendTargets sndrs) frame) : IsOwn sndrs frame sent := by
  rcases mem_append.mp h with hy | ha
  · obtain ⟨target, ht, hs⟩ := mem_filterMap.mp hy
    obtain ⟨sender, hn, hc, hd, hconSoc, hconDes⟩ := mem_buildSendTargets ht
    obtain ⟨sync, hp, rfl⟩ := map_eq_some_iff.mp hs
    have hb : frame.syncPackets[target.senderIndex]? = some (some sync) := join_eq_some_iff.mp hp
    refine ⟨sender, hn, ?_, ?_, .inr hb⟩
    · dsimp only
      rw [hconSoc]
      cases hr : sender.cloneControlSocket with
      | none => exact .inl hc
      | some => exact .inr (cloneControlSocket_eq hr).1
    · dsimp only
      rw [hconDes]
      cases hr : sender.cloneControlSocket with
      | none => exact .inl hd
      | some => exact .inr (cloneControlSocket_eq hr).2
  · obtain ⟨_, ht, hs⟩ := mem_filterMap.mp ha
    obtain ⟨sender, hn, hc, hd, -, -⟩ := mem_buildSendTargets ht
    obtain ⟨_, hp, rfl⟩ := map_eq_some_iff.mp hs
    exact ⟨sender, hn, .inl hc, .inl hd, .inl hp⟩

/-- Nothing that the thread sends is another sender's. -/
theorem senderThreadMain_own {burst : Nat} {msgs : List SenderMessage} {sent : Sent}
    (h : sent ∈ senderThreadMain (buildSendTargets sndrs) burst msgs) :
    ∃ frame ∈ framesTaken msgs, IsOwn sndrs frame sent := by
  obtain ⟨frame, hf, htr⟩ := mem_flatMap.mp h
  exact ⟨frame, transmittedFrames_subset burst msgs hf, transmit_own htr⟩

/-- What the thread sends against what the inline loop has sent of the same
frames. -/
structure AgreesWithInline (senders : List (RtpSender κ)) (burstSize : Nat)
    (messages : List SenderMessage) (inline : List Sent) : Prop where
  /-- The same packets, the same way and in the same order. -/
  same : ∀ (i : Nat) (sender : RtpSender κ), senders[i]? = some sender →
    sender.socket.isSome = true →
      forSender i (senderThreadMain (buildSendTargets senders) burstSize messages) =
        forSender i inline
  /-- No target gets the packet of another sender. -/
  own : ∀ sent ∈ senderThreadMain (buildSendTargets senders) burstSize messages,
    ∃ frame ∈ framesTaken messages, IsOwn senders frame sent
  /-- Every frame goes out, once. -/
  once : transmittedFrames burstSize messages = framesTaken messages

theorem flatMap_eq_iff {α β : Type} {f g : α → List β} (xs : List α)
    (hlen : ∀ x ∈ xs, (f x).length = (g x).length) :
    xs.flatMap f = xs.flatMap g ↔ ∀ x ∈ xs, f x = g x := by
  induction xs with
  | nil => exact iff_of_true rfl (fun x hx => by cases hx)
  | cons _ _ ih =>
    rw [forall_mem_cons] at hlen
    rw [flatMap_cons, flatMap_cons, forall_mem_cons, ← ih hlen.2]
    constructor
    · exact fun h => append_inj h hlen.1
    · rintro ⟨hf, hr⟩
      rw [hf, hr]

/-- For one sender the thread and the inline loop agree on all frames
exactly when the sender has one route or never gets a sync packet. -/
theorem same_iff (frames : List PreparedFrame) (hn : sndrs[i]? = some sender)
    (hs : sender.socket.isSome = true) :
    forSender i (frames.flatMap (transmit (buildSendTargets sndrs))) =
        forSender i (frames.flatMap (inlineFrame sndrs)) ↔
      ((∃ frame ∈ frames, ∃ sync, frame.syncPackets[i]? = some (some sync)) → OneRoute sender) := by
  obtain ⟨_, hs⟩ := isSome_iff_exists.mp hs
  have hlen : ∀ frame ∈ frames, (forSender i (transmit (buildSendTargets sndrs) frame)).length =
        (forSender i (inlineFrame sndrs frame)).length := by
    intro frame _
    rw [forSender_transmit sndrs frame hn, forSender_inlineFrame sndrs frame hn,
      sendTarget_eq hs, bind_some, bind_some]
    unfold SendTarget.sendSync SendTarget.sendAudio SendTarget.packetFor inlineSync inlineAudio
      RtpSender.controlVia
    rw [hs]
    generalize frame.syncPackets[i]?.join = sync
    generalize frame.wirePackets[i]? = wire
    cases sync <;> cases wire <;> cases sender.controlSocket <;> rfl
  rw [forSender_flatMap, forSender_flatMap, flatMap_eq_iff frames hlen]
  constructor
  · rintro h ⟨frame, hf, sync, hy⟩
    exact (frame_agrees_iff hn hs).mp (h frame hf) sync hy
  · intro h frame hf
    rw [frame_agrees_iff hn hs]
    exact fun sync hy => h ⟨frame, hf, sync, hy⟩

/-- The thread never sends a packet of one sender to another's addresses. It
agrees with an inline loop of which no send fails exactly when its burst
buffer ends up empty, no frame is taken in the paused loop, and every sender
with a data socket that gets a sync packet has one route for it. -/
theorem thread_agrees_with_inline_iff (senders : List (RtpSender κ)) (burstSize : Nat)
    (messages : List SenderMessage) :
    (∀ sent ∈ senderThreadMain (buildSendTargets senders) burstSize messages,
      ∃ frame ∈ framesTaken messages, IsOwn senders frame sent) ∧
    ∀ frames : List (PreparedFrame × SendResults), frames.map (·.1) = framesTaken messages →
      (∃ dones, (sendInline senders frames).2 = .ok dones) →
      (AgreesWithInline senders burstSize messages (sendInline senders frames).1 ↔
        NothingHeld burstSize (framesTaken messages).length ∧ NeverWhilePaused messages ∧
        ∀ (i : Nat) (sender : RtpSender κ), senders[i]? = some sender →
          sender.socket.isSome = true →
          (∃ frame ∈ framesTaken messages, ∃ sync, frame.syncPackets[i]? = some (some sync)) →
            OneRoute sender) := by
  refine ⟨fun _ => senderThreadMain_own, ?_⟩
  intro frames hframes hsends
  obtain ⟨_, hd⟩ := hsends
  have hi : (sendInline senders frames).1 =
      (framesTaken messages).flatMap (inlineFrame senders) := by
    rw [← hframes]
    exact sendInline_ok (by rw [← hd])
  rw [hi, ← and_assoc, ← transmittedFrames_eq_iff]
  constructor
  · intro h
    refine ⟨h.once, fun i sender hn hc => ?_⟩
    have hm := h.same i sender hn hc
    unfold senderThreadMain at hm
    rw [h.once] at hm
    exact (same_iff _ hn hc).mp hm
  · rintro ⟨ho, hr⟩
    have ht : senderThreadMain (buildSendTargets senders) burstSize messages =
        (framesTaken messages).flatMap (transmit (buildSendTargets senders)) := by
      unfold senderThreadMain
      rw [ho]
    refine ⟨fun i sender hn hc => ?_, fun _ => senderThreadMain_own, ho⟩
    rw [ht]
    exact (same_iff _ hn hc).mpr (hr i sender hn hc)

end Agreement

/-! ### A control destination without a control socket -/

/-- As a RAOP connection sets its sender up: the control port of the
receiver is known, no control socket is handed over. -/
def raopSender : RtpSender Unit where
  socket := some ⟨1⟩
  dest := ⟨.v4 0x0A000001, 6000⟩
  controlDest := some ⟨.v4 0x0A000001, 6001⟩
  ssrc := 1

def syncedFrame : PreparedFrame := ⟨[[0x80, 0x60]], [some [0x90, 0xd4]]⟩

def accepting : SendResults := ⟨fun _ => .ok 2, fun _ => .ok 2⟩

theorem thread_agrees_with_inline_iff_raop : ¬ AgreesWithInline [raopSender] 1 [.packet syncedFrame]
      (sendInline [raopSender] [(syncedFrame, accepting)]).1 := by
  rw [(thread_agrees_with_inline_iff [raopSender] 1 [.packet syncedFrame]).2
    [(syncedFrame, accepting)] rfl ⟨[()], rfl⟩]
  rintro ⟨-, -, hr⟩
  obtain ⟨-, hd⟩ := hr 0 raopSender rfl rfl ⟨syncedFrame, mem_singleton.mpr rfl, [0x90, 0xd4], rfl⟩
  exact absurd hd (by decide)

/-- The thread sends the sync packet to the data port, the inline loop to
the control port; and of two frames a thread with bursts of four transmits
one. -/
theorem thread_sends_sync_to_data_port :
    (senderThreadMain (buildSendTargets [raopSender]) 1 [.packet syncedFrame]).map
        (·.datagram.dest.port) = [6000, 6000] ∧
      (sendInline [raopSender] [(syncedFrame, accepting)]).1.map (·.datagram.dest.port) =
        [6001, 6000] ∧
      transmittedFrames 4 [.packet syncedFrame, .packet syncedFrame, .stop] = [syncedFrame] ∧
      ¬ AgreesWithInline [raopSender] 1 [.packet syncedFrame]
        (sendInline [raopSender] [(syncedFrame, accepting)]).1 := by
  refine ⟨by decide, by decide, by decide, fun h => ?_⟩
  exact absurd (h.same 0 raopSender rfl rfl) (by decide)

end OpenAirCast.Audio
