/-
Timing.PtpTheorems — a published clock state is coherent.

`states_coherent`: whatever arrives, each published state names the
grandmaster of the last accepted Announce, and its offset comes from
messages of that Announce's relay that were put together since it became
current (`FollowedUp`, `Answered`). An Announce of another clock publishes
`none` in its own turn.

What was announced is read off the turns (`current`), not off the tracker;
`Tracked` ties the two together. The generations the tracker compares are
not needed for it: `renew` drops all that is pending.
-/
import OpenAirCast.Lib.Mealy
import OpenAirCast.Timing.Ptp

namespace OpenAirCast.Timing

open PtpMeasurementTracker Mealy Option List PtpMessageType PtpTimestamp

variable {messageType : PtpMessageType} {clock : AnnouncedClock}

abbrev BmcaTurn := Mealy.Turn BmcaFlow BmcaEvent BmcaOutput

/-! ## What is announced -/

/-- Grandmaster and relay of an Announce. -/
structure ClockPair where
  grandmasterId : BitVec 64
  relayPortIdentity : BitVec 80
  deriving DecidableEq

def AnnouncedClock.pair (clock : AnnouncedClock) : ClockPair where
  grandmasterId := clock.grandmasterId
  relayPortIdentity := clock.relayPortIdentity

/-- The pair of an acceptable Announce. -/
def PtpHeader.announcedPair (header : PtpHeader) (packet : Bytes) : Option ClockPair :=
  if header.messageType = .announce ∧ 61 ≤ packet.length ∧ word 64 packet 53 61 ≠ 0
      ∧ header.sourceClockIdentity ≠ 0 then
    some
      { grandmasterId := word 64 packet 53 61
        relayPortIdentity := header.sourcePortIdentity }
  else none

variable (masterIp : IpAddr)

/-- The pair that an event announces: a general packet of the master does. -/
def announces : BmcaEvent → Option ClockPair
  | .deadline => none
  | .packet packet =>
    if packet.src ≠ masterIp ∨ packet.port = .event then none
    else
      match PtpHeader.parse packet.bytes with
      | .error _ => none
      | .ok header => header.announcedPair packet.bytes

/-- The pair of the last accepted Announce. -/
def current (turns : List BmcaTurn) : Option ClockPair :=
  (turns.filterMap (fun t => announces masterIp t.input)).getLast?

/-- No other pair is announced. -/
def Keeps (pair : ClockPair) (t : BmcaTurn) : Prop :=
  ∀ other, announces masterIp t.input = some other → other = pair

theorem current_concat {masterIp : IpAddr} (turns : List BmcaTurn) (t : BmcaTurn) :
    current masterIp (turns ++ [t]) = (announces masterIp t.input).or (current masterIp turns) := by
  unfold current
  rw [filterMap_append, filterMap_cons, filterMap_nil]
  cases announces masterIp t.input with
  | none => simp
  | some => simp

/-! ## What a publication rests on -/

/-- A message of the master. -/
structure Message (masterIp : IpAddr) (event : BmcaEvent) (messageType : PtpMessageType)
    (packet : PtpPacket) (header : PtpHeader) : Prop where
  event : event = .packet packet
  src : packet.src = masterIp
  parsed : PtpHeader.parse packet.bytes = .ok header
  type : header.messageType = messageType

/-- A state is published. -/
def Publishes (t : BmcaTurn) : Prop := ∃ state, some state ∈ t.output.published

/-- A Sync of the relay of the current pair arrives. -/
def SyncHeard (pair : ClockPair) (sequenceId : BitVec 16)
    (t2 : PtpTimestamp) (front : List BmcaTurn) (t : BmcaTurn) : Prop :=
  current masterIp front = some pair ∧
  ∃ packet header, Message masterIp t.input .sync packet header ∧ packet.port = .event ∧
    header.sequenceId = sequenceId ∧ header.sourcePortIdentity = pair.relayPortIdentity ∧
    packet.now = t2

/-- Nothing that would use up or outdate a Sync. -/
def SyncStays (pair : ClockPair) (t : BmcaTurn) : Prop :=
  Keeps masterIp pair t ∧
  ¬ (Publishes t ∧ ∃ packet header, Message masterIp t.input .followUp packet header)

/-- A state is published from a Follow_Up of the relay of the current pair and
a Sync with its sequence id, heard since the pair is current. Since that Sync
no Follow_Up has led to a state. -/
structure FollowedUp (masterIp : IpAddr) (pair : ClockPair) (t1 t2 t3 : PtpTimestamp)
    (front : List BmcaTurn) (t : BmcaTurn) : Prop where
  current : current masterIp front = some pair
  message : ∃ packet header, Message masterIp t.input .followUp packet header ∧
    packet.port = .general ∧ header.sourcePortIdentity = pair.relayPortIdentity ∧
    parse (slice packet.bytes 34 44) = .ok t1 ∧ packet.now = t3 ∧
    Mealy.SinceAt (SyncHeard masterIp pair header.sequenceId t2) (SyncStays masterIp pair) front
  published : t.output.published
    = [some { masterClockId := pair.grandmasterId, offset := oneWayOffset t1 t2 }]

/-- A Follow_Up led to a state, and a Delay_Req was sent at `t3`. -/
def Requested (localPortIdentity : BitVec 80) (pair : ClockPair)
    (sequenceId : BitVec 16) (t1 t2 t3 : PtpTimestamp) (front : List BmcaTurn)
    (t : BmcaTurn) : Prop :=
  FollowedUp masterIp pair t1 t2 t3 front t ∧
  t.output.sent = [delayRequest sequenceId localPortIdentity t3]

/-- A state is published from a Delay_Resp of the relay of the current pair.
It answers a Delay_Req sent since the pair is current, and no state was
published since that. -/
structure Answered (masterIp : IpAddr) (localPortIdentity : BitVec 80) (pair : ClockPair)
    (t1 t2 t3 t4 : PtpTimestamp) (front : List BmcaTurn) (t : BmcaTurn) : Prop where
  current : current masterIp front = some pair
  message : ∃ packet header, Message masterIp t.input .delayResp packet header ∧
    header.sourcePortIdentity = pair.relayPortIdentity ∧
    parse (slice packet.bytes 34 44) = .ok t4 ∧
    word 80 packet.bytes 44 54 = localPortIdentity ∧
    Mealy.SinceAt (Requested masterIp localPortIdentity pair header.sequenceId t1 t2 t3)
      (fun l => Keeps masterIp pair l ∧ ¬ Publishes l) front
  published : t.output.published
    = [some { masterClockId := pair.grandmasterId, offset := roundTripOffset t1 t2 t3 t4 }]

/-! ## The operations of the tracker -/

namespace PtpMeasurementTracker

variable {tracker : PtpMeasurementTracker} {header : PtpHeader} {packet : Bytes}

def pair (tracker : PtpMeasurementTracker) : Option ClockPair :=
  tracker.announced.map AnnouncedClock.pair

theorem announcedIs_iff (grandmasterId : BitVec 64) (relayPortIdentity : BitVec 80) :
    tracker.announcedIs grandmasterId relayPortIdentity = true
      ↔ tracker.pair = some ⟨grandmasterId, relayPortIdentity⟩ := by
  unfold announcedIs pair
  cases tracker.announced with
  | none => simp
  | some => simp [AnnouncedClock.pair]

/-- An Announce renews the tracker when its pair is another one. -/
theorem observeAnnounce_eq : tracker.observeAnnounce header packet =
    match header.announcedPair packet with
    | none => (tracker, .unchanged)
    | some pair =>
      if tracker.pair = some pair then (tracker, .unchanged)
      else (tracker.renew pair.grandmasterId pair.relayPortIdentity,
        if tracker.announced.isSome then .invalidate else .unchanged) := by
  unfold observeAnnounce PtpHeader.announcedPair
  by_cases hr : header.messageType ≠ .announce ∨ packet.length < 61
  · have hn : ¬ (header.messageType = .announce ∧ 61 ≤ packet.length
        ∧ word 64 packet 53 61 ≠ 0 ∧ header.sourceClockIdentity ≠ 0) := by
      rintro ⟨ht, _, -⟩
      rcases hr with ho | _
      · exact ho ht
      · omega
    rw [if_pos hr, if_neg hn]
  · rw [if_neg hr]
    simp only [not_or, not_not, not_lt] at hr
    dsimp only
    by_cases hz : word 64 packet 53 61 = 0 ∨ header.sourceClockIdentity = 0
    · have hn : ¬ (header.messageType = .announce ∧ 61 ≤ packet.length
          ∧ word 64 packet 53 61 ≠ 0 ∧ header.sourceClockIdentity ≠ 0) := by
        rintro ⟨-, -, hg, hs⟩
        exact hz.elim hg hs
      rw [if_pos hz, if_neg hn]
    · have hp : header.messageType = .announce ∧ 61 ≤ packet.length
          ∧ word 64 packet 53 61 ≠ 0 ∧ header.sourceClockIdentity ≠ 0 :=
        ⟨hr.1, hr.2, not_or.mp hz⟩
      rw [if_neg hz, if_pos hp]
      simp only [announcedIs_iff]

/-- A Sync is ignored or remembered. -/
theorem observeSync_cases {receivedAt : PtpTimestamp} :
    tracker.observeSync header packet receivedAt = tracker ∨
    ∃ clock, tracker.announced = some clock ∧ header.sourcePortIdentity = clock.relayPortIdentity ∧
      tracker.observeSync header packet receivedAt = { tracker with
          pendingSync := some
            ⟨header.sequenceId, header.sourcePortIdentity, clock.generation, receivedAt⟩ } := by
  unfold observeSync
  split
  · exact .inl rfl
  · split
    · exact .inl rfl
    · rename_i clock hc
      split
      · exact .inl rfl
      · rename_i hr
        exact .inr ⟨clock, hc, not_not.mp hr, rfl⟩

/-- A Follow_Up is ignored or completes the Sync of its pair. -/
theorem observeFollowUp_cases : tracker.observeFollowUp header packet = (tracker, none) ∨
    ∃ clock pend t1, tracker.announced = some clock ∧ tracker.pendingSync = some pend ∧
      header.sequenceId = pend.sequenceId ∧
      header.sourcePortIdentity = clock.relayPortIdentity ∧
      parse (slice packet 34 44) = .ok t1 ∧
      tracker.observeFollowUp header packet = ({ tracker with
           pendingSync := none
           completedSync := some ⟨clock.generation, t1, pend.receivedAt⟩ },
         some ⟨clock.grandmasterId, oneWayOffset t1 pend.receivedAt⟩) := by
  unfold observeFollowUp
  split
  · exact .inl rfl
  · split
    · rename_i clock pend hc hp
      split
      · exact .inl rfl
      · rename_i hm
        simp only [not_or, not_not] at hm
        split
        · exact .inl rfl
        · rename_i t1 ht1
          exact .inr ⟨clock, pend, t1, hc, hp, hm.1, hm.2.2.1, ht1, rfl⟩
    · exact .inl rfl

theorem recordDelayRequest_completed {sync : CompletedSync}
    {sequenceId : BitVec 16} {ident : BitVec 80} {t3 : PtpTimestamp}
    (hc : tracker.announced = some clock) (hm : tracker.completedSync = some sync)
    (hg : sync.generation = clock.generation)
    (hidentity : ident = tracker.localPortIdentity) :
    tracker.recordDelayRequest sequenceId ident t3 = { tracker with
        pendingDelay := some ⟨sequenceId, ident, clock.generation, t3, sync⟩ } := by
  unfold recordDelayRequest
  rw [hc, hm]
  exact if_neg (by simp [hg, hidentity])

/-- A Delay_Resp is ignored or answers the pending request. -/
theorem observeDelayResponse_cases : tracker.observeDelayResponse header packet = (tracker, none) ∨
    ∃ clock pend t4, tracker.announced = some clock ∧ tracker.pendingDelay = some pend ∧
      header.sequenceId = pend.sequenceId ∧
      header.sourcePortIdentity = clock.relayPortIdentity ∧
      word 80 packet 44 54 = pend.requestingPortIdentity ∧
      parse (slice packet 34 44) = .ok t4 ∧
      tracker.observeDelayResponse header packet = ({ tracker with pendingDelay := none },
         some ⟨clock.grandmasterId, roundTripOffset pend.sync.masterSentAt
           pend.sync.localReceivedAt pend.localSentAt t4⟩) := by
  unfold observeDelayResponse
  split
  · exact .inl rfl
  · split
    · rename_i clock pend hc hp
      split
      · exact .inl rfl
      · rename_i hm
        simp only [not_or, not_not] at hm
        split
        · exact .inl rfl
        · rename_i t4 ht4
          exact .inr ⟨clock, pend, t4, hc, hp, hm.1, hm.2.1, hm.2.2.1, ht4, rfl⟩
    · exact .inl rfl

end PtpMeasurementTracker

/-! ## What an event can do -/

variable {masterIp} {header : PtpHeader} {packet : PtpPacket} {event : BmcaEvent}

theorem Message.announces (h : Message masterIp event messageType packet header) :
    announces masterIp event
      = if packet.port = .event then none else header.announcedPair packet.bytes := by
  obtain ⟨rfl, hs, hp, -⟩ := h
  simp only [Timing.announces, hs, hp, ne_eq, not_true_eq_false, false_or]

/-- Only an Announce announces. -/
theorem Message.announces_eq_none
    (h : Message masterIp event messageType packet header) (ho : messageType ≠ .announce) :
    Timing.announces masterIp event = none := by
  have hp : header.announcedPair packet.bytes = none :=
    if_neg (fun hall => ho (h.type.symm.trans hall.1))
  rw [h.announces, hp, ite_self]

namespace BmcaFlow

/-- `quiet` covers what is ignored, and the end of the negotiation. -/
inductive Moves (flow : BmcaFlow) (event : BmcaEvent) : BmcaFlow × BmcaOutput → Prop
  | quiet (listening : Bool) (hl : listening = true → flow.listening = true)
      (hk : ∀ pair, announces flow.masterIp event = some pair → flow.tracker.pair = some pair) :
      Moves flow event ({ flow with listening := listening }, {})
  | announced (pair : ClockPair) (ha : announces flow.masterIp event = some pair)
      (hn : flow.tracker.pair ≠ some pair) :
      Moves flow event ({ flow with
           tracker := flow.tracker.renew pair.grandmasterId pair.relayPortIdentity
           listening := false },
         { published := if flow.tracker.announced.isSome then [none] else [] })
  | synced (packet : PtpPacket) (header : PtpHeader) (clock : AnnouncedClock)
      (hm : Message flow.masterIp event .sync packet header) (hp : packet.port = .event)
      (hc : flow.tracker.announced = some clock)
      (hr : header.sourcePortIdentity = clock.relayPortIdentity) :
      Moves flow event ({ flow with
           tracker :=
             { flow.tracker with
               pendingSync := some ⟨header.sequenceId, header.sourcePortIdentity,
                 clock.generation, packet.now⟩ } },
         {})
  | followedUp (packet : PtpPacket) (header : PtpHeader) (clock : AnnouncedClock)
      (pending : PendingSync) (t1 : PtpTimestamp)
      (hm : Message flow.masterIp event .followUp packet header)
      (hp : packet.port = .general) (hc : flow.tracker.announced = some clock)
      (he : flow.tracker.pendingSync = some pending)
      (hs : header.sequenceId = pending.sequenceId)
      (hr : header.sourcePortIdentity = clock.relayPortIdentity)
      (ht1 : parse (slice packet.bytes 34 44) = .ok t1) :
      Moves flow event ({ flow with
           delayReqSeq := flow.delayReqSeq + 1
           tracker :=
             { flow.tracker with
               pendingSync := none
               completedSync := some ⟨clock.generation, t1, pending.receivedAt⟩
               pendingDelay := some ⟨flow.delayReqSeq + 1, flow.localPortIdentity,
                 clock.generation, packet.now, ⟨clock.generation, t1, pending.receivedAt⟩⟩ } },
         { published := [some ⟨clock.grandmasterId, oneWayOffset t1 pending.receivedAt⟩]
           sent := [delayRequest (flow.delayReqSeq + 1) flow.localPortIdentity packet.now] })
  | answered (packet : PtpPacket) (header : PtpHeader) (clock : AnnouncedClock)
      (pending : PendingDelay) (t4 : PtpTimestamp)
      (hm : Message flow.masterIp event .delayResp packet header)
      (hc : flow.tracker.announced = some clock)
      (hp : flow.tracker.pendingDelay = some pending)
      (hs : header.sequenceId = pending.sequenceId)
      (hr : header.sourcePortIdentity = clock.relayPortIdentity)
      (hi : word 80 packet.bytes 44 54 = pending.requestingPortIdentity)
      (ht4 : parse (slice packet.bytes 34 44) = .ok t4) :
      Moves flow event ({ flow with tracker := { flow.tracker with pendingDelay := none } },
         { published :=
             [some ⟨clock.grandmasterId, roundTripOffset pending.sync.masterSentAt
               pending.sync.localReceivedAt pending.localSentAt t4⟩] })

variable {flow : BmcaFlow} {event : BmcaEvent} {packet : PtpPacket} {header : PtpHeader}

/-- Nothing changes, and nothing is announced. -/
theorem Moves.ignored (hn : announces flow.masterIp event = none) : Moves flow event (flow, {}) :=
  .quiet flow.listening id (fun pair hp => by rw [hn] at hp; cases hp)

theorem listen_moves
    (hs : Message flow.masterIp event messageType packet header)
    (hl : flow.listening = true) (hf : flow.tracker.announced = none) :
    Moves flow event (flow.listen packet header) := by
  have ha := hs.announces
  unfold listen
  cases hp : packet.port with
  | event =>
    rw [if_pos hp] at ha
    exact .ignored ha
  | general =>
    rw [if_neg (by rw [hp]; exact PtpPort.noConfusion)] at ha
    dsimp only
    split
    · rw [observeAnnounce_eq]
      cases hpa : header.announcedPair packet.bytes with
      | none =>
        refine .quiet _ (fun _ => hl) (fun pair hk => ?_)
        rw [ha, hpa] at hk
        cases hk
      | some pair =>
        have hn : flow.tracker.pair ≠ some pair := by
          unfold PtpMeasurementTracker.pair
          rw [hf]
          exact some_ne_none pair ∘ Eq.symm
        have hm := Moves.announced pair (ha.trans hpa) hn
        rw [hf] at hm
        dsimp only
        rw [if_neg hn]
        exact hm
    · rename_i hr
      have hnn : header.announcedPair packet.bytes = none :=
        if_neg (fun hall => hr ⟨hall.1, hall.2.1⟩)
      exact .ignored (ha.trans hnn)

theorem onAnnounce_moves (ha : announces flow.masterIp event
      = header.announcedPair packet.bytes) (hf : flow.listening = false) :
    Moves flow event (flow.onAnnounce packet header) := by
  unfold onAnnounce
  rw [observeAnnounce_eq]
  cases hp : header.announcedPair packet.bytes with
  | none => exact .ignored (ha.trans hp)
  | some pair =>
    dsimp only
    by_cases hs : flow.tracker.pair = some pair
    · rw [if_pos hs]
      refine .quiet flow.listening id (fun other ho => ?_)
      rw [ha, hp] at ho
      cases ho
      exact hs
    · have hm := Moves.announced pair (ha.trans hp) hs
      rw [if_neg hs]
      rw [← hf] at hm
      cases hso : flow.tracker.announced.isSome with
      | true =>
        rw [hso] at hm
        exact hm
      | false =>
        rw [hso] at hm
        exact hm

theorem onFollowUp_moves (hm : Message flow.masterIp event .followUp packet header)
    (hp : packet.port = .general)
    (hidentity : flow.localPortIdentity = flow.tracker.localPortIdentity) :
    Moves flow event (flow.onFollowUp packet header) := by
  unfold onFollowUp
  rcases @observeFollowUp_cases flow.tracker header packet.bytes with hn |
    ⟨clock, pend, t1, hc, he, hs, hr, ht1, hsm⟩
  · rw [hn]
    exact .ignored (hm.announces_eq_none noConfusion)
  · rw [hsm]
    have hv := Moves.followedUp packet header clock pend t1 hm hp hc he hs hr ht1
    have ha : ({ flow.tracker with
        pendingSync := none
        completedSync := some ⟨clock.generation, t1, pend.receivedAt⟩ } :
          PtpMeasurementTracker).announced = some clock := hc
    dsimp only
    rw [recordDelayRequest_completed ha rfl rfl hidentity]
    exact hv

theorem onDelayResponse_moves (hm : Message flow.masterIp event .delayResp packet header) :
    Moves flow event (flow.onDelayResponse packet header) := by
  unfold onDelayResponse
  rcases @observeDelayResponse_cases flow.tracker header packet.bytes with
    hn | ⟨clock, pend, t4, hc, hp, hs, hr, hidentity, ht4, hsm⟩
  · rw [hn]
    exact .ignored (hm.announces_eq_none noConfusion)
  · rw [hsm]
    exact .answered packet header clock pend t4 hm hc hp hs hr hidentity ht4

theorem onSync_moves (hm : Message flow.masterIp event .sync packet header)
    (hp : packet.port = .event) :
    Moves flow event
      ({ flow with tracker := flow.tracker.observeSync header packet.bytes packet.now }, {}) := by
  rcases @observeSync_cases flow.tracker header packet.bytes packet.now with
    hs | ⟨clock, hc, hr, hy⟩
  · rw [hs]
    exact .ignored (hm.announces_eq_none noConfusion)
  · rw [hy]
    exact .synced packet header clock hm hp hc hr

theorem follow_moves (hm : Message flow.masterIp event messageType packet header)
    (hf : flow.listening = false)
    (hidentity : flow.localPortIdentity = flow.tracker.localPortIdentity) :
    Moves flow event (flow.follow packet header) := by
  have ha := hm.announces
  unfold follow
  cases hp : packet.port with
  | event =>
    rw [if_pos hp] at ha
    cases ht : header.messageType with
    | sync => exact onSync_moves { hm with type := ht } hp
    | delayResp => exact onDelayResponse_moves { hm with type := ht }
    | delayReq | followUp | announce | signaling => exact .ignored ha
  | general =>
    rw [hp, if_neg PtpPort.noConfusion] at ha
    cases ht : header.messageType with
    | announce => exact onAnnounce_moves ha hf
    | delayResp => exact onDelayResponse_moves { hm with type := ht }
    | followUp => exact onFollowUp_moves { hm with type := ht } hp hidentity
    | sync | delayReq | signaling =>
      have hm := { hm with type := ht }
      exact .ignored (hm.announces_eq_none noConfusion)

/-- `Moves` covers every event. -/
theorem step_moves (hf : flow.listening = true → flow.tracker.announced = none)
    (hidentity : flow.localPortIdentity = flow.tracker.localPortIdentity) :
    Moves flow event (flow.step event) := by
  cases event with
  | deadline =>
    refine .quiet false Bool.noConfusion (fun pair hr => ?_)
    cases hr
  | packet packet =>
    unfold step
    dsimp only
    split
    · rename_i ho
      exact .ignored (if_pos (.inl ho))
    · rename_i hs
      rw [ne_eq, not_not] at hs
      cases hp : PtpHeader.parse packet.bytes with
      | error =>
        refine .ignored ?_
        simp only [announces, hp, ite_self]
      | ok header =>
        have hm : Message flow.masterIp (.packet packet) header.messageType packet
            header := ⟨rfl, hs, hp, rfl⟩
        dsimp only
        cases hl : flow.listening with
        | true => exact listen_moves hm hl (hf hl)
        | false => exact follow_moves hm hl hidentity

end BmcaFlow

/-! ## Runs -/

/-- What the tracker remembers has happened. -/
structure Tracked (masterIp : IpAddr) (localPortIdentity : BitVec 80) (turns : List BmcaTurn)
    (flow : BmcaFlow) : Prop where
  ip : flow.masterIp = masterIp
  identity : flow.localPortIdentity = localPortIdentity
  trackerIdentity : flow.tracker.localPortIdentity = localPortIdentity
  first : flow.listening = true → flow.tracker.announced = none
  announced : flow.tracker.pair = current masterIp turns
  sync : ∀ pair pending, current masterIp turns = some pair →
    flow.tracker.pendingSync = some pending →
    Mealy.SinceAt (SyncHeard masterIp pair pending.sequenceId pending.receivedAt)
      (SyncStays masterIp pair) turns
  delay : ∀ pair pending, current masterIp turns = some pair →
    flow.tracker.pendingDelay = some pending →
    pending.requestingPortIdentity = localPortIdentity ∧
    Mealy.SinceAt
      (Requested masterIp localPortIdentity pair pending.sequenceId pending.sync.masterSentAt
        pending.sync.localReceivedAt pending.localSentAt)
      (fun l => Keeps masterIp pair l ∧ ¬ Publishes l) turns

theorem not_publishes_of_quiet {t : BmcaTurn} (h : t.output = {}) : ¬ Publishes t := by
  rintro ⟨_, hs⟩
  rw [h] at hs
  cases hs

theorem Message.type_eq {one other : PtpMessageType} {packet' : PtpPacket} {header' : PtpHeader}
    (h : Message masterIp event one packet header)
    (h' : Message masterIp event other packet' header') : one = other := by
  have hp : packet = packet' := BmcaEvent.packet.inj (h.event.symm.trans h'.event)
  subst hp
  have hh : header = header' := Except.ok.inj (h.parsed.symm.trans h'.parsed)
  rw [← h.type, ← h'.type, hh]

theorem Message.known (h : Message masterIp event messageType packet header) (flow : BmcaFlow)
    (ho : messageType ≠ .announce) (pair : ClockPair)
    (hp : Timing.announces masterIp event = some pair) : flow.tracker.pair = some pair := by
  rw [h.announces_eq_none ho] at hp
  cases hp

section Steps

variable {masterIp : IpAddr} {localPortIdentity : BitVec 80} {turns : List BmcaTurn}
  {flow : BmcaFlow} {t : BmcaTurn} (h : Tracked masterIp localPortIdentity turns flow)
include h

theorem Tracked.current_eq (hc : flow.tracker.announced = some clock) :
    current masterIp turns = some clock.pair := by
  rw [← h.announced, PtpMeasurementTracker.pair, hc]
  rfl

variable {packet : PtpPacket} {header : PtpHeader}

theorem Tracked.followedUp {pend : PendingSync} {t1 : PtpTimestamp}
    (hm : Message masterIp t.input .followUp packet header)
    (hp : packet.port = .general) (hc : flow.tracker.announced = some clock)
    (hn : flow.tracker.pendingSync = some pend)
    (hs : header.sequenceId = pend.sequenceId)
    (hr : header.sourcePortIdentity = clock.relayPortIdentity)
    (ht1 : parse (slice packet.bytes 34 44) = .ok t1)
    (hb : t.output.published = [some ⟨clock.grandmasterId, oneWayOffset t1 pend.receivedAt⟩]) :
    FollowedUp masterIp clock.pair t1 pend.receivedAt packet.now turns t where
  current := h.current_eq hc
  message := by
    refine ⟨packet, header, hm, hp, hr, ht1, rfl, ?_⟩
    rw [hs]
    exact h.sync _ _ (h.current_eq hc) hn
  published := hb

theorem Tracked.answered {pend : PendingDelay} {t4 : PtpTimestamp}
    (hm : Message masterIp t.input .delayResp packet header)
    (hl : flow.tracker.announced = some clock)
    (hp : flow.tracker.pendingDelay = some pend)
    (hs : header.sequenceId = pend.sequenceId)
    (hr : header.sourcePortIdentity = clock.relayPortIdentity)
    (hidentity : word 80 packet.bytes 44 54 = pend.requestingPortIdentity)
    (ht4 : parse (slice packet.bytes 34 44) = .ok t4)
    (hb : t.output.published = [some ⟨clock.grandmasterId, roundTripOffset pend.sync.masterSentAt
          pend.sync.localReceivedAt pend.localSentAt t4⟩]) :
    Answered masterIp localPortIdentity clock.pair pend.sync.masterSentAt
      pend.sync.localReceivedAt pend.localSentAt t4 turns t := by
  have hc := h.current_eq hl
  obtain ⟨hq, hrq⟩ := h.delay _ _ hc hp
  refine ⟨hc, ⟨packet, header, hm, hr, ht4, hidentity.trans hq, ?_⟩, hb⟩
  rw [hs]
  exact hrq

theorem Tracked.kept (hk : ∀ pair, announces masterIp t.input = some pair →
    flow.tracker.pair = some pair) :
    current masterIp (turns ++ [t]) = current masterIp turns ∧
    ∀ pair, current masterIp turns = some pair → Keeps masterIp pair t := by
  rw [h.announced] at hk
  refine ⟨?_, fun pair hp other ho => ?_⟩
  · rw [current_concat]
    cases ha : announces masterIp t.input with
    | none => rfl
    | some pair => exact (hk pair ha).symm
  · exact Option.some.inj ((hk other ho).symm.trans hp)

theorem Tracked.quiet (ho : t.output = {}) (hkn : ∀ pair,
    announces masterIp t.input = some pair → flow.tracker.pair = some pair) (listening : Bool)
    (hl : listening = true → flow.listening = true) :
    Tracked masterIp localPortIdentity (turns ++ [t]) { flow with listening := listening } := by
  obtain ⟨hs, hk⟩ := h.kept hkn
  have hq := not_publishes_of_quiet ho
  refine ⟨h.ip, h.identity, h.trackerIdentity, fun hls => h.first (hl hls),
    h.announced.trans hs.symm, fun pair pending hp hn => ?_,
    fun pair pending hp hn => ?_⟩
  · rw [hs] at hp
    exact sinceAt_concat.mpr (.inr ⟨⟨hk pair hp, fun hb => hq hb.1⟩, h.sync pair pending hp hn⟩)
  · rw [hs] at hp
    obtain ⟨hr, hrq⟩ := h.delay pair pending hp hn
    exact ⟨hr, sinceAt_concat.mpr (.inr ⟨⟨hk pair hp, hq⟩, hrq⟩)⟩

theorem Tracked.moves (hv : BmcaFlow.Moves flow t.input (t.after, t.output)) :
    Tracked masterIp localPortIdentity (turns ++ [t]) t.after := by
  have hi := h.ip
  subst hi
  generalize haf : t.after = after at hv ⊢
  generalize ho : t.output = output at hv
  cases hv with
  | quiet listening hli hk => exact h.quiet ho hk listening hli
  | announced _ ha =>
    refine ⟨rfl, h.identity, h.trackerIdentity, Bool.noConfusion, ?_, ?_, ?_⟩
    · rw [current_concat, ha]
      rfl
    · intro _ _ _ hp
      cases hp
    · intro _ _ _ hp
      cases hp
  | synced packet header _ hm ht hc hl =>
    have hk := hm.known flow noConfusion
    have hs := (h.kept hk).1
    have hq := h.quiet ho hk flow.listening id
    refine ⟨rfl, h.identity, h.trackerIdentity, h.first, hq.announced,
      fun pair pending hr hp => ?_, hq.delay⟩
    rw [hs, h.current_eq hc] at hr
    cases hr
    cases hp
    exact sinceAt_concat.mpr (.inl ⟨h.current_eq hc, packet, header, hm, ht, rfl, hl, rfl⟩)
  | followedUp _ _ _ _ _ hm ht hc hp he hl ht1 =>
    have hk := hm.known flow noConfusion
    have hs := (h.kept hk).1
    have hf := h.followedUp hm ht hc hp he hl ht1 (by rw [ho])
    refine ⟨rfl, h.identity, h.trackerIdentity, h.first, h.announced.trans hs.symm, ?_,
      fun pair pending' hr hp' => ?_⟩
    · intro _ _ _ hp
      cases hp
    · rw [hs, h.current_eq hc] at hr
      cases hr
      cases hp'
      refine ⟨h.identity, sinceAt_concat.mpr (.inl ⟨hf, ?_⟩)⟩
      rw [ho, h.identity]
  | answered packet header clock pending t4 hm hc hp he hl hidentity ht4 =>
      have hk := hm.known flow noConfusion
      obtain ⟨hs, hkp⟩ := h.kept hk
      refine ⟨rfl, h.identity, h.trackerIdentity, h.first, h.announced.trans hs.symm,
        fun pair pending' hr hp' => ?_, ?_⟩
      · rw [hs] at hr
        refine sinceAt_concat.mpr (.inr ⟨⟨hkp pair hr, ?_⟩, h.sync pair pending' hr hp'⟩)
        -- A Delay_Resp is no Follow_Up, so the Sync is not used up.
        rintro ⟨-, _, _, hfolUp⟩
        exact noConfusion (hm.type_eq hfolUp)
      · intro _ _ _ hp
        cases hp

end Steps

/-- What the tracker remembers happened, in every run. -/
theorem run_tracked (masterIp : IpAddr) (clockIdentity : BitVec 64) (evs : List BmcaEvent) :
    Tracked masterIp (clockIdentity ++ 1#16)
      (Mealy.trace BmcaFlow.step (.start masterIp clockIdentity) evs)
      (Mealy.run BmcaFlow.step (.start masterIp clockIdentity) evs) := by
  refine trace_induction ?_ (fun turns flow event ht => ?_) evs
  · refine ⟨rfl, rfl, rfl, fun _ => rfl, rfl, ?_, ?_⟩
    · intro _ _ hp
      cases hp
    · intro _ _ hp
      cases hp
  · have hidentity := ht.identity.trans ht.trackerIdentity.symm
    exact @Tracked.moves masterIp _ turns flow (Mealy.turn BmcaFlow.step flow event) ht
      (BmcaFlow.step_moves ht.first hidentity)

/-- What one turn publishes: at most one value. A state has the grandmaster of
the last accepted Announce, and comes from a Follow_Up or from a Delay_Resp.
An Announce of another pair publishes `none`. -/
structure Coherent (masterIp : IpAddr) (localPortIdentity : BitVec 80) (front : List BmcaTurn)
    (t : BmcaTurn) : Prop where
  once : t.output.published.length ≤ 1
  state : ∀ state, some state ∈ t.output.published → ∃ pair,
    current masterIp front = some pair ∧ state.masterClockId = pair.grandmasterId ∧
    ((∃ t1 t2 t3, state.offset = oneWayOffset t1 t2 ∧ FollowedUp masterIp pair t1 t2 t3 front t) ∨
      ∃ t1 t2 t3 t4, state.offset = roundTripOffset t1 t2 t3 t4 ∧
        Answered masterIp localPortIdentity pair t1 t2 t3 t4 front t)
  transition : ∀ pair other, current masterIp front = some pair →
    announces masterIp t.input = some other → other ≠ pair → t.output.published = [none]

theorem Tracked.coherent {localPortIdentity : BitVec 80}
    {turns : List BmcaTurn} {flow : BmcaFlow} {t : BmcaTurn}
    (h : Tracked masterIp localPortIdentity turns flow)
    (hv : BmcaFlow.Moves flow t.input (t.after, t.output)) :
    Coherent masterIp localPortIdentity turns t := by
  have hi := h.ip
  subst hi
  generalize t.after = after at hv
  generalize ho : t.output = output at hv
  cases hv with
  | quiet _ _ hk =>
    refine ⟨by simp [ho], fun state hs => ?_, fun pair other hp ht hne => ?_⟩
    · rw [ho] at hs
      cases hs
    · have hu := (h.announced.symm.trans (hk other ht))
      exact absurd (Option.some.inj (hu.symm.trans hp)) hne
  | announced pair =>
    have hsm : ∀ known, current flow.masterIp turns = some known →
        flow.tracker.announced.isSome = true := by
      intro known hk
      rw [← h.announced, PtpMeasurementTracker.pair] at hk
      rw [← @isSome_map _ _ AnnouncedClock.pair, hk]
      rfl
    refine ⟨?_, fun state hs => ?_, fun known other hk ht hne => ?_⟩
    · rw [ho]
      dsimp only
      split <;> simp
    · rw [ho] at hs
      dsimp only at hs
      split at hs <;> simp at hs
    · rw [ho, hsm known hk]
      rfl
  | synced _ _ _ hm =>
    have hn := hm.announces_eq_none noConfusion
    refine ⟨by simp [ho], fun state hs => ?_, fun pair other hp ht hne => ?_⟩
    · rw [ho] at hs
      cases hs
    · rw [hn] at ht
      cases ht
  | followedUp _ _ clock _ _ hm hpt hc he hq hr ht1 =>
    have hn := hm.announces_eq_none noConfusion
    have hf := h.followedUp hm hpt hc he hq hr ht1 (by rw [ho])
    refine ⟨by simp [ho], fun state hs => ?_, fun pair other hp ht hne => ?_⟩
    · rw [hf.published, mem_singleton, some_inj] at hs
      subst hs
      exact ⟨clock.pair, hf.current, rfl, .inl ⟨_, _, _, rfl, hf⟩⟩
    · rw [hn] at ht
      cases ht
  | answered packet header clock pending t4 hm hc he hq hr hidentity ht4 =>
      have hn := hm.announces_eq_none noConfusion
      have ha := h.answered hm hc he hq hr hidentity ht4 (by rw [ho])
      refine ⟨by simp [ho], fun state hs => ?_, fun pair other hp ht hne => ?_⟩
      · rw [ha.published, mem_singleton, some_inj] at hs
        subst hs
        exact ⟨clock.pair, ha.current, rfl, .inr ⟨_, _, _, _, rfl, ha⟩⟩
      · rw [hn] at ht
        cases ht

/-- A published clock state is coherent, in every run. -/
theorem states_coherent (masterIp : IpAddr) (clockIdentity : BitVec 64) (events : List BmcaEvent)
    {front back : List BmcaTurn} {t : BmcaTurn}
    (hturn : Mealy.trace BmcaFlow.step (.start masterIp clockIdentity) events
      = front ++ t :: back) :
    Coherent masterIp (clockIdentity ++ 1#16) front t := by
  obtain ⟨xs, _, -, ht, rfl, -⟩ := trace_split hturn
  have hr := run_tracked masterIp clockIdentity xs
  have hidentity := hr.identity.trans hr.trackerIdentity.symm
  have hm := @BmcaFlow.step_moves _ t.input hr.first hidentity
  refine hr.coherent ?_
  rw [ht]
  exact hm

/-! ## A measurement -/

def relay : IpAddr := .v4 0x0A000002

/-- The first bytes of a message from port 1 of clock 7. -/
def messageHead (messageType : UInt8) (sequenceId : UInt8) : Bytes :=
  [messageType, 2] ++ List.replicate 18 0 ++ [0, 0, 0, 0, 0, 0, 0, 7, 0, 1, 0, sequenceId, 0, 0]

def arrives (port : PtpPort) (now : PtpTimestamp) (bytes : Bytes) : BmcaEvent :=
  .packet { port := port, src := relay, bytes := bytes, now := now }

/-- Grandmaster 9 is announced, and sends a Sync one second before it
arrives. -/
def measured : List BmcaEvent :=
  [ arrives .general {} (messageHead 0x0B 0 ++ List.replicate 26 0 ++ [9]),
    arrives .event { seconds := 5 } (messageHead 0x00 3),
    arrives .general { seconds := 6 } (messageHead 0x08 3 ++ [0, 0, 0, 0, 0, 4, 0, 0, 0, 0]) ]

theorem states_coherent_measured : ∃ front t,
    Mealy.trace BmcaFlow.step (.start relay 1) measured = front ++ [t] ∧
    t.output.published = [some
      { masterClockId := 9, offset := { offsetNs := 1000000000, errorNs := 500000 } }] ∧
    Coherent relay (1#64 ++ 1#16) front t :=
  ⟨[_, _], _, rfl, by decide +kernel, states_coherent relay 1 measured rfl⟩

end OpenAirCast.Timing
