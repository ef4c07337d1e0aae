/-
Diagnostics.SessionEndTheorems — what of a session's evidence is
in the ring when the session is over.

In every state `Consistent` holds: each event the client recorded was pushed
once, waits in a sink or a drain, or was evicted, and the transitions pushed
are the growths between the counters as they were shown. A command that ends
the session reads neither the sinks nor the baseline. So the evidence is kept
if the command finds nothing there (`Quiet`), and otherwise what it finds is
lost (`atEnd_kept_iff`).
-/
import OpenAirCast.Diagnostics.SessionEnd
import OpenAirCast.Diagnostics.DrainOrderTheorems

namespace OpenAirCast.Diagnostics

open Backend WorkerState List ClientFeed ClientDiagnosticsSource RegistrySystem

/-! ## The client's feed -/

namespace ClientFeed

variable {t : ClientFeed}

theorem record_account (idx elNs : Nat) (devId : Option DeviceId) (kind : ClientDiagnosticKind) :
    ∃ new : List ClientDiagnosticEvent,
      (t.record idx elNs devId kind).recorded = t.recorded ++ new ∧
        (t.record idx elNs devId kind).waiting + t.evictedBy idx =
          t.waiting + (new : Multiset ClientDiagnosticEvent) := by
  unfold record
  cases he : t.source.entries[idx]? with
  | none =>
    refine ⟨[], (append_nil _).symm, ?_⟩
    have hn : t.evictedBy idx = [] := by simp [evictedBy, buffered, he]
    rw [hn]
  | some ent =>
    refine ⟨[ent.sink.stamped elNs devId kind], rfl, ?_⟩
    have hs := inSinks_updateSink he (·.record elNs devId kind)
    have hr : ((ent.sink.record elNs devId kind).ring :
        Multiset ClientDiagnosticEvent) + t.evictedBy idx =
        ent.sink.ring + ([ent.sink.stamped elNs devId kind] : Multiset ClientDiagnosticEvent) := by
      rw [EventSink.ring_record, evictedBy, buffered_eq he,
        ← Multiset.coe_add, add_right_comm, Multiset.coe_add,
        Multiset.coe_eq_coe.mpr perm_append_comm, take_append_drop]
    have hi : (t.source.updateSink idx (·.record elNs devId kind)).inSinks +
        t.evictedBy idx = t.source.inSinks +
          ([ent.sink.stamped elNs devId kind] : Multiset ClientDiagnosticEvent) := by
      refine add_right_cancel (b := (ent.sink.ring : Multiset ClientDiagnosticEvent)) ?_
      rw [add_right_comm, hs, add_assoc, hr, add_assoc, add_comm (ent.sink.ring :
        Multiset ClientDiagnosticEvent)]
    dsimp only [waiting]
    rw [add_right_comm, hi, add_right_comm]

theorem out_record (idx elNs : Nat) (devId : Option DeviceId)
    (kind : ClientDiagnosticKind) : (t.record idx elNs devId kind).out = t.out := by
  unfold record
  split <;> rfl

theorem record_keeps (idx elNs : Nat) (devId : Option DeviceId) (kind : ClientDiagnosticKind) :
    (t.record idx elNs devId kind).drain = t.drain ∧
      (t.record idx elNs devId kind).returned = t.returned := by
  unfold record
  split <;> exact ⟨rfl, rfl⟩

/-- A call that has no entries to read returns at once. -/
theorem begin_cases (hd : t.drain = none) (lim : Nat) :
    (∃ drain, t.begin lim = { t with drain := some drain }) ∨
      t.begin lim = { t with returned := t.returned ++ [[]] } := by
  unfold begin
  rw [hd]
  dsimp only
  split
  · exact .inr rfl
  · exact .inl ⟨_, rfl⟩

/-- A drain goes on or returns one batch. -/
theorem advance_cases {drain : Drain} (hd : t.drain = some drain) :
    ((∃ next, t.advance.drain = some next) ∧ t.advance.returned = t.returned) ∨
      (t.advance.drain = none ∧ ∃ batch, t.advance.returned = t.returned ++ [batch]) := by
  unfold advance
  rw [hd]
  cases drain with
  | taking =>
    dsimp only
    unfold take
    dsimp only
    split <;> exact .inl ⟨⟨_, rfl⟩, rfl⟩
  | restoring =>
    dsimp only
    unfold putBack
    dsimp only
    split
    · exact .inl ⟨⟨_, rfl⟩, rfl⟩
    · exact .inr ⟨rfl, _, rfl⟩

end ClientFeed

/-! ## A publication -/

/-- The growths from each time the counter was shown to the next. -/
def growths (kind : DefiniteCounterKind) : List DefiniteBaseline → List Transition
  | before :: now :: rest =>
    (if before.count kind < now.count kind then [⟨before.count kind, now.count kind⟩] else []) ++
      growths kind (now :: rest)
  | _ => []

/-- The growth from the last time the counter was shown. -/
def grownSince (kind : DefiniteCounterKind) : Option DefiniteBaseline → Option DefiniteBaseline →
    List Transition
  | some before, some now =>
    if before.count kind < now.count kind then [⟨before.count kind, now.count kind⟩] else []
  | _, _ => []

theorem growths_concat (kind : DefiniteCounterKind) (now : Option DefiniteBaseline) :
    ∀ shown : List DefiniteBaseline, growths kind (shown ++ now.toList) =
      growths kind shown ++ grownSince kind shown.getLast? now
  | [] => by cases now <;> rfl
  | [before] => by
      cases now with
      | none => rfl
      | some => simp [growths, grownSince]
  | before :: next :: rest => by
      have ih := growths_concat kind now (next :: rest)
      simp only [cons_append] at ih ⊢
      rw [growths, growths, ih, append_assoc, getLast?_cons_cons]

theorem grownSince_eq_nil {pre now : Option DefiniteBaseline} :
    (∀ kind, grownSince kind pre now = []) ↔
      ∀ n ∈ now, ∀ b ∈ pre, ∀ kind, n.count kind ≤ b.count kind := by
  cases pre with
  | none => simp [grownSince]
  | some =>
    cases now with
    | none => simp [grownSince]
    | some => simp [grownSince]

theorem getLast?_append_toList (shown : List DefiniteBaseline) (now : Option DefiniteBaseline) :
    (shown ++ now.toList).getLast? = now.or shown.getLast? := by
  cases now <;> simp

theorem clientEvents_append (front back : List DiagnosticEventDraft) :
    clientEvents (front ++ back) = clientEvents front ++ clientEvents back :=
  filterMap_append

theorem clientEvents_increases (asked : Asked) (found : List Increase) :
    clientEvents (found.map (Increase.draft asked)) = [] := by
  unfold clientEvents
  rw [filterMap_map]
  exact filterMap_eq_nil_iff.mpr fun _ _ => rfl

theorem clientEvents_clientDrafts (w : WorkerState) (asked : Asked) :
    clientEvents (w.clientDrafts asked) = drained asked := by
  unfold clientEvents clientDrafts
  rw [filterMap_map]
  exact filterMap_some

theorem clientEvents_publish {w : WorkerState} {reg : SessionRegistration}
    (ha : w.active = some reg) (asked : Asked) :
    clientEvents (w.publishDrafts asked) = drained asked := by
  unfold publishDrafts
  rw [ha]
  dsimp only
  rw [clientEvents_append, clientEvents_clientDrafts, clientEvents_increases, append_nil]

/-- No batch but the last is empty, and there are no more than sixteen. -/
theorem drained_eq {asked : Asked} {batches : List (List ClientDiagnosticEvent)}
    {batch : List ClientDiagnosticEvent} (ht : asked.batches = batches ++ [batch])
    (hf : batches.length < 16) (hl : ∀ b ∈ batches, b ≠ []) :
    drained asked = batches.flatten ++ batch := by
  have hlen : (batches ++ [batch]).length ≤ 16 := by
    rw [length_append, length_singleton]
    exact hf
  have hall : ∀ b ∈ batches, (!b.isEmpty) = true := by
    intro b hb
    simpa using hl b hb
  unfold drained
  rw [ht, take_of_length_le hlen, takeWhile_append_of_pos hall, flatten_append]
  cases batch <;> simp

/-! ## Every event is somewhere, and each growth is pushed -/

namespace ClientRun

variable {publication : Publication}

/-- Where a publication stands that calls `drain_events`. -/
structure Calling (handle : Nat) (t : ClientRun) (publication : Publication) : Prop where
  own : t.IsOwn handle
  few : publication.batches.length < 16
  full : ∀ batch ∈ publication.batches, batch ≠ []
  running : ∀ drain, t.feed.drain = some drain →
    t.feed.returned.flatten = t.handed ++ publication.batches.flatten
  returned : t.feed.drain = none → ∃ front batch, t.feed.returned = front ++ [batch] ∧
    front.flatten = t.handed ++ publication.batches.flatten

/-- The publications of the session have pushed what they were shown. -/
structure Shown (t : ClientRun) : Prop where
  last : t.shown.getLast? = t.worker.definiteBaseline
  found : ∀ kind, transitions kind t.pushed = growths kind t.shown

/-- What the client's sinks hold is accounted for. -/
structure Consistent (handle : Nat) (t : ClientRun) : Prop where
  balanced : t.feed.Balanced
  account : (t.feed.out : Multiset ClientDiagnosticEvent) + t.feed.waiting + t.evicted =
    t.feed.recorded
  idle : t.publication = none → t.feed.drain = none ∧ t.feed.returned.flatten = t.handed
  calling : ∀ publication ∈ t.publication, t.Calling handle publication
  shown : t.IsOwn handle → t.Shown

variable {handle : Nat} {t : ClientRun}

theorem isOwn_congr {t' : ClientRun} (ha : t'.worker.active = t.worker.active) :
    t'.IsOwn handle ↔ t.IsOwn handle := by
  unfold IsOwn
  rw [ha]

theorem Consistent.start (asked : Asked) (devs : List DeviceId)
    (audio : Option AudioDiagnosticsSnapshot) :
    (ClientRun.start asked devs audio).Consistent handle where
  balanced := .start devs audio
  account := by
    have hw : (ClientFeed.start devs audio).waiting = 0 := by
      simp [ClientFeed.start, ClientFeed.waiting, fromParts, inSinks, Function.comp_def]
    show ((ClientFeed.start devs audio).out : Multiset ClientDiagnosticEvent) +
      (ClientFeed.start devs audio).waiting + ([] : List ClientDiagnosticEvent) = _
    rw [hw]
    rfl
  idle := fun _ => ⟨rfl, rfl⟩
  calling := by rintro _ ⟨⟩
  shown := by
    rintro ⟨_, ha, -⟩
    have hn : (WorkerState.start asked).active = none := publish_active _ asked
    rw [show (ClientRun.start asked devs audio).worker = WorkerState.start asked from rfl, hn] at ha
    cases ha

theorem Consistent.record (h : t.Consistent handle) (idx elNs : Nat)
    (devId : Option DeviceId) (kind : ClientDiagnosticKind) :
    (t.record idx elNs devId kind).Consistent handle := by
  obtain ⟨hd, hr⟩ := @record_keeps t.feed idx elNs devId kind
  refine ⟨h.balanced.record idx elNs devId kind, ?_, ?_, ?_, fun ho => ?_⟩
  · obtain ⟨_, he, hw⟩ := @record_account t.feed idx elNs devId kind
    show ((t.feed.record idx elNs devId kind).out : Multiset ClientDiagnosticEvent) +
      (t.feed.record idx elNs devId kind).waiting +
        ((t.evicted ++ t.feed.evictedBy idx : List _) : Multiset ClientDiagnosticEvent) =
      (t.feed.record idx elNs devId kind).recorded
    rw [he, out_record, ← Multiset.coe_add, ← Multiset.coe_add, ← h.account,
      add_add_add_comm, hw, add_add_add_comm, ← add_assoc]
  · intro hp
    show (t.feed.record idx elNs devId kind).drain = none ∧
      (t.feed.record idx elNs devId kind).returned.flatten = t.handed
    rw [hd, hr]
    exact h.idle hp
  · intro publication hp
    have hc := h.calling publication hp
    refine ⟨hc.own, hc.few, hc.full, ?_, ?_⟩
    · intro drain hn
      show (t.feed.record idx elNs devId kind).returned.flatten = _
      rw [hr]
      exact hc.running drain (hd ▸ hn)
    · intro hnn
      show ∃ front batch, (t.feed.record idx elNs devId kind).returned = _ ∧ _
      rw [hr]
      exact hc.returned (hd ▸ hnn)
  · have hs := h.shown ho
    exact ⟨hs.last, hs.found⟩

section

variable (h : t.Consistent handle)
include h

theorem Consistent.play (audio : Option AudioDiagnosticsSnapshot) :
    (t.play audio).Consistent handle where
  balanced := ⟨h.balanced.account, h.balanced.silent, h.balanced.placed⟩
  account := h.account
  idle := h.idle
  calling := fun publication hp =>
    have hc := h.calling publication hp
    ⟨hc.own, hc.few, hc.full, hc.running, hc.returned⟩
  shown := fun ho =>
    have hs := h.shown ho
    ⟨hs.last, hs.found⟩

theorem Consistent.worker (hp : t.publication = none)
    {w : WorkerState} (ha : w.active = t.worker.active)
    (hb : w.definiteBaseline = t.worker.definiteBaseline) :
    ({ t with worker := w } : ClientRun).Consistent handle where
  balanced := h.balanced
  account := h.account
  idle := h.idle
  calling := by
    intro publication hs
    rw [show ({ t with worker := w } : ClientRun).publication = t.publication from rfl, hp] at hs
    cases hs
  shown := by
    intro ho
    have hh := h.shown ((isOwn_congr ha).mp ho)
    exact ⟨hh.last.trans hb.symm, hh.found⟩

theorem Consistent.command (hp : t.publication = none)
    (asked : Asked) (command : Command) : (t.command handle asked command).Consistent handle := by
  have hn : ∀ publication, publication ∉ t.publication := by
    intro publication hs
    rw [hp] at hs
    cases hs
  cases command with
  | register =>
    refine ⟨h.balanced, h.account, h.idle, fun publication hs => ?_, fun _ => ?_⟩
    · exact absurd hs (hn publication)
    · exact ⟨rfl, fun _ => rfl⟩
  | finish sid rsn =>
    refine ⟨h.balanced, h.account, h.idle, fun publication hs => ?_, ?_⟩
    · exact absurd hs (hn publication)
    · rintro ⟨reg, ha, hr⟩
      have hsa : t.worker.applyCommand (t.asking handle asked) (.finish sid rsn) =
          t.worker := by
        unfold applyCommand
        cases hw : t.worker.active with
        | none => rfl
        | some act =>
          dsimp only
          split
          · rename_i hi
            have hg : (t.command handle asked (.finish sid rsn)).worker.active =
                none := by
              show (t.worker.applyCommand _ _).active = none
              unfold applyCommand
              rw [hw]
              dsimp only
              rw [if_pos hi]
            rw [hg] at ha
            cases ha
          · rfl
      have hh := h.shown ⟨reg, by rw [← hsa]; exact ha, hr⟩
      refine ⟨?_, hh.found⟩
      show t.shown.getLast? = (t.worker.applyCommand _ _).definiteBaseline
      rw [hsa]
      exact hh.last

theorem Consistent.call (ho : t.IsOwn handle) (hd : t.feed.drain = none)
    (hf : publication.batches.length < 16) (hl : ∀ batch ∈ publication.batches, batch ≠ [])
    (ht : t.feed.returned.flatten = t.handed ++ publication.batches.flatten) :
    (t.call publication).Consistent handle := by
  have ha := (moved_begin (t := t.feed) 512).account (by rintro _ _ _ _ ⟨⟩)
  refine ⟨h.balanced.begin 512, ?_, ?_, ?_, fun ho' => ?_⟩
  · show ((t.feed.begin 512).out : Multiset ClientDiagnosticEvent) + (t.feed.begin 512).waiting +
      t.evicted = (t.feed.begin 512).recorded
    rw [ha.1, ha.2]
    exact h.account
  · rintro ⟨⟩
  · rintro _ ⟨⟩
    refine ⟨ho, hf, hl, ?_, ?_⟩
    · intro drain hr
      have hr : (t.feed.begin 512).drain = some drain := hr
      show (t.feed.begin 512).returned.flatten = _
      rcases begin_cases hd 512 with ⟨next, hb⟩ | hb
      · rw [hb]
        exact ht
      · rw [hb, show ({ t.feed with returned := t.feed.returned ++ [[]] } : ClientFeed).drain =
          t.feed.drain from rfl, hd] at hr
        cases hr
    · intro hn
      have hn : (t.feed.begin 512).drain = none := hn
      show ∃ front batch, (t.feed.begin 512).returned = front ++ [batch] ∧ _
      rcases begin_cases hd 512 with ⟨_, hb⟩ | hb
      · rw [hb] at hn
        cases hn
      · rw [hb]
        exact ⟨_, _, rfl, ht⟩
  · have hs := h.shown ho
    exact ⟨hs.last, hs.found⟩

end

theorem publish_shown {reg : SessionRegistration}
    (ha : t.worker.active = some reg) (hs : reg.source = handle)
    (asked : Asked) :
    (t.worker.publish (t.asking handle asked)).definiteBaseline =
        t.counters.or t.worker.definiteBaseline ∧
      ∀ kind, transitions kind (t.worker.publishDrafts (t.asking handle asked)) =
        grownSince kind t.worker.definiteBaseline t.counters := by
  have hc : ((t.asking handle asked).snapshot reg.source).audio.map baselineOf =
      t.counters := by
    unfold asking
    dsimp only
    rw [if_pos hs]
    rfl
  have hp := (SessionRun.publish_counters ha (t.asking handle asked)).2
  rw [hc] at hp
  refine ⟨hp, fun kind => ?_⟩
  rw [SessionRun.transitions_publish ha kind, hc]
  cases t.counters <;> cases t.worker.definiteBaseline <;> rfl

section

variable [PublicMessage]

theorem Consistent.conclude (h : t.Consistent handle)
    (hp : t.publication = some publication) (hr : t.feed.drain = none)
    {front : List (List ClientDiagnosticEvent)} {batch : List ClientDiagnosticEvent}
    (ht : t.feed.returned = front ++ [batch])
    (hfr : front.flatten = t.handed ++ publication.batches.flatten) :
    (t.conclude handle
      { publication.asked with batches := publication.batches ++ [batch] }).1.Consistent
      handle := by
  have hc := h.calling publication hp
  have hs := h.shown hc.own
  obtain ⟨_, ha, hsr⟩ := hc.own
  have hf := publish_shown ha hsr
    { publication.asked with batches := publication.batches ++ [batch] }
  have he := clientEvents_publish ha
    (t.asking handle { publication.asked with batches := publication.batches ++ [batch] })
  have hd : drained (t.asking handle
      { publication.asked with batches := publication.batches ++ [batch] }) =
      publication.batches.flatten ++ batch := drained_eq rfl hc.few hc.full
  unfold ClientRun.conclude
  dsimp only
  rw [if_pos hc.own]
  refine ⟨h.balanced, h.account, fun _ => ⟨hr, ?_⟩, by rintro _ ⟨⟩, fun _ => ⟨?_, fun kind => ?_⟩⟩
  · show t.feed.returned.flatten = t.handed ++ clientEvents (t.worker.publishDrafts _)
    rw [he, hd, ht, flatten_append, hfr, flatten_singleton, append_assoc]
  · show (t.shown ++ t.counters.toList).getLast? = (t.worker.publish _).definiteBaseline
    rw [hf.1, getLast?_append_toList, hs.last]
  · show transitions kind (t.pushed ++ t.worker.publishDrafts _) = growths kind (t.shown ++ _)
    rw [transitions_append, hf.2, hs.found, growths_concat, hs.last]

theorem conclude_other (ho : ¬ t.IsOwn handle) (asked : Asked) :
    (t.conclude handle asked).1 = { t with
      worker := t.worker.publish (t.asking handle asked)
      publication := none
      ending := []
      ended := t.ended ++ t.ending } := by
  unfold conclude
  dsimp only
  rw [if_neg ho]
  rfl

theorem Consistent.publish (h : t.Consistent handle) (hp : t.publication = none) (asked : Asked) :
    (t.publish handle asked).1.Consistent handle := by
  obtain ⟨hd, hh⟩ := h.idle hp
  unfold ClientRun.publish
  split
  · rename_i ho
    refine h.call ho hd (Nat.zero_lt_succ _) (by simp) ?_
    rw [hh]
    exact (append_nil _).symm
  · rename_i ht
    rw [conclude_other ht]
    refine ⟨h.balanced, h.account, fun _ => ⟨hd, hh⟩, by rintro _ ⟨⟩, fun ho => ?_⟩
    exact absurd ((isOwn_congr (publish_active _ _)).mp ho) ht

theorem Consistent.advance (h : t.Consistent handle) (hp : t.publication = some publication) :
    (t.advance handle publication).1.Consistent handle := by
  have hc := h.calling publication hp
  unfold ClientRun.advance
  cases hd : t.feed.drain with
  | some drain =>
    have ha := (ClientFeed.moved h.balanced .advance).account (by rintro _ _ _ _ ⟨⟩)
    refine ⟨h.balanced.step .advance, ?_, ?_, ?_, fun _ => ?_⟩
    · show (t.feed.advance.out : Multiset ClientDiagnosticEvent) + t.feed.advance.waiting +
        t.evicted = t.feed.advance.recorded
      exact (congrArg (· + (t.evicted : Multiset ClientDiagnosticEvent)) ha.1).trans
        (h.account.trans (congrArg _ ha.2.symm))
    · intro hn
      rw [show ({ t with feed := t.feed.advance } : ClientRun).publication = t.publication from rfl,
        hp] at hn
      cases hn
    · intro other ho
      obtain rfl : publication = other := Option.some.inj (hp.symm.trans ho)
      have hu := hc.running drain hd
      refine ⟨hc.own, hc.few, hc.full, ?_, ?_⟩
      · intro next hx
        rcases advance_cases hd with ⟨-, hr⟩ | ⟨hn, -⟩
        · show t.feed.advance.returned.flatten = _
          rw [hr]
          exact hu
        · have hx : t.feed.advance.drain = some next := hx
          rw [hn] at hx
          cases hx
      · intro hn
        have hn : t.feed.advance.drain = none := hn
        rcases advance_cases hd with ⟨⟨next, hx⟩, -⟩ | ⟨-, batch, hr⟩
        · rw [hx] at hn
          cases hn
        · exact ⟨_, batch, hr, hu⟩
    · have hs := h.shown hc.own
      exact ⟨hs.last, hs.found⟩
  | none =>
    obtain ⟨front, batch, hr, hf⟩ := hc.returned hd
    have hl : t.feed.returned.getLastD [] = batch := by rw [hr, getLastD_concat]
    dsimp only
    rw [hl]
    split
    · exact h.conclude hp hd hr hf
    · rename_i hm
      simp only [not_or, length_append, length_singleton] at hm
      have hw := hc.few
      refine h.call hc.own hd ?_ ?_ ?_
      · rw [length_append, length_singleton]
        omega
      · intro b hb
        rcases mem_append.mp hb with hb | hb
        · exact hc.full b hb
        · rw [mem_singleton.mp hb]
          exact hm.1
      · rw [hr, flatten_append, hf, flatten_append, append_assoc]

theorem ingest_baseline (w : WorkerState) (asked : Asked) (event : FeedEvent) :
    (w.ingestBackendEvent asked event).definiteBaseline = w.definiteBaseline := by
  obtain ⟨_, hi⟩ := ingestBackendEvent_eq w asked event
  refine (congrArg (·.definiteBaseline) hi).trans ?_
  by_cases hd : ∃ dropped, event.payload = .pcmDrop dropped
  · obtain ⟨dropped, hp⟩ := hd
    rw [hp]
    exact (SessionRun.notePayload_drops w asked dropped).2
  · exact (SessionRun.notePayload_other w asked fun dropped hp => hd ⟨dropped, hp⟩).2

end

/-- Every move keeps the client consistent. -/
theorem Consistent.step [PublicMessage] (h : t.Consistent handle) (move : ClientMove) :
    (t.step handle move).1.Consistent handle := by
  cases move with
  | record idx elNs devId kind => exact h.record idx elNs devId kind
  | play audio => exact h.play audio
  | advance =>
    unfold ClientRun.step
    cases hp : t.publication with
    | none => exact h
    | some => exact h.advance hp
  | command asked command =>
    unfold ClientRun.step
    dsimp only
    split
    · exact h
    · rename_i hi
      exact h.command (Option.not_isSome_iff_eq_none.mp hi) asked command
  | ingest asked event =>
    unfold ClientRun.step
    dsimp only
    split
    · exact h
    · rename_i hi
      exact h.worker (Option.not_isSome_iff_eq_none.mp hi)
        (ingest_active t.worker _ event) (ingest_baseline t.worker _ event)
  | publish asked =>
    unfold ClientRun.step
    dsimp only
    split
    · exact h
    · rename_i hi
      exact h.publish (Option.not_isSome_iff_eq_none.mp hi) asked

/-! ## What a command leaves behind -/

end ClientRun

/-- What a session recorded before its end was pushed or evicted, and each
growth of a counter that it showed was pushed. -/
structure EndedSession.Kept (session : EndedSession) (handed : List ClientDiagnosticEvent) :
    Prop where
  events : (session.recorded : Multiset ClientDiagnosticEvent) ≤
    (handed : Multiset ClientDiagnosticEvent) + session.evicted
  growth : ∀ kind, transitions kind session.pushed = growths kind session.shown

theorem EndedSession.Kept.append {session : EndedSession} {handed : List ClientDiagnosticEvent}
    (h : session.Kept handed) (more : List ClientDiagnosticEvent) :
    session.Kept (handed ++ more) := by
  refine ⟨h.events.trans ?_, h.growth⟩
  rw [← Multiset.coe_add, add_right_comm]
  exact Multiset.le_add_right _ _

namespace ClientRun

variable {handle : Nat} {t : ClientRun}

variable {command : Command}

/-- Nothing has come since the last publication of the session. -/
structure Quiet (t : ClientRun) : Prop where
  sinks : t.feed.source.inSinks = 0
  counters : ∀ now ∈ t.counters, ∀ last ∈ t.worker.definiteBaseline, ∀ kind,
    now.count kind ≤ last.count kind

/-- A command that ends a session of the client finds it quiet. -/
def Settled (handle : Nat) (t : ClientRun) : ClientMove → Prop
  | .command _ command => t.publication = none → t.Ends handle command → t.Quiet
  | _ => True

theorem Ends.isOwn (h : t.Ends handle command) : t.IsOwn handle := by
  cases command with
  | register => exact h
  | finish =>
    obtain ⟨reg, ha, hs, -⟩ := h
    exact ⟨reg, ha, hs⟩

/-- Between two operations of the worker an event was pushed, waits in a sink
or was evicted. -/
theorem Consistent.idle_account (h : t.Consistent handle) (hp : t.publication = none) :
    (t.handed : Multiset ClientDiagnosticEvent) + t.feed.source.inSinks + t.evicted =
      t.feed.recorded := by
  obtain ⟨hd, hh⟩ := h.idle hp
  have ho : t.feed.out = t.handed := by
    rw [ClientFeed.out, hd, hh]
    exact append_nil _
  have hw : t.feed.waiting = t.feed.source.inSinks := by
    rw [ClientFeed.waiting, hd]
    exact add_zero _
  rw [← ho, ← hw]
  exact h.account

/-- A command keeps the evidence of the session it ends exactly when it finds
none that is not pushed. -/
theorem Consistent.atEnd_kept_iff (h : t.Consistent handle) (hp : t.publication = none)
    (ho : t.IsOwn handle) : t.atEnd.Kept t.handed ↔ t.Quiet := by
  have ha := h.idle_account hp
  have hs := h.shown ho
  have he : (t.atEnd.recorded : Multiset ClientDiagnosticEvent) ≤
      (t.handed : Multiset ClientDiagnosticEvent) + t.atEnd.evicted ↔
        t.feed.source.inSinks = 0 := by
    show (t.feed.recorded : Multiset ClientDiagnosticEvent) ≤ _ + (t.evicted : Multiset _) ↔ _
    rw [← ha, add_right_comm, add_le_iff_nonpos_right, Multiset.le_zero]
  have hg : (∀ kind, transitions kind t.atEnd.pushed = growths kind t.atEnd.shown) ↔
      ∀ kind, grownSince kind t.worker.definiteBaseline t.counters = [] := by
    refine forall_congr' fun kind => ?_
    show transitions kind t.pushed = growths kind (t.shown ++ t.counters.toList) ↔ _
    rw [growths_concat, hs.found, hs.last, self_eq_append_right]
  rw [grownSince_eq_nil] at hg
  constructor
  · intro hk
    exact ⟨he.mp hk.events, hg.mp hk.growth⟩
  · intro hq
    exact ⟨he.mpr hq.sinks, hg.mpr hq.counters⟩

/-- What a step pushes, and which sessions are over after it. -/
structure Effect (handle : Nat) (t : ClientRun) (move : ClientMove)
    (r : ClientRun × List DiagnosticEventDraft) : Prop where
  ring : r.1.worker.ring = t.worker.ring.pushAll r.2
  handed : ∃ more, r.1.handed = t.handed ++ more ∧ more.Sublist (clientEvents r.2)
  pushed : r.1.pushed.Sublist (t.pushed ++ r.2)
  leaves : ∀ session ∈ r.1.ending ++ r.1.ended, session ∈ t.ending ++ t.ended ∨
    session = t.atEnd ∧ ∃ asked command, move = .command asked command ∧
      t.publication = none ∧ t.Ends handle command

theorem Effect.still {move : ClientMove} {t' : ClientRun} (hr : t'.worker.ring = t.worker.ring)
    (hh : t'.handed = t.handed) (hp : t'.pushed = t.pushed)
    (hn : t'.ending = t.ending) (he : t'.ended = t.ended) :
    Effect handle t move (t', []) where
  ring := hr
  handed := ⟨[], by rw [hh, append_nil], nil_sublist _⟩
  pushed := by rw [hp, append_nil]
  leaves := by
    intro session hs
    rw [hn, he] at hs
    exact .inl hs

theorem conclude_effect [PublicMessage] (move : ClientMove) (asked : Asked) :
    Effect handle t move (t.conclude handle asked) := by
  have hr := WorkerState.step_ring t.worker (.publish (t.asking handle asked))
  have ho : ∀ session ∈ t.ended ++ t.ending, session ∈ t.ending ++ t.ended := by
    intro session hs
    exact mem_append.mpr (mem_append.mp hs).symm
  unfold conclude
  dsimp only
  split
  · exact ⟨hr, ⟨_, rfl, List.Sublist.refl _⟩, List.Sublist.refl _,
      fun session h => .inl (ho session h)⟩
  · exact ⟨hr, ⟨[], (append_nil _).symm, nil_sublist _⟩, sublist_append_left _ _,
      fun session h => .inl (ho session h)⟩

theorem command_effect [PublicMessage] (hp : t.publication = none) (asked : Asked)
    (command : Command) :
    Effect handle t (.command asked command) (t.command handle asked command, []) where
  ring := by
    have hr := applyCommand_ring t.worker (t.asking handle asked) command
    cases command <;> exact hr
  handed := ⟨[], by cases command <;> exact (append_nil _).symm, nil_sublist _⟩
  pushed := by
    rw [append_nil]
    cases command with
    | register => exact nil_sublist _
    | finish => exact List.Sublist.refl _
  leaves := by
    intro session hs
    have hn : (t.command handle asked command).ending =
        if t.Ends handle command then t.ending ++ [t.atEnd] else t.ending := by
      cases command <;> rfl
    have he : (t.command handle asked command).ended = t.ended := by
      cases command <;> rfl
    rw [hn, he] at hs
    split at hs
    · rename_i hd
      rcases mem_append.mp hs with hn | he
      · rcases mem_append.mp hn with hold | hw
        · exact .inl (mem_append_left _ hold)
        · exact .inr ⟨mem_singleton.mp hw, asked, command, rfl, hp, hd⟩
      · exact .inl (mem_append_right _ he)
    · exact .inl hs

/-- `Effect` holds of every move. -/
theorem step_effect [PublicMessage] (t : ClientRun) (move : ClientMove) :
    Effect handle t move (t.step handle move) := by
  cases move with
  | record => exact .still rfl rfl rfl rfl rfl
  | play => exact .still rfl rfl rfl rfl rfl
  | advance =>
    unfold step
    cases t.publication with
    | none => exact .still rfl rfl rfl rfl rfl
    | some =>
      dsimp only
      unfold advance
      cases t.feed.drain with
      | some => exact .still rfl rfl rfl rfl rfl
      | none =>
        dsimp only
        split
        · exact conclude_effect _ _
        · exact .still rfl rfl rfl rfl rfl
  | command asked command =>
    unfold step
    dsimp only
    split
    · exact .still rfl rfl rfl rfl rfl
    · rename_i hi
      exact command_effect (Option.not_isSome_iff_eq_none.mp hi) asked command
  | ingest _ event =>
    unfold step
    dsimp only
    split
    · exact .still rfl rfl rfl rfl rfl
    · refine ⟨WorkerState.step_ring t.worker (.ingest _ event), ?_, sublist_append_left _ _,
        fun session h => .inl h⟩
      exact ⟨[], (append_nil _).symm, nil_sublist _⟩
  | publish =>
    unfold step
    dsimp only
    split
    · exact .still rfl rfl rfl rfl rfl
    · unfold publish
      split
      · exact .still rfl rfl rfl rfl rfl
      · exact conclude_effect _ _

/-! ## Runs -/

/-- The evidence of every session that is over is kept. -/
def AllKept (t : ClientRun) : Prop := ∀ session ∈ t.ending ++ t.ended, session.Kept t.handed

/-- A settled move loses no evidence. -/
theorem AllKept.step [PublicMessage] (hk : t.AllKept) (h : t.Consistent handle)
    {move : ClientMove} (hs : t.Settled handle move) : (t.step handle move).1.AllKept := by
  have he := @step_effect handle _ t move
  obtain ⟨more, hh, -⟩ := he.handed
  intro session hse
  rw [hh]
  refine EndedSession.Kept.append ?_ more
  rcases he.leaves session hse with hold | ⟨rfl, _, _, rfl, hp, hn⟩
  · exact hk session hold
  · exact (h.atEnd_kept_iff hp hn.isOwn).mpr (hs hp hn)

/-- What is said to be pushed was. -/
structure Told (turns : List (Mealy.Turn ClientRun ClientMove (List DiagnosticEventDraft)))
    (t : ClientRun) : Prop where
  handed : t.handed.Sublist (clientEvents (recordedIn turns))
  pushed : t.pushed.Sublist (recordedIn turns)
  sessions : ∀ session ∈ t.ending ++ t.ended, session.pushed.Sublist (recordedIn turns)

/-- One more move pushes what it says. -/
theorem Told.step [PublicMessage]
    {turns : List (Mealy.Turn ClientRun ClientMove (List DiagnosticEventDraft))}
    (h : Told turns t) (move : ClientMove) :
    Told (turns ++ [Mealy.turn (ClientRun.step handle) t move]) (t.step handle move).1 := by
  have he := @step_effect handle _ t move
  have hr : recordedIn (turns ++ [Mealy.turn (ClientRun.step handle) t move]) =
      recordedIn turns ++ (t.step handle move).2 := by
    unfold recordedIn
    rw [flatMap_append, flatMap_singleton]
    rfl
  obtain ⟨more, hh, hm⟩ := he.handed
  refine ⟨?_, ?_, fun session hs => ?_⟩
  · rw [hr, hh, clientEvents_append]
    exact h.handed.append hm
  · rw [hr]
    exact he.pushed.trans (h.pushed.append (List.Sublist.refl _))
  · rw [hr]
    refine List.Sublist.trans ?_ (sublist_append_left _ _)
    rcases he.leaves session hs with hold | ⟨rfl, -⟩
    · exact h.sessions session hold
    · exact h.pushed

/-- The command registers a session of this client. -/
def Registers (handle : Nat) : Command → Prop
  | .register registration => registration.source = handle
  | .finish _ _ => False

/-- A session of the client is over when a command ends it that does not
register the client again. -/
theorem command_leaves (asked : Asked) (he : t.Ends handle command)
    (ho : ¬ Registers handle command) : ¬ (t.command handle asked command).IsOwn handle := by
  cases command with
  | register reg =>
    rintro ⟨act, ha, hs⟩
    obtain rfl : reg = act := Option.some.inj ha
    exact ho hs
  | finish sid rsn =>
    obtain ⟨_, ha, _, hi⟩ := he
    have hg : (t.command handle asked (.finish sid rsn)).worker.active = none := by
      show (t.worker.applyCommand _ _).active = none
      unfold applyCommand
      rw [Option.mem_def.mp ha]
      dsimp only
      rw [if_pos hi]
    rintro ⟨act, ha', -⟩
    rw [hg] at ha'
    cases ha'

/-- The command that ends the session, and the publication after it. -/
theorem ended_next [PublicMessage] (hp : t.publication = none)
    (he : t.Ends handle command) (ho : ¬ Registers handle command) (asked next : Asked) :
    let later := Mealy.run (step handle) t [.command asked command, .publish next]
    t.atEnd ∈ later.ended ∧ later.handed = t.handed := by
  have ha : t.step handle (.command asked command) = (t.command handle asked command, []) := by
    unfold step
    dsimp only
    rw [hp]
    rfl
  have hs : (t.command handle asked command).publication = none := by
    cases command <;> exact hp
  have hn : (t.command handle asked command).ending = t.ending ++ [t.atEnd] := by
    cases command <;> exact if_pos he
  have hh : (t.command handle asked command).handed = t.handed := by
    cases command <;> rfl
  have hl : Mealy.run (step handle) t [.command asked command, .publish next] =
      ((t.command handle asked command).conclude handle next).1 := by
    show ((t.step handle (.command asked command)).1.step handle (.publish next)).1 = _
    rw [ha]
    unfold step publish
    dsimp only
    rw [hs, if_neg (command_leaves asked he ho)]
    rfl
  rw [hl, conclude_other (command_leaves asked he ho)]
  dsimp only
  rw [hn]
  exact ⟨by simp, hh⟩

/-- In every run each event was pushed at most once. The evidence of a session
is kept where the command that ends it finds the client quiet; where it does
not, and the client is not registered again, it is not kept. -/
theorem evidence_kept_when_settled [PublicMessage] (handle : Nat) (asked : Asked)
    (devices : List DeviceId) (audio : Option AudioDiagnosticsSnapshot)
    (moves : List ClientMove) :
    let turns := Mealy.trace (step handle) (start asked devices audio) moves
    let s := Mealy.run (step handle) (start asked devices audio) moves
    (s.worker.ring = DiagnosticsRing.pushAll {} (recordedIn turns) ∧ Told turns s) ∧
      (s.publication = none →
        (s.handed : Multiset ClientDiagnosticEvent) + s.feed.source.inSinks + s.evicted =
          s.feed.recorded) ∧
      (Mealy.Along (step handle) (Settled handle) (start asked devices audio) moves →
        ∀ session ∈ s.ended, session.Kept s.handed) ∧
      ∀ command finishedAt next, s.publication = none → s.Ends handle command →
        ¬ Registers handle command →
          let later := Mealy.run (step handle) s [.command finishedAt command, .publish next]
          s.atEnd ∈ later.ended ∧ (s.atEnd.Kept later.handed ↔ s.Quiet) := by
  intro turns s
  have hc : s.Consistent handle :=
    @Mealy.run_invariant _ _ _ (step handle) (Consistent handle)
      (fun _ move h => h.step move) _ (.start asked devices audio) moves
  refine ⟨⟨?_, ?_⟩, hc.idle_account, fun hs => ?_, ?_⟩
  · exact @run_pushAll ClientRun ClientMove (step handle) (·.worker.ring)
      (fun t move => (step_effect t move).ring) moves (start asked devices audio)
  · refine Mealy.trace_induction (P := Told) ?_ (fun turns t move h => h.step move) moves
    exact ⟨List.Sublist.refl _, List.Sublist.refl _, fun session h => by cases h⟩
  · have hr := @Mealy.along_invariant _ _ _ (step handle)
      (fun t => t.Consistent handle ∧ t.AllKept) (Settled handle)
      (fun _ move hn h => ⟨h.1.step move, h.2.step h.1 hn⟩) moves _ hs
      ⟨.start asked devices audio, fun session h => by cases h⟩
    exact fun session hse => hr.2 session (mem_append_right _ hse)
  · intro command finishedAt next hp he ho later
    obtain ⟨hd, hh⟩ := ended_next hp he ho finishedAt next
    refine ⟨hd, ?_⟩
    rw [hh]
    exact hc.atEnd_kept_iff hp he.isOwn

/-! ### One session -/

/-- What the client counts once three frames were dropped. -/
def threeDrops : AudioDiagnosticsSnapshot := { captureQueue := { fullQueueDropsTotal := 3 } }

/-- A session is registered and published. Then its only event is recorded, and
three frames are dropped. -/
def sessionOfOneEvent : List ClientMove :=
  [.command {} (.register SessionRun.oneMember), .publish {}, .advance, .advance, .advance,
    .record 0 5 (some ⟨1⟩) .runtimeWarning, .play (some threeDrops)]

/-- It is published once more before it is finished. -/
def publishedLast : List ClientMove :=
  sessionOfOneEvent ++ [.publish {}, .advance, .advance, .advance, .advance, .advance, .advance,
    .command {} (.finish ⟨1⟩ .stopped), .publish {}]

/-- It is finished at once. -/
def finishedAtOnce : List ClientMove :=
  sessionOfOneEvent ++ [.command {} (.finish ⟨1⟩ .stopped), .publish {}]

/-- The event stays in its sink, and the drops are not counted. -/
theorem finish_loses_event :
    let turns := Mealy.trace (@step 1 messages) (start {} [⟨1⟩] (some {})) finishedAtOnce
    let s := Mealy.run (@step 1 messages) (start {} [⟨1⟩] (some {})) finishedAtOnce
    s.feed.recorded = [⟨5, 0, some ⟨1⟩, .runtimeWarning⟩] ∧ s.evicted = [] ∧
      clientEvents (recordedIn turns) = [] ∧ transitions .captureDrops (recordedIn turns) = [] ∧
      ∃ session, s.ended = [session] ∧ growths .captureDrops session.shown = [⟨0, 3⟩] ∧
        ¬ session.Kept s.handed := by
  refine ⟨rfl, rfl, rfl, rfl, _, rfl, rfl, fun hk => absurd hk.events ?_⟩
  decide

theorem evidence_kept_publishedLast :
    ∃ session ∈ (Mealy.run (@step 1 messages) (start {} [⟨1⟩] (some {})) publishedLast).ended,
      session.Kept [⟨5, 0, some ⟨1⟩, .runtimeWarning⟩] ∧
        growths .captureDrops session.shown = [⟨0, 3⟩] := by
  have h := @evidence_kept_when_settled messages 1 {} [⟨1⟩] (some {}) publishedLast
  refine ⟨_, mem_singleton.mpr rfl, h.2.2.1 ?_ _ (mem_singleton.mpr rfl), rfl⟩
  refine ⟨fun _ he => ?_, trivial, trivial, trivial, trivial, trivial, trivial, trivial, trivial,
    trivial, trivial, trivial, trivial, trivial, fun _ _ => ⟨rfl, ?_⟩, trivial, trivial⟩
  · obtain ⟨_, ha, -⟩ := he
    cases ha
  · rintro _ ⟨⟩ _ ⟨⟩ _
    exact Nat.le_refl _

end ClientRun

end OpenAirCast.Diagnostics
