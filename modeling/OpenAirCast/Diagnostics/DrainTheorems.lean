/-
Diagnostics.DrainTheorems — every client event is accounted for.

`Balanced` is the account that always holds: an event that was recorded was
returned, or is in a running drain's hands, or in a sink, or was evicted by
its sink. The total a snapshot reports does not count evictions, and a
remainder is put back without a look at the room there is. `accounted_step`
says at which steps the account of a reader fails, `accounted_iff` what that
means for a run.
-/
import OpenAirCast.Diagnostics.ClientSource
import Mathlib.Algebra.Ring.Nat

namespace OpenAirCast.Diagnostics

open Backend List ClientDiagnosticsSource Option EventSink

/-! ## Lists -/

theorem sum_map_modify {α M : Type} [AddCommMonoid M] (size : α → M) (g : α → α) :
    ∀ (l : List α) (i : Nat) {a : α}, l[i]? = some a →
      ((l.modify i g).map size).sum + size a = (l.map size).sum + size (g a)
  | [], _, _, h => by simp at h
  | first :: rest, 0, a, h => by
      obtain rfl : first = a := by simpa using h
      simp only [modify_zero_cons, map_cons, sum_cons]
      rw [add_right_comm, add_comm (size (g first)), add_right_comm]
  | first :: rest, i + 1, a, h => by
      have hr := sum_map_modify size g rest i (a := a) (by simpa using h)
      simp only [modify_succ_cons, map_cons, sum_cons]
      rw [add_assoc, hr, add_assoc]

/-- What holds of all members holds after a change if it holds of the changed one. -/
theorem forall_mem_modify {α : Type} {P : α → Prop} {g : α → α} {l : List α} {i : Nat}
    (h : ∀ a ∈ l, P a) :
    (∀ a ∈ l.modify i g, P a) ↔ ∀ a, l[i]? = some a → P (g a) := by
  constructor
  · intro hall a ha
    refine hall _ (mem_of_getElem? (i := i) ?_)
    rw [getElem?_modify_eq, ha]
    rfl
  · intro ho a ha
    obtain ⟨j, hj⟩ := mem_iff_getElem?.mp ha
    by_cases hi : i = j
    · subst hi
      rw [getElem?_modify_eq] at hj
      obtain ⟨b, hb, rfl⟩ := map_eq_some_iff.mp hj
      exact ho b hb
    · rw [getElem?_modify_ne _ _ hi] at hj
      exact h a (mem_of_getElem? hj)

/-! ## One sink -/

namespace EventSink

theorem makeRoom_eq (evs : List ClientDiagnosticEvent) (dropped : Nat) : makeRoom evs dropped =
      (evs.drop (evs.length + 1 - EVENT_RING_CAPACITY),
        dropped + (evs.length + 1 - EVENT_RING_CAPACITY)) := by
  induction evs generalizing dropped with
  | nil => rfl
  | cons ev rest ih =>
    rw [makeRoom]
    split
    · rename_i hf
      have ho : (ev :: rest).length + 1 - EVENT_RING_CAPACITY =
          (rest.length + 1 - EVENT_RING_CAPACITY) + 1 := by
        rw [length_cons] at hf ⊢
        omega
      rw [ih, ho, drop_succ_cons, Nat.add_assoc, Nat.add_comm 1]
    · rename_i hr
      rw [show (ev :: rest).length + 1 - EVENT_RING_CAPACITY = 0 by omega]
      rfl

/-- What the sink has taken in and not handed out. -/
def held (sink : EventSink) : Nat := sink.ring.length + sink.overflowDroppedTotal

variable (sink : EventSink) (elapsedNs : Nat) (deviceId : Option DeviceId)
  (kind : ClientDiagnosticKind)

theorem ring_record : (sink.record elapsedNs deviceId kind).ring =
    sink.ring.drop (sink.ring.length + 1 - EVENT_RING_CAPACITY) ++
      [sink.stamped elapsedNs deviceId kind] := by
  rw [record, makeRoom_eq]

theorem overflow_record : (sink.record elapsedNs deviceId kind).overflowDroppedTotal =
    sink.overflowDroppedTotal + (sink.ring.length + 1 - EVENT_RING_CAPACITY) := by
  rw [record, makeRoom_eq]

theorem held_record : (sink.record elapsedNs deviceId kind).held = sink.held + 1 := by
  have hc : EVENT_RING_CAPACITY = 256 := rfl
  rw [held, held, ring_record, overflow_record, length_append, length_drop, length_singleton]
  omega

@[simp] theorem held_taken : sink.taken.held + sink.ring.length = sink.held := by
  simp only [held, taken, length_nil]
  omega

@[simp] theorem held_restore (items : List ClientDiagnosticEvent) :
    (sink.restore items).held = sink.held + items.length := by
  simp only [held, restore, length_append]
  omega

end EventSink

/-! ## The account -/

namespace ClientDiagnosticsSource

variable (source : ClientDiagnosticsSource)

def bufferedTotal : Nat := (source.entries.map (·.sink.ring.length)).sum

/-- What the sinks evicted. -/
def overflowTotal : Nat := (source.entries.map (·.sink.overflowDroppedTotal)).sum

def heldTotal : Nat := (source.entries.map (·.sink.held)).sum

theorem heldTotal_eq : source.heldTotal = source.bufferedTotal + source.overflowTotal := by
  rw [heldTotal, bufferedTotal, overflowTotal]
  induction source.entries with
  | nil => rfl
  | cons _ _ ih =>
    simp only [map_cons, sum_cons, EventSink.held] at ih ⊢
    omega

@[simp] theorem length_updateSink (idx : Nat) (f : EventSink → EventSink) :
    (source.updateSink idx f).entries.length = source.entries.length :=
  length_modify ..

variable {source}

variable {ent : EntryShared} {idx : Nat}

theorem sum_updateSink {M : Type} [AddCommMonoid M] (size : EventSink → M)
    (h : source.entries[idx]? = some ent) (f : EventSink → EventSink) :
    ((source.updateSink idx f).entries.map (fun ent => size ent.sink)).sum + size ent.sink =
      (source.entries.map (fun ent => size ent.sink)).sum + size (f ent.sink) :=
  sum_map_modify (fun ent : EntryShared => size ent.sink) _ source.entries idx h

theorem buffered_eq
    (h : source.entries[idx]? = some ent) : source.buffered idx = ent.sink.ring := by
  rw [buffered, h]
  rfl

end ClientDiagnosticsSource

/-- What a running drain has in its hands. -/
def Drain.inHand : Drain → Nat
  | .taking _ _ pooled => pooled.length
  | .restoring drained remainder index =>
    drained.length + (remainder.filter (fun p => index ≤ p.index)).length

/-- The drain is at a sink that is there, and what it holds came from such. -/
def Drain.Placed (entries : Nat) : Drain → Prop
  | .taking _ index pooled => index < entries ∧ ∀ p ∈ pooled, p.index < entries
  | .restoring _ remainder index => index < entries ∧ ∀ p ∈ remainder, p.index < entries

namespace ClientFeed

def inHand (t : ClientFeed) : Nat := t.drain.elim 0 Drain.inHand

/-- Every event that was recorded is somewhere. -/
structure Balanced (t : ClientFeed) : Prop where
  account : t.recorded.length = t.returned.flatten.length + t.inHand + t.source.heldTotal
  silent : t.source.clientEventsDroppedTotal = 0
  placed : ∀ drain, t.drain = some drain → drain.Placed t.source.entries.length

theorem filter_le_index_perm (remainder : List Pooled) (idx : Nat) :
    (remainder.filter (fun p => idx ≤ p.index)).Perm
      (remainder.filter (·.index = idx) ++ remainder.filter (fun p => idx + 1 ≤ p.index)) := by
  induction remainder with
  | nil => exact .refl _
  | cons p _ ih =>
    rcases Nat.lt_trichotomy p.index idx with hlt | rfl | _
    · rw [filter_cons_of_neg (by simpa using hlt), filter_cons_of_neg (by simp; omega),
        filter_cons_of_neg (by simp; omega)]
      exact ih
    · rw [filter_cons_of_pos (by simp), filter_cons_of_pos (by simp), filter_cons_of_neg (by simp)]
      exact ih.cons p
    · rw [filter_cons_of_pos (by simp; omega), filter_cons_of_neg (by simp; omega),
        filter_cons_of_pos (by simp; omega)]
      exact (ih.cons p).trans perm_middle.symm

theorem Balanced.start (devs : List DeviceId) (audio : Option AudioDiagnosticsSnapshot) :
    (ClientFeed.start devs audio).Balanced where
  account := by
    have hz : (ClientFeed.start devs audio).source.heldTotal = 0 := by
      simp [ClientFeed.start, ClientDiagnosticsSource.fromParts, ClientDiagnosticsSource.heldTotal,
        EventSink.held, Function.comp_def]
    rw [hz]
    rfl
  silent := rfl
  placed := by simp [ClientFeed.start]

variable {t : ClientFeed}

theorem Balanced.record (h : t.Balanced) (idx elapsedNs : Nat) (deviceId : Option DeviceId)
    (kind : ClientDiagnosticKind) : (t.record idx elapsedNs deviceId kind).Balanced := by
  unfold ClientFeed.record
  cases he : t.source.entries[idx]? with
  | none => exact h
  | some =>
    refine ⟨?_, h.silent, ?_⟩
    · have hs := sum_updateSink EventSink.held he (·.record elapsedNs deviceId kind)
      rw [held_record] at hs
      have ha := h.account
      simp only [length_append, length_singleton, inHand,
        ClientDiagnosticsSource.heldTotal] at hs ha ⊢
      omega
    · intro drain hd
      rw [length_updateSink]
      exact h.placed drain hd

theorem Balanced.begin (h : t.Balanced) (lim : Nat) : (t.begin lim).Balanced := by
  unfold ClientFeed.begin
  cases hd : t.drain with
  | some => exact h
  | none =>
    have ha := h.account
    dsimp only
    split
    · refine ⟨?_, h.silent, ?_⟩
      · simpa [inHand, hd] using ha
      · intro drain hs
        cases hs
    · rename_i hg
      simp only [not_or, List.isEmpty_iff] at hg
      refine ⟨?_, h.silent, ?_⟩
      · simpa [inHand, Drain.inHand, hd] using ha
      · intro drain hs
        obtain rfl := Option.some.inj hs
        exact ⟨length_pos_of_ne_nil hg.1, by simp⟩

variable {idx : Nat}

/-- A sink that is emptied gives its events to the pool. -/
theorem Balanced.take (h : t.Balanced) {lim : Nat} {pooled : List Pooled}
    (hd : t.drain = some (.taking lim idx pooled)) :
    (t.take lim idx pooled).Balanced := by
  obtain ⟨hi, hl⟩ := h.placed _ hd
  obtain ⟨ent, he⟩ : ∃ ent, t.source.entries[idx]? = some ent := ⟨_, getElem?_eq_getElem hi⟩
  have hm := sum_updateSink EventSink.held he EventSink.taken
  have ht := ent.sink.held_taken
  have ha := h.account
  have hin : t.inHand = pooled.length := by
    rw [inHand, hd]
    rfl
  have hall : ∀ p ∈ pooled ++ (t.source.buffered idx).map (fun ev => Pooled.mk idx ev),
      p.index < t.source.entries.length := by
    intro p hp
    rcases mem_append.mp hp with hold | hn
    · exact hl p hold
    · obtain ⟨ev, -, rfl⟩ := mem_map.mp hn
      exact hi
  have hlen : (pooled ++ (t.source.buffered idx).map (fun ev => Pooled.mk idx ev)).length =
      pooled.length + ent.sink.ring.length := by
    rw [length_append, length_map, buffered_eq he]
  simp only [ClientDiagnosticsSource.heldTotal] at hm ha
  unfold ClientFeed.take
  dsimp only
  split
  · rename_i hr
    refine ⟨?_, h.silent, ?_⟩
    · simp only [inHand, elim_some, Drain.inHand, hlen, ClientDiagnosticsSource.heldTotal]
      omega
    · rintro drain hs
      obtain rfl := Option.some.inj hs
      rw [length_updateSink]
      exact ⟨hr, hall⟩
  · refine ⟨?_, h.silent, ?_⟩
    · have hsp := congrArg List.length (take_append_drop lim
        ((pooled ++
          (t.source.buffered idx).map (fun ev => Pooled.mk idx ev)).insertionSort Pooled.le))
      rw [length_append, length_insertionSort, hlen] at hsp
      simp only [inHand, elim_some, Drain.inHand, Nat.zero_le, decide_true,
        filter_true, length_map, ClientDiagnosticsSource.heldTotal]
      omega
    · rintro _ hs
      obtain rfl := Option.some.inj hs
      rw [length_updateSink]
      refine ⟨Nat.lt_of_le_of_lt (Nat.zero_le _) hi, fun p hp => hall p ?_⟩
      exact (mem_insertionSort _).mp (mem_of_mem_drop hp)

theorem Balanced.putBack (h : t.Balanced) {drained : List ClientDiagnosticEvent}
    {remainder : List Pooled}
    (hd : t.drain = some (.restoring drained remainder idx)) :
    (t.putBack drained remainder idx).Balanced := by
  obtain ⟨hi, hr⟩ := h.placed _ hd
  obtain ⟨ent, he⟩ : ∃ ent, t.source.entries[idx]? = some ent := ⟨_, getElem?_eq_getElem hi⟩
  have hs := sum_updateSink EventSink.held he
    (·.restore ((remainder.filter (·.index = idx)).map (·.event)))
  rw [held_restore, length_map] at hs
  have ha := h.account
  have hin : t.inHand = drained.length + (remainder.filter (fun p => idx ≤ p.index)).length := by
    rw [inHand, hd]
    rfl
  rw [(filter_le_index_perm remainder idx).length_eq, length_append] at hin
  simp only [ClientDiagnosticsSource.heldTotal] at hs ha
  unfold ClientFeed.putBack
  dsimp only
  split
  · rename_i hm
    refine ⟨?_, h.silent, ?_⟩
    · simp only [inHand, elim_some, Drain.inHand, ClientDiagnosticsSource.heldTotal]
      omega
    · rintro drain hsm
      obtain rfl := Option.some.inj hsm
      rw [length_updateSink]
      exact ⟨hm, hr⟩
  · rename_i hl
    have hrs : (remainder.filter (fun p => idx + 1 ≤ p.index)).length = 0 := by
      rw [length_eq_zero_iff, filter_eq_nil_iff]
      intro p hp
      have hlt := hr p hp
      simp only [decide_eq_true_eq]
      omega
    refine ⟨?_, h.silent, by simp⟩
    simp only [inHand, elim_none, flatten_append, flatten_singleton,
      length_append, ClientDiagnosticsSource.heldTotal]
    omega

/-- No step loses or doubles an event. -/
theorem Balanced.step (h : t.Balanced) (inp : ClientFeedStep) : (t.step inp).Balanced := by
  cases inp with
  | record idx elapsedNs deviceId kind => exact h.record idx elapsedNs deviceId kind
  | drain lim => exact h.begin lim
  | advance =>
    show t.advance.Balanced
    unfold ClientFeed.advance
    split
    · exact h
    · rename_i hd
      exact h.take hd
    · rename_i hd
      exact h.putBack hd

/-! ## When the account is the reader's -/

/-- What is recorded is returned, buffered or reported as dropped; the events of a
running drain count as buffered. -/
structure Accounted (t : ClientFeed) : Prop where
  events : t.recorded.length = t.returned.flatten.length +
    (t.source.bufferedTotal + t.inHand) + t.source.snapshot.clientEventsDroppedTotal
  bounded : ∀ entry ∈ t.source.entries, entry.sink.ring.length ≤ EventSink.EVENT_RING_CAPACITY

/-- There is room for what comes back into the sink. -/
def RemainderFits (source : ClientDiagnosticsSource) : Drain → Prop
  | .taking _ _ _ => True
  | .restoring _ remainder index =>
    (source.buffered index).length + (remainder.filter (·.index = index)).length ≤
      EventSink.EVENT_RING_CAPACITY

/-- The step finds room in the sink it writes to. -/
def Fits (t : ClientFeed) : ClientFeedStep → Prop
  | .record index _ _ _ => (t.source.buffered index).length < EventSink.EVENT_RING_CAPACITY
  | .drain _ => True
  | .advance => ∀ drain ∈ t.drain, RemainderFits t.source drain

theorem Balanced.account_iff (h : t.Balanced) : t.Accounted ↔ t.source.overflowTotal = 0 ∧
      ∀ entry ∈ t.source.entries, entry.sink.ring.length ≤ EventSink.EVENT_RING_CAPACITY := by
  have hc := h.account
  rw [heldTotal_eq] at hc
  have hd : t.source.snapshot.clientEventsDroppedTotal = 0 := h.silent
  constructor
  · intro ha
    have he := ha.events
    exact ⟨by omega, ha.bounded⟩
  · rintro ⟨_, hb⟩
    exact ⟨by omega, hb⟩

theorem bounded_updateSink {source : ClientDiagnosticsSource} {ent : EntryShared}
    (he : source.entries[idx]? = some ent) (f : EventSink → EventSink)
    (hb : ∀ ent ∈ source.entries, ent.sink.ring.length ≤ EventSink.EVENT_RING_CAPACITY) :
    (∀ ent ∈ (source.updateSink idx f).entries,
        ent.sink.ring.length ≤ EventSink.EVENT_RING_CAPACITY) ↔
      (f ent.sink).ring.length ≤ EventSink.EVENT_RING_CAPACITY := by
  refine (forall_mem_modify hb).trans ?_
  rw [he]
  simp

/-- The account stays right exactly where the step finds room. -/
theorem accounted_step (h : t.Balanced) (ha : t.Accounted) (inp : ClientFeedStep) :
    (t.step inp).Accounted ↔ t.Fits inp := by
  rw [(h.step inp).account_iff]
  obtain ⟨ho, hb⟩ := h.account_iff.mp ha
  cases inp with
  | record idx elapsedNs deviceId kind =>
    show (t.record idx elapsedNs deviceId kind).source.overflowTotal = 0 ∧ _ ↔ _ < _
    cases he : t.source.entries[idx]? with
    | none =>
      have hsm : t.record idx elapsedNs deviceId kind = t := by simp only [ClientFeed.record, he]
      have hn : t.source.buffered idx = [] := by simp [ClientDiagnosticsSource.buffered, he]
      show _ ∧ (∀ ent ∈ (t.record idx elapsedNs deviceId kind).source.entries, _) ↔ _
      rw [hsm, hn]
      exact iff_of_true ⟨ho, hb⟩ (by decide)
    | some ent =>
      have hs : (t.record idx elapsedNs deviceId kind).source =
          t.source.updateSink idx (·.record elapsedNs deviceId kind) := by
        simp only [ClientFeed.record, he]
      have hm := sum_updateSink EventSink.overflowDroppedTotal he (·.record elapsedNs deviceId kind)
      have hlen : ent.sink.ring.length ≤ EventSink.EVENT_RING_CAPACITY :=
        hb ent (mem_of_getElem? he)
      show _ ∧ (∀ ent ∈ (t.record idx elapsedNs deviceId kind).source.entries, _) ↔ _
      rw [hs, bounded_updateSink he _ hb, ring_record, length_append, length_drop, length_singleton,
        buffered_eq he]
      rw [overflow_record] at hm
      simp only [ClientDiagnosticsSource.overflowTotal] at ho ⊢
      omega
  | drain lim =>
    have hs : (t.step (.drain lim)).source = t.source := by
      show (t.begin lim).source = t.source
      unfold ClientFeed.begin
      split
      · rfl
      · split <;> rfl
    rw [hs]
    exact iff_of_true ⟨ho, hb⟩ trivial
  | advance =>
    show t.advance.source.overflowTotal = 0 ∧ (∀ ent ∈ t.advance.source.entries, _) ↔
      ∀ drain ∈ t.drain, _
    cases hd : t.drain with
    | none =>
      have hsm : t.advance = t := by simp only [ClientFeed.advance, hd]
      rw [hsm]
      exact iff_of_true ⟨ho, hb⟩ (by simp)
    | some drain =>
      cases drain with
      | taking _ idx =>
        obtain ⟨hi, -⟩ := h.placed _ hd
        have he := getElem?_eq_getElem hi
        have hs : t.advance.source = t.source.updateSink idx EventSink.taken := by
          simp only [ClientFeed.advance, hd, ClientFeed.take]
          split <;> rfl
        have hm := sum_updateSink EventSink.overflowDroppedTotal he EventSink.taken
        rw [hs, bounded_updateSink he _ hb]
        refine iff_of_true ⟨?_, Nat.zero_le _⟩ (by simp [RemainderFits])
        simp only [ClientDiagnosticsSource.overflowTotal, EventSink.taken] at hm ho ⊢
        omega
      | restoring _ remainder idx =>
        obtain ⟨hi, -⟩ := h.placed _ hd
        have he := getElem?_eq_getElem hi
        have hs : t.advance.source = t.source.updateSink idx
            (·.restore ((remainder.filter (·.index = idx)).map (·.event))) := by
          simp only [ClientFeed.advance, hd, ClientFeed.putBack]
          split <;> rfl
        have hm := sum_updateSink EventSink.overflowDroppedTotal
          he (·.restore ((remainder.filter (·.index = idx)).map (·.event)))
        rw [hs, bounded_updateSink he _ hb]
        simp only [ClientDiagnosticsSource.overflowTotal, EventSink.restore,
          length_append, length_map, RemainderFits, mem_def,
          Option.some.injEq, forall_eq', buffered_eq he]
          at hm ho ⊢
        omega

theorem Balanced.after (devs : List DeviceId) (audio : Option AudioDiagnosticsSnapshot)
    (steps : List ClientFeedStep) :
    (Mealy.run machine (ClientFeed.start devs audio) steps).Balanced :=
  @Mealy.run_invariant _ _ _ machine Balanced (fun _ inp h => Balanced.step h inp) _
    (.start devs audio) steps

theorem Accounted.start (devs : List DeviceId) (audio : Option AudioDiagnosticsSnapshot) :
    (ClientFeed.start devs audio).Accounted := by
  rw [(Balanced.start devs audio).account_iff]
  constructor
  · simp [ClientFeed.start, ClientDiagnosticsSource.fromParts,
      ClientDiagnosticsSource.overflowTotal, Function.comp_def]
  · intro ent he
    obtain ⟨_, -, rfl⟩ := mem_map.mp he
    exact Nat.zero_le _

/-- At every point of a run every event is accounted for and no sink is too
long, exactly when each step of the run finds room in the sink it writes to. -/
theorem accounted_iff (devices : List DeviceId) (audio : Option AudioDiagnosticsSnapshot)
    (steps : List ClientFeedStep) :
    (∀ before, before <+: steps →
        (Mealy.run machine (ClientFeed.start devices audio) before).Accounted) ↔
      Mealy.Along machine Fits (ClientFeed.start devices audio) steps :=
  @Mealy.forall_start_iff_along _ _ _ machine Balanced Accounted Fits
    (fun _ inp h => Balanced.step h inp)
    (fun _ inp h ha => accounted_step h ha inp) steps _
    (.start devices audio) (.start devices audio)

/-! ### A sink that overflows -/

/-- So many events were recorded, and nothing else happened. -/
structure Grown (t t' : ClientFeed) (n : Nat) : Prop where
  recorded : t'.recorded.length = t.recorded.length + n
  returned : t'.returned = t.returned
  drain : t'.drain = t.drain
  entries : t'.source.entries.length = t.source.entries.length

theorem grown_record (h : idx < t.source.entries.length) :
    Grown t (t.step (.record idx 0 none .feedback)) 1 := by
  have he := getElem?_eq_getElem h
  constructor <;> simp [step, ClientFeed.record, he]

theorem grown_replicate {t : ClientFeed} {idx : Nat} (h : idx < t.source.entries.length) (n : Nat) :
    Grown t (Mealy.run machine t (List.replicate n (.record idx 0 none .feedback))) n := by
  induction n generalizing t with
  | zero => exact ⟨rfl, rfl, rfl, rfl⟩
  | succ _ ih =>
    have ho := grown_record h
    have hr := ih (ho.entries ▸ h)
    rw [replicate_succ]
    refine ⟨hr.recorded.trans ?_, hr.returned.trans ho.returned,
      hr.drain.trans ho.drain, hr.entries.trans ho.entries⟩
    rw [ho.recorded]
    omega

/-- One connection records one event more than its sink holds, and nobody drains. -/
theorem overflow_unaccounted : ¬ (Mealy.run machine (ClientFeed.start [⟨1⟩] none)
      (List.replicate 257 (.record 0 0 none .feedback))).Accounted := by
  intro h
  have hg := @grown_replicate (ClientFeed.start [⟨1⟩] none) 0 (by decide) 257
  have hb := Balanced.after [⟨1⟩] none (List.replicate 257 (.record 0 0 none .feedback))
  generalize Mealy.run machine _ _ = t at h hg hb
  have hv := h.events
  have hn : t.inHand = 0 := by
    rw [inHand, hg.drain]
    rfl
  have hs : t.source.snapshot.clientEventsDroppedTotal = 0 := hb.silent
  have hr : t.recorded.length = 257 := hg.recorded
  have ht : t.returned.flatten.length = 0 := by
    rw [hg.returned]
    rfl
  obtain ⟨ent, he⟩ := length_eq_one_iff.mp (show t.source.entries.length = 1 from hg.entries)
  have hd : ent.sink.ring.length ≤ 256 := h.bounded ent (by simp [he])
  have hf : t.source.bufferedTotal = ent.sink.ring.length := by
    simp [ClientDiagnosticsSource.bufferedTotal, he]
  omega

end ClientFeed

end OpenAirCast.Diagnostics
