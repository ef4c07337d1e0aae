/-
Diagnostics.DrainOrderTheorems — client events are drained once,
and when they are drained in order.

`Moved` says what one step does to the events that were handed out (`out`)
and to those that wait (`waiting`). Both together never hold more than was
recorded, so nothing is returned twice. In `Behind` what waits is newer than
what was handed out. A drain empties the sinks one at a time: it keeps
`Behind` unless it hands out an event that is newer than one which came into
a sink after it was emptied. `Unhurried` rules that out.
-/
import OpenAirCast.Diagnostics.DrainTheorems
import Mathlib.Algebra.BigOperators.Group.List.Basic
import Mathlib.Algebra.Order.Group.Multiset

namespace OpenAirCast.Diagnostics

open Backend List ClientDiagnosticsSource Pooled

/-! ## Sorting the pool -/

instance : Std.Total le where
  total a b := by
    unfold le
    omega

instance : IsTrans Pooled le where
  trans a b c := by
    unfold le
    omega

theorem Pooled.le_elapsed {a b : Pooled} (h : a.le b) : a.event.elapsedNs ≤ b.event.elapsedNs := by
  unfold le at h
  omega

/-- In a sorted pool the events older than `x` come first. -/
theorem older_of_mem_take {x : Nat} : ∀ {pool : List Pooled}, pool.Pairwise le →
    ∀ {k : Nat}, k ≤ (pool.filter (·.event.elapsedNs < x)).length →
      ∀ p ∈ pool.take k, p.event.elapsedNs < x
  | [], _, _, _, p, hp => by simp at hp
  | first :: rest, hs, 0, _, p, hp => by simp at hp
  | first :: rest, hs, k + 1, hk, p, hp => by
      obtain ⟨hf, hr⟩ := pairwise_cons.mp hs
      by_cases hold : first.event.elapsedNs < x
      · rw [filter_cons_of_pos (by simpa using hold), length_cons] at hk
        rcases mem_cons.mp hp with rfl | hp
        · exact hold
        · exact older_of_mem_take hr (Nat.le_of_succ_le_succ hk) p hp
      · -- then nothing in the pool is older
        have hn : (first :: rest).filter (·.event.elapsedNs < x) = [] := by
          refine filter_eq_nil_iff.mpr (fun q hq => ?_)
          rw [decide_eq_true_eq]
          rcases mem_cons.mp hq with rfl | hq
          · exact hold
          · have hle := le_elapsed (hf q hq)
            omega
        rw [hn] at hk
        simp at hk

/-! ## Where the events are -/

def ClientDiagnosticsSource.inSinks (source : ClientDiagnosticsSource) :
    Multiset ClientDiagnosticEvent :=
  (source.entries.map (fun entry => (entry.sink.ring : Multiset ClientDiagnosticEvent))).sum

namespace ClientDiagnosticsSource

variable {source : ClientDiagnosticsSource} {index : Nat} {entry : EntryShared}

section

variable (h : source.entries[index]? = some entry)
include h

theorem inSinks_updateSink (f : EventSink → EventSink) :
    (source.updateSink index f).inSinks + entry.sink.ring = source.inSinks + (f entry.sink).ring :=
  sum_updateSink (fun sink => (sink.ring : Multiset ClientDiagnosticEvent)) h f

theorem inSinks_record (elapsedNs : Nat)
    (deviceId : Option DeviceId) (kind : ClientDiagnosticKind) :
    (source.updateSink index (·.record elapsedNs deviceId kind)).inSinks ≤
      source.inSinks + {entry.sink.stamped elapsedNs deviceId kind} := by
  have hs := inSinks_updateSink h (·.record elapsedNs deviceId kind)
  have hr : ((entry.sink.record elapsedNs deviceId kind).ring : Multiset ClientDiagnosticEvent) ≤
      {entry.sink.stamped elapsedNs deviceId kind} + entry.sink.ring := by
    rw [EventSink.ring_record, ← Multiset.coe_add, add_comm]
    exact add_le_add_right (Multiset.coe_le.mpr (drop_sublist _ _).subperm) _
  refine le_of_add_le_add_right (a := (entry.sink.ring : Multiset ClientDiagnosticEvent)) ?_
  rw [hs, add_assoc]
  exact add_le_add_right hr _

theorem inSinks_taken : (source.updateSink index EventSink.taken).inSinks + source.buffered index =
      source.inSinks := by
  rw [buffered_eq h, inSinks_updateSink h]
  exact add_zero _

theorem inSinks_restore (items : List ClientDiagnosticEvent) :
    (source.updateSink index (·.restore items)).inSinks = source.inSinks + items := by
  have hs := inSinks_updateSink h (·.restore items)
  refine add_right_cancel (b := (entry.sink.ring : Multiset ClientDiagnosticEvent)) ?_
  rw [hs, EventSink.restore, ← Multiset.coe_add, add_assoc,
    add_comm (items : Multiset ClientDiagnosticEvent)]

end

end ClientDiagnosticsSource

/-- What a drain has taken and is not going to return. -/
def Drain.waiting : Drain → List ClientDiagnosticEvent
  | .taking _ _ pooled => pooled.map (·.event)
  | .restoring _ remainder index => (remainder.filter (fun p => index ≤ p.index)).map (·.event)

/-- What a drain is going to return. -/
def Drain.handed : Drain → List ClientDiagnosticEvent
  | .taking _ _ _ => []
  | .restoring drained _ _ => drained

namespace ClientFeed

variable {input : ClientFeedStep}

/-- What was returned or is about to be, first to last. -/
def out (t : ClientFeed) : List ClientDiagnosticEvent :=
  t.returned.flatten ++ t.drain.elim [] Drain.handed

def waiting (t : ClientFeed) : Multiset ClientDiagnosticEvent :=
  t.source.inSinks + (t.drain.elim [] Drain.waiting : List ClientDiagnosticEvent)

variable (source : ClientDiagnosticsSource)

/-- The pool after the last sink. -/
def fullPool (index : Nat) (pooled : List Pooled) : List Pooled :=
  pooled ++ (source.buffered index).map (⟨index, ·⟩)

/-- What a step does. -/
inductive Moved (t : ClientFeed) (input : ClientFeedStep) (t' : ClientFeed) : Prop
  | stays (out : t'.out = t.out) (waiting : t'.waiting = t.waiting)
      (recorded : t'.recorded = t.recorded)
  /-- An event comes, and others may have to make room for it. -/
  | records (index : Nat) (event : ClientDiagnosticEvent)
      (named : input = .record index event.elapsedNs event.deviceId event.kind)
      (out : t'.out = t.out) (waiting : t'.waiting ≤ t.waiting + {event})
      (recorded : t'.recorded = t.recorded ++ [event])
  /-- The last sink is emptied, and the pool is split. -/
  | hands (limit index : Nat) (pooled : List Pooled)
      (named : input = .advance) (drain : t.drain = some (.taking limit index pooled))
      (last : ¬ index + 1 < t.source.entries.length)
      (out : t'.out = t.out ++
        (((fullPool t.source index pooled).insertionSort le).take limit).map (·.event))
      (pool : t.waiting = (t.source.updateSink index EventSink.taken).inSinks +
        ((fullPool t.source index pooled).map (·.event) : List ClientDiagnosticEvent))
      (waiting : t'.waiting = (t.source.updateSink index EventSink.taken).inSinks +
        ((((fullPool t.source index pooled).insertionSort le).drop limit).map (·.event) :
          List ClientDiagnosticEvent))
      (recorded : t'.recorded = t.recorded)

variable {t : ClientFeed}

theorem moved_record (index elNs : Nat) (devId : Option DeviceId) (kind : ClientDiagnosticKind) :
    Moved t (.record index elNs devId kind) (t.record index elNs devId kind) := by
  unfold ClientFeed.record
  cases he : t.source.entries[index]? with
  | none => exact .stays rfl rfl rfl
  | some entry =>
    refine .records index (entry.sink.stamped elNs devId kind) rfl rfl ?_ rfl
    dsimp only [waiting]
    rw [add_right_comm]
    exact add_le_add_left (inSinks_record he elNs devId kind) _

theorem moved_begin (lim : Nat) : Moved t (.drain lim) (t.begin lim) := by
  unfold ClientFeed.begin
  cases hd : t.drain with
  | some => exact .stays rfl rfl rfl
  | none =>
    dsimp only
    split
    · refine .stays ?_ ?_ rfl
      · simp [out, hd]
      · simp [waiting, hd]
    · refine .stays ?_ ?_ rfl
      · simp [out, hd, Drain.handed]
      · simp [waiting, hd, Drain.waiting]

theorem moved_take (h : t.Balanced) {lim index : Nat} {pooled : List Pooled}
    (hd : t.drain = some (.taking lim index pooled)) :
    Moved t .advance (t.take lim index pooled) := by
  obtain ⟨hi, -⟩ := h.placed _ hd
  have he := getElem?_eq_getElem hi
  have hp : t.waiting = (t.source.updateSink index EventSink.taken).inSinks +
      ((fullPool t.source index pooled).map (·.event) : List ClientDiagnosticEvent) := by
    have hv : (fullPool t.source index pooled).map (·.event) =
        pooled.map (·.event) ++ t.source.buffered index := by
      simp [fullPool, Function.comp_def]
    rw [waiting, hd, ← inSinks_taken he, hv,
      ← Multiset.coe_add, add_comm (pooled.map (·.event) : Multiset ClientDiagnosticEvent),
      ← add_assoc]
    rfl
  unfold ClientFeed.take
  dsimp only
  split
  · refine .stays ?_ ?_ rfl
    · simp [out, hd, Drain.handed]
    · rw [hp]
      rfl
  · rename_i hl
    refine .hands lim index pooled rfl hd hl ?_ hp ?_ rfl
    · simp [out, hd, Drain.handed, fullPool]
    · simp [waiting, Drain.waiting, fullPool]

theorem moved_putBack (h : t.Balanced) {drained : List ClientDiagnosticEvent}
    {remainder : List Pooled} {index : Nat}
    (hd : t.drain = some (.restoring drained remainder index)) :
    Moved t .advance (t.putBack drained remainder index) := by
  obtain ⟨hi, hr⟩ := h.placed _ hd
  have he := getElem?_eq_getElem hi
  have hw : t.waiting = (t.source.updateSink index
      (·.restore ((remainder.filter (·.index = index)).map (·.event)))).inSinks +
      ((remainder.filter (fun p => index + 1 ≤ p.index)).map (·.event) :
        List ClientDiagnosticEvent) := by
    have hpr := (filter_le_index_perm remainder index).map (·.event)
    rw [waiting, hd, inSinks_restore he, add_assoc,
      Multiset.coe_add, ← map_append, ← Multiset.coe_eq_coe.mpr hpr]
    rfl
  unfold ClientFeed.putBack
  dsimp only
  split
  · refine .stays ?_ ?_ rfl
    · simp [out, hd, Drain.handed]
    · rw [hw]
      rfl
  · rename_i hl
    have hs : remainder.filter (fun p => index + 1 ≤ p.index) = [] := by
      rw [filter_eq_nil_iff]
      intro p hp
      have hlt := hr p hp
      simp only [decide_eq_true_eq]
      omega
    refine .stays ?_ ?_ rfl
    · simp [out, hd, Drain.handed]
    · rw [hw, hs]
      rfl

theorem moved (h : t.Balanced) (input : ClientFeedStep) : Moved t input (t.step input) := by
  cases input with
  | record index elNs devId kind => exact moved_record index elNs devId kind
  | drain lim => exact moved_begin lim
  | advance =>
    show Moved t .advance t.advance
    unfold ClientFeed.advance
    split
    · exact .stays rfl rfl rfl
    · rename_i hd
      exact moved_take h hd
    · rename_i hd
      exact moved_putBack h hd

/-! ## Nothing twice -/

/-- A drain moves events about, and loses none. -/
theorem Moved.account {input : ClientFeedStep} {t' : ClientFeed} (h : Moved t input t')
    (hinp : ∀ index elNs devId kind, input ≠ .record index elNs devId kind) :
    (t'.out : Multiset ClientDiagnosticEvent) + t'.waiting = t.out + t.waiting ∧
      t'.recorded = t.recorded := by
  cases h with
  | stays hout hwt hrec => exact ⟨by rw [hout, hwt], hrec⟩
  | records _ _ named => exact absurd named (hinp _ _ _ _)
  | hands lim index pooled _ _ _ hout hpl hwt hrec =>
    have hpr := ((perm_insertionSort le (fullPool t.source index pooled)).map (·.event))
    refine ⟨?_, hrec⟩
    rw [hout, hwt, hpl, ← Multiset.coe_eq_coe.mpr hpr, ← Multiset.coe_add, add_assoc,
      add_left_comm (((fullPool t.source index pooled).insertionSort le).take lim |>.map
        (·.event) : Multiset ClientDiagnosticEvent), Multiset.coe_add, ← map_append,
      take_append_drop]

/-- What was handed out and what waits was recorded, each event once. -/
def Kept (t : ClientFeed) : Prop :=
  (t.out : Multiset ClientDiagnosticEvent) + t.waiting ≤ t.recorded

variable {t' : ClientFeed}

theorem Kept.moved (h : t.Kept) (hmov : Moved t input t') : t'.Kept := by
  unfold Kept at h ⊢
  by_cases hinp : ∀ index elNs devId kind, input ≠ .record index elNs devId kind
  · obtain ⟨hacc, hrc⟩ := hmov.account hinp
    rw [hacc, hrc]
    exact h
  · cases hmov with
    | stays hout hwt hrc => rwa [hout, hwt, hrc]
    | records _ _ _ hout hwt hrc =>
      rw [hout, hrc, ← Multiset.coe_add]
      refine (add_le_add_right hwt _).trans ?_
      rw [← add_assoc]
      exact add_le_add_left h _
    | hands _ _ _ named => exact absurd (fun _ _ _ _ hrec => by rw [named] at hrec; cases hrec) hinp

theorem mem_recorded (h : t.Kept) {e : ClientDiagnosticEvent}
    (he : e ∈ t.out ∨ e ∈ t.waiting) : e ∈ t.recorded := by
  refine Multiset.mem_coe.mp (Multiset.mem_of_le h (Multiset.mem_add.mpr ?_))
  exact he.imp_left Multiset.mem_coe.mpr

/-- The clock strictly increases. -/
def Ticks (t : ClientFeed) : ClientFeedStep → Prop
  | .record _ elapsedNs _ _ => ∀ e ∈ t.recorded, e.elapsedNs < elapsedNs
  | .drain _ | .advance => True

/-- What was recorded later is newer. -/
def Clocked (t : ClientFeed) : Prop :=
  t.recorded.Pairwise (fun a b => a.elapsedNs < b.elapsedNs)

theorem Clocked.moved (h : t.Clocked)
    (htic : t.Ticks input) (hmov : Moved t input t') : t'.Clocked := by
  unfold Clocked at h ⊢
  cases hmov with
  | stays _ _ hrec => rwa [hrec]
  | records _ _ named _ _ hrec =>
    subst named
    rw [hrec]
    refine pairwise_append.mpr ⟨h, by simp, fun e he last hls => ?_⟩
    rw [mem_singleton.mp hls]
    exact htic e he
  | hands _ _ _ _ _ _ _ _ _ hrec => rwa [hrec]

/-- Of two recorded events that are not the same, one is newer. -/
theorem Clocked.elapsed_ne (h : t.Clocked) {a b : ClientDiagnosticEvent} (ha : a ∈ t.recorded)
    (hb : b ∈ t.recorded) (hne : a ≠ b) : a.elapsedNs ≠ b.elapsedNs := by
  have hs : (t.recorded.map (·.elapsedNs)).Nodup := by
    rw [List.Nodup, pairwise_map]
    exact h.imp Nat.ne_of_lt
  exact fun heq => hne (inj_on_of_nodup_map hs ha hb heq)

theorem Clocked.nodup (h : t.Clocked) : t.recorded.Nodup :=
  h.imp (fun hlt heq => by rw [heq] at hlt; omega)

/-! ## In order -/

/-- What was handed out is in order, and what waits is newer. -/
structure Behind (t : ClientFeed) : Prop where
  sorted : t.out.Pairwise (fun a b => a.elapsedNs < b.elapsedNs)
  newer : ∀ e ∈ t.out, ∀ x ∈ t.waiting, e.elapsedNs < x.elapsedNs

/-- When its last sink is emptied, a drain has enough events to hand out that are
older than every event that came into a sink behind it. -/
def EnoughOlder : Drain → Prop
  | .taking limit index pooled => ¬ index + 1 < source.entries.length →
      ∀ x ∈ (source.updateSink index EventSink.taken).inSinks,
        min limit (fullPool source index pooled).length ≤
          ((fullPool source index pooled).filter (·.event.elapsedNs < x.elapsedNs)).length
  | .restoring _ _ _ => True

def Unhurried (t : ClientFeed) : ClientFeedStep → Prop
  | .record _ _ _ _ | .drain _ => True
  | .advance => ∀ drain ∈ t.drain, EnoughOlder t.source drain

instance (source : ClientDiagnosticsSource) : DecidablePred (EnoughOlder source)
  | .taking _ _ _ => inferInstanceAs (Decidable (_ → _))
  | .restoring _ _ _ => inferInstanceAs (Decidable True)

instance (t : ClientFeed) : DecidablePred t.Unhurried
  | .record _ _ _ _ | .drain _ => inferInstanceAs (Decidable True)
  | .advance => inferInstanceAs (Decidable (∀ drain ∈ t.drain, EnoughOlder t.source drain))

instance (t : ClientFeed) : DecidablePred t.Ticks
  | .record _ elapsedNs _ _ =>
    inferInstanceAs (Decidable (∀ e ∈ t.recorded, e.elapsedNs < elapsedNs))
  | .drain _ | .advance => inferInstanceAs (Decidable True)

/-- The part of a sorted pool that is handed out. -/
theorem handed_sorted (hk : t.Kept) (hc : t.Clocked) {pool : List Pooled}
    {sinks : Multiset ClientDiagnosticEvent}
    (hw : t.waiting = sinks + (pool.map (·.event) : List ClientDiagnosticEvent)) :
    ((pool.insertionSort le).map (·.event)).Pairwise (fun a b => a.elapsedNs < b.elapsedNs) := by
  have hr := (perm_insertionSort le pool).map (·.event)
  have hwaits : ∀ p ∈ pool.insertionSort le, p.event ∈ t.recorded := by
    intro p hp
    refine mem_recorded hk (.inr ?_)
    rw [hw]
    refine Multiset.mem_add.mpr (.inr (Multiset.mem_coe.mpr ?_))
    exact mem_map_of_mem ((mem_insertionSort _).mp hp)
  have hn : ((pool.insertionSort le).map (·.event)).Nodup := by
    rw [hr.nodup_iff, ← Multiset.coe_nodup]
    refine Multiset.nodup_of_le ?_ (Multiset.coe_nodup.mpr hc.nodup)
    refine le_trans ?_ hk
    rw [hw, ← add_assoc]
    exact Multiset.le_add_left _ _
  rw [pairwise_map]
  rw [List.Nodup, pairwise_map] at hn
  refine ((pairwise_insertionSort le pool).and hn).imp_of_mem ?_
  rintro a b ha hb ⟨hle, hne⟩
  exact lt_of_le_of_ne (le_elapsed hle) (hc.elapsed_ne (hwaits a ha) (hwaits b hb) hne)

theorem Behind.moved (h : t.Behind) (hkp : t.Kept)
    (hcl : t.Clocked) (htic : t.Ticks input) (hunh : t.Unhurried input)
    (hmov : Moved t input t') : t'.Behind := by
  cases hmov with
  | stays hout hwt => exact ⟨hout ▸ h.sorted, hout ▸ hwt ▸ h.newer⟩
  | records _ _ named hout hwt =>
    subst named
    refine ⟨hout ▸ h.sorted, fun e he x hx => ?_⟩
    rw [hout] at he
    rcases Multiset.mem_add.mp (Multiset.mem_of_le hwt hx) with hold | hnew
    · exact h.newer e he x hold
    · rw [Multiset.mem_singleton.mp hnew]
      exact htic e (mem_recorded hkp (.inl he))
  | hands lim index pooled named drain last hout hpl hwt =>
    subst named
    have hsor := handed_sorted hkp hcl hpl
    have hpr := perm_insertionSort le (fullPool t.source index pooled)
    generalize hsr : (fullPool t.source index pooled).insertionSort le = sorted at hsor hpr hout hwt
    rw [← take_append_drop lim sorted, map_append, pairwise_append] at hsor
    have hwaits : ∀ p ∈ sorted, p.event ∈ t.waiting := by
      intro p hp
      rw [hpl]
      refine Multiset.mem_add.mpr (.inr (Multiset.mem_coe.mpr ?_))
      exact mem_map_of_mem (hpr.mem_iff.mp hp)
    refine ⟨?_, fun e he x hx => ?_⟩
    · rw [hout, pairwise_append]
      refine ⟨h.sorted, hsor.1, fun e he x hx => ?_⟩
      obtain ⟨p, hp, rfl⟩ := mem_map.mp hx
      exact h.newer e he _ (hwaits p (mem_of_mem_take hp))
    · rw [hwt] at hx
      rw [hout] at he
      rcases mem_append.mp he with hold | hnew
      · -- returned before: everything that waited was newer
        refine h.newer e hold x ?_
        rcases Multiset.mem_add.mp hx with hsn | hrs
        · rw [hpl]
          exact Multiset.mem_add.mpr (.inl hsn)
        · obtain ⟨p, hp, rfl⟩ := mem_map.mp (Multiset.mem_coe.mp hrs)
          exact hwaits p (mem_of_mem_drop hp)
      · rcases Multiset.mem_add.mp hx with hsn | hrs
        · -- behind the drain: there are enough older events
          obtain ⟨p, _, rfl⟩ := mem_map.mp hnew
          have heno := hunh _ drain last x hsn
          have hfil := (hpr.filter (·.event.elapsedNs < x.elapsedNs)).length_eq
          rw [← hfil] at heno
          refine older_of_mem_take (hsr ▸ pairwise_insertionSort le _) heno p ?_
          rwa [← hpr.length_eq, ← take_eq_take_min]
        · exact hsor.2.2 e hnew x (Multiset.mem_coe.mp hrs)

/-- All that a run keeps. -/
structure Tidy (t : ClientFeed) : Prop where
  balanced : t.Balanced
  kept : t.Kept
  clocked : t.Clocked

theorem Tidy.start (devs : List DeviceId) (audio : Option AudioDiagnosticsSnapshot) :
    (ClientFeed.start devs audio).Tidy where
  balanced := .start devs audio
  kept := by
    have hs : (ClientFeed.start devs audio).source.inSinks = 0 := by
      simp [ClientFeed.start, ClientDiagnosticsSource.fromParts, ClientDiagnosticsSource.inSinks,
        Function.comp_def, sum_replicate]
    rw [Kept, waiting, hs]
    exact le_refl _
  clocked := List.Pairwise.nil

theorem Tidy.step (h : t.Tidy) (input : ClientFeedStep) (ht : t.Ticks input) :
    (t.step input).Tidy :=
  ⟨h.balanced.step input, h.kept.moved (moved h.balanced input),
    h.clocked.moved ht (moved h.balanced input)⟩

theorem Tidy.after {devs : List DeviceId} {audio : Option AudioDiagnosticsSnapshot}
    {steps : List ClientFeedStep}
    (hc : Mealy.Along machine Ticks (ClientFeed.start devs audio) steps) :
    (Mealy.run machine (ClientFeed.start devs audio) steps).Tidy :=
  @Mealy.along_invariant _ _ _ machine Tidy Ticks (fun _ input ht h => h.step input ht) steps
    _ hc (.start devs audio)

theorem Behind.start (devs : List DeviceId) (audio : Option AudioDiagnosticsSnapshot) :
    (ClientFeed.start devs audio).Behind :=
  ⟨List.Pairwise.nil, by simp [ClientFeed.start, out]⟩

/-- Under a clock that strictly increases no event is returned twice, and the
batches are in order where no drain overtakes an event that came into a sink
behind it. -/
theorem drained_in_order (devices : List DeviceId) (audio : Option AudioDiagnosticsSnapshot)
    (steps : List ClientFeedStep)
    (hclock : Mealy.Along machine Ticks (ClientFeed.start devices audio) steps) :
    (Mealy.run machine (ClientFeed.start devices audio) steps).returned.flatten.Nodup ∧
      (Mealy.Along machine Unhurried (ClientFeed.start devices audio) steps →
        (Mealy.run machine (ClientFeed.start devices audio) steps).returned.flatten.Pairwise
          (fun a b => a.elapsedNs < b.elapsedNs)) := by
  constructor
  · have h := Tidy.after hclock
    have ho := Multiset.nodup_of_le ((Multiset.le_add_right _ _).trans h.kept)
      (Multiset.coe_nodup.mpr h.clocked.nodup)
    exact (nodup_append.mp (Multiset.coe_nodup.mp ho)).1
  · intro hu
    have h := @Mealy.along_invariant _ _ _ machine (fun t => t.Tidy ∧ t.Behind)
      (fun t input => t.Ticks input ∧ t.Unhurried input)
      (fun _ input hc h => ⟨h.1.step input hc.1,
        h.2.moved h.1.kept h.1.clocked hc.1 hc.2 (moved h.1.balanced input)⟩) steps _
      ((Mealy.along_and steps).mpr ⟨hclock, hu⟩) ⟨.start devices audio, .start devices audio⟩
    exact (pairwise_append.mp h.2.sorted).1

/-- Two connections record in turn, the second between the two halves of a drain. -/
def inTurn (between : Nat) : List ClientFeedStep :=
  [.record 1 1 none .feedback, .drain 8, .advance, .record between 2 none .feedback,
    .record 1 3 none .feedback, .advance, .advance, .advance, .drain 8,
    .advance, .advance, .advance,
    .advance]

theorem drained_in_order_inTurn :
    (Mealy.run machine (ClientFeed.start [⟨1⟩, ⟨2⟩] none) (inTurn 1)).returned.flatten.Pairwise
      (fun a b => a.elapsedNs < b.elapsedNs) :=
  (drained_in_order [⟨1⟩, ⟨2⟩] none (inTurn 1) (by decide)).2 (by decide)

/-- An event comes into the first sink when it is emptied, and a newer one into
the second before it is: the newer one is returned first. -/
theorem overtaken : Mealy.Along machine Ticks (ClientFeed.start [⟨1⟩, ⟨2⟩] none) (inTurn 0) ∧
      ¬ (Mealy.run machine (ClientFeed.start [⟨1⟩, ⟨2⟩] none) (inTurn 0)).returned.flatten.Pairwise
        (fun a b => a.elapsedNs < b.elapsedNs) := by decide

end ClientFeed

end OpenAirCast.Diagnostics
