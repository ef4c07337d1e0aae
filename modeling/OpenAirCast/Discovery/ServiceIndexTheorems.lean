/-
Discovery.ServiceIndexTheorems — a receiver is known while it
is advertised, as long as no two names share a slot.

`Faithful` says that the rows show exactly what the key map says. A slot is
cleared by kind alone, so taking a key away from a receiver clears what
another key of that kind has put there; `takesShared` is that step.
`faithful_iff` shows that a run stays faithful exactly when it takes no
such step.
-/
import OpenAirCast.Discovery.ServiceIndex
import OpenAirCast.Lib.Mealy

namespace OpenAirCast.Discovery

open ServiceIndex Option ReceiverServices

namespace ReceiverServices

variable (services : ReceiverServices)

@[simp] theorem slot_setSlot (kind other : ServiceKind) (record : Option Device) :
    (services.setSlot kind record).slot other =
      if other = kind then record else services.slot other := by
  cases kind <;> cases other <;> rfl

theorem isEmpty_iff : services.isEmpty = true ↔ ∀ kind, services.slot kind = none := by
  unfold isEmpty
  rw [Bool.and_eq_true, isNone_iff_eq_none, isNone_iff_eq_none]
  constructor
  · rintro ⟨ha, hr⟩ kind
    cases kind
    · exact ha
    · exact hr
  · exact fun h => ⟨h .airplay, h .raop⟩

end ReceiverServices

namespace ServiceIndex

variable {index : ServiceIndex}

variable (index) (receiver : DeviceId)

/-- The record in a receiver's slot. -/
def slot (kind : ServiceKind) : Option Device :=
  (index.resolvers receiver).bind (·.slot kind)

@[simp] theorem resolve_setReceiver (key other : ServiceKey) (receiver : Option DeviceId) :
    (index.setReceiver key receiver).resolve other =
      if other = key then receiver else index.resolve other := rfl

@[simp] theorem slot_setReceiver (key : ServiceKey)
    (receiver : Option DeviceId) : (index.setReceiver key receiver).slot = index.slot := rfl

@[simp] theorem resolvers_setReceiver (key : ServiceKey) (receiver : Option DeviceId) :
    (index.setReceiver key receiver).resolvers = index.resolvers := rfl

/-- No row is empty. -/
def Tidy : Prop :=
  ∀ receiver services, index.resolvers receiver = some services → services.isEmpty = false

variable {index}

theorem Tidy.row_iff (h : index.Tidy) (receiver : DeviceId) :
    index.contains receiver = true ↔ ∃ kind, (index.slot receiver kind).isSome = true := by
  unfold contains slot
  cases hr : index.resolvers receiver with
  | none => simp
  | some services =>
    have hf := h receiver services hr
    simp only [isSome_some, bind_some, true_iff]
    by_contra hn
    simp only [not_exists, Bool.not_eq_true, isSome_eq_false_iff, isNone_iff_eq_none] at hn
    rw [services.isEmpty_iff.mpr hn] at hf
    cases hf

/-! ## What the operations do -/

variable (index)

@[simp] theorem resolve_clearServiceSlot
    (key : ServiceKey) : (index.clearServiceSlot receiver key).resolve = index.resolve := by
  unfold clearServiceSlot
  split <;> rfl

theorem slot_setRow (row : Option ReceiverServices) (other : DeviceId) (kind : ServiceKind) :
    (index.setRow receiver row).slot other kind =
      if other = receiver then row.bind (·.slot kind) else index.slot other kind := by
  unfold slot setRow
  dsimp only
  split <;> rfl

@[simp] theorem slot_clearServiceSlot (key : ServiceKey) (other : DeviceId) (kind : ServiceKind) :
    (index.clearServiceSlot receiver key).slot other kind =
      if other = receiver ∧ kind = key.kind then none else index.slot other kind := by
  unfold clearServiceSlot
  cases hr : index.resolvers receiver with
  | none =>
    dsimp only
    split
    · rename_i ha
      rw [ha.1, slot, hr]
      rfl
    · rfl
  | some services =>
    dsimp only
    rw [slot_setRow]
    by_cases ho : other = receiver
    · subst ho
      have hs : ((if (services.setSlot key.kind none).isEmpty then none
          else some (services.setSlot key.kind none)).bind (·.slot kind)) =
            (services.setSlot key.kind none).slot kind := by
        split
        · rename_i he
          rw [(isEmpty_iff _).mp he kind]
          rfl
        · rfl
      rw [if_pos rfl, hs, slot_setSlot, slot, hr]
      simp
    · simp [ho]

variable {index}

theorem Tidy.clearServiceSlot (h : index.Tidy) (receiver : DeviceId)
    (key : ServiceKey) : (index.clearServiceSlot receiver key).Tidy := by
  intro other services hr
  unfold ServiceIndex.clearServiceSlot at hr
  cases hold : index.resolvers receiver with
  | none =>
    rw [hold] at hr
    exact h other services hr
  | some old =>
    rw [hold] at hr
    dsimp only [setRow] at hr
    by_cases ho : other = receiver
    · rw [if_pos ho] at hr
      split at hr
      · cases hr
      · rename_i hf
        cases hr
        simpa using hf
    · rw [if_neg ho] at hr
      exact h other services hr

@[simp] theorem resolve_remap (index : ServiceIndex) (key other : ServiceKey)
    (receiver : DeviceId) :
    (index.remap key receiver).resolve other =
      if other = key then some receiver else index.resolve other := by
  unfold remap
  dsimp only
  split
  · split <;> simp
  · simp

theorem slot_remap (index : ServiceIndex) (key : ServiceKey) (receiver other : DeviceId)
    (kind : ServiceKind) :
    (index.remap key receiver).slot other kind =
      if index.resolve key = some other ∧ other ≠ receiver ∧ kind = key.kind then none
      else index.slot other kind := by
  unfold remap
  dsimp only
  cases hold : index.resolve key with
  | none => simp
  | some prev =>
    dsimp only
    by_cases hs : prev = receiver
    · subst hs
      by_cases ho : prev = other <;> simp [ho]
    · rw [if_pos hs, slot_clearServiceSlot, slot_setReceiver]
      by_cases ho : other = prev
      · subst ho
        simp [hs]
      · have hf : ¬ prev = other := fun heq => ho heq.symm
        simp [ho, hf]

theorem Tidy.remap (h : index.Tidy) (key : ServiceKey)
    (receiver : DeviceId) : (index.remap key receiver).Tidy := by
  unfold ServiceIndex.remap
  dsimp only
  have hs : (index.setReceiver key (some receiver)).Tidy := h
  split
  · split
    · exact hs.clearServiceSlot _ _
    · exact hs
  · exact hs

@[simp] theorem slot_fill (index : ServiceIndex) (key : ServiceKey) (dev : Device)
    (other : DeviceId) (kind : ServiceKind) :
    (index.fill key dev).slot other kind =
      if other = dev.id ∧ kind = key.kind then some dev else index.slot other kind := by
  unfold fill
  rw [slot_setRow]
  by_cases ho : other = dev.id
  · subst ho
    rw [if_pos rfl, bind_some, slot_setSlot]
    by_cases hk : kind = key.kind
    · simp [hk]
    · have he : ({} : ReceiverServices).slot kind = none := by cases kind <;> rfl
      unfold slot
      cases index.resolvers dev.id <;> simp [hk, he]
  · simp [ho]

theorem Tidy.fill (h : index.Tidy) (key : ServiceKey)
    (dev : Device) : (index.fill key dev).Tidy := by
  intro other services hr
  dsimp only [ServiceIndex.fill, setRow] at hr
  by_cases ho : other = dev.id
  · rw [if_pos ho] at hr
    cases hr
    by_contra he
    have hn := (isEmpty_iff _).mp (by simpa using he) key.kind
    simp at hn
  · rw [if_neg ho] at hr
    exact h other services hr

variable (index)

theorem removalEvent_index (key : ServiceKey) :
    (index.removalEvent key).1 = (index.remove key).1 := by
  unfold removalEvent remove
  cases index.resolve key with
  | none => rfl
  | some => cases key.kind <;> rfl

@[simp] theorem resolve_remove (key other : ServiceKey) :
    (index.remove key).1.resolve other = if other = key then none else index.resolve other := by
  unfold remove
  cases hold : index.resolve key with
  | none =>
    dsimp only
    split
    · rename_i hk
      rw [hk, hold]
    · rfl
  | some => simp

theorem slot_remove (key : ServiceKey) (other : DeviceId) (kind : ServiceKind) :
    (index.remove key).1.slot other kind =
      if index.resolve key = some other ∧ kind = key.kind then none
      else index.slot other kind := by
  unfold remove
  cases hold : index.resolve key with
  | none => simp
  | some =>
    rw [slot_clearServiceSlot, slot_setReceiver]
    simp [eq_comm]

variable {index}

theorem Tidy.remove (h : index.Tidy) (key : ServiceKey) : (index.remove key).1.Tidy := by
  unfold ServiceIndex.remove
  split
  · exact h
  · have hs : (index.setReceiver key none).Tidy := h
    exact hs.clearServiceSlot _ _

end ServiceIndex

namespace Browsed

variable {s : Browsed} {receiver : DeviceId} {key : ServiceKey}

/-! ## Faithful rows -/

/-- The rows show what is advertised: a slot is filled exactly while a key
of its kind maps to the receiver, with the record resolved last under such
a key, and a row exists exactly while any key maps to it. -/
structure Faithful (s : Browsed) : Prop where
  filled : ∀ receiver kind, (s.index.slot receiver kind).isSome = true ↔
    ∃ key : ServiceKey, key.kind = kind ∧ s.index.resolve key = some receiver
  newest : ∀ receiver kind record, s.index.slot receiver kind = some record →
    s.newest receiver kind = some record
  row : ∀ receiver, s.index.contains receiver = true ↔ ∃ key, s.index.resolve key = some receiver

/-- Rows are tidy, and what is mapped has been resolved. -/
structure Logged (s : Browsed) : Prop where
  tidy : s.index.Tidy
  resolved : ∀ key receiver, s.index.resolve key = some receiver →
    ∃ device, (key, device) ∈ s.resolutions

/-- The key and the receiver it is taken away from. -/
def takes (s : Browsed) : ServiceEvent → Option (ServiceKey × DeviceId)
  | .resolved key device =>
    ((s.index.resolve key).filter (fun previous => decide (previous ≠ device.id))).map
      (fun previous => (key, previous))
  | .removed key => (s.index.resolve key).map (fun previous => (key, previous))

/-- A key is taken away from a receiver to which another key of its kind
still maps. -/
def TakesShared (s : Browsed) (event : ServiceEvent) : Prop :=
  ∃ key receiver, s.takes event = some (key, receiver) ∧
    ∃ other, other ≠ key ∧ other.kind = key.kind ∧ s.index.resolve other = some receiver

theorem newest_isSome (h : s.Logged) (receiver : DeviceId) (kind : ServiceKind) :
    (s.newest receiver kind).isSome = true ↔
      ∃ key : ServiceKey, key.kind = kind ∧ s.index.resolve key = some receiver := by
  unfold newest
  rw [isSome_map, List.find?_isSome]
  constructor
  · rintro ⟨resolution, -, hm⟩
    exact ⟨resolution.1, of_decide_eq_true hm⟩
  · rintro ⟨key, hm⟩
    obtain ⟨dev, hmem⟩ := h.resolved key receiver hm.2
    exact ⟨(key, dev), hmem, decide_eq_true hm⟩

/-- A run is faithful where every slot shows the newest record. -/
theorem faithful_iff (h : s.Logged) :
    s.Faithful ↔ ∀ receiver kind, s.index.slot receiver kind = s.newest receiver kind := by
  constructor
  · intro hf receiver kind
    cases hs : s.index.slot receiver kind with
    | some record => exact (hf.newest receiver kind record hs).symm
    | none =>
      cases hn : s.newest receiver kind with
      | none => rfl
      | some =>
        have hk := (newest_isSome h receiver kind).mp (by rw [hn]; rfl)
        have hl := (hf.filled receiver kind).mpr hk
        rw [hs] at hl
        cases hl
  · intro hslots
    refine ⟨fun receiver kind => ?_, fun receiver kind record hs => ?_, fun receiver => ?_⟩
    · rw [hslots]
      exact newest_isSome h receiver kind
    · rw [← hslots]
      exact hs
    · rw [h.tidy.row_iff]
      constructor
      · rintro ⟨kind, hl⟩
        rw [hslots, newest_isSome h] at hl
        obtain ⟨key, -, hm⟩ := hl
        exact ⟨key, hm⟩
      · rintro ⟨key, hm⟩
        refine ⟨key.kind, ?_⟩
        rw [hslots, newest_isSome h]
        exact ⟨key, rfl, hm⟩

/-! ## One step -/

theorem step_index_resolved (s : Browsed) (key : ServiceKey) (dev : Device) :
    (s.step (.resolved key dev)).1 =
      ⟨(s.index.remap key dev.id).fill key dev, (key, dev) :: s.resolutions⟩ := rfl

theorem step_index_removed (s : Browsed) (key : ServiceKey) :
    (s.step (.removed key)).1 = ⟨(s.index.remove key).1, s.resolutions⟩ := by
  unfold step
  dsimp only
  rw [removalEvent_index]

/-- No event maps a name that was not resolved. -/
theorem step_logged (h : s.Logged) (ev : ServiceEvent) : (s.step ev).1.Logged := by
  cases ev with
  | resolved key dev =>
    rw [step_index_resolved]
    refine ⟨(h.tidy.remap key dev.id).fill key dev, fun other receiver hm => ?_⟩
    have hr : (s.index.remap key dev.id).resolve other = some receiver := hm
    rw [resolve_remap] at hr
    split at hr
    · rename_i hk
      exact ⟨dev, by rw [hk]; exact List.mem_cons_self⟩
    · obtain ⟨record, hmem⟩ := h.resolved other receiver hr
      exact ⟨record, List.mem_cons_of_mem _ hmem⟩
  | removed key =>
    rw [step_index_removed]
    refine ⟨h.tidy.remove key, fun other receiver hm => ?_⟩
    dsimp only at hm
    rw [resolve_remove] at hm
    split at hm
    · cases hm
    · exact h.resolved other receiver hm

/-- Where the key neither was nor is, the newest record is the same. -/
theorem find_remapped (s : Browsed) {now : Option DeviceId} {maps : ServiceKey → Option DeviceId}
    (hm : ∀ other, maps other = if other = key then now else s.index.resolve other)
    {kind : ServiceKind}
    (hw : ¬ (s.index.resolve key = some receiver ∧ kind = key.kind))
    (hn : ¬ (now = some receiver ∧ kind = key.kind)) :
    (s.resolutions.find? (fun resolution =>
      decide (resolution.1.kind = kind ∧ maps resolution.1 = some receiver))).map (·.2) =
        s.newest receiver kind := by
  unfold newest
  congr 2
  funext resolution
  rw [hm]
  by_cases hk : resolution.1 = key
  · rw [if_pos hk, hk]
    rw [decide_eq_false (fun hb => hn ⟨hb.2, hb.1.symm⟩),
      decide_eq_false (fun hb => hw ⟨hb.2, hb.1.symm⟩)]
  · rw [if_neg hk]

theorem takes_resolved_iff {dev : Device} : s.takes (.resolved key dev) = some (key, receiver) ↔
      s.index.resolve key = some receiver ∧ receiver ≠ dev.id := by
  unfold takes
  dsimp only
  cases hold : s.index.resolve key with
  | none => simp
  | some prev =>
    by_cases hs : prev = dev.id
    · simp [hs, Option.filter]
      rintro rfl
      rfl
    · simp [hs, Option.filter]
      rintro rfl
      exact hs

variable {ev : ServiceEvent}

theorem takes_key (h : s.takes ev = some (key, receiver)) :
    s.index.resolve key = some receiver := by
  cases ev with
  | resolved =>
    obtain ⟨prev, hp, heq⟩ := map_eq_some_iff.mp h
    cases heq
    exact (filter_eq_some_iff.mp hp).1
  | removed =>
    obtain ⟨prev, hp, heq⟩ := map_eq_some_iff.mp h
    cases heq
    exact hp

/-- A step keeps slot and newest record together, except in the slot of the
key it takes away, which it clears. -/
theorem step_slot (h : ∀ receiver kind, s.index.slot receiver kind = s.newest receiver kind)
    (ev : ServiceEvent) (receiver : DeviceId) (kind : ServiceKind) :
    (s.step ev).1.index.slot receiver kind = (s.step ev).1.newest receiver kind ∨
      (∃ key, s.takes ev = some (key, receiver) ∧ kind = key.kind) ∧
        (s.step ev).1.index.slot receiver kind = none := by
  cases ev with
  | resolved key dev =>
    rw [step_index_resolved]
    dsimp only
    rw [slot_fill, slot_remap]
    by_cases hh : receiver = dev.id ∧ kind = key.kind
    · refine .inl ?_
      obtain ⟨rfl, rfl⟩ := hh
      have hm : ((s.index.remap key dev.id).fill key dev).resolve key = some dev.id := by
        show (s.index.remap key dev.id).resolve key = _
        rw [resolve_remap, if_pos rfl]
      simp [newest, hm]
    · rw [if_neg hh]
      by_cases ht : s.index.resolve key = some receiver ∧ receiver ≠ dev.id ∧ kind = key.kind
      · rw [if_pos ht]
        exact .inr ⟨⟨key, takes_resolved_iff.mpr ⟨ht.1, ht.2.1⟩, ht.2.2⟩, rfl⟩
      · rw [if_neg ht, h]
        refine .inl ?_
        have hn : ¬ (some dev.id = some receiver ∧ kind = key.kind) := fun hb =>
          hh ⟨(Option.some.inj hb.1).symm, hb.2⟩
        have hw : ¬ (s.index.resolve key = some receiver ∧ kind = key.kind) := fun hb =>
          ht ⟨hb.1, fun heq => hh ⟨heq, hb.2⟩, hb.2⟩
        rw [← find_remapped s (fun other => s.index.resolve_remap key other dev.id) hw hn]
        unfold newest
        rw [List.find?_cons_of_neg]
        · rfl
        · intro hd
          obtain ⟨hk, hm⟩ := of_decide_eq_true hd
          have hm : (s.index.remap key dev.id).resolve key = some receiver := hm
          rw [resolve_remap, if_pos rfl] at hm
          exact hn ⟨hm, hk.symm⟩
  | removed key =>
    rw [step_index_removed]
    dsimp only
    rw [slot_remove]
    by_cases ht : s.index.resolve key = some receiver ∧ kind = key.kind
    · rw [if_pos ht]
      refine .inr ⟨⟨key, ?_, ht.2⟩, rfl⟩
      rw [takes, ht.1]
      rfl
    · rw [if_neg ht, h]
      exact .inl (find_remapped s (fun other => s.index.resolve_remove key other) ht (by simp)).symm

/-- Taking a key away empties its slot and moves no other key. -/
theorem step_taken (h : s.takes ev = some (key, receiver)) :
    (s.step ev).1.index.slot receiver key.kind = none ∧
      ∀ other, (s.step ev).1.index.resolve other = some receiver ↔
        other ≠ key ∧ s.index.resolve other = some receiver := by
  have hm := takes_key h
  cases ev with
  | resolved _ dev =>
    obtain ⟨prev, hp, heq⟩ := map_eq_some_iff.mp h
    cases heq
    have hv : receiver ≠ dev.id := (takes_resolved_iff.mp h).2
    rw [step_index_resolved]
    refine ⟨?_, fun other => ?_⟩
    · rw [slot_fill, slot_remap]
      simp [hm, hv]
    · show (s.index.remap key dev.id).resolve other = some receiver ↔ _
      rw [resolve_remap]
      by_cases hk : other = key
      · simp [hk, hv.symm]
      · simp [hk]
  | removed =>
    obtain ⟨prev, _, heq⟩ := map_eq_some_iff.mp h
    cases heq
    rw [step_index_removed]
    refine ⟨?_, fun other => ?_⟩
    · dsimp only
      rw [slot_remove]
      simp [hm]
    · dsimp only
      rw [resolve_remove]
      by_cases hk : other = key
      · simp [hk]
      · simp [hk]

/-- One step keeps the rows faithful exactly when it takes nothing shared. -/
theorem step_faithful_iff (hl : s.Logged) (h : s.Faithful)
    (ev : ServiceEvent) : (s.step ev).1.Faithful ↔ ¬ s.TakesShared ev := by
  have hs := (faithful_iff hl).mp h
  have hn := step_logged hl ev
  constructor
  · rintro hft ⟨key, receiver, ht, other, ho, hk, hm⟩
    obtain ⟨hc, hr⟩ := step_taken ht
    have hf := (hft.filled receiver key.kind).mpr ⟨other, hk, (hr other).mpr ⟨ho, hm⟩⟩
    rw [hc] at hf
    cases hf
  · intro hh
    rw [faithful_iff hn]
    intro receiver kind
    rcases step_slot hs ev receiver kind with hsm | ⟨⟨key, ht, rfl⟩, hc⟩
    · exact hsm
    · rw [hc]
      cases hw : (s.step ev).1.newest receiver key.kind with
      | none => rfl
      | some =>
        obtain ⟨other, hk, hm⟩ := (newest_isSome hn receiver key.kind).mp (by rw [hw]; rfl)
        obtain ⟨ho, hp⟩ := ((step_taken ht).2 other).mp hm
        exact absurd ⟨key, receiver, ht, other, ho, hk, hp⟩ hh

/-- In every run, the rows show what is advertised at every point exactly
when no step takes a key away from a receiver to which another key of its
kind still maps. -/
theorem rows_faithful_iff (events : List ServiceEvent) :
    (∀ before, before <+: events → (Mealy.run step {} before).Faithful) ↔
      Mealy.Along step (fun s event => ¬ s.TakesShared event) {} events := by
  have hl : ({} : Browsed).Logged := by
    refine ⟨fun receiver services hr => ?_, fun key receiver hm => ?_⟩
    · cases hr
    · cases hm
  have ht : ({} : Browsed).Faithful := (faithful_iff hl).mpr (fun _ _ => rfl)
  have hi : ∀ (s : Browsed) (event : ServiceEvent), s.Logged → (s.step event).1.Logged :=
    fun _ event h => step_logged h event
  have hs : ∀ (s : Browsed) (event : ServiceEvent), s.Logged → s.Faithful →
      ((s.step event).1.Faithful ↔ ¬ s.TakesShared event) :=
    fun _ event hI hP => step_faithful_iff hI hP event
  exact Mealy.forall_start_iff_along hi hs events hl ht

/-! ## A rename -/

/-- A speaker is announced under a new name, and the old name expires. -/
def renamed : List ServiceEvent :=
  [.resolved ⟨.airplay, "Den"⟩ { id := ⟨1⟩, name := "Den" },
   .resolved ⟨.airplay, "Office"⟩ { id := ⟨1⟩, name := "Office" },
   .removed ⟨.airplay, "Den"⟩]

/-- The speaker is still advertised as `Office`, and its row is gone. -/
theorem renamed_receiver_is_forgotten : let s := Mealy.run step {} renamed
    s.index.resolve ⟨.airplay, "Office"⟩ = some ⟨1⟩ ∧ s.index.contains ⟨1⟩ = false ∧
      ¬ s.Faithful := by
  have hm : (Mealy.run step {} renamed).index.resolve ⟨.airplay, "Office"⟩ = some ⟨1⟩ := by decide
  have hg : (Mealy.run step {} renamed).index.contains ⟨1⟩ = false := by decide
  refine ⟨hm, hg, fun hf => ?_⟩
  have hr := (hf.row ⟨1⟩).mpr ⟨_, hm⟩
  rw [hg] at hr
  cases hr

end Browsed

end OpenAirCast.Discovery
