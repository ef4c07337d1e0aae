/-
Discovery.DiscoveryStateTheorems — what the inventory knows of
the index whose events it follows.

A held AirPlay record that makes a castable device is always on offer, and
the first event about a receiver is `Added`. The other direction, that only
a receiver with an AirPlay record is on offer, is lost in two ways: a
service name moves to another receiver, which empties the row of the first
without an event, and a RAOP record alone is castable by its features.
`folding_reproduces_iff` shows that there is no third.
-/
import OpenAirCast.Discovery.DiscoveryState
import OpenAirCast.Discovery.ServiceIndexTheorems

namespace OpenAirCast.Discovery

open ServiceIndex DiscoveryState Option List

/-! ## Castable devices -/

namespace Device

theorem isCastable_iff (device : Device) :
    device.isCastable = true ↔ device.supportsAirplay2 = true ∧
      ∃ addr ∈ device.addresses, addr.isIpv4 = true := by
  unfold isCastable
  rw [Bool.and_eq_true]
  refine and_congr_right fun _ => ?_
  unfold socketAddr
  cases hf : device.addresses.find? IpAddr.isIpv4 with
  | some addr =>
    have hmem := mem_of_find?_eq_some hf
    have hv4 := find?_some hf
    simp only [any_some, hv4, true_iff]
    exact ⟨addr, hmem, hv4⟩
  | none =>
    have hn := find?_eq_none.mp hf
    cases ha : device.addresses with
    | nil => simp
    | cons first =>
      rw [ha] at hn
      simp only [head?_cons, map_some, any_some]
      constructor
      · exact fun hv4 => absurd hv4 (hn first mem_cons_self)
      · rintro ⟨addr, hmem, hv4⟩
        exact absurd hv4 (hn addr hmem)

theorem mem_merged_addresses {airplay : List IpAddr} {addr : IpAddr} (h : addr ∈ airplay)
    (raop : List IpAddr) :
    addr ∈ raop.foldl (fun addrs addr =>
      if addr ∈ addrs then addrs else addrs ++ [addr]) airplay := by
  induction raop generalizing airplay with
  | nil => exact h
  | cons _ _ ih =>
    rw [foldl_cons]
    split
    · exact ih h
    · exact ih (mem_append_left _ h)

/-- A RAOP record takes nothing from a castable device. -/
theorem isCastable_merge {airplay : Device} (h : airplay.isCastable = true) (raop : Device) :
    (mergeDeviceInfo airplay raop).isCastable = true := by
  rw [isCastable_iff] at h ⊢
  obtain ⟨hs, addr, hmem, hv4⟩ := h
  refine ⟨?_, addr, mem_merged_addresses hmem raop.addresses, hv4⟩
  unfold supportsAirplay2 at hs ⊢
  rw [Bool.and_eq_true] at hs
  have hf : airplay.features ≠ 0 := by
    intro hz
    rw [hz] at hs
    simp at hs
  have hv : airplay.sourceVersion ≠ {} := by
    intro hd
    rw [hd] at hs
    exact absurd hs.2 (by decide)
  simp only [mergeDeviceInfo, if_pos hf, if_neg hv, Bool.and_eq_true]
  exact hs

end Device

/-! ## The index -/

namespace ServiceIndex

variable {index : ServiceIndex} {id : DeviceId} {device : Device}

theorem isCastable_eq (index : ServiceIndex) (id : DeviceId) :
    index.isCastable id = (index.slot id .airplay).isSome := by
  unfold isCastable slot
  cases index.resolvers id <;> rfl

theorem device_eq (index : ServiceIndex) (id : DeviceId) : index.device id =
      (⟨index.slot id .airplay, index.slot id .raop⟩ : ReceiverServices).merged := by
  unfold device slot
  cases index.resolvers id <;> rfl

/-- A record is in the row of the receiver it names. -/
def Owned (index : ServiceIndex) : Prop :=
  ∀ id kind device, index.slot id kind = some device → device.id = id

theorem Owned.merged_id (h : index.Owned)
    (hd : index.device id = some device) : device.id = id := by
  rw [device_eq] at hd
  cases ha : index.slot id .airplay with
  | some airplay =>
    have hi := h id .airplay airplay ha
    cases hr : index.slot id .raop with
    | some =>
      rw [ha, hr] at hd
      obtain rfl := Option.some.inj hd
      exact hi
    | none =>
      rw [ha, hr] at hd
      obtain rfl := Option.some.inj hd
      exact hi
  | none =>
    cases hr : index.slot id .raop with
    | some raop =>
      rw [ha, hr] at hd
      obtain rfl := Option.some.inj hd
      exact h id .raop raop hr
    | none =>
      rw [ha, hr] at hd
      cases hd

theorem contains_clearServiceSlot {index : ServiceIndex} {recv id : DeviceId}
    {key : ServiceKey} (h : (index.clearServiceSlot recv key).contains id = true) :
    index.contains id = true := by
  unfold clearServiceSlot at h
  cases hr : index.resolvers recv with
  | none =>
    rw [hr] at h
    exact h
  | some =>
    rw [hr] at h
    by_cases hi : id = recv
    · rw [hi, contains, hr]
      rfl
    · simpa [contains, setRow, hi] using h

variable {key : ServiceKey}

theorem contains_remap {recv : DeviceId}
    (h : (index.remap key recv).contains id = true) : index.contains id = true := by
  unfold remap at h
  dsimp only at h
  split at h
  · split at h
    · exact @contains_clearServiceSlot (index.setReceiver key (some recv)) _ _ _ h
    · exact h
  · exact h

theorem contains_fill
    (hi : id ≠ device.id) (h : (index.fill key device).contains id = true) :
    index.contains id = true := by
  simpa [contains, fill, setRow, hi] using h

theorem contains_remove
    (h : (index.remove key).1.contains id = true) : index.contains id = true := by
  unfold remove at h
  cases hold : index.resolve key with
  | none =>
    rw [hold] at h
    exact h
  | some =>
    rw [hold] at h
    exact @contains_clearServiceSlot (index.setReceiver key none) _ _ _ h

theorem Owned.remap (h : index.Owned) (key : ServiceKey)
    (recv : DeviceId) : (index.remap key recv).Owned := by
  intro id kind device hs
  rw [slot_remap] at hs
  split at hs
  · cases hs
  · exact h id kind device hs

theorem Owned.fill (h : index.Owned) (key : ServiceKey) (device : Device) :
    (index.fill key device).Owned := by
  intro id kind record hs
  rw [slot_fill] at hs
  split at hs
  · rename_i hh
    rw [← Option.some.inj hs, hh.1]
  · exact h id kind record hs

theorem Owned.remove (h : index.Owned) (key : ServiceKey) : (index.remove key).1.Owned := by
  intro id kind device hs
  rw [slot_remove] at hs
  split at hs
  · cases hs
  · exact h id kind device hs

theorem held_of_device (hd : index.device id = some device) (hr : index.slot id .raop = none) :
    index.slot id .airplay = some device := by
  rw [device_eq, hr] at hd
  cases ha : index.slot id .airplay with
  | some =>
    rw [ha] at hd
    exact hd
  | none =>
    rw [ha] at hd
    cases hd

theorem contains_of_device {record : Device}
    (h : index.device id = some record) : index.contains id = true := by
  unfold device at h
  unfold contains
  cases hr : index.resolvers id with
  | none =>
    rw [hr] at h
    cases h
  | some => rfl

/-- Losing a RAOP record makes no device castable. -/
theorem castable_of_cleared {after : ServiceIndex}
    (ha : after.slot id .airplay = index.slot id .airplay)
    (hh : (index.slot id .airplay).isSome = true)
    (hp : after.slot id .raop = index.slot id .raop ∨ after.slot id .raop = none)
    (hd : after.device id = some device)
    (hc : device.isCastable = true) :
    ∃ pre, index.device id = some pre ∧ pre.isCastable = true := by
  obtain ⟨airplay, hr⟩ := isSome_iff_exists.mp hh
  rw [device_eq, ha, hr] at hd
  rw [device_eq, hr]
  rcases hp with hs | hn
  · rw [hs] at hd
    exact ⟨device, hd, hc⟩
  · rw [hn] at hd
    obtain rfl : airplay = device := Option.some.inj hd
    cases hb : index.slot id .raop with
    | none => exact ⟨airplay, rfl, hc⟩
    | some raop => exact ⟨_, rfl, Device.isCastable_merge hc raop⟩

end ServiceIndex

/-! ## The inventory -/

/-- The receiver an event names. -/
def BrowseEvent.receiver : BrowseEvent → DeviceId
  | .added device | .updated device => device.id
  | .removed id => id

namespace DiscoveryState

variable {state : DiscoveryState} {generation : Nat}

theorem applyEvent_sighted (h : state.generation ≤ generation) {ev : BrowseEvent}
    {device : Device} (he : ev = .added device ∨ ev = .updated device) :
    (state.applyUpdate (.receiver generation ev)).1 =
      state.setReceiver device.id (some (sighted device)) := by
  have hc : ¬ generation < state.generation := by omega
  rcases he with rfl | rfl <;> simp [applyUpdate, applyEvent, hc]

theorem applyEvent_removed (h : state.generation ≤ generation) (id : DeviceId) :
    (state.applyUpdate (.receiver generation (.removed id))).1 = state.setReceiver id
        ((state.receivers id).map (fun known => { known with available := false })) := by
  have hc : ¬ generation < state.generation := by omega
  simp only [applyUpdate, applyEvent, if_neg hc]
  cases hk : state.receivers id with
  | some => rfl
  | none =>
    have hs : (fun other => if other = id then none else state.receivers other) =
        state.receivers := by
      funext other
      split
      · rename_i ho
        rw [ho, hk]
      · rfl
    simp only [map_none, setReceiver, hs]

@[simp] theorem receivers_setReceiver (id other : DeviceId) (known : Option KnownReceiver) :
    (state.setReceiver id known).receivers other =
      if other = id then known else state.receivers other := rfl

theorem offers_sighted (id : DeviceId) (device : Device) (other : DeviceId) :
    (state.setReceiver id (some (sighted device))).offers other =
      if other = id then device.isCastable else state.offers other := by
  unfold offers
  rw [receivers_setReceiver]
  split
  · simp only [sighted, lifecycle, any_some, Bool.true_and]
    cases device.isCastable <;> rfl
  · rfl

theorem offers_unavailable (id other : DeviceId) : (state.setReceiver id
        ((state.receivers id).map (fun known => { known with available := false }))).offers other =
      if other = id then false else state.offers other := by
  unfold offers
  rw [receivers_setReceiver]
  split
  · rw [Option.any_map]
    cases state.receivers id <;> rfl
  · rfl

end DiscoveryState

namespace Followed

/-! ## One service event -/

/-- What a resolved service does: the row is filled and shown. -/
theorem browse_resolved (index : ServiceIndex) (key : ServiceKey) (device : Device) : ∃ mrg ev,
      browse index (.resolved key device) = ((index.remap key device.id).fill key device, some ev) ∧
      ((index.remap key device.id).fill key device).device device.id = some mrg ∧
      (ev = .added mrg ∨ ev = .updated mrg) ∧
      (index.contains device.id = false → ev = .added mrg) := by
  have hr : ∃ mrg, ((index.remap key device.id).fill key device).device device.id = some mrg := by
    have hs : ((index.remap key device.id).fill key device).slot device.id key.kind =
        some device := by
      rw [slot_fill, if_pos ⟨rfl, rfl⟩]
    rw [device_eq]
    cases hk : key.kind with
    | airplay =>
      rw [hk] at hs
      rw [hs]
      cases ((index.remap key device.id).fill key device).slot device.id .raop <;> exact ⟨_, rfl⟩
    | raop =>
      rw [hk] at hs
      rw [hs]
      cases ((index.remap key device.id).fill key device).slot device.id .airplay <;> exact ⟨_, rfl⟩
  obtain ⟨mrg, hm⟩ := hr
  refine ⟨mrg, if (index.remap key device.id).contains device.id then .updated mrg
    else .added mrg, ?_, hm, ?_, fun hn => ?_⟩
  · simp only [browse, ServiceIndex.upsert, hm, map_some]
    split <;> rfl
  · split
    · exact .inr rfl
    · exact .inl rfl
  · refine if_neg fun hkn => ?_
    rw [contains_remap hkn] at hn
    cases hn

theorem browse_removed (index : ServiceIndex) (key : ServiceKey) :
    (index.resolve key = none ∧ browse index (.removed key) = (index, none)) ∨
      ∃ recv, index.resolve key = some recv ∧ browse index (.removed key) = ((index.remove key).1,
          if key.kind = .airplay then some (.removed recv)
          else ((index.remove key).1.device recv).map .updated) := by
  simp only [browse, ServiceIndex.removalEvent]
  cases hold : index.resolve key with
  | none => exact .inl ⟨rfl, rfl⟩
  | some recv =>
    right
    refine ⟨recv, rfl, ?_⟩
    cases hk : key.kind <;> simp

/-- The inventory has met every receiver of the index, and offers what the
index holds an AirPlay record of. -/
structure Coherent (generation : Nat) (f : Followed) : Prop where
  generation : f.state.generation = generation
  owned : f.index.Owned
  met : ∀ id, (f.index.contains id = true ∨ ∃ key, f.index.resolve key = some id) →
    f.state.receivers id ≠ none
  offered : ∀ id device, f.index.isCastable id = true → f.index.device id = some device →
    device.isCastable = true → f.state.offers id = true

variable {generation : Nat} {f : Followed}

section

variable (h : Coherent generation f) (key : ServiceKey)
include h

variable (device : Device)

/-- The device on show is what the index merges for its id. -/
theorem step_resolved :
    ∃ mrg, ((f.index.remap key device.id).fill key device).device device.id = some mrg ∧
      mrg.id = device.id ∧
      (step generation f (.resolved key device)).1 = ⟨(f.index.remap key device.id).fill key device,
          f.state.setReceiver device.id (some (DiscoveryState.sighted mrg))⟩ := by
  obtain ⟨mrg, _, hb, hm, he, -⟩ := browse_resolved f.index key device
  have hi : mrg.id = device.id := ((h.owned.remap key device.id).fill key device).merged_id hm
  refine ⟨mrg, hm, hi, ?_⟩
  simp only [step, hb, follow]
  rw [applyEvent_sighted (Nat.le_of_eq h.generation) he, hi]

/-- The state after a removed service: nothing, a receiver gone, a receiver
shown without its RAOP record, or a RAOP record gone unnoticed. -/
theorem step_removed : (step generation f (.removed key)).1 = f ∨
      ∃ recv, f.index.resolve key = some recv ∧
        ((key.kind = .airplay ∧ (step generation f (.removed key)).1 =
            ⟨(f.index.remove key).1, f.state.setReceiver recv
              ((f.state.receivers recv).map (fun known => { known with available := false }))⟩) ∨
          (key.kind = .raop ∧ ∃ mrg, (f.index.remove key).1.device recv = some mrg ∧
            (step generation f (.removed key)).1 = ⟨(f.index.remove key).1,
              f.state.setReceiver recv (some (DiscoveryState.sighted mrg))⟩) ∨
          (key.kind = .raop ∧ (f.index.remove key).1.device recv = none ∧
            (step generation f (.removed key)).1 = ⟨(f.index.remove key).1, f.state⟩)) := by
  rcases browse_removed f.index key with ⟨-, hb⟩ | ⟨recv, hm, hb⟩
  · left
    simp only [step, hb, follow]
  · refine .inr ⟨recv, hm, ?_⟩
    cases hk : key.kind with
    | airplay =>
      refine .inl ⟨rfl, ?_⟩
      simp only [step, hb, hk, if_true, follow]
      rw [applyEvent_removed (Nat.le_of_eq h.generation)]
    | raop =>
      have hr : ¬ ServiceKind.raop = .airplay := by decide
      right
      simp only [step, hb, hk, if_neg hr]
      cases hd : (f.index.remove key).1.device recv with
      | none => exact .inr ⟨trivial, rfl, rfl⟩
      | some mrg =>
        refine .inl ⟨trivial, mrg, rfl, ?_⟩
        simp only [map_some, follow]
        rw [applyEvent_sighted (Nat.le_of_eq h.generation) (.inr rfl),
          (h.owned.remove key).merged_id hd]

theorem coherent_resolved :
    Coherent generation (step generation f (.resolved key device)).1 := by
  obtain ⟨mrg, hr, -, ht⟩ := step_resolved h key device
  rw [ht]
  refine ⟨h.generation, (h.owned.remap key device.id).fill key device, ?_, ?_⟩
  · intro id hi
    dsimp only at hi ⊢
    rw [receivers_setReceiver]
    split
    · simp
    · rename_i ho
      refine h.met id ?_
      rcases hi with hw | ⟨other, hm⟩
      · exact .inl (contains_remap (contains_fill ho hw))
      · have hm : (f.index.remap key device.id).resolve other = some id := hm
        rw [resolve_remap] at hm
        split at hm
        · exact absurd (Option.some.inj hm).symm ho
        · exact .inr ⟨other, hm⟩
  · intro id record hh hd hc
    dsimp only at hh hd ⊢
    rw [offers_sighted]
    split
    · rename_i hi
      rw [hi, hr] at hd
      obtain rfl := Option.some.inj hd
      exact hc
    · rename_i ho
      have hs : ∀ kind, ((f.index.remap key device.id).fill key device).slot id kind =
          (f.index.remap key device.id).slot id kind := by
        intro kind
        rw [slot_fill, if_neg (fun hb => ho hb.1)]
      rw [isCastable_eq, hs, slot_remap] at hh
      split at hh
      · cases hh
      · rename_i hy
        have ha : ((f.index.remap key device.id).fill key device).slot id .airplay =
            f.index.slot id .airplay := by
          rw [hs, slot_remap, if_neg hy]
        have hp : ((f.index.remap key device.id).fill key device).slot id .raop =
              f.index.slot id .raop ∨
            ((f.index.remap key device.id).fill key device).slot id .raop = none := by
          rw [hs, slot_remap]
          split
          · exact .inr rfl
          · exact .inl rfl
        obtain ⟨pre, hf, hwa⟩ := castable_of_cleared ha hh hp hd hc
        exact h.offered id pre (by rw [isCastable_eq]; exact hh) hf hwa

end

theorem resolve_of_remove {index : ServiceIndex} {key other : ServiceKey} {id : DeviceId}
    (h : (index.remove key).1.resolve other = some id) : index.resolve other = some id := by
  rw [resolve_remove] at h
  split at h
  · cases h
  · exact h

/-- The receivers a removed service does not name keep what they had. -/
theorem offered_elsewhere (h : Coherent generation f) {key : ServiceKey} {recv id : DeviceId}
    (hm : f.index.resolve key = some recv) (ho : id ≠ recv) {device : Device}
    (hh : (f.index.remove key).1.isCastable id = true)
    (hd : (f.index.remove key).1.device id = some device)
    (hc : device.isCastable = true) : f.state.offers id = true := by
  have hs : ∀ kind, (f.index.remove key).1.slot id kind = f.index.slot id kind := by
    intro kind
    rw [slot_remove, hm, if_neg]
    exact fun hb => ho (Option.some.inj hb.1).symm
  rw [isCastable_eq, hs] at hh
  rw [device_eq, hs, hs, ← device_eq] at hd
  exact h.offered id device (by rw [isCastable_eq]; exact hh) hd hc

theorem met_of_remove (h : Coherent generation f) (key : ServiceKey) {id : DeviceId}
    (hi : (f.index.remove key).1.contains id = true ∨
      ∃ other, (f.index.remove key).1.resolve other = some id) :
    f.state.receivers id ≠ none := by
  refine h.met id ?_
  rcases hi with hr | ⟨other, hm⟩
  · exact .inl (contains_remove hr)
  · exact .inr ⟨other, resolve_of_remove hm⟩

theorem coherent_removed (h : Coherent generation f) (key : ServiceKey) :
    Coherent generation (step generation f (.removed key)).1 := by
  rcases step_removed h key with hsm | ⟨recv, hp, ⟨hk, hs⟩ | ⟨-, mrg, he, hs⟩ | ⟨-, hn, hs⟩⟩
  · rw [hsm]
    exact h
  · rw [hs]
    refine ⟨h.generation, h.owned.remove key, ?_, ?_⟩
    · intro id hi
      have hm := met_of_remove h key hi
      dsimp only
      rw [receivers_setReceiver]
      split
      · rename_i hr
        rw [hr] at hm
        simpa using hm
      · exact hm
    · intro id record hh hd hc
      dsimp only at hh hd ⊢
      rw [offers_unavailable]
      split
      · rename_i hr
        rw [isCastable_eq, slot_remove, hp, hr, if_pos ⟨rfl, hk.symm⟩] at hh
        cases hh
      · rename_i ho
        exact offered_elsewhere h hp ho hh hd hc
  · rw [hs]
    refine ⟨h.generation, h.owned.remove key, ?_, ?_⟩
    · intro id hi
      have hm := met_of_remove h key hi
      dsimp only
      rw [receivers_setReceiver]
      split
      · simp
      · exact hm
    · intro id record hh hd hc
      dsimp only at hh hd ⊢
      rw [offers_sighted]
      split
      · rename_i hr
        rw [hr, he] at hd
        obtain rfl := Option.some.inj hd
        exact hc
      · rename_i ho
        exact offered_elsewhere h hp ho hh hd hc
  · rw [hs]
    refine ⟨h.generation, h.owned.remove key, fun id hi => met_of_remove h key hi, ?_⟩
    intro id record hh hd hc
    by_cases ho : id = recv
    · dsimp only at hd
      rw [ho, hn] at hd
      cases hd
    · exact offered_elsewhere h hp ho hh hd hc

/-- Every service event keeps the inventory coherent. -/
theorem step_coherent (h : Coherent generation f) (ev : ServiceEvent) :
    Coherent generation (step generation f ev).1 := by
  cases ev with
  | resolved key device => exact coherent_resolved h key device
  | removed key => exact coherent_removed h key

/-! ## Offers without a record -/

/-- Only what has an AirPlay record is on offer. -/
def Sound (f : Followed) : Prop :=
  ∀ id, f.state.offers id = true → f.index.isCastable id = true

/-- The two ways to lose that: an AirPlay name moves away from a receiver on
offer, or a RAOP record alone makes a castable device. -/
def Breaks (f : Followed) : ServiceEvent → Prop
  | .resolved key device =>
    (key.kind = .airplay ∧ ∃ previous, f.index.resolve key = some previous ∧
      previous ≠ device.id ∧ f.state.offers previous = true) ∨
    (key.kind = .raop ∧ f.index.isCastable device.id = false ∧ device.isCastable = true)
  | .removed _ => False

theorem held_elsewhere {key : ServiceKey} (hk : key.kind = .raop) {id : DeviceId}
    (h : f.index.isCastable id = true) : (f.index.remove key).1.isCastable id = true := by
  rw [isCastable_eq] at h ⊢
  rw [slot_remove, hk, if_neg (by simp)]
  exact h

theorem sound_removed (h : Coherent generation f) (hn : f.Sound) (key : ServiceKey) :
    (step generation f (.removed key)).1.Sound := by
  rcases step_removed h key with hsm | ⟨recv, hm, ⟨-, hs⟩ | ⟨hk, mrg, hr, hs⟩ | ⟨hk, -, hs⟩⟩
  · rw [hsm]
    exact hn
  · rw [hs]
    intro id ho
    dsimp only at ho ⊢
    rw [offers_unavailable] at ho
    split at ho
    · cases ho
    · rename_i ht
      have hh := hn id ho
      rw [isCastable_eq] at hh ⊢
      rw [slot_remove, hm, if_neg]
      · exact hh
      · exact fun hb => ht (Option.some.inj hb.1).symm
  · rw [hs]
    intro id ho
    dsimp only at ho ⊢
    rw [offers_sighted] at ho
    split at ho
    · rename_i hhr
      have hp : (f.index.remove key).1.slot recv .raop = none := by
        rw [slot_remove, if_pos ⟨hm, hk.symm⟩]
      rw [hhr, isCastable_eq, held_of_device hr hp]
      rfl
    · exact held_elsewhere hk (hn id ho)
  · rw [hs]
    exact fun id ho => held_elsewhere hk (hn id ho)

/-- A resolved service keeps the offers sound exactly where it does not break
them. -/
theorem sound_resolved_iff (h : Coherent generation f) (hn : f.Sound) (key : ServiceKey)
    (device : Device) :
    (step generation f (.resolved key device)).1.Sound ↔ ¬ Breaks f (.resolved key device) := by
  obtain ⟨mrg, hm, -, hst⟩ := step_resolved h key device
  have hs : ∀ id, ((f.index.remap key device.id).fill key device).isCastable id =
      if id = device.id ∧ key.kind = .airplay then true
      else if f.index.resolve key = some id ∧ id ≠ device.id ∧ key.kind = .airplay then false
      else f.index.isCastable id := by
    intro id
    rw [isCastable_eq, slot_fill, slot_remap, isCastable_eq]
    simp only [eq_comm (a := ServiceKind.airplay)]
    split
    · rfl
    · split <;> rfl
  have ha : key.kind = .raop → f.index.isCastable device.id = false → mrg = device := by
    intro hk hf
    have hr : ((f.index.remap key device.id).fill key device).slot device.id .airplay =
        none := by
      have hh := hs device.id
      simp only [hk, reduceCtorEq, and_false, if_false, hf] at hh
      rw [isCastable_eq] at hh
      simpa using hh
    have hp : ((f.index.remap key device.id).fill key device).slot device.id .raop =
        some device := by
      rw [slot_fill, if_pos ⟨rfl, hk.symm⟩]
    rw [device_eq, hr, hp] at hm
    exact (Option.some.inj hm).symm
  rw [hst]
  constructor
  · rintro haf (⟨hk, prev, hmp, hot, ho⟩ | ⟨hk, hf, hc⟩)
    · have hh := haf prev (by
        dsimp only
        rw [offers_sighted, if_neg hot]
        exact ho)
      dsimp only at hh
      rw [hs, if_neg (fun hbt => hot hbt.1), if_pos ⟨hmp, hot, hk⟩] at hh
      cases hh
    · have hh := haf device.id (by
        dsimp only
        rw [offers_sighted, if_pos rfl, ha hk hf]
        exact hc)
      dsimp only at hh
      simp only [hs, hk, reduceCtorEq, and_false, if_false, hf, Bool.false_eq_true] at hh
  · intro hb id ho
    dsimp only at ho ⊢
    rw [offers_sighted] at ho
    rw [hs]
    split
    · rfl
    · rename_i hl
      split
      · rename_i ht
        rw [if_neg ht.2.1] at ho
        exact absurd (.inl ⟨ht.2.2, id, ht.1, ht.2.1, ho⟩) hb
      · split at ho
        · rename_i hhr
          subst hhr
          have hk : key.kind = .raop := by
            cases hk : key.kind with
            | airplay => exact absurd ⟨rfl, hk⟩ hl
            | raop => rfl
          by_contra hf
          have hf : f.index.isCastable device.id = false := eq_false_of_ne_true hf
          rw [ha hk hf] at ho
          exact hb (.inr ⟨hk, hf, ho⟩)
        · exact hn id ho

/-- It is lost in the two ways of `Breaks` only. -/
theorem step_sound_iff (h : Coherent generation f) (hs : f.Sound) (ev : ServiceEvent) :
    (step generation f ev).1.Sound ↔ ¬ Breaks f ev := by
  cases ev with
  | resolved key device => exact sound_resolved_iff h hs key device
  | removed key => exact iff_of_true (sound_removed h hs key) (fun hb => hb)

/-! ## The first event -/

/-- The first event about a receiver is `Added`, and a receiver without a
row is never `Updated`. -/
def FirstAdded (t : Mealy.Turn Followed ServiceEvent (Option BrowseEvent)) : Prop :=
  ∀ event, t.output = some event →
    (t.before.state.receivers event.receiver = none → ∃ device, event = .added device) ∧
    (t.before.index.contains event.receiver = false → ∀ device, event ≠ .updated device)

theorem turn_firstAdded (h : Coherent generation f) (ev : ServiceEvent) :
    FirstAdded (Mealy.turn (step generation) f ev) := by
  intro emitted ho
  change (browse f.index ev).2 = some emitted at ho
  change (f.state.receivers emitted.receiver = none → _) ∧
    (f.index.contains emitted.receiver = false → _)
  cases ev with
  | resolved key device =>
    obtain ⟨mrg, added, hb, hm, he, hw⟩ := browse_resolved f.index key device
    rw [hb] at ho
    obtain rfl : added = emitted := Option.some.inj ho
    have hi : added.receiver = device.id := by
      have hmerId := ((h.owned.remap key device.id).fill key device).merged_id hm
      rcases he with rfl | rfl <;> exact hmerId
    rw [hi]
    constructor
    · intro hu
      refine ⟨mrg, hw (eq_false_of_ne_true fun hk => ?_)⟩
      exact h.met device.id (.inl hk) hu
    · intro hn other hp
      rw [hw hn] at hp
      cases hp
  | removed key =>
    rcases browse_removed f.index key with ⟨-, hb⟩ | ⟨recv, ha, hb⟩
    · rw [hb] at ho
      cases ho
    · rw [hb] at ho
      have ht := h.met recv (.inr ⟨key, ha⟩)
      split at ho
      · obtain rfl := Option.some.inj ho
        exact ⟨fun hu => absurd hu ht, fun _ device hp => by cases hp⟩
      · obtain ⟨mrg, hm, rfl⟩ := map_eq_some_iff.mp ho
        have hi : mrg.id = recv := (h.owned.remove key).merged_id hm
        have hk := contains_remove (contains_of_device hm)
        simp only [BrowseEvent.receiver, hi]
        refine ⟨fun hu => absurd hu ht, fun hn => ?_⟩
        rw [hk] at hn
        cases hn

/-! ## Runs -/

/-- The inventory of a new generation beside an empty index. -/
def start (generation : Nat) : Followed := { state := .atGeneration generation }

theorem start_coherent (generation : Nat) : Coherent generation (start generation) := by
  refine ⟨rfl, fun id kind device hs => ?_, fun id hi => ?_, fun id device hh => ?_⟩
  · cases hs
  · rcases hi with hr | ⟨_, hm⟩
    · cases hr
    · cases hm
  · cases hh

/-- What the fold says is what the index holds. -/
structure Reproduced (f : Followed) : Prop where
  sound : f.Sound
  complete : ∀ id device, f.index.isCastable id = true → f.index.device id = some device →
    device.isCastable = true → f.state.offers id = true

/-- **Folding the events reproduces the index** exactly in the runs in which
no AirPlay name moves away from a receiver on offer and no RAOP record alone
makes a castable device. -/
theorem folding_reproduces_iff (generation : Nat) (events : List ServiceEvent) :
    ((∀ before, before <+: events →
        (Mealy.run (step generation) (start generation) before).Reproduced) ∧
      ∀ t ∈ Mealy.trace (step generation) (start generation) events, FirstAdded t) ↔
      Mealy.Along (step generation) (fun f event => ¬ Breaks f event) (start generation)
        events := by
  have hi : ∀ f event, Coherent generation f → Coherent generation (step generation f event).1 :=
    fun _ event h => step_coherent h event
  have hc := Mealy.run_invariant hi (start_coherent generation)
  have hf : ∀ t ∈ Mealy.trace (step generation) (start generation) events, FirstAdded t := by
    intro t ht
    obtain ⟨_, _, hp⟩ := append_of_mem ht
    obtain ⟨xs, _, -, hr, -, -⟩ := Mealy.trace_split hp
    rw [hr]
    exact turn_firstAdded (hc xs) t.input
  have ha : (start generation).Sound := fun id ho => by cases ho
  have hst : ∀ f event, Coherent generation f → f.Sound →
      ((step generation f event).1.Sound ↔ ¬ Breaks f event) :=
    fun _ event h hs => step_sound_iff h hs event
  have hn := Mealy.forall_start_iff_along hi hst events (start_coherent generation) ha
  rw [← hn]
  constructor
  · exact fun h before hb => (h.1 before hb).sound
  · exact fun h => ⟨fun before hb => ⟨h before hb, (hc before).offered⟩, hf⟩

/-! ## A name that moves -/

/-- A device that is castable by its own record. -/
def speaker (id : DeviceId) : Device :=
  { id
    addresses := [.v4 0xC0A80002]
    features := SUPPORTS_BUFFERED_AUDIO
    sourceVersion := MIN_AIRPLAY2_VERSION }

/-- A speaker is replaced by another one of the same name. -/
def replaced : List ServiceEvent :=
  [.resolved ⟨.airplay, "Den"⟩ (speaker ⟨1⟩), .resolved ⟨.airplay, "Den"⟩ (speaker ⟨2⟩)]

/-- The index has forgotten the first speaker, and it is still on offer. -/
theorem replaced_speaker_stays_on_offer : let f := Mealy.run (step 1) (start 1) replaced
    f.index.contains ⟨1⟩ = false ∧ f.state.offers ⟨1⟩ = true ∧ ¬ f.Reproduced := by
  have hg : (Mealy.run (step 1) (start 1) replaced).index.isCastable ⟨1⟩ = false := by decide
  have ho : (Mealy.run (step 1) (start 1) replaced).state.offers ⟨1⟩ = true := by decide
  refine ⟨by decide, ho, fun hr => ?_⟩
  rw [hr.sound ⟨1⟩ ho] at hg
  cases hg

/-- A RAOP record alone puts a speaker on offer. -/
example : (Mealy.run (step 1) (start 1)
    [.resolved ⟨.raop, "Den"⟩ (speaker ⟨1⟩)]).state.offers ⟨1⟩ = true := by decide

end Followed

end OpenAirCast.Discovery
