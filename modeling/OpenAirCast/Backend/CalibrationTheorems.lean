/-
Backend.CalibrationTheorems — what normalizing a calibration
keeps.

`shiftedNs` is the delay of a receiver as an integer: what was requested for
it, less the least that was requested. Over any 64-bit requests it fits into
an unsigned word (`shiftedNs_lt`), so the narrowing never fails and the map
is this function on the receivers that connected
(`presentationDelaysFor_spec`). The rest is arithmetic about `shiftedNs`.
-/
import OpenAirCast.Backend.Calibration

namespace OpenAirCast.Backend

open List SortedMap

variable {receivers : List ReceiverId} {connected : List DeviceId}

/-! ## The least request -/

/-- The least delay requested for one of these receivers. -/
def leastNs (profile : CalibrationProfile) (receivers : List ReceiverId) : Int64 :=
  ((receivers.map (requestedDelayNs profile)).min?).getD 0

def shiftedNs (profile : CalibrationProfile) (receivers : List ReceiverId)
    (receiver : ReceiverId) : Int :=
  (requestedDelayNs profile receiver).toInt - (leastNs profile receivers).toInt

variable {recv : ReceiverId}

section

variable (prof : CalibrationProfile)

theorem leastNs_spec (h : receivers ≠ []) :
    (∃ recv ∈ receivers, requestedDelayNs prof recv = leastNs prof receivers) ∧
    ∀ recv ∈ receivers, (leastNs prof receivers).toInt ≤ (requestedDelayNs prof recv).toInt := by
  unfold leastNs
  cases hm : (receivers.map (requestedDelayNs prof)).min? with
  | none =>
    rw [min?_eq_none_iff, map_eq_nil_iff] at hm
    exact absurd hm h
  | some =>
    obtain ⟨hmem, hl⟩ := min?_eq_some_iff.mp hm
    refine ⟨mem_map.mp hmem, fun recv hr => ?_⟩
    exact Int64.le_iff_toInt_le.mp (hl _ (mem_map_of_mem hr))

theorem shiftedNs_nonneg (h : recv ∈ receivers) :
    0 ≤ shiftedNs prof receivers recv := by
  have hl := (leastNs_spec prof (ne_nil_of_mem h)).2 recv h
  unfold shiftedNs
  omega

/-- The whole range of 64-bit requests fits. -/
theorem shiftedNs_lt (receivers : List ReceiverId)
    (recv : ReceiverId) : shiftedNs prof receivers recv < 2 ^ 64 := by
  have hr := (requestedDelayNs prof recv).toInt_lt
  have hl := (leastNs prof receivers).le_toInt
  unfold shiftedNs
  omega

end

/-- The delays are those of another profile when the requests are, but for a
constant. -/
theorem shiftedNs_congr {prof other : CalibrationProfile}
    {shift : Int} (h : ∀ recv ∈ receivers, (requestedDelayNs other recv).toInt
      = (requestedDelayNs prof recv).toInt + shift) :
    ∀ recv ∈ receivers, shiftedNs other receivers recv = shiftedNs prof receivers recv := by
  intro recv hr
  have hne := ne_nil_of_mem hr
  obtain ⟨⟨first, hf, hl⟩, hb⟩ := leastNs_spec prof hne
  obtain ⟨⟨first', hf', hl'⟩, hb'⟩ := leastNs_spec other hne
  have h₁ := h first hf
  have h₂ := h first' hf'
  have h₃ := h recv hr
  have h₄ := hb first' hf'
  have h₅ := hb' first hf
  rw [← hl] at h₄
  rw [← hl'] at h₅
  unfold shiftedNs
  rw [← hl, ← hl']
  omega

/-! ## Normalizing -/

theorem shiftDelays_ok (prof : CalibrationProfile) (receivers : List ReceiverId) :
    ∀ some, (∀ recv ∈ some, recv ∈ receivers) →
      ∃ dlys, shiftDelays prof (leastNs prof receivers) some = .ok dlys ∧
        ∀ recv, dlys.get recv = if recv ∈ some then
          Option.some (UInt64.ofNat (shiftedNs prof receivers recv).toNat) else none
  | [], _ => ⟨.empty, rfl, fun _ => rfl⟩
  | first :: rest, h => by
      obtain ⟨dlys, hr, hg⟩ := shiftDelays_ok prof receivers rest
        (fun recv hc => h recv (mem_cons_of_mem _ hc))
      have hn : 0 ≤ shiftedNs prof receivers first ∧ shiftedNs prof receivers first < 2 ^ 64 :=
        ⟨shiftedNs_nonneg prof (h first mem_cons_self), shiftedNs_lt prof receivers first⟩
      refine ⟨dlys.insert first
        (UInt64.ofNat (shiftedNs prof receivers first).toNat), ?_, fun recv => ?_⟩
      · unfold shiftDelays
        rw [hr]
        exact if_pos hn
      · rw [get_insert, hg]
        by_cases heq : recv = first
        · simp [heq]
        · simp [heq]

/-- The delays come from the differences to the least request alone. -/
theorem shiftDelays_congr {prof other : CalibrationProfile} {least least' : Int64} :
    ∀ receivers : List ReceiverId,
      (∀ recv ∈ receivers, (requestedDelayNs other recv).toInt - least'.toInt
        = (requestedDelayNs prof recv).toInt - least.toInt) →
      shiftDelays other least' receivers = shiftDelays prof least receivers
  | [], _ => rfl
  | first :: rest, h => by
      have hr := shiftDelays_congr rest (fun recv hc => h recv (mem_cons_of_mem _ hc))
      unfold shiftDelays
      rw [h first mem_cons_self, hr]

theorem deviceOf_inj {a b : ReceiverId} (h : deviceOf a = deviceOf b) : a = b := h

/-- Under its device every entry is found again. -/
theorem get_byDevice (recv : ReceiverId) : ∀ ents : List (ReceiverId × UInt64),
    (byDevice ents).get (deviceOf recv) = findEntry recv ents
  | [] => rfl
  | entry :: rest => by
      unfold byDevice
      rw [get_insert, get_byDevice recv rest, findEntry_cons]
      by_cases heq : entry.1 = recv
      · rw [if_pos (congrArg deviceOf heq.symm), if_pos heq]
      · rw [if_neg (fun h => heq (deviceOf_inj h).symm), if_neg heq]

/-! ## For the receivers that connected -/

/-- The receivers that connected, in order and once each. -/
def connectedIds (connected : List DeviceId) : List ReceiverId :=
  sortedIds (connected.map receiverOf).toFinset

theorem mem_connectedIds {dev : DeviceId} :
    receiverOf dev ∈ connectedIds connected ↔ dev ∈ connected := by
  unfold connectedIds
  rw [mem_sortedIds, mem_toFinset, mem_map]
  constructor
  · rintro ⟨other, ho, heq⟩
    exact (show other = dev from heq) ▸ ho
  · exact fun h => ⟨dev, h, rfl⟩

/-- Neither the empty selection nor the reference stands in the way. -/
theorem presentationDelaysFor_eq (hne : connected ≠ []) (cal : CalibrationProfile) :
    presentationDelaysFor connected cal = (shiftDelays cal (leastNs cal (connectedIds connected))
        (connectedIds connected)).map (fun dlys => byDevice dlys.entries) := by
  have ha : (connected.map receiverOf).toFinset ≠ ∅ := by
    obtain ⟨first, hf⟩ := exists_mem_of_ne_nil connected hne
    exact Finset.ne_empty_of_mem (mem_toFinset.mpr (mem_map_of_mem hf))
  have hr : ¬ (cal.referenceReceiver.filter
      (fun reference => decide (reference ∈ (connected.map receiverOf).toFinset))).any
      (fun reference => decide (reference ∉ (connected.map receiverOf).toFinset)) = true := by
    cases cal.referenceReceiver with
    | none => exact Bool.false_ne_true
    | some reference =>
      rw [Option.filter]
      split
      · rename_i hmem
        simpa using hmem
      · exact Bool.false_ne_true
  have hq : shiftDelays { cal with
        referenceReceiver := cal.referenceReceiver.filter
          (fun reference => decide (reference ∈ (connected.map receiverOf).toFinset)) }
      (leastNs cal (connectedIds connected)) (connectedIds connected)
        = shiftDelays cal (leastNs cal (connectedIds connected)) (connectedIds connected) :=
    shiftDelays_congr (connectedIds connected) (fun _ _ => rfl)
  unfold presentationDelaysFor normalizeCalibration
  dsimp only
  rw [if_neg ha, if_neg hr, ← hq]
  change Except.map _ (Except.map _ (shiftDelays _ (leastNs cal (connectedIds connected))
    (connectedIds connected))) = _
  cases shiftDelays _ (leastNs cal (connectedIds connected)) (connectedIds connected) <;> rfl

/-- The map is `shiftedNs` on the devices that connected. -/
theorem presentationDelaysFor_spec (hne : connected ≠ []) (cal : CalibrationProfile) :
    ∃ dlys, presentationDelaysFor connected cal = .ok dlys ∧
      ∀ dev, dlys.get dev = if dev ∈ connected then
        some (UInt64.ofNat (shiftedNs cal (connectedIds connected) (receiverOf dev)).toNat)
        else none := by
  obtain ⟨dlys, ho, hg⟩ := shiftDelays_ok cal (connectedIds connected)
    (connectedIds connected) (fun _ h => h)
  refine ⟨byDevice dlys.entries, ?_, fun dev => ?_⟩
  · rw [presentationDelaysFor_eq hne, ho]
    rfl
  · have hf : (byDevice dlys.entries).get dev = dlys.get (receiverOf dev) :=
      get_byDevice (receiverOf dev) dlys.entries
    rw [hf, hg]
    simp only [mem_connectedIds]

/-- Profiles that request the same, but for a constant, give the same
delays. -/
theorem presentationDelaysFor_congr (hne : connected ≠ [])
    {cal other : CalibrationProfile} {shift : Int}
    (h : ∀ dev ∈ connected, (requestedDelayNs other (receiverOf dev)).toInt
      = (requestedDelayNs cal (receiverOf dev)).toInt + shift) :
    presentationDelaysFor connected other = presentationDelaysFor connected cal := by
  have hs : ∀ recv ∈ connectedIds connected, (requestedDelayNs other recv).toInt
      = (requestedDelayNs cal recv).toInt + shift := by
    intro recv hr
    exact h (deviceOf recv) (mem_connectedIds.mp hr)
  rw [presentationDelaysFor_eq hne, presentationDelaysFor_eq hne]
  exact congrArg _ (shiftDelays_congr (connectedIds connected) (shiftedNs_congr hs))

theorem toNat_shiftedNs (prof : CalibrationProfile) (h : recv ∈ receivers) :
    ((UInt64.ofNat (shiftedNs prof receivers recv).toNat).toNat : Int)
      = shiftedNs prof receivers recv := by
  have hn := shiftedNs_nonneg prof h
  have hlt := shiftedNs_lt prof receivers recv
  rw [UInt64.toNat_ofNat_of_lt']
  · exact Int.toNat_of_nonneg hn
  · show _ < 2 ^ 64
    omega

/-- Calibration keeps what the user tuned: for any requests it succeeds, has
exactly the connected devices as keys and 0 as its least value, and keeps
the differences of the requests. Nothing but the requests of the connected
devices has an influence, and a constant added to them has none. -/
theorem calibration_keeps_tuning (connected : List DeviceId) (calibration : CalibrationProfile)
    (hne : connected ≠ []) :
    ∃ delays, presentationDelaysFor connected calibration = .ok delays ∧
      (∀ device, device ∈ delays.keys ↔ device ∈ connected) ∧
      (∃ device ∈ connected, delays.get device = some 0) ∧
      (∀ a b x y, delays.get a = some x → delays.get b = some y → (x.toNat : Int) - y.toNat
          = (requestedDelayNs calibration (receiverOf a)).toInt
            - (requestedDelayNs calibration (receiverOf b)).toInt) ∧
      (∀ other : CalibrationProfile,
        (∀ device ∈ connected, other.requestedRelativeDelayNs.get (receiverOf device)
          = calibration.requestedRelativeDelayNs.get (receiverOf device)) →
        presentationDelaysFor connected other = .ok delays) ∧
      (∀ (other : CalibrationProfile) (shift : Int),
        (∀ device ∈ connected, (requestedDelayNs other (receiverOf device)).toInt
          = (requestedDelayNs calibration (receiverOf device)).toInt + shift) →
        presentationDelaysFor connected other = .ok delays) := by
  obtain ⟨delays, ho, hg⟩ := presentationDelaysFor_spec hne calibration
  have hmem : ∀ device x, delays.get device = some x → receiverOf device ∈ connectedIds connected ∧
      (x.toNat : Int) = shiftedNs calibration (connectedIds connected) (receiverOf device) := by
    intro device x hx
    rw [hg] at hx
    split at hx
    · rename_i hd
      have hr := mem_connectedIds.mpr hd
      cases hx
      exact ⟨hr, toNat_shiftedNs calibration hr⟩
    · cases hx
  refine ⟨delays, ho, fun device => ?_, ?_, fun a b x y hx hy => ?_, fun other hs => ?_,
    fun other shift hh => ?_⟩
  · rw [SortedMap.mem_keys, hg]
    split <;> simp_all
  · have hi : connectedIds connected ≠ [] := by
      obtain ⟨_, hf⟩ := exists_mem_of_ne_nil connected hne
      exact ne_nil_of_mem (mem_connectedIds.mpr hf)
    obtain ⟨⟨recv, hr, hl⟩, -⟩ := leastNs_spec calibration hi
    have hd : deviceOf recv ∈ connected := mem_connectedIds.mp hr
    have hz : shiftedNs calibration (connectedIds connected) (receiverOf (deviceOf recv)) = 0 := by
      show shiftedNs calibration (connectedIds connected) recv = 0
      unfold shiftedNs
      rw [hl]
      exact Int.sub_self _
    refine ⟨deviceOf recv, hd, ?_⟩
    rw [hg, if_pos hd, hz]
    rfl
  · rw [(hmem a x hx).2, (hmem b y hy).2]
    unfold shiftedNs
    omega
  · rw [← ho]
    have hz : ∀ device ∈ connected, (requestedDelayNs other (receiverOf device)).toInt
        = (requestedDelayNs calibration (receiverOf device)).toInt + 0 := by
      intro device hd
      unfold requestedDelayNs
      rw [hs device hd, Int.add_zero]
    exact presentationDelaysFor_congr hne hz
  · rw [← ho]
    exact presentationDelaysFor_congr hne hh

/-- Receiver 1, the reference, did not connect. -/
def tuned : CalibrationProfile where
  referenceReceiver := some ⟨1⟩
  requestedRelativeDelayNs :=
    ((SortedMap.empty.insert ⟨1⟩ (-50000000)).insert ⟨2⟩ 4000000).insert ⟨3⟩ 6000000

theorem calibration_keeps_tuning_survivors :
    ∃ delays, presentationDelaysFor [⟨2⟩, ⟨3⟩] tuned = .ok delays ∧
      delays.entries = [(⟨2⟩, 0), (⟨3⟩, 2000000)] ∧
      ∀ device, device ∈ delays.keys ↔ device ∈ ([⟨2⟩, ⟨3⟩] : List DeviceId) := by
  obtain ⟨delays, ho, hk, -⟩ := calibration_keeps_tuning [⟨2⟩, ⟨3⟩] tuned (by decide)
  refine ⟨delays, ho, ?_, hk⟩
  have hv : (presentationDelaysFor [⟨2⟩, ⟨3⟩] tuned).map (·.entries)
      = .ok [(⟨2⟩, 0), (⟨3⟩, 2000000)] := by rfl
  rw [ho] at hv
  exact Except.ok.inj hv

end OpenAirCast.Backend
