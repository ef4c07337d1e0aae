/-
Audio.JitterTheorems — jitter statistics are those of the most
recent samples.

`Window` says what the ring shows of the samples so far; a call keeps it
(`Window.sample`, `Window.reset`), so that the snapshot reads the last ones
out of it (`Window.read`).
-/
import OpenAirCast.Audio.Jitter
import OpenAirCast.Lib.Ring
import Mathlib.Algebra.BigOperators.Group.Multiset.Basic
import Mathlib.Data.List.Induction
import Mathlib.Data.Multiset.Sort

namespace OpenAirCast.Audio

open List UInt64

/-! ## The window -/

variable (calls : List JitterCall)

/-- The signed samples of the calls, in their order. -/
def samples : List Int64 :=
  calls.filterMap fun
    | .recordJitter signedNs => some signedNs
    | .recordDeadlineReset => none

def absolute (signedNs : Int64) : Nat := signedNs.toInt.natAbs

theorem unsignedAbs_toNat (x : Int64) : (unsignedAbs x).toNat = absolute x := by
  have hl := x.le_toInt
  have hh := x.toInt_lt
  unfold unsignedAbs absolute
  rw [toNat_ofNat_of_lt']
  unfold size
  omega

/-- The ring after these calls. -/
structure Window (ring : SchedulerJitterRing) (calls : List JitterCall) : Prop where
  writeIndex : ring.writeIndex.toNat = (samples calls).length
  jitterCount : ring.jitterCount.toNat = (samples calls).length
  eventCount : ring.eventCount.toNat = calls.length
  deadlineResetsTotal : ring.deadlineResetsTotal.toNat + (samples calls).length = calls.length
  lastSignedNs : ∀ x ∈ (samples calls).getLast?, ring.lastSignedNs = x
  recent : ∀ j x, (samples calls)[j]? = some x →
    (samples calls).length ≤ j + SCHEDULER_JITTER_RING_CAPACITY →
      ring.absoluteNs (jitterSlot j) = unsignedAbs x

theorem window_start : Window {} [] := ⟨rfl, rfl, rfl, rfl, by simp [samples], by simp [samples]⟩

theorem toNat_succ {n : UInt64} {m : Nat} (h : n.toNat ≤ m) (hm : m + 1 < 2 ^ 63) :
    (n + 1).toNat = n.toNat + 1 := by
  rw [UInt64.toNat_add]
  exact Nat.mod_eq_of_lt (by simp; omega)

theorem length_samples_le : (samples calls).length ≤ calls.length :=
  length_filterMap_le _ _

variable {calls : List JitterCall} {ring : SchedulerJitterRing}

theorem Window.reset (h : Window ring calls) (hlen : calls.length + 1 < 2 ^ 63) :
    Window ring.recordDeadlineReset (calls ++ [.recordDeadlineReset]) := by
  have hs : samples (calls ++ [.recordDeadlineReset]) = samples calls := by simp [samples]
  have ht := h.deadlineResetsTotal
  unfold SchedulerJitterRing.recordDeadlineReset
  refine ⟨?_, ?_, ?_, ?_, ?_, ?_⟩ <;> simp only [hs, length_append, length_singleton]
  · exact h.writeIndex
  · exact h.jitterCount
  · rw [toNat_succ h.eventCount.le hlen, h.eventCount]
  · rw [toNat_succ (by omega) hlen]
    omega
  · exact h.lastSignedNs
  · exact h.recent

theorem Window.sample (h : Window ring calls) (hlen : calls.length + 1 < 2 ^ 63) (x : Int64) :
    Window (ring.recordJitter x) (calls ++ [.recordJitter x]) := by
  have hs : samples (calls ++ [.recordJitter x]) = samples calls ++ [x] := by simp [samples]
  have ht := h.deadlineResetsTotal
  have hle := length_samples_le calls
  unfold SchedulerJitterRing.recordJitter
  refine ⟨?_, ?_, ?_, ?_, ?_, ?_⟩ <;> simp only [hs, length_append, length_singleton]
  · rw [toNat_succ (h.writeIndex ▸ hle) hlen, h.writeIndex]
  · rw [toNat_succ (h.jitterCount ▸ hle) hlen, h.jitterCount]
  · rw [toNat_succ h.eventCount.le hlen, h.eventCount]
  · omega
  · simp
  · intro j y hj hr
    rw [h.writeIndex]
    by_cases hl : j = (samples calls).length
    · subst hl
      rw [getElem?_concat_length] at hj
      cases hj
      exact Function.update_self ..
    · have hlt := (List.getElem?_eq_some_iff.mp hj).1
      rw [length_append, length_singleton] at hlt
      rw [getElem?_append_left (by omega)] at hj
      have hne : jitterSlot j ≠ jitterSlot (samples calls).length := fun heq =>
        Ring.mod_ne_of_recent (by omega) (by omega) (congrArg Fin.val heq)
      rw [Function.update_of_ne hne]
      exact h.recent j y hj (by omega)

/-- The ring after the calls. -/
def ringAfter (calls : List JitterCall) : SchedulerJitterRing :=
  calls.foldl SchedulerJitterRing.call {}

/-- The ring holds the window of all calls until a counter wraps. -/
theorem window_run (hlen : calls.length < 2 ^ 63) : Window (ringAfter calls) calls := by
  induction calls using reverseRecOn with
  | nil => exact window_start
  | append_singleton calls call ih =>
    rw [length_append, length_singleton] at hlen
    have h := ih (by omega)
    unfold ringAfter at h ⊢
    rw [foldl_append]
    cases call with
    | recordJitter x => exact h.sample hlen x
    | recordDeadlineReset => exact h.reset hlen

/-! ## The snapshot -/

variable (calls)

/-- The last of them, as many as the ring has places. -/
def recentSamples : List Int64 :=
  (samples calls).drop ((samples calls).length - SCHEDULER_JITTER_RING_CAPACITY)

/-- As many places back and one round on is the same place. -/
theorem jitterSlot_back {n len i : Nat} (h : len ≤ n) :
    jitterSlot (n + SCHEDULER_JITTER_RING_CAPACITY - len + i) = jitterSlot (n - len + i) := by
  have heq : n + SCHEDULER_JITTER_RING_CAPACITY - len + i
      = n - len + i + SCHEDULER_JITTER_RING_CAPACITY := by
    omega
  exact Fin.ext (by simp only [jitterSlot, heq, Nat.add_mod_right])

theorem length_recentSamples : (recentSamples calls).length
    = min (samples calls).length SCHEDULER_JITTER_RING_CAPACITY := by
  rw [recentSamples, length_drop]
  generalize SCHEDULER_JITTER_RING_CAPACITY = capacity
  omega

theorem getElem?_recentSamples (i : Nat) : (recentSamples calls)[i]?
    = (samples calls)[(samples calls).length - (recentSamples calls).length + i]? := by
  have hb : (samples calls).length - (recentSamples calls).length
      = (samples calls).length - SCHEDULER_JITTER_RING_CAPACITY := by
    rw [length_recentSamples]
    generalize SCHEDULER_JITTER_RING_CAPACITY = capacity
    omega
  rw [hb, recentSamples, getElem?_drop]

variable {calls}

/-- What the snapshot reads out of the ring. -/
theorem Window.read (h : Window ring calls) :
    (List.range (recentSamples calls).length).map (fun k => ring.absoluteNs (jitterSlot
      (ring.writeIndex.toNat + SCHEDULER_JITTER_RING_CAPACITY - (recentSamples calls).length + k)))
      = (recentSamples calls).map unsignedAbs := by
  have hlen := length_recentSamples calls
  have hle := hlen ▸ Nat.min_le_left _ _
  have hc := hlen ▸ Nat.min_le_right _ _
  apply ext_getElem
  · simp
  · intro i hi _
    rw [length_map, length_range] at hi
    have hd := getElem?_recentSamples calls i
    rw [getElem?_eq_getElem hi] at hd
    rw [getElem_map, getElem_map, getElem_range, h.writeIndex, jitterSlot_back hle]
    refine h.recent _ _ hd.symm ?_
    generalize SCHEDULER_JITTER_RING_CAPACITY = capacity at hc ⊢
    omega

/-- Mean, 95th percentile and maximum. The rank of the percentile is
`⌈0.95 * n⌉`. -/
structure Statistics (values : Multiset Nat) (mean p95 maximum : Nat) : Prop where
  mean : mean = values.sum / values.card
  p95 : ∃ rank, 19 * values.card ≤ 20 * rank ∧ 20 * rank < 19 * values.card + 20 ∧
    (values.sort (· ≤ ·))[rank - 1]? = some p95
  maximum : maximum ∈ values ∧ ∀ v ∈ values, v ≤ maximum

theorem sum_toNat_le (xs : List UInt64) : (xs.map toNat).sum ≤ xs.length * (2 ^ 64 - 1) := by
  induction xs with
  | nil => rfl
  | cons x xs ih =>
    have hx := x.toNat_lt
    rw [map_cons, sum_cons, length_cons, Nat.succ_mul]
    omega

/-- What the snapshot says of samples that it has read and sorted. -/
theorem statistics_of_sorted {xs : List UInt64} (hne : xs ≠ []) :
    let sorted := xs.mergeSort fun a b => decide (a ≤ b)
    ∃ p95 maximum, sorted[(19 * xs.length + 19) / 20 - 1]? = some p95 ∧
      sorted.getLast? = some maximum ∧
      Statistics (xs.map toNat) (ofNat ((sorted.map toNat).sum / xs.length)).toNat
        p95.toNat maximum.toNat := by
  intro sorted
  have hlen : sorted.length = xs.length := length_mergeSort _
  have hpos : 0 < xs.length := length_pos_iff.mpr hne
  have hs : (Multiset.ofList (xs.map toNat)).sort (· ≤ ·) = sorted.map toNat := by
    rw [Multiset.coe_sort]
    exact (map_mergeSort fun a _ b _ => by simp [le_iff_toNat_le]).symm
  have hr : (19 * xs.length + 19) / 20 - 1 < sorted.length := by omega
  have hl : sorted ≠ [] := length_pos_iff.mp (by omega)
  refine ⟨sorted[(19 * xs.length + 19) / 20 - 1], sorted.getLast hl,
    getElem?_eq_getElem hr, getLast?_eq_some_getLast hl, ?_,
    ⟨(19 * xs.length + 19) / 20, ?_, ?_, ?_⟩, ?_, ?_⟩
  · have hm : (sorted.map toNat).sum = (xs.map toNat).sum := ((mergeSort_perm xs _).map _).sum_eq
    have hf : (xs.map toNat).sum / xs.length < size :=
      Nat.lt_of_le_of_lt (Nat.div_le_of_le_mul (sum_toNat_le xs)) (by decide)
    rw [hm, toNat_ofNat_of_lt' hf, Multiset.sum_coe, Multiset.coe_card, length_map]
  · rw [Multiset.coe_card, length_map]
    omega
  · rw [Multiset.coe_card, length_map]
    omega
  · rw [hs, getElem?_map, getElem?_eq_getElem hr]
    rfl
  · exact Multiset.mem_coe.mpr (mem_map_of_mem ((mergeSort_perm xs _).mem_iff.mp (getLast_mem hl)))
  · intro v hv
    rw [← Multiset.sort_eq (Multiset.ofList _) (· ≤ ·), hs, Multiset.mem_coe] at hv
    obtain ⟨x, hx, rfl⟩ := mem_map.mp hv
    have hp := Multiset.pairwise_sort (Multiset.ofList (xs.map toNat)) (· ≤ ·)
    rw [hs, pairwise_map] at hp
    have : Std.Refl fun a b : UInt64 => a.toNat ≤ b.toNat := ⟨fun _ => le_rfl⟩
    exact hp.rel_getLast hx

/-- The statistics of a snapshot are those of the last samples, and there are
none exactly when there is no sample. -/
theorem snapshot_statistics {calls : List JitterCall} (hlen : calls.length < 2 ^ 63) :
    let snapshot := (ringAfter calls).snapshot
    snapshot.sampleCount.toNat = calls.length ∧
    snapshot.deadlineResetsTotal.toNat + (samples calls).length = calls.length ∧
    snapshot.lastSignedJitterNs = (samples calls).getLast? ∧
    (samples calls = [] → snapshot.meanAbsoluteJitterNs = none ∧
      snapshot.p95AbsoluteJitterNs = none ∧ snapshot.maximumAbsoluteJitterNs = none) ∧
    (samples calls ≠ [] → ∃ mean p95 maximum,
      snapshot.meanAbsoluteJitterNs = some mean ∧ snapshot.p95AbsoluteJitterNs = some p95 ∧
      snapshot.maximumAbsoluteJitterNs = some maximum ∧
      Statistics ((recentSamples calls).map absolute) mean.toNat p95.toNat maximum.toNat) := by
  have h := window_run hlen
  have hv : min (ringAfter calls).jitterCount.toNat SCHEDULER_JITTER_RING_CAPACITY
      = (recentSamples calls).length := by
    rw [length_recentSamples, h.jitterCount]
  refine ⟨h.eventCount, h.deadlineResetsTotal, ?_, fun hn => ?_, fun ho => ?_⟩
  · cases hl : (samples calls).getLast? with
    | none =>
      have hz : ¬ 0 < (ringAfter calls).jitterCount := by
        rw [lt_iff_toNat_lt, h.jitterCount, getLast?_eq_none_iff.mp hl]
        exact Nat.lt_irrefl 0
      exact if_neg hz
    | some x =>
      have hpos : 0 < (ringAfter calls).jitterCount := by
        rw [lt_iff_toNat_lt, h.jitterCount]
        exact length_pos_of_mem (mem_of_getLast? hl)
      exact (if_pos hpos).trans (congrArg some (h.lastSignedNs x hl))
  · have hz : (recentSamples calls).length = 0 := by rw [recentSamples, hn]; rfl
    simp only [SchedulerJitterRing.snapshot, hv, hz, if_pos, and_self]
  · have hpos : (recentSamples calls).length ≠ 0 := by
      rw [length_recentSamples]
      have hlen := length_pos_iff.mpr ho
      unfold SCHEDULER_JITTER_RING_CAPACITY
      omega
    have hne : (recentSamples calls).map unsignedAbs ≠ [] := fun hnil =>
      hpos (by rw [← length_map unsignedAbs, hnil]; rfl)
    obtain ⟨p95, maximum, hp95, hm, hs⟩ := statistics_of_sorted hne
    have ha : (toNat ∘ unsignedAbs) = absolute := funext unsignedAbs_toNat
    simp only [length_map] at hp95 hm hs
    rw [map_map, ha] at hs
    simp only [SchedulerJitterRing.snapshot, hv, h.read]
    rw [if_neg hpos, if_neg hpos, if_neg hpos]
    exact ⟨_, p95, maximum, rfl, hp95, hm, hs⟩

def mostNegative : List JitterCall := [.recordJitter Int64.minValue, .recordDeadlineReset]

theorem snapshot_statistics_mostNegative :
    (ringAfter mostNegative).snapshot.sampleCount.toNat = 2 ∧ ∃ mean p95 maximum,
      (ringAfter mostNegative).snapshot.maximumAbsoluteJitterNs = some maximum ∧
      Statistics (Multiset.ofList [9223372036854775808]) mean p95 maximum.toNat := by
  obtain ⟨hc, -, -, -, hs⟩ := @snapshot_statistics mostNegative (by decide)
  obtain ⟨mean, p95, maximum, -, -, hm, h⟩ := hs (by decide)
  have ho : (recentSamples mostNegative).map absolute = [9223372036854775808] := by decide
  exact ⟨hc, _, _, maximum, hm, ho ▸ h⟩

end OpenAirCast.Audio
