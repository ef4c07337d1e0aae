/-
Audio.Jitter — how far the sender thread is off its schedule,
from `airplay-audio/diagnostics.rs`: `SchedulerJitterRecorder`.

One thread records and reads. Counters wrap, as atomic ones do.
-/
import Mathlib.Algebra.Ring.Nat
import Mathlib.Logic.Function.Basic

namespace OpenAirCast.Audio

def SCHEDULER_JITTER_RING_CAPACITY : Nat := 1024

/-- `i % SCHEDULER_JITTER_RING_CAPACITY`. -/
def jitterSlot (i : Nat) : Fin SCHEDULER_JITTER_RING_CAPACITY :=
  ⟨i % SCHEDULER_JITTER_RING_CAPACITY, Nat.mod_lt _ (by decide)⟩

structure SchedulerJitterRing where
  absoluteNs : Fin SCHEDULER_JITTER_RING_CAPACITY → UInt64 := fun _ => 0
  writeIndex : UInt64 := 0
  /-- Samples and deadline resets. -/
  eventCount : UInt64 := 0
  jitterCount : UInt64 := 0
  lastSignedNs : Int64 := 0
  deadlineResetsTotal : UInt64 := 0

structure SchedulerJitterSnapshot where
  sampleCount : UInt64
  lastSignedJitterNs : Option Int64
  meanAbsoluteJitterNs : Option UInt64
  p95AbsoluteJitterNs : Option UInt64
  maximumAbsoluteJitterNs : Option UInt64
  deadlineResetsTotal : UInt64

/-- `i64::unsigned_abs`. -/
def unsignedAbs (x : Int64) : UInt64 := UInt64.ofNat x.toInt.natAbs

namespace SchedulerJitterRing

variable (ring : SchedulerJitterRing)

def recordJitter (signedNs : Int64) : SchedulerJitterRing :=
  { ring with
    absoluteNs :=
      Function.update ring.absoluteNs (jitterSlot ring.writeIndex.toNat) (unsignedAbs signedNs)
    writeIndex := ring.writeIndex + 1
    lastSignedNs := signedNs
    jitterCount := ring.jitterCount + 1
    eventCount := ring.eventCount + 1 }

def recordDeadlineReset : SchedulerJitterRing :=
  { ring with
    deadlineResetsTotal := ring.deadlineResetsTotal + 1
    eventCount := ring.eventCount + 1 }

/-- An index out of range gives `none`, where the source panics. -/
def snapshot : SchedulerJitterSnapshot :=
  let valid := min ring.jitterCount.toNat SCHEDULER_JITTER_RING_CAPACITY
  let start := ring.writeIndex.toNat + SCHEDULER_JITTER_RING_CAPACITY - valid
  let sorted := ((List.range valid).map fun k => ring.absoluteNs (jitterSlot (start + k))).mergeSort
    (fun a b => decide (a ≤ b))
  let sum := (sorted.map UInt64.toNat).sum
  let rank := (19 * valid + 19) / 20
  { sampleCount := ring.eventCount
    lastSignedJitterNs := if 0 < ring.jitterCount then some ring.lastSignedNs else none
    meanAbsoluteJitterNs := if valid = 0 then none else some (UInt64.ofNat (sum / valid))
    p95AbsoluteJitterNs := if valid = 0 then none else sorted[rank - 1]?
    maximumAbsoluteJitterNs := if valid = 0 then none else sorted.getLast?
    deadlineResetsTotal := ring.deadlineResetsTotal }

end SchedulerJitterRing

inductive JitterCall where
  | recordJitter (signedNs : Int64)
  | recordDeadlineReset

namespace SchedulerJitterRing

def call (ring : SchedulerJitterRing) : JitterCall → SchedulerJitterRing
  | .recordJitter signedNs => ring.recordJitter signedNs
  | .recordDeadlineReset => ring.recordDeadlineReset

end SchedulerJitterRing

end OpenAirCast.Audio
