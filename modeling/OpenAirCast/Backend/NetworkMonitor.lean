/-
Backend.NetworkMonitor — one edge for a burst of interface
changes, from `NetworkMonitor::start` in `backend/network.rs`.

The callback of the system puts pulses into a bounded queue and never blocks.
The task takes the first pulse of a burst, absorbs what comes in the two
seconds after it, samples the local bindings and publishes whether they moved.
`task` is one operation of the task: one `recv`, one `try_recv`, one look at the
timer, the sample, or the send.

Translation notes.

* A pulse says nothing but that it is there, so the queue is a number.
* A timer expires at its deadline or later.
* The queue of edges has no other sender.
* `DefaultHasher` digests what was written to it, word by word.
* Left out is the end of the task, which takes a cancellation or a closed
  channel.
-/
import OpenAirCast.Backend.Recovery
import Mathlib.Data.UInt

namespace OpenAirCast.Backend

abbrev BindingFingerprint : Type := UInt64

class DefaultHasher where
  finish : List Nat → UInt64

/-- A row of the address table. -/
structure UnicastIpAddressRow where
  /-- `IpDadStatePreferred`. -/
  preferred : Bool
  interfaceLuid : UInt64
  onLinkPrefixLength : UInt8
  family : UInt16
  /-- One word of an IPv4 address, the bytes of an IPv6 address, else nothing. -/
  address : List Nat

structure BindingAccumulator where
  xor : UInt64 := 0
  sum : UInt64 := 0
  count : UInt64 := 0

namespace BindingAccumulator

def absorb (a : BindingAccumulator) (rowDigest : UInt64) : BindingAccumulator :=
  ⟨a.xor ^^^ rowDigest, a.sum + rowDigest, a.count + 1⟩

def finish [DefaultHasher] (a : BindingAccumulator) : BindingFingerprint :=
  DefaultHasher.finish [a.xor.toNat, a.sum.toNat, a.count.toNat]

end BindingAccumulator

namespace IpHelperBindings

def rowDigest [DefaultHasher] (row : UnicastIpAddressRow) : UInt64 :=
  DefaultHasher.finish (row.interfaceLuid.toNat :: row.onLinkPrefixLength.toNat ::
    row.family.toNat :: row.address)

/-- Of the table, if the system has one to give. -/
def fingerprint [DefaultHasher] : Option (List UnicastIpAddressRow) → BindingFingerprint
  | none => 0
  | some table =>
    BindingAccumulator.finish
      ((table.filter (·.preferred)).foldl (fun a row => a.absorb (rowDigest row)) {})

end IpHelperBindings

namespace NetworkMonitor

/-- Two seconds. -/
def NETWORK_SETTLE : Nat := seconds 2

def PULSE_CAPACITY : Nat := 32

inductive Phase where
  /-- Before its first turn. -/
  | spawned
  /-- Before the `recv` that opens a window. -/
  | idle
  /-- In the loop that takes what is queued. -/
  | absorbing (deadline : Instant)
  /-- At the `select!` on the deadline and the queue. -/
  | settling (deadline : Instant)
  /-- The window is closed. -/
  | sampling
  | publishing (localBindingChanged : Bool)
  deriving DecidableEq

end NetworkMonitor

open NetworkMonitor

structure NetworkMonitor where
  now : Instant
  /-- What a sample would find. -/
  bindings : BindingFingerprint
  pulses : Nat := 0
  phase : Phase := .spawned
  /-- The timer of the window has. -/
  expired : Bool := false
  last : BindingFingerprint := 0
  /-- Of the queue of edges. -/
  capacity : Nat
  out : List Bool := []

namespace NetworkMonitor

inductive Event where
  /-- The callback of the system. -/
  | pulse
  /-- The local bindings change, or stay. -/
  | bind (bindings : BindingFingerprint)
  | tick (duration : Nat)
  /-- The timer of the window expires, if it is due. -/
  | expire
  | task
  /-- The owner of the edges takes one. -/
  | take
  deriving DecidableEq

inductive Observed where
  | silent
  /-- A window begins. -/
  | opened
  | sampled (bindings : BindingFingerprint)
  | published (localBindingChanged : Bool)

variable (s : NetworkMonitor)

/-- One operation of the task. Where it has to wait, nothing changes. -/
def task : NetworkMonitor × Observed :=
  match s.phase with
  | .spawned => ({ s with last := s.bindings, phase := .idle }, .sampled s.bindings)
  | .idle =>
    if 0 < s.pulses then
      ({ s with
         pulses := s.pulses - 1
         phase := .absorbing (s.now + NETWORK_SETTLE)
         expired := false },
        .opened)
    else (s, .silent)
  | .absorbing deadline =>
    if 0 < s.pulses then ({ s with pulses := s.pulses - 1 }, .silent)
    else ({ s with phase := .settling deadline }, .silent)
  | .settling deadline =>
    if s.expired then ({ s with phase := .sampling }, .silent)
    else if 0 < s.pulses then
      ({ s with pulses := s.pulses - 1, phase := .absorbing deadline }, .silent)
    else (s, .silent)
  | .sampling =>
    ({ s with last := s.bindings, phase := .publishing (s.bindings != s.last) },
      .sampled s.bindings)
  | .publishing changed =>
    if s.out.length < s.capacity then
      ({ s with out := s.out ++ [changed], phase := .idle }, .published changed)
    else (s, .silent)

/-- The task has to wait. -/
def Waiting : Prop :=
  match s.phase with
  | .spawned | .absorbing _ | .sampling => False
  | .idle => s.pulses = 0
  | .settling _ => s.expired = false ∧ s.pulses = 0
  | .publishing _ => s.capacity ≤ s.out.length

/-- A window is open, and its time is over. -/
def due : Bool :=
  match s.phase with
  | .absorbing deadline | .settling deadline => decide (deadline ≤ s.now)
  | .spawned | .idle | .sampling | .publishing _ => false

def step (s : NetworkMonitor) : Event → NetworkMonitor × Observed
  | .pulse => (if s.pulses < PULSE_CAPACITY then { s with pulses := s.pulses + 1 } else s, .silent)
  | .bind bindings => ({ s with bindings }, .silent)
  | .tick duration => ({ s with now := s.now + duration }, .silent)
  | .expire => ({ s with expired := s.expired || s.due }, .silent)
  | .task => s.task
  | .take => ({ s with out := s.out.tail }, .silent)

/-- The monitor as it is started. -/
def start (now : Instant) (bindings : BindingFingerprint) (capacity : Nat) : NetworkMonitor :=
  { now, bindings, capacity }

end NetworkMonitor

end OpenAirCast.Backend
