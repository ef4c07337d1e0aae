/-
Backend.Recovery — the retry ladder, the rejoin limiter and the
receiver state machine, from `backend/recovery.rs`.

A receiver's machine is the sole author of the lifecycle its row shows.
`RetryState` holds the backoff deadlines, `RejoinRestartLimiter` since when
each receiver has been discoverable and when the last automatic restart
was.

Translation notes.

* An `Instant` and a `SystemTime` are nanoseconds since an arbitrary
  origin, a `Duration` is nanoseconds.
* `Duration::mul_f64` is applied to 1, 2, 4, 8, 16 or 30 seconds and a
  whole percentage between 80 and 120. The product is a whole number of
  nanoseconds, and the float arithmetic is off by far less than half of
  one, so its rounding returns exactly that number.
* A rejected transition panics in debug builds. This is the release build:
  the machine keeps its state and the rejection is returned.
-/
import OpenAirCast.Backend.Session

namespace OpenAirCast.Backend

/-- Nanoseconds since an arbitrary origin. -/
abbrev Instant := Nat

/-- `Duration::from_secs`. -/
def seconds (n : Nat) : Nat := n * 1000000000

/-- Largest value of a `u32`. -/
def U32_MAX : Nat := 2 ^ 32 - 1

/-- Largest value of a `u64`. -/
def U64_MAX : Nat := 2 ^ 64 - 1

/-- `saturating_add(1)` below the given bound. -/
def saturatingSucc (bound n : Nat) : Nat := min (n + 1) bound

/-! ## The retry ladder -/

def MAX_RETRY_DELAY : Nat := seconds 30

def JITTER_HASH_PRIME : Nat := 0x100000001b3

/-- `RetryPolicy`, with the values of `RetryPolicy::default`. -/
structure RetryPolicy where
  base : List Nat := [1, 2, 4, 8, 16, 30].map seconds
  jitterPercent : Nat := 20
  healthyResetAfter : Nat := seconds 60

/-- `ReceiverId::storage_key`: twelve uppercase hexadecimal digits. -/
def storageKey (id : ReceiverId) : List Char :=
  [40, 32, 24, 16, 8, 0].flatMap (fun shift => hexOctet ((id.octets.toNat >>> shift) % 256))

/-- `scale_with_hash`: the base changed by a percentage the hash picks. -/
def scaleWithHash (base hash jitterPercent : Nat) : Nat :=
  min (base * (100 - jitterPercent + hash % (2 * jitterPercent + 1)) / 100) MAX_RETRY_DELAY

namespace RetryPolicy

def delay (policy : RetryPolicy) (receiver : ReceiverId) (attempt : Nat) : Nat :=
  let base := policy.base.getD (min attempt (policy.base.length - 1)) 0
  let hash := (storageKey receiver).foldl
    (fun value byte => (value * JITTER_HASH_PRIME + byte.toNat) % 2 ^ 64) attempt
  scaleWithHash base hash policy.jitterPercent

end RetryPolicy

structure ReceiverRetryEntry where
  attempt : Nat := 0
  nextRetry : Option Instant := none
  streamingSince : Option Instant := none

structure RetryState where
  receivers : SortedMap ReceiverId ReceiverRetryEntry := .empty

namespace RetryState

variable (retry : RetryState) (receiver : ReceiverId)

/-- `entry(receiver).or_default()`. -/
def entry : ReceiverRetryEntry :=
  (retry.receivers.get receiver).getD {}

variable (policy : RetryPolicy) (now : Instant)

/-- The deadline the failure earned. -/
def noteFailure (receiver : ReceiverId) : RetryState × Instant :=
  let attempt := saturatingSucc U32_MAX (retry.entry receiver).attempt
  let deadline := now + policy.delay receiver (attempt - 1)
  (⟨retry.receivers.insert receiver { attempt, nextRetry := some deadline }⟩, deadline)

/-- Arms the healthy window, or resets the counter once it has passed. -/
def noteStreaming (receiver : ReceiverId) : RetryState :=
  let entry := retry.entry receiver
  ⟨retry.receivers.insert receiver (match entry.streamingSince with
    | none => { entry with streamingSince := some now }
    | some since =>
      if policy.healthyResetAfter ≤ now - since then
        { entry with attempt := 0, nextRetry := none }
      else entry)⟩

def clearDeadline : RetryState :=
  match retry.receivers.get receiver with
  | none => retry
  | some entry => ⟨retry.receivers.insert receiver { entry with nextRetry := none }⟩

def manualRetry : RetryState :=
  retry.clearDeadline receiver

def attempt : Nat := (retry.entry receiver).attempt

def nextRetry : Option Instant :=
  (retry.receivers.get receiver).bind (·.nextRetry)

end RetryState

/-! ## The rejoin limiter -/

def REJOIN_ONLINE_STABLE_FOR : Nat := seconds 2

def REJOIN_RESTART_SPACING : Nat := seconds 30

structure RejoinRestartLimiter where
  onlineSince : SortedMap ReceiverId Instant := .empty
  lastRejoinRestart : Option Instant := none

namespace RejoinRestartLimiter

variable (limiter : RejoinRestartLimiter) (now : Instant) (receiver : ReceiverId)

/-- Opens the discoverability window; an open one keeps its start. -/
def noteDiscovered :
    RejoinRestartLimiter :=
  match limiter.onlineSince.get receiver with
  | some _ => limiter
  | none => { limiter with onlineSince := limiter.onlineSince.insert receiver now }

def noteLost : RejoinRestartLimiter :=
  { limiter with onlineSince := limiter.onlineSince.erase receiver }

def rejoinEligibleAt : Option Instant :=
  (limiter.onlineSince.get receiver).map (· + REJOIN_ONLINE_STABLE_FOR)

def mayRejoin : Bool :=
  (limiter.rejoinEligibleAt receiver).any (fun at_ => decide (at_ ≤ now))

def groupAllowedAt : Option Instant :=
  limiter.lastRejoinRestart.map (· + REJOIN_RESTART_SPACING)

def noteRestart : RejoinRestartLimiter :=
  { limiter with lastRejoinRestart := some now }

end RejoinRestartLimiter

/-! ## The receiver machine -/

inductive ReceiverRole where
  | single
  | primary
  | secondary
  deriving DecidableEq

/-- `ReceiverLifecycle` with its payloads; `ReceiverLifecycle` of
`Backend.Model` is what the shell reads of it. -/
inductive Lifecycle where
  | discovered
  | connecting (attempt : Nat)
  | settingUp (role : ReceiverRole) (phase : SetupPhase)
  | ready (role : ReceiverRole)
  | streaming (role : ReceiverRole)
  | retryWaiting (attempt : Nat) (retryAt : Instant)
  | unavailable
  | failed (retryable : Bool) (error : String)
  deriving DecidableEq

namespace Lifecycle

def flat : Lifecycle → ReceiverLifecycle
  | discovered => .discovered
  | connecting _ => .connecting
  | settingUp _ _ => .settingUp
  | ready _ => .ready
  | streaming _ => .streaming
  | retryWaiting _ _ => .retryWaiting
  | unavailable => .unavailable
  | failed _ _ => .failed

/-- The edges of the lifecycle. -/
def permitted : Lifecycle → Lifecycle → Bool
  | _, unavailable => true
  | unavailable, discovered => true
  | discovered, connecting _ => true
  | connecting _, settingUp _ _ => true
  | settingUp _ _, settingUp _ _ => true
  | settingUp _ _, ready _ => true
  | ready _, streaming _ => true
  | connecting _, failed _ _ => true
  | settingUp _ _, failed _ _ => true
  | ready _, failed _ _ => true
  | streaming _, failed _ _ => true
  | failed true _, retryWaiting _ _ => true
  | retryWaiting _ _, connecting _ => true
  | failed _ _, connecting _ => true
  | _, _ => false

/-- `owned_by_generation`. -/
def ownedByGeneration : Lifecycle → Bool
  | connecting _ | settingUp _ _ | ready _ | streaming _ => true
  | discovered | retryWaiting _ _ | unavailable | failed _ _ => false

def isRetryWaiting : Lifecycle → Bool
  | retryWaiting _ _ => true
  | _ => false

/-- Where a receiver that nothing uses belongs. -/
def idle (serviceAvailable : Bool) : Lifecycle :=
  if serviceAvailable then discovered else unavailable

end Lifecycle

structure ReceiverMachine where
  state : Lifecycle
  attempt : Nat := 0
  nextRetry : Option Instant := none
  lastError : Option String := none
  generation : Nat := 0
  serviceAvailable : Bool
  role : Option ReceiverRole := none

namespace ReceiverMachine

def new (serviceAvailable : Bool) : ReceiverMachine :=
  { state := .idle serviceAvailable, serviceAvailable }

variable (machine : ReceiverMachine)

def awaitingRejoin : Bool :=
  match machine.state with
  | .discovered | .retryWaiting _ _ | .failed true _ => true
  | _ => false

def inBackoff : Bool :=
  match machine.state with
  | .retryWaiting _ _ | .failed _ _ => true
  | _ => false

/-- The machine after an attempted move, and whether it was allowed. -/
def transition (to_ : Lifecycle) : ReceiverMachine × Bool :=
  if machine.state = to_ then (machine, true)
  else if machine.state.permitted to_ then ({ machine with state := to_ }, true)
  else (machine, false)

def setServiceAvailable (available : Bool) : ReceiverMachine × Bool :=
  let machine := { machine with serviceAvailable := available }
  if available then
    if machine.state = .unavailable then machine.transition .discovered else (machine, true)
  else if machine.state.ownedByGeneration then
    (machine, true) -- deferred until the generation releases the receiver
  else { machine with role := none }.transition .unavailable

def beginGeneration (generation attempt : Nat) : ReceiverMachine × Bool :=
  ({ machine with generation, attempt, role := none, state := .connecting attempt }, true)

variable (role : ReceiverRole)

/-- Setup progress as the transport observes it. -/
def enterSetup (phase : SetupPhase) : ReceiverMachine × Bool :=
  { machine with role := some role }.transition (.settingUp role phase)

/-- Walks the chain of edges up to `Streaming`. -/
def enterStreaming : ReceiverMachine × Bool :=
  if machine.state = .streaming role then (machine, true)
  else
    let machine :=
      if machine.state.ownedByGeneration then machine
      else { machine with state := .connecting machine.attempt }
    let machine := match machine.state with
      | .connecting _ => (machine.transition (.settingUp role .startAudio)).1
      | _ => machine
    let machine := match machine.state with
      | .settingUp _ _ => (machine.transition (.ready role)).1
      | _ => machine
    { machine with role := some role }.transition (.streaming role)

def fail (retryable : Bool) (error : String) : ReceiverMachine × Bool :=
  ({ machine with
      lastError := some error
      role := none
      state := .failed retryable error }, true)

def waitRetry (attempt : Nat) (retryAt : Instant) : ReceiverMachine × Bool :=
  { machine with attempt, nextRetry := some retryAt }.transition (.retryWaiting attempt retryAt)

def retryNow : ReceiverMachine × Bool :=
  let machine := { machine with nextRetry := none }
  if machine.inBackoff then machine.transition (.connecting machine.attempt)
  else (machine, true)

def leaveSession : ReceiverMachine :=
  if machine.state.ownedByGeneration then
    { machine with role := none, state := .idle machine.serviceAvailable }
  else machine

/-- The receiver is no longer wanted. -/
def release : ReceiverMachine :=
  if machine.state = .unavailable then machine
  else { machine with role := none, nextRetry := none, state := .idle machine.serviceAvailable }

end ReceiverMachine

end OpenAirCast.Backend
