/-
Backend.Command — commands, their receipts and the actor that
takes them in, from `backend/command.rs` and the command loop of
`backend/controller.rs`.

`Actor` is the controller seen from the shell. The controller drains its
queue in batches, runs the scalar commands of a batch before the others
and keeps the receipts of its group starts until the batch is reconciled;
a Stop later in the batch takes the start out of an earlier group
activation. To the shell this means: the run intent follows the commands
in admission order, receipts are answered in any order, and a group start
that a Stop overtook is answered without a floor. What the snapshots say
meanwhile is the controller's own affair and enters every publication as
an argument.

Commands no shell adapter sends (auto-connect, retry, calibration, system
edges) are left out.
-/
import OpenAirCast.Backend.Model

namespace OpenAirCast.Backend

/-! ## Receipts -/

inductive CommandFailure where
  | rejected
  | persistence
  deriving DecidableEq

structure CommandConfirmation where
  /-- First revision guaranteed to include the operation's state. -/
  revision : Nat
  error : Option CommandFailure
  /-- Earliest session attempt that may answer a successful group start. -/
  sessionGenerationFloor : Option Nat
  deriving DecidableEq

/-- Names the one-shot channel of a confirmed command: its command id. -/
abbrev ReceiptId := Nat

/-- What `try_recv` finds in a one-shot channel. -/
inductive Oneshot where
  | empty
  | sent (confirmation : CommandConfirmation)
  | closed
  deriving DecidableEq

structure CommandReceipt where
  receiver : ReceiptId
  confirmed : Option CommandConfirmation := none

inductive ReceiptState where
  | pending
  | completed (error : Option CommandFailure)
  | lost
  deriving DecidableEq

namespace CommandReceipt

variable (receipt : CommandReceipt)

def sessionGenerationFloor (projectedRevision : Nat) : Option Nat :=
  (receipt.confirmed.filter (fun confirmation =>
    confirmation.revision ≤ projectedRevision)).bind (·.sessionGenerationFloor)

/-- What an observed confirmation says at a revision. -/
def settle (confirmation : CommandConfirmation) (projectedRevision : Nat) : ReceiptState :=
  if projectedRevision < confirmation.revision then .pending
  else .completed confirmation.error

/-- `poll`, with what the channel holds at that moment. -/
def poll (channel : Oneshot) (projectedRevision : Nat) : CommandReceipt × ReceiptState :=
  match receipt.confirmed with
  | some confirmation => (receipt, settle confirmation projectedRevision)
  | none =>
    match channel with
    | .empty => (receipt, .pending)
    | .closed => (receipt, .lost)
    | .sent confirmation =>
      ({ receipt with confirmed := some confirmation }, settle confirmation projectedRevision)

end CommandReceipt

/-! ## Commands -/

inductive BackendCommand where
  | runListeningTest (guard : ListeningTestGuard)
  | applyDesiredMembers (members : Finset ReceiverId)
  | setDesiredMembers (members : Finset ReceiverId)
  | setRunIntent (intent : RunIntent)
  | setMasterVolume (volume : Volume)
  | setMuted (muted : Bool)
  | setReceiverLevel (receiver : ReceiverId) (level : Volume)
  | setAudioEndpoint (preference : AudioEndpointPreference)
  | setLatencyPreset (preset : LatencyPreset)
  | saveGroup (id : Option GroupId) (name : String) (members : List SavedGroupMember)
  | deleteGroup (id : GroupId)
  | activateSavedGroup (id : GroupId) (start : Bool)
  | shutdown

/-- `CommandEnvelope`; the confirmation is the sender half of the channel
the receipt names. -/
structure CommandEnvelope where
  id : Nat
  command : BackendCommand
  confirmation : Option ReceiptId

namespace CommandEnvelope

variable (envelope : CommandEnvelope)

/-- `matches!(command, ActivateSavedGroup { start: true, .. })`. -/
def startsGroup : Bool :=
  match envelope.command with
  | .activateSavedGroup _ start => start
  | _ => false

/-- The run intent a command sets by itself. -/
def intent : Option RunIntent :=
  match envelope.command with
  | .setRunIntent intent => some intent
  | _ => none

/-- A group activation that does not start anything. -/
def loadsGroup : Bool :=
  match envelope.command with
  | .activateSavedGroup _ start => !start
  | _ => false

/-- A later volume of the same batch replaces this one. -/
def isVolume : Bool :=
  match envelope.command with
  | .setMasterVolume _ => true
  | _ => false

end CommandEnvelope

/-! ## The actor -/

/-- A receipt whose command has run and whose answer is still owed. -/
structure Owed where
  receipt : ReceiptId
  error : Option CommandFailure
  /-- A group start that took effect and has not been overtaken. -/
  startsGroup : Bool
  isVolume : Bool

structure Actor where
  /-- Newest value of the watch channel. -/
  published : DeviceSnapshot := {}
  /-- Admitted commands, oldest first. -/
  queue : List CommandEnvelope := []
  owed : List Owed := []
  runIntent : RunIntent := .stopped
  /-- Whether the launch still owes its persisted auto-connect. -/
  autoConnectArmed : Bool := false
  /-- A confirmation names a revision that is not out yet. -/
  unpublished : Bool := false
  channels : ReceiptId → Oneshot := fun _ => .empty

namespace Actor

inductive Move where
  /-- Carry out the next command, with its outcome. -/
  | take (error : Option CommandFailure)
  /-- Answer a receipt; a group start gets the attempt it may be answered
  by. -/
  | answer (receipt : ReceiptId) (floor : Nat)
  /-- A newer volume has displaced this one, and its receipt is dropped. -/
  | displace (receipt : ReceiptId)
  | publish (next : DeviceSnapshot)
  | autoConnect

/-- The receipt a command that has run leaves. -/
def owes (envelope : CommandEnvelope) (error : Option CommandFailure) : List Owed :=
  envelope.confirmation.toList.map (fun receipt =>
    { receipt, error
      startsGroup := envelope.startsGroup && error.isNone
      isVolume := envelope.isVolume })

variable (actor : Actor)

/-- One command takes effect on the run intent. -/
def perform (envelope : CommandEnvelope) (error : Option CommandFailure) :
    Actor :=
  match envelope.intent with
  | some intent =>
    { actor with
      runIntent := intent
      autoConnectArmed := false
      owed := if intent = .stopped then
          actor.owed.map (fun owed => { owed with startsGroup := false })
        else actor.owed }
  | none =>
    { actor with
      runIntent := if envelope.startsGroup && error.isNone then .running else actor.runIntent
      autoConnectArmed := actor.autoConnectArmed && !(envelope.loadsGroup && error.isNone)
      owed := actor.owed ++ owes envelope error }

def take (error : Option CommandFailure) : Actor :=
  match actor.queue with
  | [] => actor
  | envelope :: rest => { actor with queue := rest }.perform envelope error

variable (receipt : ReceiptId)

def setChannel (value : Oneshot) : Actor :=
  { actor with channels := fun id => if id = receipt then value else actor.channels id }

def answer (floor : Nat) : Actor :=
  match actor.owed.find? (fun owed => owed.receipt = receipt) with
  | none => actor
  | some owed =>
    { actor with
        owed := actor.owed.filter (fun other => other.receipt ≠ receipt)
        unpublished := true }.setChannel receipt (.sent
      { revision := actor.published.revision + 1
        error := owed.error
        sessionGenerationFloor := if owed.startsGroup then some floor else none })

def displace : Actor :=
  match actor.owed.find? (fun owed => owed.receipt = receipt) with
  | none => actor
  | some owed =>
    if owed.isVolume then
      { actor with owed := actor.owed.filter (fun other => other.receipt ≠ receipt)
      }.setChannel receipt .closed
    else actor

def publish (next : DeviceSnapshot) : Actor :=
  { actor with
    published := { next with revision := actor.published.revision + 1 }
    unpublished := false }

/-- The one automatic start of a launch. Any run intent the user sent first
has disarmed it. -/
def autoConnect : Actor :=
  if actor.autoConnectArmed then
    { actor with autoConnectArmed := false, runIntent := .running }
  else actor

def step (actor : Actor) : Move → Actor
  | .take error => actor.take error
  | .answer receipt floor => actor.answer receipt floor
  | .displace receipt => actor.displace receipt
  | .publish next => actor.publish next
  | .autoConnect => actor.autoConnect

/-- Nothing is queued, unanswered or unpublished. -/
def isIdle : Bool :=
  actor.queue.isEmpty && actor.owed.isEmpty && !actor.unpublished
    && decide (actor.published.runIntent = actor.runIntent)

end Actor

end OpenAirCast.Backend
