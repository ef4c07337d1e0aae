/-
App.PreferencesWorker — the worker that writes the settings file.

One `Pass` of `run_worker`'s loop reads the clock, may find the pending write
due, else waits for a command until the deadline. The clock's readings, what
`recv` returned and whether `save_atomic` succeeds are the pass's inputs.
-/
import OpenAirCast.App.Event

namespace OpenAirCast

def STANDARD_DEBOUNCE_MS : Nat := 500
def GEOMETRY_DEBOUNCE_MS : Nat := 1000

/-- `PreferencesCommand::Save`. -/
structure PreferencesSave where
  generation : GenerationId
  value : Preferences

structure PendingSave extends PreferencesSave where
  deadlineMs : Nat

def differsOnlyInWindow (previous next : Preferences) : Bool :=
  previous.hotkey == next.hotkey && previous.theme == next.theme && previous.locale == next.locale
    && previous.advancedInformation == next.advancedInformation
    && previous.lastPage == next.lastPage && previous.closeToTray == next.closeToTray
    && previous.launchAtStartup == next.launchAtStartup

structure DebounceState where
  pending : Option PendingSave := none

namespace DebounceState

variable (d : DebounceState) (nowMs : Nat)

/-- An offer older than what is pending is dropped, value and timer alike. -/
def offer (save : PreferencesSave) (reference : Option Preferences) : DebounceState :=
  if d.pending.any (fun pending => save.generation < pending.generation) then d
  else
    let geometryOnly := match d.pending.map (·.value) with
      | some pendingValue => differsOnlyInWindow pendingValue save.value
      | none => reference.any (fun reference => differsOnlyInWindow reference save.value)
    let delay := if geometryOnly then GEOMETRY_DEBOUNCE_MS else STANDARD_DEBOUNCE_MS
    { pending := some { save with deadlineMs := nowMs + delay } }

def isDue : Bool :=
  d.pending.any (fun pending => pending.deadlineMs ≤ nowMs)

/-- `take_pending`: the save that is taken, and the state without it. -/
def takePending : Option PreferencesSave × DebounceState :=
  (d.pending.map (·.toPreferencesSave), {})

def takeDue : Option PreferencesSave × DebounceState :=
  if d.isDue nowMs then d.takePending else (none, d)

end DebounceState

/-- What `run_worker` keeps, and the settings file: the value it holds, if it
holds one. -/
structure PreferencesWorker where
  debounce : DebounceState := {}
  lastCommitted : Option Preferences := none
  file : Option Preferences
  stopped : Bool := false

/-- What the wait for a command ended with, and when. -/
inductive PreferencesReceived where
  | save (nowMs : Nat) (save : PreferencesSave)
  | timeout (nowMs : Nat)
  | flushAndShutdown
  | disconnected

structure PreferencesPass where
  topMs : Nat
  received : PreferencesReceived
  saves : Bool := true

/-- What a pass did: the save it received, the write it attempted, whether
that replaced the file, the outcome it sent and the flush it acknowledged. -/
structure PreferencesReport where
  received : Option PreferencesSave := none
  attempt : Option PreferencesSave := none
  written : Bool := false
  events : List PreferencesEvent := []
  acknowledged : Bool := false

namespace PreferencesWorker

variable (w : PreferencesWorker)

/-- `commit`, where there is something to write. -/
def commit (saves : Bool) :
    Option PreferencesSave → PreferencesWorker × PreferencesReport
  | none => (w, {})
  | some save =>
    ({ w with file := if saves then some save.value else w.file },
      { attempt := some save
        written := saves
        events := [if saves then .persisted save.generation else .persistFailed save.generation] })

def commitDue (nowMs : Nat) (saves : Bool) : PreferencesWorker × PreferencesReport :=
  let (due, debounce) := w.debounce.takeDue nowMs
  let (w, report) := { w with debounce := debounce }.commit saves due
  ({ w with lastCommitted :=
      if report.written then due.map (·.value) else w.lastCommitted }, report)

/-- The last write before the worker exits. -/
def flush (saves acknowledges : Bool) : PreferencesWorker × PreferencesReport :=
  let (pending, debounce) := w.debounce.takePending
  let (w, report) := { w with debounce := debounce, stopped := true }.commit saves pending
  (w, { report with acknowledged := acknowledges })

/-- One pass of the loop. Without a pending write `recv` never times out, and
`commitDue` finds nothing due. -/
def step (w : PreferencesWorker) (pass : PreferencesPass) : PreferencesWorker × PreferencesReport :=
  if w.stopped then (w, {})
  else if w.debounce.isDue pass.topMs then w.commitDue pass.topMs pass.saves
  else match pass.received with
  | .timeout nowMs => w.commitDue nowMs pass.saves
  | .save nowMs save =>
    let reference := (w.debounce.pending.map (·.value)).or w.lastCommitted
    ({ w with debounce := w.debounce.offer nowMs save reference }, { received := some save })
  | .flushAndShutdown => w.flush pass.saves true
  | .disconnected => w.flush pass.saves false

end PreferencesWorker

end OpenAirCast
